import StreamOtter.StreamClientSteps

/-!
# Adoptions, registrations and frames

What the client does that `Moves` leaves out: it adopts the connection an attempt has
opened, tracks a new subscription, and hands a frame to a subscription.  `Stepped` sums up
what one event can do.
-/

namespace StreamOtter

namespace StreamClient

/-- What `#adopt` changes, up to the new state. -/
structure Adopts (connection : ConnectionId) (hello : Hello) (s s' : StreamClient) : Prop where
  sound : s'.Sound
  opened : s.closed = false
  working : (s.connections connection).ready = .resolved hello
  identity : s'.identityKey = some hello.identityKey
  adopted : ∀ other, s'.connection = some other → other = connection
  held : s'.connection = some connection ∨ (s'.connections connection).closed = true
  previous : ∀ other, s.connection = some other → other ≠ connection →
    (s'.connections other).closed = true
  resolved : ∀ other hello, (s.connections other).ready = .resolved hello →
    (s'.connections other).ready = .resolved hello
  lost : ∀ other, (s.connections other).closed = true → (s'.connections other).closed = true
  terminal : ∀ id, (s.managed id).terminal = true → (s'.managed id).terminal = true
  subset : s'.subscriptions ⊆ s.subscriptions
  left : ∀ id ∈ s.subscriptions, id ∉ s'.subscriptions → (s'.managed id).terminal = true
  switched : ∀ key, s.identityKey = some key → key ≠ hello.identityKey →
    ∀ id ∈ s.subscriptions, (s'.managed id).terminal = true
  grown : ∃ more, s'.trace = s.trace ++ .adopted connection hello.identityKey :: more ∧
    ∀ o ∈ more, o.plain = true
  disciplined : (∀ timer ∈ s.timers, timer.2 ≠ .reconnect) → s.Disciplined → s'.Disciplined
  permanent : ¬ s'.Undone → s.Permanent → s'.Permanent ∧ s'.closed = false

section Adoption

variable {a : Application} (ha : Honest a) {s : StreamClient}

theorem plug_eq (connection : ConnectionId) (key : String) (s : StreamClient) :
    ∃ connections, s.plug a connection key = { s with
        connection := some connection
        connections := connections
        trace := s.trace ++ [.adopted connection key] } ∧
      ∀ other, connections other = { s.connections other with
        closed := (s.connections other).closed ||
          decide (s.connection = some other ∧ other ≠ connection) } := by
  unfold plug
  dsimp only
  split
  · case h_1 hnone => exact ⟨s.connections, rfl, by simp [hnone]⟩
  · case h_2 previous hsome =>
      split
      · case isTrue hsame =>
          refine ⟨s.connections, rfl, ?_⟩
          intro other
          have hnot : ¬ (s.connection = some other ∧ other ≠ connection) := by
            rintro ⟨hother, hne⟩
            rw [hsome] at hother
            exact hne ((Option.some.inj hother).symm.trans hsame)
          simp [hnot]
      · case isFalse hne =>
          rw [closeConnection_other (fun heq => hne (Option.some.inj heq).symm)]
          refine ⟨_, rfl, ?_⟩
          intro other
          have hmarked := markClosed_connections (s := s) previous other
          refine Eq.trans hmarked ?_
          have hiff : other = previous ↔ s.connection = some other ∧ other ≠ connection := by
            rw [hsome]
            constructor
            · rintro rfl
              exact ⟨rfl, hne⟩
            · rintro ⟨heq, -⟩
              exact (Option.some.inj heq).symm
          simp only [hiff]

/-- The attempt is over, and its connection in the place of the previous one. -/
theorem sound_plug {id : AttemptId} {attempt : ConnectAttempt} {connection : ConnectionId}
    {key : String} {connecting : Bool} {generation : ℕ} (h : s.Sound)
    (hmem : s.attempts id = some attempt) (hawaits : attempt.awaits = some connection)
    (hopen : s.closed = false) (hle : s.generation ≤ generation) :
    (plug a connection key { s.finish id with
      connecting := connecting, generation := generation }).Sound := by
  have htidy : (s.finish id).Tidy := tidy_finish h
  obtain ⟨connections, heq, hconnections⟩ := plug_eq (a := a) connection key
    { s.finish id with connecting := connecting, generation := generation }
  rw [heq]
  refine ⟨{ htidy with ended := ?_, bounded := ?_, past := ?_, refused := ?_ }, ?_⟩
  · exact fun other hdone => List.mem_append_left _ (htidy.ended other hdone)
  · exact fun other attempt hattempt => Nat.le_trans (htidy.bounded other attempt hattempt) hle
  · intro hclosed
    rw [show s.closed = true from hclosed] at hopen
    cases hopen
  · intro other error hrejected
    simp only [hconnections] at hrejected ⊢
    simp [htidy.refused other error hrejected]
  · -- An open connection is the new one, the previous one, or still awaited.
    intro other hborn hother
    simp only [hconnections, Bool.or_eq_false_iff, decide_eq_false_iff_not] at hother
    by_cases hnew : other = connection
    · exact .inl (congrArg some hnew.symm)
    · have hdifferent : attempt.awaits ≠ some other := by
        rw [hawaits]
        exact fun heq => hnew (Option.some.inj heq).symm
      rcases awaited_finish hmem hdifferent (h.awaited other hborn hother.1) with hprevious | hwaiting
      · exact absurd ⟨hprevious, hnew⟩ hother.2
      · exact .inr hwaiting

include ha

/-- On an account switch, every subscription ends. -/
theorem Honest.switches {orderly firm : Prop} (h : s.Sound) (hopen : s.closed = false) :
    s.Moves orderly firm (s.switchIdentity a) ∧
      (¬ (s.switchIdentity a).Undone → (s.switchIdentity a).closed = false) ∧
      ∀ id ∈ s.subscriptions, ((s.switchIdentity a).managed id).terminal = true := by
  have hsited : Sound { s with site := some .switching } := { h with }
  have hended := ha.terminateAll .unauthenticated true hsited
  have hover := ha.terminated_all .unauthenticated true hsited
  have huntracked := hended.andThen fun h => yields_untrack h fun id hmem =>
    hover id (hended.subset hmem)
  have hannounced := ha.announce _ huntracked.sound
  have hyields := huntracked.trans hannounced
  refine ⟨?_, ?_, ?_⟩
  · exact moves_answering h fun _ => hyields.moves
  · exact fun hnot => answering_open hyields rfl hopen hnot
  · intro id hmem
    exact hannounced.terminal id (hover id hmem)

theorem Honest.identifies (hello : Hello) (h : s.Sound) (hopen : s.closed = false) :
    ∃ s', s.identify a hello = { s' with
        identityKey := some hello.identityKey
        everConnected := true
        lastConnectionError := none } ∧
      (∀ orderly firm, s.Moves orderly firm s') ∧ (¬ s'.Undone → s'.closed = false) ∧
      ∀ key, s.identityKey = some key → key ≠ hello.identityKey →
        ∀ id ∈ s.subscriptions, (s'.managed id).terminal = true := by
  unfold identify
  dsimp only
  split
  · have hswitched : s.Moves True True (s.switchIdentity a) ∧
        (¬ (s.switchIdentity a).Undone → (s.switchIdentity a).closed = false) ∧
        ∀ id ∈ s.subscriptions, ((s.switchIdentity a).managed id).terminal = true :=
      ha.switches h hopen
    exact ⟨_, rfl, fun _ _ => (ha.switches h hopen).1, hswitched.2.1, fun _ _ _ => hswitched.2.2⟩
  · case isFalse hsame =>
      refine ⟨s, rfl, fun _ _ => .refl h, fun _ => hopen, ?_⟩
      intro key hkey hne
      simp [hkey, hne] at hsame

/-- `#adopt`, called for the attempt that has opened the connection. -/
theorem Honest.adopts {id : AttemptId} {attempt : ConnectAttempt} {connection : ConnectionId}
    {hello : Hello} {connecting : Bool} {generation : ℕ} (h : s.Sound)
    (hmem : s.attempts id = some attempt) (hawaits : attempt.awaits = some connection)
    (hworking : (s.connections connection).ready = .resolved hello) (hopen : s.closed = false)
    (hle : s.generation ≤ generation)
    (hrest : ∀ other waiting, (s.finish id).attempts other = some waiting →
      waiting.kind = .connect → waiting.generation ≠ generation) :
    s.Adopts connection hello ((plug a connection hello.identityKey { s.finish id with
      connecting := connecting, generation := generation }).identify a hello) := by
  have hplugged : (plug a connection hello.identityKey { s.finish id with
      connecting := connecting, generation := generation }).Sound :=
    sound_plug h hmem hawaits hopen hle
  obtain ⟨connections, heq, hconnections⟩ := plug_eq (a := a) connection hello.identityKey
    { s.finish id with connecting := connecting, generation := generation }
  rw [heq] at hplugged ⊢
  obtain ⟨s', hs', hmoves, hstays, hswitched⟩ := ha.identifies hello hplugged hopen
  rw [hs']
  have hmoved := hmoves True True
  have hheld := hmoved.dropped connection rfl
  have hlost : ∀ other, (s.connections other).closed = true → (s'.connections other).closed = true := by
    intro other hclosed
    apply hmoved.lost
    simp only [hconnections]
    simp [show ((s.finish id).connections other).closed = true from hclosed]
  constructor
  case sound => exact { hmoved.sound with }
  case opened => exact hopen
  case working => exact hworking
  case identity => rfl
  case adopted => exact fun other hother => (Option.some.inj (hmoved.connection other hother)).symm
  case held => exact hheld
  case previous =>
    intro other hother hne
    apply hmoved.lost
    have hother' : (s.finish id).connection = some other := hother
    simp [hconnections, hother', hne]
  case resolved =>
    intro other hello hresolved
    apply hmoved.resolved
    simp only [hconnections]
    exact hresolved
  case lost => exact hlost
  case terminal => exact hmoved.terminal
  case subset => exact hmoved.subset
  case left => exact hmoved.left
  case switched => exact hswitched
  case grown =>
    obtain ⟨more, htrace, hplain⟩ := hmoved.grown
    refine ⟨more, ?_, hplain⟩
    refine Eq.trans htrace ?_
    rw [List.append_assoc]
    rfl
  case disciplined =>
    intro hidle hdisciplined
    have hbefore : Disciplined { s.finish id with
        connecting := connecting
        generation := generation
        connection := some connection
        connections := connections
        trace := s.trace ++ [.adopted connection hello.identityKey] } := by
      constructor
      · exact fun timer htimer hkind => absurd hkind (hidle timer htimer)
      · exact fun other waiting hother hcurrent hkind =>
          absurd hcurrent (hrest other waiting hother hkind)
      · intro hrecord
        rcases List.mem_append.mp hrecord with hrecord | hrecord
        · exact hdisciplined.alone hrecord
        · simp at hrecord
    have hafter := hmoved.disciplined trivial hbefore
    exact ⟨hafter.rests, hafter.apart, hafter.alone⟩
  case permanent =>
    intro hnot hpermanent
    have hbefore : Permanent { s.finish id with
        connecting := connecting
        generation := generation
        connection := some connection
        connections := connections
        trace := s.trace ++ [.adopted connection hello.identityKey] } :=
      hpermanent.of_open hopen rfl rfl (by simp [ClientRecord.isClosed]) hpermanent.held
    have hafter := hmoved.permanent trivial hnot hbefore
    have hopen' := hstays hnot
    refine ⟨?_, hopen'⟩
    exact hafter.of_open hopen' rfl (List.append_nil _).symm (by simp) hafter.held

/-- What `#adopt` does once it knows the identity. -/
theorem Honest.moves_adopted {orderly firm : Prop} (connection : ConnectionId) (now : ℤ)
    (authExpiresAt : Option ℤ) (h : s.Sound) (hopen : firm → ¬ s.Undone → s.closed = false) :
    s.Moves orderly firm (((s.answering (.connected (refreshArms now authExpiresAt))
      (StreamClient.setState a .connected)).scheduleRefresh now authExpiresAt).attachAll a
        connection) := by
  have hset : s.Moves orderly firm (s.answering (.connected (refreshArms now authExpiresAt))
      (StreamClient.setState a .connected)) :=
    moves_answering h fun h => ha.moves_setState .connected h hopen
  have hscheduled : s.Moves orderly firm ((s.answering (.connected (refreshArms now authExpiresAt))
      (StreamClient.setState a .connected)).scheduleRefresh now authExpiresAt) := by
    refine hset.andThen fun hsound => moves_scheduleRefresh hsound ?_
    intro harms hf hnot
    obtain ⟨more, htrace, -⟩ := hset.grown
    have hbefore := hopen hf fun hundone => hnot (hundone.grows ⟨more, htrace⟩)
    have hsited : Sound { s with site := some (.connected (refreshArms now authExpiresAt)) } :=
      { h with }
    have hyields := ha.setState .connected hsited
      (fun hclosed => absurd (hbefore.symm.trans hclosed) (by simp))
      (fun _ hshut => absurd hbefore hshut.not_open)
    exact answering_open hyields harms hbefore hnot
  exact hscheduled.andThen (ha.moves_attachAll connection)

end Adoption

/-- Whether the event makes the client adopt a connection. -/
def adopting (s : StreamClient) : ClientEvent → Bool
  | .resume id _ =>
      match s.attempts id with
      | none => false
      | some attempt =>
          (attempt.awaits.any fun connection => (s.connections connection).connected) &&
            attempt.generation = s.generation && !s.closed &&
            (attempt.kind = .connect || !s.suspended)
  | _ => false

/-- What one event can do. -/
inductive Stepped (event : ClientEvent) (s s' : StreamClient) : Prop
  | moves (h : s.Moves s.Disciplined s.Permanent s')
  | registers (id : SubscriptionId) (mid : StreamClient) (hbefore : s.Moves s.Disciplined s.Permanent mid)
      (hopen : mid.closed = false) (hlive : (mid.managed id).terminal = false)
      (hafter : (mid.track id).Moves s.Disciplined s.Permanent s')
  | adopts (connection : ConnectionId) (hello : Hello) (mid : StreamClient)
      (hadopting : s.adopting event = true) (hadopted : s.Adopts connection hello mid)
      (hafter : mid.Moves s.Disciplined s.Permanent s')
  | dispatches (connection : ConnectionId) (id : SubscriptionId)
      (hconnection : s.connection = some connection) (htracked : id ∈ s.subscriptions)
      (hafter : (s.emit (.dispatched connection id)).Moves s.Disciplined s.Permanent s')
  | delivers (connection : ConnectionId) (id : SubscriptionId)
      (hconnection : s.connection = some connection) (htracked : id ∈ s.subscriptions)
      (hlive : (s.managed id).terminal = false)
      (hafter : ((s.emit (.dispatched connection id)).emit (.delivered id connection)).Moves
        s.Disciplined s.Permanent s')

section Events

variable {a : Application} (ha : Honest a) {s : StreamClient}

include ha

/-- An attempt that is current runs in an open client, and a `#connect` without a
connection. -/
theorem Honest.moves_failed {id : AttemptId} {attempt : ConnectAttempt} (error : StreamError) (now : ℤ)
    (h : s.Sound) (hmem : s.attempts id = some attempt)
    (hdone : ∀ connection, attempt.awaits = some connection →
      (s.connections connection).closed = true ∨ s.connection = some connection) :
    s.Moves s.Disciplined s.Permanent ((s.finish id).rejected a attempt error now) := by
  have hfinished : s.Moves s.Disciplined s.Permanent (s.finish id) := moves_finish h hmem hdone
  refine hfinished.andThen fun h' => ha.moves_rejected attempt error now h' ?_ ?_
  · intro hcurrent
    by_contra hclosed
    exact h.past (by simpa [finish] using hclosed) id attempt hmem hcurrent
  · exact fun hdisciplined hcurrent hkind => hdisciplined.apart id attempt hmem hcurrent hkind

/-- A connection that came too late is closed by the attempt that opened it. -/
theorem Honest.moves_discard {id : AttemptId} {attempt : ConnectAttempt} {connection : ConnectionId}
    {orderly firm : Prop} (h : s.Sound) (hmem : s.attempts id = some attempt)
    (hawaits : attempt.awaits = some connection) :
    s.Moves orderly firm ((s.finish id).closeConnection a connection) ∧
      (((s.finish id).closeConnection a connection).connections connection).closed = true := by
  by_cases hadopted : s.connection = some connection
  · have hfinished : s.Moves orderly firm (s.finish id) := by
      apply moves_finish h hmem
      intro other hother
      rw [hawaits] at hother
      exact .inr (Option.some.inj hother ▸ hadopted)
    exact ⟨hfinished.andThen (ha.moves_closeConnection connection),
      ha.closes connection hfinished.sound⟩
  · have hother : (s.finish id).connection ≠ some connection := hadopted
    rw [closeConnection_other hother]
    have hmarked : s.Moves orderly firm (s.markClosed connection) := moves_markClosed connection h
    have hmem' : (s.markClosed connection).attempts id = some attempt := hmem
    refine ⟨hmarked.andThen fun h => moves_finish h hmem' ?_, by simp [markClosed]⟩
    intro other hother
    rw [hawaits] at hother
    obtain rfl := Option.some.inj hother
    exact .inl (by simp [markClosed])

/-- The continuation of an attempt whose handshake is over adopts the connection, or the
connection is closed. -/
theorem Honest.resume_cases {id : AttemptId} {attempt : ConnectAttempt} {connection : ConnectionId}
    (now : ℤ) (h : s.Sound) (hmem : s.attempts id = some attempt)
    (hawaits : attempt.awaits = some connection) (hready : (s.connections connection).ready ≠ .pending) :
    s.Moves s.Disciplined s.Permanent (s.resume a id attempt connection now) ∧
        ((s.resume a id attempt connection now).connections connection).closed = true ∨
      s.adopting (.resume id now) = true ∧ ∃ hello mid, s.Adopts connection hello mid ∧
        mid.Moves s.Disciplined s.Permanent (s.resume a id attempt connection now) := by
  have hfailed : ∀ error, (s.connections connection).closed = true →
      s.Moves s.Disciplined s.Permanent ((s.finish id).rejected a attempt error now) ∧
        (((s.finish id).rejected a attempt error now).connections connection).closed = true := by
    intro error hclosed
    have hmoves := ha.moves_failed error now h hmem fun other hother => by
      rw [hawaits] at hother
      exact .inl (Option.some.inj hother ▸ hclosed)
    exact ⟨hmoves, hmoves.lost connection hclosed⟩
  unfold resume
  split
  · case h_1 hpending => exact absurd hpending hready
  · case h_2 error hrejected => exact .inl (hfailed error (h.refused connection error hrejected))
  · case h_3 hello hresolved =>
      split
      · case isTrue hconnected =>
          have hadopting : attempt.generation = s.generation → s.closed = false →
              (attempt.kind = .connect ∨ s.suspended = false) →
              s.adopting (.resume id now) = true := by
            intro hcurrent hopen hkind
            simpa [adopting, hmem, hawaits, hconnected, hcurrent, hopen] using hkind
          unfold opened
          split
          · case h_1 hkind =>
              split
              · exact .inl (ha.moves_discard h hmem hawaits)
              · case isFalse hcurrent =>
                  have hcurrent : attempt.generation = s.generation := not_not.mp hcurrent
                  have hopen : s.closed = false := by
                    by_contra hclosed
                    exact h.past (by simpa using hclosed) id attempt hmem hcurrent
                  have hadopts : s.Adopts connection hello ((plug a connection hello.identityKey
                      { s.finish id with connecting := false }).identify a hello) := by
                    apply ha.adopts h hmem hawaits hresolved hopen (Nat.le_refl _)
                    intro other waiting hother hsort hsame
                    obtain ⟨hne, hbefore⟩ := mem_finish hother
                    exact hne (h.distinct other id waiting attempt hbefore hmem hsort hkind
                      (hsame.trans hcurrent.symm))
                  refine .inr ⟨hadopting hcurrent hopen (.inl hkind), hello, _, hadopts, ?_⟩
                  unfold adopt
                  rw [if_neg (by simp [finish, hopen])]
                  exact ha.moves_adopted connection now hello.authExpiresAt hadopts.sound
                    fun hpermanent hnot => (hadopts.permanent hnot hpermanent).2
          · case h_2 expiresAt hkind =>
              split
              · exact .inl (ha.moves_discard h hmem hawaits)
              · case isFalse hcurrent =>
                  simp only [not_or, not_not, Bool.not_eq_true] at hcurrent
                  obtain ⟨hcurrent, hopen, hactive⟩ := hcurrent
                  have hopen : s.closed = false := hopen
                  have hadopts : s.Adopts connection hello ((plug a connection hello.identityKey
                      { s.finish id with generation := s.generation + 1 }).identify a hello) := by
                    apply ha.adopts h hmem hawaits hresolved hopen (Nat.le_succ _)
                    intro other waiting hother _
                    have hle := h.bounded other waiting (mem_finish hother).2
                    exact Nat.ne_of_lt (Nat.lt_succ_of_le hle)
                  refine .inr ⟨hadopting hcurrent hopen (.inr hactive), hello, _, hadopts, ?_⟩
                  unfold adopt
                  rw [if_neg (by simp [finish, hopen])]
                  exact ha.moves_adopted connection now hello.authExpiresAt hadopts.sound
                    fun hpermanent hnot => (hadopts.permanent hnot hpermanent).2
      · case isFalse hlost =>
          have hclosed : (s.connections connection).closed = true := by
            simpa [Connection.connected, hresolved] using hlost
          exact .inl (hfailed handshakeClosed hclosed)

theorem Honest.resumes {id : AttemptId} {attempt : ConnectAttempt} {connection : ConnectionId}
    {now : ℤ} (h : s.Sound) (hmem : s.attempts id = some attempt)
    (hawaits : attempt.awaits = some connection) :
    s.Stepped (.resume id now) (s.resume a id attempt connection now) := by
  by_cases hready : (s.connections connection).ready = .pending
  · unfold resume
    rw [hready]
    exact .moves (.refl h)
  · rcases ha.resume_cases now h hmem hawaits hready with ⟨hmoves, -⟩ | ⟨hadopting, hello, mid, hadopts, hafter⟩
    · exact .moves hmoves
    · exact .adopts connection hello mid hadopting hadopts hafter

theorem Honest.registers {id : SubscriptionId} (h : s.Sound) :
    s.Stepped (.register id) (s.handle a (.register id)) := by
  unfold handle
  dsimp only
  split
  · exact .moves (.refl h)
  · have haside : s.Yields { s with queued := s.queued.filter (· ≠ id) } :=
      yields_aside h { h with } rfl rfl
    have hqueued : s.Moves s.Disciplined s.Permanent
        { s with queued := s.queued.filter (· ≠ id) } := haside.moves
    split
    · exact .moves hqueued
    · case isFalse hlive =>
        by_cases hclosed : s.closed = true
        · unfold StreamClient.register
          rw [if_pos hclosed]
          exact .moves hqueued
        · have hopen : s.closed = false := by simpa using hclosed
          exact .registers id _ hqueued hopen (by simpa using hlive)
            (ha.moves_register hqueued.sound hopen)

theorem Honest.routes {connection : ConnectionId} {id : SubscriptionId} {delivers : Bool}
    {effects : List Effect} (h : s.Sound) :
    s.Stepped (.frame connection id delivers effects)
      (s.route a connection id delivers effects) := by
  unfold route
  split
  · exact .moves (.refl h)
  · case isFalse hcurrent =>
      simp only [not_or, not_not, Bool.not_eq_true', Bool.not_eq_false] at hcurrent
      split
      · exact .moves (.refl h)
      · case isFalse htracked =>
          have htracked : id ∈ s.subscriptions := not_not.mp htracked
          have hdispatched : (s.emit (.dispatched connection id)).Sound :=
            { h with ended := fun other hdone => List.mem_append_left _ (h.ended other hdone) }
          dsimp only
          split
          · exact .dispatches connection id hcurrent.1 htracked (.refl hdispatched)
          · case isFalse hheeded =>
              have hlive : (s.managed id).terminal = false := by
                simpa [emit] using (not_or.mp hheeded).1
              split
              · have hdelivered : ((s.emit (.dispatched connection id)).emit
                    (.delivered id connection)).Sound :=
                  { hdispatched with
                    ended := fun other hdone => List.mem_append_left _ (hdispatched.ended other hdone) }
                have hnotified := ha.notify id _ hdelivered
                apply Stepped.delivers connection id hcurrent.1 htracked hlive
                split
                · case h_1 s' heq =>
                    rw [heq] at hnotified
                    exact hnotified.moves
                · case h_2 s' heq =>
                    rw [heq] at hnotified
                    exact (hnotified.andThen (ha.performAll id effects)).moves
              · exact .dispatches connection id hcurrent.1 htracked
                  (ha.performAll id effects hdispatched).moves

/-- What one event can do, whatever the application does meanwhile. -/
theorem Honest.stepped (event : ClientEvent) (h : s.Sound) :
    s.Stepped event (s.handle a event) := by
  cases event with
  | register id => exact ha.registers h
  | token id failure now =>
      unfold handle
      dsimp only
      split
      · exact .moves (.refl h)
      · case h_2 attempt hmem =>
          split
          · exact .moves (.refl h)
          · case isFalse hwaiting =>
              have hwaiting : attempt.awaits = none := by simpa using hwaiting
              split
              · exact .moves (moves_openConnection h hmem hwaiting)
              · refine .moves (ha.moves_failed _ now h hmem ?_)
                intro other hother
                rw [hwaiting] at hother
                cases hother
  | hello connection hello => exact .moves (moves_settle h (fun _ hready => nomatch hready))
  | refuse connection error => exact .moves (moves_settle h (fun _ _ => rfl))
  | drop connection => exact .moves (ha.moves_drop connection h)
  | resume id now =>
      unfold handle
      dsimp only
      split
      · exact .moves (.refl h)
      · case h_2 attempt hmem =>
          split
          · exact .moves (.refl h)
          · case h_2 connection hawaits => exact ha.resumes h hmem hawaits
  | timer id =>
      unfold handle
      dsimp only
      split
      · exact .moves (.refl h)
      · case h_2 timer hfound =>
          have hmem := List.mem_of_find?_eq_some hfound
          refine .moves (ha.moves_fire h hmem ?_ ?_)
          · exact fun hdisciplined hkind => hdisciplined.rests timer hmem hkind
          · intro hpermanent
            by_contra hclosed
            have hshut := hpermanent.shut (by simpa using hclosed)
            rw [hpermanent.held.timers_nil hshut.reconnectTimer hshut.refreshTimer] at hmem
            cases hmem
  | frame connection id delivers effects => exact ha.routes h
  | error connection id =>
      unfold handle
      dsimp only
      split
      · exact .moves (.refl h)
      · split
        · exact .moves (.refl h)
        · exact .moves (ha.report id s h).moves
  | errorFrame connection error =>
      unfold handle handleErrorFrame
      dsimp only
      split
      · exact .moves (.refl h)
      · have haside : s.Yields { s with lastConnectionError := some error } :=
          yields_aside h { h with } rfl rfl
        exact .moves (haside.andThen (ha.announce _)).moves
  | settled id effects =>
      unfold handle
      dsimp only
      split
      · exact .moves (.refl h)
      · exact .moves (ha.performAll id effects h).moves
  | controlTimedOut connection =>
      unfold handle controlTimedOut
      dsimp only
      split
      · exact .moves (.refl h)
      · exact .moves (ha.moves_closeConnection connection h)
  | call request => exact .moves (ha.call request h).moves
  | listenerRejected id => exact .moves (ha.listenerFailed id h).moves

end Events

theorem Stepped.sound {event : ClientEvent} {s s' : StreamClient} (h : s.Stepped event s') :
    s'.Sound := by
  cases h with
  | moves hmoves => exact hmoves.sound
  | registers _ _ _ _ _ hafter => exact hafter.sound
  | adopts _ _ _ _ _ hafter => exact hafter.sound
  | dispatches _ _ _ _ hafter => exact hafter.sound
  | delivers _ _ _ _ _ hafter => exact hafter.sound

/-- An event only adds to the record. -/
theorem Stepped.grown {event : ClientEvent} {s s' : StreamClient} (h : s.Stepped event s') :
    ∃ more, s'.trace = s.trace ++ more := by
  cases h with
  | moves hmoves =>
      obtain ⟨more, htrace, -⟩ := hmoves.grown
      exact ⟨more, htrace⟩
  | registers id mid hbefore _ _ hafter =>
      obtain ⟨more, htrace, -⟩ := hbefore.grown
      obtain ⟨rest, htrace', -⟩ := hafter.grown
      refine ⟨more ++ ([.registered id] ++ rest), ?_⟩
      rw [htrace', show (mid.track id).trace = mid.trace ++ [.registered id] from rfl, htrace]
      simp
  | adopts connection hello mid _ hadopts hafter =>
      obtain ⟨more, htrace, -⟩ := hadopts.grown
      obtain ⟨rest, htrace', -⟩ := hafter.grown
      exact ⟨_, by rw [htrace', htrace, List.append_assoc]⟩
  | dispatches connection id _ _ hafter =>
      obtain ⟨rest, htrace', -⟩ := hafter.grown
      exact ⟨[.dispatched connection id] ++ rest, by rw [htrace']; simp [emit]⟩
  | delivers connection id _ _ _ hafter =>
      obtain ⟨rest, htrace', -⟩ := hafter.grown
      exact ⟨[.dispatched connection id, .delivered id connection] ++ rest, by
        rw [htrace']; simp [emit]⟩

theorem moves_script {orderly firm : Prop} {s : StreamClient} {script : List (List ClientReaction)}
    (h : s.Sound) : s.Moves orderly firm { s with script := script } := by
  have hyields : s.Yields { s with script := script } := yields_aside h { h with } rfl rfl
  exact hyields.moves

theorem stepped_step {s : StreamClient} (input : StreamClientInput) (h : s.Sound) :
    Stepped input.event { s with script := input.script } (s.step input) := by
  have hscript : s.Moves True True { s with script := input.script } := moves_script h
  exact (honest_application input.script.length).stepped input.event hscript.sound

theorem sound_initial : initial.Sound := by
  constructor
  · constructor <;> simp [initial, ManagedSubscription.fresh]
  · simp [initial]

end StreamClient

end StreamOtter
