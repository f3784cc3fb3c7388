import StreamOtter.StreamClientListeners

/-!
# What an event can do to the client

`Moves` says once what a stretch of the client can change, the application's calls in it
included, unless it registers a subscription, adopts a connection or dispatches a frame.
It carries two families of facts that hold only as long as nothing has gone wrong before:
that the reconnect timer waits only while there is no connection, and that `close()` is
permanent.
-/

namespace StreamOtter

/-- Whether a record is made by neither a registration, an adoption nor a frame. -/
def ClientRecord.plain : ClientRecord → Bool
  | .registered _ | .adopted _ _ | .dispatched _ _ | .delivered _ _ => false
  | _ => true

/-- Whether a record shows that what `close()` leaves behind does not last. -/
def ClientRecord.undoing : ClientRecord → Bool
  | .closed (some site) => site.undoes
  | .armed _ forgets => forgets
  | _ => false

namespace StreamClient

/-- A call of `close()` was undone by the statements after a notification, or an armed
timer was forgotten. -/
def Undone (s : StreamClient) : Prop :=
  ∃ o ∈ s.trace, o.undoing = true

instance (s : StreamClient) : Decidable s.Undone :=
  inferInstanceAs (Decidable (∃ o ∈ s.trace, o.undoing = true))

/-- `close()` is permanent. -/
structure Permanent (s : StreamClient) : Prop where
  quiet : s.Quiet
  held : s.Held
  shut : s.closed = true → s.Shut

/-- A connection that works is left alone. -/
structure Disciplined (s : StreamClient) : Prop where
  rests : ∀ timer ∈ s.timers, timer.2 = .reconnect → s.connection = none
  apart : ∀ id attempt, s.attempts id = some attempt → attempt.generation = s.generation →
    attempt.kind = .connect → s.connection = none
  alone : .started .retry true ∉ s.trace

/-- What a stretch can change, under what is known of the state the event found. -/
structure Moves (orderly firm : Prop) (s s' : StreamClient) : Prop where
  sound : s'.Sound
  identity : s'.identityKey = s.identityKey
  connection : ∀ connection, s'.connection = some connection → s.connection = some connection
  dropped : ∀ connection, s.connection = some connection → s'.connection = some connection ∨
    (s'.connections connection).closed = true
  resolved : ∀ connection hello, (s.connections connection).ready = .resolved hello →
    (s'.connections connection).ready = .resolved hello
  lost : ∀ connection, (s.connections connection).closed = true →
    (s'.connections connection).closed = true
  terminal : ∀ id, (s.managed id).terminal = true → (s'.managed id).terminal = true
  subset : s'.subscriptions ⊆ s.subscriptions
  left : ∀ id ∈ s.subscriptions, id ∉ s'.subscriptions → (s'.managed id).terminal = true
  grown : ∃ more, s'.trace = s.trace ++ more ∧ ∀ o ∈ more, o.plain = true
  disciplined : orderly → s.Disciplined → s'.Disciplined
  permanent : firm → ¬ s'.Undone → s.Permanent → s'.Permanent

theorem Undone.grows {s s' : StreamClient} (hgrown : ∃ more, s'.trace = s.trace ++ more)
    (h : s.Undone) : s'.Undone := by
  obtain ⟨more, htrace⟩ := hgrown
  obtain ⟨o, hmem, ho⟩ := h
  exact ⟨o, htrace ▸ List.mem_append_left _ hmem, ho⟩

theorem Permanent.of_open {s s' : StreamClient} {more : List ClientRecord} (h : s.Permanent)
    (hopen : s.closed = false) (hclosed : s'.closed = s.closed) (htrace : s'.trace = s.trace ++ more)
    (hmore : ∀ o ∈ more, o.isClosed = false) (hheld : s'.Held) : s'.Permanent := by
  have hvacuous : ∀ {p : Prop}, s.Shut → p := fun hshut => absurd hopen hshut.not_open
  refine ⟨h.quiet.append hvacuous htrace fun o hmem => ⟨hmore o hmem, hvacuous⟩, hheld, ?_⟩
  intro hdone
  rw [hclosed, hopen] at hdone
  cases hdone

namespace Moves

variable {orderly firm : Prop} {s s' s'' : StreamClient}

theorem refl (h : s.Sound) : s.Moves orderly firm s where
  sound := h
  identity := rfl
  connection := fun _ => id
  dropped := fun _ => .inl
  resolved := fun _ _ => id
  lost := fun _ => id
  terminal := fun _ => id
  subset := List.Subset.refl _
  left := fun _ hmem hnot => absurd hmem hnot
  grown := ⟨[], by simp⟩
  disciplined := fun _ => id
  permanent := fun _ _ => id

theorem trans (h : s.Moves orderly firm s') (h' : s'.Moves orderly firm s'') : s.Moves orderly firm s'' where
  sound := h'.sound
  identity := h'.identity.trans h.identity
  connection := fun connection hsome => h.connection connection (h'.connection connection hsome)
  dropped := by
    intro connection hsome
    rcases h.dropped connection hsome with hsome | hclosed
    · exact h'.dropped connection hsome
    · exact .inr (h'.lost connection hclosed)
  resolved := fun connection hello hready =>
    h'.resolved connection hello (h.resolved connection hello hready)
  lost := fun connection hclosed => h'.lost connection (h.lost connection hclosed)
  terminal := fun id hterminal => h'.terminal id (h.terminal id hterminal)
  subset := List.Subset.trans h'.subset h.subset
  left := by
    intro id hmem hnot
    by_cases hmid : id ∈ s'.subscriptions
    · exact h'.left id hmid hnot
    · exact h'.terminal id (h.left id hmem hmid)
  grown := by
    obtain ⟨more, htrace, hplain⟩ := h.grown
    obtain ⟨rest, htrace', hplain'⟩ := h'.grown
    refine ⟨more ++ rest, ?_, ?_⟩
    · rw [htrace', htrace, List.append_assoc]
    · intro o hmem
      rcases List.mem_append.mp hmem with hmem | hmem
      · exact hplain o hmem
      · exact hplain' o hmem
  disciplined := fun ho hdisciplined => h'.disciplined ho (h.disciplined ho hdisciplined)
  permanent := by
    intro hf hnot hpermanent
    have hgrown : ∃ more, s''.trace = s'.trace ++ more := by
      obtain ⟨more, htrace, -⟩ := h'.grown
      exact ⟨more, htrace⟩
    have hmid := h.permanent hf (fun hundone => hnot (hundone.grows hgrown)) hpermanent
    exact h'.permanent hf hnot hmid

theorem andThen (h : s.Moves orderly firm s') (hnext : s'.Sound → s'.Moves orderly firm s'') :
    s.Moves orderly firm s'' :=
  h.trans (hnext h.sound)

end Moves

theorem plain_of_nested {o : ClientRecord} (h : o.nested = true) : o.plain = true := by
  cases o <;> first | rfl | exact absurd h (by simp [ClientRecord.nested])

/-- A notification is one of the moves. -/
theorem Yields.moves {orderly firm : Prop} {s s' : StreamClient} (h : s.Yields s') :
    s.Moves orderly firm s' where
  sound := h.sound
  identity := h.identity
  connection := by
    intro connection hsome
    by_cases hmoved : s.generation < s'.generation
    · rw [(h.moved hmoved).1] at hsome
      cases hsome
    · have hle := h.generation
      rwa [(h.kept (by omega)).1] at hsome
  dropped := by
    intro connection hsome
    by_cases hmoved : s.generation < s'.generation
    · exact .inr ((h.moved hmoved).2 connection hsome)
    · have hle := h.generation
      exact .inl ((h.kept (by omega)).1.trans hsome)
  resolved := fun connection _ hready => (h.ready connection).trans hready
  lost := h.lost
  terminal := h.terminal
  subset := h.subset
  left := h.left
  grown := by
    obtain ⟨more, htrace, hnested⟩ := h.grown
    exact ⟨more, htrace, fun o hmem => plain_of_nested (hnested o hmem)⟩
  disciplined := by
    intro _ hdisciplined
    constructor
    · exact fun timer hmem hkind =>
        h.connection_none (hdisciplined.rests timer (h.timers timer hmem) hkind)
    · intro id attempt hmem hcurrent hkind
      by_cases hmoved : s.generation < s'.generation
      · exact (h.moved hmoved).1
      · have hle := h.generation
        have hsame : s'.generation = s.generation := by omega
        obtain ⟨hconnection, hattempts, -⟩ := h.kept hsame
        rw [hattempts] at hmem
        rw [hconnection]
        exact hdisciplined.apart id attempt hmem (hcurrent.trans hsame) hkind
    · obtain ⟨more, htrace, hnested⟩ := h.grown
      rw [htrace]
      intro hmem
      rcases List.mem_append.mp hmem with hmem | hmem
      · exact hdisciplined.alone hmem
      · exact absurd (hnested _ hmem) (by simp [ClientRecord.nested])
  permanent := by
    intro _ _ hpermanent
    refine ⟨h.quiet hpermanent.quiet, h.held hpermanent.held, ?_⟩
    intro hclosed
    by_cases hbefore : s.closed = true
    · exact h.shut (hpermanent.shut hbefore)
    · exact (h.closes (by simpa using hbefore) hclosed).1

/-! ## Single changes -/

section Changes

variable {orderly firm : Prop} {a : Application} {s s' : StreamClient}

/-- Changes of what only records and flags show. -/
theorem moves_local {more : List ClientRecord} (h : s.Sound) (hsound : s'.Sound)
    (hsame : (s'.connection, s'.identityKey, s'.generation, s'.timers, s'.subscriptions, s'.managed,
        s'.connections, s'.attempts) = (s.connection, s.identityKey, s.generation, s.timers,
        s.subscriptions, s.managed, s.connections, s.attempts))
    (htrace : s'.trace = s.trace ++ more) (hplain : ∀ o ∈ more, o.plain = true)
    (halone : orderly → .started .retry true ∉ more)
    (hpermanent : firm → ¬ s'.Undone → s.Permanent → s'.Permanent) : s.Moves orderly firm s' := by
  simp only [Prod.mk.injEq] at hsame
  obtain ⟨hconnection, hidentity, hgeneration, htimers, hsubscriptions, hmanaged, hconnections,
    hattempts⟩ := hsame
  have hrefl : s.Moves orderly firm s := .refl h
  constructor
  case sound => exact hsound
  case grown => exact ⟨more, htrace, hplain⟩
  case permanent => exact hpermanent
  case disciplined =>
    intro ho hdisciplined
    constructor
    · rw [htimers, hconnection]
      exact hdisciplined.rests
    · rw [hattempts, hconnection, hgeneration]
      exact hdisciplined.apart
    · rw [htrace]
      intro hmem
      rcases List.mem_append.mp hmem with hmem | hmem
      · exact hdisciplined.alone hmem
      · exact halone ho hmem
  all_goals simp_all

/-- The client starts or stops to answer for a notification. -/
theorem moves_site {site : Option Site} (h : s.Sound) : s.Moves orderly firm { s with site := site } := by
  have hsound : Sound { s with site := site } := { h with }
  apply moves_local h hsound rfl (List.append_nil _).symm
  · simp
  · simp
  · intro _ _ hpermanent
    have hshut : s.Shut → Shut { s with site := site } := fun hshut =>
      ⟨hshut.closed, hshut.closing, hshut.cleared, hshut.state, hshut.connection,
        hshut.reconnectTimer, hshut.refreshTimer, hshut.subscriptions⟩
    exact ⟨hpermanent.quiet.of_trace rfl hshut, hpermanent.held,
      fun hclosed => hshut (hpermanent.shut hclosed)⟩

theorem moves_record {o : ClientRecord} (h : s.Sound) (hplain : o.plain = true)
    (hrecord : o.isClosed = false) (halone : orderly → o ≠ .started .retry true)
    (hopen : firm → ¬ s.Undone → s.closed = false) : s.Moves orderly firm (s.emit o) := by
  have hended : (s.emit o).Sound :=
    { h with ended := fun id hdone => List.mem_append_left _ (h.ended id hdone) }
  apply moves_local h hended rfl rfl
  · simpa using hplain
  · intro ho hmem
    exact halone ho (List.mem_singleton.mp hmem).symm
  · intro hf hnot hpermanent
    have hbefore : ¬ s.Undone := fun hundone => hnot (hundone.grows ⟨_, rfl⟩)
    exact hpermanent.of_open (hopen hf hbefore) rfl rfl (by simpa using hrecord)
      hpermanent.held

/-- A timer is armed. -/
theorem moves_arm {timer : ClientTimer} (h : s.Sound)
    (hidle : timer = .reconnect → orderly → s.connection = none)
    (hopen : firm → ¬ s.Undone → s.closed = false) : s.Moves orderly firm (s.arm timer) := by
  have htrace : (s.arm timer).trace = s.trace ++ [.armed timer (s.handleOf timer).isSome] := by
    cases timer <;> rfl
  have htimers : (s.arm timer).timers = s.timers ++ [(s.nextTimer, timer)] := by
    cases timer <;> rfl
  have hheld : s.handleOf timer = none → s.Held → (s.arm timer).Held := by
    intro hfree hheld entry hmem
    rw [htimers] at hmem
    rcases List.mem_append.mp hmem with hmem | hmem
    · have hhandle := hheld entry hmem
      obtain ⟨id, _ | expiresAt⟩ := entry
      · cases timer with
        | reconnect => exact absurd (hfree.symm.trans hhandle) (by simp)
        | refresh other => exact hhandle
      · cases timer with
        | reconnect => exact hhandle
        | refresh other => exact absurd (hfree.symm.trans hhandle) (by simp)
    · obtain rfl := List.mem_singleton.mp hmem
      cases timer <;> rfl
  have hrefl : s.Moves orderly firm s := .refl h
  constructor
  case sound =>
    cases timer <;>
      exact { h with ended := fun id hdone => List.mem_append_left _ (h.ended id hdone) }
  case grown => exact ⟨_, htrace, by simp [ClientRecord.plain]⟩
  case disciplined =>
    intro ho hdisciplined
    constructor
    · intro entry hmem hkind
      rw [htimers] at hmem
      have hconnection : (s.arm timer).connection = s.connection := by cases timer <;> rfl
      rw [hconnection]
      rcases List.mem_append.mp hmem with hmem | hmem
      · exact hdisciplined.rests entry hmem hkind
      · obtain rfl := List.mem_singleton.mp hmem
        exact hidle hkind ho
    · cases timer <;> exact hdisciplined.apart
    · rw [htrace]
      intro hmem
      rcases List.mem_append.mp hmem with hmem | hmem
      · exact hdisciplined.alone hmem
      · simp at hmem
  case permanent =>
    intro hf hnot hpermanent
    have hbefore : ¬ s.Undone := fun hundone => hnot (hundone.grows ⟨_, htrace⟩)
    have hfree : s.handleOf timer = none := by
      by_contra hover
      apply hnot
      refine ⟨.armed timer true, ?_, rfl⟩
      rw [htrace, Option.isSome_iff_ne_none.mpr hover]
      simp
    have hclosed : (s.arm timer).closed = s.closed := by cases timer <;> rfl
    exact hpermanent.of_open (hopen hf hbefore) hclosed htrace
      (by simp [ClientRecord.isClosed]) (hheld hfree hpermanent.held)
  all_goals
    cases timer <;>
      first
        | rfl
        | exact hrefl.connection
        | exact hrefl.dropped
        | exact hrefl.resolved
        | exact hrefl.lost
        | exact hrefl.terminal
        | exact hrefl.subset
        | exact hrefl.left

/-- The connection that closed is not the client's any more. -/
theorem moves_release (h : s.Sound)
    (hclosed : ∀ connection, s.connection = some connection →
      (s.connections connection).closed = true) : s.Moves orderly firm { s with connection := none } := by
  have hshut : s.Shut → Shut { s with connection := none } := fun hshut =>
    ⟨hshut.closed, hshut.closing, hshut.cleared, hshut.state, rfl, hshut.reconnectTimer,
      hshut.refreshTimer, hshut.subscriptions⟩
  have hrefl : s.Moves orderly firm s := .refl h
  refine { hrefl with
    sound := ?_, connection := ?_, dropped := ?_, disciplined := ?_, permanent := ?_ }
  · refine { h with awaited := ?_ }
    intro connection hborn hopen
    rcases h.awaited connection hborn hopen with hadopted | hawaited
    · have hlost := hclosed connection hadopted
      rw [hopen] at hlost
      cases hlost
    · exact .inr hawaited
  · exact fun _ hsome => nomatch hsome
  · exact fun connection hsome => .inr (hclosed connection hsome)
  · exact fun _ hdisciplined => ⟨fun _ _ _ => rfl, fun _ _ _ _ _ => rfl, hdisciplined.alone⟩
  · exact fun _ _ hpermanent => ⟨hpermanent.quiet.of_trace rfl hshut, hpermanent.held,
      fun hdone => hshut (hpermanent.shut hdone)⟩

theorem moves_markClosed (connection : ConnectionId) (h : s.Sound) :
    s.Moves orderly firm (s.markClosed connection) := by
  have hshut : s.Shut → (s.markClosed connection).Shut := fun hshut =>
    ⟨hshut.closed, hshut.closing, hshut.cleared, hshut.state, hshut.connection,
      hshut.reconnectTimer, hshut.refreshTimer, hshut.subscriptions⟩
  have hrefl : s.Moves orderly firm s := .refl h
  refine { hrefl with
    sound := sound_markClosed connection h, resolved := ?_, lost := ?_, dropped := fun _ => .inl
    disciplined := ?_, permanent := ?_ }
  · intro other hello hready
    rw [markClosed_connections]
    exact hready
  · intro other hlost
    rw [markClosed_connections]
    simp [hlost]
  · exact fun _ hdisciplined => ⟨hdisciplined.rests, hdisciplined.apart, hdisciplined.alone⟩
  · exact fun _ _ hpermanent => ⟨hpermanent.quiet.of_trace rfl hshut, hpermanent.held,
      fun hdone => hshut (hpermanent.shut hdone)⟩

/-- A call of `#connect` gets a generation of its own. -/
theorem moves_begin (h : s.Sound) (hopen : s.closed = false) :
    s.Moves orderly firm { s with generation := s.generation + 1, connecting := true } := by
  have hrefl : s.Moves orderly firm s := .refl h
  refine { hrefl with sound := ?_, disciplined := ?_, permanent := ?_ }
  · exact { h with
      bounded := fun id attempt hmem => Nat.le_succ_of_le (h.bounded id attempt hmem)
      past := fun _ id attempt hmem => Nat.ne_of_lt (Nat.lt_succ_of_le (h.bounded id attempt hmem)) }
  · refine fun _ hdisciplined => ⟨hdisciplined.rests, ?_, hdisciplined.alone⟩
    intro id attempt hmem hcurrent
    have hle := h.bounded id attempt hmem
    have hcurrent' : attempt.generation = s.generation + 1 := hcurrent
    omega
  · exact fun _ _ hpermanent => hpermanent.of_open hopen rfl (List.append_nil _).symm (by simp)
      hpermanent.held

theorem moves_start {kind : AttemptKind} {generation : ℕ} (h : s.Sound)
    (hsound : (s.start kind generation).Sound)
    (hidle : orderly → kind = .connect → s.connection = none) :
    s.Moves orderly firm (s.start kind generation) := by
  have hrefl : s.Moves orderly firm s := .refl h
  refine { hrefl with sound := hsound, disciplined := ?_, permanent := ?_ }
  · refine fun ho hdisciplined => ⟨hdisciplined.rests, ?_, hdisciplined.alone⟩
    intro id attempt hmem hcurrent hkind
    simp only [start, Function.update_apply] at hmem
    split at hmem
    · obtain rfl := Option.some.inj hmem
      exact hidle ho hkind
    · exact hdisciplined.apart id attempt hmem hcurrent hkind
  · exact fun _ _ hpermanent => ⟨hpermanent.quiet.of_trace rfl Shut.start, hpermanent.held,
      fun hdone => (hpermanent.shut hdone).start⟩

end Changes

/-! ## Stretches -/

section Stretches

variable {orderly firm : Prop} {a : Application} (ha : Honest a) {s : StreamClient}

theorem moves_answering {site : Site} {f : StreamClient → StreamClient} (h : s.Sound)
    (hf : Sound { s with site := some site } →
      Moves orderly firm { s with site := some site } (f { s with site := some site })) :
    s.Moves orderly firm (s.answering site f) :=
  ((moves_site h).andThen hf).andThen moves_site

/-- Where a call of `close()` would be undone, there was none. -/
theorem answering_open {site : Site} {f : StreamClient → StreamClient}
    (hf : Yields { s with site := some site } (f { s with site := some site }))
    (hundoes : site.undoes = true) (hopen : s.closed = false)
    (hnot : ¬ (s.answering site f).Undone) : (s.answering site f).closed = false := by
  by_contra hclosed
  have hrecord := (hf.closes hopen (by simpa [answering] using hclosed)).2
  exact hnot ⟨.closed (some site), hrecord, hundoes⟩

include ha

theorem Honest.moves_setState (state : ConnectionState) (h : s.Sound)
    (hopen : firm → ¬ s.Undone → s.closed = false) :
    s.Moves orderly firm (s.setState a state) := by
  unfold StreamClient.setState
  split
  · exact .refl h
  · have hset : s.Moves orderly firm ({ s with state := state }.emit (.state state)) := by
      have hsound : Sound ({ s with state := state }.emit (.state state)) :=
        { h with ended := fun id hdone => List.mem_append_left _ (h.ended id hdone) }
      apply moves_local h hsound rfl rfl
      · simp [ClientRecord.plain]
      · simp
      · intro hf hnot hpermanent
        have hbefore : ¬ s.Undone := fun hundone => hnot (hundone.grows ⟨_, rfl⟩)
        exact hpermanent.of_open (hopen hf hbefore) rfl rfl (by simp [ClientRecord.isClosed])
          hpermanent.held
    exact hset.andThen fun h => (ha.announce _ h).moves

theorem Honest.moves_suspend (h : s.Sound) (hopen : firm → ¬ s.Undone → s.closed = false) :
    s.Moves orderly firm (s.suspend a) := by
  unfold suspend
  have hsuspended : s.Moves orderly firm { s with suspended := true }.clearReconnectTimer := by
    have haside : s.Yields { s with suspended := true } := yields_aside h { h with } rfl rfl
    exact (haside.andThen yields_clearReconnectTimer).moves
  have hset := hsuspended.andThen fun h => ha.moves_setState .authRequired h hopen
  exact hset.andThen fun h => (ha.requireAuthAll h).moves

theorem Honest.moves_scheduleReconnect (h : s.Sound) (hidle : orderly → s.connection = none) :
    s.Moves orderly firm (s.scheduleReconnect a) := by
  unfold scheduleReconnect
  split
  · exact .refl h
  · case isFalse hactive =>
      have hopen : s.closed = false := by simp_all
      have hcleared : s.Yields s.clearReconnectTimer := yields_clearReconnectTimer h
      dsimp only
      split
      · exact hcleared.moves.andThen fun h => ha.moves_setState .idle h fun _ _ => hopen
      · have hset : ∀ s' : StreamClient, s'.Sound → s'.closed = false →
            s'.Yields (s'.setState a .reconnecting) := by
          intro s' h hopen
          refine ha.setState .reconnecting h ?_ fun _ hshut => absurd hopen hshut.not_open
          rw [hopen]
          exact fun hclosed => nomatch hclosed
        have hsited : Sound { s.clearReconnectTimer with site := some .reconnecting } :=
          { hcleared.sound with }
        have hanswered := hset { s.clearReconnectTimer with site := some .reconnecting } hsited hopen
        have hmoved : s.Moves orderly firm
            (s.clearReconnectTimer.answering .reconnecting (StreamClient.setState a .reconnecting)) :=
          hcleared.moves.andThen fun h => moves_answering h fun _ => hanswered.moves
        refine hmoved.andThen fun h => moves_arm h ?_ ?_
        · intro _ ho
          exact hanswered.connection_none (hidle ho)
        · exact fun _ hnot => answering_open hanswered rfl hopen hnot

/-- The connection, of whose end the client has just learned, is given up. -/
theorem Honest.moves_handleDisconnect (connection : ConnectionId) (h : s.Sound)
    (hclosed : (s.connections connection).closed = true) :
    s.Moves orderly firm (s.handleDisconnect a connection) := by
  unfold handleDisconnect
  split
  · exact .refl h
  · case isFalse hadopted =>
      have hadopted : s.connection = some connection := not_not.mp hadopted
      dsimp only
      have hreleased : s.Moves orderly firm { s with connection := none } := by
        apply moves_release h
        intro other hother
        rw [hadopted] at hother
        exact Option.some.inj hother ▸ hclosed
      have hcleared : Yields { s with connection := none }
          { s with connection := none }.clearRefreshTimer := yields_clearRefreshTimer hreleased.sound
      have hdetached := hcleared.andThen
        (ha.detachAll ({ s with connection := none }.clearRefreshTimer.lastConnectionError.map
          StreamError.code))
      have hmoved := hreleased.trans hdetached.moves
      have hnone := hdetached.connection_none rfl
      split
      · exact hmoved
      · case isFalse hopen =>
          have hopen := Bool.eq_false_iff.mpr hopen
          split
          · exact hmoved.andThen fun h => ha.moves_suspend h fun _ _ => hopen
          · exact hmoved.andThen fun h => ha.moves_scheduleReconnect h fun _ => hnone

theorem Honest.moves_closeConnection (connection : ConnectionId) (h : s.Sound) :
    s.Moves orderly firm (s.closeConnection a connection) := by
  unfold StreamClient.closeConnection
  split
  · exact .refl h
  · have hmarked : s.Moves orderly firm (s.markClosed connection) := moves_markClosed connection h
    dsimp only
    split
    · refine hmarked.andThen fun h => ha.moves_handleDisconnect connection h ?_
      simp [markClosed]
    · exact hmarked

theorem Honest.closes (connection : ConnectionId) (h : s.Sound) :
    ((s.closeConnection a connection).connections connection).closed = true := by
  unfold StreamClient.closeConnection
  split
  · case isTrue hclosed => exact hclosed
  · have hmarked : ((s.markClosed connection).connections connection).closed = true := by
      simp [markClosed]
    dsimp only
    split
    · have hmoves : (s.markClosed connection).Moves True True
          ((s.markClosed connection).handleDisconnect a connection) :=
        ha.moves_handleDisconnect connection (sound_markClosed connection h) hmarked
      exact hmoves.lost connection hmarked
    · exact hmarked

theorem Honest.moves_dial (explicit : Bool) (h : s.Sound) (hopen : s.closed = false)
    (hidle : orderly → s.connection = none) : s.Moves orderly firm (s.dial a explicit) := by
  obtain ⟨s', hset, heq, hsound⟩ := ha.dials explicit h hopen
  rw [heq] at hsound ⊢
  have hbegun : s.Moves orderly firm s' := (moves_begin h hopen).andThen fun _ => hset.moves
  exact hbegun.andThen fun h => moves_start h hsound fun ho _ => hset.connection_none (hidle ho)

theorem Honest.moves_connect (h : s.Sound) (hidle : orderly → s.connection = none) :
    s.Moves orderly firm (s.connect a false) := by
  unfold StreamClient.connect
  split
  · exact .refl h
  · case isFalse hclosed =>
      have hopen := Bool.eq_false_iff.mpr hclosed
      dsimp only
      have hrecorded : s.Moves orderly firm
          (s.emit (.started .retry s.liveConnection.isSome)) := by
        apply moves_record h rfl rfl
        · intro ho
          simp [liveConnection, hidle ho]
        · exact fun _ _ => hopen
      exact hrecorded.andThen fun h => ha.moves_dial false h hopen hidle

theorem Honest.moves_ensureConnection (h : s.Sound) : s.Moves orderly firm (s.ensureConnection a) := by
  unfold ensureConnection
  split
  · exact .refl h
  · split
    · exact .refl h
    · case isFalse hnone => exact ha.moves_connect h fun _ => by simpa using hnone

theorem Honest.moves_attach (id : SubscriptionId) (connection : ConnectionId) (h : s.Sound)
    (htracked : id ∈ s.subscriptions ∨ (s.managed id).terminal = true) :
    s.Moves orderly firm (s.attach a id connection) := by
  unfold StreamClient.attach
  split
  · exact .refl h
  · case isFalse hlive =>
      have htracked := htracked.resolve_right hlive
      have hmanaged : ∀ other, (s.manage id { s.managed id with
          attached := some connection }).managed other =
            if other = id then { s.managed id with attached := some connection }
            else s.managed other := by
        intro other
        simp [manage, Function.update_apply]
      have hnot : ¬ s.Shut := by
        intro hshut
        rw [hshut.subscriptions] at htracked
        cases htracked
      have hattached : s.Moves orderly firm ((s.manage id { s.managed id with
          attached := some connection }).emit (.attached id connection)) := by
        have hrefl : s.Moves orderly firm s := .refl h
        refine { hrefl with
          sound := ?_, terminal := ?_, left := ?_, grown := ?_, disciplined := ?_, permanent := ?_ }
        · refine { h with detached := ?_, tracked := ?_, ended := ?_ }
          · intro other hdone
            have hdone := hmanaged other ▸ hdone
            rw [show ((s.manage id { s.managed id with attached := some connection }).emit
              (.attached id connection)).managed other = _ from hmanaged other]
            split at hdone
            · exact absurd hdone hlive
            · case isFalse hne =>
                rw [if_neg hne]
                exact h.detached other hdone
          · intro other bound hbound
            have hbound := hmanaged other ▸ hbound
            split at hbound
            · case isTrue heq => exact heq ▸ htracked
            · exact h.tracked other bound hbound
          · intro other hdone
            have hdone := hmanaged other ▸ hdone
            apply List.mem_append_left
            split at hdone
            · exact absurd hdone hlive
            · exact h.ended other hdone
        · intro other hdone
          rw [show ((s.manage id { s.managed id with attached := some connection }).emit
            (.attached id connection)).managed other = _ from hmanaged other]
          split
          · case isTrue heq => exact heq ▸ hdone
          · exact hdone
        · exact fun other hmem hnot => absurd hmem hnot
        · exact ⟨_, rfl, by simp [ClientRecord.plain]⟩
        · refine fun _ hdisciplined => ⟨hdisciplined.rests, hdisciplined.apart, ?_⟩
          intro hmem
          rcases List.mem_append.mp hmem with hmem | hmem
          · exact hdisciplined.alone hmem
          · simp at hmem
        · intro _ _ hpermanent
          have hopen : s.closed = false := by
            by_contra hclosed
            exact hnot (hpermanent.shut (by simpa using hclosed))
          exact hpermanent.of_open hopen rfl rfl (by simp [ClientRecord.isClosed]) hpermanent.held
      exact hattached.andThen fun h => (ha.change id .authorizing none false h).moves

omit ha in
/-- A fold over tracked subscriptions, each step of which moves. -/
theorem moves_foldl_tracked {f : StreamClient → SubscriptionId → StreamClient}
    (hf : ∀ id (s : StreamClient), s.Sound → id ∈ s.subscriptions ∨ (s.managed id).terminal = true →
      s.Moves orderly firm (f s id))
    (ids : List SubscriptionId) (h : s.Sound)
    (htracked : ∀ id ∈ ids, id ∈ s.subscriptions ∨ (s.managed id).terminal = true) :
    s.Moves orderly firm (ids.foldl f s) := by
  induction ids generalizing s with
  | nil => exact .refl h
  | cons first ids ih =>
      have hfirst := hf first s h (htracked first (List.mem_cons_self))
      refine hfirst.andThen fun h => ih h ?_
      intro id hmem
      rcases htracked id (List.mem_cons_of_mem _ hmem) with hmem | hdone
      · by_cases hstill : id ∈ (f s first).subscriptions
        · exact .inl hstill
        · exact .inr (hfirst.left id hmem hstill)
      · exact .inr (hfirst.terminal id hdone)

theorem Honest.moves_attachAll (connection : ConnectionId) (h : s.Sound) :
    s.Moves orderly firm (s.attachAll a connection) :=
  moves_foldl_tracked (fun id _ h htracked => ha.moves_attach id connection h htracked) _ h
    fun _ => .inl

omit ha in
theorem moves_scheduleRefresh {now : ℤ} {authExpiresAt : Option ℤ} (h : s.Sound)
    (hopen : refreshArms now authExpiresAt = true → firm → ¬ s.Undone → s.closed = false) :
    s.Moves orderly firm (s.scheduleRefresh now authExpiresAt) := by
  have hcleared : s.Moves orderly firm s.clearRefreshTimer := (yields_clearRefreshTimer h).moves
  unfold scheduleRefresh
  dsimp only
  split
  · exact hcleared
  · split
    · case isTrue harms =>
        refine hcleared.andThen fun h => moves_arm h ?_ (hopen harms)
        exact fun hkind => nomatch hkind
    · exact hcleared

theorem Honest.moves_handleConnectFailure (error : StreamError) (h : s.Sound)
    (hopen : s.closed = false) (hidle : orderly → s.connection = none) :
    s.Moves orderly firm (s.handleConnectFailure a error) := by
  unfold handleConnectFailure
  dsimp only
  have haside : s.Yields { s with lastConnectionError := some error } :=
    yields_aside h { h with } rfl rfl
  have hsited : Sound { s with
      lastConnectionError := some error, site := some (.refused error.code.suspends) } := { h with }
  have hanswered := ha.announce _ hsited
  have hmoved : s.Moves orderly firm ({ s with lastConnectionError := some error }.answering
      (.refused error.code.suspends) (emitError a)) :=
    haside.moves.andThen fun h => moves_answering h fun _ => hanswered.moves
  split
  · case isTrue hsuspends =>
      refine hmoved.andThen fun h => ha.moves_suspend h fun _ hnot => ?_
      exact answering_open hanswered hsuspends hopen hnot
  · refine hmoved.andThen fun h => ha.moves_scheduleReconnect h fun ho => ?_
    exact hanswered.connection_none (hidle ho)

/-- An attempt that has just ended, and failed. -/
theorem Honest.moves_rejected (attempt : ConnectAttempt) (error : StreamError) (now : ℤ)
    (h : s.Sound) (hopen : attempt.generation = s.generation → s.closed = false)
    (hidle : orderly → attempt.generation = s.generation → attempt.kind = .connect →
      s.connection = none) : s.Moves orderly firm (s.rejected a attempt error now) := by
  unfold StreamClient.rejected
  split
  · exact .refl h
  · case isFalse hcurrent =>
      have hcurrent := not_not.mp hcurrent
      have hopen := hopen hcurrent
      split
      · case h_1 hkind =>
          have haside : s.Yields { s with connecting := false } := yields_aside h { h with } rfl rfl
          exact haside.moves.andThen fun h =>
            ha.moves_handleConnectFailure error h hopen fun ho => hidle ho hcurrent hkind
      · case h_2 expiresAt _ =>
          have hsited : Sound { s with
              site := some (.refreshFailed (refreshRearms now expiresAt)) } := { h with }
          have hanswered := ha.announce _ hsited
          have hmoved : s.Moves orderly firm (s.answering
              (.refreshFailed (refreshRearms now expiresAt)) (emitError a)) :=
            moves_answering h fun _ => hanswered.moves
          dsimp only
          split
          · case isTrue hrearms =>
              refine hmoved.andThen fun h => moves_arm h (fun hkind => nomatch hkind) fun _ hnot => ?_
              exact answering_open hanswered hrearms hopen hnot
          · exact hmoved

omit ha in
theorem moves_refresh {expiresAt : ℤ} (h : s.Sound) : s.Moves orderly firm (s.refresh expiresAt) := by
  unfold refresh
  split
  · exact .refl h
  · case isFalse hactive =>
      have hopen : s.closed = false := by simp_all
      have hrecorded : s.Moves orderly firm (s.emit (.started .refresh s.liveConnection.isSome)) := by
        apply moves_record h rfl rfl
        · simp
        · exact fun _ _ => hopen
      refine hrecorded.andThen fun h => moves_start h ?_ (fun _ hkind => nomatch hkind)
      refine sound_start h (Nat.le_refl _) ?_ (fun hkind => nomatch hkind)
      intro hclosed
      rw [show s.closed = true from hclosed] at hopen
      cases hopen

/-! ## Attempts and transports -/

omit ha in
theorem mem_finish {id other : AttemptId} {attempt : ConnectAttempt}
    (hmem : (s.finish id).attempts other = some attempt) :
    other ≠ id ∧ s.attempts other = some attempt := by
  simp only [finish, Function.update_apply] at hmem
  split at hmem
  · cases hmem
  · case isFalse hne => exact ⟨hne, hmem⟩

omit ha in
theorem tidy_finish {id : AttemptId} (h : s.Sound) : (s.finish id).Tidy := by
  refine ⟨h.detached, h.tracked, h.ended, ?_, ?_, ?_, ?_, h.refused⟩
  · intro other hle
    simp only [finish, Function.update_apply]
    split
    · rfl
    · exact h.pending other hle
  · exact fun other attempt hmem => h.bounded other attempt (mem_finish hmem).2
  · exact fun hclosed other attempt hmem => h.past hclosed other attempt (mem_finish hmem).2
  · exact fun i j first second hfirst hsecond =>
      h.distinct i j first second (mem_finish hfirst).2 (mem_finish hsecond).2

omit ha in
/-- Without an attempt, everything but what it waits for is still awaited. -/
theorem awaited_finish {id : AttemptId} {attempt : ConnectAttempt} {connection : ConnectionId}
    (hmem : s.attempts id = some attempt) (hother : attempt.awaits ≠ some connection)
    (h : s.Awaited connection) : (s.finish id).Awaited connection := by
  rcases h with hadopted | ⟨other, waiting, hwaiting, hawaits⟩
  · exact .inl hadopted
  · refine .inr ⟨other, waiting, ?_, hawaits⟩
    simp only [finish, Function.update_apply]
    rw [if_neg, hwaiting]
    rintro rfl
    rw [hmem] at hwaiting
    exact hother (Option.some.inj hwaiting ▸ hawaits)

omit ha in
/-- An attempt ends that leaves no open connection behind. -/
theorem moves_finish {id : AttemptId} {attempt : ConnectAttempt} (h : s.Sound)
    (hmem : s.attempts id = some attempt)
    (hdone : ∀ connection, attempt.awaits = some connection →
      (s.connections connection).closed = true ∨ s.connection = some connection) :
    s.Moves orderly firm (s.finish id) := by
  have hshut : s.Shut → (s.finish id).Shut := fun hshut =>
    ⟨hshut.closed, hshut.closing, hshut.cleared, hshut.state, hshut.connection,
      hshut.reconnectTimer, hshut.refreshTimer, hshut.subscriptions⟩
  have hrefl : s.Moves orderly firm s := .refl h
  refine { hrefl with sound := ⟨tidy_finish h, ?_⟩, disciplined := ?_, permanent := ?_ }
  · intro connection hborn hopen
    by_cases hawaits : attempt.awaits = some connection
    · rcases hdone connection hawaits with hclosed | hadopted
      · rw [show (s.connections connection).closed = false from hopen] at hclosed
        cases hclosed
      · exact .inl hadopted
    · exact awaited_finish hmem hawaits (h.awaited connection hborn hopen)
  · refine fun _ hdisciplined => ⟨hdisciplined.rests, ?_, hdisciplined.alone⟩
    exact fun other attempt hmem => hdisciplined.apart other attempt (mem_finish hmem).2
  · exact fun _ _ hpermanent => ⟨hpermanent.quiet.of_trace rfl hshut, hpermanent.held,
      fun hclosed => hshut (hpermanent.shut hclosed)⟩

omit ha in
theorem moves_settle {connection : ConnectionId} {ready : Ready} {closed : Bool} (h : s.Sound)
    (hready : ∀ error, ready = .rejected error → closed = true) :
    s.Moves orderly firm (s.settle connection ready closed) := by
  unfold settle
  split
  · case isTrue hpending =>
      have hconnections : ∀ other, Function.update s.connections connection ⟨ready, closed⟩ other =
          if other = connection then ⟨ready, closed⟩ else s.connections other := by
        intro other
        rw [Function.update_apply]
      have hshut : s.Shut → Shut { s with
          connections := Function.update s.connections connection ⟨ready, closed⟩ } := fun hshut =>
        ⟨hshut.closed, hshut.closing, hshut.cleared, hshut.state, hshut.connection,
          hshut.reconnectTimer, hshut.refreshTimer, hshut.subscriptions⟩
      have hrefl : s.Moves orderly firm s := .refl h
      refine { hrefl with
        sound := ⟨{ h with refused := ?_ }, ?_⟩, dropped := fun _ => .inl, resolved := ?_, lost := ?_
        disciplined := ?_, permanent := ?_ }
      · intro other error hrejected
        simp only [hconnections] at hrejected ⊢
        split at hrejected
        · case isTrue heq =>
            rw [if_pos heq]
            exact hready error hrejected
        · case isFalse hne =>
            rw [if_neg hne]
            exact h.refused other error hrejected
      · intro other hborn hopen
        apply h.awaited other hborn
        simp only [hconnections] at hopen
        split at hopen
        · case isTrue heq =>
            rw [heq]
            simpa using hpending.2.2
        · exact hopen
      · intro other hello hresolved
        simp only [hconnections]
        rw [if_neg, hresolved]
        rintro rfl
        rw [hpending.2.1] at hresolved
        cases hresolved
      · intro other hclosed
        simp only [hconnections]
        rw [if_neg, hclosed]
        rintro rfl
        simp [hclosed] at hpending
      · exact fun _ hdisciplined => ⟨hdisciplined.rests, hdisciplined.apart, hdisciplined.alone⟩
      · exact fun _ _ hpermanent => ⟨hpermanent.quiet.of_trace rfl hshut, hpermanent.held,
          fun hclosed => hshut (hpermanent.shut hclosed)⟩
  · exact .refl h

omit ha in
theorem moves_openConnection {id : AttemptId} {attempt : ConnectAttempt} (h : s.Sound)
    (hmem : s.attempts id = some attempt) (hwaiting : attempt.awaits = none) :
    s.Moves orderly firm (s.openConnection id attempt) := by
  have hattempts : ∀ other next, (s.openConnection id attempt).attempts other = some next →
      ∃ before, s.attempts other = some before ∧ next.generation = before.generation ∧
        next.kind = before.kind := by
    intro other next hnext
    simp only [openConnection, Function.update_apply] at hnext
    split at hnext
    · case isTrue heq =>
        obtain rfl := Option.some.inj hnext
        exact ⟨attempt, heq ▸ hmem, rfl, rfl⟩
    · exact ⟨next, hnext, rfl, rfl⟩
  have hshut : s.Shut → (s.openConnection id attempt).Shut := fun hshut =>
    ⟨hshut.closed, hshut.closing, hshut.cleared, hshut.state, hshut.connection,
      hshut.reconnectTimer, hshut.refreshTimer, hshut.subscriptions⟩
  have hrefl : s.Moves orderly firm s := .refl h
  refine { hrefl with
    sound := ⟨⟨h.detached, h.tracked, h.ended, ?_, ?_, ?_, ?_, h.refused⟩, ?_⟩
    disciplined := ?_, permanent := ?_ }
  · intro other hle
    simp only [openConnection, Function.update_apply]
    rw [if_neg, h.pending other hle]
    rintro rfl
    have hnone := h.pending other hle
    rw [hmem] at hnone
    cases hnone
  · intro other next hnext
    obtain ⟨before, hbefore, hgeneration, -⟩ := hattempts other next hnext
    exact hgeneration ▸ h.bounded other before hbefore
  · intro hclosed other next hnext
    obtain ⟨before, hbefore, hgeneration, -⟩ := hattempts other next hnext
    exact hgeneration ▸ h.past hclosed other before hbefore
  · intro i j first second hfirst hsecond hkind hkind' hsame
    obtain ⟨before, hbefore, hgeneration, hsort⟩ := hattempts i first hfirst
    obtain ⟨before', hbefore', hgeneration', hsort'⟩ := hattempts j second hsecond
    apply h.distinct i j before before' hbefore hbefore'
    · exact hsort ▸ hkind
    · exact hsort' ▸ hkind'
    · rw [← hgeneration, ← hgeneration', hsame]
  · intro connection hborn hopen
    have hupdated : (s.openConnection id attempt).attempts id =
        some { attempt with awaits := some s.nextConnection } := by
      simp [openConnection]
    by_cases hnew : connection = s.nextConnection
    · exact .inr ⟨id, _, hupdated, hnew ▸ rfl⟩
    · have hborn' : connection < s.nextConnection := by
        have hborn' : connection < s.nextConnection + 1 := hborn
        exact Nat.lt_of_le_of_ne (Nat.le_of_lt_succ hborn') hnew
      rcases h.awaited connection hborn' hopen with hadopted | ⟨other, waiting, hother, hawaits⟩
      · exact .inl hadopted
      · refine .inr ⟨other, waiting, ?_, hawaits⟩
        simp only [openConnection, Function.update_apply]
        rw [if_neg, hother]
        rintro rfl
        rw [hmem] at hother
        obtain rfl := Option.some.inj hother
        rw [hwaiting] at hawaits
        cases hawaits
  · refine fun _ hdisciplined => ⟨hdisciplined.rests, ?_, hdisciplined.alone⟩
    intro other next hnext hcurrent hkind
    obtain ⟨before, hbefore, hgeneration, hsort⟩ := hattempts other next hnext
    exact hdisciplined.apart other before hbefore (hgeneration ▸ hcurrent) (hsort ▸ hkind)
  · exact fun _ _ hpermanent => ⟨hpermanent.quiet.of_trace rfl hshut, hpermanent.held,
      fun hclosed => hshut (hpermanent.shut hclosed)⟩

theorem Honest.moves_drop (connection : ConnectionId) (h : s.Sound) :
    s.Moves orderly firm (s.drop a connection) := by
  unfold StreamClient.drop
  split
  · exact .refl h
  · have hsettled : s.Moves orderly firm (s.settle connection (.rejected handshakeClosed) true) :=
      moves_settle h fun _ _ => rfl
    exact hsettled.andThen (ha.moves_closeConnection connection)

omit ha in
theorem moves_expire {timer : TimerId × ClientTimer} (h : s.Sound) (hmem : timer ∈ s.timers) :
    s.Moves orderly firm (s.expire timer) := by
  have htimers : ∀ entry ∈ (s.expire timer).timers, entry ∈ s.timers ∧ entry.1 ≠ timer.1 := by
    intro entry hentry
    have hcleared : entry ∈ (s.clearTimer (some timer.1)).timers := by
      obtain ⟨id, _ | expiresAt⟩ := timer <;> exact hentry
    obtain ⟨hbefore, hne⟩ := mem_clearTimer.mp hcleared
    exact ⟨hbefore, fun heq => hne (congrArg some heq)⟩
  -- The handle refers to one timer only, and this one is gone.
  have hheld : s.Held → (s.expire timer).Held := by
    intro hheld entry hentry
    obtain ⟨hbefore, hne⟩ := htimers entry hentry
    have hhandle := hheld entry hbefore
    have hfired := hheld timer hmem
    obtain ⟨id, _ | expiresAt⟩ := timer <;> obtain ⟨other, _ | expiresAt'⟩ := entry
    · exact absurd (Option.some.inj (hhandle.symm.trans hfired)) hne
    · exact hhandle
    · exact hhandle
    · exact absurd (Option.some.inj (hhandle.symm.trans hfired)) hne
  have hshut : s.Shut → (s.expire timer).Shut := by
    intro hshut
    obtain ⟨id, _ | expiresAt⟩ := timer
    · exact ⟨hshut.closed, hshut.closing, hshut.cleared, hshut.state, hshut.connection, rfl,
        hshut.refreshTimer, hshut.subscriptions⟩
    · exact ⟨hshut.closed, hshut.closing, hshut.cleared, hshut.state, hshut.connection,
        hshut.reconnectTimer, rfl, hshut.subscriptions⟩
  have hrefl : s.Moves orderly firm s := .refl h
  obtain ⟨id, kind⟩ := timer
  cases kind <;>
    refine { hrefl with sound := { h with }, disciplined := ?_, permanent := ?_ } <;>
    first
      | exact fun _ hdisciplined => ⟨fun entry hentry => hdisciplined.rests entry (htimers entry hentry).1,
          hdisciplined.apart, hdisciplined.alone⟩
      | exact fun _ _ hpermanent => ⟨hpermanent.quiet.of_trace rfl hshut, hheld hpermanent.held,
          fun hclosed => hshut (hpermanent.shut hclosed)⟩

theorem Honest.moves_fire {timer : TimerId × ClientTimer} (h : s.Sound) (hmem : timer ∈ s.timers)
    (hidle : orderly → timer.2 = .reconnect → s.connection = none)
    (hopen : firm → s.closed = false) : s.Moves orderly firm (s.fire a timer) := by
  have hexpired : s.Moves orderly firm (s.expire timer) := moves_expire h hmem
  obtain ⟨id, _ | expiresAt⟩ := timer
  · unfold fire
    dsimp only
    split
    · exact hexpired.andThen fun h => ha.moves_setState .idle h fun hf _ => hopen hf
    · exact hexpired.andThen fun h => ha.moves_connect h fun ho => hidle ho rfl
  · exact hexpired.andThen moves_refresh

/-! ## Registrations, adoptions and frames -/

omit ha in
theorem sound_track {id : SubscriptionId} (h : s.Sound) : (s.track id).Sound := by
  have hsubset : s.subscriptions ⊆ (s.track id).subscriptions := by
    intro other hmem
    unfold track
    dsimp only [emit]
    split
    · exact hmem
    · exact List.mem_append_left _ hmem
  exact { h with
    tracked := fun other connection hattached => hsubset (h.tracked other connection hattached)
    ended := fun other hdone => List.mem_append_left _ (h.ended other hdone) }

omit ha in
theorem mem_track {id : SubscriptionId} : id ∈ (s.track id).subscriptions := by
  unfold track
  dsimp only [emit]
  split
  · case isTrue hmem => exact hmem
  · simp

/-- `register`, once the subscription is tracked. -/
theorem Honest.moves_register {id : SubscriptionId} (h : s.Sound) (hopen : s.closed = false) :
    (s.track id).Moves orderly firm (s.register a id) := by
  unfold StreamClient.register
  rw [if_neg (by simp [hopen])]
  dsimp only
  have htracked : (s.track id).Sound := sound_track h
  split
  · exact (ha.detach id _ htracked).moves
  · split
    · exact ha.moves_attach id _ htracked (.inl mem_track)
    · exact ha.moves_ensureConnection htracked

end Stretches

end StreamClient

end StreamOtter
