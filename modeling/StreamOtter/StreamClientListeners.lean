import StreamOtter.StreamClient

/-!
# What the application can do to the client

The application's listeners run in the middle of the client's own stretches and may call
`close()`, `reconnect()`, `subscribe()` and any subscription.  `Yields` says once what a
notification can change, and `Sound` what holds whenever one runs; an application that
follows a script respects both.
-/

namespace StreamOtter

/-- Whether a record can come from what listeners do. -/
def ClientRecord.nested : ClientRecord → Bool
  | .attached _ _ | .ended _ | .state _ | .closed _ => true
  | .started cause _ => cause = .explicit
  | _ => false

def ClientRecord.isClosed : ClientRecord → Bool
  | .closed _ => true
  | _ => false

/-- Whether a record may follow a call of `close()`. -/
def ClientRecord.final : ClientRecord → Bool
  | .closed _ | .ended _ => true
  | _ => false

namespace StreamClient

/-- What `close()` leaves behind. -/
structure Shut (s : StreamClient) : Prop where
  closed : s.closed = true
  closing : s.closing = true
  cleared : s.cleared = true
  state : s.state = .closed
  connection : s.connection = none
  reconnectTimer : s.reconnectTimer = none
  refreshTimer : s.refreshTimer = none
  subscriptions : s.subscriptions = []

/-- Once `close()` is done it stays in force, and nothing starts any more. -/
structure Quiet (s : StreamClient) : Prop where
  shut : ∀ site, .closed site ∈ s.trace → s.Shut
  last : s.trace.Pairwise fun earlier later => earlier.isClosed → later.final

/-- Every armed timer is the one its handle refers to. -/
def Held (s : StreamClient) : Prop :=
  ∀ timer ∈ s.timers, s.handleOf timer.2 = some timer.1

structure Tidy (s : StreamClient) : Prop where
  detached : ∀ id, (s.managed id).terminal = true → (s.managed id).attached = none
  tracked : ∀ id connection, (s.managed id).attached = some connection → id ∈ s.subscriptions
  ended : ∀ id, (s.managed id).terminal = true → .ended id ∈ s.trace
  pending : ∀ id, s.nextAttempt ≤ id → s.attempts id = none
  bounded : ∀ id attempt, s.attempts id = some attempt → attempt.generation ≤ s.generation
  /-- After `close()` no attempt is current. -/
  past : s.closed = true → ∀ id attempt, s.attempts id = some attempt →
    attempt.generation ≠ s.generation
  /-- Every call of `#connect` has a generation of its own. -/
  distinct : ∀ i j first second, s.attempts i = some first → s.attempts j = some second →
    first.kind = .connect → second.kind = .connect → first.generation = second.generation → i = j
  refused : ∀ connection error, (s.connections connection).ready = .rejected error →
    (s.connections connection).closed = true

/-- The connection is adopted, or an attempt waits for it. -/
def Awaited (s : StreamClient) (connection : ConnectionId) : Prop :=
  s.connection = some connection ∨
    ∃ id attempt, s.attempts id = some attempt ∧ attempt.awaits = some connection

/-- What holds whenever listeners run. -/
structure Sound (s : StreamClient) : Prop extends s.Tidy where
  awaited : ∀ connection < s.nextConnection, (s.connections connection).closed = false →
    s.Awaited connection

/-- What a notification can change. -/
structure Yields (s s' : StreamClient) : Prop where
  sound : s'.Sound
  site : s'.site = s.site
  identity : s'.identityKey = s.identityKey
  generation : s.generation ≤ s'.generation
  kept : s'.generation = s.generation →
    s'.connection = s.connection ∧ s'.attempts = s.attempts ∧ s'.closed = s.closed
  moved : s.generation < s'.generation → s'.connection = none ∧
    ∀ connection, s.connection = some connection → (s'.connections connection).closed = true
  pending : ∀ id attempt, s.attempts id = some attempt → s'.attempts id = some attempt
  begun : ∀ id attempt, s'.attempts id = some attempt → s.attempts id = some attempt ∨
    s.generation < attempt.generation ∧ attempt.awaits = none ∧ attempt.kind = .connect
  ready : ∀ connection, (s'.connections connection).ready = (s.connections connection).ready
  lost : ∀ connection, (s.connections connection).closed = true →
    (s'.connections connection).closed = true
  timers : ∀ timer ∈ s'.timers, timer ∈ s.timers
  held : s.Held → s'.Held
  reconnectTimer : s.reconnectTimer = none → s'.reconnectTimer = none
  refreshTimer : s.refreshTimer = none → s'.refreshTimer = none
  terminal : ∀ id, (s.managed id).terminal = true → (s'.managed id).terminal = true
  bound : ∀ id connection, (s'.managed id).attached = some connection →
    (s.managed id).attached = some connection
  subset : s'.subscriptions ⊆ s.subscriptions
  left : ∀ id ∈ s.subscriptions, id ∉ s'.subscriptions → (s'.managed id).terminal = true
  grown : ∃ more, s'.trace = s.trace ++ more ∧ ∀ o ∈ more, o.nested = true
  stays : s.closed = true → s'.closed = true
  state : s.closed = true → s.state = .closed → s'.state = .closed
  shut : s.Shut → s'.Shut
  quiet : s.Quiet → s'.Quiet
  closes : s.closed = false → s'.closed = true → s'.Shut ∧ .closed s.site ∈ s'.trace

theorem Shut.not_open {s : StreamClient} (h : s.Shut) : s.closed ≠ false := by
  rw [h.closed]
  simp

theorem Shut.start {s : StreamClient} {kind : AttemptKind} {generation : ℕ} (h : s.Shut) :
    (s.start kind generation).Shut :=
  ⟨h.closed, h.closing, h.cleared, h.state, h.connection, h.reconnectTimer, h.refreshTimer,
    h.subscriptions⟩

namespace Yields

variable {s s' s'' : StreamClient}

theorem refl (h : s.Sound) : s.Yields s where
  sound := h
  site := rfl
  identity := rfl
  generation := Nat.le_refl _
  kept := fun _ => ⟨rfl, rfl, rfl⟩
  moved := fun hlt => absurd hlt (Nat.lt_irrefl _)
  pending := fun _ _ => id
  begun := fun _ _ => .inl
  ready := fun _ => rfl
  lost := fun _ => id
  timers := fun _ => id
  held := id
  reconnectTimer := id
  refreshTimer := id
  terminal := fun _ => id
  bound := fun _ _ => id
  subset := List.Subset.refl _
  left := fun _ hmem hnot => absurd hmem hnot
  grown := ⟨[], by simp⟩
  stays := id
  state := fun _ => id
  shut := id
  quiet := id
  closes := by
    intro hopen hclosed
    rw [hopen] at hclosed
    cases hclosed

/-- What one notification and then another can change. -/
theorem trans (h : s.Yields s') (h' : s'.Yields s'') : s.Yields s'' where
  sound := h'.sound
  site := h'.site.trans h.site
  identity := h'.identity.trans h.identity
  generation := Nat.le_trans h.generation h'.generation
  kept := by
    intro heq
    have hle := h.generation
    have hle' := h'.generation
    obtain ⟨hconnection, hattempts, hclosed⟩ := h.kept (by omega)
    obtain ⟨hconnection', hattempts', hclosed'⟩ := h'.kept (by omega)
    exact ⟨hconnection'.trans hconnection, hattempts'.trans hattempts, hclosed'.trans hclosed⟩
  moved := by
    intro hlt
    have hle := h.generation
    have hle' := h'.generation
    by_cases hfirst : s.generation < s'.generation
    · obtain ⟨hnone, hclosed⟩ := h.moved hfirst
      constructor
      · by_cases hsecond : s'.generation < s''.generation
        · exact (h'.moved hsecond).1
        · rw [(h'.kept (by omega)).1, hnone]
      · intro connection hconnection
        exact h'.lost connection (hclosed connection hconnection)
    · have hsame := h.kept (by omega)
      obtain ⟨hnone, hclosed⟩ := h'.moved (by omega)
      refine ⟨hnone, ?_⟩
      intro connection hconnection
      apply hclosed
      rw [hsame.1, hconnection]
  pending := fun id attempt hmem => h'.pending id attempt (h.pending id attempt hmem)
  begun := by
    intro id attempt hmem
    rcases h'.begun id attempt hmem with hmem | ⟨hlt, hnew⟩
    · exact h.begun id attempt hmem
    · exact .inr ⟨Nat.lt_of_le_of_lt h.generation hlt, hnew⟩
  ready := fun connection => (h'.ready connection).trans (h.ready connection)
  lost := fun connection hclosed => h'.lost connection (h.lost connection hclosed)
  timers := fun timer hmem => h.timers timer (h'.timers timer hmem)
  held := fun hheld => h'.held (h.held hheld)
  reconnectTimer := fun hnone => h'.reconnectTimer (h.reconnectTimer hnone)
  refreshTimer := fun hnone => h'.refreshTimer (h.refreshTimer hnone)
  terminal := fun id hterminal => h'.terminal id (h.terminal id hterminal)
  bound := fun id connection hbound => h.bound id connection (h'.bound id connection hbound)
  subset := List.Subset.trans h'.subset h.subset
  left := by
    intro id hmem hnot
    by_cases hmid : id ∈ s'.subscriptions
    · exact h'.left id hmid hnot
    · exact h'.terminal id (h.left id hmem hmid)
  grown := by
    obtain ⟨more, htrace, hnested⟩ := h.grown
    obtain ⟨rest, htrace', hnested'⟩ := h'.grown
    refine ⟨more ++ rest, ?_, ?_⟩
    · rw [htrace', htrace, List.append_assoc]
    · intro o hmem
      rcases List.mem_append.mp hmem with hmem | hmem
      · exact hnested o hmem
      · exact hnested' o hmem
  stays := fun hclosed => h'.stays (h.stays hclosed)
  state := fun hclosed hstate => h'.state (h.stays hclosed) (h.state hclosed hstate)
  shut := fun hshut => h'.shut (h.shut hshut)
  quiet := fun hquiet => h'.quiet (h.quiet hquiet)
  closes := by
    intro hopen hclosed
    by_cases hmid : s'.closed = true
    · obtain ⟨hshut, hrecord⟩ := h.closes hopen hmid
      obtain ⟨more, htrace, -⟩ := h'.grown
      refine ⟨h'.shut hshut, ?_⟩
      rw [htrace]
      exact List.mem_append_left _ hrecord
    · obtain ⟨hshut, hrecord⟩ := h'.closes (Bool.eq_false_iff.mpr hmid) hclosed
      rw [h.site] at hrecord
      exact ⟨hshut, hrecord⟩

end Yields

theorem Yields.andThen {s s' s'' : StreamClient} (h : s.Yields s')
    (hnext : s'.Sound → s'.Yields s'') : s.Yields s'' :=
  h.trans (hnext h.sound)

/-- The application respects what a notification can change. -/
structure Honest (a : Application) : Prop where
  notify : ∀ id (s : StreamClient), s.Sound → s.Yields (a.notify id s).1
  report : ∀ id (s : StreamClient), s.Sound → s.Yields (a.report id s)
  announce : ∀ s : StreamClient, s.Sound → s.Yields (a.announce s)

theorem isClosed_iff {o : ClientRecord} : o.isClosed = true ↔ ∃ site, o = .closed site := by
  cases o <;> simp [ClientRecord.isClosed]

/-- Before `close()` is done, anything may be recorded. -/
theorem Quiet.append {s s' : StreamClient} {more : List ClientRecord} (h : s.Quiet)
    (hshut : s.Shut → s'.Shut) (htrace : s'.trace = s.trace ++ more)
    (hmore : ∀ o ∈ more, o.isClosed = false ∧ (s.Shut → o.final = true)) : s'.Quiet := by
  constructor
  · intro site hmem
    rw [htrace] at hmem
    rcases List.mem_append.mp hmem with hmem | hmem
    · exact hshut (h.shut site hmem)
    · exact absurd (hmore _ hmem).1 (by simp [ClientRecord.isClosed])
  · rw [htrace, List.pairwise_append]
    refine ⟨h.last, ?_, ?_⟩
    · apply List.pairwise_of_forall_mem_list
      intro earlier hmem later _ hclosed
      rw [(hmore earlier hmem).1] at hclosed
      cases hclosed
    · intro earlier hmem later hmem' hclosed
      obtain ⟨site, rfl⟩ := isClosed_iff.mp hclosed
      exact (hmore later hmem').2 (h.shut site hmem)

theorem Quiet.of_trace {s s' : StreamClient} (h : s.Quiet) (htrace : s'.trace = s.trace)
    (hshut : s.Shut → s'.Shut) : s'.Quiet := by
  have happend : s'.trace = s.trace ++ [] := by rw [htrace, List.append_nil]
  exact h.append hshut happend (by simp)

theorem sound_emit {s : StreamClient} {o : ClientRecord} (h : s.Sound) : (s.emit o).Sound :=
  { h with ended := fun id hdone => List.mem_append_left _ (h.ended id hdone) }

/-! ## Changes of one subscription -/

section Manage

variable {s : StreamClient} {id : SubscriptionId} {subscription : ManagedSubscription}
  {tracked : List SubscriptionId} {more : List ClientRecord}

/-- A change of one subscription that does not attach it elsewhere or revive it. -/
theorem yields_manage (h : s.Sound)
    (hterminal : (s.managed id).terminal = true → subscription.terminal = true)
    (hbound : ∀ connection, subscription.attached = some connection →
      (s.managed id).attached = some connection ∧ subscription.terminal = false)
    (htracked : tracked = s.subscriptions ∨
      tracked = s.subscriptions.filter (· ≠ id) ∧ subscription.terminal = true)
    (hended : subscription.terminal = true → (s.managed id).terminal = true ∨ .ended id ∈ more)
    (hnested : ∀ o ∈ more, o.nested = true)
    (hmore : ∀ o ∈ more, o.isClosed = false ∧ (s.Shut → o.final = true)) :
    s.Yields { s.manage id subscription with
      subscriptions := tracked
      trace := s.trace ++ more } := by
  have hmanaged : ∀ other, (s.manage id subscription).managed other =
      if other = id then subscription else s.managed other := by
    intro other
    simp [manage, Function.update_apply]
  have hsubset : tracked ⊆ s.subscriptions := by
    rcases htracked with rfl | ⟨rfl, -⟩
    · exact List.Subset.refl _
    · exact List.filter_subset_self _
  have hshut : s.Shut → Shut { s.manage id subscription with
      subscriptions := tracked
      trace := s.trace ++ more } := by
    intro hshut
    refine ⟨hshut.closed, hshut.closing, hshut.cleared, hshut.state, hshut.connection,
      hshut.reconnectTimer, hshut.refreshTimer, ?_⟩
    have hempty : tracked ⊆ [] := hshut.subscriptions ▸ hsubset
    exact List.subset_nil.mp hempty
  constructor
  case sound =>
    refine ⟨⟨?_, ?_, ?_, h.pending, h.bounded, h.past, h.distinct, h.refused⟩, h.awaited⟩
    · intro other hother
      simp only [hmanaged] at hother ⊢
      split at hother
      · case isTrue heq =>
          rw [if_pos heq]
          by_contra hne
          obtain ⟨connection, hconnection⟩ := Option.ne_none_iff_exists'.mp hne
          rw [(hbound connection hconnection).2] at hother
          cases hother
      · case isFalse hne =>
          rw [if_neg hne]
          exact h.detached other hother
    · intro other connection hother
      simp only [hmanaged] at hother ⊢
      split at hother
      · case isTrue heq =>
          obtain ⟨hbefore, hlive⟩ := hbound connection hother
          have hmem := h.tracked id connection hbefore
          rcases htracked with rfl | ⟨-, hdone⟩
          · rw [heq]
            exact hmem
          · rw [hlive] at hdone
            cases hdone
      · case isFalse hne =>
          have hmem := h.tracked other connection hother
          rcases htracked with rfl | ⟨rfl, -⟩
          · exact hmem
          · exact List.mem_filter.mpr ⟨hmem, by simpa using hne⟩
    · intro other hother
      simp only [hmanaged] at hother
      apply List.mem_append.mpr
      split at hother
      · case isTrue heq =>
          rw [heq]
          rcases hended hother with hbefore | hrecord
          · exact .inl (h.ended id hbefore)
          · exact .inr hrecord
      · exact .inl (h.ended other hother)
  case terminal =>
    intro other hother
    simp only [hmanaged]
    split
    · case isTrue heq => exact hterminal (heq ▸ hother)
    · exact hother
  case bound =>
    intro other connection hother
    simp only [hmanaged] at hother
    split at hother
    · case isTrue heq => exact heq ▸ (hbound connection hother).1
    · exact hother
  case subset => exact hsubset
  case left =>
    intro other hmem hnot
    simp only [hmanaged]
    rcases htracked with rfl | ⟨rfl, hdone⟩
    · exact absurd hmem hnot
    · have heq : other = id := by
        by_contra hne
        exact hnot (List.mem_filter.mpr ⟨hmem, by simpa using hne⟩)
      rw [if_pos heq]
      exact hdone
  case grown => exact ⟨more, rfl, hnested⟩
  case shut => exact hshut
  case quiet => exact fun hquiet => hquiet.append hshut rfl hmore
  case closes =>
    intro hopen hclosed
    have hclosed' : s.closed = true := hclosed
    rw [hopen] at hclosed'
    cases hclosed'
  all_goals first
    | rfl
    | exact Nat.le_refl _
    | exact fun _ => ⟨rfl, rfl, rfl⟩
    | exact fun hlt => absurd hlt (Nat.lt_irrefl _)
    | exact fun _ _ hmem => hmem
    | exact fun _ _ hmem => .inl hmem
    | exact fun _ => rfl
    | exact fun _ hmem => hmem
    | exact fun hmem => hmem

theorem yields_restate (h : s.Sound) (hterminal : subscription.terminal = (s.managed id).terminal)
    (hattached : subscription.attached = (s.managed id).attached ∨ subscription.attached = none) :
    s.Yields (s.manage id subscription) := by
  have hyields : s.Yields { s.manage id subscription with
      subscriptions := s.subscriptions
      trace := s.trace ++ [] } := by
    apply yields_manage h
    · exact fun hbefore => hterminal.trans hbefore
    · intro connection hconnection
      rcases hattached with heq | hnone
      · refine ⟨heq ▸ hconnection, ?_⟩
        rw [hterminal]
        by_contra hdone
        have hdetached := h.detached id (by simpa using hdone)
        rw [← heq, hconnection] at hdetached
        cases hdetached
      · rw [hnone] at hconnection
        cases hconnection
    · exact .inl rfl
    · exact fun hdone => .inl (hterminal ▸ hdone)
    · simp
    · simp
  rwa [List.append_nil] at hyields

theorem yields_retire (h : s.Sound) : s.Yields (s.retire id) := by
  apply yields_manage h
  · simp
  · simp
  · exact .inr ⟨rfl, rfl⟩
  · simp
  · simp [ClientRecord.nested]
  · simp [ClientRecord.isClosed, ClientRecord.final]

/-- The subscription is attached again to the connection it has. -/
theorem yields_reattach {connection : ConnectionId} (h : s.Sound)
    (hattached : (s.managed id).attached = some connection) :
    s.Yields ((s.manage id { s.managed id with attached := some connection }).emit
      (.attached id connection)) := by
  have hlive : (s.managed id).terminal = false := by
    by_contra hdone
    have hdetached := h.detached id (by simpa using hdone)
    rw [hattached] at hdetached
    cases hdetached
  apply yields_manage h
  · simp
  · intro other hother
    exact ⟨hattached.trans hother, hlive⟩
  · exact .inl rfl
  · simp [hlive]
  · simp [ClientRecord.nested]
  · simp only [List.mem_singleton, forall_eq, ClientRecord.isClosed, true_and]
    intro hshut
    have hmem := h.tracked id connection hattached
    rw [hshut.subscriptions] at hmem
    cases hmem

end Manage

/-! ## Calls of a subscription -/

/-- Calls in turn, each of which is respected. -/
theorem yields_foldl {α : Type} {s : StreamClient} {f : StreamClient → α → StreamClient}
    (hf : ∀ x (s : StreamClient), s.Sound → s.Yields (f s x)) (xs : List α) (h : s.Sound) :
    s.Yields (xs.foldl f s) := by
  induction xs generalizing s with
  | nil => exact .refl h
  | cons x xs ih => exact (hf x s h).andThen ih

section Subscription

variable {a : Application} (ha : Honest a) {s : StreamClient} (id : SubscriptionId)

include ha

theorem Honest.change (state : SubscriptionState) (reason : Option ErrorCode) (force : Bool)
    (h : s.Sound) : s.Yields (s.change a id state reason force) := by
  unfold StreamClient.change
  dsimp only
  split
  · exact .refl h
  · split
    · exact .refl h
    · have hset : s.Yields (s.manage id { s.managed id with state := state, reason := reason }) :=
        yields_restate h rfl (.inl rfl)
      exact hset.andThen (ha.notify id _)

theorem Honest.terminate (state : SubscriptionState) (reason : Option ErrorCode) (h : s.Sound) :
    s.Yields (s.terminate a id state reason) := by
  unfold StreamClient.terminate
  split
  · exact .refl h
  · have hretired : s.Yields (s.retire id) := yields_retire h
    have hchanged := hretired.andThen (ha.change id state reason true)
    exact hchanged.andThen fun h => yields_restate h rfl (.inl rfl)

theorem Honest.terminateLocally (state : SubscriptionState) (code : ErrorCode) (report : Bool)
    (h : s.Sound) : s.Yields (s.terminateLocally a id state code report) := by
  unfold StreamClient.terminateLocally
  split
  · exact .refl h
  · split
    · exact (ha.report id s h).andThen (ha.terminate id state (some code))
    · exact ha.terminate id state (some code) h

theorem Honest.listenerFailed (h : s.Sound) : s.Yields (s.listenerFailed a id) := by
  unfold StreamClient.listenerFailed
  split
  · exact .refl h
  · exact (ha.report id s h).andThen (ha.terminate id .failed (some .handlerFailed))

theorem Honest.detach (reason : Option ErrorCode) (h : s.Sound) :
    s.Yields (s.detach a id reason) := by
  have hdetached : s.Yields (s.manage id { s.managed id with attached := none }) :=
    yields_restate h rfl (.inr rfl)
  unfold StreamClient.detach
  dsimp only
  split
  · exact hdetached
  · exact hdetached.andThen (ha.change id .stale reason false)

theorem Honest.reattach {connection : ConnectionId} (h : s.Sound)
    (hattached : (s.managed id).attached = some connection) :
    s.Yields (s.attach a id connection) := by
  unfold StreamClient.attach
  split
  · exact .refl h
  · exact (yields_reattach h hattached).andThen (ha.change id .authorizing none false)

theorem Honest.perform (effect : Effect) (h : s.Sound) : s.Yields (s.perform a id effect) := by
  unfold StreamClient.perform
  split
  · exact .refl h
  · cases effect with
    | changed state reason => exact ha.change id state reason false h
    | reported => exact ha.report id s h
    | ended state reason => exact ha.terminate id state reason h
    | reattached =>
        dsimp only
        split
        · exact .refl h
        · case h_2 connection hattached =>
            split
            · exact ha.reattach id h hattached
            · exact .refl h

theorem Honest.performAll (effects : List Effect) (h : s.Sound) :
    s.Yields (s.performAll a id effects) :=
  yields_foldl (fun effect _ => ha.perform id effect) effects h

theorem Honest.detachAll (reason : Option ErrorCode) (h : s.Sound) :
    s.Yields (s.detachAll a reason) := by
  apply yields_foldl _ _ h
  intro id s h
  split
  · exact ha.detach id reason h
  · exact .refl h

theorem Honest.terminateAll (code : ErrorCode) (report : Bool) (h : s.Sound) :
    s.Yields (s.terminateAll a code report) :=
  yields_foldl (fun id _ => ha.terminateLocally id .closed code report) _ h

theorem Honest.requireAuthAll (h : s.Sound) : s.Yields (s.requireAuthAll a) :=
  yields_foldl (fun id _ => ha.detach id (some .unauthenticated)) _ h

/-- A subscription that `terminateLocally` reaches is over. -/
theorem Honest.terminated (state : SubscriptionState) (code : ErrorCode) (report : Bool)
    (h : s.Sound) : ((s.terminateLocally a id state code report).managed id).terminal = true := by
  unfold StreamClient.terminateLocally
  split
  · case isTrue hdone => exact hdone
  · have hend : ∀ s : StreamClient, s.Sound →
        ((s.terminate a id state (some code)).managed id).terminal = true := by
      intro s h
      unfold StreamClient.terminate
      split
      · case isTrue hdone => exact hdone
      · have hretired : s.Yields (s.retire id) := yields_retire h
        have hchanged := ha.change id state (some code) true hretired.sound
        have hdone : ((s.retire id).managed id).terminal = true := by simp [retire, emit, manage]
        simpa [manage] using hchanged.terminal id hdone
    split
    · exact hend _ (ha.report id s h).sound
    · exact hend s h

theorem Honest.terminated_all (code : ErrorCode) (report : Bool) (h : s.Sound) :
    ∀ id ∈ s.subscriptions, ((s.terminateAll a code report).managed id).terminal = true := by
  have hfold : ∀ (ids : List SubscriptionId) (s : StreamClient), s.Sound → ∀ id ∈ ids,
      ((ids.foldl (fun s id => s.terminateLocally a id .closed code report) s).managed
        id).terminal = true := by
    intro ids
    induction ids with
    | nil => simp
    | cons first ids ih =>
        intro s h id hmem
        have hfirst := ha.terminateLocally first .closed code report h
        rcases List.mem_cons.mp hmem with rfl | hmem
        · have hrest := yields_foldl
            (fun id _ => ha.terminateLocally id .closed code report) ids hfirst.sound
          exact hrest.terminal id (ha.terminated id .closed code report h)
        · exact ih _ hfirst.sound id hmem
  exact hfold s.subscriptions s h

end Subscription

/-! ## Calls of the client -/

theorem Yields.connection_none {s s' : StreamClient} (h : s.Yields s') (hnone : s.connection = none) :
    s'.connection = none := by
  by_cases hmoved : s.generation < s'.generation
  · exact (h.moved hmoved).1
  · have hle := h.generation
    rw [(h.kept (by omega)).1, hnone]

section Client

variable {a : Application} (ha : Honest a) {s : StreamClient}

theorem markClosed_of_closed {connection : ConnectionId}
    (hclosed : (s.connections connection).closed = true) : s.markClosed connection = s := by
  have hsame : Function.update s.connections connection
      { s.connections connection with closed := true } = s.connections := by
    rw [← hclosed]
    exact Function.update_eq_self connection s.connections
  unfold markClosed
  rw [hsame]

/-- A connection other than the adopted one closes without a word. -/
theorem closeConnection_other {connection : ConnectionId} (hother : s.connection ≠ some connection) :
    s.closeConnection a connection = s.markClosed connection := by
  have hdisconnect : (s.markClosed connection).handleDisconnect a connection =
      s.markClosed connection := by
    unfold handleDisconnect
    exact if_pos hother
  unfold closeConnection
  split
  · case isTrue hclosed => exact (markClosed_of_closed hclosed).symm
  · dsimp only
    rw [hdisconnect, ite_self]

/-- What `close()` does to the connection, once no subscription is left. -/
theorem closeConnection_last {connection : ConnectionId} (hclosed : s.closed = true)
    (hempty : s.subscriptions = []) (hrefresh : s.refreshTimer = none) :
    { s.closeConnection a connection with connection := none } =
      { s.markClosed connection with connection := none } := by
  by_cases hother : s.connection = some connection
  · unfold closeConnection
    split
    · case isTrue hdone => rw [markClosed_of_closed hdone]
    · dsimp only
      split
      · have hempty' : (s.markClosed connection).subscriptions = [] := hempty
        have hclosed' : (s.markClosed connection).closed = true := hclosed
        have hrefresh' : (s.markClosed connection).refreshTimer = none := hrefresh
        have hother' : (s.markClosed connection).connection = some connection := hother
        generalize s.markClosed connection = s' at *
        simp [handleDisconnect, hother', detachAll, clearRefreshTimer, clearTimer, hempty', hclosed',
          hrefresh']
      · rfl
  · rw [closeConnection_other hother]

theorem markClosed_connections (connection other : ConnectionId) :
    (s.markClosed connection).connections other =
      { s.connections other with
        closed := (s.connections other).closed || decide (other = connection) } := by
  simp only [markClosed, Function.update_apply]
  split
  · case isTrue heq => simp [heq]
  · case isFalse hne => simp [hne]

theorem sound_markClosed (connection : ConnectionId) (h : s.Sound) :
    (s.markClosed connection).Sound := by
  refine ⟨{ h with refused := ?_ }, ?_⟩
  · intro other error hready
    rw [markClosed_connections] at hready ⊢
    simp [h.refused other error hready]
  · intro other hborn hopen
    rw [markClosed_connections] at hopen
    simp only [Bool.or_eq_false_iff] at hopen
    exact h.awaited other hborn hopen.1

theorem mem_clearTimer {timer : Option TimerId} {entry : TimerId × ClientTimer} :
    entry ∈ (s.clearTimer timer).timers ↔ entry ∈ s.timers ∧ some entry.1 ≠ timer := by
  simp [clearTimer]

theorem held_clearReconnectTimer (h : s.Held) : s.clearReconnectTimer.Held := by
  intro timer hmem
  have hmem' : timer ∈ (s.clearTimer s.reconnectTimer).timers := hmem
  obtain ⟨hbefore, hne⟩ := mem_clearTimer.mp hmem'
  have hheld := h timer hbefore
  obtain ⟨id, _ | expiresAt⟩ := timer
  · exact absurd hheld.symm hne
  · exact hheld

theorem held_clearRefreshTimer (h : s.Held) : s.clearRefreshTimer.Held := by
  intro timer hmem
  have hmem' : timer ∈ (s.clearTimer s.refreshTimer).timers := hmem
  obtain ⟨hbefore, hne⟩ := mem_clearTimer.mp hmem'
  have hheld := h timer hbefore
  obtain ⟨id, _ | expiresAt⟩ := timer
  · exact hheld
  · exact absurd hheld.symm hne

include ha

theorem Honest.setState (state : ConnectionState) (h : s.Sound)
    (hopen : s.closed = true → s.state = .closed → state = .closed)
    (hnot : s.state ≠ state → ¬ s.Shut) : s.Yields (s.setState a state) := by
  unfold StreamClient.setState
  split
  · exact .refl h
  · case isFalse hne =>
      have hnot := hnot hne
      have hset : s.Yields ({ s with state := state }.emit (.state state)) := by
        have hrefl := Yields.refl h
        refine { hrefl with sound := ?_, grown := ?_, state := ?_, shut := ?_, quiet := ?_, closes := ?_ }
        · refine { h with ended := ?_ }
          exact fun id hdone => List.mem_append_left _ (h.ended id hdone)
        · exact ⟨[.state state], rfl, by simp [ClientRecord.nested]⟩
        · exact hopen
        · exact fun hshut => absurd hshut hnot
        · intro hquiet
          apply hquiet.append (fun hshut => absurd hshut hnot) rfl
          simp only [List.mem_singleton, forall_eq]
          exact ⟨rfl, fun hshut => absurd hshut hnot⟩
        · intro hbefore hclosed
          have hclosed' : s.closed = true := hclosed
          rw [hbefore] at hclosed'
          cases hclosed'
      exact hset.andThen (ha.announce _)

omit ha in
theorem sound_start {kind : AttemptKind} {generation : ℕ} (h : s.Sound)
    (hle : generation ≤ s.generation) (hover : s.closed = true → generation ≠ s.generation)
    (hnew : kind = .connect → ∀ id attempt, s.attempts id = some attempt →
      attempt.generation ≠ generation) : (s.start kind generation).Sound := by
  have hfresh := h.pending s.nextAttempt (Nat.le_refl _)
  have hattempts : ∀ id attempt, (s.start kind generation).attempts id = some attempt →
      s.attempts id = some attempt ∨ id = s.nextAttempt ∧ attempt = ⟨kind, generation, none⟩ := by
    intro id attempt hmem
    simp only [start, Function.update_apply] at hmem
    split at hmem
    · case isTrue heq => exact .inr ⟨heq, (Option.some.inj hmem).symm⟩
    · exact .inl hmem
  refine ⟨⟨h.detached, h.tracked, h.ended, ?_, ?_, ?_, ?_, h.refused⟩, ?_⟩
  · intro id hle
    have hid : s.nextAttempt + 1 ≤ id := hle
    simp only [start, Function.update_apply]
    rw [if_neg (Nat.ne_of_gt hid)]
    exact h.pending id (Nat.le_of_succ_le hid)
  · intro id attempt hmem
    rcases hattempts id attempt hmem with hmem | ⟨-, rfl⟩
    · exact h.bounded id attempt hmem
    · exact hle
  · intro hclosed id attempt hmem
    rcases hattempts id attempt hmem with hmem | ⟨-, rfl⟩
    · exact h.past hclosed id attempt hmem
    · exact hover hclosed
  · intro i j first second hfirst hsecond hkind hkind' hsame
    rcases hattempts i first hfirst with hfirst | ⟨hi, rfl⟩
    · rcases hattempts j second hsecond with hsecond | ⟨-, rfl⟩
      · exact h.distinct i j first second hfirst hsecond hkind hkind' hsame
      · exact absurd hsame (hnew hkind' i first hfirst)
    · rcases hattempts j second hsecond with hsecond | ⟨hj, -⟩
      · exact absurd hsame.symm (hnew hkind j second hsecond)
      · rw [hi, hj]
  · intro connection hborn hopen
    rcases h.awaited connection hborn hopen with hadopted | ⟨id, attempt, hmem, hawaits⟩
    · exact .inl hadopted
    · refine .inr ⟨id, attempt, ?_, hawaits⟩
      simp only [start, Function.update_apply]
      rw [if_neg, hmem]
      rintro rfl
      rw [hfresh] at hmem
      cases hmem

/-- A new attempt begins: what its notification changes, and the attempt. -/
theorem Honest.dials (explicit : Bool) (h : s.Sound) (hopen : s.closed = false) :
    ∃ s', Yields { s with generation := s.generation + 1, connecting := true } s' ∧
      s.dial a explicit = s'.start .connect (s.generation + 1) ∧ (s.dial a explicit).Sound := by
  unfold StreamClient.dial
  dsimp only
  have hbegun : Sound { s with generation := s.generation + 1, connecting := true } :=
    { h with
      bounded := fun id attempt hmem => Nat.le_succ_of_le (h.bounded id attempt hmem)
      past := fun _ id attempt hmem => Nat.ne_of_lt (Nat.lt_succ_of_le (h.bounded id attempt hmem)) }
  have hset := ha.setState (if s.everConnected && !explicit then .reconnecting else .connecting)
    hbegun (by simp [hopen]) (fun _ hshut => absurd hopen hshut.not_open)
  generalize hs' : StreamClient.setState a (if s.everConnected && !explicit then .reconnecting
    else .connecting) { s with generation := s.generation + 1, connecting := true } = s' at hset
  refine ⟨s', hset, rfl, ?_⟩
  apply sound_start hset.sound hset.generation
  · intro hclosed hsame
    have hkept := (hset.kept hsame.symm).2.2
    rw [hclosed] at hkept
    exact absurd (hkept.trans hopen) (by simp)
  · -- No listener has started an attempt of the same generation.
    intro _ id attempt hmem
    rcases hset.begun id attempt hmem with hmem | ⟨hgeneration, -⟩
    · exact Nat.ne_of_lt (Nat.lt_succ_of_le (h.bounded id attempt hmem))
    · exact Nat.ne_of_gt hgeneration

/-- A new attempt begins while there is no connection. -/
theorem Honest.dial (explicit : Bool) (h : s.Sound) (hnone : s.connection = none)
    (hopen : s.closed = false) : s.Yields (s.dial a explicit) := by
  obtain ⟨s', hset, heq, hsound⟩ := ha.dials explicit h hopen
  rw [heq] at hsound ⊢
  have hlt : s.generation < s'.generation := hset.generation
  have hfresh := hset.sound.pending s'.nextAttempt (Nat.le_refl _)
  refine { hset with
    sound := hsound, generation := ?_, kept := ?_, moved := ?_, pending := ?_, begun := ?_, shut := ?_,
    quiet := ?_, closes := ?_ }
  · exact Nat.le_of_lt hlt
  · intro hsame
    have hsame' : s'.generation = s.generation := hsame
    omega
  · refine fun _ => ⟨hset.connection_none hnone, ?_⟩
    intro connection hconnection
    rw [hnone] at hconnection
    cases hconnection
  · intro id attempt hmem
    have hmem' := hset.pending id attempt hmem
    simp only [start, Function.update_apply]
    rw [if_neg, hmem']
    rintro rfl
    rw [hfresh] at hmem'
    cases hmem'
  · intro id attempt hmem
    simp only [start, Function.update_apply] at hmem
    split at hmem
    · obtain rfl := Option.some.inj hmem
      exact .inr ⟨Nat.lt_succ_self _, rfl, rfl⟩
    · rcases hset.begun id attempt hmem with hmem | ⟨hgeneration, hrest⟩
      · exact .inl hmem
      · exact .inr ⟨Nat.lt_of_succ_lt hgeneration, hrest⟩
  · exact fun hshut => absurd hopen hshut.not_open
  · intro hquiet
    have hbefore : Quiet { s with generation := s.generation + 1, connecting := true } :=
      hquiet.of_trace rfl fun hshut => absurd hopen hshut.not_open
    exact (hset.quiet hbefore).of_trace rfl Shut.start
  · intro hopen hclosed
    obtain ⟨hshut, hrecord⟩ := hset.closes hopen hclosed
    exact ⟨hshut.start, hrecord⟩

omit ha in
theorem yields_started {beside : Bool} (h : s.Sound) (hopen : s.closed = false) :
    s.Yields (s.emit (.started .explicit beside)) := by
  have hvacuous : ∀ {p : Prop}, s.Shut → p := fun hshut => absurd hopen hshut.not_open
  refine { Yields.refl h with sound := ?_, grown := ?_, shut := hvacuous, quiet := ?_, closes := ?_ }
  · exact { h with ended := fun id hdone => List.mem_append_left _ (h.ended id hdone) }
  · exact ⟨_, rfl, by simp [ClientRecord.nested]⟩
  · intro hquiet
    apply hquiet.append hvacuous rfl
    simp only [List.mem_singleton, forall_eq]
    exact ⟨rfl, hvacuous⟩
  · intro _ hclosed
    have hclosed' : s.closed = true := hclosed
    rw [hopen] at hclosed'
    cases hclosed'

omit ha in
/-- `reconnect()` gives up the connection it finds. -/
theorem yields_renewing {connections : ConnectionId → Connection} (h : s.Sound)
    (hopen : s.closed = false)
    (hready : ∀ connection, (connections connection).ready = (s.connections connection).ready)
    (hlost : ∀ connection, (s.connections connection).closed = true →
      (connections connection).closed = true)
    (hprevious : ∀ connection, s.connection = some connection →
      (connections connection).closed = true) :
    s.Yields { s.renewing with connections := connections } := by
  have hvacuous : ∀ {p : Prop}, s.Shut → p := fun hshut => absurd hopen hshut.not_open
  refine { Yields.refl h with
    sound := ?_, generation := ?_, kept := ?_, moved := ?_, ready := hready, lost := hlost
    timers := ?_, held := ?_, reconnectTimer := fun _ => rfl, shut := hvacuous, quiet := ?_
    closes := ?_ }
  · refine ⟨⟨h.detached, h.tracked, h.ended, h.pending, ?_, ?_, h.distinct, ?_⟩, ?_⟩
    · exact fun id attempt hmem => Nat.le_succ_of_le (h.bounded id attempt hmem)
    · exact fun _ id attempt hmem => Nat.ne_of_lt (Nat.lt_succ_of_le (h.bounded id attempt hmem))
    · intro connection error hrejected
      exact hlost connection (h.refused connection error ((hready connection).symm.trans hrejected))
    · intro connection hborn hconnection
      have hbefore : (s.connections connection).closed = false := by
        by_contra hclosed
        have hafter := hlost connection (by simpa using hclosed)
        rw [hconnection] at hafter
        cases hafter
      rcases h.awaited connection hborn hbefore with hadopted | hawaited
      · have hafter := hprevious connection hadopted
        rw [hconnection] at hafter
        cases hafter
      · exact .inr hawaited
  · exact Nat.le_succ _
  · intro hsame
    have hsame' : s.generation + 1 = s.generation := hsame
    omega
  · exact fun _ => ⟨rfl, hprevious⟩
  · intro timer hmem
    have hmem' : timer ∈ (s.clearTimer s.reconnectTimer).timers := hmem
    exact (mem_clearTimer.mp hmem').1
  · exact fun hheld => held_clearReconnectTimer hheld
  · exact fun hquiet => hquiet.of_trace rfl hvacuous
  · intro _ hclosed
    have hclosed' : s.closed = true := hclosed
    rw [hopen] at hclosed'
    cases hclosed'

theorem Honest.reconnect (h : s.Sound) : s.Yields (s.reconnect a) := by
  unfold StreamClient.reconnect
  split
  · exact .refl h
  · case isFalse hclosed =>
      have hopen : s.closed = false := by simpa using hclosed
      have hconnect : ∀ s' : StreamClient, s.Yields s' → s'.connection = none →
          s.Yields (s'.connect a true) := by
        intro s' hyields hnone
        unfold StreamClient.connect
        split
        · exact hyields
        · case isFalse hclosed' =>
            have hopen' : s'.closed = false := by simpa using hclosed'
            exact (hyields.andThen fun h => yields_started h hopen').andThen fun h =>
              ha.dial true h hnone hopen'
      dsimp only
      split
      · case h_1 hnone =>
          apply hconnect
          · apply yields_renewing h hopen
            · exact fun _ => rfl
            · exact fun _ hlost => hlost
            · intro connection hconnection
              rw [hnone] at hconnection
              cases hconnection
          · rfl
      · case h_2 connection hsome =>
          have hyields : s.Yields (s.renewing.markClosed connection) := by
            apply yields_renewing h hopen
            · intro other
              simp [renewing, clearReconnectTimer, clearTimer, Function.update_apply]
              split <;> simp_all
            · intro other hlost
              simp [renewing, clearReconnectTimer, clearTimer, Function.update_apply]
              split <;> simp_all
            · intro other hother
              rw [hsome] at hother
              cases hother
              simp
          have hother : s.renewing.connection ≠ some connection := by simp [renewing]
          rw [closeConnection_other hother]
          have hdetached := hyields.andThen fun h => ha.detachAll none h
          apply hconnect _ hdetached
          exact (ha.detachAll none hyields.sound).connection_none rfl

omit ha in
theorem sever_eq (hclosed : s.closed = true) (hrefresh : s.refreshTimer = none) :
    ∃ connections, s.sever a = { s with
        subscriptions := [], connection := none, connections := connections } ∧
      ∀ other, connections other = { s.connections other with
        closed := (s.connections other).closed || decide (s.connection = some other) } := by
  unfold sever
  dsimp only
  split
  · case h_1 hnone => exact ⟨s.connections, by rw [← hnone], by simp [hnone]⟩
  · case h_2 connection hsome =>
      refine ⟨(s.markClosed connection).connections, closeConnection_last hclosed rfl hrefresh, ?_⟩
      intro other
      rw [markClosed_connections]
      simp [hsome, eq_comm]

omit ha in
theorem sound_shutting (h : s.Sound) : s.shutting.Sound :=
  { h with
    bounded := fun id attempt hmem => Nat.le_succ_of_le (h.bounded id attempt hmem)
    past := fun _ id attempt hmem => Nat.ne_of_lt (Nat.lt_succ_of_le (h.bounded id attempt hmem)) }

omit ha in
/-- Without its handles, no timer is armed. -/
theorem Held.timers_nil (h : s.Held) (hreconnect : s.reconnectTimer = none)
    (hrefresh : s.refreshTimer = none) : s.timers = [] := by
  apply List.eq_nil_iff_forall_not_mem.mpr
  intro timer hmem
  have hheld := h timer hmem
  obtain ⟨id, _ | expiresAt⟩ := timer
  · exact absurd (hreconnect.symm.trans hheld) (by simp)
  · exact absurd (hrefresh.symm.trans hheld) (by simp)

omit ha in
theorem sound_sever (h : s.Sound) (hclosed : s.closed = true) (hrefresh : s.refreshTimer = none)
    (hended : ∀ id ∈ s.subscriptions, (s.managed id).terminal = true) : (s.sever a).Sound := by
  obtain ⟨connections, heq, hconnections⟩ := sever_eq (a := a) hclosed hrefresh
  rw [heq]
  refine ⟨⟨h.detached, ?_, h.ended, h.pending, h.bounded, h.past, h.distinct, ?_⟩, ?_⟩
  · intro id connection hattached
    have hdetached := h.detached id (hended id (h.tracked id connection hattached))
    rw [hdetached] at hattached
    cases hattached
  · intro connection error hready
    simp only [hconnections] at hready ⊢
    simp [h.refused connection error hready]
  · intro connection hborn hopen
    simp only [hconnections, Bool.or_eq_false_iff, decide_eq_false_iff_not] at hopen
    rcases h.awaited connection hborn hopen.1 with hadopted | hawaited
    · exact absurd hadopted hopen.2
    · exact .inr hawaited

omit ha in
theorem shut_sever (hclosed : s.closed = true) (hrefresh : s.refreshTimer = none) (h : s.Shut) :
    (s.sever a).Shut := by
  obtain ⟨connections, heq, -⟩ := sever_eq (a := a) hclosed hrefresh
  rw [heq]
  exact ⟨h.closed, h.closing, h.cleared, h.state, rfl, h.reconnectTimer, h.refreshTimer, rfl⟩

theorem setState_closed (h : s.Sound) (hclosed : s.closed = true) :
    (s.setState a .closed).state = .closed := by
  unfold StreamClient.setState
  split
  · case isTrue hstate => exact hstate
  · have hset : Sound ({ s with state := ConnectionState.closed }.emit (.state .closed)) :=
      { h with ended := fun id hdone => List.mem_append_left _ (h.ended id hdone) }
    exact (ha.announce _ hset).state hclosed rfl

theorem Honest.close (h : s.Sound) : s.Yields (s.close a) := by
  unfold StreamClient.close
  split
  · exact .refl h
  · case isFalse hclosing =>
      dsimp only
      have hvacuous : ∀ {p : Prop}, s.Shut → p := fun hshut => absurd hshut.closing hclosing
      -- The subscriptions end.
      have hshutting := sound_shutting h
      have hended := ha.terminateAll .clientClosed false hshutting
      have hover := ha.terminated_all .clientClosed false hshutting
      generalize s.shutting.terminateAll a .clientClosed false = s' at hended hover ⊢
      have hclosed : s'.closed = true := hended.stays rfl
      have hreconnect : s'.reconnectTimer = none := hended.reconnectTimer rfl
      have hrefresh : s'.refreshTimer = none := hended.refreshTimer rfl
      -- The connection is closed.
      have hsound := sound_sever (a := a) hended.sound hclosed hrefresh
        fun id hmem => hover id (hended.subset hmem)
      obtain ⟨connections, heq, hconnections⟩ := sever_eq (a := a) hclosed hrefresh
      have hshut := shut_sever (a := a) hclosed hrefresh
      rw [heq] at hsound hshut ⊢
      -- The listeners hear of it.
      have hstate := setState_closed ha hsound hclosed
      have hset := ha.setState .closed hsound (fun _ _ => rfl) fun hne hshut => hne hshut.state
      generalize StreamClient.setState a .closed { s' with
        subscriptions := [], connection := none, connections := connections } = last at hset hstate ⊢
      have hdone : ({ last with cleared := true, closing := true }.emit (.closed last.site)).Shut :=
        ⟨hset.stays hclosed, rfl, rfl, hstate, hset.connection_none rfl,
          hset.reconnectTimer hreconnect, hset.refreshTimer hrefresh,
          List.subset_nil.mp hset.subset⟩
      have hsite : last.site = s.site := hset.site.trans hended.site
      have hlost : ∀ connection, (s'.connections connection).closed = true →
          (last.connections connection).closed = true := by
        intro connection hlost
        apply hset.lost
        simp [hconnections, hlost]
      constructor
      case sound =>
        exact { hset.sound with
          ended := fun id hdone => List.mem_append_left _ (hset.sound.ended id hdone) }
      case site => exact hsite
      case identity => exact hset.identity.trans hended.identity
      case generation =>
        have hle : s.generation + 1 ≤ s'.generation := hended.generation
        have hle' : s'.generation ≤ last.generation := hset.generation
        exact Nat.le_of_succ_le (Nat.le_trans hle hle')
      case kept =>
        intro hsame
        have hsame' : last.generation = s.generation := hsame
        have hle : s.generation + 1 ≤ s'.generation := hended.generation
        have hle' : s'.generation ≤ last.generation := hset.generation
        omega
      case moved =>
        refine fun _ => ⟨hset.connection_none rfl, ?_⟩
        intro connection hconnection
        by_cases hmoved : s.shutting.generation < s'.generation
        · exact hlost connection ((hended.moved hmoved).2 connection hconnection)
        · have hle := hended.generation
          have hkept := (hended.kept (by omega)).1
          apply hset.lost
          have hadopted : s'.connection = some connection := hkept.trans hconnection
          simp [hconnections, hadopted]
      case pending =>
        exact fun id attempt hmem => hset.pending id attempt (hended.pending id attempt hmem)
      case begun =>
        intro id attempt hmem
        have hlt : s.generation < s.shutting.generation := Nat.lt_succ_self _
        rcases hset.begun id attempt hmem with hmem | ⟨hgeneration, hnew⟩
        · rcases hended.begun id attempt hmem with hmem | ⟨hgeneration, hnew⟩
          · exact .inl hmem
          · exact .inr ⟨Nat.lt_trans hlt hgeneration, hnew⟩
        · have hle := hended.generation
          have hgeneration' : s'.generation < attempt.generation := hgeneration
          exact .inr ⟨by omega, hnew⟩
      case ready =>
        intro connection
        have hready := hset.ready connection
        simp only [hconnections] at hready
        exact hready.trans (hended.ready connection)
      case lost => exact fun connection hbefore => hlost connection (hended.lost connection hbefore)
      case timers =>
        intro timer hmem
        have hmem' := hended.timers timer (hset.timers timer hmem)
        have hbefore := (mem_clearTimer.mp hmem').1
        exact (mem_clearTimer.mp hbefore).1
      case held =>
        intro hheld
        have hbefore : s.shutting.Held := held_clearRefreshTimer (held_clearReconnectTimer hheld)
        exact hset.held (hended.held hbefore)
      case reconnectTimer => exact fun _ => hset.reconnectTimer hreconnect
      case refreshTimer => exact fun _ => hset.refreshTimer hrefresh
      case terminal => exact fun id hbefore => hset.terminal id (hended.terminal id hbefore)
      case bound =>
        exact fun id connection hbound => hended.bound id connection (hset.bound id connection hbound)
      case subset =>
        intro id hmem
        rw [hdone.subscriptions] at hmem
        cases hmem
      case left => exact fun id hmem _ => hset.terminal id (hover id hmem)
      case grown =>
        obtain ⟨more, htrace, hnested⟩ := hended.grown
        obtain ⟨rest, htrace', hnested'⟩ := hset.grown
        refine ⟨more ++ (rest ++ [.closed last.site]), ?_, ?_⟩
        · have htrace'' : last.trace = s.trace ++ more ++ rest :=
            htrace'.trans (congrArg (· ++ rest) htrace)
          simp [emit, htrace'']
        · intro o hmem
          simp only [List.mem_append, List.mem_singleton] at hmem
          rcases hmem with hmem | hmem | rfl
          · exact hnested o hmem
          · exact hnested' o hmem
          · rfl
      case stays => exact fun _ => hset.stays hclosed
      case state => exact fun _ _ => hstate
      case shut => exact hvacuous
      case quiet =>
        intro hquiet
        have hbefore : s.shutting.Quiet := hquiet.of_trace rfl hvacuous
        have hmid := hset.quiet ((hended.quiet hbefore).of_trace rfl hshut)
        refine ⟨fun _ _ => hdone, ?_⟩
        simp only [emit, List.pairwise_append, List.pairwise_singleton, List.mem_singleton, true_and]
        refine ⟨hmid.last, ?_⟩
        rintro earlier - later rfl -
        rfl
      case closes =>
        refine fun _ _ => ⟨hdone, ?_⟩
        rw [← hsite]
        simp [emit]

omit ha in
/-- Changes of what no result reads. -/
theorem yields_aside {s' : StreamClient} (h : s.Sound) (hsound : s'.Sound)
    (hcontrol : (s'.state, s'.connection, s'.identityKey, s'.generation, s'.closed, s'.reconnectTimer,
        s'.refreshTimer, s'.closing, s'.cleared) = (s.state, s.connection, s.identityKey, s.generation,
        s.closed, s.reconnectTimer, s.refreshTimer, s.closing, s.cleared))
    (hrest : (s'.subscriptions, s'.managed, s'.connections, s'.attempts, s'.timers, s'.site,
        s'.trace) = (s.subscriptions, s.managed, s.connections, s.attempts, s.timers, s.site,
        s.trace)) : s.Yields s' := by
  simp only [Prod.mk.injEq] at hcontrol hrest
  obtain ⟨hstate, hconnection, hidentity, hgeneration, hclosed, hreconnect, hrefresh, hclosing,
    hcleared⟩ := hcontrol
  obtain ⟨hsubscriptions, hmanaged, hconnections, hattempts, htimers, hsite, htrace⟩ := hrest
  have hshut : s.Shut → s'.Shut := fun hshut =>
    ⟨hclosed.trans hshut.closed, hclosing.trans hshut.closing, hcleared.trans hshut.cleared,
      hstate.trans hshut.state, hconnection.trans hshut.connection,
      hreconnect.trans hshut.reconnectTimer, hrefresh.trans hshut.refreshTimer,
      hsubscriptions.trans hshut.subscriptions⟩
  have hrefl := Yields.refl h
  constructor
  case sound => exact hsound
  case quiet => exact fun hquiet => hquiet.of_trace htrace hshut
  case shut => exact hshut
  case closes =>
    intro hopen hdone
    rw [hclosed, hopen] at hdone
    cases hdone
  case grown => exact ⟨[], by rw [htrace, List.append_nil], by simp⟩
  case moved => exact fun hlt => absurd (hgeneration ▸ hlt) (Nat.lt_irrefl _)
  case held =>
    intro hheld timer hmem
    rw [htimers] at hmem
    have hhandle := hheld timer hmem
    obtain ⟨id, _ | expiresAt⟩ := timer
    · exact hreconnect.trans hhandle
    · exact hrefresh.trans hhandle
  all_goals simp_all

omit ha in
/-- The subscriptions that are over are not tracked any more. -/
theorem yields_untrack (h : s.Sound)
    (hended : ∀ id ∈ s.subscriptions, (s.managed id).terminal = true) :
    s.Yields { s with subscriptions := [] } := by
  have hshut : s.Shut → Shut { s with subscriptions := [] } := fun hshut =>
    ⟨hshut.closed, hshut.closing, hshut.cleared, hshut.state, hshut.connection,
      hshut.reconnectTimer, hshut.refreshTimer, rfl⟩
  refine { Yields.refl h with
    sound := { h with tracked := ?_ }, subset := List.nil_subset _, left := fun id hmem _ => hended id hmem
    shut := hshut, quiet := fun hquiet => hquiet.of_trace rfl hshut, closes := ?_ }
  · intro id connection hattached
    have hdetached := h.detached id (hended id (h.tracked id connection hattached))
    rw [show (s.managed id).attached = some connection from hattached] at hdetached
    cases hdetached
  · intro hopen hclosed
    have hclosed' : s.closed = true := hclosed
    rw [hopen] at hclosed'
    cases hclosed'

omit ha in
theorem yields_clearReconnectTimer (h : s.Sound) : s.Yields s.clearReconnectTimer := by
  have hshut : s.Shut → s.clearReconnectTimer.Shut := fun hshut =>
    ⟨hshut.closed, hshut.closing, hshut.cleared, hshut.state, hshut.connection, rfl,
      hshut.refreshTimer, hshut.subscriptions⟩
  refine { Yields.refl h with
    sound := { h with }, timers := ?_, held := held_clearReconnectTimer, reconnectTimer := fun _ => rfl
    shut := hshut, quiet := fun hquiet => hquiet.of_trace rfl hshut, closes := ?_ }
  · exact fun timer hmem => (mem_clearTimer.mp hmem).1
  · intro hopen hclosed
    have hclosed' : s.closed = true := hclosed
    rw [hopen] at hclosed'
    cases hclosed'

omit ha in
theorem yields_clearRefreshTimer (h : s.Sound) : s.Yields s.clearRefreshTimer := by
  have hshut : s.Shut → s.clearRefreshTimer.Shut := fun hshut =>
    ⟨hshut.closed, hshut.closing, hshut.cleared, hshut.state, hshut.connection,
      hshut.reconnectTimer, rfl, hshut.subscriptions⟩
  refine { Yields.refl h with
    sound := { h with }, timers := ?_, held := held_clearRefreshTimer, refreshTimer := fun _ => rfl
    shut := hshut, quiet := fun hquiet => hquiet.of_trace rfl hshut, closes := ?_ }
  · exact fun timer hmem => (mem_clearTimer.mp hmem).1
  · intro hopen hclosed
    have hclosed' : s.closed = true := hclosed
    rw [hopen] at hclosed'
    cases hclosed'

theorem Honest.call (request : ClientCall) (h : s.Sound) : s.Yields (s.call a request) := by
  cases request with
  | close => exact ha.close h
  | reconnect => exact ha.reconnect h
  | subscribe =>
      show s.Yields s.subscribe
      unfold StreamClient.subscribe
      split
      · exact .refl h
      · exact yields_aside h { h with } rfl rfl
  | unsubscribe id => exact ha.terminate id .closed none h
  | resync id effects => exact ha.performAll id effects h

theorem Honest.calls (requests : List ClientCall) (h : s.Sound) : s.Yields (s.calls a requests) :=
  yields_foldl (fun request _ => ha.call request) requests h

theorem Honest.react (id : SubscriptionId) (reactions : List ClientReaction) (h : s.Sound) :
    s.Yields (react a id reactions s).1 := by
  induction reactions generalizing s with
  | nil => exact .refl h
  | cons reaction reactions ih =>
      unfold StreamClient.react
      split
      · exact .refl h
      · have hcalled := ha.calls reaction.calls h
        dsimp only
        split
        · exact hcalled.andThen (ha.listenerFailed id)
        · exact hcalled.andThen ih

theorem Honest.reactQuietly (cleared : StreamClient → Bool) (reactions : List ClientReaction)
    (h : s.Sound) : s.Yields (reactQuietly a cleared reactions s) := by
  induction reactions generalizing s with
  | nil => exact .refl h
  | cons reaction reactions ih =>
      unfold StreamClient.reactQuietly
      split
      · exact .refl h
      · exact (ha.calls reaction.calls h).andThen ih

end Client

/-- An application that follows a script does what `Yields` says, and no more. -/
theorem honest_application : ∀ depth, Honest (application depth)
  | 0 =>
      { notify := fun _ _ => .refl
        report := fun _ _ => .refl
        announce := fun _ => .refl }
  | depth + 1 => by
      have ha := honest_application depth
      have hscript : ∀ (s : StreamClient) rest, s.Sound → s.Yields { s with script := rest } :=
        fun s rest h => yields_aside h { h with } rfl rfl
      constructor
      · intro id s h
        unfold application
        dsimp only
        split
        · exact .refl h
        · case h_2 reactions rest _ => exact (hscript s rest h).andThen (ha.react id reactions)
      · intro id s h
        unfold application
        dsimp only
        split
        · exact .refl h
        · case h_2 reactions rest _ => exact (hscript s rest h).andThen (ha.reactQuietly _ reactions)
      · intro s h
        unfold application
        dsimp only
        split
        · exact .refl h
        · case h_2 reactions rest _ => exact (hscript s rest h).andThen (ha.reactQuietly _ reactions)

end StreamClient

end StreamOtter
