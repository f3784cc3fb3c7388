import StreamOtter.ClientSubscription

/-!
# What listeners can do

A listener may resynchronize, unsubscribe, close or reconnect, and each of these may
notify listeners again.  All of it comes down to a few changes of the subscription; a
predicate that survives them survives every notification.
-/

namespace StreamOtter

namespace ClientSubscription

/-- The fields the results about delivery read. -/
def view (s : ClientSubscription) :=
  (s.channel, s.channelVersion, s.state, s.terminal, s.attached, s.serverKnows, s.epoch,
    s.resyncPending, s.awaitingEpoch, s.expectedSequence, s.epochRevision, s.lastRevision,
    s.trace)

/-- `s'` differs from `s` only in what the results about delivery do not read, and in
connections it has lost. -/
def Alike (s s' : ClientSubscription) : Prop :=
  s'.view = s.view ∧ s.dropped ⊆ s'.dropped

/-- A predicate that survives what listeners can do with the connections that are
`usable`. -/
structure Stable (usable : ConnectionId → Prop) (P : ClientSubscription → Prop) : Prop where
  same : ∀ {s s' : ClientSubscription}, P s → s.Alike s' → P s'
  bound : ∀ {s : ClientSubscription} {connection}, P s → s.attached = some connection →
    usable connection
  attach : ∀ (s : ClientSubscription) connection, usable connection → s.terminal = false → P s →
    P ((s.attaching connection).withState .authorizing none)
  detach : ∀ s reason, P s → P (s.detaching.withState .stale reason)
  drop : ∀ s : ClientSubscription, s.terminal = true ∨ s.state = .resyncRequired → P s →
    P s.detaching
  ask : ∀ s connection, s.attached = some connection → P s →
    P (s.asking.withState .authorizing none)
  ask_stale : ∀ s connection, s.attached = some connection →
    s.state = .stale ∨ s.terminal = true → P s → P s.asking
  finish : ∀ (s : ClientSubscription) known state reason, state = .closed ∨ state = .failed →
    s.terminal = false → P s →
      P ({ s with serverKnows := known }.ending.withState state reason)

/-- A predicate that also survives what acknowledgements, timers and state frames can do,
but for the start of an epoch and its turn to live. -/
structure Robust (usable : ConnectionId → Prop) (P : ClientSubscription → Prop) : Prop
    extends Stable usable P where
  know : ∀ s : ClientSubscription, P s → P { s with serverKnows := true }
  settle : ∀ s state reason, s.terminal = false → state ≠ .live → state ≠ .closed →
    state ≠ .failed → P s → P (s.withState state reason)
  abandon : ∀ s reason, s.terminal = false → P s →
    P (s.abandoning.withState .resyncRequired reason)
  refuse : ∀ s state reason, state = .stale ∨ state = .resyncRequired → s.terminal = false → P s →
    P (s.refusing.withState state reason)
  refuse_over : ∀ s : ClientSubscription, s.terminal = true → P s → P s.refusing

/-- Notifying these listeners keeps `P`. -/
structure Preserves (P : ClientSubscription → Prop) (l : Listeners) : Prop where
  notify : ∀ s, P s → P (l.notify s).1
  report : ∀ s, P s → P (l.report s)

section Alike

variable {s : ClientSubscription}

theorem Alike.of_eq {s' : ClientSubscription} (hview : s'.view = s.view)
    (hdropped : s'.dropped = s.dropped) : s.Alike s' :=
  ⟨hview, hdropped ▸ List.Subset.refl _⟩

theorem alike_request (control : Request) (s : ClientSubscription) :
    s.Alike (s.request control) := by
  unfold request
  split
  · exact .of_eq rfl rfl
  · exact .of_eq rfl rfl

theorem alike_leave (serverKnows : Bool) (connection : Option ConnectionId)
    (s : ClientSubscription) : s.Alike (s.leave serverKnows connection) := by
  unfold leave
  split
  · exact .of_eq rfl rfl
  · split
    · exact alike_request _ _
    · exact .of_eq rfl rfl

theorem alike_landed (connection : ConnectionId) (s : ClientSubscription) :
    s.Alike (s.landed connection) := by
  unfold landed
  split
  · exact .of_eq rfl rfl
  · exact .of_eq rfl rfl

theorem alike_closeConnection (connection : ConnectionId) (s : ClientSubscription) :
    s.Alike (s.closeConnection connection) :=
  ⟨rfl, List.subset_cons_self _ _⟩

theorem Alike.terminal {s' : ClientSubscription} (h : s.Alike s') : s'.terminal = s.terminal := by
  have hview := h.1
  simp only [view, Prod.mk.injEq] at hview
  exact hview.2.2.2.1

end Alike

section Operations

variable {usable : ConnectionId → Prop} {P : ClientSubscription → Prop} (hP : Stable usable P)
  {l : Listeners} (hl : Preserves P l) {s : ClientSubscription}

include hl

theorem Preserves.setState {state : SubscriptionState} {reason : Option ErrorCode} {force : Bool}
    (hstay : s.terminal = true → force = false → P s)
    (hset : s.terminal = false ∨ force = true → P (s.withState state reason)) :
    P (s.setState l state reason force) := by
  unfold ClientSubscription.setState
  split
  · case isTrue hignored =>
      simp only [Bool.and_eq_true, Bool.not_eq_true'] at hignored
      exact hstay hignored.1 hignored.2
  · case isFalse hheeded =>
      have hopen : s.terminal = false ∨ force = true := by
        cases hterminal : s.terminal
        · exact .inl rfl
        · cases hforce : force
          · simp [hterminal, hforce] at hheeded
          · exact .inr rfl
      split
      · exact hset hopen
      · exact hl.notify _ (hset hopen)

/-- While the subscription is not over, `#setState` always takes effect. -/
theorem Preserves.setState_open {state : SubscriptionState} {reason : Option ErrorCode}
    {force : Bool} (hopen : s.terminal = false) (hset : P (s.withState state reason)) :
    P (s.setState l state reason force) := by
  apply hl.setState
  · intro hterminal
    rw [hopen] at hterminal
    cases hterminal
  · exact fun _ => hset

include hP

theorem Preserves.terminate_known (known : Bool) {state : SubscriptionState}
    {reason : Option ErrorCode} (hstate : state = .closed ∨ state = .failed)
    (hopen : s.terminal = false) (hs : P s) :
    P (ClientSubscription.terminate l state reason { s with serverKnows := known }) := by
  have hended : P (ClientSubscription.setState l state reason true
      { s with serverKnows := known }.ending) := by
    apply hl.setState
    · intro _ hforce
      cases hforce
    · intro _
      exact hP.finish s known state reason hstate hopen hs
  unfold ClientSubscription.terminate
  rw [if_neg (Bool.eq_false_iff.mp hopen)]
  exact hP.same hended (.of_eq rfl rfl)

theorem Preserves.terminate {state : SubscriptionState} {reason : Option ErrorCode}
    (hstate : state = .closed ∨ state = .failed) (hs : P s) :
    P (s.terminate l state reason) := by
  by_cases hopen : s.terminal = false
  · exact hl.terminate_known hP s.serverKnows hstate hopen hs
  · unfold ClientSubscription.terminate
    rw [if_pos (by simpa using hopen)]
    exact hs

theorem Preserves.listenerFailed (hs : P s) : P (s.listenerFailed l) := by
  unfold ClientSubscription.listenerFailed
  split
  · exact hs
  · have hended : P ((l.report s).terminate l .failed (some .handlerFailed)) :=
      hl.terminate hP (.inr rfl) (hl.report s hs)
    exact hP.same hended (alike_leave _ _ _)

theorem Preserves.attach {connection : ConnectionId} (husable : usable connection) (hs : P s) :
    P (s.attach l connection) := by
  unfold ClientSubscription.attach
  split
  · exact hs
  · case isFalse hopen =>
      have hterminal : s.terminal = false := Bool.eq_false_iff.mpr hopen
      have hset : P ((s.attaching connection).setState l .authorizing none false) :=
        hl.setState_open hterminal (hP.attach s connection husable hterminal hs)
      exact hP.same hset (alike_request _ _)

theorem Preserves.detach {reason : Option ErrorCode} (hs : P s) : P (s.detach l reason) := by
  unfold ClientSubscription.detach
  dsimp only
  split
  · case isTrue hkept =>
      rw [Bool.or_eq_true, decide_eq_true_eq] at hkept
      exact hP.drop s hkept hs
  · case isFalse hchanged =>
      apply hl.setState_open
      · simp only [Bool.or_eq_true, not_or] at hchanged
        exact Bool.eq_false_iff.mpr hchanged.1
      · exact hP.detach s reason hs

theorem Preserves.disconnect {connection : ConnectionId} (hs : P s) :
    P (s.disconnect l connection) := by
  have hclosed : P (s.closeConnection connection) := hP.same hs (alike_closeConnection _ _)
  unfold ClientSubscription.disconnect
  dsimp only
  split
  · exact hl.detach hP hclosed
  · exact hclosed

theorem Preserves.requestFreshSynchronization (hs : P s) :
    P (s.requestFreshSynchronization l) := by
  unfold ClientSubscription.requestFreshSynchronization
  split
  · exact hs
  · case h_2 connection hattached =>
      split
      · exact hs
      · split
        · split
          · exact hs
          · exact hl.attach hP (hP.bound hs hattached) hs
        · split
          · exact hs
          · apply fun hsettled => hP.same hsettled (alike_request _ _)
            split
            · apply hl.setState
              · intro hterminal _
                exact hP.ask_stale s connection hattached (.inr hterminal) hs
              · intro _
                exact hP.ask s connection hattached hs
            · case isFalse hstale =>
                exact hP.ask_stale s connection hattached (.inl (not_not.mp hstale)) hs

theorem Preserves.resync (hs : P s) : P (s.resync l) := by
  unfold ClientSubscription.resync
  split
  · exact hs
  · split
    · exact hs
    · apply hl.requestFreshSynchronization hP
      exact hP.same hs (.of_eq rfl rfl)

theorem Preserves.unsubscribe (hs : P s) : P (s.unsubscribe l) := by
  unfold ClientSubscription.unsubscribe
  split
  · exact hs
  · have hended : P (s.terminate l .closed none) := hl.terminate hP (.inl rfl) hs
    exact hP.same hended (alike_leave _ _ _)

theorem Preserves.terminateLocally {state : SubscriptionState} {code : ErrorCode} {report : Bool}
    (hstate : state = .closed ∨ state = .failed) (hs : P s) :
    P (s.terminateLocally l state code report) := by
  unfold ClientSubscription.terminateLocally
  split
  · exact hs
  · split
    · exact hl.terminate hP hstate (hl.report s hs)
    · exact hl.terminate hP hstate hs

theorem Preserves.close (hs : P s) : P (s.close l) := by
  have hclosing : P { s with ownerClosed := true } := hP.same hs (.of_eq rfl rfl)
  have hended : P (ClientSubscription.terminateLocally l .closed .clientClosed false
      { s with ownerClosed := true }) := hl.terminateLocally hP (.inl rfl) hclosing
  have hclosed : ∀ (connection : Option ConnectionId) (s : ClientSubscription), P s →
      P (connection.elim s s.closeConnection) := by
    rintro (_ | connection) s hs
    · exact hs
    · exact hP.same hs (alike_closeConnection _ _)
  exact hclosed s.attached _ hended

theorem Preserves.reconnect (hs : P s) : P (s.reconnect l) := by
  unfold ClientSubscription.reconnect
  split
  · exact hs
  · dsimp only
    split
    · exact hP.same hs (.of_eq rfl rfl)
    · apply hl.detach hP
      exact hP.same hs ⟨rfl, List.subset_cons_self _ _⟩

theorem Preserves.perform {call : UserCall} (hs : P s) : P (s.perform l call) := by
  cases call with
  | resync => exact hl.resync hP hs
  | unsubscribe => exact hl.unsubscribe hP hs
  | close => exact hl.close hP hs
  | reconnect => exact hl.reconnect hP hs

theorem Preserves.calls {calls : List UserCall} (hs : P s) :
    P (calls.foldl (fun s call => s.perform l call) s) := by
  induction calls generalizing s with
  | nil => exact hs
  | cons call calls ih => exact ih (hl.perform hP hs)

theorem Preserves.react {reactions : List Reaction} (hs : P s) : P (react l reactions s).1 := by
  induction reactions generalizing s with
  | nil => exact hs
  | cons reaction reactions ih =>
      unfold ClientSubscription.react
      split
      · exact hs
      · have hcalled : P (reaction.calls.foldl (fun s call => s.perform l call) s) :=
          hl.calls hP hs
        dsimp only
        split
        · exact hl.listenerFailed hP hcalled
        · exact ih hcalled

theorem Preserves.reactQuietly {reactions : List Reaction} (hs : P s) :
    P (reactQuietly l reactions s) := by
  induction reactions generalizing s with
  | nil => exact hs
  | cons reaction reactions ih =>
      unfold ClientSubscription.reactQuietly
      split
      · exact hs
      · exact ih (hl.calls hP hs)

end Operations

/-- Listeners keep every predicate that survives what they can do. -/
theorem Stable.listeners {usable : ConnectionId → Prop} {P : ClientSubscription → Prop}
    (hP : Stable usable P) (depth : ℕ) : Preserves P (listeners depth) := by
  induction depth with
  | zero => exact ⟨fun _ hs => hs, fun _ hs => hs⟩
  | succ depth ih =>
      constructor
      · intro s hs
        cases hscript : s.script with
        | nil => simpa [ClientSubscription.listeners, hscript] using hs
        | cons reactions rest =>
            have hrest : P { s with script := rest } := hP.same hs (.of_eq rfl rfl)
            simpa [ClientSubscription.listeners, hscript] using ih.react hP hrest
      · intro s hs
        cases hscript : s.script with
        | nil => simpa [ClientSubscription.listeners, hscript] using hs
        | cons reactions rest =>
            have hrest : P { s with script := rest } := hP.same hs (.of_eq rfl rfl)
            simpa [ClientSubscription.listeners, hscript] using ih.reactQuietly hP hrest

section Events

variable {usable : ConnectionId → Prop} {P : ClientSubscription → Prop} (hP : Robust usable P)
  {l : Listeners} (hl : Preserves P l) {s : ClientSubscription}

include hP hl

theorem Preserves.localSyncFailure {code : ErrorCode} (hs : P s) : P (s.localSyncFailure l code) := by
  have hreported : P (l.report s) := hl.report s hs
  unfold ClientSubscription.localSyncFailure
  dsimp only
  split
  · exact hreported
  · case isFalse hopen =>
      have hterminal : (l.report s).countFailure.terminal = false := Bool.eq_false_iff.mpr hopen
      have hcounted : P (l.report s).countFailure := hP.same hreported (.of_eq rfl rfl)
      split
      · have hleft : P ((l.report s).countFailure.leave (l.report s).countFailure.serverKnows
            (l.report s).countFailure.attached) := hP.same hcounted (alike_leave _ _ _)
        have hopen' : ((l.report s).countFailure.leave (l.report s).countFailure.serverKnows
            (l.report s).countFailure.attached).terminal = false := by
          exact (alike_leave _ _ _).terminal.trans hterminal
        apply hl.setState_open
        · exact hopen'
        · exact hP.abandon _ _ hopen' hleft
      · apply hl.requestFreshSynchronization hP.toStable
        apply hl.setState_open hterminal
        exact hP.settle _ _ _ hterminal (by simp) (by simp) (by simp) hcounted

/-- A state frame, given what the start of its epoch and its turn to live do. -/
theorem Preserves.handleState {connection : ConnectionId} {frame : SubscriptionFrame} (hs : P s)
    (hepoch : s.attached = some connection → s.terminal = false → frame.state = .synchronizing →
      ¬(s.epoch = some frame.epoch ∧ s.awaitingEpoch = false) →
      P ((acceptEpoch frame.epoch { s with serverKnows := true }).withState .synchronizing none))
    (hlive : s.attached = some connection → s.terminal = false → frame.state = .live →
      s.awaitingEpoch = false → s.epoch.getD 0 = frame.epoch →
      P ((emit (.live frame.epoch) { s with serverKnows := true, localFailures := 0 }).withState
        .live none)) :
    P (s.handleState l connection frame) := by
  unfold ClientSubscription.handleState
  split
  · exact hs
  · case isFalse hheeded =>
      simp only [Bool.or_eq_true, decide_eq_true_eq, not_or, not_not] at hheeded
      obtain ⟨hopen, hattached⟩ := hheeded
      have hterminal : s.terminal = false := Bool.eq_false_iff.mpr hopen
      have hknown : P { s with serverKnows := true } := hP.know s hs
      dsimp only
      split
      · case isTrue hsynchronizing =>
          split
          · exact hknown
          · case isFalse hnew =>
              apply hl.setState_open
              · exact hterminal
              · exact hepoch hattached hterminal hsynchronizing (by simpa using hnew)
      · split
        · exact hknown
        · case isFalse hsame =>
            split
            · exact hknown
            · split
              · exact hknown
              · case isFalse hready =>
                  split
                  case h_1 => exact hl.terminate_known hP.toStable false (.inr rfl) hterminal hs
                  case h_2 => exact hl.terminate_known hP.toStable false (.inl rfl) hterminal hs
                  case h_3 =>
                    apply hl.setState_open
                    · exact hterminal
                    · exact hP.settle _ _ _ hterminal (by simp) (by simp) (by simp) hknown
                  case h_4 hframe =>
                    have hawaiting : s.awaitingEpoch = false := by
                      simpa [hframe] using hready
                    apply hl.setState_open
                    · exact hterminal
                    · exact hlive hattached hterminal hframe hawaiting (not_not.mp hsame).symm
                  case h_5 hstale =>
                    apply hl.setState_open
                    · exact hterminal
                    · rw [hstale]
                      exact hP.settle _ _ _ hterminal (by simp) (by simp) (by simp) hknown
                  case h_6 hauthorizing =>
                    apply hl.setState_open
                    · exact hterminal
                    · rw [hauthorizing]
                      exact hP.settle _ _ _ hterminal (by simp) (by simp) (by simp) hknown
                  case h_7 => exact hknown

omit hP in
theorem Preserves.handleError {connection : ConnectionId} (hs : P s) :
    P (s.handleError l connection) := by
  unfold ClientSubscription.handleError
  split
  · exact hs
  · exact hl.report s hs

/-- A subscription that is over keeps its state. -/
theorem Preserves.settleState {state : SubscriptionState} {reason : Option ErrorCode}
    (hlive : state ≠ .live) (hclosed : state ≠ .closed) (hfailed : state ≠ .failed) (hs : P s) :
    P (s.setState l state reason false) := by
  apply hl.setState
  · exact fun _ _ => hs
  · intro hopen
    exact hP.settle s state reason (by simpa using hopen) hlive hclosed hfailed hs

theorem Preserves.subscribed {connection : ConnectionId} {answer : Answer} (hs : P s) :
    P (s.subscribed l connection answer) := by
  have hlanded : ∀ s : ClientSubscription, P s → P (s.landed connection) :=
    fun s hs => hP.same hs (alike_landed connection s)
  unfold ClientSubscription.subscribed
  cases answer with
  | rejected code =>
      apply hlanded
      split
      · exact hs
      · split
        · exact hl.disconnect hP.toStable hs
        · exact hs
  | ok =>
      dsimp only
      split
      · exact hlanded s hs
      · exact hP.know _ (hlanded s hs)
  | refused code =>
      have hreported : P (l.report (s.landed connection)) := hl.report _ (hlanded s hs)
      dsimp only
      split
      · exact hlanded s hs
      · split
        · have hcounted : P (l.report (s.landed connection)).countFailure :=
            hP.same hreported (.of_eq rfl rfl)
          split
          · exact hl.settleState hP (by simp) (by simp) (by simp) hcounted
          · have hstale : P ((l.report (s.landed connection)).countFailure.setState l .stale
                (some .overloaded) false) :=
              hl.settleState hP (by simp) (by simp) (by simp) hcounted
            exact hP.same hstale (.of_eq rfl rfl)
        · exact hl.terminate hP.toStable (.inr rfl) hreported

theorem Preserves.resynced {connection : ConnectionId} {replacing : Option Epoch} {answer : Answer}
    (hs : P s) : P (s.resynced l connection replacing answer) := by
  unfold ClientSubscription.resynced
  split
  · exact hs
  · case isFalse hheeded =>
    simp only [not_or, not_not] at hheeded
    cases answer with
    | ok => exact hs
    | rejected code =>
        dsimp only
        split
        · exact hl.disconnect hP.toStable hs
        · exact hs
    | refused code =>
        have husable : usable connection := hP.bound hs hheeded.1
        have hreported : P (l.report s) := hl.report s hs
        have hrefused : ∀ state reason, state = .stale ∨ state = .resyncRequired →
            P ((l.report s).refusing.countFailure.setState l state reason false) := by
          intro state reason hstate
          apply hl.setState
          · intro hterminal _
            exact hP.same (hP.refuse_over (l.report s) hterminal hreported) (.of_eq rfl rfl)
          · intro hopen
            have hterminal : (l.report s).terminal = false := by
              rcases hopen with hopen | hforce
              · exact hopen
              · cases hforce
            exact hP.same (hP.refuse _ state reason hstate hterminal hreported) (.of_eq rfl rfl)
        dsimp only
        split
        · exact hl.attach hP.toStable husable hreported
        · split
          · exact hreported
          · split
            · exact hrefused _ _ (.inr rfl)
            · exact hP.same (hrefused .stale (some code) (.inl rfl)) (.of_eq rfl rfl)

theorem Preserves.settle {request : Request} {answer : Answer} (hs : P s) :
    P (s.settle l request answer) := by
  cases request with
  | subscribe connection => exact hl.subscribed hP hs
  | resync connection replacing => exact hl.resynced hP hs
  | unsubscribe connection attempt id =>
      show P (s.unsubscribed connection attempt id answer)
      unfold unsubscribed
      split
      · exact hP.same hs (.of_eq rfl rfl)
      · exact hP.same hs (.of_eq rfl rfl)

theorem Preserves.retried {retry : Retry} (hs : P s) : P (s.retried l retry) := by
  cases retry with
  | attach connection =>
      show P (if _ then s.attach l connection else s)
      split
      · case isTrue hready => exact hl.attach hP.toStable (hP.bound hs hready.1) hs
      · exact hs
  | resync connection =>
      show P (if _ then s.requestFreshSynchronization l else s)
      split
      · exact hl.requestFreshSynchronization hP.toStable hs
      · exact hs

end Events

/-- Every event but a state or data frame. -/
theorem Robust.handle {usable : ConnectionId → Prop} {P : ClientSubscription → Prop}
    (hP : Robust usable P) {l : Listeners} (hl : Preserves P l) {s : ClientSubscription} (hs : P s)
    {step : ClientStep} (hattach : ∀ connection, step = .attach connection → usable connection)
    (hstate : ∀ connection frame, step ≠ .state connection frame)
    (hdata : ∀ connection frame, step ≠ .data connection frame) : P (s.handle l step) := by
  cases step with
  | attach connection => exact hl.attach hP.toStable (hattach connection rfl) hs
  | detach reason => exact hl.detach hP.toStable hs
  | authRequired =>
      apply hl.detach hP.toStable
      exact hP.same hs (.of_eq rfl rfl)
  | terminateLocally => exact hl.terminateLocally hP.toStable (.inl rfl) hs
  | disconnect connection => exact hl.disconnect hP.toStable hs
  | supersede connection => exact hP.same hs (alike_closeConnection _ _)
  | connectionError code => exact hP.same hs (.of_eq rfl rfl)
  | state connection frame => exact absurd rfl (hstate connection frame)
  | data connection frame => exact absurd rfl (hdata connection frame)
  | error connection => exact hl.handleError hs
  | acknowledge index answer =>
      show P (s.acknowledge index answer)
      unfold acknowledge
      split
      · exact hs
      · dsimp only
        split
        · unfold acknowledged
          split
          · exact hP.same hs (.of_eq rfl rfl)
          · exact hP.same hs (.of_eq rfl rfl)
        · exact hP.same hs (.of_eq rfl rfl)
  | settle index =>
      unfold ClientSubscription.handle
      dsimp only
      split
      · exact hs
      · apply hl.settle hP
        exact hP.same hs (.of_eq rfl rfl)
  | retry =>
      unfold ClientSubscription.handle
      dsimp only
      split
      · exact hs
      · apply hl.retried hP
        exact hP.same hs (.of_eq rfl rfl)
  | strayRetry index =>
      unfold ClientSubscription.handle
      dsimp only
      split
      · exact hs
      · apply hl.retried hP
        exact hP.same hs (.of_eq rfl rfl)
  | retryUnsubscribe index =>
      unfold ClientSubscription.handle
      dsimp only
      split
      · exact hs
      · exact hP.same hs (alike_request _ _)
  | unsubscribeDeadline id => exact hP.same hs (.of_eq rfl rfl)
  | call call => exact hl.perform hP.toStable hs
  | listenerRejected => exact hl.listenerFailed hP.toStable hs

end ClientSubscription

end StreamOtter
