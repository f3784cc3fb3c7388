import StreamOtter.ServerSubscription

/-!
# Runs of a gateway subscription

One step is one synchronous stretch: something reaching the subscription from
outside, a promise job, or the resumption of one suspended attempt.  The plain
machine lets them interleave in any order.  In the atomic machine nothing from
outside runs while a promise job is queued, so an event and the continuations it
directly resumes form one unit.
-/

namespace StreamOtter

inductive ServerStep
  /-- `start`, called once the subscribe request is acknowledged. -/
  | start
  | admitFrame (frame : UpdateFrame)
  | receipt (epoch : Epoch) (sequence : ℕ)
  | resync
  | unsubscribe
  | setSourceStatus (status : SourceStatus) (reason : Option ErrorCode)
  | setBoundary (boundary : Option BoundaryId)
  /-- A channel revocation that matches this subscription. -/
  | revoke
  | closeSession
  | expire
  | receiptTimeout
  | retry
  /-- Other subscriptions reserve and release at the shared budget levels. -/
  | elsewhere (connection gateway : ℕ)
  | callHandler (index : ℕ)
  | resumeAuthorize (index : ℕ) (outcome : AuthorizeOutcome) (revoked : Bool)
  | resumeAuthorized (index : ℕ)
  | resumePermit (index : ℕ) (acquired : Bool)
  | resumeSnapshot (index : ℕ) (outcome : SnapshotOutcome)

structure ServerInput where
  step : ServerStep
  readings : Readings

/-- What the subscription is built with. -/
structure ServerConfig where
  limits : Limits
  channel : String
  channelVersion : ℕ
  deriving DecidableEq, Repr

namespace ServerSubscription

variable (config : ServerConfig) (readings : Readings)

/-- `ClientSession.handle…`: a message is dropped when the session is closed or the
client stalled, and reaches only a subscription the session holds. -/
def inbound (handle : ServerSubscription → ServerSubscription) (s : ServerSubscription) :
    ServerSubscription :=
  let s := s.checkStalled config.limits readings .inbound
  if s.sessionClosed || !s.held then s else handle s

/-- The state in which the attempt at `index` continues. -/
def taken (index : ℕ) (s : ServerSubscription) : ServerSubscription :=
  { s with pending := s.pending.eraseIdx index }

/-- Takes the attempt at `index` out of the pending ones and resumes it, when it
waits for what has happened. -/
def resume (index : ℕ)
    (continuation : Attempt → Option (ServerSubscription → ServerSubscription))
    (s : ServerSubscription) : ServerSubscription :=
  match s.pending[index]?.bind continuation with
  | none => s
  | some proceed => proceed (s.taken index)

/-- `await this.#authorize(…)`: an attempt whose `#authorize` returned true waits once
more, for its own promise job. -/
def awaitAuthorized (generation : ℕ) (waiting : Await) (result : ServerSubscription × Bool) :
    ServerSubscription :=
  if result.2 then result.1.suspend generation waiting else result.1

def resumeAuthorize (outcome : AuthorizeOutcome) (revoked : Bool) (attempt : Attempt) :
    Option (ServerSubscription → ServerSubscription) :=
  let returned (waiting : Await) (s : ServerSubscription) :=
    awaitAuthorized attempt.generation waiting
      (s.afterAuthorizeHandler config.limits readings attempt.generation outcome revoked)
  match attempt.waiting with
  | .authorizeHandler => some (returned .authorized)
  | .recheckHandler boundary snapshot => some (returned (.rechecked boundary snapshot))
  | _ => none

def resumeAuthorized (attempt : Attempt) : Option (ServerSubscription → ServerSubscription) :=
  match attempt.waiting with
  | .authorized => some (afterAuthorized config.limits readings attempt.generation)
  | .rechecked boundary snapshot =>
      some (afterRechecked config.limits readings config.channel config.channelVersion boundary
        snapshot)
  | _ => none

def resumePermit (acquired : Bool) (attempt : Attempt) :
    Option (ServerSubscription → ServerSubscription) :=
  match attempt.waiting with
  | .permit => some (afterPermit config.limits readings attempt.generation acquired)
  | _ => none

def resumeSnapshot (outcome : SnapshotOutcome) (attempt : Attempt) :
    Option (ServerSubscription → ServerSubscription) :=
  match attempt.waiting with
  | .snapshotHandler boundary =>
      some (afterSnapshotHandler config.limits readings attempt.generation boundary outcome)
  | _ => none

/-- The promise job of `invokeHandler` that calls the handler. -/
def callHandler (index : ℕ) (s : ServerSubscription) : ServerSubscription :=
  match s.jobs[index]? with
  | none => s
  | some job => { s with jobs := s.jobs.eraseIdx index }.emit (.called job.handler s.routed)

def step (s : ServerSubscription) (input : ServerInput) : ServerSubscription :=
  let limits := config.limits
  let readings := input.readings
  match input.step with
  | .start => if s.phase = .idle then s.start limits readings else s
  | .admitFrame frame =>
      if s.routed then (s.admitFrame limits readings frame.toPendingFrame).1 else s
  | .receipt epoch sequence =>
      s.inbound config readings fun s =>
        (s.emit (.receipt epoch sequence)).onReceipt limits readings epoch sequence
  | .resync =>
      s.inbound config readings fun s => (s.emit (.resync s.epoch)).requestResync limits readings
  | .unsubscribe => s.inbound config readings fun s => s.dispose.remove
  | .setSourceStatus status reason => s.setSourceStatus limits readings status reason
  | .setBoundary boundary => { s with source := { s.source with boundary := boundary } }
  | .revoke => if s.held then s.fail limits readings .forbidden else s
  | .closeSession => s.teardown
  | .expire => { s.teardown with expiring := false }
  | .receiptTimeout => if s.receiptTimer then { s with receiptTimer := false }.teardown else s
  | .retry =>
      match s.retryTimer with
      | none => s
      | some generation =>
          let s := { s with retryTimer := none }
          if generation = s.generation ∧ s.phase = .backoff then s.beginAttempt limits readings true
          else s
  | .elsewhere connection gateway =>
      { s with budget := { s.budget with
        connection := { s.budget.connection with used := connection }
        gateway := { s.budget.gateway with used := gateway } } }
  | .callHandler index => s.callHandler index
  | .resumeAuthorize index outcome revoked =>
      s.resume index (resumeAuthorize config readings outcome revoked)
  | .resumeAuthorized index => s.resume index (resumeAuthorized config readings)
  | .resumePermit index acquired => s.resume index (resumePermit config readings acquired)
  | .resumeSnapshot index outcome => s.resume index (resumeSnapshot config readings outcome)

/-- What holds of a subscription, and of it with any attempt that `index` finds taken
out and resumed, holds after `resume`. -/
theorem resume_induction {P : ServerSubscription → Prop} {s : ServerSubscription} {index : ℕ}
    {continuation : Attempt → Option (ServerSubscription → ServerSubscription)} (hstay : P s)
    (hresume : ∀ attempt proceed, s.pending[index]? = some attempt →
      continuation attempt = some proceed →
      P (proceed (s.taken index))) :
    P (s.resume index continuation) := by
  unfold resume
  split
  · exact hstay
  · case h_2 proceed hfound =>
      obtain ⟨attempt, hindex, hattempt⟩ := Option.bind_eq_some_iff.mp hfound
      exact hresume attempt proceed hindex hattempt

/-- An attempt resumed after its `authorize` handler goes on waiting at `next`. -/
inductive ReturnsTo : Await → Await → Prop
  | first : ReturnsTo .authorizeHandler .authorized
  | recheck (boundary : Option BoundaryId) (snapshot : Snapshot) :
      ReturnsTo (.recheckHandler boundary snapshot) (.rechecked boundary snapshot)

variable {config readings} {attempt : Attempt}
  {proceed : ServerSubscription → ServerSubscription}

theorem resumeAuthorize_eq_some {outcome : AuthorizeOutcome} {revoked : Bool}
    (h : resumeAuthorize config readings outcome revoked attempt = some proceed) :
    ∃ next, ReturnsTo attempt.waiting next ∧ proceed = fun s =>
      awaitAuthorized attempt.generation next
        (s.afterAuthorizeHandler config.limits readings attempt.generation outcome revoked) := by
  unfold resumeAuthorize at h
  dsimp only at h
  split at h
  case h_1 hwaiting =>
    exact ⟨_, hwaiting ▸ .first, (Option.some.inj h).symm⟩
  case h_2 boundary snapshot hwaiting =>
    exact ⟨_, hwaiting ▸ .recheck boundary snapshot, (Option.some.inj h).symm⟩
  case h_3 => cases h

theorem resumeAuthorized_eq_some
    (h : resumeAuthorized config readings attempt = some proceed) :
    (attempt.waiting = .authorized ∧
      proceed = afterAuthorized config.limits readings attempt.generation) ∨
    ∃ boundary snapshot, attempt.waiting = .rechecked boundary snapshot ∧
      proceed = afterRechecked config.limits readings config.channel config.channelVersion
        boundary snapshot := by
  unfold resumeAuthorized at h
  split at h
  case h_1 hwaiting => exact .inl ⟨hwaiting, (Option.some.inj h).symm⟩
  case h_2 boundary snapshot hwaiting =>
    exact .inr ⟨boundary, snapshot, hwaiting, (Option.some.inj h).symm⟩
  case h_3 => cases h

theorem resumePermit_eq_some {acquired : Bool}
    (h : resumePermit config readings acquired attempt = some proceed) :
    attempt.waiting = .permit ∧
      proceed = afterPermit config.limits readings attempt.generation acquired := by
  unfold resumePermit at h
  split at h
  case h_1 hwaiting => exact ⟨hwaiting, (Option.some.inj h).symm⟩
  case h_2 => cases h

theorem resumeSnapshot_eq_some {outcome : SnapshotOutcome}
    (h : resumeSnapshot config readings outcome attempt = some proceed) :
    ∃ boundary, attempt.waiting = .snapshotHandler boundary ∧
      proceed = afterSnapshotHandler config.limits readings attempt.generation boundary outcome := by
  unfold resumeSnapshot at h
  split at h
  case h_1 boundary hwaiting => exact ⟨boundary, hwaiting, (Option.some.inj h).symm⟩
  case h_2 => cases h

/-- A subscription just built by its session, before `start`. -/
def initial (budget : SubscriptionBudget) (source : SourceRuntime) : ServerSubscription where
  phase := .idle
  publicState := .idle
  epoch := 0
  sequence := 0
  generation := 0
  attempts := 0
  retryTimer := none
  queue := []
  inFlight := none
  receiptTimer := false
  drainRemaining := 0
  snapshotRevision := none
  tail := none
  lastDelivered := none
  budget := { budget with frames := 0, bytes := { budget.bytes with used := 0 } }
  pending := []
  jobs := []
  sessionClosed := false
  expiring := false
  held := true
  routed := false
  registered := false
  source := source
  nextId := 1
  trace := []

end ServerSubscription

/-- The places where `#beginAttempt` resumes on the word of an `#authorize` that
returned earlier. -/
def Await.afterAuthorize : Await → Bool
  | .authorized | .rechecked _ _ => true
  | _ => false

namespace ServerSubscription

/-- No promise job is queued: no `#authorize` has returned to an attempt still to be
resumed, no handler call is due, and no expiry is. -/
def Settled (s : ServerSubscription) : Prop :=
  (∀ attempt ∈ s.pending, attempt.waiting.afterAuthorize = false) ∧ s.jobs = [] ∧
    s.expiring = false

instance (s : ServerSubscription) : Decidable s.Settled :=
  inferInstanceAs (Decidable (_ ∧ _ ∧ _))

/-- The steps that are queued promise jobs. -/
def IsJob (s : ServerSubscription) : ServerStep → Bool
  | .callHandler _ => true
  | .resumeAuthorized _ => true
  | .expire => s.expiring
  | _ => false

/-- Every interleaving of stretches. -/
def machine (config : ServerConfig) : Machine ServerSubscription ServerInput where
  step := step config
  allowed := fun _ _ => True

/-- Events one at a time, each with the continuations it directly resumes. -/
def atomicMachine (config : ServerConfig) : Machine ServerSubscription ServerInput where
  step := step config
  allowed := fun s input => s.IsJob input.step ∨ s.Settled

end ServerSubscription

end StreamOtter
