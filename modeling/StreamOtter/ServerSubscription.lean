import StreamOtter.Protocol
import StreamOtter.Budget
import StreamOtter.Machine

/-!
# The gateway's side of one subscription

A translation of `ServerSubscription`, together with what it reads and changes in
its session, in the routing index and in its channel's source.  Each definition
is one synchronous stretch of the code; an `await` ends a stretch and leaves an
`Attempt` behind that a later step resumes.

Trace records, log lines and request IDs decide nothing and are left out.  The
`trace` field is not in the source: it records the frames handed to the
transport and the events the results talk about, in order.
-/

namespace StreamOtter

/-- A full-state frame in a buffer, in a send queue or in flight. -/
structure PendingFrame where
  event : StreamEvent
  bytes : ℕ
  dataHash : String
  deriving DecidableEq, Repr

def PendingFrame.revision (frame : PendingFrame) : Revision := frame.event.revision

/-- `#buildOutput` builds every frame that reaches `admitFrame` with kind `update`. -/
structure UpdateFrame extends PendingFrame where
  isUpdate : event.kind = .update

structure InFlight where
  frame : PendingFrame
  sequence : ℕ
  deriving DecidableEq, Repr

structure Tail where
  revision : Revision
  dataHash : String
  deriving DecidableEq, Repr

inductive AdmitResult
  | queued | filtered | overflow | inactive
  deriving DecidableEq, Repr

inductive Phase
  | idle | authorizing | waitingSource | capturing | snapshotSent | draining | live
  | backoff | resyncRequired | terminated
  deriving DecidableEq, Repr

inductive SourceStatus
  | starting | healthy | degraded | paused | stopped
  deriving DecidableEq, Repr

/-- What a subscription reads of its channel's source. -/
structure SourceRuntime where
  status : SourceStatus
  reason : Option ErrorCode
  boundary : Option BoundaryId
  deriving DecidableEq, Repr

def SourceRuntime.ready (source : SourceRuntime) : Bool := source.status = .healthy

def SourceRuntime.setStatus (status : SourceStatus) (reason : Option ErrorCode)
    (source : SourceRuntime) : SourceRuntime :=
  { source with status := status, reason := if status = .healthy then none else reason }

structure Limits where
  maxSyncAttempts : ℤ
  maxDataFrameBytes : ℕ
  maxPendingBytesPerConnection : ℕ
  deriving DecidableEq, Repr

/-- A snapshot handler's return value that is an object with a canonical revision
and a payload its schema accepts; `bytes` is the size of the frame built from it. -/
structure Snapshot where
  revision : Revision
  recoveryBoundaryId : Option BoundaryId
  bytes : ℕ
  dataHash : String
  deriving DecidableEq, Repr

inductive AuthorizeOutcome
  | allowed | denied | timeout | error | aborted
  deriving DecidableEq, Repr

/-- How the snapshot handler call ended; `malformed` is a value that fails one of
the checks of `#snapshotProblem` on its shape, revision or payload. -/
inductive SnapshotOutcome
  | ok (snapshot : Snapshot) | malformed | timeout | error | aborted
  deriving DecidableEq, Repr

/-- Where a suspended `#beginAttempt` resumes. -/
inductive Await
  /-- In `#authorize`, at the handler call. -/
  | authorizeHandler
  /-- At `await this.#authorize(…)`, which has returned true. -/
  | authorized
  /-- At `await snapshots.acquire(…)`. -/
  | permit
  /-- At the snapshot handler call, made under this boundary. -/
  | snapshotHandler (boundary : Option BoundaryId)
  /-- In the second `#authorize`, at the handler call. -/
  | recheckHandler (boundary : Option BoundaryId) (snapshot : Snapshot)
  /-- At the second `await this.#authorize(…)`, which has returned true. -/
  | rechecked (boundary : Option BoundaryId) (snapshot : Snapshot)
  deriving DecidableEq, Repr

/-- A synchronization attempt between two stretches: the generation it captured
and where it resumes. -/
structure Attempt where
  generation : ℕ
  waiting : Await
  deriving DecidableEq, Repr

inductive Handler
  | authorize | snapshot
  deriving DecidableEq, Repr

/-- `invokeHandler` calls the handler in a promise job of its own. -/
structure HandlerJob where
  generation : ℕ
  handler : Handler
  deriving DecidableEq, Repr

/-- The recorded events of a run. -/
inductive Observation
  | state (frame : SubscriptionFrame)
  | data (frame : DataFrame)
  | error (epoch : Epoch) (code : ErrorCode)
  /-- A receipt of the client reached the subscription. -/
  | receipt (epoch : Epoch) (sequence : ℕ)
  /-- A resync request of the client reached the subscription in this epoch. -/
  | resync (epoch : Epoch)
  /-- The drain boundary: the buffered frames kept when the snapshot was receipted. -/
  | drain (epoch : Epoch) (kept : List PendingFrame)
  | admitted (epoch : Epoch) (frame : PendingFrame) (result : AdmitResult)
  /-- A snapshot asked for under one boundary and answering with another is about to
  be sent while a third is in force. -/
  | answered (epoch : Epoch) (asked answer inForce : Option BoundaryId)
  /-- A handler was called, while the subscription was or was not in the routing index. -/
  | called (handler : Handler) (routed : Bool)
  /-- The subscription was failed or disposed. -/
  | terminated (epoch : Epoch)
  deriving DecidableEq, Repr

/-- The calls of `bufferedBytes()` and of the expiry clock, by where they are made. -/
inductive SendSite
  | inbound | announce | authorize | waiting | synchronizing | live | transmit | unavailable
  | attemptStale | attemptError | attemptResync | violation | failError | failState
  deriving DecidableEq, Repr

/-- What the transport and the clock answer within one stretch.  No stretch passes
one site twice. -/
structure Readings where
  bufferedBytes : SendSite → ℕ
  expired : SendSite → Bool

structure ServerSubscription where
  phase : Phase
  publicState : SubscriptionState
  epoch : Epoch
  sequence : ℕ
  generation : ℕ
  attempts : ℤ
  /-- The armed retry timer, with the generation its callback captured. -/
  retryTimer : Option ℕ
  queue : List PendingFrame
  inFlight : Option InFlight
  receiptTimer : Bool
  drainRemaining : ℕ
  snapshotRevision : Option Revision
  tail : Option Tail
  lastDelivered : Option Revision
  budget : SubscriptionBudget
  pending : List Attempt
  jobs : List HandlerJob
  /-- The session's `#closed`. -/
  sessionClosed : Bool
  /-- `canDeliver` found the authentication expired and queued `#expire`. -/
  expiring : Bool
  /-- In the session's subscription map. -/
  held : Bool
  /-- In the routing index. -/
  routed : Bool
  /-- In its channel's subscription set. -/
  registered : Bool
  source : SourceRuntime
  /-- The next value of `newId()`. -/
  nextId : ℕ
  trace : List Observation
  deriving DecidableEq, Repr

namespace ServerSubscription

def emit (o : Observation) (s : ServerSubscription) : ServerSubscription :=
  { s with trace := s.trace ++ [o] }

@[simp] theorem trace_emit (o : Observation) (s : ServerSubscription) :
    (s.emit o).trace = s.trace ++ [o] := rfl

/-- `this.#phase = …`. -/
def enter (phase : Phase) (s : ServerSubscription) : ServerSubscription :=
  { s with phase := phase }

@[simp] theorem trace_enter (phase : Phase) (s : ServerSubscription) :
    (s.enter phase).trace = s.trace := rfl

@[simp] theorem epoch_enter (phase : Phase) (s : ServerSubscription) :
    (s.enter phase).epoch = s.epoch := rfl

@[simp] theorem queue_enter (phase : Phase) (s : ServerSubscription) :
    (s.enter phase).queue = s.queue := rfl

@[simp] theorem epoch_emit (o : Observation) (s : ServerSubscription) :
    (s.emit o).epoch = s.epoch := rfl

@[simp] theorem queue_emit (o : Observation) (s : ServerSubscription) :
    (s.emit o).queue = s.queue := rfl

/-- An `await` of `#beginAttempt` leaves its continuation behind. -/
def suspend (generation : ℕ) (waiting : Await) (s : ServerSubscription) : ServerSubscription :=
  { s with pending := s.pending ++ [⟨generation, waiting⟩] }

/-- `invokeHandler`, whose call of the handler is a promise job. -/
def invoke (generation : ℕ) (handler : Handler) (s : ServerSubscription) : ServerSubscription :=
  { s with jobs := s.jobs ++ [⟨generation, handler⟩] }

def countAttempt (change : ℤ) (s : ServerSubscription) : ServerSubscription :=
  { s with attempts := s.attempts + change }

/-- `this.#publicState = …`. -/
def publish (state : SubscriptionState) (s : ServerSubscription) : ServerSubscription :=
  { s with publicState := state }

/-- `ClientSession.removeSubscription`. -/
def remove (s : ServerSubscription) : ServerSubscription := { s with held := false }

def unregister (s : ServerSubscription) : ServerSubscription := { s with registered := false }

/-- The phases in which admitted frames are kept. -/
def capturing (s : ServerSubscription) : Bool :=
  s.phase = .capturing || s.phase = .snapshotSent || s.phase = .draining || s.phase = .live

def terminated (s : ServerSubscription) : Bool := s.phase = .terminated

/-- The sizes of the frames the subscription holds reserved. -/
def heldSizes (s : ServerSubscription) : List ℕ :=
  s.queue.map PendingFrame.bytes ++ s.inFlight.toList.map (·.frame.bytes)

/-- Starts a new generation: aborts handlers, drops frames and leaves the routing
index.  Aborting needs no field: an attempt's signal is aborted exactly when its
generation is no longer the current one. -/
def invalidate (s : ServerSubscription) : ServerSubscription :=
  { s with
    generation := s.generation + 1
    retryTimer := none
    receiptTimer := false
    budget := s.budget.releaseAll s.heldSizes
    queue := []
    inFlight := none
    drainRemaining := 0
    snapshotRevision := none
    tail := none
    routed := false }

/-- Silent teardown for unsubscribe or connection closure. -/
def dispose (s : ServerSubscription) : ServerSubscription :=
  if s.phase = .terminated then s
  else
    ((s.invalidate.enter .terminated).publish .closed).unregister.emit (.terminated s.epoch)

/-- `ClientSession.#teardown`. -/
def teardown (s : ServerSubscription) : ServerSubscription :=
  if s.sessionClosed then s
  else
    let s := { s with sessionClosed := true }
    if s.held then s.dispose.remove else s

section Sending

variable (limits : Limits) (readings : Readings)

/-- `ClientSession.#stalled`: a client that stopped reading is torn down here, so
the answer is whether the session is closed afterwards. -/
def checkStalled (site : SendSite) (s : ServerSubscription) : ServerSubscription :=
  if s.sessionClosed then s
  else if readings.bufferedBytes site ≤ limits.maxPendingBytesPerConnection then s
  else s.teardown

def sendState (site : SendSite) (state : SubscriptionState) (reason : Option ErrorCode)
    (s : ServerSubscription) : ServerSubscription :=
  let s := (s.publish state).checkStalled limits readings site
  if s.sessionClosed then s else s.emit (.state ⟨s.epoch, state, reason⟩)

def sendError (site : SendSite) (code : ErrorCode) (s : ServerSubscription) :
    ServerSubscription :=
  let s := s.checkStalled limits readings site
  if s.sessionClosed then s else s.emit (.error s.epoch code)

def sendData (frame : DataFrame) (s : ServerSubscription) : ServerSubscription :=
  if s.sessionClosed then s else s.emit (.data frame)

def canDeliver (site : SendSite) (s : ServerSubscription) : ServerSubscription × Bool :=
  let s := s.checkStalled limits readings site
  if s.sessionClosed then (s, false)
  else if readings.expired site then ({ s with expiring := true }, false)
  else (s, true)

/-- Terminal failure: discards pending data and removes the subscription. -/
def fail (code : ErrorCode) (s : ServerSubscription) : ServerSubscription :=
  if s.phase = .terminated then s
  else
    let s := (s.invalidate.enter .terminated).unregister.emit (.terminated s.epoch)
    let s := s.sendError limits readings .failError code
    (s.sendState limits readings .failState .failed (some code)).remove

/-- A failed attempt: stale, then a bounded retry. -/
def attemptFailed (code : ErrorCode) (s : ServerSubscription) : ServerSubscription :=
  let s := s.invalidate
  let generation := s.generation
  let s := (s.enter .backoff).sendState limits readings .attemptStale .stale (some code)
  if s.attempts ≥ limits.maxSyncAttempts then
    let s := (s.enter .resyncRequired).sendError limits readings .attemptError .resyncRequired
    s.sendState limits readings .attemptResync .resyncRequired (some .resyncRequired)
  else { s with retryTimer := some generation }

def protocolViolation (s : ServerSubscription) : ServerSubscription :=
  (s.sendError limits readings .violation .invalidRequest).attemptFailed limits readings
    .invalidRequest

/-- The frame takes the next sequence, becomes the one in flight and is sent. -/
def handOver (frame : PendingFrame) (s : ServerSubscription) : ServerSubscription :=
  let s := { s with
    sequence := s.sequence + 1
    inFlight := some ⟨frame, s.sequence + 1⟩ }
  { s.sendData ⟨s.epoch, s.sequence, frame.event⟩ with receiptTimer := true }

theorem handOver_eq {s : ServerSubscription} (frame : PendingFrame)
    (hopen : s.sessionClosed = false) :
    s.handOver frame = { s with
      sequence := s.sequence + 1
      inFlight := some ⟨frame, s.sequence + 1⟩
      receiptTimer := true
      trace := s.trace ++ [.data ⟨s.epoch, s.sequence + 1, frame.event⟩] } := by
  simp [handOver, sendData, hopen, emit]

def transmit (frame : PendingFrame) (s : ServerSubscription) : ServerSubscription :=
  match s.canDeliver limits readings .transmit with
  | (s, false) => { s with budget := s.budget.release frame.bytes }
  | (s, true) =>
      if s.sequence ≥ maxSafeInteger - 1 then
        { s with budget := s.budget.release frame.bytes }.attemptFailed limits readings .overloaded
      else s.handOver frame

def pump (s : ServerSubscription) : ServerSubscription :=
  if s.inFlight.isSome then s
  else if s.phase ≠ .draining ∧ s.phase ≠ .live then s
  else
    match s.queue with
    | [] => s
    | next :: rest => { s with queue := rest }.transmit limits readings next

def goLive (s : ServerSubscription) : ServerSubscription :=
  ({ s.enter .live with attempts := 0 }.sendState limits readings .live .live none).pump limits
    readings

/-- True when admitting this state would conflict with the current state at the
same revision. -/
def conflicts (revision : Revision) (dataHash : String) (s : ServerSubscription) : Bool :=
  if !s.capturing then false
  else
    match s.tail with
    | none => false
    | some tail => tail.revision = revision && tail.dataHash != dataHash

/-- `admit`.  The queue outcome is recorded before any resulting send. -/
def admitFrame (frame : PendingFrame) (s : ServerSubscription) :
    ServerSubscription × AdmitResult :=
  if !s.capturing then (s.emit (.admitted s.epoch frame .inactive), .inactive)
  else if s.tail.any (fun tail => frame.revision ≤ tail.revision) then
    (s.emit (.admitted s.epoch frame .filtered), .filtered)
  else
    match s.budget.tryReserve frame.bytes with
    | none =>
        ((s.emit (.admitted s.epoch frame .overflow)).attemptFailed limits readings .overloaded,
          .overflow)
    | some budget =>
        ({ s with
            budget := budget
            queue := s.queue ++ [frame]
            tail := some ⟨frame.revision, frame.dataHash⟩ }.emit
              (.admitted s.epoch frame .queued) |>.pump limits readings, .queued)

/-- The in-flight frame was receipted: its budget is freed and it becomes the last
delivered state unless a newer one was. -/
def receipted (inFlight : InFlight) (s : ServerSubscription) : ServerSubscription :=
  { s with
    receiptTimer := false
    budget := s.budget.release inFlight.frame.bytes
    inFlight := none
    lastDelivered :=
      if s.lastDelivered.all (· < inFlight.frame.revision) then some inFlight.frame.revision
      else s.lastDelivered }

/-- The snapshot was receipted: buffered states it already represents are dropped
and the rest is the drain boundary. -/
def beginDrain (s : ServerSubscription) : ServerSubscription :=
  let boundary := s.snapshotRevision.getD 0
  let kept := s.queue.filter (boundary < ·.revision)
  let dropped := s.queue.filter (·.revision ≤ boundary)
  ({ s with
    budget := s.budget.releaseAll (dropped.map PendingFrame.bytes)
    queue := kept
    drainRemaining := kept.length }.enter .draining).emit (.drain s.epoch kept)

/-- One more frame up to the drain boundary was receipted. -/
def countDown (s : ServerSubscription) : ServerSubscription :=
  { s with drainRemaining := s.drainRemaining - 1 }

def onReceipt (epoch : Epoch) (sequence : ℕ) (s : ServerSubscription) : ServerSubscription :=
  if epoch ≠ s.epoch ∨ !s.capturing then s
  else
    match s.inFlight with
    | none =>
        if sequence ≤ s.sequence then s else s.protocolViolation limits readings
    | some inFlight =>
        if sequence < inFlight.sequence then
          if sequence ≤ s.sequence then s else s.protocolViolation limits readings
        else if sequence > inFlight.sequence then s.protocolViolation limits readings
        else
          let s := s.receipted inFlight
          if s.phase = .snapshotSent then
            let s := s.beginDrain
            if s.drainRemaining = 0 then s.goLive limits readings else s.pump limits readings
          else if s.phase = .draining then
            let s := s.countDown
            if s.drainRemaining = 0 then s.goLive limits readings else s.pump limits readings
          else s.pump limits readings

def announceAttempt (announce : Bool) (s : ServerSubscription) : ServerSubscription :=
  if announce then s.sendState limits readings .announce .authorizing none
  else s.publish .authorizing

/-- The call of `#authorize` at the start of an attempt.  A signal that an earlier send
aborted keeps `invokeHandler` from calling the handler. -/
def callAuthorize (generation : ℕ) (s : ServerSubscription) : ServerSubscription :=
  (if s.generation = generation then s.invoke generation .authorize else s).suspend generation
    .authorizeHandler

/-- The stretch from `#beginAttempt` up to the authorize handler. -/
def beginAttempt (announce : Bool) (s : ServerSubscription) : ServerSubscription :=
  let s := s.invalidate
  let generation := s.generation
  let s := (s.countAttempt 1).enter .authorizing
  (s.announceAttempt limits readings announce).callAuthorize generation

/-- The rest of `#authorize` after its handler; the flag is its return value. -/
def afterAuthorizeHandler (generation : ℕ) (outcome : AuthorizeOutcome) (revoked : Bool)
    (s : ServerSubscription) : ServerSubscription × Bool :=
  if generation ≠ s.generation then (s, false)
  else
    match outcome with
    | .aborted => (s, false)
    | .timeout => (s.attemptFailed limits readings .timeout, false)
    | .error => (s.fail limits readings .handlerFailed, false)
    | .denied => (s.fail limits readings .forbidden, false)
    | .allowed =>
        match s.canDeliver limits readings .authorize with
        | (s, false) => (s, false)
        | (s, true) =>
            if revoked then (s.fail limits readings .forbidden, false) else (s, true)

/-- From the first `await this.#authorize(…)` to the permit.  The generation is
not compared again here. -/
def afterAuthorized (generation : ℕ) (s : ServerSubscription) : ServerSubscription :=
  if !s.source.ready then
    ((s.countAttempt (-1)).enter .waitingSource).sendState limits readings .waiting .stale
      (some (s.source.reason.getD .sourceUnavailable))
  else
    let s := { s with epoch := s.nextId, nextId := s.nextId + 1, sequence := 0 }
    let s := s.sendState limits readings .synchronizing .synchronizing none
    { s.enter .capturing with routed := true }.suspend generation .permit

def afterPermit (generation : ℕ) (acquired : Bool) (s : ServerSubscription) :
    ServerSubscription :=
  if generation ≠ s.generation then s
  else if !acquired then s.attemptFailed limits readings .timeout
  else
    (s.invoke generation .snapshot).suspend generation (.snapshotHandler s.source.boundary)

/-- `#snapshotProblem`'s check of an acknowledgment nobody asked for; its other
checks are the outcome `malformed`. -/
def unexpectedAcknowledgment (boundary : Option BoundaryId) (snapshot : Snapshot) : Bool :=
  boundary.isNone && snapshot.recoveryBoundaryId.isSome

/-- Whether the snapshot answers the boundary it was asked under, which must still
be the one in force. -/
def acknowledges (boundary : Option BoundaryId) (snapshot : Snapshot)
    (s : ServerSubscription) : Bool :=
  match boundary with
  | none => true
  | some id => snapshot.recoveryBoundaryId = some id && s.source.boundary = some id

def afterSnapshotHandler (generation : ℕ) (boundary : Option BoundaryId)
    (outcome : SnapshotOutcome) (s : ServerSubscription) : ServerSubscription :=
  if generation ≠ s.generation then s
  else
    match outcome with
    | .aborted => s
    | .timeout => s.attemptFailed limits readings .timeout
    | .error => s.fail limits readings .handlerFailed
    | .malformed => s.fail limits readings .invalidPayload
    | .ok snapshot =>
        if unexpectedAcknowledgment boundary snapshot then s.fail limits readings .invalidPayload
        else if !s.acknowledges boundary snapshot then
          s.attemptFailed limits readings .sourceUnavailable
        else if s.lastDelivered.any (snapshot.revision < ·) then
          s.attemptFailed limits readings .invalidPayload
        else
          (s.invoke generation .authorize).suspend generation (.recheckHandler boundary snapshot)

/-- From the second `await this.#authorize(…)` to the snapshot's transmission.
The generation is not compared again here either. -/
def afterRechecked (channel : String) (channelVersion : ℕ) (boundary : Option BoundaryId)
    (snapshot : Snapshot) (s : ServerSubscription) : ServerSubscription :=
  if s.source.boundary ≠ boundary then s.attemptFailed limits readings .sourceUnavailable
  else if snapshot.bytes > limits.maxDataFrameBytes then s.fail limits readings .invalidPayload
  else
    match s.budget.tryReserve snapshot.bytes with
    | none => s.attemptFailed limits readings .overloaded
    | some budget =>
        let frame : PendingFrame :=
          ⟨⟨channel, channelVersion, .snapshot, snapshot.revision⟩, snapshot.bytes,
            snapshot.dataHash⟩
        let s := { s with
          budget := budget
          snapshotRevision := some snapshot.revision
          tail :=
            if s.tail.all (fun (tail : Tail) => tail.revision ≤ snapshot.revision) then
              some ⟨snapshot.revision, snapshot.dataHash⟩
            else s.tail }
        let s := (s.enter .snapshotSent).emit
          (.answered s.epoch boundary snapshot.recoveryBoundaryId s.source.boundary)
        s.transmit limits readings frame

def start (s : ServerSubscription) : ServerSubscription :=
  { s with registered := true }.beginAttempt limits readings false

def requestResync (s : ServerSubscription) : ServerSubscription :=
  match s.phase with
  | .backoff | .snapshotSent | .draining => s.beginAttempt limits readings true
  | .live | .resyncRequired => { s with attempts := 0 }.beginAttempt limits readings true
  | _ => s

def onSourceUnavailable (reason : ErrorCode) (s : ServerSubscription) : ServerSubscription :=
  match s.phase with
  | .authorizing | .capturing | .snapshotSent | .draining | .live | .backoff =>
      (s.invalidate.enter .waitingSource).sendState limits readings .unavailable .stale
        (some reason)
  | _ => s

def onSourceReady (s : ServerSubscription) : ServerSubscription :=
  match s.phase with
  | .waitingSource => s.beginAttempt limits readings true
  | _ => s

end Sending

/-- The notices of `GatewayRuntime.#setSourceStatus` to one subscription. -/
def sourceChanged (limits : Limits) (readings : Readings) (wasReady : Bool)
    (s : ServerSubscription) : ServerSubscription :=
  if !s.registered then s
  else if wasReady && !s.source.ready then
    s.onSourceUnavailable limits readings .sourceUnavailable
  else if !wasReady && s.source.ready then s.onSourceReady limits readings
  else s

/-- `GatewayRuntime.#setSourceStatus`, for one subscription of the source. -/
def setSourceStatus (limits : Limits) (readings : Readings) (status : SourceStatus)
    (reason : Option ErrorCode) (s : ServerSubscription) : ServerSubscription :=
  if s.source.status = status ∧ s.source.reason = reason then s
  else
    { s with source := s.source.setStatus status reason }.sourceChanged limits readings
      s.source.ready

end ServerSubscription

end StreamOtter
