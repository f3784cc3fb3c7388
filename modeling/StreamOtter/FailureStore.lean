import StreamOtter.FailureVocabulary
import StreamOtter.JsValue

/-!
# What the incident stores share

The records of the incident store and the functions that the memory store and the SQLite
store both call.  JSON data is represented by its canonical text, since both stores keep
what parsing that text gives, and times are texts, as in the source.
-/

namespace StreamOtter

inductive QuarantineState
  | notRequired | pending | unknown | acknowledged | failed
  deriving DecidableEq, Repr

inductive ProgressState
  | held | retrying | advancePending | advanced | processed | uncertain
  deriving DecidableEq, Repr

inductive RecoveryState
  | notApplicable | guardPending | held | boundaryInForce | denied
  deriving DecidableEq, Repr

inductive EvidenceCompleteness
  | complete | incomplete | unavailable | expired
  deriving DecidableEq, Repr

inductive EvidenceLocation
  | kafka | local | none
  deriving DecidableEq, Repr

inductive IncidentEventName
  | detected | retrying | captured | quarantineUnknown | quarantined | held | advancePending
  | advanceConfirmed | snapshotRecoveryRequired | operator | resolved
  deriving DecidableEq, Repr

inductive IncidentState
  | opened | resolved
  deriving DecidableEq, Repr

structure EvidenceSummary where
  location : EvidenceLocation
  completeness : EvidenceCompleteness
  valueBytes : Option ℕ
  keyBytes : Option ℕ
  headerCount : ℕ
  hash : String
  deriving DecidableEq, Repr

structure Fingerprints where
  config : String
  handlerBuildId : String
  policyRevision : String
  gatewayVersion : String
  deriving DecidableEq, Repr

inductive GuardDecision
  | hold | recoverable | error | timeout
  deriving DecidableEq, Repr

structure GuardResult where
  decision : GuardDecision
  reason : Option String
  evidenceRef : Option String
  time : String
  deriving DecidableEq, Repr

structure IncidentRecord where
  failureId : String
  revision : ℕ
  sourceId : String
  generation : String
  position : Position
  clusterId : Option String
  timestamp : Option String
  failureClass : FailureClass
  stage : Stage
  errorCode : ErrorCode
  channel : Option String
  policy : FailurePolicy
  diagnosis : String
  firstObservedAt : String
  lastObservedAt : String
  observations : ℕ
  evidence : EvidenceSummary
  quarantine : QuarantineState
  quarantineCoordinates : Option (ℕ × ℕ)
  progress : ProgressState
  recovery : RecoveryState
  state : IncidentState
  resolution : Option String
  fingerprints : Fingerprints
  guard : Option GuardResult
  boundaryId : Option String
  updatedAt : String
  deriving DecidableEq, Repr

inductive BoundaryState
  | inForce | superseded | retired
  deriving DecidableEq, Repr

inductive RetirementMode
  | generation | application | operator | superseded
  deriving DecidableEq, Repr

structure Retirement where
  mode : RetirementMode
  reason : Option String
  operationId : Option String
  deriving DecidableEq, Repr

structure StoredBoundary where
  boundaryId : String
  sourceId : String
  generation : String
  context : String
  revision : ℕ
  state : BoundaryState
  failureIds : List String
  supersedes : Option String
  createdAt : String
  retiredAt : Option String
  retirement : Option Retirement
  deriving DecidableEq, Repr

inductive CircuitPosition
  | closed | opened
  deriving DecidableEq, Repr

/-- The fields that `updateCircuit` replaces. -/
structure CircuitUpdate where
  state : CircuitPosition
  advances : List String
  openedAt : Option String
  reason : Option String
  deriving DecidableEq, Repr

structure CircuitState extends CircuitUpdate where
  sourceId : String
  revision : ℕ
  deriving DecidableEq, Repr

/-- `PrepareAdvance`.  The context is its canonical text, or what `canonicalJson` throws. -/
structure PrepareAdvance where
  failureId : String
  expectedRevision : ℕ
  boundaryId : String
  context : Except String String
  expectedPrior : Option String
  guard : GuardResult
  time : String

structure IncidentEvent where
  time : String
  event : IncidentEventName
  detail : Option String
  operationId : Option String
  deriving DecidableEq, Repr

structure NewObservation where
  failureId : String
  sourceId : String
  generation : String
  position : Position
  clusterId : Option String
  timestamp : Option String
  failureClass : FailureClass
  stage : Stage
  errorCode : ErrorCode
  channel : Option String
  policy : FailurePolicy
  diagnosis : String
  evidence : EvidenceSummary
  fingerprints : Fingerprints
  observedAt : String
  deriving DecidableEq, Repr

structure ObservationResult where
  record : IncidentRecord
  created : Bool
  conflict : Bool
  deriving DecidableEq, Repr

/-- `IncidentPatch`: the fields a transition changes. -/
structure IncidentPatch where
  quarantine : Option QuarantineState := none
  quarantineCoordinates : Option (Option (ℕ × ℕ)) := none
  progress : Option ProgressState := none
  recovery : Option RecoveryState := none
  state : Option IncidentState := none
  resolution : Option (Option String) := none
  evidence : Option EvidenceSummary := none
  diagnosis : Option String := none
  guard : Option (Option GuardResult) := none
  boundaryId : Option (Option String) := none
  deriving DecidableEq, Repr

inductive SourceKind
  | kafka | fixture
  deriving DecidableEq, Repr

structure SourceIdentity where
  sourceId : String
  generation : String
  kind : SourceKind
  deriving DecidableEq, Repr

inductive OperationKind
  | retryCurrent | reassess | reopenCircuit | retireBoundary | redrive
  deriving DecidableEq, Repr

inductive OperationState
  | pending | completed | unknown
  deriving DecidableEq, Repr

structure StoredOperation where
  operationId : String
  kind : OperationKind
  sourceId : String
  failureId : Option String
  requestHash : String
  state : OperationState
  result : Option String
  startedAt : String
  completedAt : Option String
  deriving DecidableEq, Repr

structure NewOperation where
  operationId : String
  kind : OperationKind
  sourceId : String
  failureId : Option String
  requestHash : String
  time : String
  deriving DecidableEq, Repr

/-- What the stores throw: a `StreamOtterError` with its details, or SQLite's own error,
which has no code. -/
structure Refusal where
  code : Option ErrorCode
  message : String
  status : Option ℕ := none
  reason : Option String := none
  details : List (String × String) := []
  deriving DecidableEq, Repr

@[simp] theorem ok_bind {ε α β : Type} (a : α) (f : α → Except ε β) :
    (Except.ok a >>= f) = f a := rfl

@[simp] theorem error_bind {ε α β : Type} (e : ε) (f : α → Except ε β) :
    ((Except.error e : Except ε α) >>= f) = .error e := rfl

namespace FailureStore

def maxOperations : ℕ := 10000

def maxOperationId : ℕ := 128

def maxOperationResultBytes : ℕ := 16 * 1024

def maxEventsPerIncident : ℕ := 200

def maxCircuitAdvances : ℕ := 20

def maxGuardText : ℕ := 512

def maxRecoveryContextBytes : ℕ := 16384

/-! ### Refusals -/

def staleRevisionWith (message : String) : Refusal :=
  ⟨some .invalidRequest, message, some 409, some "stale-revision", []⟩

/-- `StaleRevisionError` with the message of an incident. -/
def staleRevision (failureId : String) (expected actual : ℕ) : Refusal :=
  staleRevisionWith ("Incident " ++ failureId ++ " is at revision " ++ toString actual ++ ", not " ++
    toString expected ++ ".")

def conflict (reason message : String) (details : List (String × String)) : Refusal :=
  ⟨some .invalidRequest, message, some 409, some reason, details⟩

def unknownIncident (failureId : String) : Refusal :=
  ⟨some .invalidRequest, "Unknown incident " ++ failureId ++ ".", some 404, none, []⟩

def unknownBoundary (boundaryId : String) : Refusal :=
  ⟨some .invalidRequest, "Unknown recovery boundary " ++ boundaryId ++ ".", some 404, none, []⟩

def unknownOperation (operationId : String) : Refusal :=
  ⟨some .invalidRequest, "Unknown operation " ++ operationId ++ ".", some 404, none, []⟩

def invalid (reason message : String) : Refusal :=
  ⟨some .invalidRequest, message, some 400, some reason, []⟩

def storeFull (message : String) : Refusal :=
  ⟨some .overloaded, message, none, some "journal-full", []⟩

/-- The names of states as the messages print them. -/
def progressText : ProgressState → String
  | .held => "held"
  | .retrying => "retrying"
  | .advancePending => "advance-pending"
  | .advanced => "advanced"
  | .processed => "processed"
  | .uncertain => "uncertain"

def boundaryStateText : BoundaryState → String
  | .inForce => "in-force"
  | .superseded => "superseded"
  | .retired => "retired"

def operationStateText : OperationState → String
  | .pending => "pending"
  | .completed => "completed"
  | .unknown => "unknown"

def recoveryText : RecoveryState → String
  | .notApplicable => "not-applicable"
  | .guardPending => "guard-pending"
  | .held => "held"
  | .boundaryInForce => "boundary-in-force"
  | .denied => "denied"

def policyText : FailurePolicy → String
  | .pause => "pause"
  | .quarantineHold => "quarantine-hold"
  | .quarantineResync => "quarantine-resync"

def failureClassText : FailureClass → String
  | .invalidJson => "invalid-json"
  | .payloadSchema => "payload-schema"
  | .mapperTransient => "mapper-transient"
  | .mapperError => "mapper-error"
  | .mapperTimeout => "mapper-timeout"
  | .routingInvalid => "routing-invalid"
  | .revisionConflict => "revision-conflict"
  | .tombstone => "tombstone"
  | .oversize => "oversize"

/-! ### Incidents -/

/-- The incident a first observation makes. -/
def newIncident (observation : NewObservation) : IncidentRecord where
  failureId := observation.failureId
  revision := 1
  sourceId := observation.sourceId
  generation := observation.generation
  position := observation.position
  clusterId := observation.clusterId
  timestamp := observation.timestamp
  failureClass := observation.failureClass
  stage := observation.stage
  errorCode := observation.errorCode
  channel := observation.channel
  policy := observation.policy
  diagnosis := observation.diagnosis
  firstObservedAt := observation.observedAt
  lastObservedAt := observation.observedAt
  observations := 1
  evidence := observation.evidence
  quarantine := .notRequired
  quarantineCoordinates := none
  progress := .held
  recovery := .notApplicable
  state := .opened
  resolution := none
  fingerprints := observation.fingerprints
  guard := none
  boundaryId := none
  updatedAt := observation.observedAt

/-- `applyPolicy`: the incident under the policy configured now, and the event's note. -/
def applyPolicy (policy : FailurePolicy) (record : IncidentRecord) : IncidentRecord × String :=
  if record.policy = policy then (record, "")
  else
    let note := "; policy changed from " ++ policyText record.policy ++ " to " ++ policyText policy ++
      " in the configuration"
    if policy ≠ .quarantineResync ∧ record.recovery = .denied then
      ({ record with policy := policy, recovery := .held },
        note ++ "; recovery " ++ recoveryText record.recovery ++ " under " ++
          policyText record.policy ++ " is now held, because no recovery guard runs under " ++
          policyText policy)
    else ({ record with policy := policy }, note)

/-- Whether the stored evidence differs from the one observed now. -/
def evidenceConflicts (observation : NewObservation) (existing : IncidentRecord) : Bool :=
  existing.evidence.hash ≠ "" && observation.evidence.hash ≠ "" &&
    existing.evidence.hash ≠ observation.evidence.hash

/-- An observed incident is open again. -/
def reopened (existing : IncidentRecord) : IncidentRecord :=
  if existing.state = .resolved then
    { existing with state := .opened, resolution := none, progress := .held }
  else existing

/-- The incident after another observation, and the detail of its event. -/
def observedAgain (observation : NewObservation) (existing : IncidentRecord) :
    IncidentRecord × String :=
  let counted := reopened { existing with
    revision := existing.revision + 1
    lastObservedAt := observation.observedAt
    observations := existing.observations + 1
    updatedAt := observation.observedAt }
  if evidenceConflicts observation existing then (counted, "evidence-conflict")
  else
    let (record, note) := applyPolicy observation.policy counted
    ({ record with
        failureClass := observation.failureClass
        stage := observation.stage
        errorCode := observation.errorCode
        channel := observation.channel
        diagnosis := observation.diagnosis },
      failureClassText observation.failureClass ++ note)

@[simp] theorem observedAgain_failureId (observation : NewObservation) (existing : IncidentRecord) :
    (observedAgain observation existing).1.failureId = existing.failureId := by
  unfold observedAgain reopened applyPolicy
  dsimp only
  repeat' split
  all_goals rfl

@[simp] theorem observedAgain_sourceId (observation : NewObservation) (existing : IncidentRecord) :
    (observedAgain observation existing).1.sourceId = existing.sourceId := by
  unfold observedAgain reopened applyPolicy
  dsimp only
  repeat' split
  all_goals rfl

def detectedEvent (time detail : String) : IncidentEvent :=
  ⟨time, .detected, some detail, none⟩

/-- `Object.assign` of the patch, with the new revision and time. -/
def patched (patch : IncidentPatch) (time : String) (record : IncidentRecord) : IncidentRecord :=
  { record with
    quarantine := patch.quarantine.getD record.quarantine
    quarantineCoordinates := patch.quarantineCoordinates.getD record.quarantineCoordinates
    progress := patch.progress.getD record.progress
    recovery := patch.recovery.getD record.recovery
    state := patch.state.getD record.state
    resolution := patch.resolution.getD record.resolution
    evidence := patch.evidence.getD record.evidence
    diagnosis := patch.diagnosis.getD record.diagnosis
    guard := patch.guard.getD record.guard
    boundaryId := patch.boundaryId.getD record.boundaryId
    revision := record.revision + 1
    updatedAt := time }

/-- Keeps the newest `maxEventsPerIncident` events. -/
def capEvents (events : List IncidentEvent) : List IncidentEvent :=
  events.drop (events.length - maxEventsPerIncident)

/-! ### Boundaries -/

/-- `checkPrepareAdvance`: the context's canonical text. -/
def checkPrepareAdvance (input : PrepareAdvance) : Except Refusal String :=
  if input.boundaryId = "" then .error (invalid "boundary-id" "A boundary ID is required.")
  else
    match input.context with
    | .error thrown =>
        .error (invalid "context-not-json" ("The recovery context is not JSON data: " ++ thrown ++ "."))
    | .ok context =>
        if maxRecoveryContextBytes < context.utf8ByteSize then
          .error (invalid "context-too-large"
            ("The recovery context is " ++ toString context.utf8ByteSize ++
              " bytes of canonical JSON; the limit is " ++ toString maxRecoveryContextBytes ++ "."))
        else if input.guard.reason.any fun text => maxGuardText < text.length then
          .error (invalid "guard-text-too-long" "The guard's reason is longer than 512 characters.")
        else if input.guard.evidenceRef.any fun text => maxGuardText < text.length then
          .error (invalid "guard-text-too-long"
            "The guard's evidenceRef is longer than 512 characters.")
        else .ok context

def checkAdvanceState (input : PrepareAdvance) (found : Option IncidentRecord)
    (prior : Option StoredBoundary) (generation : Option String) (taken : Bool) :
    Except Refusal IncidentRecord :=
  match found with
  | none => .error (unknownIncident input.failureId)
  | some record =>
      if record.revision ≠ input.expectedRevision then
        .error (staleRevision input.failureId input.expectedRevision record.revision)
      else if record.state ≠ .opened then
        .error (conflict "incident-resolved"
          ("Incident " ++ input.failureId ++ " is resolved; there is nothing to advance past.")
          [("failureId", input.failureId)])
      else if generation.any (record.generation ≠ ·) then
        .error (conflict "generation-changed"
          ("Incident " ++ input.failureId ++ " belongs to generation " ++ record.generation ++
            " of source " ++ record.sourceId ++ ", which is now at generation " ++
            generation.getD "" ++ ".")
          [("failureId", input.failureId), ("sourceId", record.sourceId)])
      else if prior.map (·.boundaryId) ≠ input.expectedPrior then
        .error (staleRevisionWith
          ("Source " ++ record.sourceId ++ " has " ++
            (match prior with
              | none => "no boundary"
              | some boundary => "boundary " ++ boundary.boundaryId) ++
            " in force, not " ++ input.expectedPrior.getD "none" ++ "."))
      else if taken then
        .error (conflict "boundary-exists"
          ("Recovery boundary " ++ input.boundaryId ++ " already exists.")
          [("boundaryId", input.boundaryId)])
      else .ok record

def nextBoundary (input : PrepareAdvance) (record : IncidentRecord)
    (prior : Option StoredBoundary) (canonicalContext : String) : StoredBoundary :=
  let failureIds := (prior.map (·.failureIds)).getD []
  { boundaryId := input.boundaryId
    sourceId := record.sourceId
    generation := record.generation
    context := canonicalContext
    revision := 1
    state := .inForce
    failureIds := if record.failureId ∈ failureIds then failureIds
      else failureIds ++ [record.failureId]
    supersedes := prior.map (·.boundaryId)
    createdAt := input.time
    retiredAt := none
    retirement := none }

def advancedIncident (input : PrepareAdvance) (record : IncidentRecord) :
    IncidentRecord × IncidentEvent :=
  ({ record with
      progress := .advancePending
      recovery := .boundaryInForce
      guard := some input.guard
      boundaryId := some input.boundaryId
      revision := record.revision + 1
      updatedAt := input.time },
    ⟨input.time, .advancePending, some input.boundaryId, none⟩)

/-- The refusal of a retirement for one incident that the boundary lists. -/
def heldRefusal (boundaryId : String) (record : IncidentRecord) : Option Refusal :=
  if record.state ≠ .opened then none
  else
    match record.progress with
    | .held | .retrying =>
        some (conflict "incident-held"
          ("Recovery boundary " ++ boundaryId ++ " cannot be retired while incident " ++
            record.failureId ++ " is still " ++ progressText record.progress ++ ".")
          [("boundaryId", boundaryId), ("failureId", record.failureId)])
    | .advancePending | .uncertain =>
        some (conflict "advance-unresolved"
          ("Recovery boundary " ++ boundaryId ++ " cannot be retired while the advance of incident " ++
            record.failureId ++ " is unresolved (" ++ progressText record.progress ++ ").")
          [("boundaryId", boundaryId), ("failureId", record.failureId)])
    | .advanced | .processed => none

def checkRetirement (boundaryId : String) (found : Option StoredBoundary) (expectedRevision : ℕ)
    (retirement : Retirement) (incidents : String → Option IncidentRecord) :
    Except Refusal StoredBoundary :=
  match found with
  | none => .error (unknownBoundary boundaryId)
  | some boundary =>
      if boundary.revision ≠ expectedRevision then
        .error (staleRevisionWith
          ("Recovery boundary " ++ boundaryId ++ " is at revision " ++ toString boundary.revision ++
            ", not " ++ toString expectedRevision ++ "."))
      else if retirement.mode = .superseded then
        .error (invalid "retirement-mode"
          "A boundary is retired by generation, application or operator, not \"superseded\"; superseding happens only in prepareAdvance.")
      else if boundary.state ≠ .inForce then
        .error (conflict "boundary-not-in-force"
          ("Recovery boundary " ++ boundaryId ++ " is " ++ boundaryStateText boundary.state ++
            ", not in force.")
          [("boundaryId", boundaryId), ("state", boundaryStateText boundary.state)])
      else
        match boundary.failureIds.findSome? fun failureId =>
          (incidents failureId).bind (heldRefusal boundaryId) with
        | some refusal => .error refusal
        | none => .ok boundary

def endBoundary (retirement : Retirement) (time : String) (boundary : StoredBoundary) :
    StoredBoundary :=
  let superseded := retirement.mode = .superseded
  { boundary with
    state := if superseded then .superseded else .retired
    failureIds := if superseded then [] else boundary.failureIds
    revision := boundary.revision + 1
    retiredAt := some time
    retirement := some retirement }

def generationRetirement (sourceId old new : String) : Retirement where
  mode := .generation
  reason := some ("Source " ++ sourceId ++ " changed from generation " ++ old ++ " to " ++ new ++ ".")
  operationId := none

def supersession : Retirement := ⟨.superseded, none, none⟩

/-! ### Circuits -/

def defaultCircuit (sourceId : String) : CircuitState where
  sourceId := sourceId
  state := .closed
  advances := []
  openedAt := none
  reason := none
  revision := 0

def capAdvances (advances : List String) : List String :=
  advances.drop (advances.length - maxCircuitAdvances)

def checkCircuit (sourceId : String) (next : CircuitUpdate) (revision : ℕ) : CircuitState where
  sourceId := sourceId
  state := next.state
  advances := capAdvances next.advances
  openedAt := next.openedAt
  reason := next.reason
  revision := revision

def checkCircuitRevision (sourceId : String) (expectedRevision : ℕ) (current : CircuitState) :
    Except Refusal Unit :=
  if current.revision ≠ expectedRevision then
    .error (staleRevisionWith
      ("The circuit of source " ++ sourceId ++ " is at revision " ++ toString current.revision ++
        ", not " ++ toString expectedRevision ++ "."))
  else .ok ()

/-- The circuit after an advance is counted: an incident advanced again moves its entry,
the creation time of the boundary it names, to the new time. -/
def countedAdvance (time : String) (earlier : Option String) (circuit : CircuitState) :
    CircuitState :=
  { circuit with
    advances := capAdvances
      ((match earlier with
        | none => circuit.advances
        | some createdAt => circuit.advances.erase createdAt) ++ [time])
    revision := circuit.revision + 1 }

/-! ### Operations -/

def isHexDigit (c : Char) : Bool := c.isDigit || ('a' ≤ c && c ≤ 'f')

/-- `REQUEST_HASH`. -/
def isRequestHash (text : String) : Bool :=
  match "sha256:".toList.isPrefixOf text.toList, text.toList.drop 7 with
  | true, digits => digits.length = 64 && digits.all isHexDigit
  | false, _ => false

/-- `CONTROL_CHARACTERS`. -/
def isControlCharacter (c : Char) : Bool := c.val ≤ 0x1f || c.val = 0x7f

def newOperation (input : NewOperation) : Except Refusal StoredOperation :=
  if input.operationId = "" || maxOperationId < utf16Length input.operationId ||
      input.operationId.toList.any isControlCharacter then
    .error (invalid "operation-id"
      "An operation ID is 1 to 128 characters without control characters.")
  else if !isRequestHash input.requestHash then
    .error (invalid "request-hash"
      "A request hash is \"sha256:\" followed by 64 lowercase hex digits.")
  else if input.sourceId = "" then
    .error (invalid "source-id" "An operation names a source.")
  else if input.failureId = some "" then
    .error (invalid "failure-id" "An operation's failure ID is null or a non-empty string.")
  else if input.time = "" then
    .error (invalid "operation-time" "An operation needs the time it started.")
  else
    .ok ⟨input.operationId, input.kind, input.sourceId, input.failureId, input.requestHash,
      .pending, none, input.time, none⟩

/-- How an operation may be finished. -/
inductive FinishState
  | completed | unknown
  deriving DecidableEq, Repr

def FinishState.toOperationState : FinishState → OperationState
  | .completed => .completed
  | .unknown => .unknown

/-- `checkOperationResult`: the result's canonical text. -/
def checkOperationResult (result : Except String String) : Except Refusal String :=
  match result with
  | .error thrown =>
      .error (invalid "result-not-json" ("The operation result is not JSON data: " ++ thrown ++ "."))
  | .ok text =>
      if maxOperationResultBytes < text.utf8ByteSize then
        .error (invalid "result-too-large"
          ("The operation result is " ++ toString text.utf8ByteSize ++
            " bytes of canonical JSON; the limit is " ++ toString maxOperationResultBytes ++ "."))
      else .ok text

def finishedOperation (operationId : String) (found : Option StoredOperation)
    (state : FinishState) (canonicalResult time : String) : Except Refusal StoredOperation :=
  match found with
  | none => .error (unknownOperation operationId)
  | some operation =>
      if operation.state ≠ .pending then
        .error (conflict "operation-not-pending"
          ("Operation " ++ operationId ++ " is already " ++ operationStateText operation.state ++ ".")
          [("operationId", operationId), ("state", operationStateText operation.state)])
      else
        .ok { operation with
          state := state.toOperationState
          result := some canonicalResult
          completedAt := some time }

def abandonedOperation (time : String) (operation : StoredOperation) : StoredOperation :=
  { operation with state := .unknown, result := none, completedAt := some time }

def operationsToPrune (stored finished limit : ℕ) : Except Refusal ℕ :=
  let excess := stored + 1 - limit
  if finished < excess then
    .error (storeFull
      ("The store holds " ++ toString stored ++ " operator operations (limit " ++ toString limit ++
        ") and " ++ toString (stored - finished) ++
        " are still pending; refusing to record another. Nothing was pruned."))
  else .ok excess

end FailureStore

end StreamOtter
