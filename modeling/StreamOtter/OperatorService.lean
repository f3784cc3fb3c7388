import StreamOtter.EvidenceLocation
import Mathlib.Data.List.Sort

/-!
# The operator service

Evaluations, redrives and the journal of operations, one step for each stretch of code between
two awaits.  What other kinds of operation do, and what the failure service does meanwhile, is
any call of the store that leaves the operations alone.  The lists at the end of the state are
the history that the results speak about.
-/

namespace StreamOtter

open FailureStore ByteCodec

/-- `PLAN_TTL_MS`. -/
def planTtlMs : ℕ := 5 * 60000

def maxPlans : ℕ := 64

def maxConcurrentEvaluations : ℕ := 2

structure Plan where
  planId : String
  failureId : String
  sourceId : String
  incidentRevision : ℕ
  generation : String
  evidenceHash : String
  outputHash : String
  fingerprint : String
  expiresAtMs : ℕ
  deriving DecidableEq, Repr

inductive ResultKind
  | completed | refused | failed | unknown
  deriving DecidableEq, Repr

/-- `OperationResult` without its operation ID. -/
structure Draft where
  result : ResultKind
  outcome : String
  incidentRevision : Option ℕ
  message : String
  deriving DecidableEq, Repr

/-- The texts that the service stores operations as.  What is read back from a result's text is
the result. -/
structure OperatorTexts extends RecordTexts where
  resultText : String → Draft → String
  readResult : String → Draft
  readResult_resultText : ∀ operationId draft, readResult (resultText operationId draft) = draft

/-- What the runtime tells the operator service. -/
structure OperatorSettings where
  generation : String → Option String
  replaySafeMapping : String → Bool
  fingerprint : String
  handlerBuildId : String

structure PlannedOutput where
  channel : String
  channelVersion : ℕ
  revision : Revision
  deriving DecidableEq, Repr

/-- What mapping a stored record came to, as `describePrepared` gives it. -/
inductive OperatorPrepared
  | ok (outputs : List PlannedOutput) (outputHash : String)
  | problem (stage : Stage) (failureClass : FailureClass) (reason : String)
  | abandon
  deriving DecidableEq, Repr

structure AdmitCounts where
  queued : ℕ
  filtered : ℕ
  inactive : ℕ
  overflow : ℕ
  deriving DecidableEq, Repr

inductive RedriveOutcome
  | admitted (counts : AdmitCounts)
  | changed
  | problem (stage : Stage) (failureClass : FailureClass) (reason : String)
  | abandon
  deriving DecidableEq, Repr

structure EvaluationResult where
  valid : Bool
  errors : List (String × Option FailureClass × String)
  outputs : List PlannedOutput
  ineligibleReason : Option String
  plan : Option Plan
  deriving DecidableEq, Repr

structure RedriveRequest where
  failureId : String
  planId : String
  planFingerprint : String
  expectedRevision : ℕ
  operationId : Option String
  deriving DecidableEq, Repr

/-- Where an evaluation is between two awaits. -/
structure OperatorEvaluation where
  ticket : ℕ
  record : IncidentRecord
  /-- The evidence is read and the record is being mapped. -/
  mapping : Bool

/-- Where the action of an operation is between two awaits. -/
inductive Action
  | working
  | reading (plan : Plan) (current : IncidentRecord)
  | prepared (plan : Plan) (current : IncidentRecord) (raw : RawEvidence)
  | mapping (plan : Plan) (current : IncidentRecord) (raw : RawEvidence)
  | redriven (plan : Plan) (current : IncidentRecord) (outcome : RedriveOutcome)
  | settled (draft : Draft)

structure Mutation where
  requestHash : String
  action : Action

/-- Why a caller was given its answer: its action ran, another call's record was found, or
nothing could be recorded. -/
inductive AnswerKind
  | ran | replayed | unrecorded
  deriving DecidableEq, Repr

structure OperationAnswer where
  operationId : String
  requestHash : String
  draft : Draft
  kind : AnswerKind
  deriving DecidableEq, Repr

/-- A redrive that admitted its record. -/
structure Admission where
  operationId : String
  planId : String
  failureId : String
  revision : ℕ
  evidenceHash : String
  outputHash : String
  deriving DecidableEq, Repr

structure OperatorService where
  settings : OperatorSettings
  /-- The service is constructed. -/
  started : Bool
  store : StoreAccess
  plans : InsertionMap Plan.planId
  /-- `#evaluations`. -/
  evaluations : ℕ
  evaluating : InsertionMap OperatorEvaluation.ticket
  mutations : String → Option Mutation
  /-- The operations whose action began, with the hashes of their requests. -/
  begun : List (String × String)
  /-- The operations that the store dropped to make room. -/
  forgotten : List StoredOperation
  answers : List OperationAnswer
  results : List (ℕ × Except String EvaluationResult)
  issued : List Plan
  admitted : List Admission

namespace OperatorService

/-! ### Texts -/

def refused (outcome message : String) (incidentRevision : Option ℕ) : Draft :=
  ⟨.refused, outcome, incidentRevision, message⟩

def kindText : OperationKind → String
  | .retryCurrent => "retry-current"
  | .reassess => "reassess"
  | .reopenCircuit => "reopen-circuit"
  | .retireBoundary => "retire-boundary"
  | .redrive => "redrive"

def stageText : Stage → String
  | .validate => "validate"
  | .map => "map"
  | .queue => "queue"

/-- The first characters of a text that goes into a message. -/
def sliced (length : ℕ) (text : String) : String := String.ofList (text.toList.take length)

/-- The hash that tells requests apart. -/
def requestHash (texts : RecordTexts) (kind : OperationKind) (request : JsValue) : String :=
  "sha256:" ++ texts.sha256Hex (utf8 (texts.canonicalJson
    (.object [("kind", .string (kindText kind)), ("request", request)])))

def naturalJson (n : ℕ) : JsValue := .number true (toString n)

/-- The request without its operation ID. -/
def redriveJson (request : RedriveRequest) : JsValue :=
  .object [("expectedRevision", naturalJson request.expectedRevision),
    ("failureId", .string request.failureId),
    ("planFingerprint", .string request.planFingerprint), ("planId", .string request.planId)]

/-- The channel versions of a plan, each once and in order. -/
def channelVersions (outputs : List PlannedOutput) : List String :=
  (outputs.map fun output => output.channel ++ "@" ++ toString output.channelVersion).eraseDups
    |>.insertionSort fun a b => MemoryIncidentStore.codeUnitLe a b

def planFingerprint (texts : RecordTexts) (settings : OperatorSettings) (record : IncidentRecord)
    (outputs : List PlannedOutput) (outputHash : String) : String :=
  "sha256:" ++ texts.sha256Hex (utf8 (texts.canonicalJson (.object
    [("channelVersions", .array ((channelVersions outputs).map .string)),
      ("config", .string settings.fingerprint), ("evidenceHash", .string record.evidence.hash),
      ("failureId", .string record.failureId), ("generation", .string record.generation),
      ("handlerBuildId", .string settings.handlerBuildId),
      ("incidentRevision", naturalJson record.revision), ("outputHash", .string outputHash)])))

/-! ### Answers -/

def operationIdReused : Draft :=
  refused "operation-id-reused" "That operation ID was already used for a different request." none

def operationInProgress : Draft :=
  refused "operation-in-progress" "That operation is still running." none

def interrupted : Draft :=
  ⟨.unknown, "unknown", none,
    "The gateway stopped between recording this operation and its result, so its effect is unknown. It is not rerun: check status, evaluate again and approve a new plan with a new operation ID."⟩

def unexpectedError : Draft :=
  ⟨.unknown, "unknown", none,
    "The operation stopped with an unexpected error; its effect is unknown. Check status before trying again."⟩

def journalUnavailable (message : String) : Draft :=
  refused "journal-unavailable"
    ("The operation could not be recorded, so nothing was done: " ++ sliced 200 message) none

/-- `replay`. -/
def replay (texts : OperatorTexts) (operation : StoredOperation) (requestHash : String) : Draft :=
  if operation.requestHash ≠ requestHash then operationIdReused
  else if operation.state = .pending then operationInProgress
  else
    match operation.result with
    | none => interrupted
    | some text => texts.readResult text

def unknownIncidentDraft (failureId : String) : Draft :=
  refused "not-found" ("No incident " ++ failureId ++ ".") none

def countsText (counts : AdmitCounts) : String :=
  toString counts.queued ++ " queued, " ++ toString counts.filtered ++
    " at or below current state, " ++ toString counts.inactive ++ " inactive, " ++
    toString counts.overflow ++ " over budget"

/-- `redriveResult`. -/
def redriveResult (outcome : RedriveOutcome) (revision : ℕ) : Draft :=
  match outcome with
  | .abandon =>
      ⟨.failed, "gateway-stopping", some revision,
        "The gateway is stopping; nothing was admitted."⟩
  | .changed =>
      refused "fingerprint-changed"
        "The record now maps to different output than the approved plan; nothing was admitted. Evaluate again."
        (some revision)
  | .problem stage failureClass reason =>
      if failureClass = .revisionConflict then
        ⟨.failed, "revision-conflict", some revision,
          "The record maps to an existing revision with different data; nothing was admitted. This is an integrity failure to repair at the source."⟩
      else
        ⟨.failed, "failed", some revision,
          "The record still fails at " ++ stageText stage ++ ": " ++ sliced 300 reason⟩
  | .admitted counts =>
      if 0 < counts.queued then
        ⟨.completed, "reprocessed", some revision,
          "Admitted through the revision filter (" ++ countsText counts ++
            "). This is not evidence that a browser received it."⟩
      else
        ⟨.completed, "superseded", some revision,
          "No subscription needed it (" ++ countsText counts ++
            "); current state already supersedes it or snapshots establish it."⟩

/-- What `redriveRecord` of the gateway makes of the mapped record. -/
def redriveOutcome (expectedOutputHash : String) (counts : AdmitCounts) :
    OperatorPrepared → RedriveOutcome
  | .abandon => .abandon
  | .problem stage failureClass reason => .problem stage failureClass reason
  | .ok _ outputHash => if outputHash ≠ expectedOutputHash then .changed else .admitted counts

def ineligible (stage reason message : String) : EvaluationResult where
  valid := false
  errors := [(stage, none, message)]
  outputs := []
  ineligibleReason := some reason
  plan := none

/-! ### What blocks a redrive -/

/-- `INTEGRITY_EVENT_DETAILS`. -/
def integrityEventDetails : List (String × String) :=
  [("evidence-conflict", "the redelivered bytes differ from the captured evidence"),
    ("position-moved", "the source position moved past a held record without a recorded advance"),
    ("cluster-mismatch", "a record captured on another Kafka cluster"),
    ("cluster-mismatch at startup", "a record captured on another Kafka cluster")]

/-- The part of `integrityFault` that reads no events. -/
def recordFault (incident : IncidentRecord) : Option String :=
  if ¬ incident.failureClass.Eligible then
    some ("an unresolved " ++ failureClassText incident.failureClass ++ " incident")
  else if incident.progress = .uncertain then some "an advance that could not be confirmed"
  else none

def eventFault (events : List IncidentEvent) : Option String :=
  events.findSome? fun event => event.detail.bind fun detail => integrityEventDetails.lookup detail

/-- The first open incident that is an integrity fault, and the fault. -/
def openFault : List IncidentRecord → StoreAccess →
    Except String (Option (String × String)) × StoreAccess
  | [], s => (.ok none, s)
  | incident :: rest, s =>
      match recordFault incident with
      | some fault => (.ok (some (fault, incident.failureId)), s)
      | none =>
          match s.read fun j => j.events incident.failureId with
          | (.error message, s) => (.error message, s)
          | (.ok events, s) =>
              match eventFault events with
              | some fault => (.ok (some (fault, incident.failureId)), s)
              | none => openFault rest s

def notAdvanced (record : IncidentRecord) : Draft :=
  if record.state = .opened then
    refused "not-advanced"
      "The record is still held at its position. Repair the cause and use retry-current; redrive is only for a record that was already advanced past."
      none
  else
    refused "not-advanced" "The record was processed normally; there is nothing to redrive." none

/-- `#redriveBlocker`. -/
def redriveBlocker (settings : OperatorSettings) (running : Bool) (record : IncidentRecord)
    (s : StoreAccess) : Except String (Option Draft) × StoreAccess :=
  if record.state ≠ .resolved ∨ record.progress ≠ .advanced then
    (.ok (some (notAdvanced record)), s)
  else if ¬ record.failureClass.Eligible then
    (.ok (some (refused "integrity-class"
      (failureClassText record.failureClass ++ " records are never redriven.") none)), s)
  else if !settings.replaySafeMapping record.sourceId then
    (.ok (some (refused "not-replay-safe"
      ("Source \"" ++ record.sourceId ++
        "\" does not declare replaySafeMapping, which stored redrive requires.") none)), s)
  else
    match s.read fun j => j.opened record.sourceId with
    | (.error message, s) => (.error message, s)
    | (.ok opened, s) =>
        match openFault opened s with
        | (.error message, s) => (.error message, s)
        | (.ok (some (fault, failureId)), s) =>
            (.ok (some (refused "integrity-fault-open"
              ("Source \"" ++ record.sourceId ++ "\" has an unresolved source-integrity fault: " ++
                fault ++ " (" ++ failureId ++ "); resolve it first.") none)), s)
        | (.ok none, s) =>
            if running then (.ok none, s)
            else
              (.ok (some (refused "gateway-not-running" "The gateway is not running." none)), s)

/-! ### Evaluation -/

def endEvaluation (ticket : ℕ) (result : Except String EvaluationResult) (s : OperatorService) :
    OperatorService :=
  { s with
    evaluations := s.evaluations - 1
    evaluating := s.evaluating.filter fun evaluation => evaluation.ticket ≠ ticket
    results := s.results ++ [(ticket, result)] }

/-- An evaluation that ends before it counts. -/
def tell (ticket : ℕ) (result : Except String EvaluationResult) (s : OperatorService) :
    OperatorService :=
  { s with results := s.results ++ [(ticket, result)] }

/-- `evaluate` up to its first await. -/
def evaluate (ticket : ℕ) (failureId : String) (expectedRevision : ℕ) (s : OperatorService) :
    OperatorService :=
  match s.store.read fun j => j.incidents.get failureId with
  | (.error message, store) => { s with store := store }.tell ticket (.error message)
  | (.ok none, store) =>
      { s with store := store }.tell ticket
        (.ok (ineligible "request" "not-found" ("No incident " ++ failureId ++ ".")))
  | (.ok (some record), store) =>
      if record.revision ≠ expectedRevision then
        { s with store := store }.tell ticket (.ok (ineligible "request" "stale-revision"
          ("Incident " ++ failureId ++ " is at revision " ++ toString record.revision ++ ", not " ++
            toString expectedRevision ++ ".")))
      else if s.settings.generation record.sourceId ≠ some record.generation then
        { s with store := store }.tell ticket (.ok (ineligible "request" "generation-changed"
          ("The incident is from source generation \"" ++ record.generation ++
            "\"; the source is now \"" ++
            (s.settings.generation record.sourceId).getD "(removed)" ++
            "\". Its position no longer names the same record.")))
      else if maxConcurrentEvaluations ≤ s.evaluations then
        { s with store := store }.tell ticket
          (.error "Too many evaluations are running; try again shortly.")
      else
        { s with
          store := store
          evaluations := s.evaluations + 1
          evaluating := s.evaluating.set ⟨ticket, record, false⟩ }

def evidenceReason (expired : Bool) : String :=
  if expired then "evidence-expired" else "evidence-unavailable"

/-- `evaluate` from the evidence on; `none` is a reading that rejects. -/
def evidenceRead (evaluation : OperatorEvaluation) (read : Option EvidenceRead)
    (s : OperatorService) : OperatorService :=
  match read with
  | none => s.endEvaluation evaluation.ticket (.error "The evidence could not be read.")
  | some (.missing expired message) =>
      s.endEvaluation evaluation.ticket
        (.ok (ineligible "evidence" (evidenceReason expired) message))
  | some (.found _) =>
      { s with evaluating := s.evaluating.set { evaluation with mapping := true } }

/-- The plans that are kept when one more is issued. -/
def keptPlans (now : ℕ) (plans : InsertionMap Plan.planId) : InsertionMap Plan.planId :=
  let live := plans.filter fun plan => now < plan.expiresAtMs
  let excess := (live.values.take (live.values.length + 1 - maxPlans)).map (·.planId)
  live.filter fun plan => plan.planId ∉ excess

def newPlan (texts : RecordTexts) (settings : OperatorSettings) (record : IncidentRecord)
    (outputs : List PlannedOutput) (outputHash planId : String) (now : ℕ) : Plan where
  planId := planId
  failureId := record.failureId
  sourceId := record.sourceId
  incidentRevision := record.revision
  generation := record.generation
  evidenceHash := record.evidence.hash
  outputHash := outputHash
  fingerprint := planFingerprint texts settings record outputs outputHash
  expiresAtMs := now + planTtlMs

/-- `#issuePlan`. -/
def issuePlan (texts : RecordTexts) (record : IncidentRecord) (outputs : List PlannedOutput)
    (outputHash planId : String) (s : OperatorService) : Plan × OperatorService :=
  let (now, store) := s.store.dateNow
  let plan := newPlan texts s.settings record outputs outputHash planId now
  (plan, { s with
    store := store
    plans := (keptPlans now s.plans).set plan
    issued := s.issued ++ [plan] })

/-- `evaluate` from the mapped record on; `none` is a mapping that rejects. -/
def recordEvaluated (texts : RecordTexts) (evaluation : OperatorEvaluation)
    (prepared : Option OperatorPrepared) (running : Bool) (planId : String) (s : OperatorService) :
    OperatorService :=
  match prepared with
  | none => s.endEvaluation evaluation.ticket (.error "The record could not be evaluated.")
  | some .abandon =>
      s.endEvaluation evaluation.ticket
        (.error "The gateway is stopping; nothing was evaluated.")
  | some (.problem stage failureClass reason) =>
      s.endEvaluation evaluation.ticket (.ok
        { valid := false
          errors := [(stageText stage, some failureClass, reason)]
          outputs := []
          ineligibleReason := some "still-fails"
          plan := none })
  | some (.ok outputs outputHash) =>
      match redriveBlocker s.settings running evaluation.record s.store with
      | (.error message, store) =>
          { s with store := store }.endEvaluation evaluation.ticket (.error message)
      | (.ok (some blocked), store) =>
          { s with store := store }.endEvaluation evaluation.ticket
            (.ok ⟨true, [], outputs, some blocked.outcome, none⟩)
      | (.ok none, store) =>
          let (plan, s) := { s with store := store }.issuePlan texts evaluation.record outputs
            outputHash planId
          s.endEvaluation evaluation.ticket (.ok ⟨true, [], outputs, none, some plan⟩)

/-! ### Operations -/

def setAction (operationId requestHash : String) (action : Action) (s : OperatorService) :
    OperatorService :=
  { s with mutations := Function.update s.mutations operationId (some ⟨requestHash, action⟩) }

def answer (a : OperationAnswer) (s : OperatorService) : OperatorService :=
  { s with answers := s.answers ++ [a] }

/-- The operations of a journal that another one does not hold any more. -/
def dropped (before after : Journal) : List StoredOperation :=
  before.operations.values.filter fun operation =>
    (after.operations.get operation.operationId).isNone

/-- `#mutate` up to its action: whether the operation is run. -/
def intend (texts : OperatorTexts) (kind : OperationKind) (sourceId : String)
    (failureId : Option String) (requestHash operationId : String) (s : OperatorService) :
    Bool × OperatorService :=
  let (time, store) := s.store.nowIso
  match store.call (.beginOperation
      ⟨operationId, kind, sourceId, failureId, requestHash, time⟩) with
  | (.ok (.begun operation false), store) =>
      (false, { s with store := store }.answer
        ⟨operationId, requestHash, replay texts operation requestHash, .replayed⟩)
  | (.ok _, store) =>
      (true, { s with
        store := store
        forgotten := s.forgotten ++ dropped s.store.journal store.journal
        begun := s.begun ++ [(operationId, requestHash)] })
  | (.error refusal, store) =>
      (false, { s with store := store }.answer
        ⟨operationId, requestHash, journalUnavailable refusal.message, .unrecorded⟩)

/-- An operation whose action is any other work. -/
def mutate (texts : OperatorTexts) (kind : OperationKind) (sourceId : String)
    (failureId : Option String) (request : JsValue) (operationId : String) (s : OperatorService) :
    OperatorService :=
  let hash := requestHash texts.toRecordTexts kind request
  match s.intend texts kind sourceId failureId hash operationId with
  | (false, s) => s
  | (true, s) => s.setAction operationId hash .working

/-- The checks of `redrive` up to its first await: what it refuses, or the plan it claims. -/
def claim (request : RedriveRequest) (running : Bool) (s : OperatorService) :
    Except Draft (Plan × IncidentRecord) × OperatorService :=
  match s.plans.get request.planId with
  | none =>
      (.error (refused "plan-unknown" "No such plan, or it was already used. Plans are single use, kept in memory for 5 minutes and end when the gateway restarts; evaluate again." none), s)
  | some plan =>
      if plan.failureId ≠ request.failureId then
        (.error (refused "plan-mismatch" "That plan was issued for a different incident." none), s)
      else
        let (now, store) := s.store.dateNow
        if plan.expiresAtMs ≤ now then
          (.error (refused "plan-expired"
              "The plan expired; evaluate again and approve the new plan." none),
            { s with
              store := store
              plans := s.plans.filter fun other => other.planId ≠ plan.planId })
        else if plan.fingerprint ≠ request.planFingerprint then
          (.error (refused "fingerprint-changed"
            "The plan fingerprint does not match the approved plan." none), { s with store := store })
        else
          match store.read fun j => j.incidents.get request.failureId with
          | (.error _, store) => (.error unexpectedError, { s with store := store })
          | (.ok none, store) =>
              (.error (unknownIncidentDraft request.failureId), { s with store := store })
          | (.ok (some current), store) =>
              if current.revision ≠ request.expectedRevision ∨
                  current.revision ≠ plan.incidentRevision then
                (.error (refused "stale-revision"
                  ("Incident " ++ current.failureId ++ " is at revision " ++
                    toString current.revision ++ "; the plan was issued at " ++
                    toString plan.incidentRevision ++ ". Evaluate again.")
                  (some current.revision)), { s with store := store })
              else if s.settings.generation current.sourceId ≠ some plan.generation then
                (.error (refused "generation-changed"
                  "The source generation changed since the plan was issued."
                  (some current.revision)), { s with store := store })
              else
                match redriveBlocker s.settings running current store with
                | (.error _, store) => (.error unexpectedError, { s with store := store })
                | (.ok (some blocked), store) =>
                    (.error { blocked with incidentRevision := some current.revision },
                      { s with store := store })
                | (.ok none, store) =>
                    (.ok (plan, current),
                      { s with
                        store := store
                        plans := s.plans.filter fun other => other.failureId ≠ plan.failureId })

/-- `redrive` up to its first await. -/
def redrive (texts : OperatorTexts) (request : RedriveRequest) (operationId : String)
    (running : Bool) (s : OperatorService) : OperatorService :=
  let hash := requestHash texts.toRecordTexts .redrive (redriveJson request)
  match s.store.read fun j => j.incidents.get request.failureId with
  | (.error _, store) => { s with store := store }
  | (.ok none, store) =>
      { s with store := store }.answer
        ⟨operationId, hash, unknownIncidentDraft request.failureId, .unrecorded⟩
  | (.ok (some record), store) =>
      match { s with store := store }.intend texts .redrive record.sourceId
          (some request.failureId) hash operationId with
      | (false, s) => s
      | (true, s) =>
          match s.claim request running with
          | (.error draft, s) => s.setAction operationId hash (.settled draft)
          | (.ok (plan, current), s) => s.setAction operationId hash (.reading plan current)

/-- What `redrive` makes of the evidence: its refusal, or the bytes. -/
def recheck (texts : OperatorTexts) (plan : Plan) (current : IncidentRecord)
    (read : Option EvidenceRead) (s : StoreAccess) : Except Draft RawEvidence × StoreAccess :=
  match read with
  | none => (.error unexpectedError, s)
  | some (.missing expired message) =>
      (.error (refused (evidenceReason expired) message (some current.revision)), s)
  | some (.found raw) =>
      if raw.evidenceHash texts.sha256Hex ≠ plan.evidenceHash then
        (.error (refused "fingerprint-changed"
          "The stored evidence changed since the plan was issued." (some current.revision)), s)
      else
        match s.read fun j => j.incidents.get current.failureId with
        | (.error _, s) => (.error unexpectedError, s)
        | (.ok latest, s) =>
            if latest.map (·.revision) ≠ some current.revision then
              (.error (refused "stale-revision"
                ("Incident " ++ current.failureId ++
                  " changed while the redrive was being prepared; evaluate again.")
                (latest.map (·.revision))), s)
            else (.ok raw, s)

/-- `#note`: the new revision, when the event is recorded. -/
def noted (current : IncidentRecord) (operationId detail : String) (s : StoreAccess) :
    Option ℕ × StoreAccess :=
  match s.read fun j => j.incidents.get current.failureId with
  | (.error _, s) => (none, s)
  | (.ok found, s) =>
      let latest := found.getD current
      let (time, s) := s.nowIso
      match s.call (.update latest.failureId latest.revision {}
          ⟨time, .operator, some (sliced 512 detail), some operationId⟩) with
      | (.ok (.updated updated), s) => (some updated.revision, s)
      | (_, s) => (none, s)

/-- `redrive` once the gateway answered. -/
def redriveSettled (operationId : String) (current : IncidentRecord) (outcome : RedriveOutcome)
    (s : StoreAccess) : Draft × StoreAccess :=
  let draft := redriveResult outcome current.revision
  let (revision, s) := noted current operationId ("redrive: " ++ draft.outcome) s
  ({ draft with incidentRevision := some (revision.getD current.revision) }, s)

def finishState (draft : Draft) : FinishState :=
  if draft.result = .unknown then .unknown else .completed

/-- The end of `#mutate`. -/
def finish (texts : OperatorTexts) (operationId requestHash : String) (draft : Draft)
    (s : OperatorService) : OperatorService :=
  let (time, store) := s.store.nowIso
  { s with
    store := (store.call (.finishOperation operationId (finishState draft)
      (.ok (texts.resultText operationId draft)) time)).2
    mutations := Function.update s.mutations operationId none
    answers := s.answers ++ [⟨operationId, requestHash, draft, .ran⟩] }

end OperatorService

/-! ### Events -/

inductive OperatorEvent
  /-- The process ends and another one starts, with the same store. -/
  | restart (settings : OperatorSettings)
  /-- The constructor. -/
  | construct
  | stored (c : StoreCall)
  | evaluate (ticket : ℕ) (failureId : String) (expectedRevision : ℕ)
  | evidenceRead (ticket : ℕ) (read : Option EvidenceRead)
  | evaluated (ticket : ℕ) (prepared : Option OperatorPrepared) (running : Bool) (planId : String)
  | mutate (kind : OperationKind) (sourceId : String) (failureId : Option String)
      (request : JsValue) (operationId : String)
  /-- Any other work is done; `none` when it throws. -/
  | acted (operationId : String) (draft : Option Draft)
  | redrive (request : RedriveRequest) (generated : String) (running : Bool)
  | rechecked (operationId : String) (read : Option EvidenceRead)
  | hooked (operationId : String) (running : Bool)
  | mapped (operationId : String) (prepared : Option OperatorPrepared) (counts : AdmitCounts)
  | redriven (operationId : String)
  | finish (operationId : String)

/-- An event with what the store calls throw and the clock reads meanwhile. -/
structure OperatorOccurrence where
  event : OperatorEvent
  faults : List (Option String)
  readings : List ℕ

namespace OperatorService

/-- A call of the store that leaves the operations alone. -/
def keepsOperations : StoreCall → Bool
  | .beginOperation _ | .finishOperation _ _ _ _ | .abandonPendingOperations _ => false
  | _ => true

def given (o : OperatorOccurrence) (s : OperatorService) : OperatorService :=
  { s with store := { s.store with faults := o.faults, readings := o.readings } }

/-- Another process over the same store. -/
def restarted (settings : OperatorSettings) (s : OperatorService) : OperatorService :=
  { s with
    settings := settings
    started := false
    plans := .empty
    evaluations := 0
    evaluating := .empty
    mutations := fun _ => none }

/-- The constructor: what a crash left pending is unknown. -/
def construct (s : OperatorService) : OperatorService :=
  let (time, store) := s.store.nowIso
  match store.call (.abandonPendingOperations time) with
  | (.ok _, store) => { s with store := store, started := true }
  | (.error _, store) => { s with store := store }

/-- An operation whose record the gateway has mapped: the outcome, and what was admitted. -/
def mappedRedrive (operationId requestHash : String) (plan : Plan) (current : IncidentRecord)
    (raw : RawEvidence) (texts : OperatorTexts) (prepared : OperatorPrepared)
    (counts : AdmitCounts) (s : OperatorService) : OperatorService :=
  let outcome := redriveOutcome plan.outputHash counts prepared
  let s := s.setAction operationId requestHash (.redriven plan current outcome)
  match prepared, outcome with
  | .ok _ outputHash, .admitted _ =>
      { s with
        admitted := s.admitted ++ [⟨operationId, plan.planId, current.failureId, current.revision,
          raw.evidenceHash texts.sha256Hex, outputHash⟩] }
  | _, _ => s

/-- An operation goes on from where it was. -/
def advance (texts : OperatorTexts) (operationId : String) (m : Mutation) (e : OperatorEvent)
    (s : OperatorService) : OperatorService :=
  match e, m.action with
  | .acted _ draft, .working =>
      s.setAction operationId m.requestHash (.settled (draft.getD unexpectedError))
  | .rechecked _ read, .reading plan current =>
      match recheck texts plan current read s.store with
      | (.error draft, store) =>
          { s with store := store }.setAction operationId m.requestHash (.settled draft)
      | (.ok raw, store) =>
          { s with store := store }.setAction operationId m.requestHash
            (.prepared plan current raw)
  | .hooked _ running, .prepared plan current raw =>
      if running then s.setAction operationId m.requestHash (.mapping plan current raw)
      else s.setAction operationId m.requestHash (.redriven plan current .abandon)
  | .mapped _ none _, .mapping _ _ _ =>
      s.setAction operationId m.requestHash (.settled unexpectedError)
  | .mapped _ (some prepared) counts, .mapping plan current raw =>
      s.mappedRedrive operationId m.requestHash plan current raw texts prepared counts
  | .redriven _, .redriven _ current outcome =>
      { s with store := (redriveSettled operationId current outcome s.store).2 }.setAction
        operationId m.requestHash
        (.settled (redriveSettled operationId current outcome s.store).1)
  | .finish _, .settled draft => s.finish texts operationId m.requestHash draft
  | _, _ => s

/-- The operation whose action an event continues. -/
def operationOf : OperatorEvent → Option String
  | .acted operationId _ | .rechecked operationId _ | .hooked operationId _
  | .mapped operationId _ _ | .redriven operationId | .finish operationId => some operationId
  | _ => none

def handle (texts : OperatorTexts) (s : OperatorService) (e : OperatorEvent) : OperatorService :=
  match e with
  | .restart settings => s.restarted settings
  | .construct => if s.started then s else s.construct
  | .stored c => if keepsOperations c then { s with store := (s.store.call c).2 } else s
  | .evaluate ticket failureId expectedRevision =>
      if s.started ∧ s.evaluating.get ticket = none then
        s.evaluate ticket failureId expectedRevision
      else s
  | .evidenceRead ticket read =>
      match s.evaluating.get ticket with
      | some evaluation => if evaluation.mapping then s else s.evidenceRead evaluation read
      | none => s
  | .evaluated ticket prepared running planId =>
      match s.evaluating.get ticket with
      | some evaluation =>
          if evaluation.mapping then
            s.recordEvaluated texts.toRecordTexts evaluation prepared running planId
          else s
      | none => s
  | .mutate kind sourceId failureId request operationId =>
      if s.started then s.mutate texts kind sourceId failureId request operationId else s
  | .redrive request generated running =>
      if s.started then s.redrive texts request (request.operationId.getD generated) running else s
  | .acted operationId _ | .rechecked operationId _ | .hooked operationId _
  | .mapped operationId _ _ | .redriven operationId | .finish operationId =>
      match s.mutations operationId with
      | some m => s.advance texts operationId m e
      | none => s

def step (texts : OperatorTexts) (s : OperatorService) (o : OperatorOccurrence) :
    OperatorService := (s.given o).handle texts o.event

def initial (settings : OperatorSettings) : OperatorService where
  settings := settings
  started := false
  store := FailureService.emptyStore
  plans := .empty
  evaluations := 0
  evaluating := .empty
  mutations := fun _ => none
  begun := []
  forgotten := []
  answers := []
  results := []
  issued := []
  admitted := []

/-! ### A redrive to follow -/

section Sample

/-- JSON whose fields are already in order and whose texts need no escapes, by the nesting still
allowed. -/
def plainJson : ℕ → JsValue → String
  | _ + 1, .boolean value => if value then "true" else "false"
  | _ + 1, .number _ text => text
  | _ + 1, .string text => "\"" ++ text ++ "\""
  | depth + 1, .array items => "[" ++ ",".intercalate (items.map (plainJson depth)) ++ "]"
  | depth + 1, .object fields =>
      "\x7b" ++ ",".intercalate (fields.map fun field =>
        "\"" ++ field.1 ++ "\":" ++ plainJson depth field.2) ++ "\x7d"
  | _, _ => "null"

/-- Reads a marked text, and what follows it. -/
def unmark : List Char → List Char × List Char
  | '.' :: c :: rest => (c :: (unmark rest).1, (unmark rest).2)
  | _ :: rest => ([], rest)
  | [] => ([], [])

theorem unmark_markedText (text rest : List Char) :
    unmark (markedText text ++ rest) = (text, rest) := by
  induction text with
  | nil => rfl
  | cons c text ih =>
      show unmark ('.' :: c :: (markedText text ++ rest)) = _
      rw [unmark, ih]

def resultMark : ResultKind → List Char
  | .completed => ['c']
  | .refused => ['r']
  | .failed => ['f']
  | .unknown => ['u']

def ofResultMark : List Char → ResultKind
  | ['c'] => .completed
  | ['r'] => .refused
  | ['f'] => .failed
  | _ => .unknown

def markedDraft (draft : Draft) : List Char :=
  markedText (resultMark draft.result) ++ (markedText draft.outcome.toList ++
    (markedText (match draft.incidentRevision with
      | none => []
      | some revision => List.replicate (revision + 1) 'x') ++ draft.message.toList))

def readDraft (text : List Char) : Draft :=
  let (kind, rest) := unmark text
  let (outcome, rest) := unmark rest
  let (revision, rest) := unmark rest
  { result := ofResultMark kind
    outcome := String.ofList outcome
    incidentRevision := if revision = [] then none else some (revision.length - 1)
    message := String.ofList rest }

theorem readDraft_markedDraft (draft : Draft) : readDraft (markedDraft draft) = draft := by
  obtain ⟨result, outcome, revision, message⟩ := draft
  unfold readDraft markedDraft
  dsimp only
  rw [unmark_markedText, unmark_markedText, unmark_markedText]
  cases result <;> cases revision <;> simp [resultMark, ofResultMark, List.replicate_succ]

def sampleRaw : RawEvidence := ⟨some (utf8 "k"), some (utf8 "7"), []⟩

def sampleEvidenceHash : String :=
  "7fc5ea95bcb0cc051307a445f00c9b6f2c2795d177b43a35be0eeb60d8f7d8b8"

def sampleFingerprint : String :=
  "4271b558516782aa2190d22726e80d7c6b07091a35c510c619bcdcae81cdda4f"

def sampleRequest (planId : String) : RedriveRequest :=
  ⟨"f1", planId, "sha256:" ++ sampleFingerprint, 2, some ("redrive " ++ planId)⟩

/-- The hashes of the evidence, the plan and the request "p1", told apart by their third byte. -/
def sampleHash (bytes : Bytes) : String :=
  match bytes.drop 2 |>.head? with
  | some 0x72 => sampleEvidenceHash
  | some 0x63 => sampleFingerprint
  | some 0x6b => "17887e8e2dc969e989673fca67103ad3facdd8c1c24eeca1e0123fad7e5c7dfd"
  | _ => plainTexts.sha256Hex bytes

def sampleTexts : OperatorTexts where
  toRecordTexts := { plainTexts with
    sha256Hex := sampleHash
    canonicalJson := plainJson 3 }
  resultText operationId draft :=
    String.ofList (markedText operationId.toList ++ markedDraft draft)
  readResult text := readDraft (unmark text.toList).2
  readResult_resultText := by
    intro operationId draft
    rw [String.toList_ofList, unmark_markedText]
    exact readDraft_markedDraft draft

def sampleSettings : OperatorSettings where
  generation _ := some "1"
  replaySafeMapping _ := true
  fingerprint := "cfg"
  handlerBuildId := "build"

def sampleObservation : NewObservation where
  failureId := "f1"
  sourceId := "orders"
  generation := "1"
  position := .kafka "orders" 0 7
  clusterId := none
  timestamp := none
  failureClass := .payloadSchema
  stage := .validate
  errorCode := .invalidPayload
  channel := some "orders"
  policy := .quarantineResync
  diagnosis := "the record does not match"
  evidence := ⟨.kafka, .complete, some 1, some 1, 0, "sha256:" ++ sampleEvidenceHash⟩
  fingerprints := ⟨"cfg", "build", "1", "1"⟩
  observedAt := "2026-01-01T00:00:00.000Z"

/-- An event while every store call is served. -/
def served (e : OperatorEvent) : OperatorOccurrence := ⟨e, [], []⟩

/-- The service starts over a store with an incident that was advanced past. -/
def sampleStart : List OperatorOccurrence :=
  [served .construct, served (.stored (.observe sampleObservation)),
    served (.stored (.update "f1" 1 { progress := some .advanced, state := some .resolved }
      ⟨"2026-01-01T00:00:01.000Z", .resolved, none, none⟩))]

/-- An evaluation that issues a plan. -/
def sampleEvaluation (ticket : ℕ) (planId : String) : List OperatorOccurrence :=
  [served (.evaluate ticket "f1" 2), served (.evidenceRead ticket (some (.found sampleRaw))),
    served (.evaluated ticket (some (.ok [] "sha256:out")) true planId)]

/-- A redrive up to the gateway's mapping of the record. -/
def sampleRedrive (planId : String) : List OperatorOccurrence :=
  [served (.redrive (sampleRequest planId) "" true),
    served (.rechecked ("redrive " ++ planId) (some (.found sampleRaw))),
    served (.hooked ("redrive " ++ planId) true)]

/-- The gateway admits the record, and the caller is answered. -/
def sampleAdmission (planId : String) : List OperatorOccurrence :=
  [served (.mapped ("redrive " ++ planId) (some (.ok [] "sha256:out")) ⟨1, 0, 0, 0⟩),
    served (.redriven ("redrive " ++ planId)), served (.finish ("redrive " ++ planId))]

/-- A redrive, and the same request again. -/
def redrivenOnce : List OperatorOccurrence :=
  sampleStart ++ (sampleEvaluation 0 "p1" ++ (sampleRedrive "p1" ++ (sampleAdmission "p1" ++
    [served (.redrive (sampleRequest "p1") "" true)])))

end Sample

end OperatorService

end StreamOtter
