import StreamOtter.ServiceStore

/-!
# The failure service

The service of one gateway process.  Its work on a source runs as a chain of jobs, one at a time,
each up to the next point where it waits for the quarantine topic, the recovery guard, the
adapter or the application; the record pipeline calls the service in between, whenever it
checks, holds or commits a record.
-/

namespace StreamOtter

open FailureStore ByteCodec

/-- `QuarantineOutcome`; a local copy has no coordinates. -/
inductive QuarantineOutcome
  | acknowledged (coordinates : Option (ℕ × ℕ))
  | unknown (reason : String)
  | failed (reason : String)
  deriving DecidableEq, Repr

/-- How the quarantine producer answered. -/
inductive PublishAnswer
  | acknowledged (partition offset : ℕ)
  | unknown (reason : String)
  | failed (reason : String)
  deriving DecidableEq, Repr

def PublishAnswer.outcome : PublishAnswer → QuarantineOutcome
  | .acknowledged partition offset => .acknowledged (some (partition, offset))
  | .unknown reason => .unknown reason
  | .failed reason => .failed reason

/-- Queued work on a source. -/
inductive Job
  | dispose (input : Delivery) (outcome : Pause)
  | retry (reason : String)
  | retire (boundaryId : String)
  | reopenCircuit (expectedRevision : ℕ) (reason : String)
  | retireBoundary (boundaryId : String) (expectedRevision : ℕ) (reason operationId : String)

/-- Where the work on a source waits. -/
inductive Task
  | writing (record : IncidentRecord) (policy : FailurePolicy) (summary : EvidenceSummary)
      (evidence : RawEvidence) (answer : Option QuarantineOutcome)
  | guarding (pending : IncidentRecord) (prior : Option StoredBoundary)
  | advancing (prepared : IncidentRecord) (boundaryId : String)
  | confirming (prepared : IncidentRecord) (boundaryId : String) (committed : Option ℕ)
  | retiring (boundary : StoredBoundary)

/-- `invokeHandler`'s outcome. -/
inductive HandlerAnswer
  | ok (value : JsValue)
  | error (description : String)
  | timeout
  | aborted

/-- What the adapter's `advancePast` found: not paused at the record, a commit or a read-back
that failed, or the group's committed offset and whether the adapter is still as it was. -/
inductive AdvanceAnswer
  | notHeld
  | unconfirmed
  | readBack (committed : Option ℕ) (steady : Bool)
  | moved

structure FailureService where
  settings : ServiceSettings
  store : StoreAccess
  /-- Whether the process runs with a started service. -/
  started : Bool
  stopping : Bool
  queued : String × Position → Option Bool
  watched : String → Bool
  corrected : String × Position → Bool
  retiring : String → Bool
  chains : String → List Job
  tasks : String → Option Task
  /-- The boundary that the runtime's snapshots must acknowledge, with its context. -/
  inForce : String → Option (String × String)
  heldAtStart : String → Bool
  /-- The records that were checked and are being processed or wait for their commit. -/
  processing : List (String × Delivery)

namespace FailureService

/-! ### The record pipeline -/

section Records

variable (settings : ServiceSettings) (texts : RecordTexts)

/-- Whether a commit at the position resolves the incident, if the record there is the held
one. -/
def committedIncident (sourceId : String) (position : Position) (incident : IncidentRecord) :
    Bool :=
  atPosition incident.progress && decide (incident.position = position) &&
    (settings.knownClusterMismatch sourceId incident).isNone

/-- The loop of `committed`: how many incidents remain. -/
def resolveCommitted (sourceId : String) (position : Position) (corrected : Bool) :
    List IncidentRecord → StoreAccess → ℕ × StoreAccess
  | [], s => (0, s)
  | incident :: rest, s =>
      if committedIncident settings sourceId position incident then
        if !corrected then
          let (_, s) := s.update incident
            { progress := some .processed, state := some .resolved
              resolution := some (some "processed after retry") }
            .resolved "the original record processed successfully"
          resolveCommitted sourceId position corrected rest s
        else
          match position with
          | .fixture _ =>
              let (_, s) := s.update incident
                { progress := some .processed, state := some .resolved
                  resolution := some (some correctedRecordResolution) }
                .resolved
                "a different record at this fixture position processed successfully; the original record did not, and its evidence is kept"
              resolveCommitted sourceId position corrected rest s
          | .kafka _ _ _ =>
              let (remaining, s) := resolveCommitted sourceId position corrected rest s
              (remaining + 1, s)
      else
        let (remaining, s) := resolveCommitted sourceId position corrected rest s
        (remaining + 1, s)

def committed (sourceId : String) (position : Position) (f : FailureService) : FailureService :=
  let key := (sourceId, position)
  let f := { f with queued :=
      if (f.queued key).isSome then Function.update f.queued key (some true) else f.queued }
  if !f.watched sourceId then f
  else
    match f.store.read fun j => j.opened sourceId with
    | (.error _, s) => { f with store := s }
    | (.ok opened, s) =>
        let (remaining, s) :=
          resolveCommitted f.settings sourceId position (f.corrected key) opened s
        { f with
          store := s
          corrected := Function.update f.corrected key false
          watched := if remaining = 0 then Function.update f.watched sourceId false else f.watched }

/-- A diagnosis, and the end of a retry if one is under way. -/
def heldAgain (diagnosis : Option String) (incident : IncidentRecord) : IncidentPatch where
  diagnosis := diagnosis
  progress := if incident.progress = .retrying then some .held else none

/-- The loop of `positionProblem` over the incidents at the record's position. -/
def compareEvidence (sourceId : String) (input : Delivery) :
    List IncidentRecord → Bool → StoreAccess → Option String × Bool × StoreAccess
  | [], corrected, s => (none, corrected, s)
  | incident :: rest, corrected, s =>
      if atPosition incident.progress && decide (incident.position = input.position) then
        match rawEvidence input with
        | none => compareEvidence sourceId input rest false s
        | some raw =>
            if incident.evidence.hash = "" ∨ raw.evidenceHash texts.sha256Hex = incident.evidence.hash
            then compareEvidence sourceId input rest false s
            else
              match input.position with
              | .fixture _ => compareEvidence sourceId input rest true s
              | .kafka _ _ _ =>
                  let s :=
                    if incident.diagnosis ≠ evidenceConflictMessage ∨ incident.progress = .retrying
                    then (s.update incident (heldAgain (some evidenceConflictMessage) incident) .held
                      "evidence-conflict").2
                    else s
                  (some ("the record at " ++ describePosition input.position ++
                    " has different bytes than the evidence captured for incident " ++
                    incident.failureId ++ "; it is not the held record (evidence-conflict)"), true, s)
      else compareEvidence sourceId input rest corrected s

/-- Whether the record is past an incident that the source still holds. -/
def passes (position : Position) (incident : IncidentRecord) : Bool :=
  match incident.position, position with
  | .kafka topic partition offset, .kafka topic' partition' offset' =>
      decide (topic = topic') && decide (partition = partition') &&
        watchedProgress incident.progress && decide (offset < offset')
  | _, _ => false

def passedReason (position : Position) (incident : IncidentRecord) : String :=
  match incident.position, position with
  | .kafka topic partition offset, .kafka _ _ offset' =>
      "partition " ++ topic ++ "/" ++ toString partition ++ " is at offset " ++ toString offset' ++
        ", past the held record at offset " ++ toString offset ++ ", with no recorded advance"
  | _, _ => ""

/-- Holds the incident that the source's progress moved past. -/
def holdPassed (position : Position) (incident : IncidentRecord) (s : StoreAccess) : StoreAccess :=
  let moved := positionMovedDiagnosis.toList.isPrefixOf incident.diagnosis.toList
  if !moved || incident.progress = .retrying then
    (s.update incident
      (heldAgain
        (if moved then none
        else some (positionMovedDiagnosis ++ ": " ++ passedReason position incident ++
          ". The record may have expired or the group offset was changed outside StreamOtter."))
        incident)
      .held "position-moved").2
  else s

/-- The last part of `positionProblem`. -/
def checkPassed (position : Position) (opened : List IncidentRecord) (s : StoreAccess) :
    Option String × StoreAccess :=
  match opened.find? (passes position) with
  | some incident =>
      (some (passedReason position incident), holdPassed position incident s)
  | none => (none, s)

def clusterProblem (sourceId : String) (incident : IncidentRecord) : String :=
  "incident " ++ incident.failureId ++ " was captured on Kafka cluster " ++
    incident.clusterId.getD "(unknown)" ++ ", but the source now reads cluster " ++
    (settings.clusterIds sourceId).getD "(unknown)" ++
    "; nothing from this cluster is processed"

def onOtherCluster (sourceId : String) (incident : IncidentRecord) : Bool :=
  watchedProgress incident.progress && (settings.knownClusterMismatch sourceId incident).isSome

/-- Holds an incident of another cluster. -/
def holdMismatched (sourceId : String) (incident : IncidentRecord) (s : StoreAccess) :
    StoreAccess :=
  if incident.diagnosis ≠ (settings.knownClusterMismatch sourceId incident).getD "" ∨
      incident.progress = .retrying then
    (s.update incident
      (heldAgain (settings.knownClusterMismatch sourceId incident) incident)
      .held "cluster-mismatch").2
  else s

def isUncertain (position : Position) (incident : IncidentRecord) : Bool :=
  match position with
  | .kafka _ _ _ => incident.progress = .uncertain
  | .fixture _ => false

/-- Why the source must hold instead of processing the record, if it must. -/
def positionProblem (sourceId : String) (input : Delivery) (f : FailureService) :
    Option String × FailureService :=
  if !f.watched sourceId then (none, f)
  else
    match f.store.read fun j => j.opened sourceId with
    | (.error message, s) =>
        (some ("the failure journal could not be read: " ++ message), { f with store := s })
    | (.ok opened, s) =>
        match opened.find? (onOtherCluster f.settings sourceId) with
        | some incident =>
            (some (clusterProblem f.settings sourceId incident),
              { f with store := holdMismatched f.settings sourceId incident s })
        | none =>
            match opened.find? (isUncertain input.position) with
            | some incident =>
                (some ("incident " ++ incident.failureId ++ " has an unresolved advance (uncertain); the source stays held until a restart reconciles it from the group's committed offset"),
                  { f with store := s })
            | none =>
                let key := (sourceId, input.position)
                match compareEvidence texts sourceId input opened (f.corrected key) s with
                | (some problem, corrected, s) =>
                    (some problem, { f with
                      store := s, corrected := Function.update f.corrected key corrected })
                | (none, corrected, s) =>
                    let (problem, s) := checkPassed input.position opened s
                    (problem, { f with
                      store := s, corrected := Function.update f.corrected key corrected })

/-- The loop of `sourceHeld`. -/
def holdRetrying (position : Position) : List IncidentRecord → StoreAccess → StoreAccess
  | [], s => s
  | incident :: rest, s =>
      if incident.progress ≠ .retrying ∨ incident.position = position then
        holdRetrying position rest s
      else
        holdRetrying position rest (s.update incident { progress := some .held } .held
          (pausedAgainAt ++ describePosition position ++
            "; no retry is redelivering this record now; retry it again if it is still held")).2

def sourceHeld (sourceId : String) (position : Position) (f : FailureService) : FailureService :=
  if !f.watched sourceId then f
  else
    match f.store.read fun j => j.opened sourceId with
    | (.error _, s) => { f with store := s }
    | (.ok opened, s) => { f with store := holdRetrying position opened s }

end Records

/-! ### Retries -/

section Retries

def usesResync (policy : SourcePolicy) : Bool :=
  policy.invalidJson = .quarantineResync || policy.invalidPublicPayload = .quarantineResync

def isUnresolved (incident : IncidentRecord) : Bool :=
  incident.progress = .advancePending || incident.progress = .uncertain

/-- The loop of `#markRetrying`. -/
def markHeld (reason : String) : List IncidentRecord → StoreAccess → StoreAccess
  | [], s => s
  | incident :: rest, s =>
      if incident.progress ≠ .held then markHeld reason rest s
      else markHeld reason rest
        (s.update incident { progress := some .retrying } .retrying reason).2

/-- `#markRetrying`, which throws where the retry is refused. -/
def markRetrying (settings : ServiceSettings) (sourceId reason : String) (s : StoreAccess) :
    StoreAccess :=
  match s.read fun j => j.opened sourceId with
  | (.error _, s) => s
  | (.ok opened, s) =>
      match s.read fun j => (j.opened sourceId).find? (onOtherCluster settings sourceId) with
      | (.error _, s) => s
      | (.ok (some _), s) => s
      | (.ok none, s) =>
          if opened.any isUnresolved then s
          else if usesResync (settings.source sourceId).policy && !opened.isEmpty then
            match s.read fun j => (j.circuits sourceId).state with
            | (.error _, s) => s
            | (.ok .opened, s) => s
            | (.ok .closed, s) => markHeld reason opened s
          else markHeld reason opened s

end Retries

/-! ### Disposition -/

section Disposition

variable (settings : ServiceSettings) (texts : RecordTexts)

/-- `#holdOnClusterMismatch`. -/
def holdOnClusterMismatch (sourceId : String) (record : IncidentRecord) (s : StoreAccess) :
    Bool × StoreAccess :=
  match settings.clusterMismatch sourceId record with
  | none => (false, s)
  | some mismatch =>
      (true, (s.update record { diagnosis := some mismatch, recovery := some .held } .held
        "cluster-mismatch").2)

def observationOf (sourceId : String) (input : Delivery) (outcome : Pause) (policy : FailurePolicy)
    (summary : EvidenceSummary) (observedAt : String) : NewObservation where
  failureId := texts.failureId sourceId (settings.source sourceId).generation input.position
  sourceId := sourceId
  generation := (settings.source sourceId).generation
  position := input.position
  clusterId :=
    match (settings.source sourceId).kind with
    | .kafka => settings.clusterIds sourceId
    | .fixture => none
  timestamp := input.timestamp
  failureClass := outcome.failureClass
  stage := outcome.stage.getD
    (if outcome.failureClass = .revisionConflict then .queue
    else if isValidateClass outcome.failureClass then .validate else .map)
  errorCode := outcome.code
  channel := outcome.channel
  policy := policy
  diagnosis := outcome.diagnosis.getD (defaultDiagnosis outcome.failureClass outcome.code)
  evidence := summary
  fingerprints := settings.fingerprints
  observedAt := observedAt

/-- `#write`, up to where it waits: a local copy is stored at once. -/
def write (sourceId : String) (record : IncidentRecord) (raw : RawEvidence) (s : StoreAccess) :
    Option QuarantineOutcome × StoreAccess :=
  match (settings.source sourceId).kind with
  | .fixture =>
      match s.fault with
      | (some message, s) => (some (.failed message), s)
      | (none, s) =>
          (some (.acknowledged none),
            { s with evidence := Function.update s.evidence record.failureId (some raw) })
  | .kafka =>
      if !settings.quarantine then (some (.failed "no quarantine topic is configured"), s)
      else
        match publish ⟨raw, record.failureId, texts.envelope record⟩ with
        | .error reason => (some (.failed reason), s)
        | .ok _ => (none, s)

/-- `#dispose` under a quarantine policy, after the incident was observed. -/
def captureRecord (sourceId : String) (record : IncidentRecord) (policy : FailurePolicy)
    (summary : EvidenceSummary) (raw : Option RawEvidence) (s : StoreAccess) :
    Option Task × StoreAccess :=
  match holdOnClusterMismatch settings sourceId record s with
  | (true, s) => (none, s)
  | (false, s) =>
      if record.quarantine = .acknowledged ∧ policy = .quarantineHold then (none, s)
      else
        match summary.completeness, raw with
        | .complete, some evidence =>
            let (record, s) := s.update record
              { quarantine := some .pending, recovery := some .held } .captured
              (if summary.location = .local then "local evidence"
              else "writing to the quarantine topic")
            let (answer, s) := write settings texts sourceId record evidence s
            (some (.writing record policy summary evidence answer), s)
        | _, _ =>
            (none, (s.update record { recovery := some .held } .held
              "evidence is incomplete, so it cannot be quarantined; repair and retry").2)

/-- `#dispose` after the incident was observed, up to the quarantine write. -/
def quarantineRecord (sourceId : String) (record : IncidentRecord) (policy : FailurePolicy)
    (summary : EvidenceSummary) (raw : Option RawEvidence) (s : StoreAccess) :
    Option Task × StoreAccess :=
  if policy = .pause then (none, s)
  else captureRecord settings texts sourceId record policy summary raw s

def failedAgain (record : IncidentRecord) (s : StoreAccess) : IncidentRecord × StoreAccess :=
  if record.progress = .retrying then
    s.update record { progress := some .held } .held "the retried record failed again"
  else (record, s)

/-- `#dispose`, up to where it waits for the quarantine write. -/
def dispose (sourceId : String) (input : Delivery) (outcome : Pause) (f : FailureService) :
    Option Task × FailureService :=
  let key := (sourceId, input.position)
  let processed := f.queued key = some true
  let f := { f with
    queued := Function.update f.queued key none
    corrected := Function.update f.corrected key false }
  if processed then (none, f)
  else
    let policy := policyFor (f.settings.source sourceId).policy outcome.failureClass
    let raw := rawEvidence input
    let summary := f.settings.summarize texts sourceId raw policy
    let (observedAt, s) := f.store.nowIso
    match s.call (.observe
      (observationOf f.settings texts sourceId input outcome policy summary observedAt)) with
    | (.ok (.observed result), s) =>
        let f := { f with
          store := { s with journalError := none }
          watched := Function.update f.watched sourceId true }
        if result.conflict then
          (none, { f with store := (f.store.update result.record
            { diagnosis := some evidenceConflictMessage } .held "evidence-conflict").2 })
        else
          let (record, s) := failedAgain result.record f.store
          let (task, s) := quarantineRecord f.settings texts sourceId record policy summary raw s
          (task, { f with store := s })
    | (.ok _, s) => (none, { f with store := s })
    | (.error refusal, s) =>
        (none, { f with store := { s with journalError := some refusal.message } })

/-- `#recordQuarantine`: the incident as it is after the write, unless it was superseded. -/
def recordQuarantine (record : IncidentRecord) (patch : IncidentPatch) (event : IncidentEventName)
    (detail : String) (s : StoreAccess) : Option IncidentRecord × StoreAccess :=
  let (updated, s) := s.update record patch event detail
  if updated ≠ record then (some updated, s)
  else
    match s.read fun j => j.incidents.get record.failureId with
    | (.error _, s) => (none, s)
    | (.ok current, s) =>
        match current with
        | none => (none, s)
        | some current =>
            if current.revision ≠ record.revision ∧ current.quarantine = .pending then
              (none, (s.update current patch event detail).2)
            else (none, s)

end Disposition

/-! ### Guarded continuation -/

section Continuation

variable (settings : ServiceSettings) (texts : RecordTexts)

/-- The earlier advances that count against the limit: not the first entry of the incident's own
earlier advance, and only those within the window. -/
def recentAdvances (now windowMs : ℕ) (own : Option String) (advances : List String) :
    List String :=
  (match own with
  | none => advances
  | some createdAt => advances.erase createdAt).filter fun entry =>
    (IsoTime.parse entry).any fun time => (now : ℤ) - time < windowMs

def ownAdvance (record : IncidentRecord) (s : StoreAccess) :
    Except String (Option String) × StoreAccess :=
  match record.boundaryId with
  | none => (.ok none, s)
  | some boundaryId => s.read fun j => (j.boundaries.get boundaryId).map (·.createdAt)

/-- The part of `#continue` under `try`: whether the circuit is closed, or what was thrown. -/
def checkCircuit (sourceId : String) (record : IncidentRecord) (s : StoreAccess) :
    Except String Bool × StoreAccess :=
  let limit := (settings.source sourceId).policy.automaticAdvanceLimit
  match s.read fun j => j.circuits sourceId with
  | (.error message, s) => (.error message, s)
  | (.ok circuit, s) =>
      let (now, s) := s.dateNow
      match ownAdvance record s with
      | (.error message, s) => (.error message, s)
      | (.ok own, s) =>
          let recent := recentAdvances now limit.windowMs own circuit.advances
          if circuit.state = .opened then (.ok false, s)
          else if recent.length < limit.incidents then (.ok true, s)
          else
            let (openedAt, s) := s.nowIso
            match s.call (.updateCircuit sourceId circuit.revision
              { state := .opened, advances := recent, openedAt := some openedAt
                reason := some (toString recent.length ++ " distinct automatic advances within " ++
                  toString limit.windowMs ++ " ms") }) with
            | (.ok _, s) => (.ok false, s)
            | (.error refusal, s) => (.error refusal.message, s)

/-- `#continue`, up to where it waits for the recovery guard. -/
def continueRecord (sourceId : String) (record : IncidentRecord) (s : StoreAccess) :
    Option Task × StoreAccess :=
  match checkCircuit settings sourceId record s with
  | (.error message, s) =>
      (none, ({ s with journalError := some message }.update record { recovery := some .held } .held
        "the circuit state could not be read; the record stays held").2)
  | (.ok false, s) =>
      (none, (s.update record { recovery := some .held } .held
        "the automatic continuation circuit is open; reopen it after correcting the cause").2)
  | (.ok true, s) =>
      if !(settings.source sourceId).guarded then
        (none, (s.update record { recovery := some .held } .held
          "no recovery guard is registered for this source").2)
      else
        match s.read fun j => j.boundary sourceId with
        | (.error message, s) => (none, { s with journalError := some message })
        | (.ok prior, s) =>
            let prior := prior.filter fun boundary =>
              boundary.generation = (settings.source sourceId).generation
            match holdOnClusterMismatch settings sourceId record s with
            | (true, s) => (none, s)
            | (false, s) =>
                let (pending, s) := s.update record { recovery := some .guardPending } .held
                  "running the recovery guard"
                if pending = record then (none, s) else (some (.guarding pending prior), s)

def quarantinedDetail (summary : EvidenceSummary) (coordinates : Option (ℕ × ℕ)) : String :=
  if summary.location = .local then "stored as local fixture evidence, not Kafka"
  else "acknowledged at partition " ++ (coordinates.map fun place => toString place.1).getD "-1"

/-- What follows the quarantine write of `#dispose`. -/
def writeSettled (sourceId : String) (record : IncidentRecord) (policy : FailurePolicy)
    (summary : EvidenceSummary) (outcome : QuarantineOutcome) (s : StoreAccess) :
    Option Task × StoreAccess :=
  match outcome with
  | .acknowledged coordinates =>
      let (quarantined, s) := recordQuarantine record
        { quarantine := some .acknowledged, quarantineCoordinates := some coordinates } .quarantined
        (quarantinedDetail summary coordinates) s
      match policy, quarantined with
      | .quarantineResync, some quarantined => continueRecord settings sourceId quarantined s
      | _, _ => (none, s)
  | .unknown reason =>
      (none, (recordQuarantine record { quarantine := some .unknown } .quarantineUnknown reason s).2)
  | .failed reason =>
      (none, (recordQuarantine record { quarantine := some .failed } .held
        ("quarantine write refused: " ++ reason) s).2)

/-- `GuardOutcome`, with the context's canonical text. -/
inductive GuardOutcome
  | recoverable (context : String) (result : GuardResult)
  | refused (decision : GuardDecision) (result : GuardResult)

def guardResult (decision : GuardDecision) (reason evidenceRef : Option String) (time : String) :
    GuardResult :=
  ⟨decision, reason.map fun text => String.ofList (text.toList.take maxGuardText), evidenceRef, time⟩

def failedGuard (reason time : String) : GuardOutcome :=
  .refused .error (guardResult .error (some reason) none time)

def neitherAnswer : String :=
  "recover returned neither \x7bdecision: \"hold\", reason\x7d nor \x7bdecision: \"recoverable\", context, evidenceRef\x7d"

/-- `#runGuard`, from what the application's guard answered. -/
def runGuard (answer : HandlerAnswer) (time : String) : GuardOutcome :=
  match answer with
  | .aborted => failedGuard "cancelled because the gateway is stopping" time
  | .timeout => .refused .timeout (guardResult .timeout (some "no answer within 10000 ms") none time)
  | .error description => failedGuard ("recover threw " ++ description) time
  | .ok (.object fields) =>
      match JsValue.property fields "decision", JsValue.property fields "reason" with
      | .string "hold", .string reason =>
          .refused .hold (guardResult .hold (some reason) none time)
      | .string "recoverable", _ =>
          let context := JsValue.property fields "context"
          if !context.isJsonValue then
            failedGuard "recover returned a context that is not JSON" time
          else if maxRecoveryContextBytes < (texts.canonicalJson context).utf8ByteSize then
            failedGuard ("recover returned a context above " ++ toString maxRecoveryContextBytes ++
              " bytes") time
          else
            match JsValue.property fields "evidenceRef" with
            | .string evidenceRef =>
                if evidenceRef = "" ∨ maxGuardText < utf16Length evidenceRef then
                  failedGuard "recover must return an evidenceRef of 1 to 512 characters" time
                else
                  .recoverable (texts.canonicalJson context)
                    (guardResult .recoverable none (some evidenceRef) time)
            | _ => failedGuard "recover must return an evidenceRef of 1 to 512 characters" time
      | _, _ => failedGuard neitherAnswer time
  | .ok _ => failedGuard neitherAnswer time

/-- `#releaseGuard`. -/
def releaseGuard (pending : IncidentRecord) (detail : String) (s : StoreAccess) : StoreAccess :=
  match s.read fun j => j.incidents.get pending.failureId with
  | (.error _, s) => s
  | (.ok none, s) => s
  | (.ok (some current), s) =>
      if current.revision ≠ pending.revision ∨ current.recovery ≠ .guardPending then s
      else (s.update current { recovery := some .held } .held detail).2

def guardRefusal (decision : GuardDecision) (result : GuardResult) : String :=
  match decision with
  | .hold => "the recovery guard decided to hold: " ++ result.reason.getD ""
  | .timeout => "the recovery guard timed out: " ++ result.reason.getD ""
  | _ => "the recovery guard failed: " ++ result.reason.getD ""

/-- The advance of `#continue` that the guard allowed: the prepared incident, if it was
prepared. -/
def prepareRecord (current : IncidentRecord) (boundaryId : String) (prior : Option StoredBoundary)
    (context : String) (result : GuardResult) (s : StoreAccess) :
    Option IncidentRecord × StoreAccess :=
  let (time, s) := s.nowIso
  match s.call (.prepareAdvance
    ⟨current.failureId, current.revision, boundaryId, .ok context, prior.map (·.boundaryId), result,
      time⟩) with
  | (.ok (.prepared prepared _), s) => (some prepared, { s with journalError := none })
  | (.ok _, s) => (none, s)
  | (.error refusal, s) =>
      let s :=
        if StoreAccess.isStale refusal then s
        else { s with journalError := some refusal.message }
      (none, releaseGuard current "the advance could not be prepared; the record stays held" s)

/-- `#continue` from where the guard settled: the prepared incident with the context of its
boundary. -/
def guardSettled (sourceId : String) (pending : IncidentRecord) (prior : Option StoredBoundary)
    (stopping : Bool) (answer : HandlerAnswer) (boundaryId : String) (s : StoreAccess) :
    Option (IncidentRecord × String) × StoreAccess :=
  let (time, s) := s.nowIso
  let outcome := runGuard texts answer time
  if stopping then
    (none, releaseGuard pending
      "the gateway stopped while the recovery guard ran; the record stays held" s)
  else
    match s.read fun j => j.incidents.get pending.failureId with
    | (.error _, s) => (none, s)
    | (.ok none, s) => (none, s)
    | (.ok (some current), s) =>
        if current.revision ≠ pending.revision ∨ current.state ≠ .opened ∨
            current.progress ≠ .held then (none, s)
        else
          match outcome with
          | .refused decision result =>
              (none, (s.update current
                { recovery := some (if decision = .hold then .denied else .held)
                  guard := some (some result) }
                .held (guardRefusal decision result)).2)
          | .recoverable context result =>
              match holdOnClusterMismatch settings sourceId current s with
              | (true, s) => (none, s)
              | (false, s) =>
                  match prepareRecord current boundaryId prior context result s with
                  | (some prepared, s) => (some (prepared, context), s)
                  | (none, s) => (none, s)

/-- `confirmed`: whether the advance was journaled. -/
def confirmAdvance (prepared : IncidentRecord) (boundaryId : String) (s : StoreAccess) :
    StoreAccess :=
  (s.update prepared
    { progress := some .advanced, state := some .resolved
      resolution := some (some ("advanced past under recovery boundary " ++ boundaryId)) }
    .advanceConfirmed
    "committed past the record and confirmed by read-back; snapshots must acknowledge the boundary").2

def advanceNotHeld (prepared : IncidentRecord) (s : StoreAccess) : StoreAccess :=
  (s.update prepared { progress := some .held } .held
    "the source was no longer paused at this record; nothing was committed and it will be evaluated again").2

def advanceUncertain (sourceId : String) (prepared : IncidentRecord) (f : FailureService) :
    FailureService :=
  { f with
    watched := Function.update f.watched sourceId true
    store := (f.store.update prepared { progress := some .uncertain } .held
      "the advance could not be confirmed; the source stays paused until it is reconciled").2 }

end Continuation

/-! ### The start of a process -/

section Start

variable (settings : ServiceSettings)

/-- `#reconcile`: `offsets` is what the group committed, or the name of the error that
reading it ended with. -/
def reconcile (offsets : String → String → ℕ → Except String (Option ℕ)) (sourceId : String)
    (incident : IncidentRecord) (s : StoreAccess) : StoreAccess :=
  match settings.clusterMismatch sourceId incident with
  | some mismatch =>
      (s.update incident { progress := some .uncertain, diagnosis := some mismatch } .held
        "cluster-mismatch at startup").2
  | none =>
      match incident.position with
      | .fixture _ =>
          (s.update incident { progress := some .held } .held
            "the fixture restarted from its first record, so the advance is evaluated again when the record is reached").2
      | .kafka topic partition offset =>
          match offsets sourceId topic partition with
          | .error name =>
              (s.update incident
                { progress := some .uncertain
                  diagnosis := some ("The group's committed offset could not be read at startup (" ++
                    name ++ "), so the advance past " ++ describePosition incident.position ++
                    " is not confirmed. The source stays held until a restart reads it.") }
                .held ("the committed offset could not be read at startup (" ++ name ++
                  "); the source stays held")).2
          | .ok (some committed) =>
              if committed = offset + 1 then
                (s.update incident
                  { progress := some .advanced, state := some .resolved
                    resolution := some (some ("advanced past under recovery boundary " ++
                      incident.boundaryId.getD "(none)" ++ "; confirmed at startup")) }
                  .advanceConfirmed
                  "the group's committed offset shows the advance happened before the restart").2
              else if committed ≤ offset then
                (s.update incident { progress := some .held } .held
                  "the advance was never committed; the record is evaluated again when it is redelivered").2
              else
                (s.update incident
                  { progress := some .uncertain
                    diagnosis := some ("Source progress moved: the group's committed offset " ++
                      toString committed ++ " is past " ++ toString (offset + 1) ++
                      ", which this gateway did not record. The source stays held.") }
                  .held "unexplained group position at startup").2
          | .ok none =>
              (s.update incident { progress := some .held } .held
                "the advance was never committed; the record is evaluated again when it is redelivered").2

/-- No guard of an earlier process runs any more. -/
def releaseLeftGuard (current : IncidentRecord) (s : StoreAccess) : IncidentRecord × StoreAccess :=
  if current.state = .opened ∧ current.recovery = .guardPending then
    s.update current { recovery := some .held } .held
      "the gateway restarted while the recovery guard was running"
  else (current, s)

def releaseLeftRetry (current : IncidentRecord) (s : StoreAccess) : IncidentRecord × StoreAccess :=
  if current.state = .opened ∧ current.progress = .retrying then
    s.update current { progress := some .held } .held
      "the gateway restarted during a retry; the record is evaluated again when it is redelivered"
  else (current, s)

def holdMismatchedAtStart (sourceId : String) (current : IncidentRecord) (s : StoreAccess) :
    StoreAccess :=
  if current.state = .opened ∧ atPosition current.progress then
    match settings.knownClusterMismatch sourceId current with
    | none => s
    | some mismatch =>
        if current.diagnosis ≠ mismatch then
          (s.update current { diagnosis := some mismatch } .held "cluster-mismatch at startup").2
        else s
  else s

/-- The body of the loop of `start` over the open incidents; `false` is a store that threw. -/
def reviveIncident (offsets : String → String → ℕ → Except String (Option ℕ)) (sourceId : String)
    (incident : IncidentRecord) (s : StoreAccess) : Bool × StoreAccess :=
  let s := if isUnresolved incident then reconcile settings offsets sourceId incident s else s
  match s.read fun j => j.incidents.get incident.failureId with
  | (.error _, s) => (false, s)
  | (.ok none, s) => (true, s)
  | (.ok (some current), s) =>
      let (current, s) := releaseLeftGuard current s
      let (current, s) := releaseLeftRetry current s
      (true, holdMismatchedAtStart settings sourceId current s)

def reviveIncidents (offsets : String → String → ℕ → Except String (Option ℕ)) (sourceId : String) :
    List IncidentRecord → StoreAccess → Bool × StoreAccess
  | [], s => (true, s)
  | incident :: rest, s =>
      match reviveIncident settings offsets sourceId incident s with
      | (false, s) => (false, s)
      | (true, s) => reviveIncidents offsets sourceId rest s

def holdsFromStart (sourceId : String) (incident : IncidentRecord) : Bool :=
  watchedProgress incident.progress &&
    ((settings.knownClusterMismatch sourceId incident).isSome ||
      (decide (incident.progress = .uncertain) &&
        (settings.clusterMismatch sourceId incident).isSome))

/-- The body of the loop of `start` over the sources. -/
def startSource (offsets : String → String → ℕ → Except String (Option ℕ)) (sourceId : String)
    (f : FailureService) : Bool × FailureService :=
  match f.store.read fun j => j.opened sourceId with
  | (.error _, s) => (false, { f with store := s })
  | (.ok opened, s) =>
      if opened.any fun incident => incident.generation ≠ (settings.source sourceId).generation then
        (false, { f with store := s })
      else
        match s.read fun j => j.boundary sourceId with
        | (.error _, s) => (false, { f with store := s })
        | (.ok boundary, s) =>
            let current : Option StoredBoundary := boundary.filter fun boundary =>
              boundary.generation = (settings.source sourceId).generation
            let required := current.map fun boundary => (boundary.boundaryId, boundary.context)
            let f := { f with inForce := Function.update f.inForce sourceId required }
            match reviveIncidents settings offsets sourceId opened s with
            | (false, s) => (false, { f with store := s })
            | (true, s) =>
                match s.read fun j => j.opened sourceId with
                | (.error _, s) => (false, { f with store := s })
                | (.ok opened, s) =>
                    (true, { f with
                      store := s
                      watched := Function.update f.watched sourceId
                        (opened.any fun incident => watchedProgress incident.progress)
                      heldAtStart := Function.update f.heldAtStart sourceId
                        (opened.any (holdsFromStart settings sourceId)) })

def startSources (offsets : String → String → ℕ → Except String (Option ℕ)) :
    List String → FailureService → Bool × FailureService
  | [], f => (true, f)
  | sourceId :: rest, f =>
      match startSource settings offsets sourceId f with
      | (false, f) => (false, f)
      | (true, f) => startSources offsets rest f

/-- A service that has not been started. -/
def fresh (store : StoreAccess) : FailureService where
  settings := settings
  store := store
  started := false
  stopping := false
  queued := fun _ => none
  watched := fun _ => false
  corrected := fun _ => false
  retiring := fun _ => false
  chains := fun _ => []
  tasks := fun _ => none
  inForce := fun _ => none
  heldAtStart := fun _ => false
  processing := []

/-- A new process over the store: the claim of the sources, then `start`. -/
def restart (offsets : String → String → ℕ → Except String (Option ℕ)) (store : StoreAccess) :
    FailureService :=
  let (time, s) := store.nowIso
  let identities := settings.sources.map fun sourceId =>
    (⟨sourceId, (settings.source sourceId).generation, (settings.source sourceId).kind⟩ :
      SourceIdentity)
  match s.call (.claim "" identities time) with
  | (.error _, s) => fresh settings s
  | (.ok _, s) =>
      let (done, f) := startSources settings offsets settings.sources (fresh settings s)
      { f with started := done }

end Start

/-! ### Steps -/

/-- What happens to a service: its process is replaced by a new one, the record pipeline or an
operator calls it, its work on a source goes on, or what that work waits for has ended. -/
inductive Event
  | restart (settings : ServiceSettings) (offsets : String → String → ℕ → Except String (Option ℕ))
  | stop
  | check (sourceId : String) (input : Delivery)
  | failed (sourceId : String) (input : Delivery)
  | abandoned (sourceId : String) (input : Delivery)
  | committed (sourceId : String) (input : Delivery)
  | held (sourceId : String) (input : Delivery) (outcome : Pause)
  | run (sourceId : String) (job : Job)
  | acknowledged (sourceId boundaryId : String)
  | note (failureId operationId detail : String)
  | begin (sourceId : String)
  | written (sourceId : String) (answer : PublishAnswer)
  | guarded (sourceId : String) (answer : HandlerAnswer) (boundaryId : String)
  | advanced (sourceId : String) (answer : AdvanceAnswer)
  | confirm (sourceId : String)
  | retired (sourceId : String) (agreed : Bool)

/-- An event with what the store calls throw and the clock reads meanwhile. -/
structure Occurrence where
  event : Event
  faults : List (Option String)
  readings : List ℕ

def enqueue (sourceId : String) (job : Job) (f : FailureService) : FailureService :=
  { f with chains := Function.update f.chains sourceId (f.chains sourceId ++ [job]) }

/-- `#process` up to the mapping of the record. -/
def checkRecord (texts : RecordTexts) (sourceId : String) (input : Delivery) (f : FailureService) :
    FailureService :=
  match positionProblem texts sourceId input f with
  | (some _, f) => f.sourceHeld sourceId input.position
  | (none, f) => { f with processing := (sourceId, input) :: f.processing }

def leave (sourceId : String) (input : Delivery) (f : FailureService) : FailureService :=
  { f with processing := f.processing.erase (sourceId, input) }

/-- `held`. -/
def heldRecord (sourceId : String) (input : Delivery) (outcome : Pause) (f : FailureService) :
    FailureService :=
  { f with queued := Function.update f.queued (sourceId, input.position) (some false) }.enqueue
    sourceId (.dispose input outcome)

/-- `acknowledged`. -/
def boundaryAcknowledged (sourceId boundaryId : String) (f : FailureService) : FailureService :=
  let source := f.settings.source sourceId
  if source.policy.boundaryRetirement ≠ .application || !source.retires || f.retiring sourceId then f
  else
    { f with retiring := Function.update f.retiring sourceId true }.enqueue sourceId
      (.retire boundaryId)

/-- `#note` of the operator service. -/
def note (failureId operationId detail : String) (s : StoreAccess) : StoreAccess :=
  match s.read fun j => j.incidents.get failureId with
  | (.error _, s) => s
  | (.ok none, s) => s
  | (.ok (some latest), s) =>
      let (time, s) := s.nowIso
      (s.call (.update latest.failureId latest.revision {}
        ⟨time, .operator, some (String.ofList (detail.toList.take 512)), some operationId⟩)).2

/-- `reopenCircuit` of the operator service, in the source's chain. -/
def reopenCircuit (sourceId : String) (expectedRevision : ℕ) (reason : String) (s : StoreAccess) :
    StoreAccess :=
  match s.read fun j => j.circuits sourceId with
  | (.error _, s) => s
  | (.ok circuit, s) =>
      if circuit.revision ≠ expectedRevision ∨ circuit.state ≠ .opened then s
      else
        (s.call (.updateCircuit sourceId circuit.revision
          { state := .closed, advances := [], openedAt := none
            reason := some ("reopened by an operator: " ++ reason) })).2

/-- The boundary that the runtime requires is dropped when none is in force any more. -/
def dropRetired (sourceId : String) (f : FailureService) : FailureService :=
  match f.store.read fun j => j.boundary sourceId with
  | (.error _, s) => { f with store := s }
  | (.ok (some _), s) => { f with store := s }
  | (.ok none, s) => { f with store := s, inForce := Function.update f.inForce sourceId none }

/-- `retireBoundary` of the operator service, in the source's chain. -/
def retireByOperator (sourceId boundaryId : String) (expectedRevision : ℕ)
    (reason operationId : String) (f : FailureService) : FailureService :=
  if (f.settings.source sourceId).policy.boundaryRetirement ≠ .operator then f
  else
    match f.store.read fun j => j.boundaries.get boundaryId with
    | (.error _, s) => { f with store := s }
    | (.ok found, s) =>
        if found.all fun boundary => boundary.sourceId ≠ sourceId then { f with store := s }
        else
          let (time, s) := s.nowIso
          match s.call (.retireBoundary boundaryId expectedRevision
            ⟨.operator, some reason, some operationId⟩ time) with
          | (.error _, s) => { f with store := s }
          | (.ok _, s) => { f with store := s }.dropRetired sourceId

/-- The start of `acknowledged`'s work. -/
def askRetirement (sourceId boundaryId : String) (f : FailureService) :
    Option Task × FailureService :=
  let ended := Function.update f.retiring sourceId false
  match f.store.read fun j => j.boundaries.get boundaryId with
  | (.error _, s) => (none, { f with store := s, retiring := ended })
  | (.ok none, s) => (none, { f with store := s, retiring := ended })
  | (.ok (some boundary), s) =>
      if boundary.state ≠ .inForce then (none, { f with store := s, retiring := ended })
      else (some (.retiring boundary), { f with store := s })

def retirementAnswered (sourceId : String) (boundary : StoredBoundary) (agreed : Bool)
    (f : FailureService) : FailureService :=
  let f := { f with retiring := Function.update f.retiring sourceId false }
  if !agreed then f
  else
    let (time, s) := f.store.nowIso
    match s.call (.retireBoundary boundary.boundaryId boundary.revision
      ⟨.application, some "retire() returned true after an acknowledged snapshot", none⟩ time) with
    | (.error _, s) => { f with store := s }
    | (.ok _, s) => { f with store := s }.dropRetired sourceId

/-- A job, up to where it waits. -/
def beginJob (texts : RecordTexts) (sourceId : String) (f : FailureService) :
    Job → Option Task × FailureService
  | .dispose input outcome => dispose texts sourceId input outcome f
  | .retry reason =>
      (none, { f with store := markRetrying f.settings sourceId reason f.store })
  | .retire boundaryId => askRetirement sourceId boundaryId f
  | .reopenCircuit expectedRevision reason =>
      (none, { f with store := reopenCircuit sourceId expectedRevision reason f.store })
  | .retireBoundary boundaryId expectedRevision reason operationId =>
      (none, retireByOperator sourceId boundaryId expectedRevision reason operationId f)

/-- The next job of a source, when none of them is under way. -/
def beginNext (texts : RecordTexts) (sourceId : String) (f : FailureService) : FailureService :=
  match f.tasks sourceId, f.chains sourceId with
  | none, job :: rest =>
      let (task, f) :=
        beginJob texts sourceId { f with chains := Function.update f.chains sourceId rest } job
      { f with tasks := Function.update f.tasks sourceId task }
  | _, _ => f

/-- Replaces where the work on a source waits, and the store. -/
def waitAt (sourceId : String) (task : Option Task) (store : StoreAccess) (f : FailureService) :
    FailureService :=
  { f with tasks := Function.update f.tasks sourceId task, store := store }

/-- The work on a source goes on from where it waited for the quarantine write. -/
def afterWrite (sourceId : String) (answer : PublishAnswer) (f : FailureService) : FailureService :=
  match f.tasks sourceId with
  | some (.writing record policy summary _ known) =>
      let (task, s) := writeSettled f.settings sourceId record policy summary
        (known.getD answer.outcome) f.store
      f.waitAt sourceId task s
  | _ => f

def afterGuard (texts : RecordTexts) (sourceId : String) (answer : HandlerAnswer)
    (boundaryId : String) (f : FailureService) : FailureService :=
  match f.tasks sourceId with
  | some (.guarding pending prior) =>
      match guardSettled f.settings texts sourceId pending prior f.stopping answer boundaryId
        f.store with
      | (none, s) => f.waitAt sourceId none s
      | (some (prepared, context), s) =>
          { f with inForce := Function.update f.inForce sourceId (some (boundaryId, context)) }.waitAt
            sourceId (some (.advancing prepared boundaryId)) s
  | _ => f

/-- The adapter committed past the record: it reports the commit and asks for the advance to be
journaled. -/
def passed (sourceId : String) (prepared : IncidentRecord) (boundaryId : String)
    (readBack : Option ℕ) (f : FailureService) : FailureService :=
  let f := f.committed sourceId prepared.position
  f.waitAt sourceId (some (.confirming prepared boundaryId readBack)) f.store

/-- `advancePast` of the source's adapter. -/
def afterAdvance (sourceId : String) (answer : AdvanceAnswer) (f : FailureService) :
    FailureService :=
  match f.tasks sourceId with
  | some (.advancing prepared boundaryId) =>
      let uncertain := fun f : FailureService =>
        let f := advanceUncertain sourceId prepared f
        f.waitAt sourceId none f.store
      match answer, prepared.position with
      | .notHeld, _ => f.waitAt sourceId none (advanceNotHeld prepared f.store)
      | .unconfirmed, _ => uncertain f
      | .readBack readBack steady, .kafka _ _ offset =>
          if steady ∧ readBack = some (offset + 1) then
            f.passed sourceId prepared boundaryId readBack
          else uncertain f
      | .moved, .fixture _ => f.passed sourceId prepared boundaryId none
      | .readBack _ _, .fixture _ => uncertain f
      | .moved, .kafka _ _ _ => uncertain f
  | _ => f

def afterConfirm (sourceId : String) (f : FailureService) : FailureService :=
  match f.tasks sourceId with
  | some (.confirming prepared boundaryId _) =>
      f.waitAt sourceId none (confirmAdvance prepared boundaryId f.store)
  | _ => f

def afterRetirement (sourceId : String) (agreed : Bool) (f : FailureService) : FailureService :=
  match f.tasks sourceId with
  | some (.retiring boundary) =>
      { f with tasks := Function.update f.tasks sourceId none }.retirementAnswered sourceId boundary
        agreed
  | _ => f

/-- What an event does to a started service. -/
def handle (texts : RecordTexts) (f : FailureService) : Event → FailureService
  | .restart settings offsets => restart settings offsets f.store
  | .stop => { f with stopping := true }
  | .check sourceId input => f.checkRecord texts sourceId input
  | .failed sourceId input => (f.sourceHeld sourceId input.position).leave sourceId input
  | .abandoned sourceId input => f.leave sourceId input
  | .committed sourceId input => (f.committed sourceId input.position).leave sourceId input
  | .held sourceId input outcome => f.heldRecord sourceId input outcome
  | .run sourceId job => f.enqueue sourceId job
  | .acknowledged sourceId boundaryId => f.boundaryAcknowledged sourceId boundaryId
  | .note failureId operationId detail =>
      { f with store := note failureId operationId detail f.store }
  | .begin sourceId => f.beginNext texts sourceId
  | .written sourceId answer => f.afterWrite sourceId answer
  | .guarded sourceId answer boundaryId => f.afterGuard texts sourceId answer boundaryId
  | .advanced sourceId answer => f.afterAdvance sourceId answer
  | .confirm sourceId => f.afterConfirm sourceId
  | .retired sourceId agreed => f.afterRetirement sourceId agreed

/-- An adapter delivers the records of its own kind, a Kafka record with its bytes. -/
def delivers (source : SourceSettings) (input : Delivery) : Bool :=
  match source.kind, input.position with
  | .kafka, .kafka _ _ _ => input.bytes.isSome
  | .fixture, .fixture _ => true
  | _, _ => false

/-- The work that an operator has done in a source's chain. -/
def ofOperator (job : Job) : Bool :=
  match job with
  | .retry _ | .reopenCircuit _ _ | .retireBoundary _ _ _ _ => true
  | .dispose _ _ | .retire _ => false

def eventSource (e : Event) : Option String :=
  match e with
  | .restart _ _ | .stop | .note _ _ _ => none
  | .check sourceId _ | .failed sourceId _ | .abandoned sourceId _ | .committed sourceId _
  | .held sourceId _ _ | .run sourceId _ | .acknowledged sourceId _ | .begin sourceId
  | .written sourceId _ | .guarded sourceId _ _ | .advanced sourceId _ | .confirm sourceId
  | .retired sourceId _ => some sourceId

/-- Whether the event can happen: it is about a configured source, and the pipeline ends the
processing only of a record that it checked. -/
def possible (f : FailureService) (e : Event) : Bool :=
  ((eventSource e).all fun sourceId => sourceId ∈ f.settings.sources) &&
    match e with
    | .check sourceId input | .held sourceId input _ =>
        delivers (f.settings.source sourceId) input
    | .failed sourceId input | .abandoned sourceId input | .committed sourceId input =>
        decide ((sourceId, input) ∈ f.processing)
    | .run _ job => ofOperator job
    | _ => true

/-- The service as an occurrence finds it. -/
def given (o : Occurrence) (f : FailureService) : FailureService :=
  { f with store := { f.store with faults := o.faults, readings := o.readings } }

/-- A process that did not start only ends. -/
def step (texts : RecordTexts) (f : FailureService) (o : Occurrence) : FailureService :=
  match f.started, o.event with
  | false, .restart settings offsets => restart settings offsets (f.given o).store
  | false, _ => f.given o
  | true, event =>
      if (f.given o).possible event then (f.given o).handle texts event else f.given o

def run (texts : RecordTexts) (f : FailureService) (occurrences : List Occurrence) :
    FailureService :=
  occurrences.foldl (step texts) f

/-- A store that was never used. -/
def emptyStore : StoreAccess where
  journal := .initial
  evidence := fun _ => none
  faults := []
  readings := []
  now := 0
  journalError := none

/-- Before the first process. -/
def initial (settings : ServiceSettings) : FailureService := fresh settings emptyStore

/-! ### A source to follow -/

/-- One guarded Kafka source that quarantines invalid JSON under a policy. -/
def ordersUnder (invalidJson : FailurePolicy) : ServiceSettings where
  sources := ["orders"]
  source _ :=
    { kind := .kafka
      generation := "1"
      policy :=
        { invalidJson := invalidJson
          invalidPublicPayload := .pause
          replaySafeMapping := true
          automaticAdvanceLimit := defaultAdvanceLimit
          boundaryRetirement := .application }
      guarded := true
      retires := true }
  clusterIds _ := some "cluster"
  quarantine := true
  maxSourceRecordBytes := 1048576
  fingerprints := ⟨"config", "build", "policy", "1.0.0"⟩

def orderAt (offset : ℕ) (bytes : Bytes) : Delivery where
  key := none
  keyBytes := some none
  value := none
  bytes := some (some bytes)
  headers := []
  timestamp := none
  position := .kafka "orders" 0 offset

def invalidOrder : Pause := ⟨.invalidPayload, .invalidJson, some .validate, none, none⟩

/-- What a guard answers that lets the source go on. -/
def recoverableAnswer : HandlerAnswer :=
  .ok (.object [("decision", .string "recoverable"), ("context", .object []),
    ("evidenceRef", .string "ticket")])

/-- Events during which no call throws and the clock stands. -/
def calmly (events : List Event) : List Occurrence := events.map fun event => ⟨event, [], []⟩

end FailureService

end StreamOtter
