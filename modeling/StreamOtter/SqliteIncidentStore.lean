import StreamOtter.Journal
import StreamOtter.RowTable

/-!
# The SQLite store

A translation of `SqliteIncidentStore` without its evidence, over tables whose statements
run as written: `UNIQUE`, `REFERENCES` and the length check refuse a row with SQLite's own
error, and a transaction that throws leaves the tables as they were.  Checks that the values
bound in a statement always meet are left out, and so are columns that nothing reads.  JSON
columns hold the value whose text the source stores.
-/

namespace StreamOtter

/-- A row of `incidents`; the record is a JSON column. -/
structure IncidentRow where
  failureId : String
  sourceId : String
  state : IncidentState
  record : IncidentRecord

structure EventRow where
  failureId : String
  time : String
  event : IncidentEventName
  detail : Option String
  operationId : Option String

structure BoundaryRow where
  boundaryId : String
  sourceId : String
  generation : String
  state : BoundaryState
  revision : ℕ
  context : String
  failureIds : List String
  supersedes : Option String
  createdAt : String
  retiredAt : Option String
  retirementMode : Option RetirementMode
  retirementReason : Option String
  retirementOperationId : Option String

structure SqliteIncidentStore where
  projectId : String
  sources : RowTable SourceIdentity
  incidents : RowTable IncidentRow
  incidentEvents : RowTable EventRow
  boundaries : RowTable BoundaryRow
  /-- By `source_id`, the primary key. -/
  circuits : String → Option CircuitState
  operations : RowTable StoredOperation

/-- An error that SQLite raises. -/
inductive SqliteFault
  | full
  | other (message : String)

/-- What a call meets: the live bytes at which `#admit` finds the journal full, if it does,
and the error that SQLite raises in the transaction, if any. -/
structure SqliteConditions where
  overLimit : Option ℕ := none
  fault : Option SqliteFault := none

structure SqliteLimits where
  path : String
  journalLimitBytes : ℕ
  maxOperations : ℕ

namespace SqliteIncidentStore

open FailureStore

/-- A fresh journal of a project. -/
def initial (projectId : String) : SqliteIncidentStore where
  projectId := projectId
  sources := .empty
  incidents := .empty
  incidentEvents := .empty
  boundaries := .empty
  circuits := fun _ => none
  operations := .empty

def boundaryFromRow (row : BoundaryRow) : StoredBoundary where
  boundaryId := row.boundaryId
  sourceId := row.sourceId
  generation := row.generation
  context := row.context
  revision := row.revision
  state := row.state
  failureIds := row.failureIds
  supersedes := row.supersedes
  createdAt := row.createdAt
  retiredAt := row.retiredAt
  retirement := row.retirementMode.map fun mode =>
    ⟨mode, row.retirementReason, row.retirementOperationId⟩

def get (failureId : String) (s : SqliteIncidentStore) : Option IncidentRecord :=
  (s.incidents.select fun row => row.failureId = failureId).head?.map (·.2.record)

def opened (sourceId : String) (s : SqliteIncidentStore) : List IncidentRecord :=
  (s.incidents.select fun row => row.sourceId = sourceId && row.state = .opened).map (·.2.record)

/-- `ORDER BY id DESC LIMIT`, reversed. -/
def eventsOf (failureId : String) (s : SqliteIncidentStore) : List IncidentEvent :=
  ((s.incidentEvents.select fun row => row.failureId = failureId).reverse.take
    maxEventsPerIncident).reverse.map fun row =>
      ⟨row.2.time, row.2.event, row.2.detail, row.2.operationId⟩

def inForceBoundary (sourceId : String) (s : SqliteIncidentStore) : Option StoredBoundary :=
  (s.boundaries.select fun row => row.sourceId = sourceId && row.state = .inForce).head?.map
    fun row => boundaryFromRow row.2

def getBoundary (boundaryId : String) (s : SqliteIncidentStore) : Option StoredBoundary :=
  (s.boundaries.select fun row => row.boundaryId = boundaryId).head?.map
    fun row => boundaryFromRow row.2

def circuit (sourceId : String) (s : SqliteIncidentStore) : CircuitState :=
  (s.circuits sourceId).getD (defaultCircuit sourceId)

def getOperation (operationId : String) (s : SqliteIncidentStore) : Option StoredOperation :=
  (s.operations.select fun row => row.operationId = operationId).head?.map (·.2)

def generation (sourceId : String) (s : SqliteIncidentStore) : Option String :=
  (s.sources.select fun row => row.sourceId = sourceId).head?.map (·.2.generation)

def openCount (sourceId : String) (s : SqliteIncidentStore) : ℕ :=
  (s.incidents.select fun row => row.sourceId = sourceId && row.state = .opened).length

def view (s : SqliteIncidentStore) : StoreView where
  get := fun failureId => s.get failureId
  opened := fun sourceId => s.opened sourceId
  events := fun failureId => s.eventsOf failureId
  boundary := fun sourceId => s.inForceBoundary sourceId
  getBoundary := fun boundaryId => s.getBoundary boundaryId
  circuit := fun sourceId => s.circuit sourceId
  getOperation := fun operationId => s.getOperation operationId

/-! ### Statements -/

def refuse (code : ErrorCode) (reason message : String) (details : List (String × String)) :
    Refusal :=
  ⟨some code, message, none, some reason, details⟩

/-- The error of a violated constraint. -/
def constraintFailed (constraint : String) : Refusal :=
  ⟨none, constraint ++ " constraint failed", none, none, []⟩

def isKnownSource (sourceId : String) (s : SqliteIncidentStore) : Bool :=
  (s.sources.select fun row => row.sourceId = sourceId).head?.isSome

def sourceNotClaimed (sourceId : String) : Refusal :=
  refuse .sourceUnavailable "source-not-claimed"
    ("Source " ++ sourceId ++ " is not registered in the journal; claim() it first.")
    [("sourceId", sourceId)]

def insertIncident (record : IncidentRecord) (s : SqliteIncidentStore) :
    Except Refusal SqliteIncidentStore :=
  if s.incidents.contents.any fun row => row.failureId = record.failureId then
    .error (constraintFailed "UNIQUE")
  else if !s.isKnownSource record.sourceId then .error (constraintFailed "FOREIGN KEY")
  else
    .ok { s with incidents :=
      s.incidents.insert ⟨record.failureId, record.sourceId, record.state, record⟩ }

/-- `#replace`. -/
def replace (record : IncidentRecord) (s : SqliteIncidentStore) : SqliteIncidentStore :=
  { s with
    incidents := s.incidents.update (fun row => row.failureId = record.failureId)
      fun row => { row with state := record.state, record := record } }

/-- `#addEvent`. -/
def addEvent (failureId : String) (event : IncidentEvent) (s : SqliteIncidentStore) :
    Except Refusal SqliteIncidentStore :=
  if !s.incidents.contents.any fun row => row.failureId = failureId then
    .error (constraintFailed "FOREIGN KEY")
  else
    let inserted := s.incidentEvents.insert
      ⟨failureId, event.time, event.event, event.detail, event.operationId⟩
    .ok { s with
      incidentEvents :=
        inserted.keepNewest (fun row => row.failureId = failureId) maxEventsPerIncident }

/-- `INSERT INTO boundaries`. -/
def insertBoundary (boundary : StoredBoundary) (context : String) (s : SqliteIncidentStore) :
    Except Refusal SqliteIncidentStore :=
  if s.boundaries.contents.any fun row => row.boundaryId = boundary.boundaryId then
    .error (constraintFailed "UNIQUE")
  else if boundary.state = .inForce ∧
      s.boundaries.contents.any fun row =>
        row.sourceId = boundary.sourceId && row.state = .inForce then
    .error (constraintFailed "UNIQUE")
  else if !s.isKnownSource boundary.sourceId then .error (constraintFailed "FOREIGN KEY")
  else if boundary.supersedes.any fun prior =>
      !s.boundaries.contents.any fun row => row.boundaryId = prior then
    .error (constraintFailed "FOREIGN KEY")
  else
    .ok { s with
      boundaries := s.boundaries.insert {
        boundaryId := boundary.boundaryId
        sourceId := boundary.sourceId
        generation := boundary.generation
        state := boundary.state
        revision := boundary.revision
        context := context
        failureIds := boundary.failureIds
        supersedes := boundary.supersedes
        createdAt := boundary.createdAt
        retiredAt := none
        retirementMode := none
        retirementReason := none
        retirementOperationId := none } }

/-- `#saveBoundary`. -/
def saveBoundary (boundary : StoredBoundary) (s : SqliteIncidentStore) : SqliteIncidentStore :=
  { s with
    boundaries := s.boundaries.update (fun row => row.boundaryId = boundary.boundaryId)
      fun row =>
        { row with
          state := boundary.state
          revision := boundary.revision
          failureIds := boundary.failureIds
          retiredAt := boundary.retiredAt
          retirementMode := boundary.retirement.map (·.mode)
          retirementReason := boundary.retirement.bind (·.reason)
          retirementOperationId := boundary.retirement.bind (·.operationId) } }

/-- The prior boundary, if any, is marked superseded. -/
def supersedePrior (time : String) (prior : Option StoredBoundary) (s : SqliteIncidentStore) :
    SqliteIncidentStore :=
  match prior with
  | none => s
  | some prior => s.saveBoundary (endBoundary supersession time prior)

/-- `#saveCircuit`. -/
def saveCircuit (circuit : CircuitState) (s : SqliteIncidentStore) :
    Except Refusal SqliteIncidentStore :=
  if !s.isKnownSource circuit.sourceId then .error (sourceNotClaimed circuit.sourceId)
  else .ok { s with circuits := Function.update s.circuits circuit.sourceId (some circuit) }

/-- `DELETE FROM operations WHERE seq IN`, skipped when nothing is to be pruned. -/
def pruneOperations (count : ℕ) (chosen : List (ℕ × StoredOperation)) (s : SqliteIncidentStore) :
    SqliteIncidentStore :=
  if 0 < count then
    { s with operations := s.operations.delete fun row => row.1 ∈ chosen.map Prod.fst }
  else s

def insertOperation (operation : StoredOperation) (s : SqliteIncidentStore) :
    Except Refusal SqliteIncidentStore :=
  if s.operations.contents.any fun row => row.operationId = operation.operationId then
    .error (constraintFailed "UNIQUE")
  else if operation.operationId.length = 0 ∨ 128 < operation.operationId.length then
    .error (constraintFailed "CHECK")
  else .ok { s with operations := s.operations.insert operation }

/-! ### Calls -/

section Calls

variable (limits : SqliteLimits) (conditions : SqliteConditions)

/-- `#write`: any error rolls everything back, so the caller keeps the store it had. -/
def write (fn : Except Refusal (StoreReply × SqliteIncidentStore)) :
    Except Refusal (StoreReply × SqliteIncidentStore) :=
  match conditions.fault with
  | some .full =>
      .error (storeFull ("The failure journal at " ++ limits.path ++ " reached its " ++
        toString limits.journalLimitBytes ++
        "-byte limit or the disk is full; nothing was evicted."))
  | some (.other message) => .error ⟨none, message, none, none, []⟩
  | none => fn

/-- `#admit`. -/
def admitWrite (action : String) : Except Refusal Unit :=
  match conditions.overLimit with
  | none => .ok ()
  | some live =>
      .error (storeFull ("The failure journal is full (" ++ toString live ++ " of " ++
        toString limits.journalLimitBytes ++ " bytes); refusing to " ++ action ++
        ". Nothing was evicted."))

/-- `validateSources`, given the source IDs seen so far. -/
def validateSources (seen : List String) : List SourceIdentity → Except Refusal Unit
  | [] => .ok ()
  | source :: rest =>
      if source.sourceId ∈ seen then
        .error (refuse .configInvalid "duplicate-source"
          ("Source " ++ source.sourceId ++ " is listed twice.") [])
      else validateSources (source.sourceId :: seen) rest

def kindText : SourceKind → String
  | .kafka => "kafka"
  | .fixture => "fixture"

/-- `claim` for one configured source, given what was stored when the claim began. -/
def claimSource (stored : List SourceIdentity) (now : String) (s : SqliteIncidentStore)
    (source : SourceIdentity) : Except Refusal SqliteIncidentStore :=
  match stored.find? fun row => row.sourceId = source.sourceId with
  | none => .ok { s with sources := s.sources.insert source }
  | some previous =>
      if previous.generation = source.generation ∧ previous.kind = source.kind then .ok s
      else if 0 < s.openCount source.sourceId then
        .error (refuse .sourceUnavailable "generation-changed-with-open-incidents"
          ("Source " ++ source.sourceId ++ " changed from generation " ++ previous.generation ++
            " (" ++ kindText previous.kind ++ ") to " ++ source.generation ++ " (" ++
            kindText source.kind ++ ") while " ++ toString (s.openCount source.sourceId) ++
            " incident(s) are open. Restore the previous generation, resolve its incidents first, or close them with \"streamotter sources rebaseline\" (gateway stopped).")
          [("sourceId", source.sourceId), ("storedGeneration", previous.generation),
            ("generation", source.generation),
            ("openIncidents", toString (s.openCount source.sourceId))])
      else
        let s := { s with sources :=
          s.sources.update (fun row => row.sourceId = source.sourceId) fun row =>
            { row with generation := source.generation, kind := source.kind } }
        match s.inForceBoundary source.sourceId with
        | some boundary =>
            if boundary.generation ≠ source.generation then
              .ok (s.saveBoundary (endBoundary
                (generationRetirement source.sourceId boundary.generation source.generation) now
                boundary))
            else .ok s
        | none => .ok s

def claimBody (projectId : String) (sources : List SourceIdentity) (now : String)
    (s : SqliteIncidentStore) : Except Refusal (StoreReply × SqliteIncidentStore) :=
  if s.projectId ≠ projectId then
    .error (refuse .sourceUnavailable "project-mismatch"
      ("The journal at " ++ limits.path ++ " belongs to project " ++ s.projectId ++ ", not " ++
        projectId ++ ".")
      [("journalProjectId", s.projectId)])
  else
    match s.sources.contents.find? fun row =>
      !sources.any (·.sourceId = row.sourceId) && 0 < s.openCount row.sourceId with
    | some removed =>
        .error (refuse .sourceUnavailable "source-removed-with-open-incidents"
          ("Source " ++ removed.sourceId ++ " has open incidents in the journal but is no longer configured. Restore it, or resolve its incidents first.")
          [("sourceId", removed.sourceId)])
    | none =>
        (sources.foldlM (claimSource s.sources.contents now) s).map fun s => (.claimed, s)

def claim (projectId : String) (sources : List SourceIdentity) (now : String)
    (s : SqliteIncidentStore) : Except Refusal (StoreReply × SqliteIncidentStore) := do
  validateSources [] sources
  write limits conditions (claimBody limits projectId sources now s)

def observe (observation : NewObservation) (s : SqliteIncidentStore) :
    Except Refusal (StoreReply × SqliteIncidentStore) :=
  write limits conditions do
    match s.get observation.failureId with
    | none =>
        if !s.isKnownSource observation.sourceId then
          .error (sourceNotClaimed observation.sourceId)
        else
          let record := newIncident observation
          admitWrite limits conditions "record a new incident"
          let s ← s.insertIncident record
          let s ← s.addEvent record.failureId
            (detectedEvent observation.observedAt (failureClassText record.failureClass))
          .ok (.observed ⟨record, true, false⟩, s)
    | some existing =>
        let (record, detail) := observedAgain observation existing
        admitWrite limits conditions "record another observation"
        let s ← (s.replace record).addEvent record.failureId
          (detectedEvent observation.observedAt detail)
        .ok (.observed ⟨record, false, evidenceConflicts observation existing⟩, s)

def update (failureId : String) (expectedRevision : ℕ) (patch : IncidentPatch)
    (event : IncidentEvent) (s : SqliteIncidentStore) :
    Except Refusal (StoreReply × SqliteIncidentStore) :=
  write limits conditions do
    match s.get failureId with
    | none => .error (unknownIncident failureId)
    | some existing =>
        if existing.revision ≠ expectedRevision then
          .error (staleRevision failureId expectedRevision existing.revision)
        else
          let record := patched patch event.time existing
          let s ← (s.replace record).addEvent failureId event
          .ok (.updated record, s)

def prepareAdvance (input : PrepareAdvance) (s : SqliteIncidentStore) :
    Except Refusal (StoreReply × SqliteIncidentStore) := do
  let context ← checkPrepareAdvance input
  write limits conditions do
    let existing := s.get input.failureId
    let prior := existing.bind fun record => s.inForceBoundary record.sourceId
    let record ← checkAdvanceState input existing prior
      (existing.bind fun record => s.generation record.sourceId)
      (s.getBoundary input.boundaryId).isSome
    let boundary := nextBoundary input record prior context
    let (advanced, event) := advancedIncident input record
    admitWrite limits conditions "record a recovery boundary"
    let s ← (supersedePrior input.time prior s).insertBoundary boundary context
    let s ← (s.replace advanced).addEvent record.failureId event
    let circuit := s.circuit record.sourceId
    let earlier := record.boundaryId.map fun boundaryId =>
      ((s.getBoundary boundaryId).map (·.createdAt)).getD ""
    let s ← s.saveCircuit (countedAdvance input.time earlier circuit)
    .ok (.prepared advanced boundary, s)

def retireBoundary (boundaryId : String) (expectedRevision : ℕ) (retirement : Retirement)
    (time : String) (s : SqliteIncidentStore) :
    Except Refusal (StoreReply × SqliteIncidentStore) :=
  write limits conditions do
    let boundary ← checkRetirement boundaryId (s.getBoundary boundaryId) expectedRevision
      retirement fun failureId => s.get failureId
    let retired := endBoundary retirement time boundary
    .ok (.retired retired, s.saveBoundary retired)

def updateCircuit (sourceId : String) (expectedRevision : ℕ) (next : CircuitUpdate)
    (s : SqliteIncidentStore) : Except Refusal (StoreReply × SqliteIncidentStore) :=
  write limits conditions do
    let current := s.circuit sourceId
    checkCircuitRevision sourceId expectedRevision current
    let updated := checkCircuit sourceId next (current.revision + 1)
    let s ← s.saveCircuit updated
    .ok (.circuit updated, s)

/-- SQLite's `BINARY` order of texts: that of their UTF-8 bytes, which is the order of their
code points. -/
def codePointLe (a b : String) : Bool :=
  !(b.toList.map Char.toNat).lex (a.toList.map Char.toNat) fun x y => x < y

def beginOperation (input : NewOperation) (s : SqliteIncidentStore) :
    Except Refusal (StoreReply × SqliteIncidentStore) := do
  let operation ← newOperation input
  write limits conditions do
    match s.getOperation operation.operationId with
    | some existing => .ok (.begun existing false, s)
    | none =>
        let finished := s.operations.select Journal.isFinished
        let prune ← operationsToPrune s.operations.rows.length finished.length limits.maxOperations
        let chosen :=
          (RowTable.orderBy (Journal.finishedBefore codePointLe) finished).take prune
        admitWrite limits conditions "record an operator operation"
        let s ← (pruneOperations prune chosen s).insertOperation operation
        .ok (.begun operation true, s)

def finishOperation (operationId : String) (state : FinishState)
    (result : Except String String) (time : String) (s : SqliteIncidentStore) :
    Except Refusal (StoreReply × SqliteIncidentStore) := do
  let canonical ← checkOperationResult result
  write limits conditions do
    let finished ← finishedOperation operationId (s.getOperation operationId) state canonical time
    .ok (.finished finished,
      { s with operations :=
          s.operations.update (fun row => row.operationId = operationId) fun row =>
            { row with
              state := state.toOperationState
              result := some canonical
              completedAt := some time } })

def abandonPendingOperations (time : String) (s : SqliteIncidentStore) :
    Except Refusal (StoreReply × SqliteIncidentStore) :=
  write limits conditions
    (.ok (.abandoned ((s.operations.select Journal.isPending).map fun row =>
        abandonedOperation time row.2),
      { s with operations :=
          s.operations.update Journal.isPending fun row =>
            { row with state := .unknown, result := none, completedAt := some time } }))

def call (s : SqliteIncidentStore) : StoreCall → Except Refusal (StoreReply × SqliteIncidentStore)
  | .claim projectId sources time => s.claim limits conditions projectId sources time
  | .observe observation => s.observe limits conditions observation
  | .update failureId expectedRevision patch event =>
      s.update limits conditions failureId expectedRevision patch event
  | .prepareAdvance input => s.prepareAdvance limits conditions input
  | .retireBoundary boundaryId expectedRevision retirement time =>
      s.retireBoundary limits conditions boundaryId expectedRevision retirement time
  | .updateCircuit sourceId expectedRevision next =>
      s.updateCircuit limits conditions sourceId expectedRevision next
  | .beginOperation input => s.beginOperation limits conditions input
  | .finishOperation operationId state result time =>
      s.finishOperation limits conditions operationId state result time
  | .abandonPendingOperations time => s.abandonPendingOperations limits conditions time

end Calls

end SqliteIncidentStore

end StreamOtter
