import StreamOtter.Journal

/-!
# The memory store

A translation of `MemoryIncidentStore` without its evidence.  A `Map` that the source only
looks up is a function, one whose order matters is an `InsertionMap`, and the in-force
boundary of each source is kept beside the boundaries, as in the source.
-/

namespace StreamOtter

structure MemoryIncidentStore where
  incidents : InsertionMap IncidentRecord.failureId
  events : String → Option (List IncidentEvent)
  order : List String
  boundaries : InsertionMap StoredBoundary.boundaryId
  /-- The in-force boundary ID of each source. -/
  inForce : String → Option String
  circuits : String → Option CircuitState
  /-- Generations from the last `claim`. -/
  generations : String → Option String
  operations : InsertionMap StoredOperation.operationId

structure MemoryLimits where
  maxIncidents : ℕ
  maxOperations : ℕ

namespace MemoryIncidentStore

open FailureStore

def initial : MemoryIncidentStore where
  incidents := .empty
  events := fun _ => none
  order := []
  boundaries := .empty
  inForce := fun _ => none
  circuits := fun _ => none
  generations := fun _ => none
  operations := .empty

def opened (sourceId : String) (s : MemoryIncidentStore) : List IncidentRecord :=
  (s.order.filterMap s.incidents.get).filter (Journal.isOpenOf sourceId)

def inForceBoundary (sourceId : String) (s : MemoryIncidentStore) : Option StoredBoundary :=
  (s.inForce sourceId).bind s.boundaries.get

def circuit (sourceId : String) (s : MemoryIncidentStore) : CircuitState :=
  (s.circuits sourceId).getD (defaultCircuit sourceId)

def eventsOf (failureId : String) (s : MemoryIncidentStore) : List IncidentEvent :=
  let list := (s.events failureId).getD []
  list.drop (list.length - maxEventsPerIncident)

def view (s : MemoryIncidentStore) : StoreView where
  get := s.incidents.get
  opened := fun sourceId => s.opened sourceId
  events := fun failureId => s.eventsOf failureId
  boundary := fun sourceId => s.inForceBoundary sourceId
  getBoundary := s.boundaries.get
  circuit := fun sourceId => s.circuit sourceId
  getOperation := s.operations.get

def addEvent (failureId : String) (event : IncidentEvent) (s : MemoryIncidentStore) :
    MemoryIncidentStore :=
  let list := (s.events failureId).getD [] ++ [event]
  let kept := if maxEventsPerIncident < list.length then
      list.drop (list.length - maxEventsPerIncident) else list
  { s with events := Function.update s.events failureId (some kept) }

/-- `claim` for one source. -/
def claimSource (time : String) (s : MemoryIncidentStore) (source : SourceIdentity) :
    MemoryIncidentStore :=
  let claimed := { s with
    generations := Function.update s.generations source.sourceId (some source.generation) }
  match claimed.inForceBoundary source.sourceId with
  | none => claimed
  | some boundary =>
      if boundary.generation = source.generation ∨ (claimed.opened source.sourceId).length > 0 then
        claimed
      else
        { claimed with
          boundaries := claimed.boundaries.set (endBoundary
            (generationRetirement source.sourceId boundary.generation source.generation) time
            boundary)
          inForce := Function.update claimed.inForce source.sourceId none }

def claim (sources : List SourceIdentity) (time : String) (s : MemoryIncidentStore) :
    MemoryIncidentStore :=
  sources.foldl (claimSource time) s

def observe (limits : MemoryLimits) (observation : NewObservation) (s : MemoryIncidentStore) :
    Except Refusal (StoreReply × MemoryIncidentStore) :=
  match s.incidents.get observation.failureId with
  | none =>
      if limits.maxIncidents ≤ s.incidents.values.length then
        .error (storeFull "The in-memory incident store is full.")
      else
        let record := newIncident observation
        .ok (.observed ⟨record, true, false⟩,
          { s with incidents := s.incidents.set record, order := s.order ++ [record.failureId] }
            |>.addEvent record.failureId (detectedEvent observation.observedAt
              (failureClassText record.failureClass)))
  | some existing =>
      let (record, detail) := observedAgain observation existing
      .ok (.observed ⟨record, false, evidenceConflicts observation existing⟩,
        { s with incidents := s.incidents.set record }.addEvent record.failureId
          (detectedEvent observation.observedAt detail))

def update (failureId : String) (expectedRevision : ℕ) (patch : IncidentPatch)
    (event : IncidentEvent) (s : MemoryIncidentStore) :
    Except Refusal (StoreReply × MemoryIncidentStore) :=
  match s.incidents.get failureId with
  | none => .error (unknownIncident failureId)
  | some existing =>
      if existing.revision ≠ expectedRevision then
        .error (staleRevision failureId expectedRevision existing.revision)
      else
        let record := patched patch event.time existing
        .ok (.updated record,
          { s with incidents := s.incidents.set record }.addEvent failureId event)

/-- Every check runs before the first change. -/
def prepareAdvance (input : PrepareAdvance) (s : MemoryIncidentStore) :
    Except Refusal (StoreReply × MemoryIncidentStore) := do
  let context ← checkPrepareAdvance input
  let existing := s.incidents.get input.failureId
  let prior := existing.bind fun record => s.inForceBoundary record.sourceId
  let record ← checkAdvanceState input existing prior
    (existing.bind fun record => s.generations record.sourceId)
    (s.boundaries.get input.boundaryId).isSome
  let boundary := nextBoundary input record prior context
  let (advanced, event) := advancedIncident input record
  let boundaries := (Journal.supersede input.time prior s.boundaries).set boundary
  let circuit := s.circuit record.sourceId
  let earlier := record.boundaryId.map fun boundaryId =>
    ((boundaries.get boundaryId).map (·.createdAt)).getD ""
  .ok (.prepared advanced boundary,
    { s with
      boundaries := boundaries
      inForce := Function.update s.inForce boundary.sourceId (some boundary.boundaryId)
      incidents := s.incidents.set advanced
      circuits := Function.update s.circuits record.sourceId
        (some (countedAdvance input.time earlier circuit)) }.addEvent record.failureId event)

def retireBoundary (boundaryId : String) (expectedRevision : ℕ) (retirement : Retirement)
    (time : String) (s : MemoryIncidentStore) :
    Except Refusal (StoreReply × MemoryIncidentStore) := do
  let boundary ← checkRetirement boundaryId (s.boundaries.get boundaryId) expectedRevision
    retirement s.incidents.get
  let retired := endBoundary retirement time boundary
  .ok (.retired retired,
    { s with
      boundaries := s.boundaries.set retired
      inForce := Function.update s.inForce boundary.sourceId none })

def updateCircuit (sourceId : String) (expectedRevision : ℕ) (next : CircuitUpdate)
    (s : MemoryIncidentStore) : Except Refusal (StoreReply × MemoryIncidentStore) := do
  let current := s.circuit sourceId
  checkCircuitRevision sourceId expectedRevision current
  let updated := checkCircuit sourceId next (current.revision + 1)
  .ok (.circuit updated,
    { s with circuits := Function.update s.circuits sourceId (some updated) })

/-- UTF-16 code units, as JavaScript compares texts. -/
def codeUnits (text : String) : List ℕ :=
  text.toList.flatMap fun c =>
    if c.val < 0x10000 then [c.toNat]
    else [0xd800 + (c.toNat - 0x10000) / 0x400, 0xdc00 + (c.toNat - 0x10000) % 0x400]

/-- `compareText`: code-unit order. -/
def codeUnitLe (a b : String) : Bool :=
  !(codeUnits b).lex (codeUnits a) fun x y => x < y

def beginOperation (limits : MemoryLimits) (input : NewOperation) (s : MemoryIncidentStore) :
    Except Refusal (StoreReply × MemoryIncidentStore) := do
  let operation ← newOperation input
  match s.operations.get operation.operationId with
  | some existing => .ok (.begun existing false, s)
  | none =>
      let finished := (s.operations.values.filter Journal.isFinished).mergeSort
        (Journal.finishedBefore codeUnitLe)
      let prune ← operationsToPrune s.operations.values.length finished.length limits.maxOperations
      let dropped := (finished.take prune).map (·.operationId)
      .ok (.begun operation true,
        { s with operations :=
            (s.operations.filter fun item => item.operationId ∉ dropped).set operation })

def finishOperation (operationId : String) (state : FinishState)
    (result : Except String String) (time : String) (s : MemoryIncidentStore) :
    Except Refusal (StoreReply × MemoryIncidentStore) := do
  let canonical ← checkOperationResult result
  let finished ← finishedOperation operationId (s.operations.get operationId) state canonical time
  .ok (.finished finished, { s with operations := s.operations.set finished })

def abandonPendingOperations (time : String) (s : MemoryIncidentStore) :
    StoreReply × MemoryIncidentStore :=
  let abandoned := (s.operations.values.filter Journal.isPending).map (abandonedOperation time)
  (.abandoned abandoned,
    { s with operations :=
        abandoned.foldl (fun operations operation => operations.set operation) s.operations })

def call (limits : MemoryLimits) (s : MemoryIncidentStore) :
    StoreCall → Except Refusal (StoreReply × MemoryIncidentStore)
  | .claim _ sources time => .ok (.claimed, s.claim sources time)
  | .observe observation => s.observe limits observation
  | .update failureId expectedRevision patch event =>
      s.update failureId expectedRevision patch event
  | .prepareAdvance input => s.prepareAdvance input
  | .retireBoundary boundaryId expectedRevision retirement time =>
      s.retireBoundary boundaryId expectedRevision retirement time
  | .updateCircuit sourceId expectedRevision next => s.updateCircuit sourceId expectedRevision next
  | .beginOperation input => s.beginOperation limits input
  | .finishOperation operationId state result time =>
      s.finishOperation operationId state result time
  | .abandonPendingOperations time => .ok (s.abandonPendingOperations time)

end MemoryIncidentStore

end StreamOtter
