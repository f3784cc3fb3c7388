import StreamOtter.FailureStore
import StreamOtter.InsertionMap
import Mathlib.Logic.Function.Basic

/-!
# The incident store, abstractly

The calls of the `IncidentStore` interface and a store that says what they mean: incidents,
boundaries and operations in the order in which they were first stored, the newest events of
each incident, one circuit and one claimed generation for each source.  Both stores of the
source refine it.  It never runs out of room, so what it refuses is what the interface says.
-/

namespace StreamOtter

/-- The calls that change a store, with every time given. -/
inductive StoreCall
  | claim (projectId : String) (sources : List SourceIdentity) (time : String)
  | observe (observation : NewObservation)
  | update (failureId : String) (expectedRevision : ℕ) (patch : IncidentPatch)
      (event : IncidentEvent)
  | prepareAdvance (input : PrepareAdvance)
  | retireBoundary (boundaryId : String) (expectedRevision : ℕ) (retirement : Retirement)
      (time : String)
  | updateCircuit (sourceId : String) (expectedRevision : ℕ) (next : CircuitUpdate)
  | beginOperation (input : NewOperation)
  | finishOperation (operationId : String) (state : FailureStore.FinishState)
      (result : Except String String) (time : String)
  | abandonPendingOperations (time : String)

inductive StoreReply
  | claimed
  | observed (result : ObservationResult)
  | updated (record : IncidentRecord)
  | prepared (record : IncidentRecord) (boundary : StoredBoundary)
  | retired (boundary : StoredBoundary)
  | circuit (circuit : CircuitState)
  | begun (operation : StoredOperation) (created : Bool)
  | finished (operation : StoredOperation)
  | abandoned (operations : List StoredOperation)
  deriving DecidableEq, Repr

/-- What the queries of a store answer. -/
structure StoreView where
  get : String → Option IncidentRecord
  opened : String → List IncidentRecord
  events : String → List IncidentEvent
  boundary : String → Option StoredBoundary
  getBoundary : String → Option StoredBoundary
  circuit : String → CircuitState
  getOperation : String → Option StoredOperation

structure Journal where
  generations : String → Option String
  incidents : InsertionMap IncidentRecord.failureId
  events : String → List IncidentEvent
  boundaries : InsertionMap StoredBoundary.boundaryId
  circuits : String → CircuitState
  operations : InsertionMap StoredOperation.operationId

namespace Journal

open FailureStore

def initial : Journal where
  generations := fun _ => none
  incidents := .empty
  events := fun _ => []
  boundaries := .empty
  circuits := defaultCircuit
  operations := .empty

def isOpenOf (sourceId : String) (record : IncidentRecord) : Bool :=
  record.sourceId = sourceId && record.state = .opened

def isInForceOf (sourceId : String) (boundary : StoredBoundary) : Bool :=
  boundary.sourceId = sourceId && boundary.state = .inForce

def opened (sourceId : String) (j : Journal) : List IncidentRecord :=
  j.incidents.values.filter (isOpenOf sourceId)

def boundary (sourceId : String) (j : Journal) : Option StoredBoundary :=
  j.boundaries.values.find? (isInForceOf sourceId)

def view (j : Journal) : StoreView where
  get := j.incidents.get
  opened := fun sourceId => j.opened sourceId
  events := j.events
  boundary := fun sourceId => j.boundary sourceId
  getBoundary := j.boundaries.get
  circuit := j.circuits
  getOperation := j.operations.get

def addEvent (failureId : String) (event : IncidentEvent) (j : Journal) : Journal :=
  { j with events :=
      Function.update j.events failureId (capEvents (j.events failureId ++ [event])) }

/-- Stores an incident with the event that the change adds to its history. -/
def record (record : IncidentRecord) (event : IncidentEvent) (j : Journal) : Journal :=
  { j with incidents := j.incidents.set record }.addEvent record.failureId event

def observe (observation : NewObservation) (j : Journal) : StoreReply × Journal :=
  match j.incidents.get observation.failureId with
  | none =>
      (.observed ⟨newIncident observation, true, false⟩,
        j.record (newIncident observation)
          (detectedEvent observation.observedAt (failureClassText observation.failureClass)))
  | some existing =>
      (.observed ⟨(observedAgain observation existing).1, false,
          evidenceConflicts observation existing⟩,
        j.record (observedAgain observation existing).1
          (detectedEvent observation.observedAt (observedAgain observation existing).2))

def update (failureId : String) (expectedRevision : ℕ) (patch : IncidentPatch)
    (event : IncidentEvent) (j : Journal) : Except Refusal (StoreReply × Journal) :=
  match j.incidents.get failureId with
  | none => .error (unknownIncident failureId)
  | some existing =>
      if existing.revision ≠ expectedRevision then
        .error (staleRevision failureId expectedRevision existing.revision)
      else
        .ok (.updated (patched patch event.time existing),
          j.record (patched patch event.time existing) event)

/-- The boundary in force of an incident's source. -/
def priorOf (failureId : String) (j : Journal) : Option StoredBoundary :=
  (j.incidents.get failureId).bind fun record => j.boundary record.sourceId

/-- The prior boundary, if any, is marked superseded. -/
def supersede (time : String) (prior : Option StoredBoundary)
    (boundaries : InsertionMap StoredBoundary.boundaryId) :
    InsertionMap StoredBoundary.boundaryId :=
  match prior with
  | none => boundaries
  | some prior => boundaries.set (endBoundary supersession time prior)

/-- Installs a boundary in the place of the prior one. -/
def install (time : String) (prior : Option StoredBoundary) (boundary : StoredBoundary)
    (boundaries : InsertionMap StoredBoundary.boundaryId) :
    InsertionMap StoredBoundary.boundaryId :=
  (supersede time prior boundaries).set boundary

/-- The creation time of the boundary an incident names. -/
def earlierAdvance (boundaries : InsertionMap StoredBoundary.boundaryId)
    (record : IncidentRecord) : Option String :=
  record.boundaryId.map fun boundaryId =>
    ((boundaries.get boundaryId).map (·.createdAt)).getD ""

def prepareAdvance (input : PrepareAdvance) (j : Journal) :
    Except Refusal (StoreReply × Journal) := do
  let context ← checkPrepareAdvance input
  let record ← checkAdvanceState input (j.incidents.get input.failureId)
    (j.priorOf input.failureId)
    ((j.incidents.get input.failureId).bind fun record => j.generations record.sourceId)
    (j.boundaries.get input.boundaryId).isSome
  let boundary := nextBoundary input record (j.priorOf input.failureId) context
  let (advanced, event) := advancedIncident input record
  let boundaries := install input.time (j.priorOf input.failureId) boundary j.boundaries
  .ok (.prepared advanced boundary,
    { j.record advanced event with
      boundaries := boundaries
      circuits := Function.update j.circuits record.sourceId
        (countedAdvance input.time (earlierAdvance boundaries record)
          (j.circuits record.sourceId)) })

def retireBoundary (boundaryId : String) (expectedRevision : ℕ) (retirement : Retirement)
    (time : String) (j : Journal) : Except Refusal (StoreReply × Journal) := do
  let boundary ← checkRetirement boundaryId (j.boundaries.get boundaryId) expectedRevision
    retirement j.incidents.get
  .ok (.retired (endBoundary retirement time boundary),
    { j with boundaries := j.boundaries.set (endBoundary retirement time boundary) })

def updateCircuit (sourceId : String) (expectedRevision : ℕ) (next : CircuitUpdate)
    (j : Journal) : Except Refusal (StoreReply × Journal) := do
  checkCircuitRevision sourceId expectedRevision (j.circuits sourceId)
  let updated := checkCircuit sourceId next ((j.circuits sourceId).revision + 1)
  .ok (.circuit updated, { j with circuits := Function.update j.circuits sourceId updated })

def isFinished (operation : StoredOperation) : Bool := operation.state ≠ .pending

/-- `compareFinished` in an order of texts: the completion time, then the start time. -/
def finishedBefore (le : String → String → Bool) (a b : StoredOperation) : Bool :=
  let completedA := a.completedAt.getD ""
  let completedB := b.completedAt.getD ""
  if le completedA completedB then !le completedB completedA || le a.startedAt b.startedAt
  else false

/-- The finished operations that make room for one more. -/
def pruned (le : String → String → Bool) (count : ℕ) (operations : List StoredOperation) :
    List StoredOperation :=
  ((operations.filter isFinished).mergeSort (finishedBefore le)).take count

def beginOperation (le : String → String → Bool) (limit : ℕ) (input : NewOperation)
    (j : Journal) : Except Refusal (StoreReply × Journal) := do
  let operation ← newOperation input
  match j.operations.get operation.operationId with
  | some existing => .ok (.begun existing false, j)
  | none =>
      let count ← operationsToPrune j.operations.values.length
        (j.operations.values.filter isFinished).length limit
      let dropped := (pruned le count j.operations.values).map (·.operationId)
      .ok (.begun operation true,
        { j with operations :=
            (j.operations.filter fun item => item.operationId ∉ dropped).set operation })

def finishOperation (operationId : String) (state : FinishState)
    (result : Except String String) (time : String) (j : Journal) :
    Except Refusal (StoreReply × Journal) := do
  let canonical ← checkOperationResult result
  let finished ← finishedOperation operationId (j.operations.get operationId) state canonical time
  .ok (.finished finished, { j with operations := j.operations.set finished })

def isPending (operation : StoredOperation) : Bool := operation.state = .pending

def abandonPendingOperations (time : String) (j : Journal) : StoreReply × Journal :=
  let abandoned := (j.operations.values.filter isPending).map (abandonedOperation time)
  (.abandoned abandoned,
    { j with operations :=
        abandoned.foldl (fun operations operation => operations.set operation) j.operations })

/-- The claim of one source: a changed generation with nothing open retires the boundary in
force. -/
def claimSource (time : String) (j : Journal) (source : SourceIdentity) : Journal :=
  let claimed := { j with
    generations := Function.update j.generations source.sourceId (some source.generation) }
  match j.boundary source.sourceId with
  | none => claimed
  | some boundary =>
      if boundary.generation = source.generation ∨ j.opened source.sourceId ≠ [] then claimed
      else
        { claimed with boundaries := j.boundaries.set (endBoundary
            (generationRetirement source.sourceId boundary.generation source.generation) time
            boundary) }

def claim (time : String) (sources : List SourceIdentity) (j : Journal) : Journal :=
  sources.foldl (claimSource time) j

def call (le : String → String → Bool) (limit : ℕ) (j : Journal) :
    StoreCall → Except Refusal (StoreReply × Journal)
  | .claim _ sources time => .ok (.claimed, j.claim time sources)
  | .observe observation => .ok (j.observe observation)
  | .update failureId expectedRevision patch event =>
      j.update failureId expectedRevision patch event
  | .prepareAdvance input => j.prepareAdvance input
  | .retireBoundary boundaryId expectedRevision retirement time =>
      j.retireBoundary boundaryId expectedRevision retirement time
  | .updateCircuit sourceId expectedRevision next => j.updateCircuit sourceId expectedRevision next
  | .beginOperation input => j.beginOperation le limit input
  | .finishOperation operationId state result time =>
      j.finishOperation operationId state result time
  | .abandonPendingOperations time => .ok (j.abandonPendingOperations time)

end Journal

/-- How a store's answer to a call relates to the abstract answer; `exceeded` says that the
call met a limit the abstract store does not have. -/
inductive Agrees {σ : Type} (represents : σ → Journal → Prop) (exceeded : Prop) :
    Except Refusal (StoreReply × σ) → Except Refusal (StoreReply × Journal) → Prop
  | done {reply : StoreReply} {s : σ} {j : Journal} (h : represents s j) :
      Agrees represents exceeded (.ok (reply, s)) (.ok (reply, j))
  | refused (refusal : Refusal) : Agrees represents exceeded (.error refusal) (.error refusal)
  | full {refusal : Refusal} {answer : Except Refusal (StoreReply × Journal)}
      (h : exceeded) : Agrees represents exceeded (.error refusal) answer

/-- The states a store reaches. A refused call changes nothing. -/
inductive Reached {σ : Type} (answers : σ → StoreCall → Except Refusal (StoreReply × σ) → Prop)
    (initial : σ) : σ → Prop
  | start : Reached answers initial initial
  | accepted {s s' : σ} {c : StoreCall} {reply : StoreReply} (h : Reached answers initial s)
      (hanswer : answers s c (.ok (reply, s'))) : Reached answers initial s'

theorem Agrees.bind
    {σ α : Type} {represents : σ → Journal → Prop} {exceeded : Prop} (checked : Except Refusal α)
    {f : α → Except Refusal (StoreReply × σ)} {f' : α → Except Refusal (StoreReply × Journal)}
    (h : ∀ a, checked = .ok a → Agrees represents exceeded (f a) (f' a)) :
    Agrees represents exceeded (checked >>= f) (checked >>= f') := by
  cases checked with
  | error refusal => exact .refused refusal
  | ok a => exact h a rfl

end StreamOtter
