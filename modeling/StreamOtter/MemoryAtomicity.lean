import StreamOtter.Evidence
import StreamOtter.IncidentPaging

/-!
# The memory store, statement by statement

The methods of the memory store as the source runs them: one change of a map after another,
where a method that throws leaves the maps as they are at that statement.  Every method that
throws does so before its first change, so a method is the call that the transactional model
describes.
-/

namespace StreamOtter

open FailureStore

theorem put_put
    {κ ν : Type*} [DecidableEq κ] {key : ν → κ} {v w : ν} (h : key v = key w) (values : List ν) :
    put key w (put key v values) = put key w values := by
  induction values with
  | nil => simp [put, h]
  | cons u rest ih =>
      by_cases hu : key u = key v
      · simp [put, hu, h]
      · have hu' : key u ≠ key w := h ▸ hu
        simp [put, hu, hu', ih]

theorem InsertionMap.set_set
    {κ ν : Type*} [DecidableEq κ] {key : ν → κ} {v w : ν} (h : key v = key w)
    (m : InsertionMap key) : (m.set v).set w = m.set w :=
  InsertionMap.ext (put_put h m.values)

/-- A method over some maps; one that throws keeps what it changed before. -/
abbrev Method (σ α : Type) := EStateM Refusal σ α

/-- A check that throws what it refuses. -/
def checked {σ α : Type} : Except Refusal α → Method σ α
  | .ok a => pure a
  | .error refusal => throw refusal

namespace MemoryMethods

abbrev StoreMethod := Method MemoryIncidentStore

def setIncident (record : IncidentRecord) : StoreMethod Unit :=
  modify fun s => { s with incidents := s.incidents.set record }

def addEvent (failureId : String) (event : IncidentEvent) : StoreMethod Unit :=
  modify (MemoryIncidentStore.addEvent failureId event)

def setBoundary (boundary : StoredBoundary) : StoreMethod Unit :=
  modify fun s => { s with boundaries := s.boundaries.set boundary }

def setInForce (sourceId : String) (boundaryId : Option String) : StoreMethod Unit :=
  modify fun s => { s with inForce := Function.update s.inForce sourceId boundaryId }

def setCircuit (sourceId : String) (circuit : CircuitState) : StoreMethod Unit :=
  modify fun s => { s with circuits := Function.update s.circuits sourceId (some circuit) }

def setOperation (operation : StoredOperation) : StoreMethod Unit :=
  modify fun s => { s with operations := s.operations.set operation }

def deleteOperation (operationId : String) : StoreMethod Unit :=
  modify fun s => { s with operations := s.operations.filter fun item =>
    item.operationId ≠ operationId }

/-- The body of the loop of `claim`. -/
def claimSource (time : String) (source : SourceIdentity) : StoreMethod Unit := do
  modify fun s => { s with
    generations := Function.update s.generations source.sourceId (some source.generation) }
  match (← get).inForceBoundary source.sourceId with
  | none => pure ()
  | some boundary =>
      if boundary.generation = source.generation ∨
          ((← get).opened source.sourceId).length > 0 then
        pure ()
      else
        setBoundary (endBoundary
          (generationRetirement source.sourceId boundary.generation source.generation) time
          boundary)
        setInForce source.sourceId none

def claim (sources : List SourceIdentity) (time : String) : StoreMethod StoreReply := do
  sources.forM (claimSource time)
  return .claimed

/-- The fields of a stored incident are assigned in place. -/
def observe (limits : MemoryLimits) (observation : NewObservation) : StoreMethod StoreReply := do
  match (← get).incidents.get observation.failureId with
  | none =>
      if limits.maxIncidents ≤ (← get).incidents.values.length then
        throw (storeFull "The in-memory incident store is full.")
      else
        let record := newIncident observation
        setIncident record
        modify fun s => { s with order := s.order ++ [record.failureId] }
        addEvent record.failureId (detectedEvent observation.observedAt
          (failureClassText record.failureClass))
        return .observed ⟨record, true, false⟩
  | some existing =>
      let conflict := evidenceConflicts observation existing
      let counted := { existing with
        revision := existing.revision + 1
        lastObservedAt := observation.observedAt
        observations := existing.observations + 1
        updatedAt := observation.observedAt }
      setIncident counted
      setIncident (reopened counted)
      let policy := if conflict then (reopened counted, "")
        else applyPolicy observation.policy (reopened counted)
      setIncident policy.1
      let observed := if conflict then policy.1 else
        { policy.1 with
          failureClass := observation.failureClass
          stage := observation.stage
          errorCode := observation.errorCode
          channel := observation.channel
          diagnosis := observation.diagnosis }
      setIncident observed
      addEvent existing.failureId (detectedEvent observation.observedAt
        (if conflict then "evidence-conflict"
          else failureClassText observation.failureClass ++ policy.2))
      return .observed ⟨observed, false, conflict⟩

def update (failureId : String) (expectedRevision : ℕ) (patch : IncidentPatch)
    (event : IncidentEvent) : StoreMethod StoreReply := do
  match (← get).incidents.get failureId with
  | none => throw (unknownIncident failureId)
  | some existing =>
      if existing.revision ≠ expectedRevision then
        throw (staleRevision failureId expectedRevision existing.revision)
      else
        setIncident (patched patch event.time existing)
        addEvent failureId event
        return .updated (patched patch event.time existing)

def prepareAdvance (input : PrepareAdvance) : StoreMethod StoreReply := do
  let context ← checked (checkPrepareAdvance input)
  let existing := (← get).incidents.get input.failureId
  let s ← get
  let prior := existing.bind fun record => s.inForceBoundary record.sourceId
  let record ← checked (checkAdvanceState input existing prior
    (existing.bind fun record => s.generations record.sourceId)
    (s.boundaries.get input.boundaryId).isSome)
  let boundary := nextBoundary input record prior context
  let advanced := advancedIncident input record
  match prior with
  | none => pure ()
  | some prior => setBoundary (endBoundary supersession input.time prior)
  setBoundary boundary
  setInForce boundary.sourceId (some boundary.boundaryId)
  setIncident advanced.1
  addEvent record.failureId advanced.2
  let circuit := (← get).circuit record.sourceId
  let s ← get
  let earlier := record.boundaryId.map fun boundaryId =>
    ((s.boundaries.get boundaryId).map (·.createdAt)).getD ""
  setCircuit record.sourceId (countedAdvance input.time earlier circuit)
  return .prepared advanced.1 boundary

def retireBoundary (boundaryId : String) (expectedRevision : ℕ) (retirement : Retirement)
    (time : String) : StoreMethod StoreReply := do
  let s ← get
  let boundary ← checked (checkRetirement boundaryId (s.boundaries.get boundaryId)
    expectedRevision retirement s.incidents.get)
  let retired := endBoundary retirement time boundary
  setBoundary retired
  setInForce boundary.sourceId none
  return .retired retired

def updateCircuit (sourceId : String) (expectedRevision : ℕ) (next : CircuitUpdate) :
    StoreMethod StoreReply := do
  let current := (← get).circuit sourceId
  checked (checkCircuitRevision sourceId expectedRevision current)
  let updated := checkCircuit sourceId next (current.revision + 1)
  setCircuit sourceId updated
  return .circuit updated

def beginOperation (limits : MemoryLimits) (input : NewOperation) : StoreMethod StoreReply := do
  let operation ← checked (newOperation input)
  match (← get).operations.get operation.operationId with
  | some existing => return .begun existing false
  | none =>
      let s ← get
      let finished := (s.operations.values.filter Journal.isFinished).mergeSort
        (Journal.finishedBefore MemoryIncidentStore.codeUnitLe)
      let prune ← checked (operationsToPrune s.operations.values.length finished.length
        limits.maxOperations)
      (finished.take prune).forM fun item => deleteOperation item.operationId
      setOperation operation
      return .begun operation true

def finishOperation (operationId : String) (state : FinishState)
    (result : Except String String) (time : String) : StoreMethod StoreReply := do
  let canonical ← checked (checkOperationResult result)
  let finished ← checked (finishedOperation operationId ((← get).operations.get operationId)
    state canonical time)
  setOperation finished
  return .finished finished

def abandonPendingOperations (time : String) : StoreMethod StoreReply := do
  let s ← get
  let abandoned := (s.operations.values.filter Journal.isPending).map (abandonedOperation time)
  abandoned.forM setOperation
  return .abandoned abandoned

def call (limits : MemoryLimits) : StoreCall → StoreMethod StoreReply
  | .claim _ sources time => claim sources time
  | .observe observation => observe limits observation
  | .update failureId expectedRevision patch event =>
      update failureId expectedRevision patch event
  | .prepareAdvance input => prepareAdvance input
  | .retireBoundary boundaryId expectedRevision retirement time =>
      retireBoundary boundaryId expectedRevision retirement time
  | .updateCircuit sourceId expectedRevision next => updateCircuit sourceId expectedRevision next
  | .beginOperation input => beginOperation limits input
  | .finishOperation operationId state result time =>
      finishOperation operationId state result time
  | .abandonPendingOperations time => abandonPendingOperations time

end MemoryMethods

/-! ### The evidence -/

open ByteCodec

/-- The maps of the memory store with its evidence and when each copy was stored. -/
structure MemoryMaps where
  store : MemoryIncidentStore
  evidence : InsertionMap (Prod.fst : String × RawEvidence → String)
  evidenceStoredAt : InsertionMap (Prod.fst : String × String → String)

structure SpoolLimits extends MemoryLimits where
  spoolLimitBytes : ℕ

def evidenceBytes (evidence : RawEvidence) : ℕ :=
  (evidence.key.map (·.length)).getD 0 + (evidence.value.map (·.length)).getD 0 +
    (evidence.headers.map fun header => (utf8 header.name).length + header.value.length).sum

namespace MemoryMaps

def initial : MemoryMaps where
  store := .initial
  evidence := .empty
  evidenceStoredAt := .empty

def putEvidence (limits : SpoolLimits) (failureId : String) (evidence : RawEvidence)
    (time : String) : Method MemoryMaps Unit := do
  let m ← get
  let replaced := m.evidence.get failureId
  let used := (m.evidence.values.map fun item => evidenceBytes item.2).sum -
    (replaced.map fun item => evidenceBytes item.2).getD 0
  if limits.spoolLimitBytes < used + evidenceBytes evidence then
    throw (storeFull "The raw evidence spool is full.")
  else
    modify fun m => { m with evidence := m.evidence.set (failureId, evidence) }
    modify fun m => { m with evidenceStoredAt := m.evidenceStoredAt.set (failureId, time) }

def deleteEvidence (failureId : String) : Method MemoryMaps Unit := do
  modify fun m => { m with evidence := m.evidence.filter fun item => item.1 ≠ failureId }
  modify fun m => { m with
    evidenceStoredAt := m.evidenceStoredAt.filter fun item => item.1 ≠ failureId }

/-- The count is of the entries stored before the time, in code-unit order. -/
def pruneEvidence (storedBefore : String) : Method MemoryMaps ℕ := do
  let stored := (← get).evidenceStoredAt.values.filter fun item =>
    !MemoryIncidentStore.codeUnitLe storedBefore item.2
  stored.forM fun item => deleteEvidence item.1
  return stored.length

/-- A method of the store without its evidence, which it does not touch. -/
def onStore {α : Type} (method : Method MemoryIncidentStore α) : Method MemoryMaps α := fun m =>
  match method m.store with
  | .ok a s => .ok a { m with store := s }
  | .error refusal s => .error refusal { m with store := s }

end MemoryMaps

/-- The calls of the memory store. -/
inductive MemoryCall
  | store (c : StoreCall)
  | putEvidence (failureId : String) (evidence : RawEvidence) (time : String)
  | deleteEvidence (failureId : String)
  | pruneEvidence (storedBefore : String)
  | list (query : IncidentQuery)

inductive MemoryReply
  | store (reply : StoreReply)
  | stored
  | deleted
  | pruned (count : ℕ)
  | listed (page : IncidentPage)

namespace MemoryCall

def raises : MemoryCall → Option String
  | .store c => c.raises
  | _ => none

def expects : MemoryCall → Option (String × ℕ)
  | .store c => c.expects
  | _ => none

end MemoryCall

namespace MemoryMaps

def perform (limits : SpoolLimits) : MemoryCall → Method MemoryMaps MemoryReply
  | .store c => do return .store (← onStore (MemoryMethods.call limits.toMemoryLimits c))
  | .putEvidence failureId evidence time => do
      putEvidence limits failureId evidence time
      return .stored
  | .deleteEvidence failureId => do
      deleteEvidence failureId
      return .deleted
  | .pruneEvidence storedBefore => do return .pruned (← pruneEvidence storedBefore)
  | .list query => do return .listed (← checked ((← get).store.list query))

end MemoryMaps

/-! ### The methods are the transactional calls -/

section Runs

variable {σ α β : Type}

@[simp] theorem run_get (f : σ → Method σ α) (s : σ) : (get >>= f) s = f s s := rfl

@[simp] theorem run_modify (g : σ → σ) (f : PUnit → Method σ α) (s : σ) :
    (modify g >>= f) s = f ⟨⟩ (g s) := rfl

@[simp] theorem run_pure (a : α) (s : σ) : (pure a : Method σ α) s = .ok a s := rfl

@[simp] theorem run_throw (refusal : Refusal) (s : σ) :
    (throw refusal : Method σ α) s = .error refusal s := rfl

@[simp] theorem run_checked_ok (b : β) (f : β → Method σ α) (s : σ) :
    (checked (.ok b) >>= f) s = f b s := rfl

@[simp] theorem run_checked_error (refusal : Refusal) (f : β → Method σ α) (s : σ) :
    (checked (.error refusal) >>= f) s = .error refusal s := rfl

/-- A loop whose body never throws. -/
theorem run_forM
    {f : β → Method σ PUnit} {g : σ → β → σ} (h : ∀ b s, f b s = .ok ⟨⟩ (g s b)) (l : List β)
    (next : PUnit → Method σ α) (s : σ) :
    (l.forM f >>= next) s = next ⟨⟩ (l.foldl g s) := by
  induction l generalizing s with
  | nil => rfl
  | cons b rest ih =>
      have hstep : ((b :: rest).forM f >>= next) s =
          EStateM.bind (f b) (fun _ => rest.forM f >>= next) s := by
        show EStateM.bind (EStateM.bind (f b) fun _ => rest.forM f) next s = _
        unfold EStateM.bind
        cases f b s <;> rfl
      rw [hstep, EStateM.bind, h b s]
      exact ih (g s b)

/-- What a method does that throws before its first change, if at all. -/
def outcome (s : σ) : Except Refusal (α × σ) → EStateM.Result Refusal σ α
  | .ok (a, s') => .ok a s'
  | .error refusal => .error refusal s

end Runs

namespace MemoryMethods

variable {s : MemoryIncidentStore} {limits : MemoryLimits}

theorem claimSource_eq (time : String) (source : SourceIdentity) (s : MemoryIncidentStore) :
    claimSource time source s = .ok ⟨⟩ (MemoryIncidentStore.claimSource time s source) := by
  unfold claimSource MemoryIncidentStore.claimSource
  dsimp only
  rw [run_modify, run_get]
  generalize hclaimed : { s with
    generations := Function.update s.generations source.sourceId (some source.generation) } =
      claimed
  cases claimed.inForceBoundary source.sourceId with
  | none => rfl
  | some boundary =>
      dsimp only
      rw [run_get]
      subst hclaimed
      split <;> rfl

theorem claim_eq (sources : List SourceIdentity) (time : String) :
    claim sources time s = .ok .claimed (s.claim sources time) := by
  unfold claim
  rw [run_forM (claimSource_eq time)]
  rfl

theorem reopened_failureId (record : IncidentRecord) :
    (reopened record).failureId = record.failureId := by
  unfold reopened
  split <;> rfl

theorem applyPolicy_failureId (policy : FailurePolicy) (record : IncidentRecord) :
    (applyPolicy policy record).1.failureId = record.failureId := by
  unfold applyPolicy
  dsimp only
  repeat' split
  all_goals rfl

theorem observe_eq (observation : NewObservation) :
    observe limits observation s = outcome s (s.observe limits observation) := by
  unfold observe MemoryIncidentStore.observe
  rw [run_get]
  cases hfound : s.incidents.get observation.failureId with
  | none =>
      dsimp only
      rw [run_get]
      by_cases hfull : limits.maxIncidents ≤ s.incidents.values.length
      · rw [if_pos hfull, if_pos hfull]
        rfl
      · rw [if_neg hfull, if_neg hfull]
        rfl
  | some existing =>
      dsimp only
      unfold setIncident addEvent
      rw [run_modify, run_modify, run_modify, run_modify, run_modify, run_pure]
      dsimp only
      unfold observedAgain
      dsimp only
      generalize hcounted : ({ existing with
          revision := existing.revision + 1
          lastObservedAt := observation.observedAt
          observations := existing.observations + 1
          updatedAt := observation.observedAt } : IncidentRecord) = counted
      have hid : existing.failureId = counted.failureId := by rw [← hcounted]
      have hreopened := reopened_failureId counted
      rw [hid, InsertionMap.set_set hreopened.symm]
      cases hconflict : evidenceConflicts observation existing with
      | true =>
          simp only [if_true]
          rw [InsertionMap.set_set rfl, InsertionMap.set_set rfl, ← hreopened]
          rfl
      | false =>
          have hpolicy := applyPolicy_failureId observation.policy (reopened counted)
          have hassigned : ∀ observed : IncidentRecord,
              (applyPolicy observation.policy (reopened counted)).1.failureId =
                observed.failureId →
              (s.incidents.set (applyPolicy observation.policy (reopened counted)).1).set
                observed = s.incidents.set observed := fun _ h => InsertionMap.set_set h _
          simp only [Bool.false_eq_true, if_false]
          rw [InsertionMap.set_set hpolicy.symm, hassigned, ← hreopened, ← hpolicy]
          · rfl
          · rfl

theorem prepareAdvance_eq (input : PrepareAdvance) :
    prepareAdvance input s = outcome s (s.prepareAdvance input) := by
  unfold prepareAdvance MemoryIncidentStore.prepareAdvance
  cases hchecked : checkPrepareAdvance input with
  | error refusal => rfl
  | ok context =>
      rw [run_checked_ok, ok_bind, run_get, run_get]
      dsimp only
      cases hstate : checkAdvanceState input (s.incidents.get input.failureId)
        ((s.incidents.get input.failureId).bind fun record => s.inForceBoundary record.sourceId)
        ((s.incidents.get input.failureId).bind fun record => s.generations record.sourceId)
        (s.boundaries.get input.boundaryId).isSome with
      | error refusal => rfl
      | ok record =>
          rw [run_checked_ok, ok_bind]
          cases (s.incidents.get input.failureId).bind fun record =>
            s.inForceBoundary record.sourceId with
          | none => rfl
          | some prior => rfl

theorem update_eq (failureId : String) (expectedRevision : ℕ) (patch : IncidentPatch)
    (event : IncidentEvent) :
    update failureId expectedRevision patch event s =
      outcome s (s.update failureId expectedRevision patch event) := by
  unfold update MemoryIncidentStore.update
  rw [run_get]
  cases hfound : s.incidents.get failureId with
  | none => rfl
  | some existing =>
      dsimp only
      by_cases hrevision : existing.revision ≠ expectedRevision
      · rw [if_pos hrevision, if_pos hrevision]
        rfl
      · rw [if_neg hrevision, if_neg hrevision]
        rfl

theorem retireBoundary_eq (boundaryId : String) (expectedRevision : ℕ) (retirement : Retirement)
    (time : String) :
    retireBoundary boundaryId expectedRevision retirement time s =
      outcome s (s.retireBoundary boundaryId expectedRevision retirement time) := by
  unfold retireBoundary MemoryIncidentStore.retireBoundary
  rw [run_get]
  cases checkRetirement boundaryId (s.boundaries.get boundaryId) expectedRevision retirement
    s.incidents.get <;> rfl

theorem updateCircuit_eq (sourceId : String) (expectedRevision : ℕ) (next : CircuitUpdate) :
    updateCircuit sourceId expectedRevision next s =
      outcome s (s.updateCircuit sourceId expectedRevision next) := by
  unfold updateCircuit MemoryIncidentStore.updateCircuit
  rw [run_get]
  dsimp only
  cases checkCircuitRevision sourceId expectedRevision (s.circuit sourceId) <;> rfl

theorem run_deleteOperations
    {α : Type} (items : List StoredOperation) (next : PUnit → StoreMethod α)
    (s : MemoryIncidentStore) :
    ((items.forM fun item => deleteOperation item.operationId) >>= next) s =
      next ⟨⟩ { s with operations := s.operations.filter fun other =>
        other.operationId ∉ items.map (·.operationId) } := by
  rw [run_forM (f := fun item : StoredOperation => deleteOperation item.operationId)
    (g := fun s item => { s with operations := s.operations.filter fun other =>
      other.operationId ≠ item.operationId }) fun _ _ => rfl]
  congr 1
  induction items generalizing s with
  | nil =>
      have hall : s.operations.filter (fun other =>
          decide (other.operationId ∉ ([] : List StoredOperation).map (·.operationId))) =
            s.operations := by
        apply InsertionMap.ext
        simp
      rw [hall]
      rfl
  | cons item rest ih =>
      rw [List.foldl_cons, ih]
      congr 1
      apply InsertionMap.ext
      rw [InsertionMap.values_filter, InsertionMap.values_filter, InsertionMap.values_filter,
        List.filter_filter]
      apply List.filter_congr
      intro other _
      rw [List.map_cons]
      by_cases hitem : other.operationId = item.operationId
      · simp [hitem]
      · simp [hitem]

theorem beginOperation_eq (input : NewOperation) :
    beginOperation limits input s = outcome s (s.beginOperation limits input) := by
  unfold beginOperation MemoryIncidentStore.beginOperation
  cases newOperation input with
  | error refusal => rfl
  | ok operation =>
      rw [run_checked_ok, ok_bind, run_get]
      cases s.operations.get operation.operationId with
      | some existing => rfl
      | none =>
          dsimp only
          rw [run_get]
          cases operationsToPrune s.operations.values.length
            ((s.operations.values.filter Journal.isFinished).mergeSort
              (Journal.finishedBefore MemoryIncidentStore.codeUnitLe)).length
            limits.maxOperations with
          | error refusal => rfl
          | ok prune =>
              rw [run_checked_ok, ok_bind]
              rw [run_deleteOperations]
              rfl

theorem finishOperation_eq (operationId : String) (state : FinishState)
    (result : Except String String) (time : String) :
    finishOperation operationId state result time s =
      outcome s (s.finishOperation operationId state result time) := by
  unfold finishOperation MemoryIncidentStore.finishOperation
  cases checkOperationResult result with
  | error refusal => rfl
  | ok canonical =>
      rw [run_checked_ok, ok_bind, run_get]
      cases finishedOperation operationId (s.operations.get operationId) state canonical time <;>
        rfl

theorem run_setOperations
    {α : Type} (operations : List StoredOperation) (next : PUnit → StoreMethod α)
    (s : MemoryIncidentStore) :
    (operations.forM setOperation >>= next) s =
      next ⟨⟩ { s with
        operations := operations.foldl (fun stored operation => stored.set operation)
          s.operations } := by
  rw [run_forM (f := setOperation)
    (g := fun s operation => { s with operations := s.operations.set operation }) fun _ _ => rfl]
  congr 1
  induction operations generalizing s with
  | nil => rfl
  | cons operation rest ih =>
      rw [List.foldl_cons, ih]
      rfl

theorem abandonPendingOperations_eq (time : String) :
    abandonPendingOperations time s = outcome s (.ok (s.abandonPendingOperations time)) := by
  unfold abandonPendingOperations MemoryIncidentStore.abandonPendingOperations
  rw [run_get]
  dsimp only
  rw [run_setOperations]
  rfl

/-- Every method of the store is the transactional call. -/
theorem call_eq (c : StoreCall) : call limits c s = outcome s (s.call limits c) := by
  cases c with
  | claim projectId sources time => exact claim_eq sources time
  | observe observation => exact observe_eq observation
  | update failureId expectedRevision patch event =>
      exact update_eq failureId expectedRevision patch event
  | prepareAdvance input => exact prepareAdvance_eq input
  | retireBoundary boundaryId expectedRevision retirement time =>
      exact retireBoundary_eq boundaryId expectedRevision retirement time
  | updateCircuit sourceId expectedRevision next =>
      exact updateCircuit_eq sourceId expectedRevision next
  | beginOperation input => exact beginOperation_eq input
  | finishOperation operationId state result time =>
      exact finishOperation_eq operationId state result time
  | abandonPendingOperations time => exact abandonPendingOperations_eq time

end MemoryMethods

/-! ### Atomicity and revisions -/

/-- The named incident moves on by one revision or is created at the first one; every other
incident is as it was. -/
def RaisedOnly (failureId : String) (before after : InsertionMap IncidentRecord.failureId) :
    Prop :=
  Raised (before.get failureId) (after.get failureId) ∧
    ∀ other, other ≠ failureId → after.get other = before.get other

theorem IncidentsAfter.raisedOnly
    {before after : InsertionMap IncidentRecord.failureId} {c : StoreCall} {failureId : String}
    (h : IncidentsAfter before after c) (hraises : c.raises = some failureId) :
    RaisedOnly failureId before after := by
  obtain ⟨record, rfl, rfl, hraised⟩ := h.raised failureId hraises
  constructor
  · rw [InsertionMap.get_set_self]
    exact hraised
  · intro other hother
    exact InsertionMap.get_set_ne before hother

namespace MemoryMaps

variable {limits : SpoolLimits} {m m' : MemoryMaps}

theorem perform_store (c : StoreCall) :
    perform limits (.store c) m =
      match m.store.call limits.toMemoryLimits c with
      | .ok (reply, s) => .ok (.store reply) { m with store := s }
      | .error refusal => .error refusal m := by
  show EStateM.bind (onStore (MemoryMethods.call limits.toMemoryLimits c)) _ m = _
  unfold EStateM.bind onStore
  rw [MemoryMethods.call_eq]
  cases m.store.call limits.toMemoryLimits c <;> rfl

theorem pruneEvidence_total (storedBefore : String) :
    ∃ count m', pruneEvidence storedBefore m = .ok count m' ∧ m'.store = m.store := by
  unfold pruneEvidence
  rw [run_get]
  rw [run_forM (f := fun item : String × String => deleteEvidence item.1)
    (g := fun m item => { m with
      evidence := m.evidence.filter fun other => other.1 ≠ item.1
      evidenceStoredAt := m.evidenceStoredAt.filter fun other => other.1 ≠ item.1 })
    fun _ _ => rfl]
  refine ⟨_, _, rfl, ?_⟩
  generalize m.evidenceStoredAt.values.filter (fun item =>
    !MemoryIncidentStore.codeUnitLe storedBefore item.2) = stored
  induction stored generalizing m with
  | nil => rfl
  | cons item rest ih => rw [List.foldl_cons, ih]

theorem putEvidence_cases (failureId : String) (evidence : RawEvidence) (time : String) :
    (∃ m', putEvidence limits failureId evidence time m = .ok ⟨⟩ m' ∧ m'.store = m.store) ∨
      putEvidence limits failureId evidence time m =
        .error (storeFull "The raw evidence spool is full.") m := by
  unfold putEvidence
  rw [run_get]
  split
  · exact .inr rfl
  · exact .inl ⟨_, rfl, rfl⟩

theorem perform_putEvidence (failureId : String) (evidence : RawEvidence) (time : String) :
    perform limits (.putEvidence failureId evidence time) m =
      match putEvidence limits failureId evidence time m with
      | .ok _ m' => .ok .stored m'
      | .error refusal m' => .error refusal m' := by
  show EStateM.bind (putEvidence limits failureId evidence time) _ m = _
  unfold EStateM.bind
  cases putEvidence limits failureId evidence time m <;> rfl

theorem perform_pruneEvidence (storedBefore : String) :
    perform limits (.pruneEvidence storedBefore) m =
      match pruneEvidence storedBefore m with
      | .ok count m' => .ok (.pruned count) m'
      | .error refusal m' => .error refusal m' := by
  show EStateM.bind (pruneEvidence storedBefore) _ m = _
  unfold EStateM.bind
  cases pruneEvidence storedBefore m <;> rfl

theorem perform_list (query : IncidentQuery) :
    perform limits (.list query) m =
      match m.store.list query with
      | .ok page => .ok (.listed page) m
      | .error refusal => .error refusal m := by
  show (checked (m.store.list query) >>= fun page =>
    (pure (.listed page) : Method MemoryMaps MemoryReply)) m = _
  cases m.store.list query <;> rfl

/-- A method that throws has changed nothing. -/
theorem perform_error
    {c : MemoryCall} {refusal : Refusal} (h : perform limits c m = .error refusal m') :
    m' = m := by
  cases c with
  | store c =>
      rw [perform_store] at h
      cases hcall : m.store.call limits.toMemoryLimits c with
      | error refusal' =>
          rw [hcall] at h
          cases h
          rfl
      | ok answer =>
          rw [hcall] at h
          cases h
  | putEvidence failureId evidence time =>
      rw [perform_putEvidence] at h
      rcases @putEvidence_cases limits m failureId evidence time with ⟨m₁, hstored, -⟩ | hfull
      · rw [hstored] at h
        cases h
      · rw [hfull] at h
        cases h
        rfl
  | deleteEvidence failureId => cases h
  | pruneEvidence storedBefore =>
      obtain ⟨count, m₁, hpruned, -⟩ := @pruneEvidence_total m storedBefore
      rw [perform_pruneEvidence, hpruned] at h
      cases h
  | list query =>
      rw [perform_list] at h
      cases hpage : m.store.list query with
      | error refusal' =>
          rw [hpage] at h
          cases h
          rfl
      | ok page =>
          rw [hpage] at h
          cases h

/-- What an accepted call does to the incidents. -/
theorem perform_ok
    {c : MemoryCall} {reply : MemoryReply} (h : perform limits c m = .ok reply m') :
    (∃ c', c = .store c' ∧ IncidentsAfter m.store.incidents m'.store.incidents c') ∨
      c.raises = none ∧ c.expects = none ∧ m'.store.incidents = m.store.incidents := by
  cases c with
  | store c =>
      left
      rw [perform_store] at h
      cases hcall : m.store.call limits.toMemoryLimits c with
      | error refusal =>
          rw [hcall] at h
          cases h
      | ok answer =>
          rw [hcall] at h
          cases h
          exact ⟨c, rfl, MemoryIncidentStore.call_incidents hcall⟩
  | putEvidence failureId evidence time =>
      right
      rw [perform_putEvidence] at h
      rcases @putEvidence_cases limits m failureId evidence time with
        ⟨m₁, hstored, hstore⟩ | hfull
      · rw [hstored] at h
        cases h
        exact ⟨rfl, rfl, by rw [hstore]⟩
      · rw [hfull] at h
        cases h
  | deleteEvidence failureId =>
      cases h
      exact .inr ⟨rfl, rfl, rfl⟩
  | pruneEvidence storedBefore =>
      right
      obtain ⟨count, m₁, hpruned, hstore⟩ := @pruneEvidence_total m storedBefore
      rw [perform_pruneEvidence, hpruned] at h
      cases h
      exact ⟨rfl, rfl, by rw [hstore]⟩
  | list query =>
      right
      rw [perform_list] at h
      cases hpage : m.store.list query with
      | error refusal =>
          rw [hpage] at h
          cases h
      | ok page =>
          rw [hpage] at h
          cases h
          exact ⟨rfl, rfl, rfl⟩

/-- Calls made one after the other, and whether each was accepted. -/
def outcomes (limits : SpoolLimits) : List MemoryCall → MemoryMaps → List (MemoryCall × Bool)
  | [], _ => []
  | c :: rest, m =>
      match perform limits c m with
      | .ok _ m' => (c, true) :: outcomes limits rest m'
      | .error _ m' => (c, false) :: outcomes limits rest m'

/-- Whether a call that expected a revision of an incident was accepted. -/
def wins (failureId : String) (expectedRevision : ℕ) (outcome : MemoryCall × Bool) : Bool :=
  outcome.2 && outcome.1.expects = some (failureId, expectedRevision)

/-- An incident has moved on from a revision. -/
def Past (failureId : String) (expectedRevision : ℕ) (m : MemoryMaps) : Prop :=
  ∃ record, m.store.incidents.get failureId = some record ∧ expectedRevision < record.revision

theorem Past.after
    {failureId : String} {expectedRevision : ℕ} (h : Past failureId expectedRevision m)
    {c : MemoryCall} {reply : MemoryReply} (hok : perform limits c m = .ok reply m') :
    Past failureId expectedRevision m' ∧ c.expects ≠ some (failureId, expectedRevision) := by
  obtain ⟨record, hfound, hlt⟩ := h
  rcases perform_ok hok with ⟨c', rfl, hafter⟩ | ⟨-, hexpects, hsame⟩
  · constructor
    · cases hraises : c'.raises with
      | none => exact ⟨record, by rw [hafter.kept hraises]; exact hfound, hlt⟩
      | some named =>
          obtain ⟨hraised, hothers⟩ := hafter.raisedOnly hraises
          by_cases hnamed : failureId = named
          · subst hnamed
            obtain ⟨next, hnext, hrevision⟩ := hraised
            rw [hfound] at hrevision
            dsimp only at hrevision
            exact ⟨next, hnext, by omega⟩
          · exact ⟨record, by rw [hothers failureId hnamed]; exact hfound, hlt⟩
    · intro hexpects
      obtain ⟨existing, hexisting, hrevision⟩ := hafter.expected _ _ hexpects
      rw [hfound] at hexisting
      cases hexisting
      omega
  · exact ⟨⟨record, by rw [hsame]; exact hfound, hlt⟩, by rw [hexpects]; exact nofun⟩

theorem Past.none_wins
    {failureId : String} {expectedRevision : ℕ} (h : Past failureId expectedRevision m)
    (calls : List MemoryCall) :
    (outcomes limits calls m).filter (wins failureId expectedRevision) = [] := by
  induction calls generalizing m with
  | nil => rfl
  | cons c rest ih =>
      unfold outcomes
      cases hperform : perform limits c m with
      | ok reply m' =>
          obtain ⟨hpast, hexpects⟩ := h.after hperform
          dsimp only
          rw [List.filter_cons_of_neg (by simp [wins, hexpects])]
          exact ih hpast
      | error refusal m' =>
          dsimp only
          rw [List.filter_cons_of_neg (by simp [wins]), perform_error hperform]
          exact ih h

/-- The accepted call that expected the revision moves the incident on from it. -/
theorem past_of_wins
    {failureId : String} {expectedRevision : ℕ} {c : MemoryCall} {reply : MemoryReply}
    (hok : perform limits c m = .ok reply m')
    (hexpects : c.expects = some (failureId, expectedRevision)) :
    Past failureId expectedRevision m' := by
  rcases perform_ok hok with ⟨c', rfl, hafter⟩ | ⟨-, hnone, -⟩
  · obtain ⟨existing, hexisting, hrevision⟩ := hafter.expected _ _ hexpects
    have hraises : c'.raises = some failureId := by
      have hexpects' : c'.expects = some (failureId, expectedRevision) := hexpects
      cases c' <;> cases hexpects' <;> rfl
    obtain ⟨⟨next, hnext, hraised⟩, -⟩ := hafter.raisedOnly hraises
    rw [hexisting] at hraised
    dsimp only at hraised
    exact ⟨next, hnext, by omega⟩
  · rw [hnone] at hexpects
    cases hexpects

theorem wins_at_most_once
    (failureId : String) (expectedRevision : ℕ) (calls : List MemoryCall) (m : MemoryMaps) :
    ((outcomes limits calls m).filter (wins failureId expectedRevision)).length ≤ 1 := by
  induction calls generalizing m with
  | nil => exact Nat.zero_le 1
  | cons c rest ih =>
      unfold outcomes
      cases hperform : perform limits c m with
      | ok reply m' =>
          dsimp only
          by_cases hexpects : c.expects = some (failureId, expectedRevision)
          · have hpast := past_of_wins hperform hexpects
            rw [List.filter_cons_of_pos (by simp [wins, hexpects]), hpast.none_wins]
            exact Nat.le_refl 1
          · rw [List.filter_cons_of_neg (by simp [wins, hexpects])]
            exact ih m'
      | error refusal m' =>
          dsimp only
          rw [List.filter_cons_of_neg (by simp [wins])]
          exact ih m'

end MemoryMaps

/-- In every state of the memory store: a call that throws changes nothing, one that raises an
incident raises it by one and no other, and of any calls that expect one revision of an
incident at most one is accepted. -/
theorem memory_store_atomic (limits : SpoolLimits) (m : MemoryMaps) :
    (∀ c refusal m', MemoryMaps.perform limits c m = .error refusal m' → m' = m) ∧
      (∀ c failureId reply m', c.raises = some failureId →
        MemoryMaps.perform limits c m = .ok reply m' →
          RaisedOnly failureId m.store.incidents m'.store.incidents) ∧
      ∀ calls failureId expectedRevision,
        ((MemoryMaps.outcomes limits calls m).filter
          (MemoryMaps.wins failureId expectedRevision)).length ≤ 1 := by
  refine ⟨fun _ _ _ h => MemoryMaps.perform_error h, ?_, ?_⟩
  · intro c failureId reply m' hraises hok
    rcases MemoryMaps.perform_ok hok with ⟨c', rfl, hafter⟩ | ⟨hnone, -, -⟩
    · exact hafter.raisedOnly hraises
    · rw [hnone] at hraises
      cases hraises
  · intro calls failureId expectedRevision
    exact MemoryMaps.wins_at_most_once failureId expectedRevision calls m

end StreamOtter
