import StreamOtter.JournalSound
import StreamOtter.MemoryIncidentStore

/-!
# The memory store refines the abstract store

`Represents` ties the maps of the memory store to an abstract store.  Each call answers what
the abstract call answers and keeps the tie, unless the memory store is full.
-/

namespace StreamOtter

open FailureStore

namespace MemoryIncidentStore

structure Represents (s : MemoryIncidentStore) (j : Journal) : Prop where
  incidents : s.incidents = j.incidents
  order : s.order = j.incidents.values.map (·.failureId)
  events : ∀ failureId, (s.events failureId).getD [] = j.events failureId
  boundaries : s.boundaries = j.boundaries
  inForce : ∀ sourceId boundaryId, s.inForce sourceId = some boundaryId ↔
    ∃ b, InForce j.boundaries sourceId b ∧ b.boundaryId = boundaryId
  circuits : ∀ sourceId, s.circuit sourceId = j.circuits sourceId
  generations : s.generations = j.generations
  operations : s.operations = j.operations

theorem represents_initial : initial.Represents Journal.initial := by
  constructor <;> try rfl
  · intro failureId
    rfl
  · intro sourceId boundaryId
    simp [initial, InForce, Journal.initial]
  · intro sourceId
    rfl

section Queries

variable {s : MemoryIncidentStore} {j : Journal}

theorem Represents.inForceBoundary (h : s.Represents j) (hsound : j.Sound) (sourceId : String) :
    s.inForceBoundary sourceId = j.boundary sourceId := by
  unfold MemoryIncidentStore.inForceBoundary
  ext b
  rw [Journal.boundary_eq_some hsound.oneInForce, Option.bind_eq_some_iff]
  constructor
  · rintro ⟨boundaryId, hid, hget⟩
    obtain ⟨b', hb', hsame⟩ := (h.inForce sourceId boundaryId).mp hid
    rw [h.boundaries, InsertionMap.get_eq_some] at hget
    have heq : b' = b := InsertionMap.eq_of_mem hb'.1 hget.1 (hsame.trans hget.2.symm)
    exact heq ▸ hb'
  · intro hb
    refine ⟨b.boundaryId, (h.inForce sourceId _).mpr ⟨b, hb, rfl⟩, ?_⟩
    rw [h.boundaries, InsertionMap.get_eq_some]
    exact ⟨hb.1, rfl⟩

theorem filterMap_get {κ ν : Type} [DecidableEq κ] {key : ν → κ} (m : InsertionMap key) :
    (m.values.map key).filterMap m.get = m.values := by
  rw [List.filterMap_map]
  have hself : ∀ v ∈ m.values, (m.get ∘ key) v = some v := by
    intro v hv
    exact InsertionMap.get_eq_some.mpr ⟨hv, rfl⟩
  rw [List.filterMap_congr hself]
  exact List.filterMap_some

theorem Represents.opened (h : s.Represents j) (sourceId : String) :
    s.opened sourceId = j.opened sourceId := by
  unfold MemoryIncidentStore.opened Journal.opened
  rw [h.order, h.incidents, filterMap_get]

theorem Represents.view (h : s.Represents j) (hsound : j.Sound) : s.view = j.view := by
  have hevents : (fun failureId => s.eventsOf failureId) = j.events := by
    funext failureId
    unfold eventsOf
    rw [h.events]
    have hcapped := hsound.capped failureId
    dsimp only
    rw [show (j.events failureId).length - maxEventsPerIncident = 0 by omega, List.drop_zero]
  have hopened : (fun sourceId => s.opened sourceId) = fun sourceId => j.opened sourceId :=
    funext h.opened
  have hboundary : (fun sourceId => s.inForceBoundary sourceId) =
      fun sourceId => j.boundary sourceId := funext (h.inForceBoundary hsound)
  have hcircuits : (fun sourceId => s.circuit sourceId) = j.circuits := funext h.circuits
  unfold MemoryIncidentStore.view Journal.view
  rw [hevents, hopened, hboundary, hcircuits, h.incidents, h.boundaries, h.operations]

end Queries

section Calls

variable {s : MemoryIncidentStore} {j : Journal} {limits : MemoryLimits}

/-- The tie after a change of incidents, which adds an event to a history. -/
theorem Represents.record
    (h : s.Represents j) (record : IncidentRecord) (event : IncidentEvent) (order : List String)
    (horder : order = (j.incidents.set record).values.map (·.failureId)) :
    ({ s with incidents := s.incidents.set record, order := order }.addEvent record.failureId
      event).Represents (j.record record event) := by
  constructor
  · show s.incidents.set record = j.incidents.set record
    rw [h.incidents]
  · exact horder
  · intro failureId
    have hsame := h.events failureId
    have hself := h.events record.failureId
    simp only [addEvent, Journal.record, Journal.addEvent, Function.update_apply, hself]
    by_cases hid : failureId = record.failureId
    · simp only [if_pos hid, Option.getD_some, capEvents]
      split
      · rfl
      · rename_i hfew
        rw [show (j.events record.failureId ++ [event]).length - maxEventsPerIncident = 0 by omega]
        rw [List.drop_zero]
    · simpa only [if_neg hid] using hsame
  · exact h.boundaries
  · exact h.inForce
  · exact h.circuits
  · exact h.generations
  · exact h.operations

theorem map_set_of_get
    {m : InsertionMap IncidentRecord.failureId} {record existing : IncidentRecord}
    (h : m.get record.failureId = some existing) :
    (m.set record).values.map (·.failureId) = m.values.map (·.failureId) := by
  obtain ⟨hmem, hid⟩ := InsertionMap.get_eq_some.mp h
  exact map_put_of_present (hid ▸ List.mem_map_of_mem hmem)

/-- The tie after an existing incident is rewritten. -/
theorem Represents.rewrite
    (h : s.Represents j) {record existing : IncidentRecord} (event : IncidentEvent)
    (hfound : j.incidents.get record.failureId = some existing) :
    ({ s with incidents := s.incidents.set record }.addEvent record.failureId event).Represents
      (j.record record event) := by
  have hrecord := h.record record event s.order
  apply hrecord
  rw [h.order, map_set_of_get hfound]

/-- A new incident finds room. -/
def Fits (limits : MemoryLimits) (s : MemoryIncidentStore) : StoreCall → Prop
  | .observe observation =>
      (s.incidents.get observation.failureId).isSome ∨
        s.incidents.values.length < limits.maxIncidents
  | _ => True

theorem Represents.observe (h : s.Represents j) (observation : NewObservation) :
    Agrees Represents (¬Fits limits s (.observe observation))
      (s.observe limits observation) (.ok (j.observe observation)) := by
  unfold MemoryIncidentStore.observe Journal.observe
  rw [h.incidents]
  cases hfound : j.incidents.get observation.failureId with
  | none =>
      dsimp only
      by_cases hfull : limits.maxIncidents ≤ j.incidents.values.length
      · rw [if_pos hfull]
        apply Agrees.full
        simp only [Fits, h.incidents, hfound]
        simpa using hfull
      · rw [if_neg hfull]
        have hvalues : (j.incidents.set (newIncident observation)).values =
            j.incidents.values ++ [newIncident observation] :=
          InsertionMap.values_set_of_get_none hfound
        apply Agrees.done
        rw [← h.incidents]
        apply h.record
        rw [hvalues, h.order]
        simp
  | some existing =>
      have hid := InsertionMap.key_of_get hfound
      have hobserved : j.incidents.get (observedAgain observation existing).1.failureId =
          some existing := by
        rw [observedAgain_failureId, hid]
        exact hfound
      rw [← h.incidents]
      exact .done (h.rewrite _ hobserved)

theorem Represents.update
    (h : s.Represents j) (exceeded : Prop) (failureId : String) (expectedRevision : ℕ)
    (patch : IncidentPatch) (event : IncidentEvent) :
    Agrees Represents exceeded (s.update failureId expectedRevision patch event)
      (j.update failureId expectedRevision patch event) := by
  unfold MemoryIncidentStore.update Journal.update
  rw [h.incidents]
  cases hfound : j.incidents.get failureId with
  | none => exact .refused _
  | some existing =>
      dsimp only
      by_cases hrevision : existing.revision = expectedRevision
      · simp only [hrevision, ne_eq, not_true_eq_false, if_false]
        have hid : existing.failureId = failureId := InsertionMap.key_of_get hfound
        have hpatched : (patched patch event.time existing).failureId = failureId := hid
        have hrewritable : j.incidents.get (patched patch event.time existing).failureId =
            some existing := by
          rw [hpatched]
          exact hfound
        have hrewritten := h.rewrite event hrewritable
        rw [hpatched] at hrewritten
        rw [← h.incidents]
        exact .done hrewritten
      · simp only [ne_eq, hrevision, not_false_eq_true, if_true]
        exact .refused _

theorem Represents.prepareAdvance
    (h : s.Represents j) (hsound : j.Sound) (exceeded : Prop) (input : PrepareAdvance) :
    Agrees Represents exceeded (s.prepareAdvance input) (j.prepareAdvance input) := by
  unfold MemoryIncidentStore.prepareAdvance Journal.prepareAdvance
  apply Agrees.bind
  intro context hcontext
  have hprior : ((s.incidents.get input.failureId).bind fun record =>
      s.inForceBoundary record.sourceId) = j.priorOf input.failureId := by
    unfold Journal.priorOf
    rw [h.incidents]
    congr 1
    funext record
    exact h.inForceBoundary hsound _
  dsimp only
  rw [hprior, h.incidents, h.boundaries, h.generations]
  apply Agrees.bind
  intro record hrecord
  obtain ⟨hfound, -, -, -, -, htaken⟩ := checkAdvanceState_ok hrecord
  have hfresh : j.boundaries.get input.boundaryId = none := by simpa using htaken
  have hid : record.failureId = input.failureId := InsertionMap.key_of_get hfound
  have hpriorOf : j.priorOf input.failureId = j.boundary record.sourceId := by
    simp [Journal.priorOf, hfound]
  have hrewritable : j.incidents.get (advancedIncident input record).1.failureId = some record := by
    rw [← hid] at hfound
    exact hfound
  have hrewritten := h.rewrite (advancedIncident input record).2 hrewritable
  apply Agrees.done
  constructor
  · rfl
  · exact hrewritten.order
  · exact hrewritten.events
  · rfl
  · intro sourceId boundaryId
    have hpriorIn : ∀ b, j.priorOf input.failureId = some b ↔
        InForce j.boundaries record.sourceId b := by
      rw [hpriorOf]
      exact fun b => Journal.boundary_eq_some hsound.oneInForce
    have hstep : ∀ b, InForce (Journal.install input.time (j.priorOf input.failureId)
          (nextBoundary input record (j.priorOf input.failureId) context) j.boundaries) sourceId b ↔
        if sourceId = record.sourceId then
          b = nextBoundary input record (j.priorOf input.failureId) context
        else InForce j.boundaries sourceId b :=
      inForce_install hsound.oneInForce hpriorIn hfresh rfl
    simp only [hstep]
    show Function.update s.inForce record.sourceId (some input.boundaryId) sourceId = _ ↔ _
    rw [Function.update_apply]
    by_cases hsource : sourceId = record.sourceId
    · rw [if_pos hsource]
      simp only [if_pos hsource]
      constructor
      · intro heq
        cases heq
        exact ⟨_, rfl, rfl⟩
      · rintro ⟨b, rfl, rfl⟩
        rfl
    · rw [if_neg hsource]
      simp only [if_neg hsource]
      exact h.inForce sourceId boundaryId
  · intro sourceId
    have hcircuit := h.circuits record.sourceId
    have hother := h.circuits sourceId
    show (Function.update s.circuits record.sourceId _ sourceId).getD _ =
      Function.update j.circuits record.sourceId _ sourceId
    rw [Function.update_apply, Function.update_apply, hcircuit]
    by_cases hsource : sourceId = record.sourceId
    · rw [if_pos hsource, if_pos hsource]
      rfl
    · rw [if_neg hsource, if_neg hsource]
      exact hother
  · rfl
  · exact h.operations

theorem Represents.retireBoundary
    (h : s.Represents j) (hsound : j.Sound) (exceeded : Prop) (boundaryId : String)
    (expectedRevision : ℕ) (retirement : Retirement) (time : String) :
    Agrees Represents exceeded (s.retireBoundary boundaryId expectedRevision retirement time)
      (j.retireBoundary boundaryId expectedRevision retirement time) := by
  unfold MemoryIncidentStore.retireBoundary Journal.retireBoundary
  rw [h.boundaries, h.incidents]
  apply Agrees.bind
  intro boundary hchecked
  obtain ⟨hfound, -, hstate, -⟩ := checkRetirement_ok hchecked
  have hin : InForce j.boundaries boundary.sourceId boundary :=
    ⟨InsertionMap.mem_of_get hfound, rfl, hstate⟩
  apply Agrees.done
  constructor
  · rfl
  · exact h.order
  · exact h.events
  · rfl
  · intro sourceId id
    simp only [inForce_end hsound.oneInForce hin, Function.update_apply]
    by_cases hsource : sourceId = boundary.sourceId
    · simp [hsource]
    · simp only [if_neg hsource]
      rw [h.inForce]
      simp [hsource]
  · exact h.circuits
  · exact h.generations
  · exact h.operations

theorem Represents.updateCircuit
    (h : s.Represents j) (exceeded : Prop) (sourceId : String) (expectedRevision : ℕ)
    (next : CircuitUpdate) :
    Agrees Represents exceeded (s.updateCircuit sourceId expectedRevision next)
      (j.updateCircuit sourceId expectedRevision next) := by
  unfold MemoryIncidentStore.updateCircuit Journal.updateCircuit
  rw [h.circuits]
  apply Agrees.bind
  intro _ _
  apply Agrees.done
  refine ⟨h.incidents, h.order, h.events, h.boundaries, h.inForce, ?_, h.generations, h.operations⟩
  intro other
  have hother := h.circuits other
  show (Function.update s.circuits sourceId _ other).getD _ = Function.update j.circuits sourceId _ other
  rw [Function.update_apply, Function.update_apply]
  by_cases hsource : other = sourceId
  · rw [if_pos hsource, if_pos hsource]
    rfl
  · rw [if_neg hsource, if_neg hsource]
    exact hother

/-- The tie after a change of operations only. -/
theorem Represents.withOperations
    (h : s.Represents j) {operations : InsertionMap StoredOperation.operationId} :
    { s with operations := operations }.Represents { j with operations := operations } :=
  ⟨h.incidents, h.order, h.events, h.boundaries, h.inForce, h.circuits, h.generations, rfl⟩

theorem Represents.beginOperation
    (h : s.Represents j) (exceeded : Prop) (input : NewOperation) :
    Agrees Represents exceeded (s.beginOperation limits input)
      (j.beginOperation codeUnitLe limits.maxOperations input) := by
  unfold MemoryIncidentStore.beginOperation Journal.beginOperation
  apply Agrees.bind
  intro operation _
  rw [h.operations]
  cases j.operations.get operation.operationId with
  | some existing => exact .done h
  | none =>
      dsimp only
      rw [List.length_mergeSort]
      apply Agrees.bind
      intro count _
      rw [← h.operations]
      exact .done h.withOperations

theorem Represents.finishOperation
    (h : s.Represents j) (exceeded : Prop) (operationId : String) (state : FinishState)
    (result : Except String String) (time : String) :
    Agrees Represents exceeded (s.finishOperation operationId state result time)
      (j.finishOperation operationId state result time) := by
  unfold MemoryIncidentStore.finishOperation Journal.finishOperation
  apply Agrees.bind
  intro canonical _
  rw [h.operations]
  apply Agrees.bind
  intro finished _
  rw [← h.operations]
  exact .done h.withOperations

theorem Represents.abandonPendingOperations (h : s.Represents j) (exceeded : Prop) (time : String) :
    Agrees Represents exceeded (.ok (s.abandonPendingOperations time))
      (.ok (j.abandonPendingOperations time)) := by
  unfold MemoryIncidentStore.abandonPendingOperations Journal.abandonPendingOperations
  rw [h.operations]
  rw [← h.operations]
  exact .done h.withOperations

theorem Represents.claimSource
    (h : s.Represents j) (hsound : j.Sound) (time : String) (source : SourceIdentity) :
    (s.claimSource time source).Represents (j.claimSource time source) := by
  unfold MemoryIncidentStore.claimSource Journal.claimSource
  have hclaimed : ∀ generations,
      { s with generations := generations }.Represents { j with generations := generations } :=
    fun _ => ⟨h.incidents, h.order, h.events, h.boundaries, h.inForce, h.circuits, rfl,
      h.operations⟩
  have hboundary : ∀ generations,
      { s with generations := generations }.inForceBoundary source.sourceId =
        j.boundary source.sourceId := fun _ => h.inForceBoundary hsound source.sourceId
  have hopened : ∀ generations,
      { s with generations := generations }.opened source.sourceId = j.opened source.sourceId :=
    fun _ => h.opened source.sourceId
  dsimp only
  rw [hboundary, hopened, h.generations]
  cases hfound : j.boundary source.sourceId with
  | none => exact hclaimed _
  | some boundary =>
      have hin := (Journal.boundary_eq_some hsound.oneInForce).mp hfound
      dsimp only
      by_cases hkeep : boundary.generation = source.generation ∨
          0 < (j.opened source.sourceId).length
      · have hkeep' : boundary.generation = source.generation ∨ j.opened source.sourceId ≠ [] := by
          simpa [List.length_pos_iff] using hkeep
        rw [if_pos hkeep, if_pos hkeep']
        exact hclaimed _
      · have hkeep' : ¬(boundary.generation = source.generation ∨
            j.opened source.sourceId ≠ []) := by
          simpa [List.length_pos_iff] using hkeep
        rw [if_neg hkeep, if_neg hkeep']
        constructor
        · exact h.incidents
        · exact h.order
        · exact h.events
        · show s.boundaries.set _ = j.boundaries.set _
          rw [h.boundaries]
        · intro sourceId id
          have hin' : InForce j.boundaries boundary.sourceId boundary := by
            rw [hin.2.1]
            exact hin
          simp only [inForce_end hsound.oneInForce hin', Function.update_apply]
          rw [hin.2.1]
          by_cases hsource : sourceId = source.sourceId
          · simp [hsource]
          · simp only [if_neg hsource]
            rw [h.inForce]
            simp [hsource]
        · exact h.circuits
        · rfl
        · exact h.operations

theorem Represents.claim
    (h : s.Represents j) (hsound : j.Sound) (time : String) (sources : List SourceIdentity) :
    (s.claim sources time).Represents (j.claim time sources) := by
  unfold MemoryIncidentStore.claim Journal.claim
  induction sources generalizing s j with
  | nil => exact h
  | cons source rest ih =>
      exact ih (h.claimSource hsound time source) (hsound.claimSource time source)

/-- Every call of the memory store agrees with the abstract call, unless the store is full. -/
theorem Represents.call
    (h : s.Represents j) (hsound : j.Sound) (c : StoreCall) :
    Agrees Represents (¬Fits limits s c) (s.call limits c)
      (j.call codeUnitLe limits.maxOperations c) := by
  cases c with
  | claim projectId sources time => exact .done (h.claim hsound time sources)
  | observe observation => exact h.observe observation
  | update failureId expectedRevision patch event => exact h.update _ _ _ _ _
  | prepareAdvance input => exact h.prepareAdvance hsound _ input
  | retireBoundary boundaryId expectedRevision retirement time =>
      exact h.retireBoundary hsound _ _ _ _ _
  | updateCircuit sourceId expectedRevision next => exact h.updateCircuit _ _ _ _
  | beginOperation input => exact h.beginOperation _ input
  | finishOperation operationId state result time => exact h.finishOperation _ _ _ _ _
  | abandonPendingOperations time => exact h.abandonPendingOperations _ time

end Calls

end MemoryIncidentStore

end StreamOtter
