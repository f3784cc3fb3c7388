import StreamOtter.Journal

/-!
# Soundness of the abstract store

At most one boundary of a source is in force, and no history outgrows its cap.  One lemma for
each call says which boundary is in force after it.
-/

namespace StreamOtter

namespace FailureStore

@[simp] theorem endBoundary_boundaryId (retirement : Retirement) (time : String)
    (boundary : StoredBoundary) :
    (endBoundary retirement time boundary).boundaryId = boundary.boundaryId := rfl

@[simp] theorem endBoundary_sourceId (retirement : Retirement) (time : String)
    (boundary : StoredBoundary) :
    (endBoundary retirement time boundary).sourceId = boundary.sourceId := rfl

theorem endBoundary_state_ne (retirement : Retirement) (time : String)
    (boundary : StoredBoundary) :
    (endBoundary retirement time boundary).state ≠ .inForce := by
  simp only [endBoundary]
  split <;> simp

theorem checkAdvanceState_ok
    {input : PrepareAdvance} {found : Option IncidentRecord} {prior : Option StoredBoundary}
    {generation : Option String} {taken : Bool} {record : IncidentRecord}
    (h : checkAdvanceState input found prior generation taken = .ok record) :
    found = some record ∧ record.revision = input.expectedRevision ∧ record.state = .opened ∧
      (∀ claimed, generation = some claimed → record.generation = claimed) ∧
      prior.map (·.boundaryId) = input.expectedPrior ∧ taken = false := by
  unfold checkAdvanceState at h
  cases found with
  | none => cases h
  | some existing =>
      dsimp only at h
      by_cases hrevision : existing.revision = input.expectedRevision
      · by_cases hstate : existing.state = .opened
        · by_cases hgeneration : generation.any (existing.generation ≠ ·) = true
          · rw [if_neg (not_not.mpr hrevision), if_neg (not_not.mpr hstate),
              if_pos hgeneration] at h
            cases h
          · by_cases hprior : prior.map (·.boundaryId) = input.expectedPrior
            · rw [if_neg (not_not.mpr hrevision), if_neg (not_not.mpr hstate),
                if_neg hgeneration, if_neg (not_not.mpr hprior)] at h
              cases taken with
              | true => cases h
              | false =>
                  obtain rfl : existing = record := by simpa using h
                  refine ⟨rfl, hrevision, hstate, ?_, hprior, rfl⟩
                  intro claimed hclaimed
                  simpa [hclaimed] using hgeneration
            · rw [if_neg (not_not.mpr hrevision), if_neg (not_not.mpr hstate),
                if_neg hgeneration, if_pos hprior] at h
              cases h
        · rw [if_neg (not_not.mpr hrevision), if_pos hstate] at h
          cases h
      · rw [if_pos hrevision] at h
        cases h

theorem checkRetirement_ok
    {boundaryId : String} {found : Option StoredBoundary} {expectedRevision : ℕ}
    {retirement : Retirement} {incidents : String → Option IncidentRecord}
    {boundary : StoredBoundary}
    (h : checkRetirement boundaryId found expectedRevision retirement incidents = .ok boundary) :
    found = some boundary ∧ retirement.mode ≠ .superseded ∧ boundary.state = .inForce ∧
      ∀ failureId ∈ boundary.failureIds, ∀ record, incidents failureId = some record →
        heldRefusal boundaryId record = none := by
  unfold checkRetirement at h
  cases found with
  | none => cases h
  | some existing =>
      dsimp only at h
      by_cases hrevision : existing.revision = expectedRevision
      · rw [if_neg (not_not.mpr hrevision)] at h
        by_cases hmode : retirement.mode = .superseded
        · rw [if_pos hmode] at h
          cases h
        · rw [if_neg hmode] at h
          by_cases hstate : existing.state = .inForce
          · rw [if_neg (not_not.mpr hstate)] at h
            cases hheld : existing.failureIds.findSome? fun failureId =>
                (incidents failureId).bind (heldRefusal boundaryId) with
            | some refusal =>
                rw [hheld] at h
                cases h
            | none =>
                rw [hheld] at h
                obtain rfl : existing = boundary := by simpa using h
                refine ⟨rfl, hmode, hstate, ?_⟩
                intro failureId hlisted record hrecord
                have hnone := List.findSome?_eq_none_iff.mp hheld failureId hlisted
                simpa [hrecord] using hnone
          · rw [if_pos hstate] at h
            cases h
      · rw [if_pos hrevision] at h
        cases h

theorem newOperation_ok
    {input : NewOperation} {operation : StoredOperation}
    (h : newOperation input = .ok operation) :
    operation = ⟨input.operationId, input.kind, input.sourceId, input.failureId,
        input.requestHash, .pending, none, input.time, none⟩ ∧
      input.operationId ≠ "" ∧ utf16Length input.operationId ≤ maxOperationId := by
  unfold newOperation at h
  by_cases hbad : (input.operationId = "" || maxOperationId < utf16Length input.operationId ||
      input.operationId.toList.any isControlCharacter) = true
  · rw [if_pos hbad] at h
    cases h
  · rw [if_neg hbad] at h
    simp only [Bool.or_eq_true, decide_eq_true_eq, not_or] at hbad
    refine ⟨?_, hbad.1.1, Nat.le_of_not_lt hbad.1.2⟩
    split at h
    · cases h
    · split at h
      · cases h
      · split at h
        · cases h
        · split at h
          · cases h
          · cases h
            rfl

theorem length_capEvents (events : List IncidentEvent) :
    (capEvents events).length ≤ maxEventsPerIncident := by
  unfold capEvents
  rw [List.length_drop]
  omega

end FailureStore

open FailureStore

/-- The boundary is in force for the source. -/
def InForce (boundaries : InsertionMap StoredBoundary.boundaryId) (sourceId : String)
    (boundary : StoredBoundary) : Prop :=
  boundary ∈ boundaries.values ∧ boundary.sourceId = sourceId ∧ boundary.state = .inForce

/-- No source has two boundaries in force. -/
def OneInForce (boundaries : InsertionMap StoredBoundary.boundaryId) : Prop :=
  ∀ sourceId a b, InForce boundaries sourceId a → InForce boundaries sourceId b → a = b

theorem oneInForce_empty : OneInForce .empty := by
  intro sourceId a b ha
  simp [InForce] at ha

section Changes

variable {boundaries : InsertionMap StoredBoundary.boundaryId} {sourceId : String}
  {boundary : StoredBoundary}

/-- Ending the boundary in force leaves its source without one. -/
theorem inForce_end
    (hone : OneInForce boundaries) (hin : InForce boundaries boundary.sourceId boundary)
    (retirement : Retirement) (time : String) (w : StoredBoundary) :
    InForce (boundaries.set (endBoundary retirement time boundary)) sourceId w ↔
      InForce boundaries sourceId w ∧ sourceId ≠ boundary.sourceId := by
  unfold InForce
  rw [InsertionMap.mem_set]
  constructor
  · rintro ⟨rfl | ⟨hw, hne⟩, hsource, hstate⟩
    · exact absurd hstate (endBoundary_state_ne _ _ _)
    · refine ⟨⟨hw, hsource, hstate⟩, ?_⟩
      intro hsame
      have heq := hone sourceId w boundary ⟨hw, hsource, hstate⟩ (hsame ▸ hin)
      exact hne (by rw [heq]; rfl)
  · rintro ⟨⟨hw, hsource, hstate⟩, hne⟩
    refine ⟨.inr ⟨hw, ?_⟩, hsource, hstate⟩
    intro hid
    have heq := InsertionMap.eq_of_mem hw hin.1 hid
    exact hne (by rw [← hsource, heq])

theorem OneInForce.end
    (hone : OneInForce boundaries) (hin : InForce boundaries boundary.sourceId boundary)
    (retirement : Retirement) (time : String) :
    OneInForce (boundaries.set (endBoundary retirement time boundary)) := by
  intro src a b ha hb
  rw [inForce_end hone hin] at ha hb
  exact hone src a b ha.1 hb.1

/-- A fresh boundary is in force beside those of the other sources. -/
theorem inForce_set
    (hfresh : boundaries.get boundary.boundaryId = none) (hstate : boundary.state = .inForce)
    (w : StoredBoundary) :
    InForce (boundaries.set boundary) sourceId w ↔
      w = boundary ∧ sourceId = boundary.sourceId ∨ InForce boundaries sourceId w := by
  unfold InForce
  rw [InsertionMap.mem_set]
  constructor
  · rintro ⟨rfl | ⟨hw, -⟩, hsource, hforce⟩
    · exact .inl ⟨rfl, hsource.symm⟩
    · exact .inr ⟨hw, hsource, hforce⟩
  · rintro (⟨rfl, rfl⟩ | ⟨hw, hsource, hforce⟩)
    · exact ⟨.inl rfl, rfl, hstate⟩
    · exact ⟨.inr ⟨hw, InsertionMap.get_eq_none.mp hfresh w hw⟩, hsource, hforce⟩

section Installing

variable {time : String} {prior : Option StoredBoundary} {source : String}

/-- Superseding the boundary in force leaves the source without one. -/
theorem inForce_supersede
    (hone : OneInForce boundaries) (hprior : ∀ b, prior = some b ↔ InForce boundaries source b)
    (w : StoredBoundary) :
    InForce (Journal.supersede time prior boundaries) sourceId w ↔
      InForce boundaries sourceId w ∧ sourceId ≠ source := by
  cases prior with
  | none =>
      constructor
      · intro hw
        refine ⟨hw, ?_⟩
        rintro rfl
        have hsome := (hprior w).mpr hw
        simp at hsome
      · exact fun hw => hw.1
  | some old =>
      have hold := (hprior old).mp rfl
      have hsource : old.sourceId = source := hold.2.1
      rw [← hsource] at hold
      rw [← hsource]
      exact inForce_end hone hold supersession time w

theorem supersede_fresh
    (hprior : ∀ b, prior = some b ↔ InForce boundaries source b) {boundaryId : String}
    (hfresh : boundaries.get boundaryId = none) :
    (Journal.supersede time prior boundaries).get boundaryId = none := by
  cases prior with
  | none => exact hfresh
  | some old =>
      have hold := (hprior old).mp rfl
      have hne := InsertionMap.get_eq_none.mp hfresh old hold.1
      show (boundaries.set (endBoundary supersession time old)).get boundaryId = none
      have hne' : boundaryId ≠ (endBoundary supersession time old).boundaryId := Ne.symm hne
      rw [InsertionMap.get_set_ne _ hne', hfresh]

theorem supersede_present
    (hprior : ∀ b, prior = some b → InForce boundaries source b) {boundaryId : String}
    (hid : prior.map (·.boundaryId) = some boundaryId) :
    ∃ b ∈ (Journal.supersede time prior boundaries).values, b.boundaryId = boundaryId := by
  cases prior with
  | none => simp at hid
  | some old =>
      refine ⟨endBoundary supersession time old, InsertionMap.mem_set.mpr (.inl rfl), ?_⟩
      simpa using hid

/-- Installing a boundary in the place of the prior one. -/
theorem inForce_install
    (hone : OneInForce boundaries)
    (hprior : ∀ b, prior = some b ↔ InForce boundaries boundary.sourceId b)
    (hfresh : boundaries.get boundary.boundaryId = none) (hstate : boundary.state = .inForce)
    (w : StoredBoundary) :
    InForce (Journal.install time prior boundary boundaries) sourceId w ↔
      if sourceId = boundary.sourceId then w = boundary else InForce boundaries sourceId w := by
  unfold Journal.install
  rw [inForce_set (supersede_fresh hprior hfresh) hstate, inForce_supersede hone hprior]
  by_cases hsource : sourceId = boundary.sourceId
  · simp [hsource]
  · simp [hsource]

end Installing

theorem OneInForce.install
    {time : String} {prior : Option StoredBoundary}
    (hone : OneInForce boundaries)
    (hprior : ∀ b, prior = some b ↔ InForce boundaries boundary.sourceId b)
    (hfresh : boundaries.get boundary.boundaryId = none) (hstate : boundary.state = .inForce) :
    OneInForce (Journal.install time prior boundary boundaries) := by
  intro src a b ha hb
  rw [inForce_install hone hprior hfresh hstate] at ha hb
  by_cases hsource : src = boundary.sourceId
  · rw [if_pos hsource] at ha hb
    rw [ha, hb]
  · rw [if_neg hsource] at ha hb
    exact hone src a b ha hb

end Changes

namespace Journal

structure Sound (j : Journal) : Prop where
  oneInForce : OneInForce j.boundaries
  capped : ∀ failureId, (j.events failureId).length ≤ maxEventsPerIncident

theorem sound_initial : initial.Sound := by
  constructor
  · exact oneInForce_empty
  · intro failureId
    exact Nat.zero_le _

section Queries

variable {j : Journal} {sourceId : String}

theorem boundary_eq_some (hone : OneInForce j.boundaries) {b : StoredBoundary} :
    j.boundary sourceId = some b ↔ InForce j.boundaries sourceId b := by
  unfold boundary
  constructor
  · intro h
    have hmem := List.mem_of_find?_eq_some h
    have hholds := List.find?_some h
    simp only [isInForceOf, Bool.and_eq_true, decide_eq_true_eq] at hholds
    exact ⟨hmem, hholds.1, hholds.2⟩
  · intro hb
    cases hfound : j.boundaries.values.find? (isInForceOf sourceId) with
    | none =>
        have hnone := List.find?_eq_none.mp hfound b hb.1
        simp [isInForceOf, hb.2.1, hb.2.2] at hnone
    | some a =>
        have hmem := List.mem_of_find?_eq_some hfound
        have hholds := List.find?_some hfound
        simp only [isInForceOf, Bool.and_eq_true, decide_eq_true_eq] at hholds
        rw [hone sourceId a b ⟨hmem, hholds.1, hholds.2⟩ hb]

theorem boundary_eq_none (hone : OneInForce j.boundaries) :
    j.boundary sourceId = none ↔ ∀ b, ¬InForce j.boundaries sourceId b := by
  rw [Option.eq_none_iff_forall_ne_some]
  constructor
  · intro h b hb
    exact h b ((boundary_eq_some hone).mpr hb)
  · intro h b hb
    exact h b ((boundary_eq_some hone).mp hb)

end Queries

section Preservation

variable {j j' : Journal}

theorem Sound.addEvent (h : j.Sound) (failureId : String) (event : IncidentEvent) :
    (j.addEvent failureId event).Sound := by
  constructor
  · exact h.oneInForce
  · intro id
    simp only [Journal.addEvent, Function.update_apply]
    split
    · exact length_capEvents _
    · exact h.capped id

theorem Sound.record (h : j.Sound) (record : IncidentRecord) (event : IncidentEvent) :
    (j.record record event).Sound := by
  have hsame : Sound { j with incidents := j.incidents.set record } := ⟨h.oneInForce, h.capped⟩
  exact hsame.addEvent _ _

/-- What an accepted advance has checked. -/
theorem prepareAdvance_ok
    {input : PrepareAdvance} {reply : StoreReply} (h : j.prepareAdvance input = .ok (reply, j')) :
    ∃ context record, checkPrepareAdvance input = .ok context ∧
      j.incidents.get input.failureId = some record ∧ record.state = .opened ∧
      record.revision = input.expectedRevision ∧
      (∀ generation, j.generations record.sourceId = some generation →
        record.generation = generation) ∧
      (j.boundary record.sourceId).map (·.boundaryId) = input.expectedPrior ∧
      j.boundaries.get input.boundaryId = none ∧
      reply = .prepared (advancedIncident input record).1
        (nextBoundary input record (j.boundary record.sourceId) context) ∧
      j' = { j.record (advancedIncident input record).1 (advancedIncident input record).2 with
        boundaries := install input.time (j.boundary record.sourceId)
          (nextBoundary input record (j.boundary record.sourceId) context) j.boundaries
        circuits := Function.update j.circuits record.sourceId
          (countedAdvance input.time
            (earlierAdvance (install input.time (j.boundary record.sourceId)
              (nextBoundary input record (j.boundary record.sourceId) context) j.boundaries) record)
            (j.circuits record.sourceId)) } := by
  unfold prepareAdvance at h
  cases hcontext : checkPrepareAdvance input with
  | error refusal =>
      rw [hcontext] at h
      cases h
  | ok context =>
      cases hstate : checkAdvanceState input (j.incidents.get input.failureId)
          (j.priorOf input.failureId)
          ((j.incidents.get input.failureId).bind fun record => j.generations record.sourceId)
          (j.boundaries.get input.boundaryId).isSome with
      | error refusal =>
          rw [hcontext, ok_bind, hstate] at h
          cases h
      | ok record =>
          rw [hcontext, ok_bind, hstate, ok_bind] at h
          obtain ⟨hfound, hrevision, hopen, hgeneration, hprior, htaken⟩ :=
            checkAdvanceState_ok hstate
          have hpriorOf : j.priorOf input.failureId = j.boundary record.sourceId := by
            simp [priorOf, hfound]
          rw [hpriorOf] at h hprior
          rw [hfound, Option.bind_some] at hgeneration
          have hfresh : j.boundaries.get input.boundaryId = none := by simpa using htaken
          cases h
          exact ⟨context, record, rfl, hfound, hopen, hrevision, hgeneration, hprior, hfresh,
            rfl, rfl⟩

theorem Sound.prepareAdvance
    (h : j.Sound) {input : PrepareAdvance} {reply : StoreReply}
    (hok : j.prepareAdvance input = .ok (reply, j')) : j'.Sound := by
  obtain ⟨context, record, -, -, -, -, -, -, hfresh, -, rfl⟩ := prepareAdvance_ok hok
  have hrecorded := h.record (advancedIncident input record).1 (advancedIncident input record).2
  constructor
  · apply h.oneInForce.install _ hfresh rfl
    intro b
    exact boundary_eq_some h.oneInForce
  · exact hrecorded.capped

/-- What an accepted retirement has checked. -/
theorem retireBoundary_ok
    {boundaryId time : String} {expectedRevision : ℕ} {retirement : Retirement}
    {reply : StoreReply}
    (h : j.retireBoundary boundaryId expectedRevision retirement time = .ok (reply, j')) :
    ∃ boundary, j.boundaries.get boundaryId = some boundary ∧ boundary.state = .inForce ∧
      retirement.mode ≠ .superseded ∧
      (∀ failureId ∈ boundary.failureIds, ∀ record, j.incidents.get failureId = some record →
        heldRefusal boundaryId record = none) ∧
      reply = .retired (endBoundary retirement time boundary) ∧
      j' = { j with boundaries := j.boundaries.set (endBoundary retirement time boundary) } := by
  unfold retireBoundary at h
  cases hchecked : checkRetirement boundaryId (j.boundaries.get boundaryId) expectedRevision
      retirement j.incidents.get with
  | error refusal =>
      rw [hchecked] at h
      cases h
  | ok boundary =>
      rw [hchecked, ok_bind] at h
      obtain ⟨hfound, hmode, hstate, hheld⟩ := checkRetirement_ok hchecked
      cases h
      exact ⟨boundary, hfound, hstate, hmode, hheld, rfl, rfl⟩

theorem Sound.retireBoundary
    (h : j.Sound) {boundaryId time : String} {expectedRevision : ℕ} {retirement : Retirement}
    {reply : StoreReply}
    (hok : j.retireBoundary boundaryId expectedRevision retirement time = .ok (reply, j')) :
    j'.Sound := by
  obtain ⟨boundary, hfound, hstate, -, -, -, rfl⟩ := retireBoundary_ok hok
  constructor
  · exact h.oneInForce.end ⟨InsertionMap.mem_of_get hfound, rfl, hstate⟩ _ _
  · exact h.capped

theorem Sound.claimSource (h : j.Sound) (time : String) (source : SourceIdentity) :
    (j.claimSource time source).Sound := by
  unfold Journal.claimSource
  cases hfound : j.boundary source.sourceId with
  | none => exact ⟨h.oneInForce, h.capped⟩
  | some boundary =>
      have hin := (boundary_eq_some h.oneInForce).mp hfound
      dsimp only
      split
      · exact ⟨h.oneInForce, h.capped⟩
      · constructor
        · apply h.oneInForce.end
          rw [hin.2.1]
          exact hin
        · exact h.capped

theorem Sound.claim (h : j.Sound) (time : String) (sources : List SourceIdentity) :
    (j.claim time sources).Sound := by
  unfold Journal.claim
  induction sources generalizing j with
  | nil => exact h
  | cons source rest ih => exact ih (h.claimSource time source)

/-- Calls that leave boundaries and histories alone. -/
theorem Sound.of_same (h : j.Sound) (hboundaries : j'.boundaries = j.boundaries)
    (hevents : j'.events = j.events) : j'.Sound := by
  constructor
  · rw [hboundaries]
    exact h.oneInForce
  · rw [hevents]
    exact h.capped

theorem Sound.observe (h : j.Sound) (observation : NewObservation) :
    (j.observe observation).2.Sound := by
  unfold Journal.observe
  split
  · exact h.record _ _
  · exact h.record _ _

/-- What an accepted update has checked. -/
theorem update_ok
    {failureId : String} {expectedRevision : ℕ} {patch : IncidentPatch} {event : IncidentEvent}
    {reply : StoreReply}
    (h : j.update failureId expectedRevision patch event = .ok (reply, j')) :
    ∃ existing, j.incidents.get failureId = some existing ∧
      existing.revision = expectedRevision ∧
      reply = .updated (patched patch event.time existing) ∧
      j' = j.record (patched patch event.time existing) event := by
  unfold Journal.update at h
  cases hfound : j.incidents.get failureId with
  | none =>
      rw [hfound] at h
      cases h
  | some existing =>
      rw [hfound] at h
      dsimp only at h
      by_cases hrevision : existing.revision = expectedRevision
      · rw [if_neg (not_not.mpr hrevision)] at h
        cases h
        exact ⟨existing, rfl, hrevision, rfl, rfl⟩
      · rw [if_pos hrevision] at h
        cases h

/-- What an accepted circuit update does. -/
theorem updateCircuit_ok
    {sourceId : String} {expectedRevision : ℕ} {next : CircuitUpdate} {reply : StoreReply}
    (h : j.updateCircuit sourceId expectedRevision next = .ok (reply, j')) :
    reply = .circuit (checkCircuit sourceId next ((j.circuits sourceId).revision + 1)) ∧
      j' = { j with
        circuits := Function.update j.circuits sourceId
          (checkCircuit sourceId next ((j.circuits sourceId).revision + 1)) } := by
  unfold Journal.updateCircuit at h
  cases hchecked : checkCircuitRevision sourceId expectedRevision (j.circuits sourceId) with
  | error refusal =>
      rw [hchecked] at h
      cases h
  | ok _ =>
      rw [hchecked] at h
      cases h
      exact ⟨rfl, rfl⟩

/-- A new operation makes room for itself, a known one changes nothing. -/
theorem beginOperation_ok
    {le : String → String → Bool} {limit : ℕ} {input : NewOperation} {reply : StoreReply}
    (h : j.beginOperation le limit input = .ok (reply, j')) :
    (∃ operation existing, newOperation input = .ok operation ∧
        j.operations.get operation.operationId = some existing ∧
        reply = .begun existing false ∧ j' = j) ∨
      ∃ operation, ∃ dropped : List String, newOperation input = .ok operation ∧
      j.operations.get operation.operationId = none ∧
      reply = .begun operation true ∧
      j' = { j with
        operations :=
          (j.operations.filter fun item => decide (item.operationId ∉ dropped)).set operation } := by
  unfold Journal.beginOperation at h
  cases hnew : newOperation input with
  | error refusal =>
      rw [hnew] at h
      cases h
  | ok operation =>
      rw [hnew, ok_bind] at h
      cases hfound : j.operations.get operation.operationId with
      | some existing =>
          rw [hfound] at h
          cases h
          exact .inl ⟨operation, existing, rfl, hfound, rfl, rfl⟩
      | none =>
          rw [hfound] at h
          dsimp only at h
          cases hprune : operationsToPrune j.operations.values.length
              (j.operations.values.filter isFinished).length limit with
          | error refusal =>
              rw [hprune] at h
              cases h
          | ok count =>
              rw [hprune, ok_bind] at h
              cases h
              exact .inr ⟨operation, _, rfl, hfound, rfl, rfl⟩

/-- An operation finishes once. -/
theorem finishOperation_ok
    {operationId : String} {state : FinishState} {result : Except String String} {time : String}
    {reply : StoreReply}
    (h : j.finishOperation operationId state result time = .ok (reply, j')) :
    ∃ operation canonical, j.operations.get operationId = some operation ∧
      operation.state = .pending ∧
      reply = .finished { operation with
        state := state.toOperationState
        result := some canonical
        completedAt := some time } ∧
      j' = { j with operations := j.operations.set { operation with
        state := state.toOperationState
        result := some canonical
        completedAt := some time } } := by
  unfold Journal.finishOperation at h
  cases hresult : checkOperationResult result with
  | error refusal =>
      rw [hresult] at h
      cases h
  | ok canonical =>
      rw [hresult, ok_bind] at h
      unfold finishedOperation at h
      cases hfound : j.operations.get operationId with
      | none =>
          rw [hfound] at h
          cases h
      | some operation =>
          rw [hfound] at h
          dsimp only at h
          by_cases hpending : operation.state = .pending
          · rw [if_neg (not_not.mpr hpending), ok_bind] at h
            cases h
            exact ⟨operation, canonical, rfl, hpending, rfl, rfl⟩
          · rw [if_pos hpending] at h
            cases h

theorem Sound.call
    (h : j.Sound) {le : String → String → Bool} {limit : ℕ} {c : StoreCall} {reply : StoreReply}
    (hok : j.call le limit c = .ok (reply, j')) : j'.Sound := by
  cases c with
  | claim projectId sources time =>
      cases hok
      exact h.claim time sources
  | observe observation =>
      have hafter : (j.observe observation).2 = j' := congrArg Prod.snd (Except.ok.inj hok)
      rw [← hafter]
      exact h.observe observation
  | update failureId expectedRevision patch event =>
      obtain ⟨existing, -, -, -, rfl⟩ := update_ok hok
      exact h.record _ _
  | prepareAdvance input => exact h.prepareAdvance hok
  | retireBoundary boundaryId expectedRevision retirement time => exact h.retireBoundary hok
  | updateCircuit sourceId expectedRevision next =>
      obtain ⟨-, rfl⟩ := updateCircuit_ok hok
      exact h.of_same rfl rfl
  | beginOperation input =>
      rcases beginOperation_ok hok with ⟨_, _, -, -, -, rfl⟩ |
        ⟨operation, dropped, -, -, -, rfl⟩
      · exact h
      · exact h.of_same rfl rfl
  | finishOperation operationId state result time =>
      obtain ⟨operation, canonical, -, -, -, rfl⟩ := finishOperation_ok hok
      exact h.of_same rfl rfl
  | abandonPendingOperations time =>
      cases hok
      exact h.of_same rfl rfl

end Preservation

end Journal

end StreamOtter
