import StreamOtter.BoundaryChain

/-!
# What a call does to the incidents

An accepted call stores one incident, under the ID that it names, or leaves all of them as
they are.  No call deletes an incident, so the rows of the SQLite store are numbered from one.
-/

namespace StreamOtter

open FailureStore

namespace StoreCall

/-- The incident that a call raises. -/
def raises : StoreCall → Option String
  | .observe observation => some observation.failureId
  | .update failureId _ _ _ => some failureId
  | .prepareAdvance input => some input.failureId
  | _ => none

/-- The incident and the revision at which a call expects it. -/
def expects : StoreCall → Option (String × ℕ)
  | .update failureId expectedRevision _ _ => some (failureId, expectedRevision)
  | .prepareAdvance input => some (input.failureId, input.expectedRevision)
  | _ => none

end StoreCall

/-- The incident of an ID is stored at its first revision or moves on by one. -/
def Raised (before after : Option IncidentRecord) : Prop :=
  ∃ record, after = some record ∧
    match before with
    | none => record.revision = 1
    | some existing => record.revision = existing.revision + 1

/-- What the incidents are after an accepted call. -/
structure IncidentsAfter (before after : InsertionMap IncidentRecord.failureId)
    (c : StoreCall) : Prop where
  kept : c.raises = none → after = before
  raised : ∀ failureId, c.raises = some failureId →
    ∃ record : IncidentRecord, record.failureId = failureId ∧ after = before.set record ∧
      Raised (before.get failureId) (some record)
  expected : ∀ failureId expectedRevision, c.expects = some (failureId, expectedRevision) →
    ∃ existing, before.get failureId = some existing ∧ existing.revision = expectedRevision

section Incidents

variable {before after : InsertionMap IncidentRecord.failureId}

theorem incidentsAfter_of_kept
    {c : StoreCall} (hraises : c.raises = none) (hexpects : c.expects = none)
    (h : after = before) : IncidentsAfter before after c := by
  constructor
  · intro _
    exact h
  · intro failureId hnamed
    rw [hraises] at hnamed
    cases hnamed
  · intro failureId expectedRevision hnamed
    rw [hexpects] at hnamed
    cases hnamed

theorem incidentsAfter_first
    {observation : NewObservation} (hfresh : before.get observation.failureId = none)
    (h : after = before.set (newIncident observation)) :
    IncidentsAfter before after (.observe observation) := by
  constructor
  · intro hnone
    cases hnone
  · intro failureId hnamed
    cases hnamed
    rw [hfresh]
    exact ⟨newIncident observation, rfl, h, _, rfl, rfl⟩
  · intro failureId expectedRevision hnamed
    cases hnamed

theorem observedAgain_revision (observation : NewObservation) (existing : IncidentRecord) :
    (observedAgain observation existing).1.revision = existing.revision + 1 := by
  unfold observedAgain reopened applyPolicy
  dsimp only
  repeat' split
  all_goals rfl

theorem incidentsAfter_again
    {observation : NewObservation} {existing : IncidentRecord}
    (hfound : before.get observation.failureId = some existing)
    (h : after = before.set (observedAgain observation existing).1) :
    IncidentsAfter before after (.observe observation) := by
  constructor
  · intro hnone
    cases hnone
  · intro failureId hnamed
    cases hnamed
    have hid : (observedAgain observation existing).1.failureId = observation.failureId := by
      rw [observedAgain_failureId, InsertionMap.key_of_get hfound]
    rw [hfound]
    exact ⟨_, hid, h, _, rfl, observedAgain_revision observation existing⟩
  · intro failureId expectedRevision hnamed
    cases hnamed

/-- A call that expects a revision finds it and moves the incident on. -/
theorem incidentsAfter_expected
    {c : StoreCall} {failureId : String} {existing : IncidentRecord} (record : IncidentRecord)
    (hraises : c.raises = some failureId)
    (hexpects : c.expects = some (failureId, existing.revision))
    (hfound : before.get failureId = some existing)
    (hid : record.failureId = existing.failureId)
    (hrevision : record.revision = existing.revision + 1) (h : after = before.set record) :
    IncidentsAfter before after c := by
  constructor
  · intro hnone
    rw [hraises] at hnone
    cases hnone
  · intro named hnamed
    obtain rfl : failureId = named := by simpa [hraises] using hnamed
    rw [hfound]
    exact ⟨record, hid.trans (InsertionMap.key_of_get hfound), h, _, rfl, hrevision⟩
  · intro named revision hnamed
    rw [hexpects] at hnamed
    cases hnamed
    exact ⟨existing, hfound, rfl⟩

/-- The IDs stay in their places; a new one goes to the end. -/
theorem IncidentsAfter.ids {c : StoreCall} (h : IncidentsAfter before after c) :
    ∃ added, after.values.map (·.failureId) = before.values.map (·.failureId) ++ added := by
  cases hraises : c.raises with
  | none =>
      rw [h.kept hraises]
      exact ⟨[], (List.append_nil _).symm⟩
  | some failureId =>
      obtain ⟨record, rfl, hset, -⟩ := h.raised failureId hraises
      rw [hset]
      by_cases hpresent : record.failureId ∈ before.values.map (·.failureId)
      · have hsame : (before.set record).values.map (·.failureId) =
            before.values.map (·.failureId) := map_put_of_present hpresent
        exact ⟨[], by rw [hsame, List.append_nil]⟩
      · have hfresh : before.get record.failureId = none := by
          rw [InsertionMap.get_eq_none]
          intro other hother heq
          exact hpresent (heq ▸ List.mem_map_of_mem hother)
        rw [InsertionMap.values_set_of_get_none hfresh, List.map_append]
        exact ⟨_, rfl⟩

end Incidents

namespace Journal

variable {j j' : Journal}

theorem claim_incidents (time : String) (sources : List SourceIdentity) :
    (j.claim time sources).incidents = j.incidents := by
  induction sources generalizing j with
  | nil => rfl
  | cons source rest ih =>
      show ((j.claimSource time source).claim time rest).incidents = j.incidents
      rw [ih, claimSource_incidents]

theorem observe_incidents (observation : NewObservation) :
    IncidentsAfter j.incidents (j.observe observation).2.incidents (.observe observation) := by
  unfold Journal.observe
  cases hfound : j.incidents.get observation.failureId with
  | none => exact incidentsAfter_first hfound rfl
  | some existing => exact incidentsAfter_again hfound rfl

theorem call_incidents
    {le : String → String → Bool} {limit : ℕ} {c : StoreCall} {reply : StoreReply}
    (h : j.call le limit c = .ok (reply, j')) : IncidentsAfter j.incidents j'.incidents c := by
  cases c with
  | claim projectId sources time =>
      cases h
      exact incidentsAfter_of_kept rfl rfl (claim_incidents time sources)
  | observe observation =>
      have hobserved : j.observe observation = (reply, j') := Except.ok.inj h
      have hafter := @observe_incidents j observation
      rw [hobserved] at hafter
      exact hafter
  | update failureId expectedRevision patch event =>
      obtain ⟨existing, hfound, rfl, -, rfl⟩ := update_ok h
      exact incidentsAfter_expected (patched patch event.time existing) rfl rfl hfound rfl rfl rfl
  | prepareAdvance input =>
      obtain ⟨context, existing, -, hfound, -, hrevision, -, -, -, -, rfl⟩ := prepareAdvance_ok h
      exact incidentsAfter_expected (advancedIncident input existing).1 rfl
        (by rw [hrevision]; rfl) hfound rfl rfl rfl
  | retireBoundary boundaryId expectedRevision retirement time =>
      obtain ⟨boundary, -, -, -, -, -, rfl⟩ := retireBoundary_ok h
      exact incidentsAfter_of_kept rfl rfl rfl
  | updateCircuit sourceId expectedRevision next =>
      obtain ⟨-, rfl⟩ := updateCircuit_ok h
      exact incidentsAfter_of_kept rfl rfl rfl
  | beginOperation input =>
      rcases beginOperation_ok h with ⟨_, _, -, -, -, rfl⟩ | ⟨_, _, -, -, -, rfl⟩
      · exact incidentsAfter_of_kept rfl rfl rfl
      · exact incidentsAfter_of_kept rfl rfl rfl
  | finishOperation operationId state result time =>
      obtain ⟨_, _, -, -, -, rfl⟩ := finishOperation_ok h
      exact incidentsAfter_of_kept rfl rfl rfl
  | abandonPendingOperations time =>
      cases h
      exact incidentsAfter_of_kept rfl rfl rfl

theorem Accepts.incidents
    {le : String → String → Bool} {limit : ℕ} {c : StoreCall} {reply : StoreReply}
    (h : Accepts le limit j c reply j') : IncidentsAfter j.incidents j'.incidents c := by
  cases h with
  | call hcall => exact call_incidents hcall
  | claim _ => exact incidentsAfter_of_kept rfl rfl (claim_incidents _ _)

end Journal

/-! ### The memory store -/

theorem bind_ok
    {ε α β : Type} {x : Except ε α} {f : α → Except ε β} {b : β} (h : (x >>= f) = .ok b) :
    ∃ a, x = .ok a ∧ f a = .ok b := by
  cases x with
  | error e => cases h
  | ok a => exact ⟨a, rfl, h⟩

namespace MemoryIncidentStore

variable {s s' : MemoryIncidentStore} {limits : MemoryLimits}

theorem claimSource_incidents (time : String) (source : SourceIdentity) :
    (claimSource time s source).incidents = s.incidents := by
  unfold claimSource
  dsimp only
  split
  · rfl
  · split <;> rfl

theorem claim_incidents (time : String) (sources : List SourceIdentity) :
    (s.claim sources time).incidents = s.incidents := by
  induction sources generalizing s with
  | nil => rfl
  | cons source rest ih =>
      show ((claimSource time s source).claim rest time).incidents = s.incidents
      rw [ih, claimSource_incidents]

theorem call_incidents
    {c : StoreCall} {reply : StoreReply} (h : s.call limits c = .ok (reply, s')) :
    IncidentsAfter s.incidents s'.incidents c := by
  cases c with
  | claim projectId sources time =>
      cases h
      exact incidentsAfter_of_kept rfl rfl (claim_incidents time sources)
  | observe observation =>
      have hobserve : s.observe limits observation = .ok (reply, s') := h
      unfold MemoryIncidentStore.observe at hobserve
      cases hfound : s.incidents.get observation.failureId with
      | none =>
          rw [hfound] at hobserve
          dsimp only at hobserve
          split at hobserve
          · cases hobserve
          · cases hobserve
            exact incidentsAfter_first hfound rfl
      | some existing =>
          rw [hfound] at hobserve
          cases hobserve
          exact incidentsAfter_again hfound rfl
  | update failureId expectedRevision patch event =>
      have hupdate : s.update failureId expectedRevision patch event = .ok (reply, s') := h
      unfold MemoryIncidentStore.update at hupdate
      cases hfound : s.incidents.get failureId with
      | none =>
          rw [hfound] at hupdate
          cases hupdate
      | some existing =>
          rw [hfound] at hupdate
          dsimp only at hupdate
          by_cases hrevision : existing.revision = expectedRevision
          · rw [if_neg (not_not.mpr hrevision)] at hupdate
            cases hupdate
            subst hrevision
            exact incidentsAfter_expected (patched patch event.time existing) rfl rfl hfound rfl
              rfl rfl
          · rw [if_pos hrevision] at hupdate
            cases hupdate
  | prepareAdvance input =>
      obtain ⟨context, -, hrest⟩ := bind_ok h
      obtain ⟨existing, hchecked, hrest⟩ := bind_ok hrest
      cases hrest
      obtain ⟨hfound, hrevision, -, -, -, -⟩ := checkAdvanceState_ok hchecked
      exact incidentsAfter_expected (advancedIncident input existing).1 rfl
        (by rw [hrevision]; rfl) hfound rfl rfl rfl
  | retireBoundary boundaryId expectedRevision retirement time =>
      obtain ⟨boundary, -, hrest⟩ := bind_ok h
      cases hrest
      exact incidentsAfter_of_kept rfl rfl rfl
  | updateCircuit sourceId expectedRevision next =>
      obtain ⟨_, -, hrest⟩ := bind_ok h
      cases hrest
      exact incidentsAfter_of_kept rfl rfl rfl
  | beginOperation input =>
      obtain ⟨operation, -, hrest⟩ := bind_ok h
      cases hfound : s.operations.get operation.operationId with
      | some existing =>
          rw [hfound] at hrest
          cases hrest
          exact incidentsAfter_of_kept rfl rfl rfl
      | none =>
          rw [hfound] at hrest
          obtain ⟨_, -, hrest⟩ := bind_ok hrest
          cases hrest
          exact incidentsAfter_of_kept rfl rfl rfl
  | finishOperation operationId state result time =>
      obtain ⟨_, -, hrest⟩ := bind_ok h
      obtain ⟨_, -, hrest⟩ := bind_ok hrest
      cases hrest
      exact incidentsAfter_of_kept rfl rfl rfl
  | abandonPendingOperations time =>
      cases h
      exact incidentsAfter_of_kept rfl rfl rfl

end MemoryIncidentStore

/-! ### The numbers of the rows -/

namespace RowTable

variable {ρ : Type*}

/-- The rows are numbered from one. -/
def Dense (t : RowTable ρ) : Prop :=
  t.rows.map Prod.fst = List.range' 1 t.rows.length ∧ t.lastId = t.rows.length

theorem dense_empty : (empty : RowTable ρ).Dense := ⟨rfl, rfl⟩

theorem Dense.insert {t : RowTable ρ} (h : t.Dense) (r : ρ) : (t.insert r).Dense := by
  obtain ⟨hnumbers, hlast⟩ := h
  unfold Dense RowTable.insert
  simp only [List.map_append, List.map_cons, List.map_nil, List.length_append,
    List.length_singleton, hnumbers, hlast, and_true]
  rw [List.range'_1_concat, Nat.add_comm 1]

theorem Dense.update {t : RowTable ρ} (h : t.Dense) (p : ρ → Bool) (f : ρ → ρ) :
    (t.update p f).Dense := by
  obtain ⟨hnumbers, hlast⟩ := h
  unfold Dense RowTable.update
  rw [List.map_map, List.length_map]
  exact ⟨hnumbers, hlast⟩

end RowTable

namespace SqliteIncidentStore

variable {s s' : SqliteIncidentStore} {limits : SqliteLimits} {conditions : SqliteConditions}

theorem write_ok
    {fn : Except Refusal (StoreReply × SqliteIncidentStore)} {reply : StoreReply}
    (h : write limits conditions fn = .ok (reply, s')) : fn = .ok (reply, s') := by
  unfold write at h
  split at h
  · cases h
  · cases h
  · exact h

theorem insertIncident_incidents
    {record : IncidentRecord} (h : s.insertIncident record = .ok s') :
    ∃ row, s'.incidents = s.incidents.insert row := by
  unfold insertIncident at h
  split at h
  · cases h
  · split at h
    · cases h
    · cases h
      exact ⟨_, rfl⟩

theorem addEvent_incidents
    {failureId : String} {event : IncidentEvent} (h : s.addEvent failureId event = .ok s') :
    s'.incidents = s.incidents := by
  unfold addEvent at h
  split at h
  · cases h
  · cases h
    rfl

theorem insertBoundary_incidents
    {boundary : StoredBoundary} {context : String}
    (h : s.insertBoundary boundary context = .ok s') : s'.incidents = s.incidents := by
  unfold insertBoundary at h
  split at h
  · cases h
  · split at h
    · cases h
    · split at h
      · cases h
      · split at h
        · cases h
        · cases h
          rfl

theorem supersedePrior_incidents (time : String) (prior : Option StoredBoundary) :
    (supersedePrior time prior s).incidents = s.incidents := by
  cases prior <;> rfl

theorem saveCircuit_incidents {circuit : CircuitState} (h : s.saveCircuit circuit = .ok s') :
    s'.incidents = s.incidents := by
  unfold saveCircuit at h
  split at h
  · cases h
  · cases h
    rfl

theorem insertOperation_incidents
    {operation : StoredOperation} (h : s.insertOperation operation = .ok s') :
    s'.incidents = s.incidents := by
  unfold insertOperation at h
  split at h
  · cases h
  · split at h
    · cases h
    · cases h
      rfl

theorem pruneOperations_incidents (count : ℕ) (chosen : List (ℕ × StoredOperation)) :
    (pruneOperations count chosen s).incidents = s.incidents := by
  unfold pruneOperations
  split <;> rfl

theorem claimSource_incidents
    {stored : List SourceIdentity} {now : String} {source : SourceIdentity}
    (h : claimSource stored now s source = .ok s') : s'.incidents = s.incidents := by
  unfold claimSource at h
  split at h
  · cases h
    rfl
  · split at h
    · cases h
      rfl
    · split at h
      · cases h
      · dsimp only at h
        split at h
        · split at h
          · cases h
            rfl
          · cases h
            rfl
        · cases h
          rfl

theorem claimSources_incidents
    {stored sources : List SourceIdentity} {now : String}
    (h : sources.foldlM (claimSource stored now) s = .ok s') : s'.incidents = s.incidents := by
  induction sources generalizing s with
  | nil =>
      cases h
      rfl
  | cons source rest ih =>
      rw [List.foldlM_cons] at h
      obtain ⟨next, hstep, hrest⟩ := bind_ok h
      rw [ih hrest, claimSource_incidents hstep]

theorem claim_incidents
    {projectId now : String} {sources : List SourceIdentity} {reply : StoreReply}
    (h : s.claim limits conditions projectId sources now = .ok (reply, s')) :
    s'.incidents = s.incidents := by
  obtain ⟨_, -, hwrite⟩ := bind_ok h
  have hbody := write_ok hwrite
  unfold claimBody at hbody
  split at hbody
  · cases hbody
  · split at hbody
    · cases hbody
    · cases hfold : sources.foldlM (claimSource s.sources.contents now) s with
      | error refusal =>
          rw [hfold] at hbody
          cases hbody
      | ok final =>
          rw [hfold] at hbody
          cases hbody
          exact claimSources_incidents hfold

/-- Every statement that writes incidents inserts or rewrites rows. -/
theorem call_dense
    {c : StoreCall} {reply : StoreReply} (hdense : s.incidents.Dense)
    (h : s.call limits conditions c = .ok (reply, s')) : s'.incidents.Dense := by
  cases c with
  | claim projectId sources time =>
      rw [claim_incidents h]
      exact hdense
  | observe observation =>
      have hbody := write_ok h
      cases hfound : s.get observation.failureId with
      | none =>
          rw [hfound] at hbody
          dsimp only at hbody
          split at hbody
          · cases hbody
          · obtain ⟨_, -, hrest⟩ := bind_ok hbody
            obtain ⟨inserted, hinsert, hrest⟩ := bind_ok hrest
            obtain ⟨added, hadded, hrest⟩ := bind_ok hrest
            cases hrest
            obtain ⟨row, hrow⟩ := insertIncident_incidents hinsert
            rw [addEvent_incidents hadded, hrow]
            exact hdense.insert row
      | some existing =>
          rw [hfound] at hbody
          obtain ⟨_, -, hrest⟩ := bind_ok hbody
          obtain ⟨added, hadded, hrest⟩ := bind_ok hrest
          cases hrest
          rw [addEvent_incidents hadded]
          exact hdense.update _ _
  | update failureId expectedRevision patch event =>
      have hbody := write_ok h
      cases hfound : s.get failureId with
      | none =>
          rw [hfound] at hbody
          cases hbody
      | some existing =>
          rw [hfound] at hbody
          dsimp only at hbody
          split at hbody
          · cases hbody
          · obtain ⟨added, hadded, hrest⟩ := bind_ok hbody
            cases hrest
            rw [addEvent_incidents hadded]
            exact hdense.update _ _
  | prepareAdvance input =>
      obtain ⟨context, -, hwrite⟩ := bind_ok h
      obtain ⟨record, -, hrest⟩ := bind_ok (write_ok hwrite)
      obtain ⟨_, -, hrest⟩ := bind_ok hrest
      obtain ⟨installed, hinstalled, hrest⟩ := bind_ok hrest
      obtain ⟨added, hadded, hrest⟩ := bind_ok hrest
      obtain ⟨saved, hsaved, hrest⟩ := bind_ok hrest
      cases hrest
      rw [saveCircuit_incidents hsaved, addEvent_incidents hadded]
      apply RowTable.Dense.update
      rw [insertBoundary_incidents hinstalled, supersedePrior_incidents]
      exact hdense
  | retireBoundary boundaryId expectedRevision retirement time =>
      obtain ⟨boundary, -, hrest⟩ := bind_ok (write_ok h)
      cases hrest
      exact hdense
  | updateCircuit sourceId expectedRevision next =>
      obtain ⟨_, -, hrest⟩ := bind_ok (write_ok h)
      obtain ⟨saved, hsaved, hrest⟩ := bind_ok hrest
      cases hrest
      rw [saveCircuit_incidents hsaved]
      exact hdense
  | beginOperation input =>
      obtain ⟨operation, -, hwrite⟩ := bind_ok h
      have hbody := write_ok hwrite
      cases hfound : s.getOperation operation.operationId with
      | some existing =>
          rw [hfound] at hbody
          cases hbody
          exact hdense
      | none =>
          rw [hfound] at hbody
          obtain ⟨count, -, hrest⟩ := bind_ok hbody
          obtain ⟨_, -, hrest⟩ := bind_ok hrest
          obtain ⟨inserted, hinserted, hrest⟩ := bind_ok hrest
          cases hrest
          rw [insertOperation_incidents hinserted, pruneOperations_incidents]
          exact hdense
  | finishOperation operationId state result time =>
      obtain ⟨canonical, -, hwrite⟩ := bind_ok h
      obtain ⟨finished, -, hrest⟩ := bind_ok (write_ok hwrite)
      cases hrest
      exact hdense
  | abandonPendingOperations time =>
      have hbody := write_ok h
      cases hbody
      exact hdense

end SqliteIncidentStore

end StreamOtter
