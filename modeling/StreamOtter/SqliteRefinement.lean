import StreamOtter.JournalSound
import StreamOtter.SqliteIncidentStore

/-!
# The SQLite store refines the abstract store

`Represents` ties the tables to an abstract store.  Each call answers what the abstract call
answers and keeps the tie, unless SQLite or the journal limit refuses it or it names a source
that was never claimed.  No statement violates a constraint.
-/

namespace StreamOtter

open FailureStore

namespace SqliteIncidentStore

/-- The row that holds an incident. -/
def incidentRow (record : IncidentRecord) : IncidentRow :=
  ⟨record.failureId, record.sourceId, record.state, record⟩

def eventFromRow (row : EventRow) : IncidentEvent :=
  ⟨row.time, row.event, row.detail, row.operationId⟩

/-- The row that holds a boundary. -/
def boundaryRow (boundary : StoredBoundary) : BoundaryRow where
  boundaryId := boundary.boundaryId
  sourceId := boundary.sourceId
  generation := boundary.generation
  state := boundary.state
  revision := boundary.revision
  context := boundary.context
  failureIds := boundary.failureIds
  supersedes := boundary.supersedes
  createdAt := boundary.createdAt
  retiredAt := boundary.retiredAt
  retirementMode := boundary.retirement.map (·.mode)
  retirementReason := boundary.retirement.bind (·.reason)
  retirementOperationId := boundary.retirement.bind (·.operationId)

@[simp] theorem boundaryFromRow_boundaryRow (boundary : StoredBoundary) :
    boundaryFromRow (boundaryRow boundary) = boundary := by
  rcases boundary with ⟨_, _, _, _, _, _, _, _, _, _, retirement⟩
  cases retirement <;> rfl

structure Represents (s : SqliteIncidentStore) (j : Journal) : Prop where
  incidents : s.incidents.contents = j.incidents.values.map incidentRow
  events : ∀ failureId,
    (s.incidentEvents.contents.filter fun row => row.failureId = failureId).map eventFromRow =
      j.events failureId
  boundaries : s.boundaries.contents = j.boundaries.values.map boundaryRow
  circuits : ∀ sourceId, s.circuit sourceId = j.circuits sourceId
  generations : ∀ sourceId, s.generation sourceId = j.generations sourceId
  operations : s.operations.contents = j.operations.values
  /-- Every incident, boundary and circuit belongs to a claimed source. -/
  sourced : ∀ record ∈ j.incidents.values, (j.generations record.sourceId).isSome
  bounded : ∀ boundary ∈ j.boundaries.values, (j.generations boundary.sourceId).isSome
  circuitOf : ∀ sourceId, (j.circuits sourceId).sourceId = sourceId

theorem represents_initial (projectId : String) :
    (initial projectId).Represents Journal.initial := by
  constructor <;> try rfl
  · intro failureId
    rfl
  · intro sourceId
    rfl
  · intro sourceId
    rfl
  · intro record hrecord
    simp [Journal.initial] at hrecord
  · intro boundary hboundary
    simp [Journal.initial] at hboundary
  · intro sourceId
    rfl

section Queries

variable {s : SqliteIncidentStore} {j : Journal}

theorem Represents.get (h : s.Represents j) (failureId : String) :
    s.get failureId = j.incidents.get failureId := by
  have hrow : (s.incidents.select fun row => row.failureId = failureId).head?.map Prod.snd =
      (j.incidents.get failureId).map incidentRow := by
    rw [RowTable.head?_select, h.incidents, List.find?_map]
    rfl
  unfold SqliteIncidentStore.get
  cases hfound : j.incidents.get failureId with
  | none =>
      rw [hfound] at hrow
      simpa using hrow
  | some record =>
      rw [hfound] at hrow
      obtain ⟨row, hhead, hrecord⟩ := Option.map_eq_some_iff.mp hrow
      simp [hhead, hrecord, incidentRow]

theorem Represents.getBoundary (h : s.Represents j) (boundaryId : String) :
    s.getBoundary boundaryId = j.boundaries.get boundaryId := by
  have hrow : (s.boundaries.select fun row => row.boundaryId = boundaryId).head?.map Prod.snd =
      (j.boundaries.get boundaryId).map boundaryRow := by
    rw [RowTable.head?_select, h.boundaries, List.find?_map]
    rfl
  unfold SqliteIncidentStore.getBoundary
  cases hfound : j.boundaries.get boundaryId with
  | none =>
      rw [hfound] at hrow
      simpa using hrow
  | some boundary =>
      rw [hfound] at hrow
      obtain ⟨row, hhead, hboundary⟩ := Option.map_eq_some_iff.mp hrow
      simp [hhead, hboundary]

theorem Represents.inForceBoundary (h : s.Represents j) (sourceId : String) :
    s.inForceBoundary sourceId = j.boundary sourceId := by
  have hrow : (s.boundaries.select fun row =>
        row.sourceId = sourceId && row.state = .inForce).head?.map Prod.snd =
      (j.boundary sourceId).map boundaryRow := by
    rw [RowTable.head?_select, h.boundaries, List.find?_map]
    rfl
  unfold SqliteIncidentStore.inForceBoundary
  cases hfound : j.boundary sourceId with
  | none =>
      rw [hfound] at hrow
      simpa using hrow
  | some boundary =>
      rw [hfound] at hrow
      obtain ⟨row, hhead, hboundary⟩ := Option.map_eq_some_iff.mp hrow
      simp [hhead, hboundary]

theorem Represents.getOperation (h : s.Represents j) (operationId : String) :
    s.getOperation operationId = j.operations.get operationId := by
  unfold SqliteIncidentStore.getOperation
  show Option.map Prod.snd _ = _
  rw [RowTable.head?_select, h.operations]
  rfl

theorem Represents.opened (h : s.Represents j) (sourceId : String) :
    s.opened sourceId = j.opened sourceId := by
  unfold SqliteIncidentStore.opened Journal.opened
  have hrows := RowTable.map_select
    (fun row : IncidentRow => row.sourceId = sourceId && row.state = .opened) s.incidents
  rw [h.incidents, List.filter_map] at hrows
  have hrecords := congrArg (List.map fun row : IncidentRow => row.record) hrows
  rw [List.map_map, List.map_map] at hrecords
  have hself : ((fun row : IncidentRow => row.record) ∘ incidentRow) = id := rfl
  rw [hself, List.map_id] at hrecords
  exact hrecords

theorem Represents.openCount (h : s.Represents j) (sourceId : String) :
    s.openCount sourceId = (j.opened sourceId).length := by
  rw [← h.opened]
  simp [SqliteIncidentStore.openCount, SqliteIncidentStore.opened]

theorem Represents.eventsOf (h : s.Represents j) (hsound : j.Sound) (failureId : String) :
    s.eventsOf failureId = j.events failureId := by
  have hevents := h.events failureId
  have hcapped := hsound.capped failureId
  rw [← RowTable.map_select, List.map_map] at hevents
  have hlength : (s.incidentEvents.select fun row => row.failureId = failureId).length ≤
      maxEventsPerIncident := by
    rw [← hevents, List.length_map] at hcapped
    exact hcapped
  unfold SqliteIncidentStore.eventsOf
  rw [List.take_of_length_le (by simpa using hlength), List.reverse_reverse]
  exact hevents

theorem Represents.view (h : s.Represents j) (hsound : j.Sound) : s.view = j.view := by
  unfold SqliteIncidentStore.view Journal.view
  congr 1
  · exact funext h.get
  · exact funext h.opened
  · exact funext (h.eventsOf hsound)
  · exact funext h.inForceBoundary
  · exact funext h.getBoundary
  · exact funext h.circuits
  · exact funext h.getOperation

theorem Represents.isKnownSource (h : s.Represents j) (sourceId : String) :
    s.isKnownSource sourceId = (j.generations sourceId).isSome := by
  rw [← h.generations]
  simp [SqliteIncidentStore.isKnownSource, SqliteIncidentStore.generation]

end Queries

section Statements

variable {s : SqliteIncidentStore} {j : Journal}

/-- What the tables hold of histories after an event is added. -/
theorem addEvent_ok
    (failureId : String) (event : IncidentEvent)
    (hknown : ∃ row ∈ s.incidents.contents, row.failureId = failureId) :
    ∃ s', s.addEvent failureId event = .ok s' ∧
      s' = { s with incidentEvents := s'.incidentEvents } ∧
      ∀ id, (s'.incidentEvents.contents.filter fun row => row.failureId = id).map eventFromRow =
        if id = failureId then
          capEvents ((s.incidentEvents.contents.filter fun row =>
            row.failureId = failureId).map eventFromRow ++ [event])
        else (s.incidentEvents.contents.filter fun row => row.failureId = id).map eventFromRow := by
  obtain ⟨row, hrow, hid⟩ := hknown
  have hany : (s.incidents.contents.any fun row => row.failureId = failureId) = true := by
    rw [List.any_eq_true]
    exact ⟨row, hrow, by simpa using hid⟩
  unfold addEvent
  rw [hany]
  refine ⟨_, rfl, rfl, ?_⟩
  intro id
  by_cases hsame : id = failureId
  · subst hsame
    rw [if_pos rfl]
    dsimp only
    rw [RowTable.filter_keepNewest, RowTable.contents_insert, List.filter_append]
    simp [capEvents, eventFromRow]
  · rw [if_neg hsame]
    dsimp only
    rw [RowTable.filter_keepNewest_other, RowTable.contents_insert, List.filter_append]
    · simp [Ne.symm hsame]
    · intro r hr
      simp only [decide_eq_true_eq] at hr
      simp [hr, hsame]

/-- The tie after the incidents and one history changed. -/
theorem Represents.afterEvent
    (h : s.Represents j) {record : IncidentRecord} (event : IncidentEvent)
    {incidents : RowTable IncidentRow}
    (hincidents : incidents.contents = (j.incidents.set record).values.map incidentRow)
    (hsourced : (j.generations record.sourceId).isSome) :
    ∃ s', { s with incidents := incidents }.addEvent record.failureId event = .ok s' ∧
      s' = { s with incidents := incidents, incidentEvents := s'.incidentEvents } ∧
      s'.Represents (j.record record event) := by
  have hknown : ∃ row ∈ incidents.contents, row.failureId = record.failureId := by
    refine ⟨incidentRow record, ?_, rfl⟩
    rw [hincidents]
    exact List.mem_map_of_mem (InsertionMap.mem_set.mpr (.inl rfl))
  obtain ⟨s', hadded, hsame, hevents⟩ :=
    addEvent_ok record.failureId event (s := { s with incidents := incidents }) hknown
  refine ⟨s', hadded, hsame, ?_⟩
  constructor
  · rw [hsame]
    exact hincidents
  · intro id
    rw [hevents id]
    simp only [Journal.record, Journal.addEvent, Function.update_apply]
    rw [h.events, h.events]
  · rw [hsame]
    exact h.boundaries
  · rw [hsame]
    exact h.circuits
  · rw [hsame]
    exact h.generations
  · rw [hsame]
    exact h.operations
  · intro other hother
    rcases InsertionMap.mem_set.mp hother with rfl | ⟨hold, -⟩
    · exact hsourced
    · exact h.sourced other hold
  · exact h.bounded
  · exact h.circuitOf

/-- A new incident of a claimed source is inserted. -/
theorem Represents.insertIncident
    (h : s.Represents j) (record : IncidentRecord)
    (hfresh : j.incidents.get record.failureId = none)
    (hsourced : (j.generations record.sourceId).isSome) (event : IncidentEvent) :
    ∃ s' s'', s.insertIncident record = .ok s' ∧ s'.addEvent record.failureId event = .ok s'' ∧
      s''.Represents (j.record record event) := by
  have hunique : (s.incidents.contents.any fun row => row.failureId = record.failureId) =
      false := by
    rw [List.any_eq_false, h.incidents]
    intro row hrow
    obtain ⟨other, hother, rfl⟩ := List.mem_map.mp hrow
    have hne := InsertionMap.get_eq_none.mp hfresh other hother
    simp [incidentRow, hne]
  have hinserted : s.insertIncident record = .ok { s with
      incidents := s.incidents.insert (incidentRow record) } := by
    unfold SqliteIncidentStore.insertIncident
    rw [hunique, h.isKnownSource, hsourced]
    rfl
  have hcontents : (s.incidents.insert (incidentRow record)).contents =
      (j.incidents.set record).values.map incidentRow := by
    rw [RowTable.contents_insert, h.incidents, InsertionMap.values_set_of_get_none hfresh]
    simp
  obtain ⟨s', hadded, -, hrepresents⟩ := h.afterEvent event hcontents hsourced
  exact ⟨_, s', hinserted, hadded, hrepresents⟩

/-- A stored incident is rewritten. -/
theorem Represents.replace
    (h : s.Represents j) {record existing : IncidentRecord}
    (hfound : j.incidents.get record.failureId = some existing)
    (hsource : existing.sourceId = record.sourceId) (event : IncidentEvent) :
    ∃ s', (s.replace record).addEvent record.failureId event = .ok s' ∧
      s' = { s with incidents := s'.incidents, incidentEvents := s'.incidentEvents } ∧
      s'.Represents (j.record record event) := by
  obtain ⟨hmem, hid⟩ := InsertionMap.get_eq_some.mp hfound
  have hcontents : (s.replace record).incidents.contents =
      (j.incidents.set record).values.map incidentRow := by
    unfold SqliteIncidentStore.replace
    rw [RowTable.contents_update, h.incidents, List.map_map,
      InsertionMap.values_set_of_get_some hfound, List.map_map]
    apply List.map_congr_left
    intro u hu
    by_cases hkey : u.failureId = record.failureId
    · have hu' : u = existing := InsertionMap.eq_of_mem hu hmem (hkey.trans hid.symm)
      subst hu'
      simp [incidentRow, hid, hsource]
    · simp [incidentRow, hkey]
  obtain ⟨s', hadded, hsame, hrepresents⟩ := h.afterEvent event hcontents
    (hsource ▸ h.sourced existing hmem)
  refine ⟨s', hadded, ?_, hrepresents⟩
  rw [hsame]

theorem saveBoundary_contents
    (h : s.Represents j) {boundary : StoredBoundary} (retirement : Retirement) (time : String)
    (hmem : boundary ∈ j.boundaries.values) :
    (s.saveBoundary (endBoundary retirement time boundary)).boundaries.contents =
      (j.boundaries.set (endBoundary retirement time boundary)).values.map boundaryRow := by
  have hget : j.boundaries.get (endBoundary retirement time boundary).boundaryId =
      some boundary := InsertionMap.get_eq_some.mpr ⟨hmem, rfl⟩
  unfold SqliteIncidentStore.saveBoundary
  rw [RowTable.contents_update, h.boundaries, List.map_map,
    InsertionMap.values_set_of_get_some hget, List.map_map]
  apply List.map_congr_left
  intro u hu
  by_cases hkey : u.boundaryId = boundary.boundaryId
  · have hu' : u = boundary := InsertionMap.eq_of_mem hu hmem hkey
    subst hu'
    simp [boundaryRow, endBoundary]
  · simp [boundaryRow, hkey]

theorem Represents.saveBoundary
    (h : s.Represents j) {boundary : StoredBoundary} (retirement : Retirement) (time : String)
    (hmem : boundary ∈ j.boundaries.values) :
    (s.saveBoundary (endBoundary retirement time boundary)).Represents
      { j with boundaries := j.boundaries.set (endBoundary retirement time boundary) } := by
  refine ⟨h.incidents, h.events, saveBoundary_contents h retirement time hmem, h.circuits,
    h.generations, h.operations, h.sourced, ?_, h.circuitOf⟩
  intro other hother
  rcases InsertionMap.mem_set.mp hother with rfl | ⟨hold, -⟩
  · exact h.bounded boundary hmem
  · exact h.bounded other hold

end Statements

section Calls

variable {s : SqliteIncidentStore} {j : Journal} {limits : SqliteLimits}
  {conditions : SqliteConditions}

/-- The call names no source that was never claimed. -/
def NamesClaimed (j : Journal) : StoreCall → Prop
  | .observe observation =>
      (j.incidents.get observation.failureId).isSome ∨ (j.generations observation.sourceId).isSome
  | .updateCircuit sourceId _ _ => (j.generations sourceId).isSome
  | _ => True

/-- SQLite or the journal limit may refuse the call, or it names an unknown source. -/
def Hindered (conditions : SqliteConditions) (j : Journal) (c : StoreCall) : Prop :=
  conditions.fault ≠ none ∨ conditions.overLimit ≠ none ∨ ¬NamesClaimed j c

theorem agrees_write
    {exceeded : Prop} {fn : Except Refusal (StoreReply × SqliteIncidentStore)}
    {answer : Except Refusal (StoreReply × Journal)}
    (hfault : conditions.fault ≠ none → exceeded) (h : Agrees Represents exceeded fn answer) :
    Agrees Represents exceeded (write limits conditions fn) answer := by
  unfold write
  cases hcase : conditions.fault with
  | none => exact h
  | some fault =>
      have hexceeded := hfault (by simp [hcase])
      cases fault with
      | full => exact .full hexceeded
      | other message => exact .full hexceeded

theorem agrees_admitWrite
    {exceeded : Prop} {action : String}
    {f : Unit → Except Refusal (StoreReply × SqliteIncidentStore)}
    {answer : Except Refusal (StoreReply × Journal)}
    (hover : conditions.overLimit ≠ none → exceeded) (h : Agrees Represents exceeded (f ()) answer) :
    Agrees Represents exceeded (admitWrite limits conditions action >>= f) answer := by
  unfold admitWrite
  cases hcase : conditions.overLimit with
  | none => exact h
  | some live => exact .full (hover (by simp [hcase]))

theorem Represents.observe (h : s.Represents j) (observation : NewObservation) :
    Agrees Represents (Hindered conditions j (.observe observation))
      (s.observe limits conditions observation) (.ok (j.observe observation)) := by
  unfold SqliteIncidentStore.observe Journal.observe
  apply agrees_write fun hfault => .inl hfault
  rw [h.get, h.isKnownSource]
  cases hfound : j.incidents.get observation.failureId with
  | none =>
      dsimp only
      cases hclaimed : (j.generations observation.sourceId).isSome with
      | false =>
          apply Agrees.full
          right
          right
          simp [NamesClaimed, hfound, hclaimed]
      | true =>
          obtain ⟨s', s'', hinserted, hadded, hrepresents⟩ :=
            h.insertIncident (newIncident observation) hfound hclaimed
              (detectedEvent observation.observedAt (failureClassText observation.failureClass))
          apply agrees_admitWrite fun hover => .inr (.inl hover)
          rw [hinserted, ok_bind]
          show Agrees _ _ (s'.addEvent (newIncident observation).failureId _ >>= _) _
          rw [show (newIncident observation).failureClass = observation.failureClass from rfl,
            hadded, ok_bind]
          exact .done hrepresents
  | some existing =>
      have hid := observedAgain_failureId observation existing
      have hsource := observedAgain_sourceId observation existing
      rcases hagain : observedAgain observation existing with ⟨record, detail⟩
      rw [hagain] at hid hsource
      have hobserved : j.incidents.get record.failureId = some existing := by
        rw [hid, InsertionMap.key_of_get hfound]
        exact hfound
      obtain ⟨s', hreplaced, -, hrepresents⟩ :=
        h.replace hobserved hsource.symm (detectedEvent observation.observedAt detail)
      dsimp only
      rw [hagain]
      apply agrees_admitWrite fun hover => .inr (.inl hover)
      rw [hreplaced, ok_bind]
      exact .done hrepresents

theorem Represents.update
    (h : s.Represents j) (failureId : String) (expectedRevision : ℕ) (patch : IncidentPatch)
    (event : IncidentEvent) (c : StoreCall) :
    Agrees Represents (Hindered conditions j c)
      (s.update limits conditions failureId expectedRevision patch event)
      (j.update failureId expectedRevision patch event) := by
  unfold SqliteIncidentStore.update Journal.update
  apply agrees_write fun hfault => .inl hfault
  rw [h.get]
  cases hfound : j.incidents.get failureId with
  | none => exact .refused _
  | some existing =>
      dsimp only
      by_cases hrevision : existing.revision = expectedRevision
      · simp only [hrevision, ne_eq, not_true_eq_false, if_false]
        have hexisting : existing.failureId = failureId := InsertionMap.key_of_get hfound
        have hid : (patched patch event.time existing).failureId = failureId := hexisting
        have hpatched : j.incidents.get (patched patch event.time existing).failureId =
            some existing := by
          rw [hid]
          exact hfound
        obtain ⟨s', hreplaced, -, hrepresents⟩ := h.replace hpatched rfl event
        rw [hid] at hreplaced
        rw [hreplaced, ok_bind]
        exact .done hrepresents
      · simp only [ne_eq, hrevision, not_false_eq_true, if_true]
        exact .refused _

theorem Represents.retireBoundary
    (h : s.Represents j) (boundaryId : String) (expectedRevision : ℕ) (retirement : Retirement)
    (time : String) (c : StoreCall) :
    Agrees Represents (Hindered conditions j c)
      (s.retireBoundary limits conditions boundaryId expectedRevision retirement time)
      (j.retireBoundary boundaryId expectedRevision retirement time) := by
  unfold SqliteIncidentStore.retireBoundary Journal.retireBoundary
  apply agrees_write fun hfault => .inl hfault
  rw [h.getBoundary, show (fun failureId => s.get failureId) = j.incidents.get from funext h.get]
  apply Agrees.bind
  intro boundary hchecked
  obtain ⟨hfound, -, -, -⟩ := checkRetirement_ok hchecked
  exact .done (h.saveBoundary retirement time (InsertionMap.mem_of_get hfound))

theorem Represents.saveCircuit
    (h : s.Represents j) (circuit : CircuitState)
    (hclaimed : (j.generations circuit.sourceId).isSome) :
    ∃ s', s.saveCircuit circuit = .ok s' ∧
      s'.Represents { j with circuits := Function.update j.circuits circuit.sourceId circuit } := by
  have hknown := h.isKnownSource circuit.sourceId
  rw [hclaimed] at hknown
  unfold SqliteIncidentStore.saveCircuit
  rw [hknown]
  refine ⟨_, rfl, h.incidents, h.events, h.boundaries, ?_, h.generations, h.operations, h.sourced,
    h.bounded, ?_⟩
  · intro sourceId
    have hcircuit := h.circuits sourceId
    show (Function.update s.circuits circuit.sourceId (some circuit) sourceId).getD _ =
      Function.update j.circuits circuit.sourceId circuit sourceId
    rw [Function.update_apply, Function.update_apply]
    by_cases hsource : sourceId = circuit.sourceId
    · rw [if_pos hsource, if_pos hsource]
      rfl
    · rw [if_neg hsource, if_neg hsource]
      exact hcircuit
  · intro sourceId
    have hcircuitOf := h.circuitOf sourceId
    simp only [Function.update_apply]
    by_cases hsource : sourceId = circuit.sourceId
    · rw [if_pos hsource, hsource]
    · rw [if_neg hsource]
      exact hcircuitOf

theorem Represents.updateCircuit
    (h : s.Represents j) (sourceId : String) (expectedRevision : ℕ) (next : CircuitUpdate) :
    Agrees Represents (Hindered conditions j (.updateCircuit sourceId expectedRevision next))
      (s.updateCircuit limits conditions sourceId expectedRevision next)
      (j.updateCircuit sourceId expectedRevision next) := by
  unfold SqliteIncidentStore.updateCircuit Journal.updateCircuit
  apply agrees_write fun hfault => .inl hfault
  dsimp only
  rw [h.circuits]
  apply Agrees.bind
  intro _ _
  by_cases hclaimed : (j.generations sourceId).isSome
  · obtain ⟨s', hsaved, hrepresents⟩ := h.saveCircuit
      (checkCircuit sourceId next ((j.circuits sourceId).revision + 1)) hclaimed
    rw [hsaved, ok_bind]
    exact .done hrepresents
  · have hunknown : s.saveCircuit (checkCircuit sourceId next
        ((j.circuits sourceId).revision + 1)) = .error (sourceNotClaimed sourceId) := by
      unfold SqliteIncidentStore.saveCircuit
      rw [h.isKnownSource]
      simp [checkCircuit, hclaimed]
    rw [hunknown, error_bind]
    exact .full (.inr (.inr hclaimed))

/-- The prior boundary is marked superseded. -/
theorem Represents.supersede
    (h : s.Represents j) (time : String) {prior : Option StoredBoundary}
    (hprior : ∀ b, prior = some b → b ∈ j.boundaries.values) :
    (supersedePrior time prior s).Represents
      { j with boundaries := Journal.supersede time prior j.boundaries } := by
  cases prior with
  | none => exact h
  | some b => exact h.saveBoundary supersession time (hprior b rfl)

/-- A new boundary is inserted for a source that has none in force. -/
theorem Represents.insertBoundary
    (h : s.Represents j) (boundary : StoredBoundary)
    (hfresh : j.boundaries.get boundary.boundaryId = none)
    (hnone : ∀ b, ¬InForce j.boundaries boundary.sourceId b)
    (hclaimed : (j.generations boundary.sourceId).isSome)
    (hsupersedes : ∀ prior, boundary.supersedes = some prior →
      ∃ b ∈ j.boundaries.values, b.boundaryId = prior)
    (hnew : boundary.retiredAt = none ∧ boundary.retirement = none) :
    ∃ s', s.insertBoundary boundary boundary.context = .ok s' ∧
      s'.Represents { j with boundaries := j.boundaries.set boundary } := by
  have hunique : (s.boundaries.contents.any fun row => row.boundaryId = boundary.boundaryId) =
      false := by
    rw [List.any_eq_false, h.boundaries]
    intro row hrow
    obtain ⟨other, hother, rfl⟩ := List.mem_map.mp hrow
    have hne := InsertionMap.get_eq_none.mp hfresh other hother
    simp [boundaryRow, hne]
  have hforce : (s.boundaries.contents.any fun row =>
      row.sourceId = boundary.sourceId && row.state = .inForce) = false := by
    rw [List.any_eq_false, h.boundaries]
    intro row hrow hboth
    obtain ⟨other, hother, rfl⟩ := List.mem_map.mp hrow
    simp only [Bool.and_eq_true, decide_eq_true_eq] at hboth
    exact hnone other ⟨hother, hboth.1, hboth.2⟩
  have hreferences : (boundary.supersedes.any fun prior =>
      !s.boundaries.contents.any fun row => row.boundaryId = prior) = false := by
    cases hprior : boundary.supersedes with
    | none => rfl
    | some prior =>
        obtain ⟨b, hb, hid⟩ := hsupersedes prior hprior
        have hany : (s.boundaries.contents.any fun row => row.boundaryId = prior) = true := by
          rw [List.any_eq_true, h.boundaries]
          exact ⟨boundaryRow b, List.mem_map_of_mem hb, by simp [boundaryRow, hid]⟩
        simp [hany]
  have hknown := h.isKnownSource boundary.sourceId
  rw [hclaimed] at hknown
  have hinserted : s.insertBoundary boundary boundary.context =
      .ok { s with boundaries := s.boundaries.insert (boundaryRow boundary) } := by
    unfold SqliteIncidentStore.insertBoundary
    rw [hunique, hforce, hknown, hreferences]
    simp [boundaryRow, hnew]
  refine ⟨_, hinserted, h.incidents, h.events, ?_, h.circuits, h.generations, h.operations,
    h.sourced, ?_, h.circuitOf⟩
  · rw [RowTable.contents_insert, h.boundaries, InsertionMap.values_set_of_get_none hfresh]
    simp
  · intro other hother
    rcases InsertionMap.mem_set.mp hother with rfl | ⟨hold, -⟩
    · exact hclaimed
    · exact h.bounded other hold

theorem Represents.prepareAdvance
    (h : s.Represents j) (hsound : j.Sound) (input : PrepareAdvance) (c : StoreCall) :
    Agrees Represents (Hindered conditions j c) (s.prepareAdvance limits conditions input)
      (j.prepareAdvance input) := by
  unfold SqliteIncidentStore.prepareAdvance Journal.prepareAdvance
  apply Agrees.bind
  intro context _
  apply agrees_write fun hfault => .inl hfault
  have hprior : ((j.incidents.get input.failureId).bind fun record =>
      s.inForceBoundary record.sourceId) = j.priorOf input.failureId := by
    unfold Journal.priorOf
    congr 1
    funext record
    exact h.inForceBoundary record.sourceId
  have hgeneration : ((j.incidents.get input.failureId).bind fun record =>
      s.generation record.sourceId) =
      (j.incidents.get input.failureId).bind fun record => j.generations record.sourceId := by
    congr 1
    funext record
    exact h.generations record.sourceId
  dsimp only
  rw [h.get, hprior, hgeneration, h.getBoundary]
  apply Agrees.bind
  intro record hchecked
  obtain ⟨hfound, -, -, -, -, htaken⟩ := checkAdvanceState_ok hchecked
  obtain ⟨hmem, hid⟩ := InsertionMap.get_eq_some.mp hfound
  have hfresh : j.boundaries.get input.boundaryId = none := by simpa using htaken
  have hpriorOf : j.priorOf input.failureId = j.boundary record.sourceId := by
    simp [Journal.priorOf, hfound]
  have hclaimed := h.sourced record hmem
  rw [hpriorOf]
  apply agrees_admitWrite fun hover => .inr (.inl hover)
  have hin : ∀ b, j.boundary record.sourceId = some b ↔ InForce j.boundaries record.sourceId b :=
    fun b => Journal.boundary_eq_some hsound.oneInForce
  have hnone : ∀ b, ¬InForce (Journal.supersede input.time (j.boundary record.sourceId)
      j.boundaries) record.sourceId b := by
    intro b hb
    exact ((inForce_supersede hsound.oneInForce hin b).mp hb).2 rfl
  have hsupersedes : ∀ prior, (j.boundary record.sourceId).map (·.boundaryId) = some prior →
      ∃ b ∈ (Journal.supersede input.time (j.boundary record.sourceId) j.boundaries).values,
        b.boundaryId = prior := by
    intro prior hid
    exact supersede_present (fun b hb => (hin b).mp hb) hid
  have hsuperseded := h.supersede input.time fun b hb => ((hin b).mp hb).1
  obtain ⟨s₁, hinserted, hinstalled⟩ :=
    hsuperseded.insertBoundary (nextBoundary input record (j.boundary record.sourceId) context)
      (supersede_fresh hin hfresh) hnone hclaimed hsupersedes ⟨rfl, rfl⟩
  have hadvanced : j.incidents.get (advancedIncident input record).1.failureId = some record := by
    rw [← hid] at hfound
    exact hfound
  obtain ⟨s₂, hreplaced, -, hrecorded⟩ :=
    hinstalled.replace hadvanced rfl (advancedIncident input record).2
  have hcontext : (nextBoundary input record (j.boundary record.sourceId) context).context =
      context := rfl
  rw [hcontext] at hinserted
  rw [hinserted, ok_bind]
  have hid' : (advancedIncident input record).1.failureId = record.failureId := rfl
  rw [hid'] at hreplaced
  rw [hreplaced, ok_bind]
  have hcircuit : s₂.circuit record.sourceId = j.circuits record.sourceId :=
    hrecorded.circuits record.sourceId
  have hearlier : (record.boundaryId.map fun boundaryId =>
        ((s₂.getBoundary boundaryId).map (·.createdAt)).getD "") =
      Journal.earlierAdvance (Journal.install input.time (j.boundary record.sourceId)
        (nextBoundary input record (j.boundary record.sourceId) context) j.boundaries) record := by
    unfold Journal.earlierAdvance
    congr 1
    funext boundaryId
    rw [hrecorded.getBoundary]
    rfl
  rw [hcircuit, hearlier]
  have hcounted : ∀ earlier,
      (countedAdvance input.time earlier (j.circuits record.sourceId)).sourceId =
        record.sourceId := fun _ => h.circuitOf record.sourceId
  have hknown : ∀ earlier, (j.generations (countedAdvance input.time earlier
      (j.circuits record.sourceId)).sourceId).isSome := by
    intro earlier
    rw [hcounted]
    exact hclaimed
  obtain ⟨s₃, hsaved, hrepresents⟩ := hrecorded.saveCircuit _
    (hknown (Journal.earlierAdvance (Journal.install input.time (j.boundary record.sourceId)
      (nextBoundary input record (j.boundary record.sourceId) context) j.boundaries) record))
  rw [hsaved, ok_bind]
  rw [hcounted] at hrepresents
  exact .done hrepresents

/-- The tie after a change of operations only. -/
theorem Represents.withOperations
    (h : s.Represents j) {rows : RowTable StoredOperation}
    {operations : InsertionMap StoredOperation.operationId}
    (hoperations : rows.contents = operations.values) :
    { s with operations := rows }.Represents { j with operations := operations } :=
  ⟨h.incidents, h.events, h.boundaries, h.circuits, h.generations, hoperations, h.sourced,
    h.bounded, h.circuitOf⟩

theorem length_le_utf16Length (text : String) : text.length ≤ utf16Length text := by
  unfold utf16Length
  rw [← String.length_toList]
  induction text.toList with
  | nil => simp
  | cons c rest ih =>
      rw [List.length_cons, List.map_cons, List.sum_cons]
      split <;> omega

theorem Represents.insertOperation
    (h : s.Represents j) (operation : StoredOperation)
    (hfresh : j.operations.get operation.operationId = none)
    (hlength : operation.operationId.length ≠ 0 ∧ operation.operationId.length ≤ 128) :
    ∃ s', s.insertOperation operation = .ok s' ∧
      s'.Represents { j with operations := j.operations.set operation } := by
  have hunique : (s.operations.contents.any fun row => row.operationId = operation.operationId) =
      false := by
    rw [List.any_eq_false, h.operations]
    intro row hrow
    simpa using InsertionMap.get_eq_none.mp hfresh row hrow
  have hchecked : ¬(operation.operationId.length = 0 ∨ 128 < operation.operationId.length) := by
    omega
  unfold SqliteIncidentStore.insertOperation
  rw [hunique, if_neg (by simp), if_neg hchecked]
  refine ⟨_, rfl, h.withOperations ?_⟩
  rw [RowTable.contents_insert, h.operations, InsertionMap.values_set_of_get_none hfresh]

/-- Making room drops the same operations in both. -/
theorem Represents.pruned
    (h : s.Represents j) (count : ℕ) (chosen : List (ℕ × StoredOperation))
    (hchosen : chosen = (RowTable.orderBy (Journal.finishedBefore codePointLe)
      (s.operations.select Journal.isFinished)).take count) :
    (pruneOperations count chosen s).Represents
      { j with
        operations := j.operations.filter fun item =>
          item.operationId ∉
            (Journal.pruned codePointLe count j.operations.values).map (·.operationId) } := by
  have hordered : (s.operations.select Journal.isFinished).Pairwise fun a b => a.1 < b.1 :=
    s.operations.ordered.sublist List.filter_sublist
  have hcontents : chosen.map Prod.snd =
      Journal.pruned codePointLe count j.operations.values := by
    rw [hchosen, List.map_take, RowTable.map_orderBy _ hordered, RowTable.map_select,
      h.operations]
    rfl
  unfold pruneOperations
  by_cases hcount : 0 < count
  · rw [if_pos hcount]
    apply h.withOperations
    have hdistinct : (s.operations.contents.map (·.operationId)).Nodup := by
      rw [h.operations]
      exact j.operations.distinct
    have hrows : ∀ row ∈ chosen, row ∈ s.operations.rows := by
      intro row hrow
      rw [hchosen] at hrow
      have hselected := (List.mergeSort_perm _ _).subset (List.mem_of_mem_take hrow)
      exact List.mem_of_mem_filter hselected
    rw [RowTable.contents_deleteChosen hdistinct hrows, hcontents, h.operations]
    rfl
  · rw [if_neg hcount]
    have hzero : count = 0 := by omega
    subst hzero
    apply h.withOperations
    rw [h.operations]
    simp [Journal.pruned]

theorem Represents.beginOperation
    (h : s.Represents j) (input : NewOperation) (c : StoreCall) :
    Agrees Represents (Hindered conditions j c) (s.beginOperation limits conditions input)
      (j.beginOperation codePointLe limits.maxOperations input) := by
  unfold SqliteIncidentStore.beginOperation Journal.beginOperation
  apply Agrees.bind
  intro operation hoperation
  obtain ⟨rfl, hnonempty, hshort⟩ := newOperation_ok hoperation
  have hlength : input.operationId.length ≠ 0 ∧ input.operationId.length ≤ 128 := by
    have hle := length_le_utf16Length input.operationId
    refine ⟨by simpa using hnonempty, ?_⟩
    unfold maxOperationId at hshort
    omega
  apply agrees_write fun hfault => .inl hfault
  rw [h.getOperation]
  cases hfound : j.operations.get input.operationId with
  | some existing => exact .done h
  | none =>
      have hstored : s.operations.rows.length = j.operations.values.length := by
        rw [RowTable.length_rows, h.operations]
      have hfinished : (s.operations.select Journal.isFinished).length =
          (j.operations.values.filter Journal.isFinished).length := by
        rw [← h.operations, ← RowTable.map_select, List.length_map]
      dsimp only
      rw [hstored, hfinished]
      apply Agrees.bind
      intro count _
      have hpruned := h.pruned count _ rfl
      have hfresh : (j.operations.filter fun item =>
          item.operationId ∉ (Journal.pruned codePointLe count j.operations.values).map
            (·.operationId)).get input.operationId = none := by
        rw [InsertionMap.get_eq_none]
        intro item hitem
        exact InsertionMap.get_eq_none.mp hfound item (List.mem_of_mem_filter hitem)
      obtain ⟨s', hinserted, hrepresents⟩ := hpruned.insertOperation
        ⟨input.operationId, input.kind, input.sourceId, input.failureId, input.requestHash,
          .pending, none, input.time, none⟩ hfresh hlength
      apply agrees_admitWrite fun hover => .inr (.inl hover)
      rw [hinserted, ok_bind]
      exact .done hrepresents

theorem Represents.finishOperation
    (h : s.Represents j) (operationId : String) (state : FinishState)
    (result : Except String String) (time : String) (c : StoreCall) :
    Agrees Represents (Hindered conditions j c)
      (s.finishOperation limits conditions operationId state result time)
      (j.finishOperation operationId state result time) := by
  unfold SqliteIncidentStore.finishOperation Journal.finishOperation
  apply Agrees.bind
  intro canonical _
  apply agrees_write fun hfault => .inl hfault
  rw [h.getOperation]
  apply Agrees.bind
  intro finished hfinished
  unfold finishedOperation at hfinished
  cases hfound : j.operations.get operationId with
  | none =>
      rw [hfound] at hfinished
      cases hfinished
  | some operation =>
      obtain ⟨hmem, hid⟩ := InsertionMap.get_eq_some.mp hfound
      rw [hfound] at hfinished
      dsimp only at hfinished
      split at hfinished
      · cases hfinished
      · cases hfinished
        apply Agrees.done
        apply h.withOperations
        have hget : j.operations.get operation.operationId = some operation := by
          rw [hid]
          exact hfound
        have hvalues := InsertionMap.values_set_of_get_some (m := j.operations)
          (v := { operation with
            state := state.toOperationState
            result := some canonical
            completedAt := some time }) hget
        rw [RowTable.contents_update, h.operations, hvalues]
        apply List.map_congr_left
        intro u hu
        by_cases hkey : u.operationId = operationId
        · have hu' : u = operation := InsertionMap.eq_of_mem hu hmem (hkey.trans hid.symm)
          subst hu'
          simp [hkey]
        · simp [hid, hkey]

theorem Represents.abandonPendingOperations
    (h : s.Represents j) (time : String) (c : StoreCall) :
    Agrees Represents (Hindered conditions j c)
      (s.abandonPendingOperations limits conditions time)
      (.ok (j.abandonPendingOperations time)) := by
  unfold SqliteIncidentStore.abandonPendingOperations Journal.abandonPendingOperations
  apply agrees_write fun hfault => .inl hfault
  have hanswer : ((s.operations.select Journal.isPending).map fun row =>
        abandonedOperation time row.2) =
      (j.operations.values.filter Journal.isPending).map (abandonedOperation time) := by
    rw [← h.operations, ← RowTable.map_select, List.map_map]
    rfl
  rw [hanswer]
  apply Agrees.done
  apply h.withOperations
  rw [RowTable.contents_update, h.operations,
    InsertionMap.foldl_set (f := abandonedOperation time) (fun _ => rfl)]
  rfl

/-! ### Claims -/

theorem generation_eq (sourceId : String) (s : SqliteIncidentStore) :
    s.generation sourceId =
      (s.sources.contents.find? fun row => row.sourceId = sourceId).map (·.generation) := by
  unfold generation
  rw [← RowTable.head?_select, Option.map_map]
  rfl

/-- The tie after a source's generation changed. -/
theorem Represents.claimed
    (h : s.Represents j) (source : SourceIdentity) (rows : RowTable SourceIdentity)
    (hrows : ∀ sourceId, (rows.contents.find? fun row => row.sourceId = sourceId).map
        (·.generation) =
      if sourceId = source.sourceId then some source.generation
      else (s.sources.contents.find? fun row => row.sourceId = sourceId).map (·.generation)) :
    { s with sources := rows }.Represents
      { j with
        generations := Function.update j.generations source.sourceId (some source.generation) } := by
  have hkept : ∀ sourceId, (j.generations sourceId).isSome →
      (Function.update j.generations source.sourceId (some source.generation) sourceId).isSome := by
    intro sourceId hsome
    rw [Function.update_apply]
    split
    · rfl
    · exact hsome
  refine ⟨h.incidents, h.events, h.boundaries, h.circuits, ?_, h.operations, ?_, ?_, h.circuitOf⟩
  · intro sourceId
    have hold := h.generations sourceId
    rw [generation_eq] at hold
    show _ = Function.update j.generations source.sourceId (some source.generation) sourceId
    rw [generation_eq, hrows, hold, Function.update_apply]
  · exact fun record hrecord => hkept _ (h.sourced record hrecord)
  · exact fun boundary hboundary => hkept _ (h.bounded boundary hboundary)

/-- The row of a source after the source's row was rewritten. -/
theorem find_update_sources
    (rows : RowTable SourceIdentity) (source : SourceIdentity) (sourceId : String) :
    (rows.update (fun row => row.sourceId = source.sourceId) fun row =>
        { row with generation := source.generation, kind := source.kind }).contents.find?
          (fun row => row.sourceId = sourceId) =
      (rows.contents.find? fun row => row.sourceId = sourceId).map fun row =>
        if sourceId = source.sourceId then
          { row with generation := source.generation, kind := source.kind }
        else row := by
  rw [RowTable.contents_update]
  induction rows.contents with
  | nil => rfl
  | cons row rest ih =>
      rw [List.map_cons]
      by_cases hrow : row.sourceId = sourceId
      · subst hrow
        by_cases hsource : row.sourceId = source.sourceId <;> simp [hsource]
      · have hkept : ¬(if decide (row.sourceId = source.sourceId) = true then
            { row with generation := source.generation, kind := source.kind }
            else row).sourceId = sourceId := by
          split <;> exact hrow
        rw [List.find?_cons_of_neg (by simpa using hkept), ih,
          List.find?_cons_of_neg (by simpa using hrow)]

/-- What the claim of one source does when it is not refused. -/
theorem Represents.claimSource
    (h : s.Represents j) (hsound : j.Sound) {stored : List SourceIdentity} {now : String}
    {source : SourceIdentity} {s' : SqliteIncidentStore}
    (hstored : (stored.find? fun row => row.sourceId = source.sourceId) =
      s.sources.contents.find? fun row => row.sourceId = source.sourceId)
    (hok : s.claimSource stored now source = .ok s') :
    (s'.Represents j ∨ s'.Represents (j.claimSource now source)) ∧
      ∀ sourceId, sourceId ≠ source.sourceId →
        (s'.sources.contents.find? fun row => row.sourceId = sourceId) =
          s.sources.contents.find? fun row => row.sourceId = sourceId := by
  unfold SqliteIncidentStore.claimSource at hok
  rw [hstored] at hok
  have hgenerations := h.generations source.sourceId
  rw [generation_eq] at hgenerations
  cases hfound : s.sources.contents.find? fun row => row.sourceId = source.sourceId with
  | none =>
      rw [hfound] at hok hgenerations
      have hfind : ∀ sourceId, (s.sources.insert source).contents.find?
            (fun row => row.sourceId = sourceId) =
          if sourceId = source.sourceId then some source
          else s.sources.contents.find? fun row => row.sourceId = sourceId := by
        intro sourceId
        rw [RowTable.contents_insert, List.find?_append]
        by_cases hsource : sourceId = source.sourceId
        · rw [if_pos hsource, hsource, hfound]
          simp
        · rw [if_neg hsource]
          simp [Ne.symm hsource]
      have hnone : j.boundary source.sourceId = none := by
        rw [Journal.boundary_eq_none hsound.oneInForce]
        intro b hb
        have hsome := h.bounded b hb.1
        rw [hb.2.1, ← hgenerations] at hsome
        simp at hsome
      cases hok
      refine ⟨.inr ?_, ?_⟩
      · unfold Journal.claimSource
        rw [hnone]
        apply h.claimed
        intro sourceId
        rw [hfind]
        split <;> rfl
      · intro sourceId hne
        rw [hfind, if_neg hne]
  | some previous =>
      rw [hfound] at hok
      dsimp only at hok
      by_cases hsame : previous.generation = source.generation ∧ previous.kind = source.kind
      · rw [if_pos hsame] at hok
        cases hok
        exact ⟨.inl h, fun _ _ => rfl⟩
      · rw [if_neg hsame] at hok
        by_cases hopen : 0 < s.openCount source.sourceId
        · rw [if_pos hopen] at hok
          cases hok
        · rw [if_neg hopen] at hok
          have hnothing : j.opened source.sourceId = [] := by
            rw [h.openCount] at hopen
            exact List.length_eq_zero_iff.mp (by omega)
          have hclaimed := h.claimed source (s.sources.update
            (fun row => row.sourceId = source.sourceId) fun row =>
              { row with generation := source.generation, kind := source.kind }) (by
            intro sourceId
            rw [find_update_sources]
            by_cases hsource : sourceId = source.sourceId
            · simp [hsource, hfound]
            · simp [hsource])
          have hothers : ∀ sourceId, sourceId ≠ source.sourceId →
              ((s.sources.update (fun row => row.sourceId = source.sourceId) fun row =>
                { row with generation := source.generation, kind := source.kind }).contents.find?
                  fun row => row.sourceId = sourceId) =
                s.sources.contents.find? fun row => row.sourceId = sourceId := by
            intro sourceId hne
            rw [find_update_sources]
            simp [hne]
          have hboundary := hclaimed.inForceBoundary source.sourceId
          rw [hboundary] at hok
          have hsameBoundary : Journal.boundary source.sourceId { j with
              generations := Function.update j.generations source.sourceId
                (some source.generation) } = j.boundary source.sourceId := rfl
          rw [hsameBoundary] at hok
          unfold Journal.claimSource
          cases hin : j.boundary source.sourceId with
          | none =>
              rw [hin] at hok
              cases hok
              exact ⟨.inr hclaimed, hothers⟩
          | some boundary =>
              rw [hin] at hok
              dsimp only at hok ⊢
              by_cases hgeneration : boundary.generation = source.generation
              · rw [if_neg (not_not.mpr hgeneration)] at hok
                cases hok
                rw [if_pos (.inl hgeneration)]
                exact ⟨.inr hclaimed, hothers⟩
              · rw [if_pos hgeneration] at hok
                cases hok
                have hmem := ((Journal.boundary_eq_some hsound.oneInForce).mp hin).1
                rw [if_neg (by simp [hgeneration, hnothing])]
                exact ⟨.inr (hclaimed.saveBoundary _ _ hmem), hothers⟩

/-- The claims that a run of the loop records are those of some of the sources. -/
theorem Represents.claimSources
    (h : s.Represents j) (hsound : j.Sound) {stored : List SourceIdentity} {now : String}
    {sources : List SourceIdentity} {s' : SqliteIncidentStore}
    (hdistinct : (sources.map (·.sourceId)).Nodup)
    (hstored : ∀ source ∈ sources, (stored.find? fun row => row.sourceId = source.sourceId) =
      s.sources.contents.find? fun row => row.sourceId = source.sourceId)
    (hok : sources.foldlM (SqliteIncidentStore.claimSource stored now) s = .ok s') :
    ∃ claimed, claimed.Sublist sources ∧ s'.Represents (j.claim now claimed) := by
  induction sources generalizing s j with
  | nil =>
      cases hok
      exact ⟨[], .slnil, h⟩
  | cons source rest ih =>
      rw [List.foldlM_cons] at hok
      rw [List.map_cons, List.nodup_cons] at hdistinct
      cases hstep : s.claimSource stored now source with
      | error refusal =>
          rw [hstep] at hok
          cases hok
      | ok next =>
          rw [hstep, ok_bind] at hok
          obtain ⟨hrepresents, hothers⟩ :=
            h.claimSource hsound (hstored source List.mem_cons_self) hstep
          have hstored' : ∀ other ∈ rest,
              (stored.find? fun row => row.sourceId = other.sourceId) =
                next.sources.contents.find? fun row => row.sourceId = other.sourceId := by
            intro other hother
            rw [hothers, hstored other (List.mem_cons_of_mem _ hother)]
            intro heq
            exact hdistinct.1 (heq ▸ List.mem_map_of_mem hother)
          rcases hrepresents with hsame | hclaimed
          · obtain ⟨claimed, hsublist, hfinal⟩ := ih hsame hsound hdistinct.2 hstored' hok
            exact ⟨claimed, hsublist.cons _, hfinal⟩
          · obtain ⟨claimed, hsublist, hfinal⟩ :=
              ih hclaimed (hsound.claimSource now source) hdistinct.2 hstored' hok
            exact ⟨source :: claimed, hsublist.cons_cons _, hfinal⟩

theorem validateSources_ok
    {seen : List String} {sources : List SourceIdentity} (h : validateSources seen sources = .ok ()) :
    (sources.map (·.sourceId)).Nodup ∧ ∀ source ∈ sources, source.sourceId ∉ seen := by
  induction sources generalizing seen with
  | nil => simp
  | cons source rest ih =>
      unfold validateSources at h
      by_cases hseen : source.sourceId ∈ seen
      · rw [if_pos hseen] at h
        cases h
      · rw [if_neg hseen] at h
        obtain ⟨hdistinct, hfresh⟩ := ih h
        constructor
        · rw [List.map_cons, List.nodup_cons]
          refine ⟨?_, hdistinct⟩
          intro hmem
          obtain ⟨other, hother, heq⟩ := List.mem_map.mp hmem
          exact hfresh other hother (by simp [heq])
        · intro other hother
          rcases List.mem_cons.mp hother with rfl | hrest
          · exact hseen
          · have hnot := hfresh other hrest
            simp only [List.mem_cons, not_or] at hnot
            exact hnot.2

/-- A claim that is not refused claims some of the sources; the others are as they were. -/
theorem Represents.claim
    (h : s.Represents j) (hsound : j.Sound) {projectId now : String}
    {sources : List SourceIdentity} {reply : StoreReply} {s' : SqliteIncidentStore}
    (hok : s.claim limits conditions projectId sources now = .ok (reply, s')) :
    reply = .claimed ∧
      ∃ claimed, claimed.Sublist sources ∧ s'.Represents (j.claim now claimed) := by
  unfold SqliteIncidentStore.claim at hok
  cases hvalid : validateSources [] sources with
  | error refusal =>
      rw [hvalid] at hok
      cases hok
  | ok _ =>
      rw [hvalid, ok_bind] at hok
      have hbody : claimBody limits projectId sources now s = .ok (reply, s') := by
        unfold write at hok
        split at hok
        · cases hok
        · cases hok
        · exact hok
      unfold claimBody at hbody
      split at hbody
      · cases hbody
      · split at hbody
        · cases hbody
        · cases hfold : sources.foldlM
              (SqliteIncidentStore.claimSource s.sources.contents now) s with
          | error refusal =>
              rw [hfold] at hbody
              cases hbody
          | ok final =>
              rw [hfold] at hbody
              cases hbody
              exact ⟨rfl, h.claimSources hsound (validateSources_ok hvalid).1 (fun _ _ => rfl)
                hfold⟩

/-- Every call of the SQLite store but `claim` agrees with the abstract call, unless
something hinders it. -/
theorem Represents.call
    (h : s.Represents j) (hsound : j.Sound) (c : StoreCall)
    (hclaim : ∀ projectId sources time, c ≠ .claim projectId sources time) :
    Agrees Represents (Hindered conditions j c) (s.call limits conditions c)
      (j.call codePointLe limits.maxOperations c) := by
  cases c with
  | claim projectId sources time => exact absurd rfl (hclaim projectId sources time)
  | observe observation => exact h.observe observation
  | update failureId expectedRevision patch event => exact h.update _ _ _ _ _
  | prepareAdvance input => exact h.prepareAdvance hsound input _
  | retireBoundary boundaryId expectedRevision retirement time =>
      exact h.retireBoundary _ _ _ _ _
  | updateCircuit sourceId expectedRevision next => exact h.updateCircuit _ _ _
  | beginOperation input => exact h.beginOperation input _
  | finishOperation operationId state result time => exact h.finishOperation _ _ _ _ _
  | abandonPendingOperations time => exact h.abandonPendingOperations time _

end Calls

end SqliteIncidentStore

end StreamOtter
