import StreamOtter.ServedStore
import StreamOtter.ServiceOrigins

/-!
# Reconciliation at startup

A new process finds incidents whose advance was prepared or could not be confirmed, guards and
retries that the last process left behind, and boundaries that were in force.  When its store
calls are served, `start` brings every open incident of its sources to what the group's committed
offset says of it, and nothing else changes.
-/

namespace StreamOtter

open FailureStore

namespace StoreAccess

variable {s s' : StoreAccess} {incident record : IncidentRecord}

/-- A change of an incident at its own revision is made. -/
theorem update_served (hfaults : s.faults = [])
    (hget : s.journal.incidents.get record.failureId = some record) (patch : IncidentPatch)
    (event : IncidentEventName) (detail : String) :
    ∃ time s', s.update record patch event detail = (patched patch time record, s') ∧
      s'.faults = [] ∧ s'.journal =
        s.journal.record (patched patch time record) ⟨time, event, some detail, none⟩ := by
  have hsame := s.nowIso_same.journal
  have hclock := s.nowIso_faults
  unfold update
  rcases htime : s.nowIso with ⟨time, s₁⟩
  rw [htime] at hsame hclock
  dsimp only at hsame hclock ⊢
  have hcall := journal_update patch ⟨time, event, some detail, none⟩
    (show s₁.journal.incidents.get record.failureId = some record by rw [hsame, hget])
  rw [call_accepted (hclock.trans hfaults) hcall]
  refine ⟨time, _, rfl, hclock.trans hfaults, ?_⟩
  rw [← hsame]

/-- What only concerns the incidents and their histories. -/
structure SameRest (j j' : Journal) : Prop where
  generations : j'.generations = j.generations
  boundaries : j'.boundaries = j.boundaries
  circuits : j'.circuits = j.circuits
  operations : j'.operations = j.operations

theorem SameRest.rfl {j : Journal} : SameRest j j := ⟨by rfl, by rfl, by rfl, by rfl⟩

theorem SameRest.trans {j j' j'' : Journal} (h : SameRest j j') (h' : SameRest j' j'') :
    SameRest j j'' :=
  ⟨h'.generations.trans h.generations, h'.boundaries.trans h.boundaries,
    h'.circuits.trans h.circuits, h'.operations.trans h.operations⟩

/-- The incident became `record`; no call threw and no other incident changed. -/
structure Leaves (s : StoreAccess) (incident : IncidentRecord) (s' : StoreAccess)
    (record : IncidentRecord) : Prop where
  faults : s'.faults = []
  stored : s'.journal.incidents.get incident.failureId = some record
  others : ∀ failureId ≠ incident.failureId,
    s'.journal.incidents.get failureId = s.journal.incidents.get failureId
  rest : SameRest s.journal s'.journal
  origin : FailureService.SameOrigin incident record

theorem Leaves.rfl (hfaults : s.faults = [])
    (hget : s.journal.incidents.get incident.failureId = some incident) :
    Leaves s incident s incident :=
  ⟨hfaults, hget, fun _ _ => by rfl, .rfl, .rfl⟩

theorem Leaves.trans {s'' : StoreAccess} {middle : IncidentRecord}
    (h : Leaves s incident s' middle) (h' : Leaves s' middle s'' record) :
    Leaves s incident s'' record where
  faults := h'.faults
  stored := by
    rw [← h.origin.failureId]
    exact h'.stored
  others := by
    intro failureId hne
    rw [h'.others failureId (by rw [h.origin.failureId]; exact hne), h.others failureId hne]
  rest := h.rest.trans h'.rest
  origin := h.origin.trans h'.origin

theorem update_leaves (hfaults : s.faults = [])
    (hget : s.journal.incidents.get incident.failureId = some incident) (patch : IncidentPatch)
    (hevidence : patch.evidence = none) (event : IncidentEventName) (detail : String) :
    ∃ time s', s.update incident patch event detail = (patched patch time incident, s') ∧
      Leaves s incident s' (patched patch time incident) := by
  obtain ⟨time, s', hupdate, hserved, hjournal⟩ := update_served hfaults hget patch event detail
  refine ⟨time, s', hupdate, hserved, ?_, ?_, ?_, ?_⟩
  · rw [hjournal]
    exact Journal.get_record patch ⟨time, event, some detail, none⟩
  · intro failureId hne
    rw [hjournal]
    exact InsertionMap.get_set_ne s.journal.incidents hne
  · rw [hjournal]
    constructor <;> rfl
  · exact FailureService.sameOrigin_patched hevidence time

end StoreAccess

namespace FailureService

open StoreAccess

section Reconciled

variable (settings : ServiceSettings)
  (offsets : String → String → ℕ → Except String (Option ℕ))

/-- What the group's committed offset says of an advance past `offset`. -/
def settledAt (offset : ℕ) : Except String (Option ℕ) → ProgressState
  | .error _ => .uncertain
  | .ok none => .held
  | .ok (some committed) =>
      if committed = offset + 1 then .advanced
      else if committed ≤ offset then .held
      else .uncertain

/-- Where startup brings an incident: on another cluster the offsets say nothing, a fixture
starts over, and no retry of an earlier process is under way. -/
def settledProgress (sourceId : String) (incident : IncidentRecord) : ProgressState :=
  if isUnresolved incident then
    if (settings.clusterMismatch sourceId incident).isSome then .uncertain
    else
      match incident.position with
      | .fixture _ => .held
      | .kafka topic partition offset => settledAt offset (offsets sourceId topic partition)
  else if incident.progress = .retrying then .held
  else incident.progress

/-- An open incident as startup leaves it: resolved exactly when its advance turned out to have
happened, and with no guard running if it is open. -/
structure Reconciled (sourceId : String) (incident record : IncidentRecord) : Prop where
  origin : SameOrigin incident record
  progress : record.progress = settledProgress settings offsets sourceId incident
  state : record.state =
    if isUnresolved incident ∧ record.progress = .advanced then .resolved else .opened
  recovery : record.state = .opened → record.recovery ≠ .guardPending

end Reconciled

variable {settings : ServiceSettings}
  {offsets : String → String → ℕ → Except String (Option ℕ)} {sourceId : String}
  {s s' : StoreAccess} {incident record : IncidentRecord}

/-! ### One incident -/

theorem reconcile_served (hfaults : s.faults = [])
    (hget : s.journal.incidents.get incident.failureId = some incident)
    (hopen : incident.state = .opened) (hunresolved : isUnresolved incident = true) :
    ∃ record, Leaves s incident (reconcile settings offsets sourceId incident s) record ∧
      record.progress = settledProgress settings offsets sourceId incident ∧
      record.state = if record.progress = .advanced then .resolved else .opened := by
  have hleaves : ∀ (patch : IncidentPatch) (event : IncidentEventName) (detail : String),
      patch.evidence = none → ∃ time, Leaves s incident
        (s.update incident patch event detail).2 (patched patch time incident) := by
    intro patch event detail hevidence
    obtain ⟨time, s', hupdate, hleaves⟩ := update_leaves hfaults hget patch hevidence event detail
    exact ⟨time, by rw [hupdate]; exact hleaves⟩
  unfold reconcile
  cases hmismatch : settings.clusterMismatch sourceId incident with
  | some mismatch =>
      obtain ⟨time, hleft⟩ := hleaves
        { progress := some .uncertain, diagnosis := some mismatch } .held
        "cluster-mismatch at startup" rfl
      refine ⟨_, hleft, ?_, ?_⟩
      · simp [settledProgress, hunresolved, hmismatch, patched]
      · simp [patched, hopen]
  | none =>
      dsimp only
      cases hposition : incident.position with
      | fixture index =>
          obtain ⟨time, hleft⟩ := hleaves { progress := some .held } .held
            "the fixture restarted from its first record, so the advance is evaluated again when the record is reached"
            rfl
          refine ⟨_, hleft, ?_, ?_⟩
          · simp [settledProgress, hunresolved, hmismatch, hposition, patched]
          · simp [patched, hopen]
      | kafka topic partition offset =>
          have hheld : ∀ detail, ∃ record, Leaves s incident
              (s.update incident { progress := some .held } .held detail).2 record ∧
              record.progress = .held ∧ record.state = .opened := by
            intro detail
            obtain ⟨time, hleft⟩ := hleaves { progress := some .held } .held detail rfl
            exact ⟨_, hleft, rfl, hopen⟩
          have huncertain : ∀ diagnosis detail, ∃ record, Leaves s incident
              (s.update incident { progress := some .uncertain, diagnosis := diagnosis } .held
                detail).2 record ∧
              record.progress = .uncertain ∧ record.state = .opened := by
            intro diagnosis detail
            obtain ⟨time, hleft⟩ := hleaves
              { progress := some .uncertain, diagnosis := diagnosis } .held detail rfl
            exact ⟨_, hleft, rfl, hopen⟩
          have hsettled : settledProgress settings offsets sourceId incident =
              settledAt offset (offsets sourceId topic partition) := by
            simp [settledProgress, hunresolved, hmismatch, hposition]
          rw [hsettled]
          dsimp only
          cases hoffset : offsets sourceId topic partition with
          | error name =>
              obtain ⟨record, hleft, hprogress, hstate⟩ := huncertain _ _
              exact ⟨record, hleft, hprogress, by simp [hprogress, hstate]⟩
          | ok committed =>
              cases committed with
              | none =>
                  obtain ⟨record, hleft, hprogress, hstate⟩ := hheld _
                  exact ⟨record, hleft, hprogress, by simp [hprogress, hstate]⟩
              | some committed =>
                  dsimp only [settledAt]
                  split
                  · obtain ⟨time, hleft⟩ := hleaves
                      (advancedPatch ("advanced past under recovery boundary " ++
                        incident.boundaryId.getD "(none)" ++ "; confirmed at startup"))
                      .advanceConfirmed
                      "the group's committed offset shows the advance happened before the restart"
                      rfl
                    exact ⟨_, hleft, rfl, by simp [patched, advancedPatch]⟩
                  · split
                    · obtain ⟨record, hleft, hprogress, hstate⟩ := hheld _
                      exact ⟨record, hleft, hprogress, by simp [hprogress, hstate]⟩
                    · obtain ⟨record, hleft, hprogress, hstate⟩ := huncertain _ _
                      exact ⟨record, hleft, hprogress, by simp [hprogress, hstate]⟩

theorem releaseLeftGuard_served (hfaults : s.faults = [])
    (hget : s.journal.incidents.get incident.failureId = some incident) :
    ∃ record s', releaseLeftGuard incident s = (record, s') ∧ Leaves s incident s' record ∧
      record.progress = incident.progress ∧ record.state = incident.state ∧
      (record.state = .opened → record.recovery ≠ .guardPending) := by
  unfold releaseLeftGuard
  split
  · rename_i hleft
    obtain ⟨time, s', hupdate, hleaves⟩ := update_leaves hfaults hget
      { recovery := some .held } rfl .held
      "the gateway restarted while the recovery guard was running"
    exact ⟨_, s', hupdate, hleaves, rfl, rfl, by simp [patched]⟩
  · rename_i hnot
    exact ⟨incident, s, rfl, .rfl hfaults hget, rfl, rfl, fun hopen hpending =>
      hnot ⟨hopen, hpending⟩⟩

theorem releaseLeftRetry_served (hfaults : s.faults = [])
    (hget : s.journal.incidents.get incident.failureId = some incident) :
    ∃ record s', releaseLeftRetry incident s = (record, s') ∧ Leaves s incident s' record ∧
      record.progress =
        (if incident.state = .opened ∧ incident.progress = .retrying then .held
        else incident.progress) ∧
      record.state = incident.state ∧ record.recovery = incident.recovery := by
  unfold releaseLeftRetry
  split
  · obtain ⟨time, s', hupdate, hleaves⟩ := update_leaves hfaults hget
      { progress := some .held } rfl .held
      "the gateway restarted during a retry; the record is evaluated again when it is redelivered"
    exact ⟨_, s', hupdate, hleaves, rfl, rfl, rfl⟩
  · exact ⟨incident, s, rfl, .rfl hfaults hget, rfl, rfl, rfl⟩

theorem holdMismatchedAtStart_served (hfaults : s.faults = [])
    (hget : s.journal.incidents.get incident.failureId = some incident) :
    ∃ record, Leaves s incident (holdMismatchedAtStart settings sourceId incident s) record ∧
      record.progress = incident.progress ∧ record.state = incident.state ∧
      record.recovery = incident.recovery := by
  have hsame : ∃ record, Leaves s incident s record ∧ record.progress = incident.progress ∧
      record.state = incident.state ∧ record.recovery = incident.recovery :=
    ⟨incident, .rfl hfaults hget, rfl, rfl, rfl⟩
  unfold holdMismatchedAtStart
  split
  · split
    · exact hsame
    · split
      · rename_i mismatch _ _
        obtain ⟨time, s', hupdate, hleaves⟩ := update_leaves hfaults hget
          { diagnosis := some mismatch } rfl .held "cluster-mismatch at startup"
        rw [hupdate]
        exact ⟨patched { diagnosis := some mismatch } time incident, hleaves, rfl, rfl, rfl⟩
      · exact hsame
  · exact hsame

theorem Leaves.current (h : Leaves s incident s' record) :
    s'.journal.incidents.get record.failureId = some record := by
  rw [h.origin.failureId]
  exact h.stored

/-- No settled advance reads as a retry. -/
theorem settledProgress_ne_retrying :
    settledProgress settings offsets sourceId incident ≠ .retrying := by
  unfold settledProgress settledAt
  repeat' split
  all_goals simp_all

/-- The first part of the loop's body. -/
theorem reconciled_first (hfaults : s.faults = [])
    (hget : s.journal.incidents.get incident.failureId = some incident)
    (hopen : incident.state = .opened) :
    ∃ record, Leaves s incident
      (if isUnresolved incident then reconcile settings offsets sourceId incident s else s) record ∧
      (if record.state = .opened ∧ record.progress = .retrying then .held else record.progress) =
        settledProgress settings offsets sourceId incident ∧
      (isUnresolved incident →
        record.progress = settledProgress settings offsets sourceId incident) ∧
      record.state =
        if isUnresolved incident ∧ record.progress = .advanced then .resolved else .opened := by
  by_cases hunresolved : isUnresolved incident = true
  · obtain ⟨record, hleaves, hprogress, hstate⟩ :=
      @reconcile_served settings offsets sourceId s incident hfaults hget hopen hunresolved
    refine ⟨record, by rw [if_pos hunresolved]; exact hleaves, ?_, fun _ => hprogress,
      by simpa [hunresolved]⟩
    rw [hprogress, if_neg fun hretrying => settledProgress_ne_retrying hretrying.2]
  · refine ⟨incident, by rw [if_neg hunresolved]; exact .rfl hfaults hget, ?_, ?_, ?_⟩
    · simp [settledProgress, hunresolved, hopen]
    · simp [hunresolved]
    · simp [hunresolved, hopen]

theorem reviveIncident_served (hfaults : s.faults = [])
    (hget : s.journal.incidents.get incident.failureId = some incident)
    (hopen : incident.state = .opened) :
    ∃ record s', reviveIncident settings offsets sourceId incident s = (true, s') ∧
      Leaves s incident s' record ∧ Reconciled settings offsets sourceId incident record := by
  obtain ⟨settled, hsettled, hprogress, hadvance, hstate⟩ :=
    @reconciled_first settings offsets sourceId s incident hfaults hget hopen
  obtain ⟨released, s₂, hguard, hreleased, hprogress₂, hstate₂, hrecovery⟩ :=
    releaseLeftGuard_served hsettled.faults (Leaves.current hsettled)
  obtain ⟨retried, s₃, hretry, hretried, hprogress₃, hstate₃, hrecovery₃⟩ :=
    releaseLeftRetry_served hreleased.faults (Leaves.current hreleased)
  obtain ⟨record, hrecord, hprogress₄, hstate₄, hrecovery₄⟩ :=
    @holdMismatchedAtStart_served settings sourceId s₃ retried hretried.faults
      (Leaves.current hretried)
  have hleaves := ((hsettled.trans hreleased).trans hretried).trans hrecord
  have hall : record.progress = settledProgress settings offsets sourceId incident := by
    rw [hprogress₄, hprogress₃, hprogress₂, hstate₂, hprogress]
  have hstates : record.state = settled.state := by rw [hstate₄, hstate₃, hstate₂]
  refine ⟨record, holdMismatchedAtStart settings sourceId retried s₃, ?_, hleaves,
    hleaves.origin, hall, ?_, ?_⟩
  · unfold reviveIncident
    dsimp only
    rw [read_served hsettled.faults, hsettled.stored]
    simp only [hguard, hretry]
  · rw [hstates, hstate]
    by_cases hunresolved : isUnresolved incident = true
    · have hsame : settled.progress = record.progress := by rw [hadvance hunresolved, hall]
      rw [hsame]
    · simp [hunresolved]
  · intro hopened
    rw [hrecovery₄, hrecovery₃]
    apply hrecovery
    rw [hstate₂, ← hstates, hopened]

/-! ### The incidents of a source -/

theorem reviveIncidents_served {incidents : List IncidentRecord} (hfaults : s.faults = [])
    (hdistinct : (incidents.map IncidentRecord.failureId).Nodup)
    (hget : ∀ incident ∈ incidents,
      s.journal.incidents.get incident.failureId = some incident ∧ incident.state = .opened) :
    ∃ s', reviveIncidents settings offsets sourceId incidents s = (true, s') ∧ s'.faults = [] ∧
      SameRest s.journal s'.journal ∧
      (∀ incident ∈ incidents, ∃ record,
        s'.journal.incidents.get incident.failureId = some record ∧
          Reconciled settings offsets sourceId incident record) ∧
      ∀ failureId ∉ incidents.map IncidentRecord.failureId,
        s'.journal.incidents.get failureId = s.journal.incidents.get failureId := by
  induction incidents generalizing s with
  | nil => exact ⟨s, rfl, hfaults, .rfl, by simp, fun _ _ => rfl⟩
  | cons first rest ih =>
      rw [List.map_cons, List.nodup_cons] at hdistinct
      obtain ⟨hstored, hopen⟩ := hget first List.mem_cons_self
      obtain ⟨record, s₁, hrevive, hleaves, hreconciled⟩ :=
        @reviveIncident_served settings offsets sourceId s first hfaults hstored hopen
      have hrest : ∀ incident ∈ rest,
          s₁.journal.incidents.get incident.failureId = some incident ∧
            incident.state = .opened := by
        intro incident hmem
        have hne : incident.failureId ≠ first.failureId := fun heq =>
          hdistinct.1 (heq ▸ List.mem_map_of_mem hmem)
        rw [hleaves.others _ hne]
        exact hget incident (List.mem_cons_of_mem _ hmem)
      obtain ⟨s₂, hrevives, hserved, hsame, hall, hothers⟩ :=
        ih hleaves.faults hdistinct.2 hrest
      refine ⟨s₂, ?_, hserved, hleaves.rest.trans hsame, ?_, ?_⟩
      · unfold reviveIncidents
        rw [hrevive]
        exact hrevives
      · intro incident hmem
        rcases List.mem_cons.mp hmem with rfl | hmem
        · exact ⟨record, by rw [hothers _ hdistinct.1, hleaves.stored], hreconciled⟩
        · exact hall incident hmem
      · intro failureId hnot
        rw [List.map_cons, List.mem_cons, not_or] at hnot
        rw [hothers failureId hnot.2, hleaves.others failureId hnot.1]

theorem opened_distinct (j : Journal) (sourceId : String) :
    ((j.opened sourceId).map IncidentRecord.failureId).Nodup :=
  (List.filter_sublist.map _).nodup j.incidents.distinct

/-! ### The sources -/

/-- The boundary that the runtime requires of a source's snapshots. -/
def required (settings : ServiceSettings) (j : Journal) (sourceId : String) :
    Option (String × String) :=
  ((j.boundary sourceId).filter fun boundary =>
    boundary.generation = (settings.source sourceId).generation).map fun boundary =>
      (boundary.boundaryId, boundary.context)

/-- What `start` does to the sources of a list. -/
structure Started (settings : ServiceSettings)
    (offsets : String → String → ℕ → Except String (Option ℕ)) (sources : List String)
    (f f' : FailureService) : Prop where
  faults : f'.store.faults = []
  rest : SameRest f.store.journal f'.store.journal
  reconciled : ∀ sourceId ∈ sources, ∀ incident ∈ f.store.journal.opened sourceId,
    ∃ record, f'.store.journal.incidents.get incident.failureId = some record ∧
      Reconciled settings offsets sourceId incident record
  others : ∀ failureId,
    (∀ sourceId ∈ sources,
      failureId ∉ (f.store.journal.opened sourceId).map IncidentRecord.failureId) →
    f'.store.journal.incidents.get failureId = f.store.journal.incidents.get failureId
  watched : ∀ sourceId ∈ sources, f'.watched sourceId =
    (f'.store.journal.opened sourceId).any fun incident => watchedProgress incident.progress
  holding : ∀ sourceId ∈ sources, f'.heldAtStart sourceId =
    (f'.store.journal.opened sourceId).any (holdsFromStart settings sourceId)
  required : ∀ sourceId ∈ sources,
    f'.inForce sourceId = required settings f'.store.journal sourceId
  elsewhere : ∀ sourceId ∉ sources, f'.watched sourceId = f.watched sourceId ∧
    f'.heldAtStart sourceId = f.heldAtStart sourceId ∧ f'.inForce sourceId = f.inForce sourceId
  process : SameProcess f f'

variable {f f' : FailureService}

theorem required_congr {j j' : Journal} (h : SameRest j j') :
    required settings j' sourceId = required settings j sourceId := by
  unfold required Journal.boundary
  rw [h.boundaries]

theorem startSource_served (hfaults : f.store.faults = [])
    (hgeneration : ∀ incident ∈ f.store.journal.opened sourceId,
      incident.generation = (settings.source sourceId).generation) :
    ∃ f', startSource settings offsets sourceId f = (true, f') ∧
      Started settings offsets [sourceId] f f' := by
  obtain ⟨s', hrevive, hserved, hsame, hreconciled, hothers⟩ :=
    @reviveIncidents_served settings offsets sourceId f.store (f.store.journal.opened sourceId)
      hfaults (opened_distinct _ _) fun incident hmem =>
        ⟨(mem_opened_iff.mp hmem).1, (mem_opened_iff.mp hmem).2.2⟩
  have hcurrent : ((f.store.journal.opened sourceId).any fun incident =>
      decide (incident.generation ≠ (settings.source sourceId).generation)) = false := by
    simpa using hgeneration
  unfold startSource
  rw [read_served hfaults]
  dsimp only
  rw [hcurrent, read_served hfaults]
  simp only [hrevive, read_served hserved, Bool.false_eq_true, if_false]
  refine ⟨_, rfl, hserved, hsame, ?_, ?_, ?_, ?_, ?_, ?_, ?_⟩
  · intro other hother
    rw [List.mem_singleton.mp hother]
    exact hreconciled
  · intro failureId hnot
    exact hothers failureId (hnot sourceId List.mem_cons_self)
  · intro other hother
    rw [List.mem_singleton.mp hother]
    exact Function.update_self ..
  · intro other hother
    rw [List.mem_singleton.mp hother]
    exact Function.update_self ..
  · intro other hother
    rw [List.mem_singleton.mp hother]
    refine (Function.update_self ..).trans ?_
    exact (required_congr hsame).symm
  · intro other hnot
    have hne : other ≠ sourceId := fun heq => hnot (List.mem_singleton.mpr heq)
    exact ⟨Function.update_of_ne hne .., Function.update_of_ne hne ..,
      Function.update_of_ne hne ..⟩
  · exact ⟨rfl, rfl, rfl, rfl, rfl⟩

/-- An incident of another source, or one that is not open, is none of the source's. -/
theorem not_opened {j : Journal} {failureId other : String}
    (hget : j.incidents.get failureId = some incident) (hne : incident.sourceId ≠ other) :
    failureId ∉ (j.opened other).map IncidentRecord.failureId := by
  intro hmem
  obtain ⟨found, hfound, rfl⟩ := List.mem_map.mp hmem
  obtain ⟨hstored, hsource, -⟩ := mem_opened_iff.mp hfound
  obtain rfl : incident = found := Option.some.inj (hget.symm.trans hstored)
  exact hne hsource

/-- The start of other sources leaves the open incidents of a source as they are. -/
theorem Started.opened {sources : List String} (h : Started settings offsets sources f f')
    (hnot : sourceId ∉ sources) :
    incident ∈ f'.store.journal.opened sourceId ↔ incident ∈ f.store.journal.opened sourceId := by
  rw [mem_opened_iff, mem_opened_iff]
  constructor
  · rintro ⟨hget, hsource, hopen⟩
    refine ⟨?_, hsource, hopen⟩
    rw [← hget]
    refine (h.others incident.failureId ?_).symm
    intro other hother hmem
    obtain ⟨found, hfound, hid⟩ := List.mem_map.mp hmem
    obtain ⟨record, hrecord, hreconciled⟩ := h.reconciled other hother found hfound
    rw [hid, hget] at hrecord
    obtain rfl := Option.some.inj hrecord
    have hsource' := hreconciled.origin.sourceId
    rw [(mem_opened_iff.mp hfound).2.1, hsource] at hsource'
    exact hnot (hsource' ▸ hother)
  · rintro ⟨hget, hsource, hopen⟩
    refine ⟨?_, hsource, hopen⟩
    rw [← hget]
    refine h.others incident.failureId ?_
    intro other hother
    refine not_opened hget ?_
    rintro rfl
    exact hnot (hsource ▸ hother)

theorem any_congr {incidents incidents' : List IncidentRecord} (p : IncidentRecord → Bool)
    (h : ∀ incident, incident ∈ incidents' ↔ incident ∈ incidents) :
    incidents'.any p = incidents.any p := by
  rw [Bool.eq_iff_iff, List.any_eq_true, List.any_eq_true]
  constructor
  · rintro ⟨incident, hmem, hp⟩
    exact ⟨incident, (h incident).mp hmem, hp⟩
  · rintro ⟨incident, hmem, hp⟩
    exact ⟨incident, (h incident).mpr hmem, hp⟩

theorem startSources_served {sources : List String} (hdistinct : sources.Nodup)
    (hfaults : f.store.faults = [])
    (hgeneration : ∀ sourceId ∈ sources, ∀ incident ∈ f.store.journal.opened sourceId,
      incident.generation = (settings.source sourceId).generation) :
    ∃ f', startSources settings offsets sources f = (true, f') ∧
      Started settings offsets sources f f' := by
  induction sources generalizing f with
  | nil =>
      exact ⟨f, rfl, hfaults, .rfl, by simp, fun _ _ => rfl, by simp, by simp, by simp,
        fun _ _ => ⟨rfl, rfl, rfl⟩, .rfl⟩
  | cons first rest ih =>
      rw [List.nodup_cons] at hdistinct
      obtain ⟨f₁, hstart, hfirst⟩ := @startSource_served settings offsets first f hfaults
        (hgeneration first List.mem_cons_self)
      have hkept : ∀ sourceId ∈ rest, ∀ incident,
          incident ∈ f₁.store.journal.opened sourceId ↔
            incident ∈ f.store.journal.opened sourceId := by
        intro sourceId hmem incident
        refine hfirst.opened ?_
        rw [List.mem_singleton]
        rintro rfl
        exact hdistinct.1 hmem
      obtain ⟨f₂, hstarts, hrest⟩ := ih hdistinct.2 hfirst.faults
        fun sourceId hmem incident hincident => hgeneration sourceId
          (List.mem_cons_of_mem _ hmem) incident ((hkept sourceId hmem incident).mp hincident)
      have hopened := fun incident => @Started.opened settings offsets first incident f₁ f₂ rest
        hrest hdistinct.1
      refine ⟨f₂, ?_, hrest.faults, hfirst.rest.trans hrest.rest, ?_, ?_, ?_, ?_, ?_, ?_,
        hfirst.process.trans hrest.process⟩
      · unfold startSources
        rw [hstart]
        exact hstarts
      · intro sourceId hmem incident hincident
        rcases List.mem_cons.mp hmem with rfl | hmem
        · obtain ⟨record, hrecord, hreconciled⟩ :=
            hfirst.reconciled sourceId List.mem_cons_self incident hincident
          refine ⟨record, ?_, hreconciled⟩
          rw [hrest.others incident.failureId, hrecord]
          intro other hother
          refine not_opened hrecord ?_
          rw [hreconciled.origin.sourceId, (mem_opened_iff.mp hincident).2.1]
          rintro rfl
          exact hdistinct.1 hother
        · exact hrest.reconciled sourceId hmem incident ((hkept sourceId hmem incident).mpr hincident)
      · intro failureId hnot
        rw [hrest.others failureId, hfirst.others failureId]
        · intro sourceId hmem
          rw [List.mem_singleton.mp hmem]
          exact hnot first List.mem_cons_self
        · intro sourceId hmem hfound
          obtain ⟨found, hfound, hid⟩ := List.mem_map.mp hfound
          refine hnot sourceId (List.mem_cons_of_mem _ hmem) (List.mem_map.mpr ⟨found, ?_, hid⟩)
          exact (hkept sourceId hmem found).mp hfound
      · intro sourceId hmem
        rcases List.mem_cons.mp hmem with rfl | hmem
        · rw [(hrest.elsewhere sourceId hdistinct.1).1,
            hfirst.watched sourceId List.mem_cons_self]
          exact (any_congr _ hopened).symm
        · exact hrest.watched sourceId hmem
      · intro sourceId hmem
        rcases List.mem_cons.mp hmem with rfl | hmem
        · rw [(hrest.elsewhere sourceId hdistinct.1).2.1,
            hfirst.holding sourceId List.mem_cons_self]
          exact (any_congr _ hopened).symm
        · exact hrest.holding sourceId hmem
      · intro sourceId hmem
        rcases List.mem_cons.mp hmem with rfl | hmem
        · rw [(hrest.elsewhere sourceId hdistinct.1).2.2,
            hfirst.required sourceId List.mem_cons_self]
          exact (required_congr hrest.rest).symm
        · exact hrest.required sourceId hmem
      · intro sourceId hnot
        rw [List.mem_cons, not_or] at hnot
        obtain ⟨hwatched, hholding, hrequired⟩ := hrest.elsewhere sourceId hnot.2
        have hfirst' := hfirst.elsewhere sourceId (by simpa using hnot.1)
        exact ⟨hwatched.trans hfirst'.1, hholding.trans hfirst'.2.1,
          hrequired.trans hfirst'.2.2⟩

/-- A served restart over incidents of the configured generations starts. -/
theorem restart_served {store : StoreAccess} (hfaults : store.faults = [])
    (hdistinct : settings.sources.Nodup)
    (hgeneration : ∀ sourceId ∈ settings.sources, ∀ incident ∈ store.journal.opened sourceId,
      incident.generation = (settings.source sourceId).generation) :
    ∃ s f', s.journal.incidents = store.journal.incidents ∧
      Started settings offsets settings.sources (fresh settings s) f' ∧
      restart settings offsets store = { f' with started := true } := by
  have hsame := store.nowIso_same.journal
  have hclock := store.nowIso_faults
  unfold restart
  rcases htime : store.nowIso with ⟨time, s₁⟩
  rw [htime] at hsame hclock
  dsimp only at hsame hclock ⊢
  generalize (settings.sources.map fun sourceId =>
    (⟨sourceId, (settings.source sourceId).generation, (settings.source sourceId).kind⟩ :
      SourceIdentity)) = identities
  have hincidents : (s₁.journal.claim time identities).incidents = store.journal.incidents :=
    (Journal.claim_incidents time identities).trans (congrArg Journal.incidents hsame)
  have hserved : s₁.call (.claim "" identities time) =
      (.ok .claimed, { s₁ with journal := s₁.journal.claim time identities }) :=
    call_accepted (hclock.trans hfaults) rfl
  rw [hserved]
  obtain ⟨f', hstart, hstarted⟩ := @startSources_served settings offsets
    (fresh settings { s₁ with journal := s₁.journal.claim time identities }) settings.sources
    hdistinct (hclock.trans hfaults) (by
      intro sourceId hmem incident hincident
      refine hgeneration sourceId hmem incident ?_
      rw [mem_opened_iff] at hincident ⊢
      rw [← hincidents]
      exact hincident)
  refine ⟨_, f', hincidents, hstarted, ?_⟩
  dsimp only
  rw [hstart]

/-- No record of a watched Kafka source with an uncertain incident passes the check, whatever the
store throws. -/
theorem uncertain_blocks {texts : RecordTexts} {input : Delivery} {topic : String}
    {partition offset : ℕ} (hposition : input.position = .kafka topic partition offset)
    (hwatched : f.watched sourceId = true) (hmem : record ∈ f.store.journal.opened sourceId)
    (huncertain : record.progress = .uncertain) :
    (f.checkRecord texts sourceId input).processing = f.processing := by
  have hproblem : ∃ problem, (positionProblem texts sourceId input f).1 = some problem := by
    unfold positionProblem
    rw [hwatched]
    obtain ⟨message, s', hread, hsame⟩ | ⟨s', hread, hsame⟩ :=
      read_cases (fun j => j.opened sourceId) f.store
    · rw [hread]
      exact ⟨_, rfl⟩
    · rw [hread]
      dsimp only [Bool.not_true, Bool.false_eq_true, if_false]
      cases (f.store.journal.opened sourceId).find? (onOtherCluster f.settings sourceId) with
      | some incident => exact ⟨_, rfl⟩
      | none =>
          have hfound : ((f.store.journal.opened sourceId).find?
              (isUncertain input.position)).isSome = true := by
            rw [List.find?_isSome]
            exact ⟨record, hmem, by simp [isUncertain, hposition, huncertain]⟩
          obtain ⟨incident, hfind⟩ := Option.isSome_iff_exists.mp hfound
          simp only [hfind]
          exact ⟨_, rfl⟩
  obtain ⟨problem, hproblem⟩ := hproblem
  have hprocess := (@positionProblem_process texts sourceId input f).processing
  unfold checkRecord
  rcases hchecked : positionProblem texts sourceId input f with ⟨answer, f'⟩
  rw [hchecked] at hproblem hprocess
  dsimp only at hproblem hprocess
  rw [hproblem]
  exact (sourceHeld_process sourceId input.position f').processing.trans hprocess

/-- The process ends while the adapter moves past a record. -/
def preparedRun : List Occurrence :=
  calmly [.restart (ordersUnder .quarantineResync) fun _ _ _ => .ok none,
    .held "orders" (orderAt 5 [1]) invalidOrder, .begin "orders",
    .written "orders" (.acknowledged 0 0), .guarded "orders" recoverableAnswer "b1"]

end FailureService

end StreamOtter
