import StreamOtter.FailureService
import Mathlib.Logic.Relation

/-!
# What the failure service writes

A snapshot of an incident that the service read stays good until the incident moves on, and a
change that the service makes is refused unless its snapshot is the incident as it is.  What a
function writes is a sequence of changes, each to a snapshot that was current.
-/

namespace StreamOtter

open FailureStore Relation

namespace Journal

/-- The snapshot is an earlier state of the incident, or the incident as it is. -/
def Known (j : Journal) (record : IncidentRecord) : Prop :=
  ∃ current, j.incidents.get record.failureId = some current ∧ record.revision ≤ current.revision ∧
    (current.revision = record.revision → current = record)

/-- An accepted call of the service. -/
def Next (j j' : Journal) : Prop :=
  ∃ c reply, j.call MemoryIncidentStore.codeUnitLe maxOperations c = .ok (reply, j')

variable {j j' : Journal} {record : IncidentRecord}

theorem known_of_get (h : j.incidents.get record.failureId = some record) : j.Known record :=
  ⟨record, h, le_rfl, fun _ => rfl⟩

theorem known_of_mem (h : record ∈ j.incidents.values) : j.Known record :=
  known_of_get (InsertionMap.get_eq_some.mpr ⟨h, rfl⟩)

theorem known_of_opened {sourceId : String} (h : record ∈ j.opened sourceId) : j.Known record :=
  known_of_mem (List.mem_of_mem_filter h)

theorem Known.next (h : j.Known record) (hnext : j.Next j') : j'.Known record := by
  obtain ⟨current, hget, hle, hsame⟩ := h
  obtain ⟨c, reply, hcall⟩ := hnext
  have hafter := call_incidents hcall
  cases hraises : c.raises with
  | none =>
      rw [Known, hafter.kept hraises]
      exact ⟨current, hget, hle, hsame⟩
  | some failureId =>
      obtain ⟨after, hid, hset, hraised⟩ := hafter.raised failureId hraises
      rw [Known, hset, InsertionMap.get_set]
      by_cases hsameId : record.failureId = after.failureId
      · rw [if_pos hsameId]
        rw [← hid, ← hsameId, hget] at hraised
        obtain ⟨same, hsame', hrevision⟩ := hraised
        obtain rfl := Option.some.inj hsame'
        have hmoved : after.revision = current.revision + 1 := hrevision
        exact ⟨after, rfl, by omega, fun heq => absurd heq (by omega)⟩
      · rw [if_neg hsameId]
        exact ⟨current, hget, hle, hsame⟩

theorem Known.later (h : j.Known record) (hlater : ReflTransGen Next j j') : j'.Known record := by
  induction hlater with
  | refl => exact h
  | tail _ hnext ih => exact ih.next hnext

/-- A change to a snapshot that is accepted is a change to the incident as it is. -/
theorem Known.update_ok
    (h : j.Known record) {patch : IncidentPatch} {event : IncidentEvent} {reply : StoreReply}
    (hcall : j.update record.failureId record.revision patch event = .ok (reply, j')) :
    j.incidents.get record.failureId = some record ∧
      reply = .updated (patched patch event.time record) ∧
      j' = j.record (patched patch event.time record) event := by
  obtain ⟨current, hget, -, hsame⟩ := h
  obtain ⟨existing, hfound, hrevision, hreply, hafter⟩ := Journal.update_ok hcall
  obtain rfl : current = existing := Option.some.inj (hget.symm.trans hfound)
  obtain rfl := hsame hrevision
  exact ⟨hget, hreply, hafter⟩

theorem record_next
    (hget : j.incidents.get record.failureId = some record) (patch : IncidentPatch)
    (event : IncidentEvent) : j.Next (j.record (patched patch event.time record) event) := by
  refine ⟨.update record.failureId record.revision patch event,
    .updated (patched patch event.time record), ?_⟩
  show j.update _ _ _ _ = _
  unfold Journal.update
  rw [hget]
  exact if_neg (not_not.mpr rfl)

theorem get_record (patch : IncidentPatch) (event : IncidentEvent) :
    (j.record (patched patch event.time record) event).incidents.get record.failureId =
      some (patched patch event.time record) :=
  InsertionMap.get_set_self j.incidents (patched patch event.time record)

end Journal

/-! ### Calls of the store -/

namespace StoreAccess

variable {s s' : StoreAccess}

/-- The clock goes on: what it read last, and what it still reads. -/
def GoesOn (s s' : StoreAccess) : Prop := s'.now :: s'.readings <:+ s.now :: s.readings

theorem GoesOn.rfl : GoesOn s s := List.suffix_rfl

theorem GoesOn.trans {s'' : StoreAccess} (h : GoesOn s s') (h' : GoesOn s' s'') : GoesOn s s'' :=
  List.IsSuffix.trans h' h

/-- Only the answers still to come differ. -/
structure Same (s s' : StoreAccess) : Prop where
  journal : s'.journal = s.journal
  evidence : s'.evidence = s.evidence
  clock : GoesOn s s'

theorem Same.rfl : Same s s := ⟨by rfl, by rfl, .rfl⟩

theorem Same.trans {s'' : StoreAccess} (h : Same s s') (h' : Same s' s'') : Same s s'' :=
  ⟨h'.journal.trans h.journal, h'.evidence.trans h.evidence, h.clock.trans h'.clock⟩

theorem Same.error (h : Same s s') (message : Option String) :
    Same s { s' with journalError := message } :=
  ⟨h.journal, h.evidence, h.clock⟩

theorem dateNow_same (s : StoreAccess) : Same s s.dateNow.2 := by
  unfold dateNow
  split
  · exact .rfl
  · rename_i reading rest hreadings
    refine ⟨by rfl, by rfl, ?_⟩
    show reading :: rest <:+ s.now :: s.readings
    rw [hreadings]
    exact List.suffix_cons s.now _

/-- The reading is where the clock stands. -/
theorem dateNow_now (s : StoreAccess) : s.dateNow.1 = s.dateNow.2.now := by
  unfold dateNow
  split <;> rfl

theorem nowIso_same (s : StoreAccess) : Same s s.nowIso.2 := s.dateNow_same

theorem nowIso_now (s : StoreAccess) : s.nowIso.1 = IsoTime.toISOString s.nowIso.2.now :=
  congrArg IsoTime.toISOString s.dateNow_now

theorem fault_same (s : StoreAccess) : Same s s.fault.2 := by
  unfold fault
  split
  · exact .rfl
  · exact ⟨by rfl, by rfl, .rfl⟩

/-- A query throws or answers. -/
theorem read_cases {α : Type} (query : Journal → α) (s : StoreAccess) :
    (∃ message s', s.read query = (.error message, s') ∧ Same s s') ∨
      ∃ s', s.read query = (.ok (query s.journal), s') ∧ Same s s' := by
  have hsame := s.fault_same
  unfold read
  rcases hfault : s.fault with ⟨fault, s'⟩
  rw [hfault] at hsame
  cases fault with
  | some message => exact .inl ⟨message, s', rfl, hsame⟩
  | none =>
      refine .inr ⟨s', ?_, hsame⟩
      show (Except.ok (query s'.journal), s') = _
      rw [hsame.journal]

/-- A call throws and changes nothing, or it is accepted. -/
theorem call_cases (c : StoreCall) (s : StoreAccess) :
    (∃ refusal s', s.call c = (.error refusal, s') ∧ Same s s') ∨
      ∃ reply s', s.call c = (.ok reply, s') ∧ s'.evidence = s.evidence ∧ GoesOn s s' ∧
        s.journal.call MemoryIncidentStore.codeUnitLe maxOperations c = .ok (reply, s'.journal) := by
  have hsame := s.fault_same
  unfold call
  rcases hfault : s.fault with ⟨fault, s'⟩
  rw [hfault] at hsame
  cases fault with
  | some message => exact .inl ⟨_, s', rfl, hsame⟩
  | none =>
      dsimp only
      rw [hsame.journal]
      cases hcall : s.journal.call MemoryIncidentStore.codeUnitLe maxOperations c with
      | error refusal => exact .inl ⟨refusal, s', rfl, hsame⟩
      | ok answer =>
          obtain ⟨reply, journal⟩ := answer
          exact .inr ⟨reply, _, rfl, hsame.evidence, hsame.clock, rfl⟩

/-- A change is not made, or it is a change to the incident as it is. -/
theorem update_cases
    {record : IncidentRecord} (hknown : s.journal.Known record) (patch : IncidentPatch)
    (event : IncidentEventName) (detail : String) :
    (∃ s', s.update record patch event detail = (record, s') ∧ Same s s') ∨
      ∃ time s', s.update record patch event detail = (patched patch time record, s') ∧
        s'.evidence = s.evidence ∧ GoesOn s s' ∧
        s.journal.incidents.get record.failureId = some record ∧ s'.journal =
          s.journal.record (patched patch time record) ⟨time, event, some detail, none⟩ := by
  have hclock := s.nowIso_same
  unfold update
  rcases htime : s.nowIso with ⟨time, s₁⟩
  rw [htime] at hclock
  dsimp only at hclock ⊢
  obtain ⟨refusal, s', hcall, hsame⟩ | ⟨reply, s', hcall, hevidence, hlater, haccepted⟩ :=
    call_cases (.update record.failureId record.revision patch ⟨time, event, some detail, none⟩) s₁
  · rw [hcall]
    refine .inl ⟨_, rfl, ?_⟩
    split
    · exact hclock.trans hsame
    · exact hclock.trans (hsame.error _)
  · rw [hcall]
    rw [hclock.journal] at haccepted
    obtain ⟨hget, rfl, hjournal⟩ := hknown.update_ok haccepted
    exact .inr ⟨time, s', rfl, hevidence.trans hclock.evidence, hclock.clock.trans hlater, hget,
      hjournal⟩

/-- The journal went on by some changes; the evidence is the same. -/
structure Wrote (C : Journal → Journal → Prop) (s s' : StoreAccess) : Prop where
  journal : ReflTransGen C s.journal s'.journal
  evidence : s'.evidence = s.evidence
  clock : GoesOn s s'

section Wrote

variable {C C' : Journal → Journal → Prop} {s'' : StoreAccess}

theorem Same.wrote (h : Same s s') : Wrote C s s' := by
  constructor
  · rw [h.journal]
  · exact h.evidence
  · exact h.clock

theorem Wrote.rfl : Wrote C s s := Same.rfl.wrote

theorem Wrote.trans (h : Wrote C s s') (h' : Wrote C s' s'') : Wrote C s s'' :=
  ⟨h.journal.trans h'.journal, h'.evidence.trans h.evidence, h.clock.trans h'.clock⟩

theorem Wrote.mono (h : Wrote C s s') (himplies : ∀ j j', C j j' → C' j j') : Wrote C' s s' :=
  ⟨ReflTransGen.mono himplies _ _ h.journal, h.evidence, h.clock⟩

/-- What is known stays known, when every change is an accepted call. -/
theorem Wrote.known
    {record : IncidentRecord} (h : Wrote C s s') (hnext : ∀ j j', C j j' → j.Next j')
    (hknown : s.journal.Known record) : s'.journal.Known record :=
  hknown.later (ReflTransGen.mono hnext _ _ h.journal)

theorem update_wrote
    {record : IncidentRecord} (hknown : s.journal.Known record) {patch : IncidentPatch}
    {event : IncidentEventName} {detail : String}
    (hC : ∀ time, s.journal.incidents.get record.failureId = some record →
      C s.journal (s.journal.record (patched patch time record)
        ⟨time, event, some detail, none⟩)) :
    Wrote C s (s.update record patch event detail).2 := by
  obtain ⟨s', hupdate, hsame⟩ | ⟨time, s', hupdate, hevidence, hlater, hget, hjournal⟩ :=
    update_cases hknown patch event detail
  · rw [hupdate]
    exact hsame.wrote
  · rw [hupdate]
    refine ⟨?_, hevidence, hlater⟩
    rw [hjournal]
    exact .single (hC time hget)

/-- The incident that an update returns is known. -/
theorem update_known
    {record : IncidentRecord} (hknown : s.journal.Known record) (patch : IncidentPatch)
    (event : IncidentEventName) (detail : String) :
    (s.update record patch event detail).2.journal.Known
      (s.update record patch event detail).1 := by
  obtain ⟨s', hupdate, hsame⟩ | ⟨time, s', hupdate, -, -, -, hjournal⟩ :=
    update_cases hknown patch event detail
  · rw [hupdate]
    dsimp only
    rw [hsame.journal]
    exact hknown
  · rw [hupdate]
    dsimp only
    rw [hjournal]
    exact Journal.known_of_get (Journal.get_record patch ⟨time, event, some detail, none⟩)

end Wrote

end StoreAccess

/-! ### Changes that neither resolve an incident nor carry it further -/

/-- The patch leaves the state, the evidence and the boundary alone; a record at its position
stays there, recovery ends, and no copy is acknowledged. -/
structure QuietPatch (record : IncidentRecord) (patch : IncidentPatch) : Prop where
  state : patch.state = none
  evidence : patch.evidence = none
  boundaryId : patch.boundaryId = none
  recovery : ∀ recovery ∈ patch.recovery, recovery = .held ∨ recovery = .denied
  quarantine : ∀ quarantine ∈ patch.quarantine, quarantine ≠ .acknowledged
  coordinates : patch.quarantineCoordinates = none
  progress : ∀ progress ∈ patch.progress, atPosition record.progress ∧ atPosition progress

def QuietChange (j j' : Journal) : Prop :=
  ∃ record patch event, j.incidents.get record.failureId = some record ∧
    QuietPatch record patch ∧ j' = j.record (patched patch event.time record) event

theorem QuietChange.next {j j' : Journal} (h : QuietChange j j') : j.Next j' := by
  obtain ⟨record, patch, event, hget, -, rfl⟩ := h
  exact Journal.record_next hget patch event

namespace StoreAccess

variable {s s' : StoreAccess} {record : IncidentRecord}

theorem Wrote.known_quiet (h : Wrote QuietChange s s') (hknown : s.journal.Known record) :
    s'.journal.Known record :=
  h.known (fun _ _ => QuietChange.next) hknown

theorem update_quiet
    (hknown : s.journal.Known record) {patch : IncidentPatch} (hquiet : QuietPatch record patch)
    {event : IncidentEventName} {detail : String} :
    Wrote QuietChange s (s.update record patch event detail).2 := by
  apply update_wrote hknown
  intro time hget
  exact ⟨record, patch, _, hget, hquiet, rfl⟩

end StoreAccess

theorem quietPatch_recovery (record : IncidentRecord) {recovery : RecoveryState}
    (h : recovery = .held ∨ recovery = .denied) (diagnosis : Option String)
    (guard : Option (Option GuardResult)) :
    QuietPatch record { recovery := some recovery, diagnosis := diagnosis, guard := guard } := by
  constructor <;> simp [h]

theorem quietPatch_diagnosis (record : IncidentRecord) (diagnosis : Option String) :
    QuietPatch record { diagnosis := diagnosis } := by
  constructor <;> simp

theorem quietPatch_progress {record : IncidentRecord} (hrecord : atPosition record.progress)
    {progress : ProgressState} (hprogress : atPosition progress) :
    QuietPatch record { progress := some progress } := by
  constructor <;> simp [hrecord, hprogress]

theorem quietPatch_quarantine (record : IncidentRecord) {quarantine : QuarantineState}
    (h : quarantine ≠ .acknowledged) : QuietPatch record { quarantine := some quarantine } := by
  constructor <;> simp [h]

namespace FailureService

variable {settings : ServiceSettings} {texts : RecordTexts} {sourceId : String}
  {s : StoreAccess} {record : IncidentRecord}

open StoreAccess

theorem quietPatch_heldAgain (diagnosis : Option String) (record : IncidentRecord) :
    QuietPatch record (heldAgain diagnosis record) := by
  unfold heldAgain
  by_cases hretrying : record.progress = .retrying
  · constructor <;> simp [hretrying, atPosition]
  · constructor <;> simp [hretrying]

theorem holdRetrying_quiet (position : Position) (incidents : List IncidentRecord)
    (s : StoreAccess) (h : ∀ incident ∈ incidents, s.journal.Known incident) :
    Wrote QuietChange s (holdRetrying position incidents s) := by
  induction incidents generalizing s with
  | nil => exact .rfl
  | cons incident rest ih =>
      have hrest : ∀ incident ∈ rest, s.journal.Known incident :=
        fun other hother => h other (List.mem_cons_of_mem _ hother)
      unfold holdRetrying
      by_cases hskip : incident.progress ≠ .retrying ∨ incident.position = position
      · rw [if_pos hskip]
        exact ih s hrest
      · rw [if_neg hskip]
        have hretrying : atPosition incident.progress := by
          have heq : incident.progress = .retrying := by tauto
          rw [heq]
          rfl
        have hheld := @update_quiet s incident (h incident List.mem_cons_self) _
          (@quietPatch_progress incident hretrying .held rfl) .held
          (pausedAgainAt ++ describePosition position ++
            "; no retry is redelivering this record now; retry it again if it is still held")
        exact hheld.trans (ih _ fun other hother => hheld.known_quiet (hrest other hother))

theorem markHeld_quiet (reason : String) (incidents : List IncidentRecord) (s : StoreAccess)
    (h : ∀ incident ∈ incidents, s.journal.Known incident) :
    Wrote QuietChange s (markHeld reason incidents s) := by
  induction incidents generalizing s with
  | nil => exact .rfl
  | cons incident rest ih =>
      have hrest : ∀ incident ∈ rest, s.journal.Known incident :=
        fun other hother => h other (List.mem_cons_of_mem _ hother)
      unfold markHeld
      by_cases hheld : incident.progress = .held
      · rw [if_neg (not_not.mpr hheld)]
        have hat : atPosition incident.progress := by
          rw [hheld]
          rfl
        have hmarked := @update_quiet s incident (h incident List.mem_cons_self) _
          (@quietPatch_progress incident hat .retrying rfl) .retrying reason
        exact hmarked.trans (ih _ fun other hother => hmarked.known_quiet (hrest other hother))
      · rw [if_pos hheld]
        exact ih s hrest

theorem markRetrying_quiet (sourceId reason : String) (s : StoreAccess) :
    Wrote QuietChange s (markRetrying settings sourceId reason s) := by
  unfold markRetrying
  obtain ⟨message, s₁, hread, hsame⟩ | ⟨s₁, hread, hsame⟩ := read_cases (fun j => j.opened sourceId) s
  · rw [hread]
    exact hsame.wrote
  rw [hread]
  dsimp only
  have hknown : ∀ incident ∈ s.journal.opened sourceId, s₁.journal.Known incident := by
    intro incident hmem
    rw [hsame.journal]
    exact Journal.known_of_opened hmem
  obtain ⟨message, s₂, hread₂, hsame₂⟩ | ⟨s₂, hread₂, hsame₂⟩ :=
    read_cases (fun j => (j.opened sourceId).find? (onOtherCluster settings sourceId)) s₁
  · rw [hread₂]
    exact (hsame.trans hsame₂).wrote
  rw [hread₂]
  have hsame₁₂ := hsame.trans hsame₂
  have hmark : Wrote QuietChange s (markHeld reason (s.journal.opened sourceId) s₂) := by
    apply hsame₁₂.wrote.trans
    apply markHeld_quiet
    intro incident hmem
    rw [hsame₂.journal]
    exact hknown incident hmem
  cases (s₁.journal.opened sourceId).find? (onOtherCluster settings sourceId) with
  | some _ => exact hsame₁₂.wrote
  | none =>
      dsimp only
      split
      · exact hsame₁₂.wrote
      · split
        · obtain ⟨message, s₃, hread₃, hsame₃⟩ | ⟨s₃, hread₃, hsame₃⟩ :=
            read_cases (fun j => (j.circuits sourceId).state) s₂
          · rw [hread₃]
            exact (hsame₁₂.trans hsame₃).wrote
          rw [hread₃]
          cases (s₂.journal.circuits sourceId).state with
          | opened => exact (hsame₁₂.trans hsame₃).wrote
          | closed =>
              apply (hsame₁₂.trans hsame₃).wrote.trans
              apply markHeld_quiet
              intro incident hmem
              rw [hsame₃.journal, hsame₂.journal]
              exact hknown incident hmem
        · exact hmark

theorem holdPassed_quiet (position : Position) (hknown : s.journal.Known record) :
    Wrote QuietChange s (holdPassed position record s) := by
  unfold holdPassed
  dsimp only
  split
  · exact update_quiet hknown (quietPatch_heldAgain _ record)
  · exact .rfl

theorem holdMismatched_quiet (hknown : s.journal.Known record) :
    Wrote QuietChange s (holdMismatched settings sourceId record s) := by
  unfold holdMismatched
  split
  · exact update_quiet hknown (quietPatch_heldAgain _ record)
  · exact .rfl

theorem checkPassed_quiet (position : Position) {opened : List IncidentRecord}
    (h : ∀ incident ∈ opened, s.journal.Known incident) :
    Wrote QuietChange s (checkPassed position opened s).2 := by
  unfold checkPassed
  cases hfound : opened.find? (passes position) with
  | none => exact .rfl
  | some incident => exact holdPassed_quiet position (h incident (List.mem_of_find?_eq_some hfound))

theorem compareEvidence_quiet (input : Delivery) (incidents : List IncidentRecord)
    (corrected : Bool) (s : StoreAccess) (h : ∀ incident ∈ incidents, s.journal.Known incident) :
    Wrote QuietChange s (compareEvidence texts sourceId input incidents corrected s).2.2 := by
  induction incidents generalizing corrected s with
  | nil => exact .rfl
  | cons incident rest ih =>
      have hrest : ∀ incident ∈ rest, s.journal.Known incident :=
        fun other hother => h other (List.mem_cons_of_mem _ hother)
      unfold compareEvidence
      split
      · cases rawEvidence input with
        | none => exact ih false s hrest
        | some raw =>
            dsimp only
            split
            · exact ih false s hrest
            · cases input.position with
              | fixture index => exact ih true s hrest
              | kafka topic partition offset =>
                  dsimp only
                  split
                  · exact update_quiet (h incident List.mem_cons_self)
                      (quietPatch_heldAgain _ incident)
                  · exact .rfl
      · exact ih corrected s hrest

theorem holdOnClusterMismatch_quiet (hknown : s.journal.Known record) :
    Wrote QuietChange s (holdOnClusterMismatch settings sourceId record s).2 := by
  unfold holdOnClusterMismatch
  cases settings.clusterMismatch sourceId record with
  | none => exact .rfl
  | some mismatch => exact update_quiet hknown (quietPatch_recovery record (.inl rfl) _ _)

theorem releaseGuard_quiet (pending : IncidentRecord) (detail : String) (s : StoreAccess) :
    Wrote QuietChange s (releaseGuard pending detail s) := by
  unfold releaseGuard
  obtain ⟨message, s₁, hread, hsame⟩ | ⟨s₁, hread, hsame⟩ :=
    read_cases (fun j => j.incidents.get pending.failureId) s
  · rw [hread]
    exact hsame.wrote
  rw [hread]
  cases hfound : s.journal.incidents.get pending.failureId with
  | none => exact hsame.wrote
  | some current =>
      dsimp only
      split
      · exact hsame.wrote
      · have hknown : s₁.journal.Known current := by
          rw [hsame.journal]
          exact Journal.known_of_mem (InsertionMap.mem_of_get hfound)
        exact hsame.wrote.trans (update_quiet hknown (quietPatch_recovery current (.inl rfl) _ _))

theorem note_quiet (failureId operationId detail : String) (s : StoreAccess) :
    Wrote QuietChange s (note failureId operationId detail s) := by
  unfold note
  obtain ⟨message, s₁, hread, hsame⟩ | ⟨s₁, hread, hsame⟩ :=
    read_cases (fun j => j.incidents.get failureId) s
  · rw [hread]
    exact hsame.wrote
  rw [hread]
  cases hfound : s.journal.incidents.get failureId with
  | none => exact hsame.wrote
  | some latest =>
      dsimp only
      have hclock := s₁.nowIso_same
      rcases htime : s₁.nowIso with ⟨time, s₂⟩
      rw [htime] at hclock
      have hsame₂ := hsame.trans hclock
      dsimp only
      obtain ⟨refusal, s', hcall, hsame'⟩ | ⟨reply, s', hcall, hevidence, hlater, haccepted⟩ :=
        call_cases (.update latest.failureId latest.revision {}
          ⟨time, .operator, some (String.ofList (detail.toList.take 512)), some operationId⟩) s₂
      · rw [hcall]
        exact (hsame₂.trans hsame').wrote
      · rw [hcall]
        rw [hsame₂.journal] at haccepted
        obtain ⟨hget, -, hjournal⟩ :=
          (Journal.known_of_mem (InsertionMap.mem_of_get hfound)).update_ok haccepted
        refine ⟨?_, hevidence.trans hsame₂.evidence, hsame₂.clock.trans hlater⟩
        rw [hjournal]
        exact .single ⟨latest, {}, _, hget, quietPatch_diagnosis latest none, rfl⟩

end FailureService

end StreamOtter
