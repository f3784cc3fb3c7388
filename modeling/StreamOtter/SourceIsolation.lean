import StreamOtter.ServiceOrigins

/-!
# Sources do not touch each other

An event about a source changes incidents of that source only, and no circuit but its own: every
write that its work makes names an incident whose ID is derived from the source.
-/

namespace StreamOtter

open FailureStore

namespace FailureService

variable {texts : RecordTexts} {settings : ServiceSettings} {sourceId : String}
  {s s' : StoreAccess} {incident record : IncidentRecord} {f f' : FailureService}

open StoreAccess

/-- The failure ID of a record of the source. -/
def Owned (texts : RecordTexts) (sourceId failureId : String) : Prop :=
  ∃ generation position, failureId = texts.failureId sourceId generation position

/-- Only what belongs to the source may differ. -/
structure Within (texts : RecordTexts) (sourceId : String) (s s' : StoreAccess) : Prop where
  incidents : ∀ failureId, ¬ Owned texts sourceId failureId →
    s'.journal.incidents.get failureId = s.journal.incidents.get failureId
  circuits : ∀ other ≠ sourceId, s'.journal.circuits other = s.journal.circuits other

theorem Within.of_journal (h : s'.journal = s.journal) : Within texts sourceId s s' := by
  constructor <;> simp [h]

theorem Within.rfl : Within texts sourceId s s := .of_journal (by rfl)

theorem Within.trans {s'' : StoreAccess} (h : Within texts sourceId s s')
    (h' : Within texts sourceId s' s'') : Within texts sourceId s s'' :=
  ⟨fun failureId hnot => (h'.incidents failureId hnot).trans (h.incidents failureId hnot),
    fun other hne => (h'.circuits other hne).trans (h.circuits other hne)⟩

theorem owned_of_named {j : Journal} (hnamed : JournalNamed texts j)
    (hmem : incident ∈ j.opened sourceId) : Owned texts sourceId incident.failureId := by
  obtain ⟨hstored, hsource, -⟩ := mem_opened_iff.mp hmem
  have hname : Named texts incident := hnamed _ _ hstored
  rw [hname, hsource]
  exact ⟨_, _, rfl⟩

theorem find_owned {j : Journal} (hnamed : JournalNamed texts j) {p : IncidentRecord → Bool}
    (hfind : (j.opened sourceId).find? p = some incident) :
    Owned texts sourceId incident.failureId :=
  owned_of_named hnamed (List.mem_of_find?_eq_some hfind)

/-! ### Calls -/

theorem update_within (howned : Owned texts sourceId record.failureId) (patch : IncidentPatch)
    (event : IncidentEventName) (detail : String) :
    Within texts sourceId s (s.update record patch event detail).2 ∧
      (s.update record patch event detail).1.failureId = record.failureId := by
  have hclock := s.nowIso_same
  unfold StoreAccess.update
  rcases htime : s.nowIso with ⟨time, s₁⟩
  rw [htime] at hclock
  dsimp only at hclock ⊢
  obtain ⟨refusal, s₂, hcall, hsame⟩ | ⟨reply, s₂, hcall, -, -, haccepted⟩ :=
    call_cases (.update record.failureId record.revision patch ⟨time, event, some detail, none⟩) s₁
  · rw [hcall]
    refine ⟨?_, rfl⟩
    dsimp only
    split
    · exact .of_journal (hclock.trans hsame).journal
    · exact .of_journal (hclock.trans hsame).journal
  · rw [hcall]
    obtain ⟨existing, hget, -, rfl, hjournal⟩ := Journal.update_ok haccepted
    dsimp only
    refine ⟨⟨?_, ?_⟩, (InsertionMap.key_of_get hget : existing.failureId = record.failureId)⟩
    · intro failureId hnot
      rw [hjournal, ← hclock.journal]
      refine InsertionMap.get_set_ne _ ?_
      rintro rfl
      apply hnot
      show Owned texts sourceId existing.failureId
      rw [InsertionMap.key_of_get hget]
      exact howned
    · intro other _
      rw [hjournal, ← hclock.journal]
      rfl

/-- A change whose result the caller does not use. -/
theorem change_within (howned : Owned texts sourceId record.failureId) (patch : IncidentPatch)
    (event : IncidentEventName) (detail : String) :
    Within texts sourceId s (s.update record patch event detail).2 :=
  (update_within howned patch event detail).1

/-! ### The record pipeline -/

theorem resolveCommitted_within (position : Position) (corrected : Bool)
    (incidents : List IncidentRecord) (s : StoreAccess)
    (howned : ∀ incident ∈ incidents, Owned texts sourceId incident.failureId) :
    Within texts sourceId s
      (resolveCommitted settings sourceId position corrected incidents s).2 := by
  induction incidents generalizing s with
  | nil => exact .rfl
  | cons incident rest ih =>
      have hrest := fun s => ih s fun other hother => howned other (List.mem_cons_of_mem _ hother)
      have hfirst := howned incident List.mem_cons_self
      unfold resolveCommitted
      split
      · split
        · exact (change_within hfirst _ _ _).trans (hrest _)
        · split
          · exact (change_within hfirst _ _ _).trans (hrest _)
          · exact hrest s
      · exact hrest s

theorem committed_within (hnamed : JournalNamed texts f.store.journal) (position : Position) :
    Within texts sourceId f.store (f.committed sourceId position).store := by
  unfold committed
  dsimp only
  split
  · exact .rfl
  obtain ⟨message, s', hread, hsame⟩ | ⟨s', hread, hsame⟩ :=
    read_cases (fun j => j.opened sourceId) f.store
  · rw [hread]
    exact .of_journal hsame.journal
  · rw [hread]
    exact (Within.of_journal hsame.journal).trans
      (resolveCommitted_within position _ _ s' fun incident hmem => owned_of_named hnamed hmem)

theorem holdRetrying_within (position : Position) (incidents : List IncidentRecord)
    (s : StoreAccess) (howned : ∀ incident ∈ incidents, Owned texts sourceId incident.failureId) :
    Within texts sourceId s (holdRetrying position incidents s) := by
  induction incidents generalizing s with
  | nil => exact .rfl
  | cons incident rest ih =>
      have hrest := fun s => ih s fun other hother => howned other (List.mem_cons_of_mem _ hother)
      unfold holdRetrying
      split
      · exact hrest s
      · exact (change_within (howned incident List.mem_cons_self) _ _ _).trans (hrest _)

theorem sourceHeld_within (hnamed : JournalNamed texts f.store.journal) (position : Position) :
    Within texts sourceId f.store (f.sourceHeld sourceId position).store := by
  unfold sourceHeld
  split
  · exact .rfl
  obtain ⟨message, s', hread, hsame⟩ | ⟨s', hread, hsame⟩ :=
    read_cases (fun j => j.opened sourceId) f.store
  · rw [hread]
    exact .of_journal hsame.journal
  · rw [hread]
    exact (Within.of_journal hsame.journal).trans
      (holdRetrying_within position _ s' fun incident hmem => owned_of_named hnamed hmem)

theorem compareEvidence_within (input : Delivery) (incidents : List IncidentRecord)
    (corrected : Bool) (s : StoreAccess)
    (howned : ∀ incident ∈ incidents, Owned texts sourceId incident.failureId) :
    Within texts sourceId s (compareEvidence texts sourceId input incidents corrected s).2.2 := by
  induction incidents generalizing corrected s with
  | nil => exact .rfl
  | cons incident rest ih =>
      have hrest := fun corrected => ih corrected s fun other hother =>
        howned other (List.mem_cons_of_mem _ hother)
      unfold compareEvidence
      split
      · split
        · exact hrest false
        · split
          · exact hrest false
          · split
            · exact hrest true
            · dsimp only
              split
              · exact change_within (howned incident List.mem_cons_self) _ _ _
              · exact .rfl
      · exact hrest corrected

theorem holdPassed_within (howned : Owned texts sourceId incident.failureId)
    (position : Position) : Within texts sourceId s (holdPassed position incident s) := by
  unfold holdPassed
  dsimp only
  split
  · exact change_within howned _ _ _
  · exact .rfl

theorem holdMismatched_within (howned : Owned texts sourceId incident.failureId) :
    Within texts sourceId s (holdMismatched settings sourceId incident s) := by
  unfold holdMismatched
  split
  · exact change_within howned _ _ _
  · exact .rfl

theorem positionProblem_within (hnamed : JournalNamed texts f.store.journal) (input : Delivery) :
    Within texts sourceId f.store (positionProblem texts sourceId input f).2.store := by
  unfold positionProblem
  split
  · exact .rfl
  obtain ⟨message, s', hread, hsame⟩ | ⟨s', hread, hsame⟩ :=
    read_cases (fun j => j.opened sourceId) f.store
  · rw [hread]
    exact .of_journal hsame.journal
  rw [hread]
  have hread' : Within texts sourceId f.store s' := .of_journal hsame.journal
  dsimp only
  cases hcluster : (f.store.journal.opened sourceId).find? (onOtherCluster f.settings sourceId) with
  | some incident => exact hread'.trans (holdMismatched_within (find_owned hnamed hcluster))
  | none =>
      cases (f.store.journal.opened sourceId).find? (isUncertain input.position) with
      | some incident => exact hread'
      | none =>
          have hcompared := compareEvidence_within input (f.store.journal.opened sourceId)
            (f.corrected (sourceId, input.position)) s' fun incident hmem =>
              owned_of_named hnamed hmem
          dsimp only
          rcases hcompare : compareEvidence texts sourceId input (f.store.journal.opened sourceId)
            (f.corrected (sourceId, input.position)) s' with ⟨problem, corrected, s''⟩
          rw [hcompare] at hcompared
          have hcompared' : Within texts sourceId f.store s'' := hread'.trans hcompared
          cases problem with
          | some problem => exact hcompared'
          | none =>
              dsimp only [checkPassed]
              cases hpassed : (f.store.journal.opened sourceId).find? (passes input.position) with
              | none => exact hcompared'
              | some incident =>
                  exact hcompared'.trans
                    (holdPassed_within (find_owned hnamed hpassed) input.position)

/-! ### The disposition -/

theorem holdOnClusterMismatch_within (howned : Owned texts sourceId record.failureId) :
    Within texts sourceId s (holdOnClusterMismatch settings sourceId record s).2 := by
  unfold holdOnClusterMismatch
  split
  · exact .rfl
  · exact change_within howned _ _ _

theorem write_within (record : IncidentRecord) (raw : RawEvidence) (s : StoreAccess) :
    Within texts sourceId s (write settings texts sourceId record raw s).2 := by
  have hfault := s.fault_same
  unfold write
  split
  · rcases hfaults : s.fault with ⟨fault, s'⟩
    rw [hfaults] at hfault
    cases fault with
    | some message => exact .of_journal hfault.journal
    | none => exact .of_journal hfault.journal
  · repeat' split
    all_goals exact .rfl

theorem captureRecord_within (howned : Owned texts sourceId record.failureId)
    (policy : FailurePolicy) (summary : EvidenceSummary) (raw : Option RawEvidence)
    (s : StoreAccess) :
    Within texts sourceId s
      (captureRecord settings texts sourceId record policy summary raw s).2 := by
  have hmismatch := @holdOnClusterMismatch_within texts settings sourceId s record howned
  unfold captureRecord
  rcases hhold : holdOnClusterMismatch settings sourceId record s with ⟨holds, s'⟩
  rw [hhold] at hmismatch
  cases holds with
  | true => exact hmismatch
  | false =>
      dsimp only
      split
      · exact hmismatch
      · split
        · exact hmismatch.trans ((change_within howned _ _ _).trans (write_within _ _ _))
        · exact hmismatch.trans (change_within howned _ _ _)

theorem quarantineRecord_within (howned : Owned texts sourceId record.failureId)
    (policy : FailurePolicy) (summary : EvidenceSummary) (raw : Option RawEvidence)
    (s : StoreAccess) :
    Within texts sourceId s
      (quarantineRecord settings texts sourceId record policy summary raw s).2 := by
  unfold quarantineRecord
  split
  · exact .rfl
  · exact captureRecord_within howned policy summary raw s

theorem failedAgain_within (howned : Owned texts sourceId record.failureId) (s : StoreAccess) :
    Within texts sourceId s (failedAgain record s).2 ∧
      (failedAgain record s).1.failureId = record.failureId := by
  unfold failedAgain
  split
  · exact update_within howned _ _ _
  · exact ⟨.rfl, rfl⟩

/-- An observation of a record of the source. -/
theorem observe_within {observation : NewObservation}
    (howned : Owned texts sourceId observation.failureId) {reply : StoreReply}
    (hcall : s.call (.observe observation) = (.ok reply, s')) :
    Within texts sourceId s s' ∧ ∀ result, reply = .observed result →
      result.record.failureId = observation.failureId := by
  obtain ⟨refusal, s₁, hcall', -⟩ | ⟨reply', s₁, hcall', -, -, haccepted⟩ :=
    call_cases (.observe observation) s
  · rw [hcall'] at hcall
    cases hcall
  · rw [hcall'] at hcall
    obtain ⟨⟨rfl⟩, rfl⟩ := Prod.mk.inj hcall
    have hobserved : s.journal.observe observation = (reply, s₁.journal) := Except.ok.inj haccepted
    have hcircuits : (s.journal.observe observation).2.circuits = s.journal.circuits := by
      unfold Journal.observe
      split <;> rfl
    rw [hobserved] at hcircuits
    refine ⟨⟨?_, fun other _ => congrFun hcircuits other⟩, ?_⟩
    · intro failureId hnot
      obtain ⟨record, hid, hset, -⟩ := (Journal.call_incidents haccepted).raised _ rfl
      rw [hset]
      refine InsertionMap.get_set_ne _ ?_
      rintro rfl
      exact hnot (hid ▸ howned)
    · rintro result rfl
      exact (observe_known observation (congrArg Prod.fst hobserved)).2.1

theorem dispose_within (input : Delivery) (outcome : Pause) (f : FailureService) :
    Within texts sourceId f.store (dispose texts sourceId input outcome f).2.store := by
  unfold dispose
  dsimp only
  split
  · exact .rfl
  have hclock := f.store.nowIso_same
  rcases htime : f.store.nowIso with ⟨time, s₁⟩
  rw [htime] at hclock
  have hclock' : Within texts sourceId f.store s₁ := .of_journal hclock.journal
  dsimp only
  generalize hobservation : observationOf f.settings texts sourceId input outcome _ _ time =
    observation
  have howned : Owned texts sourceId observation.failureId := by
    rw [← hobservation]
    exact ⟨_, _, rfl⟩
  rcases hcall : s₁.call (.observe observation) with ⟨answer, s₂⟩
  cases answer with
  | error refusal =>
      obtain ⟨refusal', s₃, hcall', hsame⟩ | ⟨reply, s₃, hcall', -⟩ :=
        call_cases (.observe observation) s₁
      · rw [hcall'] at hcall
        obtain ⟨-, rfl⟩ := Prod.mk.inj hcall
        exact hclock'.trans (.of_journal hsame.journal)
      · rw [hcall'] at hcall
        cases hcall
  | ok reply =>
      obtain ⟨hobserved, hrecord⟩ := observe_within howned hcall
      have hwithin := hclock'.trans hobserved
      cases reply with
      | observed result =>
          have hresult : Owned texts sourceId result.record.failureId := by
            rw [hrecord result rfl]
            exact howned
          have hstored : Within texts sourceId f.store { s₂ with journalError := none } :=
            hwithin.trans (.of_journal rfl)
          dsimp only
          split
          · exact hstored.trans (change_within hresult _ _ _)
          · obtain ⟨hagain, hid⟩ := failedAgain_within hresult { s₂ with journalError := none }
            rcases hfailed : failedAgain result.record { s₂ with journalError := none } with
              ⟨record, s₃⟩
            rw [hfailed] at hagain hid
            dsimp only at hagain hid ⊢
            have hrecord' : Owned texts sourceId record.failureId := by
              rw [hid]
              exact hresult
            exact (hstored.trans hagain).trans (quarantineRecord_within hrecord' _ _ _ _)
      | claimed | updated _ | prepared _ _ | retired _ | circuit _ | begun _ _ | finished _
      | abandoned _ => exact hwithin

/-! ### What follows the quarantine write -/

theorem recordQuarantine_within (howned : Owned texts sourceId record.failureId)
    (patch : IncidentPatch) (event : IncidentEventName) (detail : String) (s : StoreAccess) :
    Within texts sourceId s (recordQuarantine record patch event detail s).2 ∧
      ∀ updated, (recordQuarantine record patch event detail s).1 = some updated →
        updated.failureId = record.failureId := by
  obtain ⟨hupdated, hid⟩ := @update_within texts sourceId s record howned patch event detail
  unfold recordQuarantine
  rcases hupdate : s.update record patch event detail with ⟨updated, s₁⟩
  rw [hupdate] at hupdated hid
  dsimp only at hupdated hid ⊢
  split
  · exact ⟨hupdated, by rintro _ ⟨⟩; exact hid⟩
  obtain ⟨message, s₂, hread, hsame⟩ | ⟨s₂, hread, hsame⟩ :=
    read_cases (fun j => j.incidents.get record.failureId) s₁
  · rw [hread]
    exact ⟨hupdated.trans (.of_journal hsame.journal), by simp⟩
  rw [hread]
  have hread' := hupdated.trans (.of_journal hsame.journal : Within texts sourceId s₁ s₂)
  cases hfound : s₁.journal.incidents.get record.failureId with
  | none => exact ⟨hread', by simp⟩
  | some current =>
      dsimp only
      have hcurrent : Owned texts sourceId current.failureId := by
        rw [InsertionMap.key_of_get hfound]
        exact howned
      split
      · exact ⟨hread'.trans (change_within hcurrent _ _ _), by simp⟩
      · exact ⟨hread', by simp⟩

theorem updateCircuit_within {revision : ℕ} {next : CircuitUpdate}
    {answer : Except Refusal StoreReply}
    (hcall : s.call (.updateCircuit sourceId revision next) = (answer, s')) :
    Within texts sourceId s s' := by
  obtain ⟨refusal, s₁, hcall', hsame⟩ | ⟨reply, s₁, hcall', -, -, haccepted⟩ :=
    call_cases (.updateCircuit sourceId revision next) s
  · obtain ⟨-, rfl⟩ := Prod.mk.inj (hcall'.symm.trans hcall)
    exact .of_journal hsame.journal
  · obtain ⟨-, rfl⟩ := Prod.mk.inj (hcall'.symm.trans hcall)
    obtain ⟨-, hjournal⟩ := Journal.updateCircuit_ok haccepted
    refine ⟨fun failureId _ => by rw [hjournal], ?_⟩
    intro other hne
    rw [hjournal]
    exact Function.update_of_ne hne _ _

theorem checkCircuit_within (record : IncidentRecord) (s : StoreAccess) :
    Within texts sourceId s (checkCircuit settings sourceId record s).2 := by
  unfold checkCircuit
  dsimp only
  obtain ⟨message, s₁, hread, hsame⟩ | ⟨s₁, hread, hsame⟩ :=
    read_cases (fun j => j.circuits sourceId) s
  · rw [hread]
    exact .of_journal hsame.journal
  rw [hread]
  dsimp only
  have hclock := s₁.dateNow_same
  rcases htime : s₁.dateNow with ⟨now, s₂⟩
  rw [htime] at hclock
  dsimp only at hclock ⊢
  obtain ⟨message, s₃, hown, hsame₃⟩ | ⟨s₃, hown, hsame₃⟩ := ownAdvance_cases record s₂
  · rw [hown]
    exact .of_journal ((hsame.trans hclock).trans hsame₃).journal
  rw [hown]
  have hread' : Within texts sourceId s s₃ :=
    .of_journal ((hsame.trans hclock).trans hsame₃).journal
  dsimp only
  split
  · exact hread'
  split
  · exact hread'
  · have hclock₃ := s₃.nowIso_same
    rcases htime₃ : s₃.nowIso with ⟨openedAt, s₄⟩
    rw [htime₃] at hclock₃
    dsimp only at hclock₃ ⊢
    have hclock' := hread'.trans (.of_journal hclock₃.journal : Within texts sourceId s₃ s₄)
    split
    · rename_i hcall
      exact hclock'.trans (updateCircuit_within hcall)
    · rename_i hcall
      exact hclock'.trans (updateCircuit_within hcall)

theorem continueRecord_within (howned : Owned texts sourceId record.failureId) (s : StoreAccess) :
    Within texts sourceId s (continueRecord settings sourceId record s).2 := by
  have hcircuit := @checkCircuit_within texts settings sourceId record s
  unfold continueRecord
  rcases hchecked : checkCircuit settings sourceId record s with ⟨checked, s₁⟩
  rw [hchecked] at hcircuit
  have hheld : ∀ (s₂ : StoreAccess) (detail : String), s₂.journal = s₁.journal →
      Within texts sourceId s (s₂.update record { recovery := some .held } .held detail).2 :=
    fun s₂ detail hjournal =>
      (hcircuit.trans (.of_journal hjournal)).trans (change_within howned _ _ _)
  cases checked with
  | error message => exact hheld _ _ rfl
  | ok closed =>
      cases closed with
      | false => exact hheld _ _ rfl
      | true =>
          dsimp only
          split
          · exact hheld _ _ rfl
          obtain ⟨message, s₂, hread, hsame⟩ | ⟨s₂, hread, hsame⟩ :=
            read_cases (fun j => j.boundary sourceId) s₁
          · rw [hread]
            exact hcircuit.trans (.of_journal hsame.journal)
          rw [hread]
          dsimp only
          have hmismatch := @holdOnClusterMismatch_within texts settings sourceId s₂ record howned
          have hread' := hcircuit.trans (.of_journal hsame.journal : Within texts sourceId s₁ s₂)
          rcases hhold : holdOnClusterMismatch settings sourceId record s₂ with ⟨holds, s₃⟩
          rw [hhold] at hmismatch
          cases holds with
          | true => exact hread'.trans hmismatch
          | false =>
              dsimp only
              have hpending := @change_within texts sourceId s₃ record howned
                { recovery := some .guardPending } .held "running the recovery guard"
              split
              · exact (hread'.trans hmismatch).trans hpending
              · exact (hread'.trans hmismatch).trans hpending

theorem writeSettled_within (howned : Owned texts sourceId record.failureId)
    (policy : FailurePolicy) (summary : EvidenceSummary) (outcome : QuarantineOutcome)
    (s : StoreAccess) :
    Within texts sourceId s (writeSettled settings sourceId record policy summary outcome s).2 := by
  unfold writeSettled
  cases outcome with
  | unknown reason => exact (recordQuarantine_within howned _ _ _ _).1
  | failed reason => exact (recordQuarantine_within howned _ _ _ _).1
  | acknowledged coordinates =>
      dsimp only
      obtain ⟨hrecorded, hid⟩ := @recordQuarantine_within texts sourceId record howned
        { quarantine := some .acknowledged, quarantineCoordinates := some coordinates } .quarantined
        (quarantinedDetail summary coordinates) s
      rcases hrecord : recordQuarantine record
        { quarantine := some .acknowledged, quarantineCoordinates := some coordinates } .quarantined
        (quarantinedDetail summary coordinates) s with ⟨quarantined, s₁⟩
      rw [hrecord] at hrecorded hid
      dsimp only at hrecorded hid ⊢
      split
      · rename_i updated
        have hupdated : Owned texts sourceId updated.failureId := by
          rw [hid updated rfl]
          exact howned
        exact hrecorded.trans (continueRecord_within hupdated s₁)
      · exact hrecorded

/-! ### The guarded advance -/

theorem releaseGuard_within (howned : Owned texts sourceId record.failureId) (detail : String)
    (s : StoreAccess) : Within texts sourceId s (releaseGuard record detail s) := by
  unfold releaseGuard
  obtain ⟨message, s₁, hread, hsame⟩ | ⟨s₁, hread, hsame⟩ :=
    read_cases (fun j => j.incidents.get record.failureId) s
  · rw [hread]
    exact .of_journal hsame.journal
  rw [hread]
  cases hfound : s.journal.incidents.get record.failureId with
  | none => exact .of_journal hsame.journal
  | some current =>
      dsimp only
      split
      · exact .of_journal hsame.journal
      · refine (Within.of_journal hsame.journal).trans (change_within ?_ _ _ _)
        rw [InsertionMap.key_of_get hfound]
        exact howned

theorem prepareAdvance_within (hnamed : JournalNamed texts s.journal) {input : PrepareAdvance}
    (howned : Owned texts sourceId input.failureId) :
    Within texts sourceId s (s.call (.prepareAdvance input)).2 := by
  obtain ⟨refusal, s₁, hcall, hsame⟩ | ⟨reply, s₁, hcall, -, -, haccepted⟩ :=
    call_cases (.prepareAdvance input) s
  · rw [hcall]
    exact .of_journal hsame.journal
  · rw [hcall]
    refine ⟨?_, ?_⟩
    · intro failureId hnot
      obtain ⟨record, hid, hset, -⟩ := (Journal.call_incidents haccepted).raised _ rfl
      dsimp only
      rw [hset]
      refine InsertionMap.get_set_ne _ ?_
      rintro rfl
      exact hnot (hid ▸ howned)
    · intro other hne
      obtain ⟨context, existing, -, hfound, -, -, -, -, -, -, hjournal⟩ :=
        Journal.prepareAdvance_ok haccepted
      dsimp only
      rw [hjournal]
      refine Function.update_of_ne ?_ _ _
      rintro rfl
      obtain ⟨generation, position, hid⟩ := howned
      have hname : Named texts existing := hnamed _ _ hfound
      have hkey : existing.failureId = input.failureId := InsertionMap.key_of_get hfound
      exact hne (failureId_inj (hname.symm.trans (hkey.trans hid))).1

theorem prepareRecord_within (hnamed : JournalNamed texts s.journal)
    (howned : Owned texts sourceId record.failureId) (boundaryId context : String)
    (prior : Option StoredBoundary) (result : GuardResult) :
    Within texts sourceId s (prepareRecord record boundaryId prior context result s).2 := by
  have hclock := s.nowIso_same
  unfold prepareRecord
  rcases htime : s.nowIso with ⟨time, s₁⟩
  rw [htime] at hclock
  dsimp only at hclock ⊢
  have hprepared := @prepareAdvance_within texts sourceId s₁ (by rw [hclock.journal]; exact hnamed)
    ⟨record.failureId, record.revision, boundaryId, .ok context, prior.map (·.boundaryId), result,
      time⟩ howned
  have hwithin := (Within.of_journal hclock.journal).trans hprepared
  rcases hcall : s₁.call (.prepareAdvance ⟨record.failureId, record.revision, boundaryId,
    .ok context, prior.map (·.boundaryId), result, time⟩) with ⟨answer, s₂⟩
  rw [hcall] at hwithin ⊢
  cases answer with
  | error refusal =>
      refine hwithin.trans (Within.trans ?_ (releaseGuard_within howned _ _))
      split
      · exact .rfl
      · exact .of_journal rfl
  | ok reply =>
      cases reply with
      | prepared => exact hwithin.trans (.of_journal rfl)
      | claimed | updated | observed | retired | circuit | begun | finished | abandoned =>
          exact hwithin

theorem guardSettled_within (hnamed : JournalNamed texts s.journal)
    (howned : Owned texts sourceId record.failureId) (prior : Option StoredBoundary)
    (stopping : Bool) (answer : HandlerAnswer) (boundaryId : String) :
    Within texts sourceId s
      (guardSettled settings texts sourceId record prior stopping answer boundaryId s).2 := by
  have hclock := s.nowIso_same
  unfold guardSettled
  rcases htime : s.nowIso with ⟨time, s₁⟩
  rw [htime] at hclock
  dsimp only at hclock ⊢
  split
  · exact (Within.of_journal hclock.journal).trans (releaseGuard_within howned _ _)
  obtain ⟨message, s₂, hread, hsame⟩ | ⟨s₂, hread, hsame⟩ :=
    read_cases (fun j => j.incidents.get record.failureId) s₁
  · rw [hread]
    exact .of_journal (hclock.trans hsame).journal
  rw [hread]
  have hread' : Within texts sourceId s s₂ := .of_journal (hclock.trans hsame).journal
  cases hfound : s₁.journal.incidents.get record.failureId with
  | none => exact hread'
  | some current =>
      dsimp only
      have hcurrent : Owned texts sourceId current.failureId := by
        rw [InsertionMap.key_of_get hfound]
        exact howned
      split
      · exact hread'
      cases runGuard texts answer time with
      | refused decision result => exact hread'.trans (change_within hcurrent _ _ _)
      | recoverable context result =>
          dsimp only
          have hmismatch := @holdOnClusterMismatch_within texts settings sourceId s₂ current hcurrent
          rcases hhold : holdOnClusterMismatch settings sourceId current s₂ with ⟨holds, s₃⟩
          rw [hhold] at hmismatch
          cases holds with
          | true => exact hread'.trans hmismatch
          | false =>
              obtain rfl := holdOnClusterMismatch_false hhold
              dsimp only
              have hnamed₂ : JournalNamed texts s₃.journal := by
                rw [(hclock.trans hsame).journal]
                exact hnamed
              have hprepared := prepareRecord_within hnamed₂ hcurrent
                boundaryId context prior result
              rcases hprepare : prepareRecord current boundaryId prior context result s₃ with
                ⟨prepared, s₄⟩
              rw [hprepare] at hprepared
              cases prepared with
              | none => exact hread'.trans hprepared
              | some prepared => exact hread'.trans hprepared

/-! ### Jobs of the chain -/

theorem markHeld_within (reason : String) (incidents : List IncidentRecord) (s : StoreAccess)
    (howned : ∀ incident ∈ incidents, Owned texts sourceId incident.failureId) :
    Within texts sourceId s (markHeld reason incidents s) := by
  induction incidents generalizing s with
  | nil => exact .rfl
  | cons incident rest ih =>
      have hrest := fun s => ih s fun other hother => howned other (List.mem_cons_of_mem _ hother)
      unfold markHeld
      split
      · exact hrest s
      · exact (change_within (howned incident List.mem_cons_self) _ _ _).trans (hrest _)

theorem markRetrying_within (hnamed : JournalNamed texts s.journal) (reason : String) :
    Within texts sourceId s (markRetrying settings sourceId reason s) := by
  unfold markRetrying
  obtain ⟨message, s₁, hread, hsame⟩ | ⟨s₁, hread, hsame⟩ := read_cases (fun j => j.opened sourceId) s
  · rw [hread]
    exact .of_journal hsame.journal
  rw [hread]
  dsimp only
  obtain ⟨message, s₂, hread₂, hsame₂⟩ | ⟨s₂, hread₂, hsame₂⟩ :=
    read_cases (fun j => (j.opened sourceId).find? (onOtherCluster settings sourceId)) s₁
  · rw [hread₂]
    exact .of_journal (hsame.trans hsame₂).journal
  rw [hread₂]
  have hreads : Within texts sourceId s s₂ := .of_journal (hsame.trans hsame₂).journal
  have hmark := fun s₃ => @markHeld_within texts sourceId reason
    (s.journal.opened sourceId) s₃ fun incident hmem => owned_of_named hnamed hmem
  cases (s₁.journal.opened sourceId).find? (onOtherCluster settings sourceId) with
  | some _ => exact hreads
  | none =>
      dsimp only
      split
      · exact hreads
      · split
        · obtain ⟨message, s₃, hread₃, hsame₃⟩ | ⟨s₃, hread₃, hsame₃⟩ :=
            read_cases (fun j => (j.circuits sourceId).state) s₂
          · rw [hread₃]
            exact hreads.trans (.of_journal hsame₃.journal)
          rw [hread₃]
          have hreads₃ := hreads.trans (.of_journal hsame₃.journal : Within texts sourceId s₂ s₃)
          cases (s₂.journal.circuits sourceId).state with
          | opened => exact hreads₃
          | closed => exact hreads₃.trans (hmark s₃)
        · exact hreads.trans (hmark s₂)

theorem reopenCircuit_within (expectedRevision : ℕ) (reason : String) (s : StoreAccess) :
    Within texts sourceId s (reopenCircuit sourceId expectedRevision reason s) := by
  unfold reopenCircuit
  obtain ⟨message, s₁, hread, hsame⟩ | ⟨s₁, hread, hsame⟩ :=
    read_cases (fun j => j.circuits sourceId) s
  · rw [hread]
    exact .of_journal hsame.journal
  rw [hread]
  dsimp only
  split
  · exact .of_journal hsame.journal
  · exact (Within.of_journal hsame.journal).trans (updateCircuit_within rfl)

theorem retireBoundary_within {boundaryId time : String} {revision : ℕ} {retirement : Retirement}
    {answer : Except Refusal StoreReply}
    (hcall : s.call (.retireBoundary boundaryId revision retirement time) = (answer, s')) :
    Within texts sourceId s s' := by
  obtain ⟨refusal, s₁, hcall', hsame⟩ | ⟨reply, s₁, hcall', -, -, haccepted⟩ :=
    call_cases (.retireBoundary boundaryId revision retirement time) s
  · obtain ⟨-, rfl⟩ := Prod.mk.inj (hcall'.symm.trans hcall)
    exact .of_journal hsame.journal
  · obtain ⟨-, rfl⟩ := Prod.mk.inj (hcall'.symm.trans hcall)
    obtain ⟨boundary, -, -, -, -, -, hjournal⟩ := Journal.retireBoundary_ok haccepted
    refine ⟨fun failureId _ => by rw [hjournal], ?_⟩
    intro other _
    rw [hjournal]

theorem dropRetired_within (f : FailureService) :
    Within texts sourceId f.store (f.dropRetired sourceId).store := by
  unfold dropRetired
  obtain ⟨message, s, hread, hsame⟩ | ⟨s, hread, hsame⟩ :=
    read_cases (fun j => j.boundary sourceId) f.store
  · rw [hread]
    exact .of_journal hsame.journal
  · rw [hread]
    cases f.store.journal.boundary sourceId with
    | none => exact .of_journal hsame.journal
    | some boundary => exact .of_journal hsame.journal

theorem retireByOperator_within (boundaryId : String) (expectedRevision : ℕ)
    (reason operationId : String) (f : FailureService) :
    Within texts sourceId f.store
      (retireByOperator sourceId boundaryId expectedRevision reason operationId f).store := by
  unfold retireByOperator
  split
  · exact .rfl
  obtain ⟨message, s₁, hread, hsame⟩ | ⟨s₁, hread, hsame⟩ :=
    read_cases (fun j => j.boundaries.get boundaryId) f.store
  · rw [hread]
    exact .of_journal hsame.journal
  rw [hread]
  dsimp only
  split
  · exact .of_journal hsame.journal
  have hclock := s₁.nowIso_same
  rcases htime : s₁.nowIso with ⟨time, s₂⟩
  rw [htime] at hclock
  have hreads : Within texts sourceId f.store s₂ := .of_journal (hsame.trans hclock).journal
  dsimp only
  split
  · rename_i hcall
    exact hreads.trans (retireBoundary_within hcall)
  · rename_i hcall
    exact (hreads.trans (retireBoundary_within hcall)).trans
      (dropRetired_within { f with store := _ })

theorem retirementAnswered_within (boundary : StoredBoundary) (agreed : Bool) (f : FailureService) :
    Within texts sourceId f.store (f.retirementAnswered sourceId boundary agreed).store := by
  unfold retirementAnswered
  dsimp only
  split
  · exact .rfl
  have hclock := f.store.nowIso_same
  rcases htime : f.store.nowIso with ⟨time, s₁⟩
  rw [htime] at hclock
  have hreads : Within texts sourceId f.store s₁ := .of_journal hclock.journal
  dsimp only
  split
  · rename_i hcall
    exact hreads.trans (retireBoundary_within hcall)
  · rename_i hcall
    exact (hreads.trans (retireBoundary_within hcall)).trans
      (dropRetired_within { f with store := _, retiring := _ })

theorem askRetirement_within (boundaryId : String) (f : FailureService) :
    Within texts sourceId f.store (askRetirement sourceId boundaryId f).2.store := by
  unfold askRetirement
  dsimp only
  obtain ⟨message, s₁, hread, hsame⟩ | ⟨s₁, hread, hsame⟩ :=
    read_cases (fun j => j.boundaries.get boundaryId) f.store
  · rw [hread]
    exact .of_journal hsame.journal
  rw [hread]
  cases f.store.journal.boundaries.get boundaryId with
  | none => exact .of_journal hsame.journal
  | some boundary =>
      dsimp only
      split
      · exact .of_journal hsame.journal
      · exact .of_journal hsame.journal

theorem beginNext_within (hnamed : JournalNamed texts f.store.journal) :
    Within texts sourceId f.store (f.beginNext texts sourceId).store := by
  unfold beginNext
  split
  · rename_i job rest htask hchain
    dsimp only
    cases job with
    | dispose input outcome =>
        exact dispose_within input outcome
          { f with chains := Function.update f.chains sourceId rest }
    | retry reason => exact markRetrying_within hnamed reason
    | retire boundaryId =>
        exact askRetirement_within boundaryId
          { f with chains := Function.update f.chains sourceId rest }
    | reopenCircuit expectedRevision reason => exact reopenCircuit_within expectedRevision reason _
    | retireBoundary boundaryId expectedRevision reason operationId =>
        exact retireByOperator_within boundaryId expectedRevision reason operationId
          { f with chains := Function.update f.chains sourceId rest }
  · exact .rfl

/-! ### The process -/

/-- The chains, tasks and boundaries of other sources are as they were. -/
structure Elsewhere (sourceId : String) (f f' : FailureService) : Prop where
  tasks : ∀ other ≠ sourceId, f'.tasks other = f.tasks other
  chains : ∀ other ≠ sourceId, f'.chains other = f.chains other
  inForce : ∀ other ≠ sourceId, f'.inForce other = f.inForce other
  watched : ∀ other ≠ sourceId, f'.watched other = f.watched other

theorem Elsewhere.rfl : Elsewhere sourceId f f :=
  ⟨fun _ _ => by rfl, fun _ _ => by rfl, fun _ _ => by rfl, fun _ _ => by rfl⟩

theorem Elsewhere.trans {f'' : FailureService} (h : Elsewhere sourceId f f')
    (h' : Elsewhere sourceId f' f'') : Elsewhere sourceId f f'' :=
  ⟨fun other hne => (h'.tasks other hne).trans (h.tasks other hne),
    fun other hne => (h'.chains other hne).trans (h.chains other hne),
    fun other hne => (h'.inForce other hne).trans (h.inForce other hne),
    fun other hne => (h'.watched other hne).trans (h.watched other hne)⟩

theorem elsewhere_tasks (task : Option Task) :
    Elsewhere sourceId f { f with tasks := Function.update f.tasks sourceId task } :=
  { Elsewhere.rfl with tasks := fun _ hne => Function.update_of_ne hne _ _ }

theorem elsewhere_chains (jobs : List Job) :
    Elsewhere sourceId f { f with chains := Function.update f.chains sourceId jobs } :=
  { Elsewhere.rfl with chains := fun _ hne => Function.update_of_ne hne _ _ }

theorem elsewhere_inForce (boundary : Option (String × String)) :
    Elsewhere sourceId f { f with inForce := Function.update f.inForce sourceId boundary } :=
  { Elsewhere.rfl with inForce := fun _ hne => Function.update_of_ne hne _ _ }

theorem committed_elsewhere (position : Position) (f : FailureService) :
    Elsewhere sourceId f (f.committed sourceId position) := by
  unfold committed
  dsimp only
  split
  · exact ⟨fun _ _ => rfl, fun _ _ => rfl, fun _ _ => rfl, fun _ _ => rfl⟩
  · split
    · exact ⟨fun _ _ => rfl, fun _ _ => rfl, fun _ _ => rfl, fun _ _ => rfl⟩
    · refine ⟨fun _ _ => rfl, fun _ _ => rfl, fun _ _ => rfl, fun other hne => ?_⟩
      dsimp only
      split
      · exact Function.update_of_ne hne _ _
      · rfl

theorem sourceHeld_elsewhere (position : Position) (f : FailureService) :
    Elsewhere sourceId f (f.sourceHeld sourceId position) := by
  unfold sourceHeld
  repeat' split
  all_goals exact ⟨fun _ _ => rfl, fun _ _ => rfl, fun _ _ => rfl, fun _ _ => rfl⟩

theorem positionProblem_elsewhere (input : Delivery) (f : FailureService) :
    Elsewhere sourceId f (positionProblem texts sourceId input f).2 := by
  unfold positionProblem
  dsimp only
  repeat' split
  all_goals exact ⟨fun _ _ => rfl, fun _ _ => rfl, fun _ _ => rfl, fun _ _ => rfl⟩

theorem dispose_elsewhere (input : Delivery) (outcome : Pause) (f : FailureService) :
    Elsewhere sourceId f (dispose texts sourceId input outcome f).2 := by
  unfold dispose
  dsimp only
  repeat' split
  all_goals first
    | exact ⟨fun _ _ => rfl, fun _ _ => rfl, fun _ _ => rfl, fun _ _ => rfl⟩
    | exact ⟨fun _ _ => rfl, fun _ _ => rfl, fun _ _ => rfl,
        fun _ hne => Function.update_of_ne hne _ _⟩

theorem askRetirement_elsewhere (boundaryId : String) (f : FailureService) :
    Elsewhere sourceId f (askRetirement sourceId boundaryId f).2 := by
  unfold askRetirement
  dsimp only
  repeat' split
  all_goals exact ⟨fun _ _ => rfl, fun _ _ => rfl, fun _ _ => rfl, fun _ _ => rfl⟩

theorem dropRetired_elsewhere (h : Elsewhere sourceId f f') :
    Elsewhere sourceId f (f'.dropRetired sourceId) := by
  apply h.trans
  unfold dropRetired
  repeat' split
  · exact ⟨fun _ _ => rfl, fun _ _ => rfl, fun _ _ => rfl, fun _ _ => rfl⟩
  · exact ⟨fun _ _ => rfl, fun _ _ => rfl, fun _ _ => rfl, fun _ _ => rfl⟩
  · exact ⟨fun _ _ => rfl, fun _ _ => rfl, fun _ hne => Function.update_of_ne hne _ _,
      fun _ _ => rfl⟩

theorem retireByOperator_elsewhere (boundaryId : String) (expectedRevision : ℕ)
    (reason operationId : String) (f : FailureService) :
    Elsewhere sourceId f
      (retireByOperator sourceId boundaryId expectedRevision reason operationId f) := by
  unfold retireByOperator
  dsimp only
  repeat' split
  all_goals first
    | exact ⟨fun _ _ => rfl, fun _ _ => rfl, fun _ _ => rfl, fun _ _ => rfl⟩
    | exact dropRetired_elsewhere ⟨fun _ _ => rfl, fun _ _ => rfl, fun _ _ => rfl, fun _ _ => rfl⟩

theorem retirementAnswered_elsewhere (boundary : StoredBoundary) (agreed : Bool)
    (f : FailureService) :
    Elsewhere sourceId f (retirementAnswered sourceId boundary agreed f) := by
  unfold retirementAnswered
  dsimp only
  repeat' split
  all_goals first
    | exact ⟨fun _ _ => rfl, fun _ _ => rfl, fun _ _ => rfl, fun _ _ => rfl⟩
    | exact dropRetired_elsewhere ⟨fun _ _ => rfl, fun _ _ => rfl, fun _ _ => rfl, fun _ _ => rfl⟩

theorem beginNext_elsewhere (f : FailureService) :
    Elsewhere sourceId f (f.beginNext texts sourceId) := by
  unfold beginNext
  split
  · rename_i job rest htask hchain
    dsimp only
    refine ((elsewhere_chains rest).trans ?_).trans (elsewhere_tasks _)
    cases job with
    | dispose input outcome => exact dispose_elsewhere input outcome _
    | retry | reopenCircuit =>
        exact ⟨fun _ _ => rfl, fun _ _ => rfl, fun _ _ => rfl, fun _ _ => rfl⟩
    | retire boundaryId => exact askRetirement_elsewhere boundaryId _
    | retireBoundary boundaryId expectedRevision reason operationId =>
        exact retireByOperator_elsewhere boundaryId expectedRevision reason operationId _
  · exact .rfl

/-- What the work on a source leaves as it was: the store's part of other sources, and the
process's. -/
structure Local (texts : RecordTexts) (sourceId : String) (f f' : FailureService) : Prop where
  within : Within texts sourceId f.store f'.store
  elsewhere : Elsewhere sourceId f f'

theorem Local.rfl : Local texts sourceId f f := ⟨.rfl, .rfl⟩

theorem Local.waitAt (h : Local texts sourceId f f') (task : Option Task)
    (hstore : Within texts sourceId f'.store s) :
    Local texts sourceId f (f'.waitAt sourceId task s) :=
  ⟨h.within.trans hstore, h.elsewhere.trans
    ⟨fun _ hne => Function.update_of_ne hne _ _, fun _ _ => by rfl, fun _ _ => by rfl,
      fun _ _ => by rfl⟩⟩

theorem Coherent.owned (h : Coherent texts f) {task : Task}
    (htask : f.tasks sourceId = some task) (hincident : record ∈ taskIncident task) :
    Owned texts sourceId record.failureId := by
  obtain ⟨position, hid⟩ := h.tasks sourceId task htask record hincident
  exact ⟨_, position, hid⟩

theorem checkRecord_local (hnamed : JournalNamed texts f.store.journal) (input : Delivery) :
    Local texts sourceId f (f.checkRecord texts sourceId input) := by
  have hproblem := @positionProblem_within texts sourceId f hnamed input
  have hprocess := @positionProblem_elsewhere texts sourceId input f
  have hwrote := @positionProblem_wrote texts sourceId input f
  unfold checkRecord
  rcases hresult : positionProblem texts sourceId input f with ⟨problem, f'⟩
  rw [hresult] at hproblem hprocess hwrote
  cases problem with
  | none => exact ⟨hproblem, hprocess.trans ⟨fun _ _ => rfl, fun _ _ => rfl, fun _ _ => rfl,
      fun _ _ => rfl⟩⟩
  | some problem =>
      have hnamed' : JournalNamed texts f'.store.journal :=
        changes_named (@Wrote.of_quiet texts f .stop _ _ hwrote).journal hnamed
      exact ⟨hproblem.trans (sourceHeld_within hnamed' input.position),
        hprocess.trans (sourceHeld_elsewhere input.position f')⟩

theorem afterWrite_local (hcoherent : Coherent texts f) (answer : PublishAnswer) :
    Local texts sourceId f (f.afterWrite sourceId answer) := by
  unfold afterWrite
  split
  · rename_i record policy summary evidence known htask
    exact Local.rfl.waitAt _ (writeSettled_within (hcoherent.owned htask rfl) _ _ _ _)
  · exact .rfl

theorem afterGuard_local (hcoherent : Coherent texts f) (answer : HandlerAnswer)
    (boundaryId : String) :
    Local texts sourceId f (f.afterGuard texts sourceId answer boundaryId) := by
  unfold afterGuard
  split
  · rename_i pending prior htask
    have hsettled := @guardSettled_within texts f.settings sourceId f.store pending hcoherent.named
      (hcoherent.owned htask rfl) prior f.stopping answer boundaryId
    split
    · rename_i s hresult
      rw [hresult] at hsettled
      exact Local.rfl.waitAt none hsettled
    · rename_i prepared context s hresult
      rw [hresult] at hsettled
      have hinForce : Local texts sourceId f
          { f with inForce := Function.update f.inForce sourceId (some (boundaryId, context)) } :=
        ⟨.rfl, elsewhere_inForce _⟩
      exact hinForce.waitAt _ hsettled
  · exact .rfl

theorem afterAdvance_local (hcoherent : Coherent texts f) (answer : AdvanceAnswer) :
    Local texts sourceId f (f.afterAdvance sourceId answer) := by
  unfold afterAdvance
  split
  · rename_i prepared boundaryId htask
    have howned := hcoherent.owned htask rfl
    have hnotHeld : Local texts sourceId f
        (f.waitAt sourceId none (advanceNotHeld prepared f.store)) :=
      Local.rfl.waitAt none (change_within howned _ _ _)
    have hmarked : Local texts sourceId f (advanceUncertain sourceId prepared f) :=
      ⟨change_within howned _ _ _, ⟨fun _ _ => rfl, fun _ _ => rfl, fun _ _ => rfl,
        fun _ hne => Function.update_of_ne hne _ _⟩⟩
    have huncertain := hmarked.waitAt none .rfl
    have hpassed : ∀ readBack,
        Local texts sourceId f (f.passed sourceId prepared boundaryId readBack) :=
      fun readBack => Local.waitAt ⟨committed_within hcoherent.named prepared.position,
        committed_elsewhere prepared.position f⟩ _ .rfl
    dsimp only
    split
    · exact hnotHeld
    · exact huncertain
    · split
      · exact hpassed _
      · exact huncertain
    · exact hpassed _
    · exact huncertain
    · exact huncertain
  · exact .rfl

theorem afterConfirm_local (hcoherent : Coherent texts f) :
    Local texts sourceId f (f.afterConfirm sourceId) := by
  unfold afterConfirm
  split
  · rename_i prepared boundaryId readBack htask
    exact Local.rfl.waitAt none (change_within (hcoherent.owned htask rfl) _ _ _)
  · exact .rfl

theorem afterRetirement_local (agreed : Bool) :
    Local texts sourceId f (f.afterRetirement sourceId agreed) := by
  unfold afterRetirement
  split
  · rename_i boundary htask
    exact ⟨retirementAnswered_within boundary agreed
        { f with tasks := Function.update f.tasks sourceId none },
      (elsewhere_tasks none).trans (retirementAnswered_elsewhere boundary agreed _)⟩
  · exact .rfl

theorem boundaryAcknowledged_local (boundaryId : String) :
    Local texts sourceId f (f.boundaryAcknowledged sourceId boundaryId) := by
  unfold boundaryAcknowledged
  dsimp only
  split
  · exact .rfl
  · exact ⟨.rfl, ⟨fun _ _ => rfl, fun _ hne => Function.update_of_ne hne _ _, fun _ _ => rfl,
      fun _ _ => rfl⟩⟩

/-- An event about a source is local to it. -/
theorem handle_local (hcoherent : Coherent texts f) {e : Event}
    (hsource : eventSource e = some sourceId) : Local texts sourceId f (f.handle texts e) := by
  have hnamed := hcoherent.named
  cases e with
  | restart | stop | note => cases hsource
  | check source input =>
      obtain rfl := Option.some.inj hsource
      exact checkRecord_local hnamed input
  | failed source input =>
      obtain rfl := Option.some.inj hsource
      exact ⟨sourceHeld_within hnamed input.position, (sourceHeld_elsewhere input.position f).trans
        ⟨fun _ _ => rfl, fun _ _ => rfl, fun _ _ => rfl, fun _ _ => rfl⟩⟩
  | abandoned source input =>
      obtain rfl := Option.some.inj hsource
      exact ⟨.rfl, ⟨fun _ _ => rfl, fun _ _ => rfl, fun _ _ => rfl, fun _ _ => rfl⟩⟩
  | committed source input =>
      obtain rfl := Option.some.inj hsource
      exact ⟨committed_within hnamed input.position, (committed_elsewhere input.position f).trans
        ⟨fun _ _ => rfl, fun _ _ => rfl, fun _ _ => rfl, fun _ _ => rfl⟩⟩
  | held source input outcome =>
      obtain rfl := Option.some.inj hsource
      exact ⟨.rfl, ⟨fun _ _ => rfl, fun _ hne => Function.update_of_ne hne _ _, fun _ _ => rfl,
        fun _ _ => rfl⟩⟩
  | run source job =>
      obtain rfl := Option.some.inj hsource
      exact ⟨.rfl, elsewhere_chains _⟩
  | acknowledged source boundaryId =>
      obtain rfl := Option.some.inj hsource
      exact boundaryAcknowledged_local boundaryId
  | begin source =>
      obtain rfl := Option.some.inj hsource
      exact ⟨beginNext_within hnamed, beginNext_elsewhere f⟩
  | written source answer =>
      obtain rfl := Option.some.inj hsource
      exact afterWrite_local hcoherent answer
  | guarded source answer boundaryId =>
      obtain rfl := Option.some.inj hsource
      exact afterGuard_local hcoherent answer boundaryId
  | advanced source answer =>
      obtain rfl := Option.some.inj hsource
      exact afterAdvance_local hcoherent answer
  | confirm source =>
      obtain rfl := Option.some.inj hsource
      exact afterConfirm_local hcoherent
  | retired source agreed =>
      obtain rfl := Option.some.inj hsource
      exact afterRetirement_local agreed

/-! ### Runs -/

/-- What belongs to the source is as it was: its incidents, its circuit and the work on it. -/
structure Unaffected (other : String) (f f' : FailureService) : Prop where
  incidents : ∀ failureId incident, incident.sourceId = other →
    (f'.store.journal.incidents.get failureId = some incident ↔
      f.store.journal.incidents.get failureId = some incident)
  circuit : f'.store.journal.circuits other = f.store.journal.circuits other
  task : f'.tasks other = f.tasks other
  chain : f'.chains other = f.chains other
  inForce : f'.inForce other = f.inForce other
  watched : f'.watched other = f.watched other

theorem Unaffected.rfl {other : String} : Unaffected other f f :=
  ⟨fun _ _ _ => .rfl, by rfl, by rfl, by rfl, by rfl, by rfl⟩

theorem Unaffected.trans {other : String} {f'' : FailureService} (h : Unaffected other f f')
    (h' : Unaffected other f' f'') : Unaffected other f f'' :=
  ⟨fun failureId incident hsource =>
      (h'.incidents failureId incident hsource).trans (h.incidents failureId incident hsource),
    h'.circuit.trans h.circuit, h'.task.trans h.task, h'.chain.trans h.chain,
    h'.inForce.trans h.inForce, h'.watched.trans h.watched⟩

/-- An incident of another source is not named after a record of this one. -/
theorem not_owned {other failureId : String} (hnamed : Named texts incident)
    (hkey : incident.failureId = failureId) (hother : incident.sourceId = other)
    (hne : other ≠ sourceId) : ¬ Owned texts sourceId failureId := by
  rintro ⟨generation, position, hid⟩
  apply hne
  rw [← hother]
  exact (failureId_inj (hnamed.symm.trans (hkey.trans hid))).1

theorem Local.unaffected {other : String} (h : Local texts sourceId f f') (hne : other ≠ sourceId)
    (hnamed : JournalNamed texts f.store.journal) (hnamed' : JournalNamed texts f'.store.journal) :
    Unaffected other f f' := by
  refine ⟨?_, h.within.circuits other hne, h.elsewhere.tasks other hne,
    h.elsewhere.chains other hne, h.elsewhere.inForce other hne, h.elsewhere.watched other hne⟩
  intro failureId incident hsource
  constructor
  · intro hget
    have hnot := not_owned (hnamed' _ _ hget) (InsertionMap.key_of_get hget) hsource hne
    rw [← h.within.incidents failureId hnot]
    exact hget
  · intro hget
    have hnot := not_owned (hnamed _ _ hget) (InsertionMap.key_of_get hget) hsource hne
    rw [h.within.incidents failureId hnot]
    exact hget

theorem step_unaffected {other : String} (hcoherent : Coherent texts f) {o : Occurrence}
    (hsource : eventSource o.event = some sourceId) (hne : other ≠ sourceId) :
    Unaffected other f (f.step texts o) := by
  have hgiven : Unaffected other f (f.given o) := ⟨fun _ _ _ => .rfl, rfl, rfl, rfl, rfl, rfl⟩
  have hcoherent' := hcoherent.step o
  have hstep : Step texts f o (f.step texts o) := step_cases hcoherent.snapshots o
  generalize f.step texts o = f' at hcoherent' hstep
  cases hstep with
  | restarted hevent =>
      rw [hevent] at hsource
      cases hsource
  | nothing => exact hgiven
  | handled _ _ _ hresult _ _ =>
      subst hresult
      have hlocal := handle_local (hcoherent.given o) hsource
      exact hgiven.trans (hlocal.unaffected hne (hcoherent.given o).named hcoherent'.named)

/-- Whatever happens about other sources: failures, retries, guards, advances, crashed calls of
the store. -/
theorem sources_isolated (texts : RecordTexts) (settings : ServiceSettings) (other : String)
    (occurrences later : List Occurrence)
    (hlater : ∀ o ∈ later, ∃ sourceId, eventSource o.event = some sourceId ∧ other ≠ sourceId) :
    Unaffected other (after texts settings occurrences)
      (after texts settings (occurrences ++ later)) := by
  induction later using List.reverseRecOn with
  | nil =>
      rw [List.append_nil]
      exact .rfl
  | append_singleton later o ih =>
      have hbefore := ih fun o' hmem => hlater o' (List.mem_append_left _ hmem)
      obtain ⟨sourceId, hsource, hne⟩ := hlater o (List.mem_append_right _ List.mem_cons_self)
      rw [← List.append_assoc, after_concat]
      exact hbefore.trans (step_unaffected (after_coherent texts settings _) hsource hne)

theorem sources_isolated_orders :
    let settings := { ordersUnder .quarantineResync with sources := ["orders", "returns"] }
    let before := calmly [.restart settings fun _ _ _ => .ok none,
      .held "returns" (orderAt 3 [1]) invalidOrder, .begin "returns",
      .written "returns" (.acknowledged 0 0)]
    let later := calmly [.held "orders" (orderAt 5 [1]) invalidOrder, .begin "orders",
      .written "orders" (.acknowledged 0 1), .guarded "orders" recoverableAnswer "b1"]
    Unaffected "returns" (after plainTexts settings before)
      (after plainTexts settings (before ++ later)) := by
  refine sources_isolated plainTexts _ "returns" _ _ ?_
  intro o hmem
  refine ⟨"orders", ?_, by decide⟩
  simp only [calmly, List.map_cons, List.map_nil, List.mem_cons, List.not_mem_nil, or_false] at hmem
  rcases hmem with rfl | rfl | rfl | rfl <;> rfl

end FailureService

end StreamOtter
