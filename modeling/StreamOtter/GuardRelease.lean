import StreamOtter.CircuitBreaker
import StreamOtter.OperatorService
import StreamOtter.RestartReconciliation
import StreamOtter.ServerSubscription
import StreamOtter.SourceIsolation

/-!
# Recovery guards are released

An incident says that its recovery guard runs before the guard is called, and every way in which
the call can end takes that back. While nothing else changes the incident, it never says so
without a call outstanding, and a retry that waits for its turn is never refused as in progress.
-/

namespace StreamOtter

open FailureStore Relation

namespace FailureService

variable {texts : RecordTexts} {settings : ServiceSettings} {sourceId : String}
  {s s' : StoreAccess} {incident record : IncidentRecord} {f f' : FailureService} {e : Event}
  {j j' : Journal}

open StoreAccess

/-! ### Changes -/

/-- Every guard that is said to run was said to run before. -/
def NoneStarted (j j' : Journal) : Prop :=
  ∀ failureId after, j'.incidents.get failureId = some after → after.recovery = .guardPending →
    ∃ before, j.incidents.get failureId = some before ∧ before.recovery = .guardPending

theorem noneStarted_of_same (h : j'.incidents = j.incidents) : NoneStarted j j' := by
  intro failureId after hget hpending
  rw [h] at hget
  exact ⟨after, hget, hpending⟩

theorem NoneStarted.trans {j'' : Journal} (h : NoneStarted j j') (h' : NoneStarted j' j'') :
    NoneStarted j j'' := by
  intro failureId after hget hpending
  obtain ⟨middle, hmiddle, hbefore⟩ := h' failureId after hget hpending
  exact h failureId middle hmiddle hbefore

@[simp] theorem patched_recovery (patch : IncidentPatch) (time : String) (record : IncidentRecord) :
    (patched patch time record).recovery = patch.recovery.getD record.recovery := rfl

theorem observedAgain_recovery {observation : NewObservation} {existing : IncidentRecord}
    (h : (observedAgain observation existing).1.recovery = .guardPending) :
    existing.recovery = .guardPending := by
  unfold observedAgain reopened applyPolicy at h
  dsimp only at h
  repeat' split at h
  all_goals simp_all

/-- Only what follows a quarantine write starts a guard. -/
theorem Makes.recovery {patch : IncidentPatch} (h : Makes f e record patch)
    (hwritten : ∀ source answer, e ≠ .written source answer) :
    patch.recovery ≠ some .guardPending := by
  cases h with
  | quiet hquiet =>
      intro hpending
      rcases hquiet.recovery _ hpending with hheld | hdenied
      · cases hheld
      · cases hdenied
  | guardPending hevent => exact absurd hevent (hwritten _ _)
  | processed | acknowledged | returned | uncertain | advanced =>
      simp [processedPatch, acknowledgedPatch, advancedPatch]

theorem changes_noneStarted (h : ReflTransGen (Change texts f e) j j')
    (hwritten : ∀ source answer, e ≠ .written source answer) : NoneStarted j j' := by
  induction h with
  | refl => exact noneStarted_of_same rfl
  | @tail middle _ _ hchange ih =>
      refine ih.trans ?_
      intro failureId after hget hpending
      have hmoved := Change.moved hchange hget
      generalize hbefore : middle.incidents.get failureId = before at hmoved
      cases hmoved with
      | same => exact ⟨after, rfl, hpending⟩
      | @patched existing patch time hmakes =>
          refine ⟨existing, rfl, ?_⟩
          rw [patched_recovery] at hpending
          cases hrecovery : patch.recovery with
          | none =>
              rw [hrecovery] at hpending
              exact hpending
          | some recovery =>
              rw [hrecovery] at hpending
              exact absurd (hrecovery.trans (congrArg some hpending)) (hmakes.recovery hwritten)
      | first => cases hpending
      | again => exact ⟨_, rfl, observedAgain_recovery hpending⟩
      | prepared => cases hpending

/-! ### The guard is called -/

theorem update_noneStarted {patch : IncidentPatch} (hpatch : patch.recovery ≠ some .guardPending)
    (event : IncidentEventName) (detail : String) :
    NoneStarted s.journal (s.update record patch event detail).2.journal := by
  have hclock := s.nowIso_same
  unfold StoreAccess.update
  rcases htime : s.nowIso with ⟨time, s₁⟩
  rw [htime] at hclock
  dsimp only at hclock ⊢
  obtain ⟨refusal, s₂, hcall, hsame⟩ | ⟨reply, s₂, hcall, -, -, haccepted⟩ :=
    call_cases (.update record.failureId record.revision patch ⟨time, event, some detail, none⟩) s₁
  · rw [hcall]
    dsimp only
    refine noneStarted_of_same ?_
    split
    · exact congrArg Journal.incidents (hclock.trans hsame).journal
    · exact congrArg Journal.incidents (hclock.trans hsame).journal
  · rw [hcall]
    obtain ⟨existing, hget, -, rfl, hjournal⟩ := Journal.update_ok haccepted
    dsimp only
    intro failureId after hafter hpending
    rw [← hclock.journal]
    rw [hjournal] at hafter
    change (s₁.journal.incidents.set (patched patch time existing)).get failureId = _ at hafter
    rw [InsertionMap.get_set] at hafter
    split at hafter
    · rename_i hid
      obtain rfl := Option.some.inj hafter
      refine ⟨existing, ?_, ?_⟩
      · rw [hid]
        show s₁.journal.incidents.get existing.failureId = _
        rw [InsertionMap.key_of_get hget]
        exact hget
      · rw [patched_recovery] at hpending
        cases hrecovery : patch.recovery with
        | none =>
            rw [hrecovery] at hpending
            exact hpending
        | some recovery =>
            rw [hrecovery] at hpending
            exact absurd (hrecovery.trans (congrArg some hpending)) hpatch
    · exact ⟨after, hafter, hpending⟩

theorem quiet_noneStarted (h : Wrote QuietChange s s') : NoneStarted s.journal s'.journal :=
  changes_noneStarted (@Wrote.of_quiet plainTexts (initial (ordersUnder .pause)) .stop _ _ h).journal
    (by simp)

theorem updateCircuit_incidents {revision : ℕ} {next : CircuitUpdate}
    {answer : Except Refusal StoreReply}
    (hcall : s.call (.updateCircuit sourceId revision next) = (answer, s')) :
    s'.journal.incidents = s.journal.incidents := by
  obtain ⟨refusal, s₁, hcall', hsame⟩ | ⟨reply, s₁, hcall', -, -, haccepted⟩ :=
    call_cases (.updateCircuit sourceId revision next) s
  · obtain ⟨-, rfl⟩ := Prod.mk.inj (hcall'.symm.trans hcall)
    exact congrArg Journal.incidents hsame.journal
  · obtain ⟨-, rfl⟩ := Prod.mk.inj (hcall'.symm.trans hcall)
    obtain ⟨-, hjournal⟩ := Journal.updateCircuit_ok haccepted
    rw [hjournal]

theorem checkCircuit_incidents (record : IncidentRecord) (s : StoreAccess) :
    (checkCircuit settings sourceId record s).2.journal.incidents = s.journal.incidents := by
  unfold checkCircuit
  dsimp only
  obtain ⟨message, s₁, hread, hsame⟩ | ⟨s₁, hread, hsame⟩ := read_cases (fun j => j.circuits sourceId) s
  · rw [hread]
    exact congrArg Journal.incidents hsame.journal
  rw [hread]
  dsimp only
  have hclock := s₁.dateNow_same
  rcases htime : s₁.dateNow with ⟨now, s₂⟩
  rw [htime] at hclock
  dsimp only at hclock ⊢
  have hread₂ := (hsame.trans hclock).journal
  obtain ⟨message, s₃, hown, hsame₃⟩ | ⟨s₃, hown, hsame₃⟩ := ownAdvance_cases record s₂
  · rw [hown]
    exact congrArg Journal.incidents (hsame₃.journal.trans hread₂)
  rw [hown]
  dsimp only
  have hread₃ := congrArg Journal.incidents (hsame₃.journal.trans hread₂)
  split
  · exact hread₃
  split
  · exact hread₃
  have hclock₃ := s₃.nowIso_same
  rcases hopened : s₃.nowIso with ⟨openedAt, s₄⟩
  rw [hopened] at hclock₃
  dsimp only at hclock₃ ⊢
  have hread₄ := (congrArg Journal.incidents hclock₃.journal).trans hread₃
  split
  · rename_i hcall
    exact (updateCircuit_incidents hcall).trans hread₄
  · rename_i hcall
    exact (updateCircuit_incidents hcall).trans hread₄

/-- A guard that starts is the one that is called next, for the incident as it is stored. -/
theorem continueRecord_started (hknown : s.journal.Known record) {failureId : String}
    {after : IncidentRecord}
    (hget : (continueRecord settings sourceId record s).2.journal.incidents.get failureId =
      some after) (hpending : after.recovery = .guardPending) :
    (∃ before, s.journal.incidents.get failureId = some before ∧
        before.recovery = .guardPending) ∨
      ∃ prior, (continueRecord settings sourceId record s).1 = some (.guarding after prior) := by
  have hcircuit := @checkCircuit_incidents settings sourceId record s
  have hheld : ∀ (s₁ : StoreAccess) (detail : String), s₁.journal.incidents = s.journal.incidents →
      (s₁.update record { recovery := some .held } .held detail).2.journal.incidents.get failureId =
        some after → ∃ before, s.journal.incidents.get failureId = some before ∧
          before.recovery = .guardPending := by
    intro s₁ detail hsame hafter
    rw [← hsame]
    exact update_noneStarted (by simp) _ _ failureId after hafter hpending
  unfold continueRecord at hget ⊢
  rcases hchecked : checkCircuit settings sourceId record s with ⟨checked, s₁⟩
  rw [hchecked] at hcircuit hget
  dsimp only at hcircuit hget ⊢
  cases checked with
  | error message =>
      exact .inl (hheld { s₁ with journalError := some message } _ hcircuit hget)
  | ok closed =>
      cases closed with
      | false => exact .inl (hheld s₁ _ hcircuit hget)
      | true =>
          dsimp only at hget ⊢
          split at hget
          · exact .inl (hheld s₁ _ hcircuit hget)
          rename_i hguarded
          rw [if_neg hguarded]
          have hcurrent : ∀ s₂ : StoreAccess, Same s₁ s₂ →
              s₂.journal.incidents.get failureId = some after →
                ∃ before, s.journal.incidents.get failureId = some before ∧
                  before.recovery = .guardPending := by
            intro s₂ hsame hafter
            rw [hsame.journal, hcircuit] at hafter
            exact ⟨after, hafter, hpending⟩
          obtain ⟨message, s₂, hread, hsame⟩ | ⟨s₂, hread, hsame⟩ :=
            read_cases (fun j => j.boundary sourceId) s₁
          · rw [hread] at hget
            exact .inl (hcurrent s₂ hsame hget)
          rw [hread] at hget ⊢
          dsimp only at hget ⊢
          have hknown₂ : s₂.journal.Known record := by
            obtain ⟨existing, hfound, hrest⟩ := hknown
            refine ⟨existing, ?_, hrest⟩
            rw [hsame.journal, hcircuit]
            exact hfound
          have hmismatch := @holdOnClusterMismatch_quiet settings sourceId s₂ record hknown₂
          rcases hhold : holdOnClusterMismatch settings sourceId record s₂ with ⟨holds, s₃⟩
          rw [hhold] at hmismatch hget
          cases holds with
          | true =>
              obtain ⟨before, hbefore, hrecovery⟩ :=
                quiet_noneStarted hmismatch failureId after hget hpending
              rw [hsame.journal, hcircuit] at hbefore
              exact .inl ⟨before, hbefore, hrecovery⟩
          | false =>
              obtain rfl := holdOnClusterMismatch_false hhold
              dsimp only at hget ⊢
              obtain ⟨s₄, hupdate, hsame₄⟩ | ⟨time, s₄, hupdate, -, -, hfound, hjournal⟩ :=
                update_cases hknown₂ { recovery := some .guardPending } .held
                  "running the recovery guard"
              · rw [hupdate] at hget
                simp only [if_true] at hget
                exact .inl (hcurrent s₄ (hsame.trans hsame₄) hget)
              · rw [hupdate] at hget ⊢
                have hnew : patched { recovery := some .guardPending } time record ≠ record := by
                  intro hsame
                  have hrevision := congrArg IncidentRecord.revision hsame
                  exact Nat.succ_ne_self record.revision hrevision
                rw [if_neg hnew] at hget ⊢
                rw [hjournal] at hget
                change (s₃.journal.incidents.set (patched _ time record)).get failureId = _ at hget
                rw [InsertionMap.get_set] at hget
                split at hget
                · obtain rfl := Option.some.inj hget
                  exact .inr ⟨_, rfl⟩
                · exact .inl (hcurrent s₃ hsame hget)

theorem recordQuarantine_noneStarted {patch : IncidentPatch}
    (hpatch : patch.recovery ≠ some .guardPending) (event : IncidentEventName) (detail : String) :
    NoneStarted s.journal (recordQuarantine record patch event detail s).2.journal := by
  have hfirst := @update_noneStarted s record patch hpatch event detail
  unfold recordQuarantine
  rcases hupdate : s.update record patch event detail with ⟨updated, s₁⟩
  rw [hupdate] at hfirst
  dsimp only at hfirst ⊢
  split
  · exact hfirst
  obtain ⟨message, s₂, hread, hsame⟩ | ⟨s₂, hread, hsame⟩ :=
    read_cases (fun j => j.incidents.get record.failureId) s₁
  · rw [hread, hsame.journal]
    exact hfirst
  rw [hread]
  dsimp only
  have hread' : NoneStarted s.journal s₂.journal := by
    rw [hsame.journal]
    exact hfirst
  split
  · exact hread'
  · split
    · exact hread'.trans (update_noneStarted hpatch event detail)
    · exact hread'

theorem writeSettled_started (hknown : s.journal.Known record) {policy : FailurePolicy}
    {summary : EvidenceSummary} {outcome : QuarantineOutcome} {failureId : String}
    {after : IncidentRecord}
    (hget : (writeSettled settings sourceId record policy summary
      outcome s).2.journal.incidents.get failureId = some after)
    (hpending : after.recovery = .guardPending) :
    (∃ before, s.journal.incidents.get failureId = some before ∧
        before.recovery = .guardPending) ∨
      ∃ prior, (writeSettled settings sourceId record policy summary outcome s).1 =
        some (.guarding after prior) := by
  unfold writeSettled at hget ⊢
  cases outcome with
  | unknown reason =>
      exact .inl (recordQuarantine_noneStarted (by simp) _ _ failureId after hget hpending)
  | failed reason =>
      exact .inl (recordQuarantine_noneStarted (by simp) _ _ failureId after hget hpending)
  | acknowledged coordinates =>
      dsimp only at hget ⊢
      have hfirst := @recordQuarantine_noneStarted s record (acknowledgedPatch coordinates)
        (by simp [acknowledgedPatch]) .quarantined (quarantinedDetail summary coordinates)
      obtain ⟨-, hupdated⟩ := @recordQuarantine_wrote s record Journal.Next hknown
        (acknowledgedPatch coordinates) .quarantined (quarantinedDetail summary coordinates)
        fun event hfound _ => Journal.record_next hfound (acknowledgedPatch coordinates) event
      change NoneStarted s.journal (recordQuarantine record
        { quarantine := some .acknowledged, quarantineCoordinates := some coordinates }
        .quarantined (quarantinedDetail summary coordinates) s).2.journal at hfirst
      change ∀ updated, (recordQuarantine record
        { quarantine := some .acknowledged, quarantineCoordinates := some coordinates }
        .quarantined (quarantinedDetail summary coordinates) s).1 = some updated → _ at hupdated
      rcases hrecord : recordQuarantine record
        { quarantine := some .acknowledged, quarantineCoordinates := some coordinates }
        .quarantined (quarantinedDetail summary coordinates) s with ⟨quarantined, s₁⟩
      rw [hrecord] at hfirst hupdated hget
      dsimp only at hfirst hupdated hget ⊢
      split at hget
      · rename_i quarantined
        have hknown₁ : s₁.journal.Known quarantined := by
          have hknown' := (hupdated quarantined rfl).1
          change (recordQuarantine record
            { quarantine := some .acknowledged, quarantineCoordinates := some coordinates }
            .quarantined (quarantinedDetail summary coordinates) s).2.journal.Known _ at hknown'
          rw [hrecord] at hknown'
          exact hknown'
        rcases continueRecord_started hknown₁ hget hpending with
          ⟨before, hbefore, hrecovery⟩ | hguarding
        · exact .inl (hfirst failureId before hbefore hrecovery)
        · exact .inr hguarding
      · exact .inl (hfirst failureId after hget hpending)

/-! ### The guard settles -/

/-- The incident is stored, and no guard is said to run for it. -/
def Released (s : StoreAccess) (failureId : String) : Prop :=
  ∃ after, s.journal.incidents.get failureId = some after ∧ after.recovery ≠ .guardPending

/-- A change that ends the guard is made when the store serves it. -/
theorem update_released (hfaults : s.faults = [])
    (hget : s.journal.incidents.get record.failureId = some record) {patch : IncidentPatch}
    {recovery : RecoveryState} (hrecovery : patch.recovery = some recovery)
    (hevidence : patch.evidence = none) (hended : recovery ≠ .guardPending)
    (event : IncidentEventName) (detail : String) :
    Released (s.update record patch event detail).2 record.failureId := by
  obtain ⟨time, s', hupdate, hleaves⟩ := update_leaves hfaults hget patch hevidence event detail
  rw [hupdate]
  refine ⟨_, hleaves.stored, ?_⟩
  rw [patched_recovery, hrecovery]
  exact hended

theorem releaseGuard_released (hfaults : s.faults = [])
    (hget : s.journal.incidents.get record.failureId = some record)
    (hpending : record.recovery = .guardPending) (detail : String) :
    Released (releaseGuard record detail s) record.failureId := by
  unfold releaseGuard
  rw [read_served hfaults, hget]
  dsimp only
  rw [if_neg (by simp [hpending])]
  exact update_released hfaults hget rfl rfl (by simp) _ _

theorem prepareRecord_released (hfaults : s.faults = [])
    (hget : s.journal.incidents.get record.failureId = some record)
    (hpending : record.recovery = .guardPending) (boundaryId context : String)
    (prior : Option StoredBoundary) (result : GuardResult) :
    Released (prepareRecord record boundaryId prior context result s).2 record.failureId := by
  have hsame := s.nowIso_same.journal
  have hclock := s.nowIso_faults
  unfold prepareRecord
  rcases htime : s.nowIso with ⟨time, s₁⟩
  rw [htime] at hsame hclock
  dsimp only at hsame hclock ⊢
  have hserved := hclock.trans hfaults
  generalize hinput : (⟨record.failureId, record.revision, boundaryId, .ok context,
    prior.map (·.boundaryId), result, time⟩ : PrepareAdvance) = input
  have hid : input.failureId = record.failureId := by rw [← hinput]
  cases hcall : s₁.journal.call MemoryIncidentStore.codeUnitLe maxOperations
      (.prepareAdvance input) with
  | error refusal =>
      rw [call_refused hserved hcall]
      have hreleased : ∀ s₂ : StoreAccess, s₂.faults = [] → s₂.journal = s₁.journal →
          Released (releaseGuard record "the advance could not be prepared; the record stays held"
            s₂) record.failureId := by
        intro s₂ hfaults₂ hjournal
        refine releaseGuard_released hfaults₂ ?_ hpending _
        rw [hjournal, hsame]
        exact hget
      dsimp only
      split
      · exact hreleased _ hserved rfl
      · exact hreleased _ hserved rfl
  | ok answer =>
      obtain ⟨reply, after⟩ := answer
      rw [call_accepted hserved hcall]
      obtain ⟨text, existing, -, hfound, -, -, -, -, -, rfl, hjournal⟩ :=
        Journal.prepareAdvance_ok hcall
      dsimp only
      refine ⟨(advancedIncident input existing).1, ?_, by simp [advancedIncident]⟩
      have hkey : existing.failureId = record.failureId :=
        (InsertionMap.key_of_get hfound).trans hid
      rw [hjournal, ← hkey]
      exact InsertionMap.get_set_self s₁.journal.incidents _

/-- Whatever the guard answered, and also when the process is stopping. -/
theorem guardSettled_released (hfaults : s.faults = [])
    (hget : s.journal.incidents.get record.failureId = some record)
    (hpending : record.recovery = .guardPending) (hopen : record.state = .opened)
    (hheld : record.progress = .held) (prior : Option StoredBoundary) (stopping : Bool)
    (answer : HandlerAnswer) (boundaryId : String) :
    Released (guardSettled settings texts sourceId record prior stopping answer boundaryId s).2
      record.failureId := by
  have hsame := s.nowIso_same.journal
  have hclock := s.nowIso_faults
  unfold guardSettled
  rcases htime : s.nowIso with ⟨time, s₁⟩
  rw [htime] at hsame hclock
  dsimp only at hsame hclock ⊢
  have hserved := hclock.trans hfaults
  have hget₁ : s₁.journal.incidents.get record.failureId = some record := by
    rw [hsame]
    exact hget
  split
  · exact releaseGuard_released hserved hget₁ hpending _
  rw [read_served hserved, hget₁]
  dsimp only
  rw [if_neg (by simp [hopen, hheld])]
  cases runGuard texts answer time with
  | refused decision result =>
      refine update_released hserved hget₁ rfl rfl ?_ _ _
      split <;> simp
  | recoverable context result =>
      dsimp only
      have hmismatch : ∀ mismatch,
          Released (s₁.update record { diagnosis := some mismatch, recovery := some .held } .held
            "cluster-mismatch").2 record.failureId :=
        fun mismatch => update_released hserved hget₁ rfl rfl (by simp) _ _
      have hprepared := @prepareRecord_released s₁ record hserved hget₁ hpending boundaryId context
        prior result
      unfold holdOnClusterMismatch
      cases settings.clusterMismatch sourceId record with
      | some mismatch => exact hmismatch mismatch
      | none =>
          dsimp only
          rcases hprepare : prepareRecord record boundaryId prior context result s₁ with
            ⟨prepared, s₂⟩
          rw [hprepare] at hprepared
          cases prepared with
          | none => exact hprepared
          | some prepared => exact hprepared

/-! ### The start of a process -/

/-- An incident whose guard is said to run is open and held. -/
def PendingHeld (j : Journal) : Prop :=
  ∀ failureId record, j.incidents.get failureId = some record → record.recovery = .guardPending →
    record.state = .opened ∧ record.progress = .held

/-- No guard is said to run for the source. -/
def NonePending (j : Journal) (sourceId : String) : Prop :=
  ∀ failureId record, j.incidents.get failureId = some record → record.sourceId = sourceId →
    record.recovery ≠ .guardPending

theorem NonePending.changes (h : NonePending j sourceId)
    (hchanges : ReflTransGen (Change texts f e) j j')
    (hwritten : ∀ source answer, e ≠ .written source answer) : NonePending j' sourceId := by
  intro failureId after hget hsource hpending
  obtain ⟨before, hbefore, hrecovery⟩ :=
    changes_noneStarted hchanges hwritten failureId after hget hpending
  obtain ⟨after', hget', hsame⟩ := changes_sameOrigin hchanges hbefore
  obtain rfl := Option.some.inj (hget'.symm.trans hget)
  exact h failureId before hbefore (hsame.sourceId.symm.trans hsource) hrecovery

section Start

variable {offsets : String → String → ℕ → Except String (Option ℕ)} {g : FailureService}

/-- The start of a source whose open incidents are of another generation only reads. -/
theorem startSource_refused (hfaults : g.store.faults = [])
    (hgeneration : ¬ ∀ incident ∈ g.store.journal.opened sourceId,
      incident.generation = (settings.source sourceId).generation) :
    startSource settings offsets sourceId g = (false, g) := by
  unfold startSource
  rw [read_served hfaults]
  dsimp only
  rw [if_pos]
  simp only [not_forall] at hgeneration
  obtain ⟨incident, hmem, hother⟩ := hgeneration
  exact List.any_eq_true.mpr ⟨incident, hmem, by simpa using hother⟩

theorem startSource_releases (hfaults : g.store.faults = []) (hheld : PendingHeld g.store.journal) :
    let started := startSource settings offsets sourceId g
    started.2.store.faults = [] ∧ PendingHeld started.2.store.journal ∧
      (started.1 = true → NonePending started.2.store.journal sourceId) := by
  by_cases hgeneration : ∀ incident ∈ g.store.journal.opened sourceId,
      incident.generation = (settings.source sourceId).generation
  · obtain ⟨hwrote, -⟩ := @startSource_wrote plainTexts g (.restart settings offsets) settings
      sourceId offsets rfl g
    have hbefore := changes_noneStarted hwrote.journal (by simp)
    obtain ⟨g', hstart, hstarted⟩ := @startSource_served settings offsets sourceId g hfaults
      hgeneration
    rw [hstart] at hbefore ⊢
    -- an incident whose guard is still said to run is of another source, and as it was
    have hother : ∀ failureId after, g'.store.journal.incidents.get failureId = some after →
        after.recovery = .guardPending → after.sourceId ≠ sourceId ∧
          g.store.journal.incidents.get failureId = some after := by
      intro failureId after hget hpending
      obtain ⟨before, hfound, hrecovery⟩ := hbefore failureId after hget hpending
      obtain ⟨hopen, hprogress⟩ := hheld failureId before hfound hrecovery
      have hkey : before.failureId = failureId := InsertionMap.key_of_get hfound
      by_cases hsource : before.sourceId = sourceId
      · exfalso
        have hmem : before ∈ g.store.journal.opened sourceId :=
          mem_opened_iff.mpr ⟨by rw [hkey]; exact hfound, hsource, hopen⟩
        obtain ⟨record, hrecord, hreconciled⟩ :=
          hstarted.reconciled sourceId List.mem_cons_self before hmem
        rw [hkey, hget] at hrecord
        obtain rfl := Option.some.inj hrecord
        refine hreconciled.recovery ?_ hpending
        rw [hreconciled.state, if_neg]
        simp [isUnresolved, hprogress]
      · have hsame : g'.store.journal.incidents.get failureId =
            g.store.journal.incidents.get failureId := by
          apply hstarted.others
          intro source hmem hopened
          obtain rfl := List.mem_singleton.mp hmem
          obtain ⟨incident, hincident, hid⟩ := List.mem_map.mp hopened
          obtain ⟨hstored, hown, -⟩ := mem_opened_iff.mp hincident
          rw [hid, hfound] at hstored
          obtain rfl := Option.some.inj hstored
          exact hsource hown
        rw [hsame, hfound] at hget
        obtain rfl := Option.some.inj hget
        exact ⟨hsource, hfound⟩
    refine ⟨hstarted.faults, ?_, fun _ failureId after hget hsource hpending =>
      (hother failureId after hget hpending).1 hsource⟩
    intro failureId after hget hpending
    exact hheld failureId after (hother failureId after hget hpending).2 hpending
  · rw [startSource_refused hfaults hgeneration]
    exact ⟨hfaults, hheld, by simp⟩

theorem startSources_releases (sources : List String) (hfaults : g.store.faults = [])
    (hheld : PendingHeld g.store.journal) :
    let started := startSources settings offsets sources g
    PendingHeld started.2.store.journal ∧
      (started.1 = true → ∀ sourceId ∈ sources, NonePending started.2.store.journal sourceId) := by
  induction sources generalizing g with
  | nil => exact ⟨hheld, by simp⟩
  | cons first rest ih =>
      obtain ⟨hserved, hheld', hreleased⟩ :=
        @startSource_releases settings first offsets g hfaults hheld
      unfold startSources
      rcases hresult : startSource settings offsets first g with ⟨done, g₁⟩
      rw [hresult] at hserved hheld' hreleased
      cases done with
      | false => exact ⟨hheld', by simp⟩
      | true =>
          obtain ⟨hrest, hothers⟩ := ih hserved hheld'
          refine ⟨hrest, fun hdone sourceId hmem => ?_⟩
          obtain ⟨hwrote, -⟩ := @startSources_wrote plainTexts g (.restart settings offsets)
            settings offsets rfl rest g₁
          rcases List.mem_cons.mp hmem with rfl | hmem
          · exact (hreleased rfl).changes hwrote.journal (by simp)
          · exact hothers hdone sourceId hmem

theorem restart_releases (hfaults : s.faults = []) (hheld : PendingHeld s.journal) :
    PendingHeld (restart settings offsets s).store.journal ∧
      ((restart settings offsets s).started = true → ∀ sourceId ∈ settings.sources,
        NonePending (restart settings offsets s).store.journal sourceId) := by
  have hsame := s.nowIso_same.journal
  have hclock := s.nowIso_faults
  unfold restart
  rcases htime : s.nowIso with ⟨time, s₁⟩
  rw [htime] at hsame hclock
  dsimp only at hsame hclock ⊢
  generalize (settings.sources.map fun sourceId =>
    (⟨sourceId, (settings.source sourceId).generation, (settings.source sourceId).kind⟩ :
      SourceIdentity)) = identities
  have hserved : s₁.call (.claim "" identities time) =
      (.ok .claimed, { s₁ with journal := s₁.journal.claim time identities }) :=
    call_accepted (hclock.trans hfaults) rfl
  rw [hserved]
  dsimp only
  apply startSources_releases settings.sources (hclock.trans hfaults)
  intro failureId record hget
  refine hheld failureId record ?_
  rw [← hsame, ← Journal.claim_incidents time identities]
  exact hget

end Start

/-! ### Steps -/

/-- Work that waits for a guard waits on until the guard settles. -/
theorem guarding_stays (hcoherent : Coherent texts f) {prior : Option StoredBoundary}
    (htask : f.tasks sourceId = some (.guarding record prior))
    (hrestart : ∀ settings offsets, e ≠ .restart settings offsets)
    (hguarded : ∀ answer boundaryId, e ≠ .guarded sourceId answer boundaryId) :
    (f.handle texts e).tasks sourceId = some (.guarding record prior) := by
  by_cases hown : eventSource e = some sourceId
  · cases e with
    | restart | stop | note => cases hown
    | check source input =>
        obtain rfl := Option.some.inj hown
        rcases @checkRecord_process texts source input f with hsame | ⟨-, hsame⟩
        · exact (congrFun hsame.tasks source).trans htask
        · exact (congrFun hsame.tasks source).trans htask
    | failed source input =>
        obtain rfl := Option.some.inj hown
        exact (congrFun (sourceHeld_process source input.position f).tasks source).trans htask
    | abandoned | held | run =>
        obtain rfl := Option.some.inj hown
        exact htask
    | committed source input =>
        obtain rfl := Option.some.inj hown
        exact (congrFun (committed_process source input.position f).tasks source).trans htask
    | acknowledged source boundaryId =>
        obtain rfl := Option.some.inj hown
        show (f.boundaryAcknowledged source boundaryId).tasks source = _
        unfold boundaryAcknowledged
        dsimp only
        split
        · exact htask
        · exact htask
    | begin source =>
        obtain rfl := Option.some.inj hown
        show (f.beginNext texts source).tasks source = _
        unfold beginNext
        rw [htask]
        exact htask
    | written source answer =>
        obtain rfl := Option.some.inj hown
        show (f.afterWrite source answer).tasks source = _
        unfold afterWrite
        rw [htask]
        exact htask
    | guarded source answer boundaryId =>
        obtain rfl := Option.some.inj hown
        exact absurd rfl (hguarded answer boundaryId)
    | advanced source answer =>
        obtain rfl := Option.some.inj hown
        show (f.afterAdvance source answer).tasks source = _
        unfold afterAdvance
        rw [htask]
        exact htask
    | confirm source =>
        obtain rfl := Option.some.inj hown
        show (f.afterConfirm source).tasks source = _
        unfold afterConfirm
        rw [htask]
        exact htask
    | retired source agreed =>
        obtain rfl := Option.some.inj hown
        show (f.afterRetirement source agreed).tasks source = _
        unfold afterRetirement
        rw [htask]
        exact htask
  · cases hsource : eventSource e with
    | none =>
        cases e with
        | restart settings offsets => exact absurd rfl (hrestart settings offsets)
        | stop | note => exact htask
        | _ => cases hsource
    | some source =>
        have hne : sourceId ≠ source := by
          rintro rfl
          exact hown hsource
        exact ((handle_local hcoherent hsource).elsewhere.tasks sourceId hne).trans htask

/-- The event is the end of the guard of the source's incident, or of the process that ran it. -/
def endsGuard (sourceId : String) (e : Event) : Bool :=
  match e with
  | .restart _ _ => true
  | .guarded source _ _ => source = sourceId
  | _ => false

/-- A guard is called for an open and held incident. -/
def callsHeld (task : Option Task) : Bool :=
  match task with
  | some (.guarding record _) => record.state = .opened && record.progress = .held
  | _ => true

def needsStore (e : Event) : Bool :=
  match e with
  | .restart _ _ | .guarded _ _ _ => true
  | _ => false

/-- The store serves the calls after a guard and at the start of a process, nothing else changes an
incident whose guard runs, and a guard is called for an incident whose advance is not unresolved. -/
structure LeavesGuards (texts : RecordTexts) (f : FailureService) (o : Occurrence) : Prop where
  served : needsStore o.event = true → o.faults = []
  unchanged : ∀ record ∈ f.store.journal.incidents.values, record.recovery = .guardPending →
    endsGuard record.sourceId o.event = false →
      (f.step texts o).store.journal.incidents.get record.failureId = some record
  held : ∀ sourceId ∈ eventSource o.event, callsHeld ((f.step texts o).tasks sourceId) = true

/-- Where a guard is said to run, one does. -/
structure GuardsRun (f : FailureService) : Prop where
  held : PendingHeld f.store.journal
  stored : ∀ sourceId record prior, f.tasks sourceId = some (.guarding record prior) →
    f.store.journal.incidents.get record.failureId = some record ∧ record.recovery = .guardPending
  running : f.started = true → ∀ sourceId ∈ f.settings.sources, ∀ failureId record,
    f.store.journal.incidents.get failureId = some record → record.sourceId = sourceId →
      record.recovery = .guardPending → ∃ prior, f.tasks sourceId = some (.guarding record prior)

/-- After a step of a started service, an incident whose guard is said to run was not touched, or
its guard was just called. -/
theorem handle_pending (hcoherent : Coherent texts f) (h : GuardsRun f) (hstarted : f.started = true)
    {o : Occurrence} (hleaves : LeavesGuards texts f o)
    (hrestart : ∀ settings offsets, o.event ≠ .restart settings offsets)
    (hsources : ∀ source answer boundaryId, o.event = .guarded source answer boundaryId →
      source ∈ f.settings.sources)
    (hstep : f.step texts o = (f.given o).handle texts o.event)
    (hstepped : Stepped texts (f.given o) o.event (f.step texts o)) {failureId : String}
    {after : IncidentRecord}
    (hget : (f.step texts o).store.journal.incidents.get failureId = some after)
    (hpending : after.recovery = .guardPending) :
    (f.store.journal.incidents.get failureId = some after ∧
        endsGuard after.sourceId o.event = false) ∨
      ∃ source prior, eventSource o.event = some source ∧
        (f.step texts o).tasks source = some (.guarding after prior) := by
  -- an incident whose guard was said to run and does not end is as it was
  have hkept : (∃ before, f.store.journal.incidents.get failureId = some before ∧
      before.recovery = .guardPending) → f.store.journal.incidents.get failureId = some after ∧
        endsGuard after.sourceId o.event = false := by
    rintro ⟨before, hbefore, hrecovery⟩
    have hkey : before.failureId = failureId := InsertionMap.key_of_get hbefore
    cases hends : endsGuard before.sourceId o.event with
    | false =>
        have hsame := hleaves.unchanged before (InsertionMap.mem_of_get hbefore) hrecovery hends
        rw [hkey, hget] at hsame
        obtain rfl := Option.some.inj hsame
        exact ⟨hbefore, hends⟩
    | true =>
        exfalso
        obtain ⟨source, answer, boundaryId, hevent⟩ : ∃ source answer boundaryId,
            o.event = .guarded source answer boundaryId := by
          cases hevent : o.event with
          | restart settings offsets => exact absurd hevent (hrestart settings offsets)
          | guarded source answer boundaryId => exact ⟨source, answer, boundaryId, rfl⟩
          | _ => simp [hevent, endsGuard] at hends
        rw [hevent] at hends
        have hsource : before.sourceId = source := (of_decide_eq_true hends).symm
        obtain ⟨prior, htask⟩ := h.running hstarted source
          (hsources source answer boundaryId hevent) failureId before hbefore hsource hrecovery
        obtain ⟨hopen, hprogress⟩ := h.held failureId before hbefore hrecovery
        have hfaults : (f.given o).store.faults = [] := hleaves.served (by rw [hevent]; rfl)
        have hreleased := @guardSettled_released texts f.settings source (f.given o).store before
          hfaults (by rw [hkey]; exact hbefore) hrecovery hopen hprogress prior f.stopping answer
          boundaryId
        have hstore : (f.step texts o).store = (guardSettled f.settings texts source before prior
            f.stopping answer boundaryId (f.given o).store).2 := by
          rw [hstep, hevent]
          show (afterGuard texts source answer boundaryId (f.given o)).store = _
          unfold afterGuard
          rw [show (f.given o).tasks source = some (.guarding before prior) from htask]
          dsimp only [given]
          split <;> simp [*, waitAt]
        rw [← hstore, hkey] at hreleased
        obtain ⟨released, hfound, hended⟩ := hreleased
        rw [hget] at hfound
        obtain rfl := Option.some.inj hfound
        exact hended hpending
  by_cases hwritten : ∃ source answer, o.event = .written source answer
  · obtain ⟨source, answer, hevent⟩ := hwritten
    have hafter : f.step texts o = (f.given o).afterWrite source answer := by
      rw [hstep, hevent]
      rfl
    rw [hafter] at hget ⊢
    unfold afterWrite at hget ⊢
    split at hget
    · rename_i record policy summary evidence known htask
      have hknown : (f.given o).store.journal.Known record := hcoherent.snapshots source _ htask
      rcases writeSettled_started hknown hget hpending with hbefore | ⟨prior, hguarding⟩
      · exact .inl (hkept hbefore)
      · refine .inr ⟨source, prior, by rw [hevent]; rfl, ?_⟩
        exact (Function.update_self _ _ _).trans hguarding
    · exact .inl (hkept ⟨after, hget, hpending⟩)
  · left
    apply hkept
    have hnone := changes_noneStarted hstepped.journal
      fun source answer hevent => hwritten ⟨source, answer, hevent⟩
    exact hnone failureId after hget hpending

theorem GuardsRun.step (h : GuardsRun f) (hcoherent : Coherent texts f) {o : Occurrence}
    (hleaves : LeavesGuards texts f o) : GuardsRun (f.step texts o) := by
  have hcoherent' := hcoherent.step o
  have hstep : Step texts f o (f.step texts o) := step_cases hcoherent.snapshots o
  have hpending := fun hstarted => @handle_pending texts f hcoherent h hstarted o hleaves
  have hheld := hleaves.held
  have hunchanged := hleaves.unchanged
  generalize f.step texts o = f' at hstep hpending hcoherent' hheld hunchanged
  cases hstep with
  | @restarted settings offsets hevent =>
      have hfaults : (f.given o).store.faults = [] := hleaves.served (by rw [hevent]; rfl)
      have hreleases := @restart_releases settings (f.given o).store offsets hfaults h.held
      have htasks := (@restart_wrote texts (f.given o) (.restart settings offsets) settings offsets
        rfl (f.given o).store).2
      refine ⟨hreleases.1, ?_, ?_⟩
      · intro sourceId record prior htask
        rw [htasks] at htask
        cases htask
      · intro hstarted sourceId hmem failureId record hget hsource hrecovery
        rw [(restart_settings (f.given o).store).1] at hmem
        exact absurd hrecovery (hreleases.2 hstarted sourceId hmem failureId record hget hsource)
  | nothing => exact ⟨h.held, h.stored, h.running⟩
  | handled hstarted hpossible hrestart hresult hstepped hcontinues =>
      have hsources : ∀ source answer boundaryId, o.event = .guarded source answer boundaryId →
          source ∈ f.settings.sources := by
        intro source answer boundaryId hevent
        unfold possible at hpossible
        rw [hevent, Bool.and_eq_true] at hpossible
        simpa [eventSource] using hpossible.1
      have hcases := fun failureId after => @hpending hstarted hrestart hsources hresult hstepped
        failureId after
      refine ⟨?_, ?_, ?_⟩
      · intro failureId after hget hrecovery
        rcases hcases failureId after hget hrecovery with ⟨hbefore, -⟩ |
          ⟨source, prior, hsource, htask⟩
        · exact h.held failureId after hbefore hrecovery
        · have hcalls := hheld source (by rw [hsource]; rfl)
          rw [htask] at hcalls
          simpa [callsHeld] using hcalls
      · intro sourceId record prior htask
        rcases hstepped.tasks sourceId _ htask with ⟨hbefore, hends⟩ | henters
        · obtain ⟨hget, hrecovery⟩ := h.stored sourceId record prior hbefore
          refine ⟨hunchanged record (InsertionMap.mem_of_get hget) hrecovery ?_, hrecovery⟩
          have hsource := hcoherent.guarding_source hbefore hget
          cases hevent : o.event with
          | restart settings offsets => exact absurd hevent (hrestart settings offsets)
          | guarded source answer boundaryId =>
              refine decide_eq_false fun hsame => hends ?_
              rw [hevent]
              exact ⟨by rw [hsame, hsource]; rfl, trivial⟩
          | _ => rfl
        · cases henters with
          | guarding _ _ hguards =>
              obtain ⟨pending, prior', hguarding, -, hget, hrecovery, -⟩ := hguards
              cases hguarding
              exact ⟨hget, hrecovery⟩
      · intro _ sourceId hmem failureId after hget hsource hrecovery
        rw [hcontinues.settings] at hmem
        rcases hcases failureId after hget hrecovery with ⟨hbefore, hends⟩ |
          ⟨source, prior, -, htask⟩
        · obtain ⟨prior, htask⟩ :=
            h.running hstarted sourceId hmem failureId after hbefore hsource hrecovery
          refine ⟨prior, ?_⟩
          rw [hresult]
          refine guarding_stays (hcoherent.given o) htask hrestart ?_
          intro answer boundaryId hevent
          rw [hevent] at hends
          exact of_decide_eq_false hends hsource.symm
        · have hown := hcoherent'.guarding_source htask
            (by rw [InsertionMap.key_of_get hget]; exact hget)
          rw [← hsource, hown]
          exact ⟨prior, htask⟩

theorem guardsRun_initial : GuardsRun (initial settings) where
  held _ _ hget := nomatch hget
  stored _ _ _ htask := nomatch htask
  running hstarted := nomatch hstarted

end FailureService

namespace OperatorService

open FailureService

def sourceStatusText : SourceStatus → String
  | .starting => "starting"
  | .healthy => "healthy"
  | .degraded => "degraded"
  | .paused => "paused"
  | .stopped => "stopped"

def unresolvedAdvanceHint (incident : IncidentRecord) : String :=
  if clusterMismatchPhrase.toList.isPrefixOf incident.diagnosis.toList then
    "A restart reconciles it only once the source is confirmed to read the cluster it was captured on; see the incident's diagnosis."
  else "It is reconciled from the group's committed offset at restart."

/-- `#heldIncident`: the incident or the refusal, or what the store threw. The status is the one of
the source, if there is such a source. -/
def heldIncident (sourceId : String) (status : Option SourceStatus) (failureId : String)
    (expectedRevision : ℕ) (s : StoreAccess) :
    Except String (Except Draft IncidentRecord) × StoreAccess :=
  match status with
  | none =>
      (.ok (.error (refused "not-found" ("Unknown source \"" ++ sourceId ++ "\".") none)), s)
  | some status =>
      let missing : Draft :=
        refused "not-found" ("No incident " ++ failureId ++ " on source \"" ++ sourceId ++ "\".") none
      match s.read fun j => j.incidents.get failureId with
      | (.error message, s) => (.error message, s)
      | (.ok none, s) => (.ok (.error missing), s)
      | (.ok (some record), s) =>
          let refuse (outcome message : String) : Except Draft IncidentRecord :=
            .error (refused outcome message (some record.revision))
          (.ok
            (if record.sourceId ≠ sourceId then .error missing
            else if record.revision ≠ expectedRevision then
              refuse "stale-revision" ("Incident " ++ failureId ++ " is at revision " ++
                toString record.revision ++ ", not " ++ toString expectedRevision ++ ".")
            else if record.state ≠ .opened then
              refuse "not-held" ("Incident " ++ failureId ++ " is resolved (" ++
                record.resolution.getD (progressText record.progress) ++ ").")
            else if isUnresolved record then
              refuse "advance-unresolved" ("An advance of this record is unresolved. " ++
                unresolvedAdvanceHint record)
            else if record.progress ≠ .held then
              refuse "not-held" ("Incident " ++ failureId ++ " is " ++
                progressText record.progress ++ ", not held.")
            else if record.recovery = .guardPending then
              refuse "in-progress" "The recovery guard is running for this record."
            else if status ≠ .paused then
              refuse "not-held" ("Source \"" ++ sourceId ++ "\" is " ++ sourceStatusText status ++
                ", not paused at the record.")
            else .ok record), s)

/-- Only an incident of the source whose guard is said to run is refused as in progress. -/
theorem heldIncident_inProgress {sourceId failureId : String} {status : Option SourceStatus}
    {expectedRevision : ℕ} {s : StoreAccess} {draft : Draft}
    (h : (heldIncident sourceId status failureId expectedRevision s).1 = .ok (.error draft))
    (hrefused : draft.outcome = "in-progress") :
    ∃ record, s.journal.incidents.get failureId = some record ∧ record.sourceId = sourceId ∧
      record.recovery = .guardPending := by
  unfold heldIncident at h
  cases status with
  | none =>
      obtain rfl := Except.error.inj (Except.ok.inj h)
      simp [refused] at hrefused
  | some status =>
      obtain ⟨message, s₁, hread, -⟩ | ⟨s₁, hread, -⟩ :=
        StoreAccess.read_cases (fun j => j.incidents.get failureId) s
      · rw [hread] at h
        cases h
      rw [hread] at h
      dsimp only at h
      cases hget : s.journal.incidents.get failureId with
      | none =>
          rw [hget] at h
          obtain rfl := Except.error.inj (Except.ok.inj h)
          simp [refused] at hrefused
      | some record =>
          rw [hget] at h
          have hanswer := Except.ok.inj h
          refine ⟨record, rfl, ?_⟩
          split_ifs at hanswer with hsource hrevision hstate hunresolved hheld hrecovery hpaused
          all_goals first
            | exact ⟨not_not.mp hsource, hrecovery⟩
            | cases hanswer; simp [refused] at hrefused

end OperatorService

namespace FailureService

/-- The service over runs that leave guards to themselves. -/
def guardMachine (texts : RecordTexts) : Machine FailureService Occurrence where
  step := step texts
  allowed := LeavesGuards texts

instance (texts : RecordTexts) (f : FailureService) (o : Occurrence) :
    Decidable ((guardMachine texts).allowed f o) :=
  decidable_of_iff
    ((needsStore o.event = true → o.faults = []) ∧
      (∀ record ∈ f.store.journal.incidents.values, record.recovery = .guardPending →
        endsGuard record.sourceId o.event = false →
          (f.step texts o).store.journal.incidents.get record.failureId = some record) ∧
      ∀ sourceId ∈ eventSource o.event, callsHeld ((f.step texts o).tasks sourceId) = true)
    ⟨fun h => ⟨h.1, h.2.1, h.2.2⟩, fun h => ⟨h.served, h.unchanged, h.held⟩⟩

/-- A guard holds, and the process ends while the next guard runs. -/
def guardedTwice : List Occurrence :=
  calmly [.restart (ordersUnder .quarantineResync) fun _ _ _ => .ok none,
    .held "orders" (orderAt 5 [1]) invalidOrder, .begin "orders",
    .written "orders" (.acknowledged 0 0), .guarded "orders" (.error "offline") "b1",
    .held "orders" (orderAt 5 [1]) invalidOrder, .begin "orders",
    .written "orders" (.acknowledged 0 1),
    .restart (ordersUnder .quarantineResync) fun _ _ _ => .ok none]

/-- A later record that is read meanwhile changes the incident, and its guard's answer is dropped:
nothing takes back that the guard runs. -/
example :
    let f := after plainTexts (ordersUnder .quarantineResync)
      (calmly [.restart (ordersUnder .quarantineResync) fun _ _ _ => .ok none,
        .held "orders" (orderAt 5 [1]) invalidOrder, .begin "orders",
        .written "orders" (.acknowledged 0 0), .check "orders" (orderAt 6 [2]),
        .guarded "orders" recoverableAnswer "b1"])
    (f.tasks "orders").isNone ∧
      (f.store.journal.opened "orders").map (·.recovery) = [.guardPending] := by
  decide +kernel

end FailureService

end StreamOtter
