import StreamOtter.ServiceWrites

/-!
# What a step of the failure service changes

Every change that a step makes to the journal, with what the service knew when it made it.
-/

namespace StreamOtter

open FailureStore Relation

/-- The incident of a prepared advance as it was prepared, or as its boundary is in force. -/
structure Advancing (j : Journal) (prepared : IncidentRecord) (boundaryId : String) : Prop where
  known : j.Known prepared
  progress : prepared.progress = .advancePending
  opened : prepared.state = .opened
  names : prepared.boundaryId = some boundaryId
  stored : ∃ boundary, j.boundaries.get boundaryId = some boundary

/-- Where the work of a source waits, every snapshot is known. -/
def Task.Known (j : Journal) : Task → Prop
  | .writing record _ _ _ _ => j.Known record
  | .guarding pending _ => j.Known pending
  | .advancing prepared boundaryId | .confirming prepared boundaryId _ =>
      Advancing j prepared boundaryId
  | .retiring _ => True

namespace FailureService

def Snapshots (f : FailureService) : Prop :=
  ∀ sourceId task, f.tasks sourceId = some task → task.Known f.store.journal

/-- The event reports a commit at the position, of a record or past one. -/
def CommitsAt (f : FailureService) (e : Event) (sourceId : String) (position : Position) : Prop :=
  (∃ input, e = .committed sourceId input ∧ position = input.position) ∨
    ∃ answer prepared boundaryId, e = .advanced sourceId answer ∧ answer ≠ .notHeld ∧
      f.tasks sourceId = some (.advancing prepared boundaryId) ∧ position = prepared.position

/-- The group's committed offset was read back as one past the record. -/
def ConfirmsAdvance (f : FailureService) (e : Event) (record : IncidentRecord) : Prop :=
  (∃ sourceId boundaryId committed, e = .confirm sourceId ∧
      f.tasks sourceId = some (.confirming record boundaryId committed)) ∨
    ∃ settings offsets topic partition offset, e = .restart settings offsets ∧
      record.position = .kafka topic partition offset ∧
      offsets record.sourceId topic partition = .ok (some (offset + 1))

/-- The advance past the record was not made, as far as the service can tell. -/
def ReturnsAdvance (f : FailureService) (e : Event) (record : IncidentRecord) : Prop :=
  (∃ sourceId boundaryId, e = .advanced sourceId .notHeld ∧
      f.tasks sourceId = some (.advancing record boundaryId)) ∨
    ∃ settings offsets, e = .restart settings offsets

def processedPatch (resolution : String) : IncidentPatch where
  progress := some .processed
  state := some .resolved
  resolution := some (some resolution)

def advancedPatch (resolution : String) : IncidentPatch where
  progress := some .advanced
  state := some .resolved
  resolution := some (some resolution)

def acknowledgedPatch (coordinates : Option (ℕ × ℕ)) : IncidentPatch where
  quarantine := some .acknowledged
  quarantineCoordinates := some coordinates

/-- The patches that an event makes to an incident. -/
inductive Makes (f : FailureService) (e : Event) (record : IncidentRecord) : IncidentPatch → Prop
  | quiet {patch : IncidentPatch} (h : QuietPatch record patch) : Makes f e record patch
  | processed {sourceId : String} {position : Position} (resolution : String)
      (hevent : CommitsAt f e sourceId position) (hopen : record.state = .opened)
      (hsource : record.sourceId = sourceId) (hwatched : f.watched sourceId)
      (hmatch : committedIncident f.settings sourceId position record) :
      Makes f e record (processedPatch resolution)
  | acknowledged {sourceId : String} {answer : PublishAnswer} {written : IncidentRecord}
      {policy : FailurePolicy} {summary : EvidenceSummary} {evidence : RawEvidence}
      {known : Option QuarantineOutcome} {coordinates : Option (ℕ × ℕ)}
      (hevent : e = .written sourceId answer)
      (htask : f.tasks sourceId = some (.writing written policy summary evidence known))
      (hanswer : known.getD answer.outcome = .acknowledged coordinates)
      (hid : record.failureId = written.failureId) :
      Makes f e record (acknowledgedPatch coordinates)
  | guardPending {sourceId : String} {answer : PublishAnswer}
      (hevent : e = .written sourceId answer) :
      Makes f e record { recovery := some .guardPending }
  | returned (hevent : ReturnsAdvance f e record) (hunresolved : isUnresolved record) :
      Makes f e record { progress := some .held }
  | uncertain (diagnosis : Option String) (hunresolved : isUnresolved record) :
      Makes f e record { progress := some .uncertain, diagnosis := diagnosis }
  | advanced (resolution : String) (hevent : ConfirmsAdvance f e record)
      (hunresolved : isUnresolved record) : Makes f e record (advancedPatch resolution)

/-- One change that an event makes. -/
inductive Change (texts : RecordTexts) (f : FailureService) (e : Event) : Journal → Journal → Prop
  | patched {j : Journal} {record : IncidentRecord} {patch : IncidentPatch} (event : IncidentEvent)
      (hget : j.incidents.get record.failureId = some record) (hmakes : Makes f e record patch) :
      Change texts f e j (j.record (patched patch event.time record) event)
  | observed {j : Journal} {sourceId : String} {input : Delivery} {outcome : Pause}
      {rest : List Job} (observedAt : String) (hevent : e = .begin sourceId)
      (htask : f.tasks sourceId = none)
      (hchain : f.chains sourceId = .dispose input outcome :: rest) :
      Change texts f e j
        (j.observe (observationOf f.settings texts sourceId input outcome
          (policyFor (f.settings.source sourceId).policy outcome.failureClass)
          (f.settings.summarize texts sourceId (rawEvidence input)
            (policyFor (f.settings.source sourceId).policy outcome.failureClass)) observedAt)).2
  | prepared {j j' : Journal} {sourceId : String} {answer : HandlerAnswer}
      {pending : IncidentRecord} {prior : Option StoredBoundary} {input : PrepareAdvance}
      {reply : StoreReply} (hevent : e = .guarded sourceId answer input.boundaryId)
      (htask : f.tasks sourceId = some (.guarding pending prior))
      (hid : input.failureId = pending.failureId)
      (hget : j.incidents.get pending.failureId = some pending)
      (hcall : j.prepareAdvance input = .ok (reply, j')) : Change texts f e j j'
  | circuitOpened {j j' : Journal} {sourceId : String} {answer : PublishAnswer}
      {written : IncidentRecord} {policy : FailurePolicy} {summary : EvidenceSummary}
      {evidence : RawEvidence} {known : Option QuarantineOutcome} {revision : ℕ}
      {next : CircuitUpdate} {reply : StoreReply} (hevent : e = .written sourceId answer)
      (htask : f.tasks sourceId = some (.writing written policy summary evidence known))
      (hopened : next.state = .opened)
      (hcall : j.updateCircuit sourceId revision next = .ok (reply, j')) : Change texts f e j j'
  | circuitClosed {j j' : Journal} {sourceId reason : String} {expectedRevision revision : ℕ}
      {rest : List Job} {next : CircuitUpdate} {reply : StoreReply}
      (hevent : e = .begin sourceId)
      (hchain : f.chains sourceId = .reopenCircuit expectedRevision reason :: rest)
      (hcall : j.updateCircuit sourceId revision next = .ok (reply, j')) : Change texts f e j j'
  | retired {j j' : Journal} {boundaryId time : String} {revision : ℕ} {retirement : Retirement}
      {reply : StoreReply}
      (hcall : j.retireBoundary boundaryId revision retirement time = .ok (reply, j')) :
      Change texts f e j j'
  | claimed {j : Journal} {settings : ServiceSettings}
      {offsets : String → String → ℕ → Except String (Option ℕ)} (time : String)
      (sources : List SourceIdentity) (hevent : e = .restart settings offsets) :
      Change texts f e j (j.claim time sources)

variable {texts : RecordTexts} {f : FailureService} {e : Event} {settings : ServiceSettings}
  {sourceId : String} {s s' : StoreAccess} {record : IncidentRecord}

open StoreAccess

/-- Every change is an accepted call. -/
theorem Change.next {j j' : Journal} (h : Change texts f e j j') : j.Next j' := by
  cases h with
  | patched event hget _ => exact Journal.record_next hget _ event
  | observed observedAt => exact ⟨.observe _, _, rfl⟩
  | prepared _ _ _ _ hcall => exact ⟨.prepareAdvance _, _, hcall⟩
  | circuitOpened _ _ _ hcall => exact ⟨.updateCircuit _ _ _, _, hcall⟩
  | circuitClosed _ _ hcall => exact ⟨.updateCircuit _ _ _, _, hcall⟩
  | retired hcall => exact ⟨.retireBoundary _ _ _ _, _, hcall⟩
  | claimed time sources _ => exact ⟨.claim "" sources time, _, rfl⟩

theorem Change.of_quiet {j j' : Journal} (h : QuietChange j j') : Change texts f e j j' := by
  obtain ⟨record, patch, event, hget, hquiet, rfl⟩ := h
  exact .patched event hget (.quiet hquiet)

theorem Wrote.of_quiet (h : Wrote QuietChange s s') : Wrote (Change texts f e) s s' :=
  h.mono fun _ _ => Change.of_quiet

theorem Wrote.known_change (h : Wrote (Change texts f e) s s')
    (hknown : s.journal.Known record) : s'.journal.Known record :=
  h.known (fun _ _ => Change.next) hknown

theorem mem_opened {j : Journal} :
    record ∈ j.opened sourceId ↔
      record ∈ j.incidents.values ∧ record.sourceId = sourceId ∧ record.state = .opened := by
  simp [Journal.opened, Journal.isOpenOf]

/-! ### The record pipeline -/

theorem resolveCommitted_wrote
    {position : Position} (hevent : CommitsAt f e sourceId position)
    (hwatched : f.watched sourceId) (incidents : List IncidentRecord) (s : StoreAccess)
    (h : ∀ incident ∈ incidents, s.journal.Known incident ∧ incident.sourceId = sourceId ∧
      incident.state = .opened) :
    Wrote (Change texts f e) s
      (resolveCommitted f.settings sourceId position (f.corrected (sourceId, position)) incidents
        s).2 := by
  induction incidents generalizing s with
  | nil => exact .rfl
  | cons incident rest ih =>
      have hrest : ∀ incident ∈ rest, s.journal.Known incident ∧ incident.sourceId = sourceId ∧
          incident.state = .opened := fun other hother => h other (List.mem_cons_of_mem _ hother)
      obtain ⟨hknown, hsource, hopen⟩ := h incident List.mem_cons_self
      -- The incident is resolved as the original record or as a corrected one.
      have hresolve : ∀ resolution detail : String,
          committedIncident f.settings sourceId position incident →
            Wrote (Change texts f e) s (resolveCommitted f.settings sourceId position
              (f.corrected (sourceId, position)) rest
              (s.update incident (processedPatch resolution) .resolved detail).2).2 := by
        intro resolution detail hmatch
        have hwrote : Wrote (Change texts f e) s
            (s.update incident (processedPatch resolution) .resolved detail).2 := by
          apply update_wrote hknown
          intro time hget
          exact .patched _ hget (.processed resolution hevent hopen hsource hwatched hmatch)
        apply hwrote.trans
        apply ih
        intro other hother
        exact ⟨Wrote.known_change hwrote (hrest other hother).1, (hrest other hother).2⟩
      unfold resolveCommitted
      by_cases hmatch : committedIncident f.settings sourceId position incident = true
      · rw [if_pos hmatch]
        cases hcorrected : f.corrected (sourceId, position) with
        | false =>
            have hdone := hresolve "processed after retry"
              "the original record processed successfully" hmatch
            rw [hcorrected] at hdone
            exact hdone
        | true =>
            rw [hcorrected] at ih hresolve
            cases position with
            | fixture index =>
                exact hresolve correctedRecordResolution
                  "a different record at this fixture position processed successfully; the original record did not, and its evidence is kept"
                  hmatch
            | kafka topic partition offset => exact ih s hrest
      · rw [if_neg hmatch]
        exact ih s hrest

/-- `committed` writes to the store what its loop writes. -/
theorem committed_wrote
    {position : Position} (hevent : CommitsAt f e sourceId position) :
    Wrote (Change texts f e) f.store (f.committed sourceId position).store := by
  unfold committed
  dsimp only
  split
  · exact .rfl
  · rename_i hwatched
    obtain ⟨message, s₁, hread, hsame⟩ | ⟨s₁, hread, hsame⟩ :=
      read_cases (fun j => j.opened sourceId) f.store
    · rw [hread]
      exact hsame.wrote
    · rw [hread]
      apply hsame.wrote.trans
      apply resolveCommitted_wrote hevent (by simpa using hwatched)
      intro incident hmem
      rw [hsame.journal]
      exact ⟨Journal.known_of_opened hmem, (mem_opened.mp hmem).2⟩

theorem sourceHeld_wrote (sourceId : String) (position : Position) (f : FailureService) :
    Wrote QuietChange f.store (f.sourceHeld sourceId position).store := by
  unfold sourceHeld
  split
  · exact .rfl
  · obtain ⟨message, s₁, hread, hsame⟩ | ⟨s₁, hread, hsame⟩ :=
      read_cases (fun j => j.opened sourceId) f.store
    · rw [hread]
      exact hsame.wrote
    · rw [hread]
      apply hsame.wrote.trans
      apply holdRetrying_quiet
      intro incident hmem
      rw [hsame.journal]
      exact Journal.known_of_opened hmem

theorem positionProblem_wrote (sourceId : String) (input : Delivery) (f : FailureService) :
    Wrote QuietChange f.store (positionProblem texts sourceId input f).2.store := by
  unfold positionProblem
  split
  · exact .rfl
  obtain ⟨message, s₁, hread, hsame⟩ | ⟨s₁, hread, hsame⟩ :=
    read_cases (fun j => j.opened sourceId) f.store
  · rw [hread]
    exact hsame.wrote
  rw [hread]
  have hknown : ∀ incident ∈ f.store.journal.opened sourceId, s₁.journal.Known incident := by
    intro incident hmem
    rw [hsame.journal]
    exact Journal.known_of_opened hmem
  dsimp only
  cases hother : (f.store.journal.opened sourceId).find? (onOtherCluster f.settings sourceId) with
  | some incident =>
      exact hsame.wrote.trans (holdMismatched_quiet (hknown incident (List.mem_of_find?_eq_some hother)))
  | none =>
      dsimp only
      cases (f.store.journal.opened sourceId).find? (isUncertain input.position) with
      | some incident => exact hsame.wrote
      | none =>
          dsimp only
          have hcompared := @compareEvidence_quiet texts sourceId input
            (f.store.journal.opened sourceId) (f.corrected (sourceId, input.position)) s₁ hknown
          rcases hresult : compareEvidence texts sourceId input (f.store.journal.opened sourceId)
            (f.corrected (sourceId, input.position)) s₁ with ⟨problem, corrected, s₂⟩
          rw [hresult] at hcompared
          cases problem with
          | some problem => exact hsame.wrote.trans hcompared
          | none =>
              apply (hsame.wrote.trans hcompared).trans
              exact checkPassed_quiet input.position fun incident hmem =>
                hcompared.known_quiet (hknown incident hmem)

theorem checkRecord_wrote (sourceId : String) (input : Delivery) (f : FailureService) :
    Wrote QuietChange f.store (f.checkRecord texts sourceId input).store := by
  have hchecked := @positionProblem_wrote texts sourceId input f
  unfold checkRecord
  rcases hproblem : positionProblem texts sourceId input f with ⟨problem, f'⟩
  rw [hproblem] at hchecked
  cases problem with
  | none => exact hchecked
  | some problem => exact hchecked.trans (sourceHeld_wrote sourceId input.position f')

/-! ### The disposition and what follows it -/

/-- The outcome of a write is applied to the incident of the snapshot, in the state that it is
in. -/
theorem recordQuarantine_wrote
    {C : Journal → Journal → Prop} (hknown : s.journal.Known record) {patch : IncidentPatch}
    {event : IncidentEventName} {detail : String}
    (hC : ∀ {j : Journal} {current : IncidentRecord} (event : IncidentEvent),
      j.incidents.get current.failureId = some current → current.failureId = record.failureId →
        C j (j.record (patched patch event.time current) event)) :
    Wrote C s (recordQuarantine record patch event detail s).2 ∧
      ∀ updated, (recordQuarantine record patch event detail s).1 = some updated →
        (recordQuarantine record patch event detail s).2.journal.Known updated ∧
          ∃ time, updated = patched patch time record := by
  have hwrote : Wrote C s (s.update record patch event detail).2 :=
    update_wrote hknown fun time hget => hC _ hget rfl
  have hkept := update_known hknown patch event detail
  obtain ⟨s₁, hupdate, hsame⟩ | ⟨time, s₁, hupdate, -, -, -, -⟩ :=
    update_cases hknown patch event detail
  · unfold recordQuarantine
    rw [hupdate] at hwrote ⊢
    dsimp only at hwrote ⊢
    rw [if_neg (not_not.mpr rfl)]
    obtain ⟨message, s₂, hread, hsame₂⟩ | ⟨s₂, hread, hsame₂⟩ :=
      read_cases (fun j => j.incidents.get record.failureId) s₁
    · rw [hread]
      exact ⟨hwrote.trans hsame₂.wrote, by simp⟩
    rw [hread]
    cases hfound : s₁.journal.incidents.get record.failureId with
    | none => exact ⟨hwrote.trans hsame₂.wrote, by simp⟩
    | some current =>
        dsimp only
        split
        · have hid : current.failureId = record.failureId := InsertionMap.key_of_get hfound
          have hcurrent : s₂.journal.Known current := by
            rw [hsame₂.journal]
            exact Journal.known_of_mem (InsertionMap.mem_of_get hfound)
          refine ⟨(hwrote.trans hsame₂.wrote).trans ?_, by simp⟩
          exact update_wrote hcurrent fun time hget => hC _ hget hid
        · exact ⟨hwrote.trans hsame₂.wrote, by simp⟩
  · unfold recordQuarantine
    rw [hupdate] at hwrote hkept ⊢
    dsimp only at hwrote hkept ⊢
    have hchanged : patched patch time record ≠ record := by
      intro heq
      have hrevision := congrArg IncidentRecord.revision heq
      exact absurd hrevision (Nat.succ_ne_self _)
    rw [if_pos hchanged]
    refine ⟨hwrote, ?_⟩
    rintro updated ⟨⟩
    exact ⟨hkept, time, rfl⟩

/-- The creation time of the boundary that the incident names. -/
def ownTime (j : Journal) (record : IncidentRecord) : Option String :=
  record.boundaryId.bind fun boundaryId => (j.boundaries.get boundaryId).map (·.createdAt)

theorem ownAdvance_cases (record : IncidentRecord) (s : StoreAccess) :
    (∃ message s', ownAdvance record s = (.error message, s') ∧ Same s s') ∨
      ∃ s', ownAdvance record s = (.ok (ownTime s.journal record), s') ∧ Same s s' := by
  unfold ownAdvance ownTime
  cases record.boundaryId with
  | none => exact .inr ⟨s, rfl, .rfl⟩
  | some boundaryId => exact read_cases (fun j => (j.boundaries.get boundaryId).map (·.createdAt)) s

/-- The circuit lets an advance past the incident go on at a time: it is closed, and fewer
advances than the limit are recent. -/
structure Admits (settings : ServiceSettings) (sourceId : String) (record : IncidentRecord)
    (j : Journal) (now : ℕ) : Prop where
  closed : (j.circuits sourceId).state = .closed
  recent : (recentAdvances now (settings.source sourceId).policy.automaticAdvanceLimit.windowMs
    (ownTime j record) (j.circuits sourceId).advances).length <
      (settings.source sourceId).policy.automaticAdvanceLimit.incidents

theorem checkCircuit_wrote
    {answer : PublishAnswer} {written : IncidentRecord} {policy : FailurePolicy}
    {summary : EvidenceSummary} {evidence : RawEvidence} {known : Option QuarantineOutcome}
    (hevent : e = .written sourceId answer)
    (htask : f.tasks sourceId = some (.writing written policy summary evidence known))
    (record : IncidentRecord) (s : StoreAccess) :
    Wrote (Change texts f e) s (checkCircuit settings sourceId record s).2 ∧
      ((checkCircuit settings sourceId record s).1 = .ok true →
        Same s (checkCircuit settings sourceId record s).2 ∧
          ∃ moment, GoesOn s moment ∧ GoesOn moment (checkCircuit settings sourceId record s).2 ∧
            Admits settings sourceId record s.journal moment.now) := by
  unfold checkCircuit
  dsimp only
  obtain ⟨message, s₁, hread, hsame⟩ | ⟨s₁, hread, hsame⟩ :=
    read_cases (fun j => j.circuits sourceId) s
  · rw [hread]
    exact ⟨hsame.wrote, by simp⟩
  rw [hread]
  dsimp only
  have hclock := s₁.dateNow_same
  have hreading := s₁.dateNow_now
  rcases hnow : s₁.dateNow with ⟨now, s₂⟩
  rw [hnow] at hclock hreading
  dsimp only at hclock hreading ⊢
  have hsame₂ := hsame.trans hclock
  obtain ⟨message, s₃, hown, hsame₃⟩ | ⟨s₃, hown, hsame₃⟩ := ownAdvance_cases record s₂
  · rw [hown]
    exact ⟨(hsame₂.trans hsame₃).wrote, by simp⟩
  rw [hown, hsame₂.journal]
  dsimp only
  generalize hrecent : recentAdvances now
    (settings.source sourceId).policy.automaticAdvanceLimit.windowMs (ownTime s.journal record)
    (s.journal.circuits sourceId).advances = recent
  have hsame₄ := hsame₂.trans hsame₃
  split
  · exact ⟨hsame₄.wrote, by simp⟩
  rename_i hclosed
  split
  · rename_i hfew
    refine ⟨hsame₄.wrote, fun _ => ⟨hsame₄, s₂, hsame₂.clock, hsame₃.clock, ?_, ?_⟩⟩
    · cases hstate : (s.journal.circuits sourceId).state with
      | closed => rfl
      | opened => exact absurd hstate hclosed
    · rw [← hreading, hrecent]
      exact hfew
  · have htime := s₃.nowIso_same
    rcases hopenedAt : s₃.nowIso with ⟨openedAt, s₄⟩
    rw [hopenedAt] at htime
    dsimp only at htime ⊢
    have hsame₅ := hsame₄.trans htime
    obtain ⟨refusal, s₅, hcall, hsame'⟩ | ⟨reply, s₅, hcall, hevidence, hlater, haccepted⟩ :=
      call_cases (.updateCircuit sourceId (s.journal.circuits sourceId).revision
        { state := .opened
          advances := recent
          openedAt := some openedAt
          reason := some (toString recent.length ++ " distinct automatic advances within " ++
            toString (settings.source sourceId).policy.automaticAdvanceLimit.windowMs ++
              " ms") }) s₄
    · rw [hcall]
      exact ⟨(hsame₅.trans hsame').wrote, by simp⟩
    · rw [hcall]
      refine ⟨hsame₅.wrote.trans ?_, by simp⟩
      exact ⟨.single (.circuitOpened hevent htask rfl haccepted), hevidence, hlater⟩

/-- What `continueRecord` leaves waits for a guard of the incident, which the circuit let go
on. -/
def Guards (settings : ServiceSettings) (sourceId : String) (record : IncidentRecord)
    (s s' : StoreAccess) (task : Task) : Prop :=
  ∃ pending prior, task = .guarding pending prior ∧ pending.failureId = record.failureId ∧
    s'.journal.incidents.get pending.failureId = some pending ∧
      pending.recovery = .guardPending ∧
        ∃ moment, GoesOn s moment ∧ GoesOn moment s' ∧
          Admits settings sourceId pending s'.journal moment.now

theorem holdOnClusterMismatch_false
    (h : holdOnClusterMismatch settings sourceId record s = (false, s')) : s' = s := by
  unfold holdOnClusterMismatch at h
  cases hmismatch : settings.clusterMismatch sourceId record with
  | none =>
      rw [hmismatch] at h
      exact (Prod.mk.inj h).2.symm
  | some mismatch =>
      rw [hmismatch] at h
      cases (Prod.mk.inj h).1

theorem continueRecord_wrote
    {answer : PublishAnswer} {written : IncidentRecord} {policy : FailurePolicy}
    {summary : EvidenceSummary} {evidence : RawEvidence} {known : Option QuarantineOutcome}
    (hevent : e = .written sourceId answer)
    (htask : f.tasks sourceId = some (.writing written policy summary evidence known))
    (hknown : s.journal.Known record) :
    Wrote (Change texts f e) s (continueRecord settings sourceId record s).2 ∧
      ∀ task, (continueRecord settings sourceId record s).1 = some task →
        Guards settings sourceId record s (continueRecord settings sourceId record s).2 task := by
  obtain ⟨hchecked, hcircuit⟩ := @checkCircuit_wrote texts f e settings sourceId answer written policy
    summary evidence known hevent htask record s
  unfold continueRecord
  rcases hcheck : checkCircuit settings sourceId record s with ⟨checked, s₁⟩
  rw [hcheck] at hchecked hcircuit
  have hknown₁ := Wrote.known_change hchecked hknown
  have hheld : ∀ (s₂ : StoreAccess) (detail : String), Same s₁ s₂ →
      Wrote (Change texts f e) s (s₂.update record { recovery := some .held } .held detail).2 := by
    intro s₂ detail hsame
    apply (hchecked.trans hsame.wrote).trans
    apply Wrote.of_quiet
    apply update_quiet
    · rw [hsame.journal]
      exact hknown₁
    · exact quietPatch_recovery record (.inl rfl) _ _
  cases checked with
  | error message => exact ⟨hheld _ _ (Same.rfl.error (some message)), by simp⟩
  | ok closed =>
      cases closed with
      | false => exact ⟨hheld s₁ _ .rfl, by simp⟩
      | true =>
          dsimp only
          split
          · exact ⟨hheld s₁ _ .rfl, by simp⟩
          · obtain ⟨message, s₂, hread, hsame⟩ | ⟨s₂, hread, hsame⟩ :=
              read_cases (fun j => j.boundary sourceId) s₁
            · rw [hread]
              exact ⟨hchecked.trans (hsame.error (some message)).wrote, by simp⟩
            rw [hread]
            dsimp only
            have hknown₂ : s₂.journal.Known record := by
              rw [hsame.journal]
              exact hknown₁
            have hmismatch := @holdOnClusterMismatch_quiet settings sourceId s₂ record hknown₂
            rcases hhold : holdOnClusterMismatch settings sourceId record s₂ with ⟨holds, s₃⟩
            rw [hhold] at hmismatch
            have hwrote₃ : Wrote (Change texts f e) s s₃ :=
              (hchecked.trans hsame.wrote).trans (Wrote.of_quiet hmismatch)
            have hknown₃ := hmismatch.known_quiet hknown₂
            cases holds with
            | true => exact ⟨hwrote₃, by simp⟩
            | false =>
                dsimp only
                obtain ⟨hsame₁, moment, hbefore, hlater, hadmits⟩ := hcircuit rfl
                have hjournal₃ : s₃.journal = s.journal := by
                  rw [holdOnClusterMismatch_false hhold, hsame.journal, hsame₁.journal]
                have hpending : Wrote (Change texts f e) s₃
                    (s₃.update record { recovery := some .guardPending } .held
                      "running the recovery guard").2 :=
                  update_wrote hknown₃ fun time hget => .patched _ hget (.guardPending hevent)
                obtain ⟨s₄, hupdate, hsame₄⟩ | ⟨time, s₄, hupdate, -, hlater₄, -, hjournal⟩ :=
                  update_cases hknown₃ { recovery := some .guardPending } .held
                    "running the recovery guard"
                · rw [hupdate] at hpending ⊢
                  dsimp only at hpending ⊢
                  rw [if_pos rfl]
                  exact ⟨hwrote₃.trans hpending, by simp⟩
                · rw [hupdate] at hpending ⊢
                  dsimp only at hpending ⊢
                  split
                  · exact ⟨hwrote₃.trans hpending, by simp⟩
                  · refine ⟨hwrote₃.trans hpending, ?_⟩
                    rintro task ⟨⟩
                    refine ⟨_, _, rfl, rfl, ?_, rfl, moment, hbefore, ?_, ?_⟩
                    · rw [hjournal]
                      exact Journal.get_record _ ⟨time, .held, _, none⟩
                    · have hsame₃ : GoesOn s₂ s₃ := hmismatch.clock
                      exact ((hlater.trans hsame.clock).trans hsame₃).trans hlater₄
                    · rw [← hjournal₃] at hadmits
                      constructor
                      · rw [hjournal]
                        exact hadmits.closed
                      · rw [hjournal]
                        exact hadmits.recent

theorem writeSettled_wrote
    {answer : PublishAnswer} {policy : FailurePolicy} {summary : EvidenceSummary}
    {evidence : RawEvidence} {known : Option QuarantineOutcome}
    (hevent : e = .written sourceId answer)
    (htask : f.tasks sourceId = some (.writing record policy summary evidence known))
    (hknown : s.journal.Known record) :
    Wrote (Change texts f e) s (writeSettled settings sourceId record policy summary
        (known.getD answer.outcome) s).2 ∧
      ∀ task, (writeSettled settings sourceId record policy summary
          (known.getD answer.outcome) s).1 = some task →
        Guards settings sourceId record s (writeSettled settings sourceId record policy summary
          (known.getD answer.outcome) s).2 task := by
  have hquiet : ∀ (quarantine : QuarantineState) (event : IncidentEventName) (detail : String),
      quarantine ≠ .acknowledged → Wrote (Change texts f e) s
        (recordQuarantine record { quarantine := some quarantine } event detail s).2 := by
    intro quarantine event detail hne
    apply (@recordQuarantine_wrote s record _ hknown _ event detail _).1
    intro j current event hget hid
    exact .patched event hget (.quiet (quietPatch_quarantine current hne))
  unfold writeSettled
  cases hanswer : known.getD answer.outcome with
  | unknown reason => exact ⟨hquiet .unknown _ reason (by simp), by simp⟩
  | failed reason => exact ⟨hquiet .failed _ _ (by simp), by simp⟩
  | acknowledged coordinates =>
      dsimp only
      obtain ⟨hwrote, hupdated⟩ := @recordQuarantine_wrote s record (Change texts f e) hknown
        { quarantine := some .acknowledged, quarantineCoordinates := some coordinates } .quarantined
        (quarantinedDetail summary coordinates)
        fun event hget hid => .patched event hget (.acknowledged hevent htask hanswer hid)
      rcases hrecorded : recordQuarantine record
        { quarantine := some .acknowledged, quarantineCoordinates := some coordinates } .quarantined
        (quarantinedDetail summary coordinates) s with ⟨quarantined, s₁⟩
      rw [hrecorded] at hwrote hupdated
      dsimp only at hwrote hupdated ⊢
      split
      · rename_i updated
        obtain ⟨hknown₁, time, hpatched⟩ := hupdated updated rfl
        obtain ⟨hcontinued, hguards⟩ :=
          @continueRecord_wrote texts f e settings sourceId s₁ updated answer record _ summary
            evidence known hevent htask hknown₁
        refine ⟨hwrote.trans hcontinued, ?_⟩
        intro task htask
        obtain ⟨pending, prior, rfl, hid, hget, hrecovery, moment, hbefore, hlater, hadmits⟩ :=
          hguards task htask
        refine ⟨pending, prior, rfl, ?_, hget, hrecovery, moment, hwrote.clock.trans hbefore, hlater,
          hadmits⟩
        rw [hid, hpatched]
        rfl
      · exact ⟨hwrote, by simp⟩

/-! ### The guarded advance -/

theorem holdOnClusterMismatch_wrote (hknown : s.journal.Known record) :
    Wrote (Change texts f e) s (holdOnClusterMismatch settings sourceId record s).2 :=
  Wrote.of_quiet (holdOnClusterMismatch_quiet hknown)

/-- The advance past the incident was prepared in the store, at a time that was read
meanwhile. -/
structure Prepares (s s' : StoreAccess) (record prepared : IncidentRecord) (boundaryId : String) :
    Prop where
  current : s.journal.incidents.get record.failureId = some record
  called : ∃ input reply moment, s.journal.prepareAdvance input = .ok (reply, s'.journal) ∧
    input.failureId = record.failureId ∧ input.boundaryId = boundaryId ∧
      input.time = IsoTime.toISOString moment.now ∧ GoesOn s moment ∧ GoesOn moment s' ∧
        prepared = (advancedIncident input record).1
  evidence : s'.evidence = s.evidence

section Prepares

variable {prepared : IncidentRecord} {boundaryId : String}

theorem Prepares.of_same {s₀ : StoreAccess} (h : Prepares s s' record prepared boundaryId)
    (hsame : Same s₀ s) : Prepares s₀ s' record prepared boundaryId := by
  obtain ⟨hcurrent, ⟨input, reply, moment, hcall, hid, hboundary, htime, hlater, hlater', hprepared⟩,
    hevidence⟩ := h
  rw [hsame.journal] at hcurrent hcall
  exact ⟨hcurrent, ⟨input, reply, moment, hcall, hid, hboundary, htime, hsame.clock.trans hlater,
    hlater', hprepared⟩, hevidence.trans hsame.evidence⟩

theorem Prepares.clock (h : Prepares s s' record prepared boundaryId) : GoesOn s s' := by
  obtain ⟨input, reply, moment, -, -, -, -, hlater, hlater', -⟩ := h.called
  exact hlater.trans hlater'

theorem Prepares.id (h : Prepares s s' record prepared boundaryId) :
    prepared.failureId = record.failureId := by
  obtain ⟨input, reply, moment, -, -, -, -, -, -, rfl⟩ := h.called
  rfl

/-- The incident is stored as it was prepared, and so is its boundary. -/
theorem Prepares.stored (h : Prepares s s' record prepared boundaryId) :
    s'.journal.incidents.get prepared.failureId = some prepared ∧
      Advancing s'.journal prepared boundaryId := by
  obtain ⟨input, reply, moment, hcall, hid, rfl, -, -, -, rfl⟩ := h.called
  obtain ⟨text, existing, -, hfound, hopen, -, -, -, -, -, hjournal⟩ :=
    Journal.prepareAdvance_ok hcall
  rw [hid] at hfound
  obtain rfl : record = existing := Option.some.inj (h.current.symm.trans hfound)
  have hget : s'.journal.incidents.get record.failureId =
      some (advancedIncident input record).1 := by
    rw [hjournal]
    exact InsertionMap.get_set_self s.journal.incidents _
  refine ⟨hget, Journal.known_of_get hget, rfl, hopen, rfl, ?_⟩
  rw [hjournal]
  exact ⟨_, InsertionMap.get_set_self _ (nextBoundary _ _ _ _)⟩

theorem Prepares.wrote
    {answer : HandlerAnswer} {prior : Option StoredBoundary}
    (h : Prepares s s' record prepared boundaryId) (hevent : e = .guarded sourceId answer boundaryId)
    (htask : f.tasks sourceId = some (.guarding record prior)) :
    Wrote (Change texts f e) s s' := by
  obtain ⟨input, reply, moment, hcall, hid, rfl, -⟩ := h.called
  exact ⟨.single (.prepared hevent htask hid h.current hcall), h.evidence, h.clock⟩

end Prepares

theorem prepareRecord_cases
    (boundaryId context : String) (prior : Option StoredBoundary) (result : GuardResult)
    (hknown : s.journal.Known record) :
    (∃ s', prepareRecord record boundaryId prior context result s = (none, s') ∧
        Wrote QuietChange s s') ∨
      ∃ prepared s', prepareRecord record boundaryId prior context result s = (some prepared, s') ∧
        Prepares s s' record prepared boundaryId := by
  unfold prepareRecord
  have hclock := s.nowIso_same
  have hreading := s.nowIso_now
  rcases htime : s.nowIso with ⟨time, s₁⟩
  rw [htime] at hclock hreading
  dsimp only at hclock hreading ⊢
  obtain ⟨refusal, s₂, hcall, hsame⟩ | ⟨reply, s₂, hcall, hevidence, hlater, haccepted⟩ :=
    call_cases (.prepareAdvance ⟨record.failureId, record.revision, boundaryId, .ok context,
      prior.map (·.boundaryId), result, time⟩) s₁
  · rw [hcall]
    refine .inl ⟨_, rfl, ?_⟩
    split
    · exact (hclock.trans hsame).wrote.trans (releaseGuard_quiet _ _ _)
    · exact (hclock.trans (hsame.error (some refusal.message))).wrote.trans
        (releaseGuard_quiet _ _ _)
  · rw [hcall]
    rw [hclock.journal] at haccepted
    have hprepared : s.journal.prepareAdvance ⟨record.failureId, record.revision, boundaryId,
        .ok context, prior.map (·.boundaryId), result, time⟩ = .ok (reply, s₂.journal) := haccepted
    obtain ⟨text, existing, -, hfound, -, hrevision, -, -, -, hreply, -⟩ :=
      Journal.prepareAdvance_ok hprepared
    obtain ⟨current, hget, -, hsnapshot⟩ := hknown
    obtain rfl : current = existing := Option.some.inj (hget.symm.trans hfound)
    obtain rfl := hsnapshot hrevision
    rw [hreply] at hprepared ⊢
    exact .inr ⟨_, _, rfl, hget, ⟨_, _, s₁, hprepared, rfl, rfl, hreading, hclock.clock, hlater, rfl⟩,
      hevidence.trans hclock.evidence⟩

/-- After the guard nothing is carried further, or the advance is prepared. -/
theorem guardSettled_cases
    (prior : Option StoredBoundary) (stopping : Bool) (answer : HandlerAnswer) (boundaryId : String)
    (hknown : s.journal.Known record) :
    (∃ s', guardSettled settings texts sourceId record prior stopping answer boundaryId s =
          (none, s') ∧ Wrote QuietChange s s') ∨
      ∃ prepared context s',
        guardSettled settings texts sourceId record prior stopping answer boundaryId s =
            (some (prepared, context), s') ∧ Prepares s s' record prepared boundaryId := by
  unfold guardSettled
  have hclock := s.nowIso_same
  rcases htime : s.nowIso with ⟨time, s₁⟩
  rw [htime] at hclock
  dsimp only at hclock ⊢
  split
  · exact .inl ⟨_, rfl, hclock.wrote.trans (releaseGuard_quiet _ _ _)⟩
  obtain ⟨message, s₂, hread, hsame⟩ | ⟨s₂, hread, hsame⟩ :=
    read_cases (fun j => j.incidents.get record.failureId) s₁
  · rw [hread]
    exact .inl ⟨_, rfl, (hclock.trans hsame).wrote⟩
  rw [hread, hclock.journal]
  have hsame₂ := hclock.trans hsame
  cases hfound : s.journal.incidents.get record.failureId with
  | none => exact .inl ⟨_, rfl, hsame₂.wrote⟩
  | some current =>
      dsimp only
      split
      · exact .inl ⟨_, rfl, hsame₂.wrote⟩
      rename_i hunchanged
      have hcurrent : current = record := by
        obtain ⟨existing, hget, -, hsnapshot⟩ := hknown
        obtain rfl : existing = current := Option.some.inj (hget.symm.trans hfound)
        exact hsnapshot (by tauto)
      subst hcurrent
      have hknown₂ : s₂.journal.Known current := by
        rw [hsame₂.journal]
        exact hknown
      cases runGuard texts answer time with
      | refused decision result =>
          refine .inl ⟨_, rfl, hsame₂.wrote.trans ?_⟩
          apply update_quiet hknown₂
          apply quietPatch_recovery
          by_cases hhold : decision = .hold
          · simp [hhold]
          · simp [hhold]
      | recoverable context result =>
          dsimp only
          have hmismatch := @holdOnClusterMismatch_quiet settings sourceId s₂ current hknown₂
          rcases hhold : holdOnClusterMismatch settings sourceId current s₂ with ⟨holds, s₃⟩
          rw [hhold] at hmismatch
          cases holds with
          | true => exact .inl ⟨_, rfl, hsame₂.wrote.trans hmismatch⟩
          | false =>
              obtain rfl := holdOnClusterMismatch_false hhold
              dsimp only
              obtain ⟨s₄, hprepare, hquiet⟩ | ⟨prepared, s₄, hprepare, hprepares⟩ :=
                prepareRecord_cases boundaryId context prior result hknown₂
              · rw [hprepare]
                exact .inl ⟨_, rfl, hsame₂.wrote.trans hquiet⟩
              · rw [hprepare]
                exact .inr ⟨_, _, _, rfl, hprepares.of_same hsame₂⟩

theorem confirmAdvance_wrote
    {boundaryId : String} {committed : Option ℕ} (hevent : e = .confirm sourceId)
    (htask : f.tasks sourceId = some (.confirming record boundaryId committed))
    (hadvancing : Advancing s.journal record boundaryId) :
    Wrote (Change texts f e) s (confirmAdvance record boundaryId s) := by
  apply update_wrote hadvancing.known
  intro time hget
  refine .patched _ hget
    (.advanced _ (.inl ⟨sourceId, boundaryId, committed, hevent, htask⟩) ?_)
  simp [isUnresolved, hadvancing.progress]

theorem advanceNotHeld_wrote
    {boundaryId : String} (hevent : e = .advanced sourceId .notHeld)
    (htask : f.tasks sourceId = some (.advancing record boundaryId))
    (hadvancing : Advancing s.journal record boundaryId) :
    Wrote (Change texts f e) s (advanceNotHeld record s) := by
  apply update_wrote hadvancing.known
  intro time hget
  refine .patched _ hget (.returned (.inl ⟨sourceId, boundaryId, hevent, htask⟩) ?_)
  simp [isUnresolved, hadvancing.progress]

theorem update_uncertain
    (hknown : s.journal.Known record) (hunresolved : isUnresolved record)
    {diagnosis : Option String} {event : IncidentEventName} {detail : String} :
    Wrote (Change texts f e) s (s.update record
      { progress := some .uncertain, diagnosis := diagnosis } event detail).2 :=
  update_wrote hknown fun _ hget => .patched _ hget (.uncertain diagnosis hunresolved)

/-! ### The start of a process -/

section Start

variable {offsets : String → String → ℕ → Except String (Option ℕ)}

theorem reconcile_wrote
    (hevent : e = .restart settings offsets) (hknown : s.journal.Known record)
    (hsource : record.sourceId = sourceId) (hunresolved : isUnresolved record) :
    Wrote (Change texts f e) s (reconcile settings offsets sourceId record s) := by
  have hreturned : ∀ detail : String, Wrote (Change texts f e) s
      (s.update record { progress := some .held } .held detail).2 := by
    intro detail
    apply update_wrote hknown
    intro time hget
    exact .patched _ hget (.returned (.inr ⟨settings, offsets, hevent⟩) hunresolved)
  unfold reconcile
  cases settings.clusterMismatch sourceId record with
  | some mismatch => exact update_uncertain hknown hunresolved
  | none =>
      cases hposition : record.position with
      | fixture index => exact hreturned _
      | kafka topic partition offset =>
          dsimp only
          cases hoffsets : offsets sourceId topic partition with
          | error name => exact update_uncertain hknown hunresolved
          | ok committed =>
              cases committed with
              | none => exact hreturned _
              | some committed =>
                  dsimp only
                  split
                  · rename_i hnext
                    apply update_wrote hknown
                    intro time hget
                    refine .patched _ hget (.advanced _ (.inr ⟨settings, offsets, topic, partition,
                      offset, hevent, hposition, ?_⟩) hunresolved)
                    rw [hsource, hoffsets, hnext]
                  · split
                    · exact hreturned _
                    · exact update_uncertain hknown hunresolved

theorem releaseLeftGuard_quiet (hknown : s.journal.Known record) :
    Wrote QuietChange s (releaseLeftGuard record s).2 ∧
      (releaseLeftGuard record s).2.journal.Known (releaseLeftGuard record s).1 := by
  unfold releaseLeftGuard
  split
  · exact ⟨update_quiet hknown (quietPatch_recovery record (.inl rfl) _ _),
      update_known hknown _ _ _⟩
  · exact ⟨.rfl, hknown⟩

theorem releaseLeftRetry_quiet (hknown : s.journal.Known record) :
    Wrote QuietChange s (releaseLeftRetry record s).2 ∧
      (releaseLeftRetry record s).2.journal.Known (releaseLeftRetry record s).1 := by
  unfold releaseLeftRetry
  split
  · rename_i hretrying
    have hat : atPosition record.progress := by
      rw [hretrying.2]
      rfl
    exact ⟨update_quiet hknown (quietPatch_progress hat rfl), update_known hknown _ _ _⟩
  · exact ⟨.rfl, hknown⟩

theorem holdMismatchedAtStart_quiet (hknown : s.journal.Known record) :
    Wrote QuietChange s (holdMismatchedAtStart settings sourceId record s) := by
  unfold holdMismatchedAtStart
  split
  · split
    · exact .rfl
    · split
      · exact update_quiet hknown (quietPatch_diagnosis record _)
      · exact .rfl
  · exact .rfl

theorem reviveIncident_wrote
    (hevent : e = .restart settings offsets) (hknown : s.journal.Known record)
    (hsource : record.sourceId = sourceId) :
    Wrote (Change texts f e) s (reviveIncident settings offsets sourceId record s).2 := by
  unfold reviveIncident
  dsimp only
  generalize hreconciled : (if isUnresolved record then reconcile settings offsets sourceId record s
    else s) = s₁
  have hwrote₁ : Wrote (Change texts f e) s s₁ := by
    rw [← hreconciled]
    split
    · rename_i hunresolved
      exact reconcile_wrote hevent hknown hsource hunresolved
    · exact .rfl
  obtain ⟨message, s₂, hread, hsame⟩ | ⟨s₂, hread, hsame⟩ :=
    read_cases (fun j => j.incidents.get record.failureId) s₁
  · rw [hread]
    exact hwrote₁.trans hsame.wrote
  rw [hread]
  have hwrote₂ := hwrote₁.trans hsame.wrote
  cases hfound : s₁.journal.incidents.get record.failureId with
  | none => exact hwrote₂
  | some current =>
      have hcurrent : s₂.journal.Known current := by
        rw [hsame.journal]
        exact Journal.known_of_mem (InsertionMap.mem_of_get hfound)
      dsimp only
      obtain ⟨hguard, hknown₃⟩ := releaseLeftGuard_quiet hcurrent
      obtain ⟨hretry, hknown₄⟩ := releaseLeftRetry_quiet hknown₃
      have hheld := @holdMismatchedAtStart_quiet settings sourceId _ _ hknown₄
      exact hwrote₂.trans (Wrote.of_quiet ((hguard.trans hretry).trans hheld))

theorem reviveIncidents_wrote
    (hevent : e = .restart settings offsets) (incidents : List IncidentRecord) (s : StoreAccess)
    (h : ∀ incident ∈ incidents, s.journal.Known incident ∧ incident.sourceId = sourceId) :
    Wrote (Change texts f e) s (reviveIncidents settings offsets sourceId incidents s).2 := by
  induction incidents generalizing s with
  | nil => exact .rfl
  | cons incident rest ih =>
      obtain ⟨hknown, hsource⟩ := h incident List.mem_cons_self
      have hrevived := @reviveIncident_wrote texts f e settings sourceId s incident offsets hevent
        hknown hsource
      unfold reviveIncidents
      rcases hresult : reviveIncident settings offsets sourceId incident s with ⟨done, s₁⟩
      rw [hresult] at hrevived
      cases done with
      | false => exact hrevived
      | true =>
          apply hrevived.trans
          apply ih
          intro other hother
          obtain ⟨hother, hsource⟩ := h other (List.mem_cons_of_mem _ hother)
          exact ⟨Wrote.known_change hrevived hother, hsource⟩

theorem startSource_wrote (hevent : e = .restart settings offsets) (g : FailureService) :
    Wrote (Change texts f e) g.store (startSource settings offsets sourceId g).2.store ∧
      (startSource settings offsets sourceId g).2.tasks = g.tasks := by
  unfold startSource
  obtain ⟨message, s₁, hread, hsame⟩ | ⟨s₁, hread, hsame⟩ :=
    read_cases (fun j => j.opened sourceId) g.store
  · rw [hread]
    exact ⟨hsame.wrote, rfl⟩
  rw [hread]
  dsimp only
  split
  · exact ⟨hsame.wrote, rfl⟩
  obtain ⟨message, s₂, hread₂, hsame₂⟩ | ⟨s₂, hread₂, hsame₂⟩ :=
    read_cases (fun j => j.boundary sourceId) s₁
  · rw [hread₂]
    exact ⟨(hsame.trans hsame₂).wrote, rfl⟩
  rw [hread₂]
  dsimp only
  have hrevived := @reviveIncidents_wrote texts f e settings sourceId offsets hevent
    (g.store.journal.opened sourceId) s₂ (by
      intro incident hmem
      rw [(hsame.trans hsame₂).journal]
      exact ⟨Journal.known_of_opened hmem, (mem_opened.mp hmem).2.1⟩)
  rcases hresult : reviveIncidents settings offsets sourceId (g.store.journal.opened sourceId) s₂ with
    ⟨done, s₃⟩
  rw [hresult] at hrevived
  have hwrote₃ : Wrote (Change texts f e) g.store s₃ := (hsame.trans hsame₂).wrote.trans hrevived
  cases done with
  | false => exact ⟨hwrote₃, rfl⟩
  | true =>
      dsimp only
      obtain ⟨message, s₄, hread₄, hsame₄⟩ | ⟨s₄, hread₄, hsame₄⟩ :=
        read_cases (fun j => j.opened sourceId) s₃
      · rw [hread₄]
        exact ⟨hwrote₃.trans hsame₄.wrote, rfl⟩
      · rw [hread₄]
        exact ⟨hwrote₃.trans hsame₄.wrote, rfl⟩

theorem startSources_wrote
    (hevent : e = .restart settings offsets) (sources : List String) (g : FailureService) :
    Wrote (Change texts f e) g.store (startSources settings offsets sources g).2.store ∧
      (startSources settings offsets sources g).2.tasks = g.tasks := by
  induction sources generalizing g with
  | nil => exact ⟨.rfl, rfl⟩
  | cons sourceId rest ih =>
      obtain ⟨hwrote, htasks⟩ := @startSource_wrote texts f e settings sourceId offsets hevent g
      unfold startSources
      rcases hresult : startSource settings offsets sourceId g with ⟨done, g₁⟩
      rw [hresult] at hwrote htasks
      cases done with
      | false => exact ⟨hwrote, htasks⟩
      | true =>
          obtain ⟨hrest, hrestTasks⟩ := ih g₁
          exact ⟨hwrote.trans hrest, hrestTasks.trans htasks⟩

theorem restart_wrote (hevent : e = .restart settings offsets) (s : StoreAccess) :
    Wrote (Change texts f e) s (restart settings offsets s).store ∧
      (restart settings offsets s).tasks = fun _ => none := by
  unfold restart
  have hclock := s.nowIso_same
  rcases htime : s.nowIso with ⟨time, s₁⟩
  rw [htime] at hclock
  dsimp only at hclock ⊢
  obtain ⟨refusal, s₂, hcall, hsame⟩ | ⟨reply, s₂, hcall, hevidence, hlater, haccepted⟩ :=
    call_cases (.claim "" (settings.sources.map fun sourceId =>
      (⟨sourceId, (settings.source sourceId).generation, (settings.source sourceId).kind⟩ :
        SourceIdentity)) time) s₁
  · rw [hcall]
    exact ⟨(hclock.trans hsame).wrote, rfl⟩
  · rw [hcall]
    have hclaimed : Wrote (Change texts f e) s₁ s₂ := by
      refine ⟨?_, hevidence, hlater⟩
      have hjournal := congrArg Prod.snd (Except.ok.inj haccepted)
      dsimp only at hjournal
      rw [← hjournal]
      exact .single (.claimed time _ hevent)
    obtain ⟨hstarted, htasks⟩ := @startSources_wrote texts f e settings offsets hevent
      settings.sources (fresh settings s₂)
    exact ⟨(hclock.wrote.trans hclaimed).trans hstarted, htasks⟩

end Start

/-! ### Boundaries and the circuit -/

theorem dropRetired_wrote (sourceId : String) (f' : FailureService) :
    Same f'.store (f'.dropRetired sourceId).store ∧
      (f'.dropRetired sourceId).tasks = f'.tasks := by
  unfold dropRetired
  obtain ⟨message, s₁, hread, hsame⟩ | ⟨s₁, hread, hsame⟩ :=
    read_cases (fun j => j.boundary sourceId) f'.store
  · rw [hread]
    exact ⟨hsame, rfl⟩
  · rw [hread]
    cases f'.store.journal.boundary sourceId with
    | none => exact ⟨hsame, rfl⟩
    | some boundary => exact ⟨hsame, rfl⟩

/-- A retirement, whoever asks for it. -/
theorem retireBoundary_wrote
    {f' f'' : FailureService} {boundaryId time : String} {revision : ℕ} {retirement : Retirement}
    (hsame : Same f'.store s)
    (h : f'' = match s.call (.retireBoundary boundaryId revision retirement time) with
      | (.error _, s) => { f' with store := s }
      | (.ok _, s) => { f' with store := s }.dropRetired sourceId) :
    Wrote (Change texts f e) f'.store f''.store ∧ f''.tasks = f'.tasks := by
  subst h
  obtain ⟨refusal, s₂, hcall, hsame₂⟩ | ⟨reply, s₂, hcall, hevidence, hlater, haccepted⟩ :=
    call_cases (.retireBoundary boundaryId revision retirement time) s
  · rw [hcall]
    exact ⟨(hsame.trans hsame₂).wrote, rfl⟩
  · rw [hcall]
    have hretired : Wrote (Change texts f e) s s₂ := ⟨.single (.retired haccepted), hevidence, hlater⟩
    obtain ⟨hdropped, htasks⟩ := dropRetired_wrote sourceId { f' with store := s₂ }
    exact ⟨(hsame.wrote.trans hretired).trans hdropped.wrote, htasks⟩

theorem retireByOperator_wrote
    (boundaryId : String) (expectedRevision : ℕ) (reason operationId : String)
    (f' : FailureService) :
    Wrote (Change texts f e) f'.store
        (retireByOperator sourceId boundaryId expectedRevision reason operationId f').store ∧
      (retireByOperator sourceId boundaryId expectedRevision reason operationId f').tasks =
        f'.tasks := by
  unfold retireByOperator
  split
  · exact ⟨.rfl, rfl⟩
  obtain ⟨message, s₁, hread, hsame⟩ | ⟨s₁, hread, hsame⟩ :=
    read_cases (fun j => j.boundaries.get boundaryId) f'.store
  · rw [hread]
    exact ⟨hsame.wrote, rfl⟩
  rw [hread]
  dsimp only
  split
  · exact ⟨hsame.wrote, rfl⟩
  · exact retireBoundary_wrote (hsame.trans s₁.nowIso_same) rfl

theorem retirementAnswered_wrote
    (boundary : StoredBoundary) (agreed : Bool) (f' : FailureService) :
    Wrote (Change texts f e) f'.store (retirementAnswered sourceId boundary agreed f').store ∧
      (retirementAnswered sourceId boundary agreed f').tasks = f'.tasks := by
  unfold retirementAnswered
  dsimp only
  split
  · exact ⟨.rfl, rfl⟩
  · exact @retireBoundary_wrote texts f e sourceId f'.store.nowIso.2
      { f' with retiring := Function.update f'.retiring sourceId false } _ _ _ _ _
      f'.store.nowIso_same rfl

theorem askRetirement_wrote (boundaryId : String) (f' : FailureService) :
    Same f'.store (askRetirement sourceId boundaryId f').2.store ∧
      (∀ task, (askRetirement sourceId boundaryId f').1 = some task →
        ∃ boundary, task = .retiring boundary) ∧
        (askRetirement sourceId boundaryId f').2.tasks = f'.tasks := by
  unfold askRetirement
  dsimp only
  obtain ⟨message, s₁, hread, hsame⟩ | ⟨s₁, hread, hsame⟩ :=
    read_cases (fun j => j.boundaries.get boundaryId) f'.store
  · rw [hread]
    exact ⟨hsame, by simp, rfl⟩
  rw [hread]
  cases f'.store.journal.boundaries.get boundaryId with
  | none => exact ⟨hsame, by simp, rfl⟩
  | some boundary =>
      dsimp only
      split
      · exact ⟨hsame, by simp, rfl⟩
      · refine ⟨hsame, ?_, rfl⟩
        rintro task ⟨⟩
        exact ⟨boundary, rfl⟩

theorem reopenCircuit_wrote
    {expectedRevision : ℕ} {reason : String} {rest : List Job} (hevent : e = .begin sourceId)
    (hchain : f.chains sourceId = .reopenCircuit expectedRevision reason :: rest)
    (s : StoreAccess) :
    Wrote (Change texts f e) s (reopenCircuit sourceId expectedRevision reason s) := by
  unfold reopenCircuit
  obtain ⟨message, s₁, hread, hsame⟩ | ⟨s₁, hread, hsame⟩ :=
    read_cases (fun j => j.circuits sourceId) s
  · rw [hread]
    exact hsame.wrote
  rw [hread]
  dsimp only
  split
  · exact hsame.wrote
  · obtain ⟨refusal, s₂, hcall, hsame₂⟩ | ⟨reply, s₂, hcall, hevidence, hlater, haccepted⟩ :=
      call_cases (.updateCircuit sourceId (s.journal.circuits sourceId).revision
        { state := .closed, advances := [], openedAt := none
          reason := some ("reopened by an operator: " ++ reason) }) s₁
    · rw [hcall]
      exact (hsame.trans hsame₂).wrote
    · rw [hcall]
      apply hsame.wrote.trans
      exact ⟨.single (.circuitClosed hevent hchain haccepted), hevidence, hlater⟩

end FailureService

end StreamOtter
