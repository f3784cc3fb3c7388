import StreamOtter.BoundaryChain
import StreamOtter.ServiceChanges

/-!
# The steps of the failure service

What a step does to the journal and the local evidence, and how the work on a source comes to
wait.  Over a run, every snapshot that the service works with stays known.
-/

namespace StreamOtter

open FailureStore ByteCodec Relation

namespace FailureService

variable {texts : RecordTexts} {f : FailureService} {e : Event} {settings : ServiceSettings}
  {sourceId : String} {s s' : StoreAccess} {record : IncidentRecord}

open StoreAccess

/-! ### What stays of an incident -/

/-- No change of an incident touches these. -/
structure SameOrigin (before after : IncidentRecord) : Prop where
  failureId : after.failureId = before.failureId
  sourceId : after.sourceId = before.sourceId
  generation : after.generation = before.generation
  position : after.position = before.position
  clusterId : after.clusterId = before.clusterId
  evidence : after.evidence = before.evidence

theorem SameOrigin.rfl : SameOrigin record record := ⟨by rfl, by rfl, by rfl, by rfl, by rfl, by rfl⟩

theorem SameOrigin.trans {middle after : IncidentRecord} (h : SameOrigin record middle)
    (h' : SameOrigin middle after) : SameOrigin record after :=
  ⟨h'.failureId.trans h.failureId, h'.sourceId.trans h.sourceId,
    h'.generation.trans h.generation, h'.position.trans h.position,
    h'.clusterId.trans h.clusterId, h'.evidence.trans h.evidence⟩

theorem sameOrigin_observedAgain (observation : NewObservation) (existing : IncidentRecord) :
    SameOrigin existing (observedAgain observation existing).1 := by
  unfold observedAgain reopened applyPolicy
  dsimp only
  constructor <;> (repeat' split) <;> rfl

theorem sameOrigin_patched {patch : IncidentPatch} (h : patch.evidence = none) (time : String) :
    SameOrigin record (patched patch time record) := by
  refine ⟨rfl, rfl, rfl, rfl, rfl, ?_⟩
  show patch.evidence.getD record.evidence = record.evidence
  rw [h]
  rfl

/-! ### The disposition of a held record -/

/-- A quarantine write that began: a fixture's copy is stored at once, a Kafka copy is
published. -/
structure WriteBegan (texts : RecordTexts) (settings : ServiceSettings) (sourceId : String)
    (captured : IncidentRecord) (evidence : RawEvidence) (answer : Option QuarantineOutcome)
    (s : StoreAccess) : Prop where
  stored : ∀ coordinates, answer = some (.acknowledged coordinates) → coordinates = none ∧
    (settings.source sourceId).kind = .fixture ∧ s.evidence captured.failureId = some evidence
  published : answer = none → (settings.source sourceId).kind = .kafka ∧
    ∃ message, publish ⟨evidence, captured.failureId, texts.envelope captured⟩ = .ok message

theorem write_began (captured : IncidentRecord) (evidence : RawEvidence) (s : StoreAccess) :
    (write settings texts sourceId captured evidence s).2.journal = s.journal ∧
      GoesOn s (write settings texts sourceId captured evidence s).2 ∧
      WriteBegan texts settings sourceId captured evidence
        (write settings texts sourceId captured evidence s).1
        (write settings texts sourceId captured evidence s).2 ∧
      ((write settings texts sourceId captured evidence s).2.evidence = s.evidence ∨
        (write settings texts sourceId captured evidence s).1 = some (.acknowledged none) ∧
          (write settings texts sourceId captured evidence s).2.evidence =
            Function.update s.evidence captured.failureId (some evidence)) := by
  have hfault := s.fault_same
  unfold write
  cases hkind : (settings.source sourceId).kind with
  | fixture =>
      dsimp only
      rcases hthrown : s.fault with ⟨thrown, s₁⟩
      rw [hthrown] at hfault
      cases thrown with
      | none =>
          refine ⟨hfault.journal, hfault.clock, ⟨?_, by simp⟩, .inr ⟨rfl, ?_⟩⟩
          · rintro coordinates ⟨⟩
            exact ⟨rfl, hkind, Function.update_self ..⟩
          · dsimp only
            rw [hfault.evidence]
      | some message => exact ⟨hfault.journal, hfault.clock, ⟨by simp, by simp⟩, .inl hfault.evidence⟩
  | kafka =>
      dsimp only
      split
      · exact ⟨rfl, .rfl, ⟨by simp, by simp⟩, .inl rfl⟩
      · cases hpublish : publish ⟨evidence, captured.failureId, texts.envelope captured⟩ with
        | error reason => exact ⟨rfl, .rfl, ⟨by simp, by simp⟩, .inl rfl⟩
        | ok message => exact ⟨rfl, .rfl, ⟨by simp, fun _ => ⟨hkind, message, hpublish⟩⟩, .inl rfl⟩

/-- What a disposition waits for: the write of the record's copy. -/
structure Captures (texts : RecordTexts) (settings : ServiceSettings) (sourceId : String)
    (record : IncidentRecord) (policy : FailurePolicy) (summary : EvidenceSummary) (raw : Option RawEvidence)
    (s : StoreAccess) (captured : IncidentRecord) (evidence : RawEvidence)
    (answer : Option QuarantineOutcome) : Prop where
  policy : policy ≠ .pause
  raw : raw = some evidence
  complete : summary.completeness = .complete
  id : captured.failureId = record.failureId
  summary : captured.evidence = record.evidence
  known : s.journal.Known captured
  began : WriteBegan texts settings sourceId captured evidence answer s

/-- What a disposition leaves behind: the journal went on, and a copy may be in writing. -/
structure Disposed (C : Journal → Journal → Prop) (s s' : StoreAccess) (task : Option Task)
    (Q : IncidentRecord → FailurePolicy → EvidenceSummary → RawEvidence →
      Option QuarantineOutcome → Prop) : Prop where
  journal : ReflTransGen C s.journal s'.journal
  clock : GoesOn s s'
  waits : ∀ waiting, task = some waiting → ∃ captured policy summary evidence answer,
    waiting = .writing captured policy summary evidence answer ∧
      Q captured policy summary evidence answer
  evidence : s'.evidence = s.evidence ∨ ∃ captured policy summary evidence,
    task = some (.writing captured policy summary evidence (some (.acknowledged none))) ∧
      s'.evidence = Function.update s.evidence captured.failureId (some evidence)

variable {C : Journal → Journal → Prop} {Q Q' : IncidentRecord → FailurePolicy →
  EvidenceSummary → RawEvidence → Option QuarantineOutcome → Prop}

theorem Disposed.none (h : Wrote C s s') : Disposed C s s' none Q :=
  ⟨h.journal, h.clock, by simp, .inl h.evidence⟩

/-- What was written before belongs to the disposition. -/
theorem Disposed.after {s₀ : StoreAccess} {task : Option Task} (h : Disposed C s s' task Q)
    (hwrote : Wrote C s₀ s) : Disposed C s₀ s' task Q := by
  refine ⟨hwrote.journal.trans h.journal, hwrote.clock.trans h.clock, h.waits, ?_⟩
  rw [← hwrote.evidence]
  exact h.evidence

theorem Disposed.weaken {task : Option Task} (h : Disposed QuietChange s s' task Q)
    (himplies : ∀ captured policy summary evidence answer,
      Q captured policy summary evidence answer → Q' captured policy summary evidence answer) :
    Disposed (Change texts f e) s s' task Q' := by
  refine ⟨ReflTransGen.mono (fun _ _ => Change.of_quiet) _ _ h.journal, h.clock, ?_, h.evidence⟩
  intro waiting hwaiting
  obtain ⟨captured, policy, summary, evidence, answer, hwrites, hcaptured⟩ := h.waits waiting hwaiting
  exact ⟨captured, policy, summary, evidence, answer, hwrites, himplies _ _ _ _ _ hcaptured⟩

theorem quietPatch_captured (record : IncidentRecord) :
    QuietPatch record { quarantine := some .pending, recovery := some .held } := by
  constructor <;> simp

theorem captureRecord_disposed
    (hknown : s.journal.Known record) {policy : FailurePolicy} (hpolicy : policy ≠ .pause)
    (summary : EvidenceSummary) (raw : Option RawEvidence) :
    Disposed QuietChange s (captureRecord settings texts sourceId record policy summary raw s).2
      (captureRecord settings texts sourceId record policy summary raw s).1
      (fun captured policy' summary' evidence answer => policy' = policy ∧ summary' = summary ∧
        Captures texts settings sourceId record policy summary raw
          (captureRecord settings texts sourceId record policy summary raw s).2 captured evidence
          answer) := by
  unfold captureRecord
  have hmismatch := @holdOnClusterMismatch_quiet settings sourceId s record hknown
  rcases hhold : holdOnClusterMismatch settings sourceId record s with ⟨holds, s₁⟩
  rw [hhold] at hmismatch
  have hknown₁ := hmismatch.known_quiet hknown
  cases holds with
  | true => exact .none hmismatch
  | false =>
      dsimp only
      split
      · exact .none hmismatch
      · split
        · rename_i evidence hcomplete
          generalize hdetail : (if summary.location = .local then "local evidence"
            else "writing to the quarantine topic") = detail
          have hcaptured := @update_quiet s₁ record hknown₁ _ (quietPatch_captured record) .captured
            detail
          have hkept := update_known hknown₁ { quarantine := some .pending, recovery := some .held }
            .captured detail
          have hsame : (s₁.update record { quarantine := some .pending, recovery := some .held }
              .captured detail).1.failureId = record.failureId ∧
              (s₁.update record { quarantine := some .pending, recovery := some .held }
                .captured detail).1.evidence = record.evidence := by
            obtain ⟨s₂, hupdate, -⟩ | ⟨time, s₂, hupdate, -, -, -, -⟩ :=
              update_cases hknown₁ { quarantine := some .pending, recovery := some .held }
                .captured detail
            · rw [hupdate]
              exact ⟨rfl, rfl⟩
            · rw [hupdate]
              exact ⟨rfl, rfl⟩
          rcases hupdate : s₁.update record { quarantine := some .pending, recovery := some .held }
            .captured detail with ⟨captured, s₂⟩
          rw [hupdate] at hcaptured hkept hsame
          dsimp only at hcaptured hkept hsame ⊢
          obtain ⟨hjournal, hlater, hbegan, hevidence⟩ :=
            @write_began texts settings sourceId captured evidence s₂
          refine Disposed.after ?_ (hmismatch.trans hcaptured)
          refine ⟨by rw [hjournal], hlater, ?_, ?_⟩
          · rintro waiting ⟨⟩
            refine ⟨captured, policy, summary, evidence, _, rfl, rfl, rfl, hpolicy, rfl, hcomplete,
              hsame.1, hsame.2, ?_, hbegan⟩
            rw [hjournal]
            exact hkept
          · rcases hevidence with hevidence | ⟨hanswer, hevidence⟩
            · exact .inl hevidence
            · refine .inr ⟨captured, policy, summary, evidence, ?_, hevidence⟩
              rw [hanswer]
        · exact .none (hmismatch.trans (update_quiet hknown₁
            (quietPatch_recovery record (.inl rfl) _ _)))

theorem failedAgain_quiet (hknown : s.journal.Known record) :
    Wrote QuietChange s (failedAgain record s).2 ∧
      (failedAgain record s).2.journal.Known (failedAgain record s).1 ∧
        (failedAgain record s).1.failureId = record.failureId ∧
          (failedAgain record s).1.evidence = record.evidence := by
  unfold failedAgain
  split
  · rename_i hretrying
    have hat : atPosition record.progress := by
      rw [hretrying]
      rfl
    refine ⟨update_quiet hknown (quietPatch_progress hat rfl), update_known hknown _ _ _, ?_⟩
    obtain ⟨s₁, hupdate, -⟩ | ⟨time, s₁, hupdate, -, -, -, -⟩ :=
      update_cases hknown { progress := some .held } .held "the retried record failed again"
    · rw [hupdate]
      exact ⟨rfl, rfl⟩
    · rw [hupdate]
      exact ⟨rfl, rfl⟩
  · exact ⟨.rfl, hknown, rfl, rfl⟩

theorem quarantineRecord_disposed
    (hknown : s.journal.Known record) (policy : FailurePolicy) (summary : EvidenceSummary)
    (raw : Option RawEvidence) :
    Disposed QuietChange s (quarantineRecord settings texts sourceId record policy summary raw s).2
      (quarantineRecord settings texts sourceId record policy summary raw s).1
      (fun captured policy' summary' evidence answer => policy' = policy ∧ summary' = summary ∧
        Captures texts settings sourceId record policy summary raw
          (quarantineRecord settings texts sourceId record policy summary raw s).2 captured evidence
          answer) := by
  unfold quarantineRecord
  split
  · exact .none .rfl
  · rename_i hpolicy
    exact captureRecord_disposed hknown hpolicy summary raw

/-- The incident that an observation answers with is stored, and unless the evidence conflicts
it is the evidence observed, or one of the two has no hash. -/
theorem observe_known {j : Journal} (observation : NewObservation) {result : ObservationResult}
    (h : (j.observe observation).1 = .observed result) :
    (j.observe observation).2.Known result.record ∧
      result.record.failureId = observation.failureId ∧
      result.record.evidence =
        ((j.incidents.get observation.failureId).map (·.evidence)).getD observation.evidence ∧
      (result.conflict = false → result.record.evidence.hash = "" ∨
        observation.evidence.hash = "" ∨
          result.record.evidence.hash = observation.evidence.hash) := by
  unfold Journal.observe at h ⊢
  cases hfound : j.incidents.get observation.failureId with
  | none =>
      rw [hfound] at h
      cases h
      exact ⟨Journal.known_of_get (InsertionMap.get_set_self j.incidents _), rfl, rfl,
        fun _ => .inr (.inr rfl)⟩
  | some existing =>
      rw [hfound] at h
      cases h
      refine ⟨Journal.known_of_get (InsertionMap.get_set_self j.incidents _), ?_,
        (sameOrigin_observedAgain observation existing).evidence, ?_⟩
      · rw [observedAgain_failureId]
        exact InsertionMap.key_of_get hfound
      · intro hconflict
        rw [(sameOrigin_observedAgain observation existing).evidence]
        unfold evidenceConflicts at hconflict
        dsimp only at hconflict
        grind

/-- The copy that a disposition of the delivery has in writing. -/
def CopyOf (texts : RecordTexts) (f : FailureService) (sourceId : String) (input : Delivery)
    (outcome : Pause) (s : StoreAccess) (captured : IncidentRecord) (policy : FailurePolicy)
    (summary : EvidenceSummary) (evidence : RawEvidence) (answer : Option QuarantineOutcome) :
    Prop :=
  policy = policyFor (f.settings.source sourceId).policy outcome.failureClass ∧
    summary = f.settings.summarize texts sourceId (rawEvidence input) policy ∧
    ∃ record : IncidentRecord,
      record.failureId =
        texts.failureId sourceId (f.settings.source sourceId).generation input.position ∧
      record.evidence =
        ((f.store.journal.incidents.get record.failureId).map (·.evidence)).getD summary ∧
      (record.evidence.hash = "" ∨ summary.hash = "" ∨ record.evidence.hash = summary.hash) ∧
      Captures texts f.settings sourceId record policy summary (rawEvidence input) s captured evidence
        answer

/-- The disposition of the first job of a source. -/
theorem dispose_disposed
    {input : Delivery} {outcome : Pause} {rest : List Job} (hevent : e = .begin sourceId)
    (htask : f.tasks sourceId = none)
    (hchain : f.chains sourceId = .dispose input outcome :: rest)
    {f' : FailureService} (hsettings : f'.settings = f.settings)
    (hjournal : f'.store.journal = f.store.journal) :
    Disposed (Change texts f e) f'.store (dispose texts sourceId input outcome f').2.store
        (dispose texts sourceId input outcome f').1
        (CopyOf texts f sourceId input outcome (dispose texts sourceId input outcome f').2.store) ∧
      (dispose texts sourceId input outcome f').2.tasks = f'.tasks := by
  unfold dispose
  dsimp only
  split
  · exact ⟨.none .rfl, rfl⟩
  have hclock := f'.store.nowIso_same
  rcases htime : f'.store.nowIso with ⟨observedAt, s₁⟩
  rw [htime] at hclock
  dsimp only at hclock ⊢
  generalize hpolicy : policyFor (f'.settings.source sourceId).policy outcome.failureClass = policy
  generalize hsummary : f'.settings.summarize texts sourceId (rawEvidence input) policy = summary
  obtain ⟨refusal, s₂, hcall, hsame⟩ | ⟨reply, s₂, hcall, hevidence, hlater, haccepted⟩ :=
    call_cases (.observe
      (observationOf f'.settings texts sourceId input outcome policy summary observedAt)) s₁
  · rw [hcall]
    exact ⟨.none (hclock.trans (hsame.error (some refusal.message))).wrote, rfl⟩
  rw [hcall, hclock.journal] at *
  have hobserve := Except.ok.inj haccepted
  have hreply := congrArg Prod.fst hobserve
  have hafter := congrArg Prod.snd hobserve
  dsimp only at hreply hafter
  have hchange : Change texts f e f'.store.journal s₂.journal := by
    rw [← hafter, ← hsummary, ← hpolicy, hsettings]
    exact .observed observedAt hevent htask hchain
  have hobserved : ReflTransGen (Change texts f e) f'.store.journal s₂.journal := .single hchange
  have hwrote : Wrote (Change texts f e) f'.store { s₂ with journalError := none } :=
    ⟨hobserved, hevidence.trans hclock.evidence, hclock.clock.trans hlater⟩
  cases reply with
  | observed result =>
      obtain ⟨hknown, hid, hsummarized, hcompatible⟩ := observe_known _ hreply
      rw [hafter] at hknown
      dsimp only
      split
      · refine ⟨.none ?_, rfl⟩
        exact hwrote.trans (Wrote.of_quiet (@update_quiet { s₂ with journalError := none }
          result.record hknown _ (quietPatch_diagnosis result.record _) _ _))
      · rename_i hconflict
        obtain ⟨hheld, hkept, hsameId, hsameEvidence⟩ :=
          @failedAgain_quiet { s₂ with journalError := none } result.record hknown
        have hquarantine := @quarantineRecord_disposed texts f'.settings sourceId _ _ hkept policy
          summary (rawEvidence input)
        refine ⟨(hquarantine.weaken ?_).after (hwrote.trans (Wrote.of_quiet hheld)), rfl⟩
        rintro captured _ _ evidence answer ⟨rfl, rfl, hcaptures⟩
        refine ⟨by rw [← hpolicy, hsettings], by rw [← hsummary, hsettings],
          (failedAgain result.record { s₂ with journalError := none }).1, ?_, ?_, ?_, ?_⟩
        · rw [hsameId, hid, ← hsettings]
          rfl
        · rw [hsameEvidence, hsameId, hid, ← hjournal]
          exact hsummarized
        · rw [hsameEvidence]
          exact hcompatible (by simpa using hconflict)
        · rw [← hsettings]
          exact hcaptures
  | claimed | updated _ | prepared _ _ | retired _ | circuit _ | begun _ _ | finished _
  | abandoned _ => exact ⟨.none ⟨hobserved, hevidence.trans hclock.evidence, hclock.clock.trans hlater⟩, rfl⟩

/-! ### Steps -/

/-- What the adapter answered when it committed past the record. -/
def PassesBy (answer : AdvanceAnswer) (committed : Option ℕ) : Position → Prop
  | .kafka _ _ offset => answer = .readBack (some (offset + 1)) true ∧ committed = some (offset + 1)
  | .fixture _ => answer = .moved ∧ committed = none

/-- The event is what the work on a source waits for. -/
def Ends (e : Event) (task : Task) : Prop :=
  match e, task with
  | .written _ _, .writing _ _ _ _ _ | .guarded _ _ _, .guarding _ _
  | .advanced _ _, .advancing _ _ | .confirm _, .confirming _ _ _ | .retired _ _, .retiring _ => True
  | _, _ => False

/-- How the work on a source comes to wait. -/
inductive Enters (texts : RecordTexts) (f : FailureService) (e : Event) (sourceId : String)
    (s : StoreAccess) : Task → Prop
  | writing {input : Delivery} {outcome : Pause} {rest : List Job} {captured : IncidentRecord}
      {policy : FailurePolicy} {summary : EvidenceSummary} {evidence : RawEvidence}
      {answer : Option QuarantineOutcome} (hevent : e = .begin sourceId)
      (hchain : f.chains sourceId = .dispose input outcome :: rest)
      (hcopy : CopyOf texts f sourceId input outcome s captured policy summary evidence answer) :
      Enters texts f e sourceId s (.writing captured policy summary evidence answer)
  | guarding {answer : PublishAnswer} {written pending : IncidentRecord} {policy : FailurePolicy}
      {summary : EvidenceSummary} {evidence : RawEvidence} {known : Option QuarantineOutcome}
      {prior : Option StoredBoundary} (hevent : e = .written sourceId answer)
      (htask : f.tasks sourceId = some (.writing written policy summary evidence known))
      (hguards : Guards f.settings sourceId written f.store s (.guarding pending prior)) :
      Enters texts f e sourceId s (.guarding pending prior)
  | advancing {answer : HandlerAnswer} {pending prepared : IncidentRecord} {boundaryId : String}
      {prior : Option StoredBoundary} (hevent : e = .guarded sourceId answer boundaryId)
      (htask : f.tasks sourceId = some (.guarding pending prior))
      (hprepares : Prepares f.store s pending prepared boundaryId) :
      Enters texts f e sourceId s (.advancing prepared boundaryId)
  | confirming {answer : AdvanceAnswer} {prepared : IncidentRecord} {boundaryId : String}
      {committed : Option ℕ} (hevent : e = .advanced sourceId answer)
      (htask : f.tasks sourceId = some (.advancing prepared boundaryId))
      (hpasses : PassesBy answer committed prepared.position)
      (hadvancing : Advancing s.journal prepared boundaryId) :
      Enters texts f e sourceId s (.confirming prepared boundaryId committed)
  | retiring {boundary : StoredBoundary} (hevent : e = .begin sourceId) :
      Enters texts f e sourceId s (.retiring boundary)

theorem Enters.known {task : Task} (h : Enters texts f e sourceId s task) :
    task.Known s.journal := by
  cases h with
  | writing _ _ hcopy =>
      obtain ⟨-, -, record, -, -, -, hcaptures⟩ := hcopy
      exact hcaptures.known
  | guarding _ _ hguards =>
      obtain ⟨pending, prior, hguarding, -, hget, -⟩ := hguards
      cases hguarding
      exact Journal.known_of_get hget
  | advancing _ _ hprepares => exact hprepares.stored.2
  | confirming _ _ _ hadvancing => exact hadvancing
  | retiring _ => trivial

/-- What no change of a boundary touches. -/
def boundaryOrigin (boundary : StoredBoundary) : String × String :=
  (boundary.sourceId, boundary.createdAt)

/-- The same boundaries are stored, of the same sources and with the times of their advances. -/
def SameBoundaries (boundaries boundaries' : InsertionMap StoredBoundary.boundaryId) : Prop :=
  ∀ boundaryId, (boundaries'.get boundaryId).map boundaryOrigin =
    (boundaries.get boundaryId).map boundaryOrigin

/-- Every boundary stays stored, of the same source and with the time of its advance. -/
def BoundariesStay (boundaries boundaries' : InsertionMap StoredBoundary.boundaryId) : Prop :=
  ∀ boundaryId boundary, boundaries.get boundaryId = some boundary →
    ∃ boundary', boundaries'.get boundaryId = some boundary' ∧
      boundary'.sourceId = boundary.sourceId ∧ boundary'.createdAt = boundary.createdAt

section BoundariesStay

variable {boundaries boundaries' : InsertionMap StoredBoundary.boundaryId}

theorem BoundariesStay.rfl : BoundariesStay boundaries boundaries :=
  fun _ boundary hget => ⟨boundary, hget, by rfl, by rfl⟩

theorem BoundariesStay.trans {boundaries'' : InsertionMap StoredBoundary.boundaryId}
    (h : BoundariesStay boundaries boundaries') (h' : BoundariesStay boundaries' boundaries'') :
    BoundariesStay boundaries boundaries'' := by
  intro boundaryId boundary hget
  obtain ⟨middle, hmiddle, hsource, hcreated⟩ := h boundaryId boundary hget
  obtain ⟨after, hafter, hsource', hcreated'⟩ := h' boundaryId middle hmiddle
  exact ⟨after, hafter, hsource'.trans hsource, hcreated'.trans hcreated⟩

theorem SameBoundaries.stay (h : SameBoundaries boundaries boundaries') :
    BoundariesStay boundaries boundaries' := by
  intro boundaryId boundary hget
  have hsame := h boundaryId
  rw [hget] at hsame
  obtain ⟨boundary', hget', horigin⟩ := Option.map_eq_some_iff.mp hsame
  exact ⟨boundary', hget', congrArg Prod.fst horigin, congrArg Prod.snd horigin⟩

theorem SameBoundaries.trans {boundaries'' : InsertionMap StoredBoundary.boundaryId}
    (h : SameBoundaries boundaries boundaries') (h' : SameBoundaries boundaries' boundaries'') :
    SameBoundaries boundaries boundaries'' :=
  fun boundaryId => (h' boundaryId).trans (h boundaryId)

theorem sameBoundaries_end
    {boundary : StoredBoundary} (hmem : boundary ∈ boundaries.values) (retirement : Retirement)
    (time : String) :
    SameBoundaries boundaries (boundaries.set (endBoundary retirement time boundary)) := by
  intro boundaryId
  rw [InsertionMap.get_set]
  split
  · rename_i hid
    have hget : boundaries.get boundaryId = some boundary :=
      InsertionMap.get_eq_some.mpr ⟨hmem, hid.symm⟩
    rw [hget]
    rfl
  · rfl

theorem boundariesStay_add
    {boundary : StoredBoundary} (hfresh : boundaries.get boundary.boundaryId = none) :
    BoundariesStay boundaries (boundaries.set boundary) := by
  intro boundaryId other hget
  rw [InsertionMap.get_set]
  split
  · rename_i hid
    rw [hid, hfresh] at hget
    cases hget
  · exact ⟨other, hget, rfl, rfl⟩

theorem boundary_mem {j : Journal} {boundary : StoredBoundary}
    (h : j.boundary sourceId = some boundary) : boundary ∈ j.boundaries.values :=
  List.mem_of_find?_eq_some h

theorem boundariesStay_install
    {j : Journal} {boundary : StoredBoundary} {time : String}
    (hfresh : j.boundaries.get boundary.boundaryId = none) :
    BoundariesStay j.boundaries
      (Journal.install time (j.boundary sourceId) boundary j.boundaries) := by
  have hsuperseded : BoundariesStay j.boundaries
      (Journal.supersede time (j.boundary sourceId) j.boundaries) := by
    unfold Journal.supersede
    split
    · exact .rfl
    · rename_i prior hprior
      exact (sameBoundaries_end (boundary_mem hprior) _ _).stay
  apply hsuperseded.trans
  apply boundariesStay_add
  unfold Journal.supersede
  split
  · exact hfresh
  · rename_i prior hprior
    rw [InsertionMap.get_set, if_neg, hfresh]
    intro hid
    have hstored : j.boundaries.get prior.boundaryId = some prior :=
      InsertionMap.get_eq_some.mpr ⟨boundary_mem hprior, rfl⟩
    have hsame : boundary.boundaryId = prior.boundaryId := hid
    rw [hsame, hstored] at hfresh
    cases hfresh

theorem sameBoundaries_claim (time : String) (sources : List SourceIdentity) (j : Journal) :
    SameBoundaries j.boundaries (j.claim time sources).boundaries := by
  unfold Journal.claim
  induction sources generalizing j with
  | nil => exact fun _ => rfl
  | cons source rest ih =>
      refine SameBoundaries.trans ?_ (ih (j.claimSource time source))
      unfold Journal.claimSource
      dsimp only
      split
      · exact fun _ => rfl
      · rename_i boundary hboundary
        split
        · exact fun _ => rfl
        · exact sameBoundaries_end (boundary_mem hboundary) _ _

end BoundariesStay

theorem next_boundaries {j j' : Journal} (h : j.Next j') :
    BoundariesStay j.boundaries j'.boundaries := by
  obtain ⟨c, reply, hcall⟩ := h
  rcases (Journal.Accepts.call hcall).boundaries with ⟨hsame, -⟩ | ⟨input, -, hprepared⟩ |
    ⟨_, _, retirement, time, -, hretired⟩ | ⟨_, _, claimed, time, -, -, -, rfl⟩
  · rw [hsame]
    exact .rfl
  · obtain ⟨context, record, -, -, -, -, -, -, hfresh, -, rfl⟩ := Journal.prepareAdvance_ok hprepared
    exact boundariesStay_install hfresh
  · obtain ⟨ended, hended, -, -, -, -, rfl⟩ := Journal.retireBoundary_ok hretired
    exact (sameBoundaries_end (InsertionMap.mem_of_get hended) retirement time).stay
  · exact (sameBoundaries_claim time claimed j).stay

theorem later_boundaries {j j' : Journal} (h : ReflTransGen Journal.Next j j') :
    BoundariesStay j.boundaries j'.boundaries := by
  induction h with
  | refl => exact .rfl
  | tail _ hnext ih => exact ih.trans (next_boundaries hnext)

theorem Advancing.later
    {j j' : Journal} {prepared : IncidentRecord} {boundaryId : String}
    (h : Advancing j prepared boundaryId) (hlater : ReflTransGen Journal.Next j j') :
    Advancing j' prepared boundaryId := by
  obtain ⟨boundary, hget⟩ := h.stored
  obtain ⟨boundary', hget', -⟩ := later_boundaries hlater boundaryId boundary hget
  exact ⟨h.known.later hlater, h.progress, h.opened, h.names, boundary', hget'⟩

theorem Task.Known.later
    {j j' : Journal} {task : Task} (h : task.Known j) (hlater : ReflTransGen Journal.Next j j') :
    task.Known j' := by
  cases task with
  | writing record => exact Journal.Known.later h hlater
  | guarding pending => exact Journal.Known.later h hlater
  | advancing prepared => exact Advancing.later h hlater
  | confirming prepared => exact Advancing.later h hlater
  | retiring boundary => trivial

/-- What a step does: every change is one of the event's, the work on a source waits where it
waited or has come to wait, and a copy that is stored at once is the evidence in writing. -/
structure Stepped (texts : RecordTexts) (f : FailureService) (e : Event) (f' : FailureService) :
    Prop where
  journal : ReflTransGen (Change texts f e) f.store.journal f'.store.journal
  clock : GoesOn f.store f'.store
  tasks : ∀ sourceId task, f'.tasks sourceId = some task →
    f.tasks sourceId = some task ∧ ¬ (eventSource e = some sourceId ∧ Ends e task) ∨
      Enters texts f e sourceId f'.store task
  evidence : f'.store.evidence = f.store.evidence ∨
    ∃ sourceId captured policy summary evidence, f'.tasks sourceId =
        some (.writing captured policy summary evidence (some (.acknowledged none))) ∧
      Enters texts f e sourceId f'.store
        (.writing captured policy summary evidence (some (.acknowledged none))) ∧
      f'.store.evidence = Function.update f.store.evidence captured.failureId (some evidence)

variable {f' : FailureService}

theorem Stepped.later (h : Stepped texts f e f') :
    ReflTransGen Journal.Next f.store.journal f'.store.journal :=
  ReflTransGen.mono (fun _ _ => Change.next) _ _ h.journal

/-- A step keeps every snapshot known. -/
theorem Stepped.snapshots (h : Stepped texts f e f') (hsnapshots : f.Snapshots) :
    f'.Snapshots := by
  intro sourceId task htask
  rcases h.tasks sourceId task htask with ⟨hbefore, -⟩ | henters
  · exact Task.Known.later (hsnapshots sourceId task hbefore) h.later
  · exact henters.known

theorem stepped_of_wrote
    (hwrote : Wrote (Change texts f e) f.store f'.store) (htasks : f'.tasks = f.tasks)
    (hends : ∀ sourceId task, f.tasks sourceId = some task → eventSource e = some sourceId →
      ¬ Ends e task) : Stepped texts f e f' := by
  refine ⟨hwrote.journal, hwrote.clock, ?_, .inl hwrote.evidence⟩
  intro sourceId task htask
  rw [htasks] at htask
  exact .inl ⟨htask, fun h => hends sourceId task htask h.1 h.2⟩

theorem stepped_of_quiet
    (hwrote : Wrote QuietChange f.store f'.store) (htasks : f'.tasks = f.tasks)
    (hends : ∀ task, ¬ Ends e task) : Stepped texts f e f' :=
  stepped_of_wrote (Wrote.of_quiet hwrote) htasks fun _ task _ _ => hends task

/-- The work on a source waits for something else than the event. -/
theorem stepped_of_waiting
    (hsource : eventSource e = some sourceId)
    (hends : ∀ task, f.tasks sourceId = some task → ¬ Ends e task) : Stepped texts f e f := by
  apply stepped_of_wrote .rfl rfl
  intro other task htask hother
  rw [hsource] at hother
  cases hother
  exact hends task htask

/-- The work on one source comes to wait, or is done. -/
theorem stepped_of_task
    {task : Option Task} (hsource : eventSource e = some sourceId)
    (hwrote : Wrote (Change texts f e) f.store f'.store)
    (htasks : f'.tasks = Function.update f.tasks sourceId task)
    (henters : ∀ waiting, task = some waiting → Enters texts f e sourceId f'.store waiting) :
    Stepped texts f e f' := by
  refine ⟨hwrote.journal, hwrote.clock, ?_, .inl hwrote.evidence⟩
  intro other waiting hwaiting
  rw [htasks] at hwaiting
  by_cases hother : other = sourceId
  · subst hother
    rw [Function.update_self] at hwaiting
    exact .inr (henters waiting hwaiting)
  · rw [Function.update_of_ne hother] at hwaiting
    refine .inl ⟨hwaiting, fun h => hother ?_⟩
    exact Option.some.inj (h.1.symm.trans hsource)

/-- Only what the process knows of its incidents differs. -/
structure SameProcess (f f' : FailureService) : Prop where
  settings : f'.settings = f.settings
  started : f'.started = f.started
  processing : f'.processing = f.processing
  tasks : f'.tasks = f.tasks
  chains : f'.chains = f.chains

theorem SameProcess.rfl : SameProcess f f := ⟨by rfl, by rfl, by rfl, by rfl, by rfl⟩

theorem SameProcess.trans {f'' : FailureService} (h : SameProcess f f')
    (h' : SameProcess f' f'') : SameProcess f f'' :=
  ⟨h'.settings.trans h.settings, h'.started.trans h.started, h'.processing.trans h.processing,
    h'.tasks.trans h.tasks, h'.chains.trans h.chains⟩

theorem sourceHeld_process (sourceId : String) (position : Position) (f : FailureService) :
    SameProcess f (f.sourceHeld sourceId position) := by
  unfold sourceHeld
  split
  · exact .rfl
  · split
    · exact ⟨rfl, rfl, rfl, rfl, rfl⟩
    · exact ⟨rfl, rfl, rfl, rfl, rfl⟩

theorem committed_process (sourceId : String) (position : Position) (f : FailureService) :
    SameProcess f (f.committed sourceId position) := by
  unfold committed
  dsimp only
  split
  · exact ⟨rfl, rfl, rfl, rfl, rfl⟩
  · split
    · exact ⟨rfl, rfl, rfl, rfl, rfl⟩
    · exact ⟨rfl, rfl, rfl, rfl, rfl⟩

theorem positionProblem_process (sourceId : String) (input : Delivery) (f : FailureService) :
    SameProcess f (positionProblem texts sourceId input f).2 := by
  unfold positionProblem
  dsimp only
  repeat' split
  all_goals exact ⟨rfl, rfl, rfl, rfl, rfl⟩

/-- A record that is checked is held, or it is being processed. -/
theorem checkRecord_process (sourceId : String) (input : Delivery) (f : FailureService) :
    SameProcess f (f.checkRecord texts sourceId input) ∨
      (positionProblem texts sourceId input f).1 = none ∧
        SameProcess { f with processing := (sourceId, input) :: f.processing }
          (f.checkRecord texts sourceId input) := by
  have hsame := @positionProblem_process texts sourceId input f
  unfold checkRecord
  rcases hproblem : positionProblem texts sourceId input f with ⟨problem, f'⟩
  rw [hproblem] at hsame
  cases problem with
  | none =>
      refine .inr ⟨rfl, hsame.settings, hsame.started, ?_, hsame.tasks, hsame.chains⟩
      dsimp only
      rw [hsame.processing]
  | some problem => exact .inl (hsame.trans (sourceHeld_process sourceId input.position f'))

theorem positionProblem_watched (sourceId : String) (input : Delivery) (f : FailureService) :
    (positionProblem texts sourceId input f).2.watched = f.watched := by
  unfold positionProblem
  dsimp only
  repeat' split
  all_goals rfl

theorem dispose_process (sourceId : String) (input : Delivery) (outcome : Pause)
    (f : FailureService) : SameProcess f (dispose texts sourceId input outcome f).2 := by
  unfold dispose
  dsimp only
  repeat' split
  all_goals exact ⟨rfl, rfl, rfl, rfl, rfl⟩

theorem askRetirement_process (sourceId boundaryId : String) (f : FailureService) :
    SameProcess f (askRetirement sourceId boundaryId f).2 := by
  unfold askRetirement
  dsimp only
  repeat' split
  all_goals exact ⟨rfl, rfl, rfl, rfl, rfl⟩

theorem dropRetired_process (sourceId : String) (h : SameProcess f f') :
    SameProcess f (f'.dropRetired sourceId) := by
  apply h.trans
  unfold dropRetired
  repeat' split
  all_goals exact ⟨rfl, rfl, rfl, rfl, rfl⟩

theorem retireByOperator_process (sourceId boundaryId : String) (expectedRevision : ℕ)
    (reason operationId : String) (f : FailureService) :
    SameProcess f (retireByOperator sourceId boundaryId expectedRevision reason operationId f) := by
  unfold retireByOperator
  dsimp only
  repeat' split
  all_goals first
    | exact ⟨rfl, rfl, rfl, rfl, rfl⟩
    | exact dropRetired_process sourceId ⟨rfl, rfl, rfl, rfl, rfl⟩

theorem retirementAnswered_process (sourceId : String) (boundary : StoredBoundary) (agreed : Bool)
    (f : FailureService) :
    SameProcess f (retirementAnswered sourceId boundary agreed f) := by
  unfold retirementAnswered
  dsimp only
  repeat' split
  all_goals first
    | exact ⟨rfl, rfl, rfl, rfl, rfl⟩
    | exact dropRetired_process sourceId ⟨rfl, rfl, rfl, rfl, rfl⟩

/-- A disposition that began: it waits for the write of a copy, if at all. -/
theorem disposed_stepped
    {input : Delivery} {outcome : Pause} {rest : List Job} {task : Option Task}
    (hchain : f.chains sourceId = .dispose input outcome :: rest)
    (hdisposed : Disposed (Change texts f (.begin sourceId)) f.store f'.store task
      (CopyOf texts f sourceId input outcome f'.store))
    (htasks : f'.tasks = f.tasks) :
    Stepped texts f (.begin sourceId)
      { f' with tasks := Function.update f'.tasks sourceId task } := by
  have henters : ∀ waiting, task = some waiting →
      Enters texts f (.begin sourceId) sourceId f'.store waiting := by
    intro waiting hwaiting
    obtain ⟨captured, policy, summary, evidence, answer, rfl, hcopy⟩ :=
      hdisposed.waits waiting hwaiting
    exact .writing rfl hchain hcopy
  refine ⟨hdisposed.journal, hdisposed.clock, ?_, ?_⟩
  · intro other waiting hwaiting
    dsimp only at hwaiting
    rw [htasks] at hwaiting
    by_cases hother : other = sourceId
    · subst hother
      rw [Function.update_self] at hwaiting
      exact .inr (henters waiting hwaiting)
    · rw [Function.update_of_ne hother] at hwaiting
      exact .inl ⟨hwaiting, fun h => hother (Option.some.inj h.1).symm⟩
  · rcases hdisposed.evidence with hsame | ⟨captured, policy, summary, evidence, htask, hstored⟩
    · exact .inl hsame
    · refine .inr ⟨sourceId, captured, policy, summary, evidence, ?_, henters _ htask, hstored⟩
      rw [htask]
      exact Function.update_self ..

theorem beginNext_stepped (sourceId : String) :
    Stepped texts f (.begin sourceId) (f.beginNext texts sourceId) := by
  unfold beginNext
  split
  · rename_i job rest htask hchain
    have hdone : ∀ (task : Option Task) (f' : FailureService),
        Wrote (Change texts f (.begin sourceId)) f.store f'.store → f'.tasks = f.tasks →
        (∀ waiting, task = some waiting → ∃ boundary, waiting = .retiring boundary) →
          Stepped texts f (.begin sourceId)
            { f' with tasks := Function.update f'.tasks sourceId task } := by
      intro task f' hwrote htasks hretiring
      refine @stepped_of_task texts f _ sourceId
        { f' with tasks := Function.update f'.tasks sourceId task } task rfl hwrote ?_ ?_
      · show Function.update f'.tasks sourceId task = _
        rw [htasks]
      · intro waiting hwaiting
        obtain ⟨boundary, rfl⟩ := hretiring waiting hwaiting
        exact .retiring rfl
    cases job with
    | dispose input outcome =>
        obtain ⟨hdisposed, htasks⟩ := @dispose_disposed texts f (.begin sourceId) sourceId input
          outcome rest rfl htask hchain
          { f with chains := Function.update f.chains sourceId rest } rfl rfl
        exact disposed_stepped hchain hdisposed htasks
    | retry reason =>
        exact hdone _ _ (Wrote.of_quiet (markRetrying_quiet sourceId reason f.store)) rfl (by simp)
    | retire boundaryId =>
        obtain ⟨hsame, hretiring, htasks⟩ := @askRetirement_wrote sourceId boundaryId
          { f with chains := Function.update f.chains sourceId rest }
        exact hdone _ _ (Same.wrote hsame) htasks hretiring
    | reopenCircuit expectedRevision reason =>
        exact hdone _ _ (reopenCircuit_wrote rfl hchain f.store) rfl (by simp)
    | retireBoundary boundaryId expectedRevision reason operationId =>
        obtain ⟨hwrote, htasks⟩ := @retireByOperator_wrote texts f (.begin sourceId) sourceId
          boundaryId expectedRevision reason operationId
          { f with chains := Function.update f.chains sourceId rest }
        exact hdone _ _ hwrote htasks (by simp)
  · exact stepped_of_quiet .rfl rfl fun task => id

theorem afterWrite_stepped
    (hsnapshots : f.Snapshots) (sourceId : String) (answer : PublishAnswer) :
    Stepped texts f (.written sourceId answer) (f.afterWrite sourceId answer) := by
  unfold afterWrite
  cases htask : f.tasks sourceId with
  | none => exact @stepped_of_waiting texts f _ sourceId rfl (by simp [htask])
  | some task =>
      cases task with
      | writing record policy summary evidence known =>
          obtain ⟨hwrote, hguards⟩ := @writeSettled_wrote texts f (.written sourceId answer)
            f.settings sourceId f.store record answer policy summary evidence known rfl htask
            (hsnapshots sourceId _ htask)
          apply stepped_of_task rfl hwrote rfl
          intro waiting hwaiting
          have hwaits := hguards waiting hwaiting
          obtain ⟨pending, prior, rfl, -⟩ := hguards waiting hwaiting
          exact .guarding rfl htask hwaits
      | guarding | advancing | confirming | retiring =>
          exact @stepped_of_waiting texts f _ sourceId rfl (by simp [htask, Ends])

/-- The guard's outcome carries nothing further, or its advance is prepared. -/
theorem afterGuard_cases
    (hsnapshots : f.Snapshots) {pending : IncidentRecord} {prior : Option StoredBoundary}
    (htask : f.tasks sourceId = some (.guarding pending prior)) (answer : HandlerAnswer)
    (boundaryId : String) :
    (Wrote QuietChange f.store (f.afterGuard texts sourceId answer boundaryId).store ∧
        (f.afterGuard texts sourceId answer boundaryId).tasks =
          Function.update f.tasks sourceId none) ∨
      ∃ prepared, Prepares f.store (f.afterGuard texts sourceId answer boundaryId).store pending
          prepared boundaryId ∧
        (f.afterGuard texts sourceId answer boundaryId).tasks =
          Function.update f.tasks sourceId (some (.advancing prepared boundaryId)) := by
  unfold afterGuard
  rw [htask]
  dsimp only
  obtain ⟨s₁, hsettled, hquiet⟩ | ⟨prepared, context, s₁, hsettled, hprepares⟩ :=
    @guardSettled_cases texts f.settings sourceId f.store pending prior f.stopping answer boundaryId
      (hsnapshots sourceId _ htask)
  · rw [hsettled]
    exact .inl ⟨hquiet, rfl⟩
  · rw [hsettled]
    exact .inr ⟨prepared, hprepares, rfl⟩

theorem afterGuard_stepped
    (hsnapshots : f.Snapshots) (sourceId : String) (answer : HandlerAnswer)
    (boundaryId : String) :
    Stepped texts f (.guarded sourceId answer boundaryId)
      (f.afterGuard texts sourceId answer boundaryId) := by
  have hwaiting : (∀ task, f.tasks sourceId = some task →
      ¬ Ends (.guarded sourceId answer boundaryId) task) →
        Stepped texts f (.guarded sourceId answer boundaryId) f :=
    @stepped_of_waiting texts f _ sourceId rfl
  cases htask : f.tasks sourceId with
  | none =>
      unfold afterGuard
      rw [htask] at hwaiting ⊢
      exact hwaiting (by simp)
  | some task =>
      cases task with
      | guarding pending prior =>
          obtain ⟨hquiet, htasks⟩ | ⟨prepared, hprepares, htasks⟩ :=
            @afterGuard_cases texts f sourceId hsnapshots pending prior htask answer boundaryId
          · exact @stepped_of_task _ _ _ sourceId _ none rfl (Wrote.of_quiet hquiet) htasks (by simp)
          · refine @stepped_of_task _ _ _ sourceId _ (some (.advancing prepared boundaryId)) rfl
              (hprepares.wrote rfl htask) htasks ?_
            rintro waiting ⟨⟩
            exact .advancing rfl htask hprepares
      | writing | advancing | confirming | retiring =>
          unfold afterGuard
          rw [htask] at hwaiting ⊢
          exact hwaiting (by simp [Ends])

theorem afterAdvance_stepped
    (hsnapshots : f.Snapshots) (sourceId : String) (answer : AdvanceAnswer) :
    Stepped texts f (.advanced sourceId answer) (f.afterAdvance sourceId answer) := by
  unfold afterAdvance
  cases htask : f.tasks sourceId with
  | none => exact @stepped_of_waiting texts f _ sourceId rfl (by simp [htask])
  | some task =>
      cases task with
      | advancing prepared boundaryId =>
          have hadvancing : Advancing f.store.journal prepared boundaryId :=
            hsnapshots sourceId _ htask
          have huncertain : Stepped texts f (.advanced sourceId answer)
              ((advanceUncertain sourceId prepared f).waitAt sourceId none
                (advanceUncertain sourceId prepared f).store) := by
            have hunresolved : isUnresolved prepared = true := by
              simp [isUnresolved, hadvancing.progress]
            exact @stepped_of_task _ _ _ sourceId _ none rfl
              (update_uncertain hadvancing.known hunresolved) rfl (by simp)
          have hpassed : ∀ readBack, answer ≠ .notHeld →
              PassesBy answer readBack prepared.position → Stepped texts f
                (.advanced sourceId answer) (f.passed sourceId prepared boundaryId readBack) := by
            intro readBack hanswer hpasses
            have hwrote := @committed_wrote texts f (.advanced sourceId answer) sourceId
              prepared.position (.inr ⟨answer, prepared, boundaryId, rfl, hanswer, htask, rfl⟩)
            apply @stepped_of_task _ _ _ sourceId (f.passed sourceId prepared boundaryId readBack)
              (some (.confirming prepared boundaryId readBack)) rfl hwrote
            · show Function.update (f.committed sourceId prepared.position).tasks sourceId _ = _
              rw [(committed_process sourceId prepared.position f).tasks]
            · rintro waiting ⟨⟩
              refine .confirming rfl htask hpasses ?_
              exact Advancing.later hadvancing
                (ReflTransGen.mono (fun _ _ => Change.next) _ _ hwrote.journal)
          dsimp only
          split
          · exact @stepped_of_task _ _ _ sourceId _ none rfl
              (advanceNotHeld_wrote rfl htask hadvancing) rfl (by simp)
          · exact huncertain
          · rename_i hposition
            split
            · rename_i hnext
              obtain ⟨rfl, rfl⟩ := hnext
              exact hpassed _ (by simp) (by rw [hposition]; exact ⟨rfl, rfl⟩)
            · exact huncertain
          · rename_i hposition
            exact hpassed none (by simp) (by rw [hposition]; exact ⟨rfl, rfl⟩)
          · exact huncertain
          · exact huncertain
      | writing | guarding | confirming | retiring =>
          exact @stepped_of_waiting texts f _ sourceId rfl (by simp [htask, Ends])

theorem afterConfirm_stepped (hsnapshots : f.Snapshots) (sourceId : String) :
    Stepped texts f (.confirm sourceId) (f.afterConfirm sourceId) := by
  unfold afterConfirm
  cases htask : f.tasks sourceId with
  | none => exact @stepped_of_waiting texts f _ sourceId rfl (by simp [htask])
  | some task =>
      cases task with
      | confirming prepared boundaryId committed =>
          exact @stepped_of_task _ _ _ sourceId _ none rfl
            (confirmAdvance_wrote rfl htask (hsnapshots sourceId _ htask)) rfl (by simp)
      | writing | guarding | advancing | retiring =>
          exact @stepped_of_waiting texts f _ sourceId rfl (by simp [htask, Ends])

theorem afterRetirement_stepped (sourceId : String) (agreed : Bool) :
    Stepped texts f (.retired sourceId agreed) (f.afterRetirement sourceId agreed) := by
  unfold afterRetirement
  cases htask : f.tasks sourceId with
  | none => exact @stepped_of_waiting texts f _ sourceId rfl (by simp [htask])
  | some task =>
      cases task with
      | retiring boundary =>
          obtain ⟨hwrote, htasks⟩ := @retirementAnswered_wrote texts f (.retired sourceId agreed)
            sourceId boundary agreed
            { f with tasks := Function.update f.tasks sourceId none }
          exact @stepped_of_task _ _ _ sourceId _ none rfl hwrote htasks (by simp)
      | writing | guarding | advancing | confirming =>
          exact @stepped_of_waiting texts f _ sourceId rfl (by simp [htask, Ends])

theorem restart_stepped {offsets : String → String → ℕ → Except String (Option ℕ)} :
    Stepped texts f (.restart settings offsets) (restart settings offsets f.store) := by
  obtain ⟨hwrote, htasks⟩ :=
    @restart_wrote texts f (.restart settings offsets) settings offsets rfl f.store
  refine ⟨hwrote.journal, hwrote.clock, ?_, .inl hwrote.evidence⟩
  intro sourceId task htask
  rw [htasks] at htask
  cases htask

/-- Every change that a started service makes is one of the event's. -/
theorem handle_stepped (hsnapshots : f.Snapshots) (e : Event) :
    Stepped texts f e (f.handle texts e) := by
  cases e with
  | restart settings offsets => exact restart_stepped
  | stop => exact stepped_of_quiet .rfl rfl (by simp [Ends])
  | check sourceId input =>
      refine stepped_of_quiet (checkRecord_wrote sourceId input f) ?_ (by simp [Ends])
      rcases @checkRecord_process texts sourceId input f with hsame | ⟨-, hsame⟩
      · exact hsame.tasks
      · exact hsame.tasks
  | failed sourceId input =>
      exact stepped_of_quiet (sourceHeld_wrote sourceId input.position f)
        (sourceHeld_process sourceId input.position f).tasks (by simp [Ends])
  | abandoned sourceId input => exact stepped_of_quiet .rfl rfl (by simp [Ends])
  | committed sourceId input =>
      exact @stepped_of_wrote texts f _ ((f.committed sourceId input.position).leave sourceId input)
        (committed_wrote (.inl ⟨input, rfl, rfl⟩)) (committed_process sourceId input.position f).tasks
        (by simp [Ends])
  | held sourceId input outcome => exact stepped_of_quiet .rfl rfl (by simp [Ends])
  | run sourceId job => exact stepped_of_quiet .rfl rfl (by simp [Ends])
  | acknowledged sourceId boundaryId =>
      show Stepped texts f _ (f.boundaryAcknowledged sourceId boundaryId)
      unfold boundaryAcknowledged
      dsimp only
      split
      · exact stepped_of_quiet .rfl rfl (by simp [Ends])
      · exact stepped_of_quiet .rfl rfl (by simp [Ends])
  | note failureId operationId detail =>
      exact stepped_of_quiet (note_quiet failureId operationId detail f.store) rfl (by simp [Ends])
  | begin sourceId => exact beginNext_stepped sourceId
  | written sourceId answer => exact afterWrite_stepped hsnapshots sourceId answer
  | guarded sourceId answer boundaryId => exact afterGuard_stepped hsnapshots sourceId answer boundaryId
  | advanced sourceId answer => exact afterAdvance_stepped hsnapshots sourceId answer
  | confirm sourceId => exact afterConfirm_stepped hsnapshots sourceId
  | retired sourceId agreed => exact afterRetirement_stepped sourceId agreed

/-- The event queues the job. -/
inductive Queues (e : Event) (sourceId : String) : Job → Prop
  | disposed {input : Delivery} {outcome : Pause} (hevent : e = .held sourceId input outcome) :
      Queues e sourceId (.dispose input outcome)
  | asked {job : Job} (hevent : e = .run sourceId job) : Queues e sourceId job
  | retired {boundaryId : String} (hevent : e = .acknowledged sourceId boundaryId) :
      Queues e sourceId (.retire boundaryId)

/-- A process keeps its settings, it processes a record only when its check passed, and the
work that it queues is the event's. -/
structure Continues (texts : RecordTexts) (f : FailureService) (e : Event) (f' : FailureService) :
    Prop where
  settings : f'.settings = f.settings
  started : f'.started = f.started
  processing : ∀ checked ∈ f'.processing, checked ∈ f.processing ∨
    e = .check checked.1 checked.2 ∧ (positionProblem texts checked.1 checked.2 f).1 = none
  chains : ∀ sourceId, ∀ job ∈ f'.chains sourceId,
    job ∈ f.chains sourceId ∨ Queues e sourceId job

theorem SameProcess.continues (h : SameProcess f f') : Continues texts f e f' := by
  refine ⟨h.settings, h.started, ?_, ?_⟩
  · intro checked hchecked
    rw [h.processing] at hchecked
    exact .inl hchecked
  · intro sourceId job hjob
    rw [h.chains] at hjob
    exact .inl hjob

/-- Where the work of a source waits does not matter to the process. -/
theorem Continues.of_tasks {task : Option Task} (h : Continues texts f e f') :
    Continues texts f e { f' with tasks := Function.update f'.tasks sourceId task } :=
  ⟨h.settings, h.started, h.processing, h.chains⟩

/-- The job that begins leaves its queue. -/
theorem Continues.of_rest {job : Job} {rest : List Job} (hchain : f.chains sourceId = job :: rest)
    (h : SameProcess { f with chains := Function.update f.chains sourceId rest } f') :
    Continues texts f e f' := by
  refine ⟨h.settings, h.started, ?_, ?_⟩
  · intro checked hchecked
    rw [h.processing] at hchecked
    exact .inl hchecked
  · intro source waiting hwaiting
    rw [h.chains] at hwaiting
    dsimp only at hwaiting
    by_cases hsource : source = sourceId
    · subst hsource
      rw [Function.update_self] at hwaiting
      exact .inl (by rw [hchain]; exact List.mem_cons_of_mem _ hwaiting)
    · rw [Function.update_of_ne hsource] at hwaiting
      exact .inl hwaiting

theorem continues_enqueue {job : Job} (h : SameProcess f f')
    (hjob : Queues e sourceId job) :
    Continues texts f e (f'.enqueue sourceId job) := by
  refine ⟨h.settings, h.started, h.continues.processing, ?_⟩
  intro source waiting hwaiting
  have hmem : waiting ∈ Function.update f'.chains sourceId (f'.chains sourceId ++ [job]) source :=
    hwaiting
  by_cases hsource : source = sourceId
  · subst hsource
    rw [Function.update_self, h.chains] at hmem
    rcases List.mem_append.mp hmem with hbefore | hnew
    · exact .inl hbefore
    · obtain rfl := List.mem_singleton.mp hnew
      exact .inr hjob
  · rw [Function.update_of_ne hsource, h.chains] at hmem
    exact .inl hmem

theorem continues_leave {input : Delivery} (h : SameProcess f f') :
    Continues texts f e (f'.leave sourceId input) := by
  refine ⟨h.settings, h.started, ?_, (@SameProcess.continues texts f e f' h).chains⟩
  intro checked hchecked
  have hbefore : checked ∈ f'.processing := List.mem_of_mem_erase hchecked
  rw [h.processing] at hbefore
  exact .inl hbefore

theorem beginNext_continues (sourceId : String) :
    Continues texts f e (f.beginNext texts sourceId) := by
  unfold beginNext
  split
  · rename_i job rest htask hchain
    apply Continues.of_tasks
    apply Continues.of_rest hchain
    cases job with
    | dispose input outcome => exact dispose_process sourceId input outcome _
    | retry | reopenCircuit => exact ⟨rfl, rfl, rfl, rfl, rfl⟩
    | retire boundaryId => exact askRetirement_process sourceId boundaryId _
    | retireBoundary boundaryId expectedRevision reason operationId =>
        exact retireByOperator_process sourceId boundaryId expectedRevision reason operationId _
  · exact SameProcess.continues .rfl

theorem handle_continues (e : Event) :
    (∃ settings offsets, e = .restart settings offsets ∧
        f.handle texts e = restart settings offsets f.store) ∨
      Continues texts f e (f.handle texts e) := by
  have hwait : ∀ {f' : FailureService} (sourceId : String) (task : Option Task)
      (store : StoreAccess), SameProcess f f' → Continues texts f e (f'.waitAt sourceId task store) :=
    fun _ _ _ hsame => ⟨hsame.settings, hsame.started,
      (@SameProcess.continues texts _ e _ hsame).processing,
      (@SameProcess.continues texts _ e _ hsame).chains⟩
  cases e with
  | restart settings offsets => exact .inl ⟨settings, offsets, rfl, rfl⟩
  | check sourceId input =>
      right
      rcases @checkRecord_process texts sourceId input f with hsame | ⟨hnone, hsame⟩
      · exact hsame.continues
      · refine ⟨hsame.settings, hsame.started, ?_,
          (@SameProcess.continues texts _ (.check sourceId input) _ hsame).chains⟩
        intro checked hchecked
        have hmem : checked ∈ (f.checkRecord texts sourceId input).processing := hchecked
        rw [hsame.processing] at hmem
        rcases List.mem_cons.mp hmem with rfl | hbefore
        · exact .inr ⟨rfl, hnone⟩
        · exact .inl hbefore
  | failed sourceId input =>
      exact .inr (continues_leave (sourceHeld_process sourceId input.position f))
  | abandoned sourceId input => exact .inr (continues_leave .rfl)
  | committed sourceId input =>
      exact .inr (continues_leave (committed_process sourceId input.position f))
  | stop | note => exact .inr (SameProcess.continues ⟨rfl, rfl, rfl, rfl, rfl⟩)
  | held sourceId input outcome =>
      exact .inr (continues_enqueue ⟨rfl, rfl, rfl, rfl, rfl⟩ (.disposed rfl))
  | run sourceId job => exact .inr (continues_enqueue .rfl (.asked rfl))
  | acknowledged sourceId boundaryId =>
      right
      show Continues texts f _ (f.boundaryAcknowledged sourceId boundaryId)
      unfold boundaryAcknowledged
      dsimp only
      split
      · exact SameProcess.continues .rfl
      · exact continues_enqueue ⟨rfl, rfl, rfl, rfl, rfl⟩ (.retired rfl)
  | begin sourceId => exact .inr (beginNext_continues sourceId)
  | written sourceId answer =>
      right
      show Continues texts f _ (f.afterWrite sourceId answer)
      unfold afterWrite
      split
      · exact hwait _ _ _ .rfl
      · exact SameProcess.continues .rfl
  | guarded sourceId answer boundaryId =>
      right
      show Continues texts f _ (f.afterGuard texts sourceId answer boundaryId)
      unfold afterGuard
      split
      · split
        · exact hwait _ _ _ .rfl
        · exact hwait _ _ _ ⟨rfl, rfl, rfl, rfl, rfl⟩
      · exact SameProcess.continues .rfl
  | advanced sourceId answer =>
      right
      show Continues texts f _ (f.afterAdvance sourceId answer)
      unfold afterAdvance
      split
      · rename_i prepared boundaryId _
        have hpassed : ∀ readBack, Continues texts f (.advanced sourceId answer)
            (f.passed sourceId prepared boundaryId readBack) :=
          fun readBack => hwait _ _ _ (committed_process sourceId prepared.position f)
        dsimp only
        repeat' split
        all_goals first
          | exact hpassed _
          | exact hwait _ _ _ ⟨rfl, rfl, rfl, rfl, rfl⟩
      · exact SameProcess.continues .rfl
  | confirm sourceId =>
      right
      show Continues texts f _ (f.afterConfirm sourceId)
      unfold afterConfirm
      split
      · exact hwait _ _ _ .rfl
      · exact SameProcess.continues .rfl
  | retired sourceId agreed =>
      right
      show Continues texts f _ (f.afterRetirement sourceId agreed)
      unfold afterRetirement
      split
      · have hanswered := retirementAnswered_process sourceId (by assumption) agreed
          { f with tasks := Function.update f.tasks sourceId none }
        exact ⟨hanswered.settings, hanswered.started, by
          intro checked hchecked
          rw [hanswered.processing] at hchecked
          exact .inl hchecked,
          (@SameProcess.continues texts _ (.retired sourceId agreed) _ hanswered).chains⟩
      · exact SameProcess.continues .rfl

/-- How a step goes on: a new process takes the store over, nothing happens, or the service
handles the event. -/
inductive Step (texts : RecordTexts) (f : FailureService) (o : Occurrence) :
    FailureService → Prop
  | restarted {settings : ServiceSettings}
      {offsets : String → String → ℕ → Except String (Option ℕ)}
      (hevent : o.event = .restart settings offsets) :
      Step texts f o (restart settings offsets (f.given o).store)
  | nothing (hrestart : ∀ settings offsets, o.event ≠ .restart settings offsets) :
      Step texts f o (f.given o)
  | handled {f' : FailureService} (hstarted : f.started = true) (hpossible : f.possible o.event)
      (hrestart : ∀ settings offsets, o.event ≠ .restart settings offsets)
      (hresult : f' = (f.given o).handle texts o.event)
      (hstepped : Stepped texts (f.given o) o.event f')
      (hcontinues : Continues texts (f.given o) o.event f') : Step texts f o f'

theorem step_cases (hsnapshots : f.Snapshots) (o : Occurrence) :
    Step texts f o (step texts f o) := by
  have hgiven : (f.given o).Snapshots := hsnapshots
  unfold step
  split
  · rename_i settings offsets _ hevent
    exact .restarted hevent
  · rename_i hrestart
    exact .nothing fun settings offsets hevent => hrestart settings offsets hevent
  · rename_i hstarted
    split
    · rename_i hpossible
      have hstepped := @handle_stepped texts (f.given o) hgiven o.event
      rcases @handle_continues texts (f.given o) o.event with ⟨settings, offsets, hevent, hhandled⟩ |
        hcontinues
      · rw [hhandled]
        exact .restarted hevent
      · by_cases hrestart : ∃ settings offsets, o.event = .restart settings offsets
        · obtain ⟨settings, offsets, hevent⟩ := hrestart
          rw [hevent]
          exact .restarted hevent
        · refine .handled hstarted hpossible ?_ rfl hstepped hcontinues
          exact fun settings offsets hevent => hrestart ⟨settings, offsets, hevent⟩
    · rename_i hpossible
      refine .nothing fun settings offsets hevent => hpossible ?_
      rw [hevent]
      rfl

/-! ### Runs -/

theorem run_concat (texts : RecordTexts) (f : FailureService) (occurrences : List Occurrence)
    (o : Occurrence) :
    run texts f (occurrences ++ [o]) = step texts (run texts f occurrences) o := by
  unfold run
  rw [List.foldl_append]
  rfl

/-- The service after some occurrences, from a store that was never used. -/
def after (texts : RecordTexts) (settings : ServiceSettings) (occurrences : List Occurrence) :
    FailureService :=
  run texts (initial settings) occurrences

theorem after_concat (occurrences : List Occurrence) (o : Occurrence) :
    after texts settings (occurrences ++ [o]) = step texts (after texts settings occurrences) o :=
  run_concat texts _ occurrences o

end FailureService

end StreamOtter
