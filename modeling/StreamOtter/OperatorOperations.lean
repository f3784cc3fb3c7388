import StreamOtter.OperatorService
import StreamOtter.OperationRetention

/-!
# Operations act once

An operation is recorded before it acts, and its action runs once for each time that its ID is
recorded: over every order of events, with any store call throwing, and over restarts.  A caller
who repeats an ID is told what the first call was told.
-/

namespace StreamOtter

open FailureStore StoreAccess Journal

namespace OperatorService

/-! ### What only reads the store -/

section Reads

variable {s : StoreAccess}

theorem read_same {α : Type} (query : Journal → α) (s : StoreAccess) : Same s (s.read query).2 := by
  obtain ⟨message, s', hread, hsame⟩ | ⟨s', hread, hsame⟩ := read_cases query s
  · rw [hread]
    exact hsame
  · rw [hread]
    exact hsame

theorem openFault_same (opened : List IncidentRecord) (s : StoreAccess) :
    Same s (openFault opened s).2 := by
  induction opened generalizing s with
  | nil => exact .rfl
  | cons incident rest ih =>
      unfold openFault
      split
      · exact .rfl
      · have hread := read_same (fun j => j.events incident.failureId) s
        rcases hanswer : s.read fun j => j.events incident.failureId with ⟨answer, s'⟩
        rw [hanswer] at hread
        cases answer with
        | error message => exact hread
        | ok events =>
            dsimp only
            split
            · exact hread
            · exact hread.trans (ih s')

theorem redriveBlocker_same (settings : OperatorSettings) (running : Bool)
    (record : IncidentRecord) (s : StoreAccess) :
    Same s (redriveBlocker settings running record s).2 := by
  unfold redriveBlocker
  split
  · exact .rfl
  split
  · exact .rfl
  split
  · exact .rfl
  have hread := read_same (fun j => j.opened record.sourceId) s
  rcases hanswer : s.read fun j => j.opened record.sourceId with ⟨answer, s'⟩
  rw [hanswer] at hread
  cases answer with
  | error message => exact hread
  | ok opened =>
      dsimp only
      have hfault := openFault_same opened s'
      rcases hopen : openFault opened s' with ⟨answer, s''⟩
      rw [hopen] at hfault
      rcases answer with message | _ | ⟨fault, failureId⟩
      · exact hread.trans hfault
      · dsimp only
        split <;> exact hread.trans hfault
      · exact hread.trans hfault

theorem recheck_same (texts : OperatorTexts) (plan : Plan) (current : IncidentRecord)
    (read : Option EvidenceRead) (s : StoreAccess) :
    Same s (recheck texts plan current read s).2 := by
  unfold recheck
  rcases read with _ | ⟨raw⟩ | ⟨expired, message⟩
  · exact .rfl
  · dsimp only
    split
    · exact .rfl
    · have hread := read_same (fun j => j.incidents.get current.failureId) s
      rcases hanswer : s.read fun j => j.incidents.get current.failureId with ⟨answer, s'⟩
      rw [hanswer] at hread
      cases answer with
      | error message => exact hread
      | ok latest =>
          dsimp only
          split <;> exact hread
  · exact .rfl

end Reads

/-! ### Steps that leave the operations alone -/

theorem call_operations
    {le : String → String → Bool} {limit : ℕ} {j j' : Journal} {c : StoreCall} {reply : StoreReply}
    (hkeeps : keepsOperations c) (h : j.call le limit c = .ok (reply, j')) :
    j'.operations = j.operations := by
  cases c with
  | beginOperation input => cases hkeeps
  | finishOperation operationId state result time => cases hkeeps
  | abandonPendingOperations time => cases hkeeps
  | claim projectId sources time =>
      cases h
      exact claim_operations time sources j
  | observe observation =>
      have hafter : (j.observe observation).2 = j' := congrArg Prod.snd (Except.ok.inj h)
      rw [← hafter]
      unfold Journal.observe
      split <;> rfl
  | update failureId expectedRevision patch event =>
      obtain ⟨existing, -, -, -, rfl⟩ := update_ok h
      rfl
  | prepareAdvance input =>
      obtain ⟨context, record, -, -, -, -, -, -, -, -, rfl⟩ := prepareAdvance_ok h
      rfl
  | retireBoundary boundaryId expectedRevision retirement time =>
      obtain ⟨boundary, -, -, -, -, -, rfl⟩ := retireBoundary_ok h
      rfl
  | updateCircuit sourceId expectedRevision next =>
      obtain ⟨-, rfl⟩ := updateCircuit_ok h
      rfl

theorem keeping_call_operations {c : StoreCall} (hkeeps : keepsOperations c) (s : StoreAccess) :
    (s.call c).2.journal.operations = s.journal.operations := by
  obtain ⟨refusal, s', hcall, hsame⟩ | ⟨reply, s', hcall, -, -, haccepted⟩ := call_cases c s
  · rw [hcall, hsame.journal]
  · rw [hcall]
    exact call_operations hkeeps haccepted

/-- Nothing is begun, answered or dropped, and no action is another operation's. -/
structure Kept (s s' : OperatorService) : Prop where
  operations : s'.store.journal.operations = s.store.journal.operations
  begun : s'.begun = s.begun
  forgotten : s'.forgotten = s.forgotten
  answers : s'.answers = s.answers
  started : s'.started = s.started
  running : ∀ operationId m', s'.mutations operationId = some m' →
    ∃ m, s.mutations operationId = some m ∧ m.requestHash = m'.requestHash

variable {s s' : OperatorService}

theorem Kept.of_same (hstore : s'.store.journal = s.store.journal) (hbegun : s'.begun = s.begun)
    (hforgotten : s'.forgotten = s.forgotten) (hanswers : s'.answers = s.answers)
    (hstarted : s'.started = s.started) (hmutations : s'.mutations = s.mutations) :
    Kept s s' where
  operations := congrArg Journal.operations hstore
  begun := hbegun
  forgotten := hforgotten
  answers := hanswers
  started := hstarted
  running := fun _ m' hm => ⟨m', hmutations ▸ hm, rfl⟩

theorem Kept.trans {s'' : OperatorService} (h : Kept s s') (h' : Kept s' s'') : Kept s s'' where
  operations := h'.operations.trans h.operations
  begun := h'.begun.trans h.begun
  forgotten := h'.forgotten.trans h.forgotten
  answers := h'.answers.trans h.answers
  started := h'.started.trans h.started
  running := by
    intro operationId m'' hm''
    obtain ⟨m', hm', hhash'⟩ := h'.running operationId m'' hm''
    obtain ⟨m, hm, hhash⟩ := h.running operationId m' hm'
    exact ⟨m, hm, hhash.trans hhash'⟩

/-- An operation in flight goes on. -/
theorem Kept.goes_on {operationId : String} {m : Mutation} (action : Action) (h : Kept s s')
    (hm : s.mutations operationId = some m) :
    Kept s (s'.setAction operationId m.requestHash action) where
  operations := h.operations
  begun := h.begun
  forgotten := h.forgotten
  answers := h.answers
  started := h.started
  running := by
    intro other m' hm'
    by_cases hother : other = operationId
    · subst hother
      obtain rfl : ⟨m.requestHash, action⟩ = m' := by
        simpa [setAction] using hm'
      exact ⟨m, hm, rfl⟩
    · exact h.running other m' (by simpa [setAction, hother] using hm')

theorem kept_given (o : OperatorOccurrence) (s : OperatorService) : Kept s (s.given o) :=
  .of_same rfl rfl rfl rfl rfl rfl

theorem kept_evaluate (ticket : ℕ) (failureId : String) (expectedRevision : ℕ)
    (s : OperatorService) : Kept s (s.evaluate ticket failureId expectedRevision) := by
  have hread := (read_same (fun j => j.incidents.get failureId) s.store).journal
  unfold evaluate
  rcases hanswer : s.store.read fun j => j.incidents.get failureId with ⟨answer, store⟩
  rw [hanswer] at hread
  rcases answer with message | _ | record
  · exact .of_same hread rfl rfl rfl rfl rfl
  · exact .of_same hread rfl rfl rfl rfl rfl
  · dsimp only
    split
    · exact .of_same hread rfl rfl rfl rfl rfl
    split
    · exact .of_same hread rfl rfl rfl rfl rfl
    split <;> exact .of_same hread rfl rfl rfl rfl rfl

theorem kept_evidenceRead (evaluation : OperatorEvaluation) (read : Option EvidenceRead)
    (s : OperatorService) : Kept s (s.evidenceRead evaluation read) := by
  rcases read with _ | ⟨raw⟩ | ⟨expired, message⟩ <;> exact .of_same rfl rfl rfl rfl rfl rfl

theorem kept_recordEvaluated (texts : RecordTexts) (evaluation : OperatorEvaluation)
    (prepared : Option OperatorPrepared) (running : Bool) (planId : String)
    (s : OperatorService) :
    Kept s (s.recordEvaluated texts evaluation prepared running planId) := by
  rcases prepared with _ | ⟨outputs, outputHash⟩ | ⟨stage, failureClass, reason⟩ | _
  · exact .of_same rfl rfl rfl rfl rfl rfl
  · have hread := (redriveBlocker_same s.settings running evaluation.record s.store).journal
    unfold recordEvaluated
    dsimp only
    rcases hblocker : redriveBlocker s.settings running evaluation.record s.store with ⟨answer, store⟩
    rw [hblocker] at hread
    rcases answer with message | _ | blocked
    · exact .of_same hread rfl rfl rfl rfl rfl
    · exact .of_same (store.dateNow_same.journal.trans hread) rfl rfl rfl rfl rfl
    · exact .of_same hread rfl rfl rfl rfl rfl
  · exact .of_same rfl rfl rfl rfl rfl rfl
  · exact .of_same rfl rfl rfl rfl rfl rfl

theorem kept_claim (request : RedriveRequest) (running : Bool) (s : OperatorService) :
    Kept s (s.claim request running).2 := by
  unfold claim
  split
  · exact .of_same rfl rfl rfl rfl rfl rfl
  rename_i plan hplan
  split
  · exact .of_same rfl rfl rfl rfl rfl rfl
  have hclock := s.store.dateNow_same.journal
  rcases hnow : s.store.dateNow with ⟨now, store⟩
  rw [hnow] at hclock
  dsimp only at hclock ⊢
  split
  · exact .of_same hclock rfl rfl rfl rfl rfl
  split
  · exact .of_same hclock rfl rfl rfl rfl rfl
  have hread := (read_same (fun j => j.incidents.get request.failureId) store).journal
  rcases hanswer : store.read fun j => j.incidents.get request.failureId with ⟨answer, store'⟩
  rw [hanswer] at hread
  rcases answer with message | _ | current
  · exact .of_same (hread.trans hclock) rfl rfl rfl rfl rfl
  · exact .of_same (hread.trans hclock) rfl rfl rfl rfl rfl
  · dsimp only
    split
    · exact .of_same (hread.trans hclock) rfl rfl rfl rfl rfl
    split
    · exact .of_same (hread.trans hclock) rfl rfl rfl rfl rfl
    have hblocker := (redriveBlocker_same s.settings running current store').journal
    rcases hblocked : redriveBlocker s.settings running current store' with ⟨answer, store''⟩
    rw [hblocked] at hblocker
    rcases answer with message | _ | blocked <;>
      exact .of_same (hblocker.trans (hread.trans hclock)) rfl rfl rfl rfl rfl

theorem noted_operations (current : IncidentRecord) (operationId detail : String)
    (s : StoreAccess) :
    (noted current operationId detail s).2.journal.operations = s.journal.operations := by
  have hread := (read_same (fun j => j.incidents.get current.failureId) s).journal
  unfold noted
  rcases hanswer : s.read fun j => j.incidents.get current.failureId with ⟨answer, s₁⟩
  rw [hanswer] at hread
  cases answer with
  | error message => exact congrArg Journal.operations hread
  | ok found =>
      dsimp only
      have hclock := s₁.nowIso_same.journal
      rcases htime : s₁.nowIso with ⟨time, s₂⟩
      rw [htime] at hclock
      dsimp only at hclock ⊢
      have hcall : (s₂.call (.update (found.getD current).failureId (found.getD current).revision {}
          ⟨time, .operator, some (sliced 512 detail), some operationId⟩)).2.journal.operations =
          s₂.journal.operations := keeping_call_operations rfl s₂
      have hbefore : s₂.journal.operations = s.journal.operations :=
        congrArg Journal.operations (hclock.trans hread)
      split
      · rename_i updated s₃ hupdated
        rw [hupdated] at hcall
        exact hcall.trans hbefore
      · rename_i answer s₃ hupdated
        rw [hupdated] at hcall
        exact hcall.trans hbefore

/-! ### Recording an operation -/

section Recording

variable {j j' : Journal} {input : NewOperation} {operation : StoredOperation}

/-- What a begin that stores its operation does to the operations. -/
structure Recorded (j : Journal) (input : NewOperation) (operation : StoredOperation)
    (j' : Journal) : Prop where
  operation_eq : operation.operationId = input.operationId ∧
    operation.requestHash = input.requestHash ∧ operation.state = .pending
  fresh : j.operations.get input.operationId = none
  stored : j'.operations.get input.operationId = some operation
  others : ∀ other, other ≠ input.operationId →
    j'.operations.get other = none ∨ j'.operations.get other = j.operations.get other
  settled : ∀ r ∈ dropped j j', r.state ≠ .pending

theorem recorded_of_begun
    (h : j.beginOperation MemoryIncidentStore.codeUnitLe maxOperations input =
      .ok (.begun operation true, j')) : Recorded j input operation j' := by
  obtain ⟨-, removed, hroom⟩ := beginOperation_created textOrder_codeUnits h
  rcases beginOperation_ok h with ⟨_, _, -, -, hreply, -⟩ | ⟨new, ids, hnew, hfresh, hreply, hafter⟩
  · cases hreply
  · cases hreply
    obtain ⟨hid, hhash, hpending⟩ : operation.operationId = input.operationId ∧
        operation.requestHash = input.requestHash ∧ operation.state = .pending := by
      obtain ⟨rfl, -⟩ := newOperation_ok hnew
      exact ⟨rfl, rfl, rfl⟩
    rw [hid] at hfresh
    refine ⟨⟨hid, hhash, hpending⟩, hfresh, ?_, ?_, ?_⟩
    · rw [hafter, ← hid]
      exact InsertionMap.get_set_self _ operation
    · intro other hother
      rw [hafter]
      dsimp only
      rw [InsertionMap.get_set_ne _ (hid ▸ hother)]
      cases hget : (j.operations.filter fun item => decide (item.operationId ∉ ids)).get other with
      | none => exact .inl rfl
      | some item => exact .inr (InsertionMap.get_filter.mp hget).1.symm
    · intro r hr
      obtain ⟨hmem, hgone⟩ := List.mem_filter.mp hr
      by_contra hstate
      have hkept : r ∈ j'.operations.values := by
        rw [hroom.after_eq]
        refine List.mem_append_left _ (List.mem_filter.mpr ⟨hmem, ?_⟩)
        exact decide_eq_true fun hremoved => (hroom.finished r hremoved).2 hstate
      have hget : j'.operations.get r.operationId = some r :=
        InsertionMap.get_eq_some.mpr ⟨hkept, rfl⟩
      rw [hget] at hgone
      cases hgone

theorem mem_dropped {operationId : String} :
    operationId ∈ (dropped j j').map (·.operationId) ↔
      (j.operations.get operationId).isSome ∧ j'.operations.get operationId = none := by
  constructor
  · intro hmem
    obtain ⟨r, hr, rfl⟩ := List.mem_map.mp hmem
    obtain ⟨hvalue, hgone⟩ := List.mem_filter.mp hr
    have hget : j.operations.get r.operationId = some r :=
      InsertionMap.get_eq_some.mpr ⟨hvalue, rfl⟩
    exact ⟨hget ▸ rfl, Option.isNone_iff_eq_none.mp hgone⟩
  · rintro ⟨hsome, hnone⟩
    obtain ⟨r, hget⟩ := Option.isSome_iff_exists.mp hsome
    obtain ⟨hvalue, rfl⟩ := InsertionMap.get_eq_some.mp hget
    exact List.mem_map.mpr ⟨r, List.mem_filter.mpr ⟨hvalue, by rw [hnone]; rfl⟩, rfl⟩

theorem nodup_dropped : ((dropped j j').map (·.operationId)).Nodup :=
  (List.filter_sublist.map _).nodup j.operations.distinct

/-- An ID is stored, or it was dropped, exactly once for each time it was recorded. -/
theorem Recorded.count (h : Recorded j input operation j') (operationId : String) :
    ((dropped j j').map (·.operationId)).count operationId +
        (if (j'.operations.get operationId).isSome then 1 else 0) =
      (if (j.operations.get operationId).isSome then 1 else 0) +
        [input.operationId].count operationId := by
  by_cases hsame : operationId = input.operationId
  · subst hsame
    have hnot : input.operationId ∉ (dropped j j').map (·.operationId) := by
      rw [mem_dropped, h.fresh]
      exact fun hmem => absurd hmem.1 (by decide)
    rw [List.count_eq_zero_of_not_mem hnot, h.stored, h.fresh]
    simp
  · have hcount : [input.operationId].count operationId = 0 :=
      List.count_eq_zero_of_not_mem fun hmem => hsame (List.mem_singleton.mp hmem)
    rw [hcount]
    rcases h.others operationId hsame with hnone | heq
    · by_cases hstored : (j.operations.get operationId).isSome
      · rw [List.count_eq_one_of_mem nodup_dropped (mem_dropped.mpr ⟨hstored, hnone⟩), hnone,
          if_pos hstored]
        rfl
      · have hnot : operationId ∉ (dropped j j').map (·.operationId) :=
          fun hmem => hstored (mem_dropped.mp hmem).1
        rw [List.count_eq_zero_of_not_mem hnot, hnone, if_neg hstored]
        rfl
    · have hnot : operationId ∉ (dropped j j').map (·.operationId) := by
        rw [mem_dropped, heq]
        rintro ⟨hsome, hnone⟩
        rw [hnone] at hsome
        cases hsome
      rw [List.count_eq_zero_of_not_mem hnot, heq, Nat.zero_add, Nat.add_zero]

end Recording

/-- An operation is found, cannot be recorded, or is recorded and acts. -/
theorem intend_cases (texts : OperatorTexts) (kind : OperationKind) (sourceId : String)
    (failureId : Option String) (hash operationId : String) (s : OperatorService) :
    (∃ store existing, s.intend texts kind sourceId failureId hash operationId =
        (false, { s with store := store }.answer
          ⟨operationId, hash, replay texts existing hash, .replayed⟩) ∧
        store.journal = s.store.journal ∧
        s.store.journal.operations.get operationId = some existing) ∨
      (∃ store message, s.intend texts kind sourceId failureId hash operationId =
        (false, { s with store := store }.answer
          ⟨operationId, hash, journalUnavailable message, .unrecorded⟩) ∧
        store.journal = s.store.journal) ∨
      ∃ store operation time, s.intend texts kind sourceId failureId hash operationId =
        (true, { s with
          store := store
          forgotten := s.forgotten ++ dropped s.store.journal store.journal
          begun := s.begun ++ [(operationId, hash)] }) ∧
        Recorded s.store.journal ⟨operationId, kind, sourceId, failureId, hash, time⟩ operation
          store.journal := by
  have hclock := s.store.nowIso_same.journal
  unfold intend
  rcases htime : s.store.nowIso with ⟨time, store⟩
  rw [htime] at hclock
  dsimp only at hclock ⊢
  obtain ⟨refusal, store', hcall, hsame⟩ | ⟨reply, store', hcall, -, -, haccepted⟩ :=
    call_cases (.beginOperation ⟨operationId, kind, sourceId, failureId, hash, time⟩) store
  · rw [hcall]
    exact .inr (.inl ⟨store', refusal.message, rfl, hsame.journal.trans hclock⟩)
  · rw [hcall]
    rw [hclock] at haccepted
    rcases beginOperation_ok haccepted with ⟨new, existing, hnew, hfound, rfl, hafter⟩ |
      ⟨new, ids, hnew, hfresh, rfl, hafter⟩
    · have hid : new.operationId = operationId := by
        obtain ⟨rfl, -⟩ := newOperation_ok hnew
        rfl
      exact .inl ⟨store', existing, rfl, hafter, hid ▸ hfound⟩
    · exact .inr (.inr ⟨store', new, time, rfl, recorded_of_begun haccepted⟩)

/-! ### The invariant -/

def isStored (operationId : String) (s : OperatorService) : Bool :=
  (s.store.journal.operations.get operationId).isSome

/-- What a repeated operation ID is answered: the ID was recorded for another request, or for
this one, which is running, was interrupted or was answered the same. -/
def ReplayOf (s : OperatorService) (a : OperationAnswer) : Prop :=
  (a.draft = operationIdReused ∧
      ∃ other, other ≠ a.requestHash ∧ (a.operationId, other) ∈ s.begun) ∨
    (a.operationId, a.requestHash) ∈ s.begun ∧
      (a.draft = operationInProgress ∨ a.draft = interrupted ∨
        ⟨a.operationId, a.requestHash, a.draft, .ran⟩ ∈ s.answers)

/-- The operations of a store and the actions that ran belong together. -/
structure Bookkept (texts : OperatorTexts) (s : OperatorService) : Prop where
  once : ∀ operationId, (s.begun.map (·.1)).count operationId =
    (s.forgotten.map (·.operationId)).count operationId + if s.isStored operationId then 1 else 0
  settled : ∀ operation ∈ s.forgotten, operation.state ≠ .pending
  running : ∀ operationId m, s.mutations operationId = some m →
    ∃ operation, s.store.journal.operations.get operationId = some operation ∧
      operation.state = .pending ∧ operation.requestHash = m.requestHash
  recorded : ∀ operationId operation text,
    s.store.journal.operations.get operationId = some operation → operation.state ≠ .pending →
      operation.result = some text → ∃ draft, text = texts.resultText operationId draft ∧
        ⟨operationId, operation.requestHash, draft, .ran⟩ ∈ s.answers
  known : ∀ operationId operation, s.store.journal.operations.get operationId = some operation →
    (operationId, operation.requestHash) ∈ s.begun
  replays : ∀ a ∈ s.answers, a.kind = .replayed → ReplayOf s a
  idle : s.started = false → ∀ operationId, s.mutations operationId = none

variable {texts : OperatorTexts}

theorem ReplayOf.mono {a : OperationAnswer} (h : ReplayOf s a) (hbegun : s.begun ⊆ s'.begun)
    (hanswers : s.answers ⊆ s'.answers) : ReplayOf s' a := by
  rcases h with ⟨hreused, other, hother, hmem⟩ | ⟨hmem, hdraft⟩
  · exact .inl ⟨hreused, other, hother, hbegun hmem⟩
  · refine .inr ⟨hbegun hmem, ?_⟩
    rcases hdraft with hrunning | hlost | hsame
    · exact .inl hrunning
    · exact .inr (.inl hlost)
    · exact .inr (.inr (hanswers hsame))

theorem bookkept_initial (texts : OperatorTexts) (settings : OperatorSettings) :
    Bookkept texts (initial settings) where
  once _ := rfl
  settled _ h := nomatch h
  running _ _ h := nomatch h
  recorded _ _ _ h := nomatch h
  known _ _ h := nomatch h
  replays _ h := nomatch h
  idle _ _ := rfl

theorem Bookkept.kept (h : Bookkept texts s) (hkept : Kept s s') : Bookkept texts s' := by
  constructor
  · intro operationId
    unfold isStored
    rw [hkept.operations, hkept.begun, hkept.forgotten]
    exact h.once operationId
  · rw [hkept.forgotten]
    exact h.settled
  · intro operationId m' hm'
    obtain ⟨m, hm, hhash⟩ := hkept.running operationId m' hm'
    rw [hkept.operations, ← hhash]
    exact h.running operationId m hm
  · rw [hkept.operations, hkept.answers]
    exact h.recorded
  · rw [hkept.operations, hkept.begun]
    exact h.known
  · intro a ha hkind
    rw [hkept.answers] at ha
    exact (h.replays a ha hkind).mono (fun _ hmem => hkept.begun ▸ hmem)
      (fun _ hmem => hkept.answers ▸ hmem)
  · intro hstarted operationId
    cases hm : s'.mutations operationId with
    | none => rfl
    | some m' =>
        obtain ⟨m, hbefore, -⟩ := hkept.running operationId m' hm
        rw [hkept.started] at hstarted
        cases hbefore.symm.trans (h.idle hstarted operationId)

/-- An answer for which no action ran. -/
theorem Bookkept.answer (h : Bookkept texts s) {a : OperationAnswer}
    (ha : a.kind = .replayed → ReplayOf s a) : Bookkept texts (s.answer a) := by
  have hsubset : s.answers ⊆ s.answers ++ [a] := List.subset_append_left _ _
  refine { h with recorded := ?_, replays := ?_ }
  · intro operationId operation text hget hstate hresult
    obtain ⟨draft, htext, hran⟩ := h.recorded operationId operation text hget hstate hresult
    exact ⟨draft, htext, hsubset hran⟩
  · intro b hb hkind
    rcases List.mem_append.mp hb with hold | hnew
    · exact (h.replays b hold hkind).mono (List.Subset.refl _) hsubset
    · obtain rfl := List.mem_singleton.mp hnew
      exact (ha hkind).mono (List.Subset.refl _) hsubset

/-- A found operation's answer is what its own caller was told, or says that it has none. -/
theorem Bookkept.replayed (h : Bookkept texts s) {operationId hash : String}
    {existing : StoredOperation}
    (hget : s.store.journal.operations.get operationId = some existing) :
    ReplayOf s ⟨operationId, hash, replay texts existing hash, .replayed⟩ := by
  have hknown := h.known operationId existing hget
  unfold ReplayOf replay
  dsimp only
  by_cases hhash : existing.requestHash = hash
  · rw [if_neg (not_not.mpr hhash)]
    rw [hhash] at hknown
    by_cases hstate : existing.state = .pending
    · rw [if_pos hstate]
      exact .inr ⟨hknown, .inl rfl⟩
    rw [if_neg hstate]
    split
    · exact .inr ⟨hknown, .inr (.inl rfl)⟩
    · rename_i text hresult
      obtain ⟨draft, rfl, hran⟩ := h.recorded operationId existing text hget hstate hresult
      rw [hhash] at hran
      rw [texts.readResult_resultText]
      exact .inr ⟨hknown, .inr (.inr hran)⟩
  · rw [if_pos hhash]
    exact .inl ⟨rfl, existing.requestHash, hhash, hknown⟩

/-- The action of a newly recorded operation begins. -/
theorem Bookkept.begin (h : Bookkept texts s) (hstarted : s.started = true)
    {input : NewOperation} {operation : StoredOperation} {store : StoreAccess}
    (hrecorded : Recorded s.store.journal input operation store.journal)
    (action : Action) :
    Bookkept texts ({ s with
      store := store
      forgotten := s.forgotten ++ dropped s.store.journal store.journal
      begun := s.begun ++ [(input.operationId, input.requestHash)] }.setAction input.operationId input.requestHash
        action) := by
  constructor
  · intro operationId
    show ((s.begun ++ [(input.operationId, input.requestHash)]).map (·.1)).count operationId =
      ((s.forgotten ++ dropped s.store.journal store.journal).map (·.operationId)).count
          operationId +
        if (store.journal.operations.get operationId).isSome then 1 else 0
    have hbefore := h.once operationId
    have hcount := hrecorded.count operationId
    unfold isStored at hbefore
    rw [List.map_append, List.map_append, List.count_append, List.count_append, hbefore]
    simp only [List.map_cons, List.map_nil]
    omega
  · intro forgotten hmem
    rcases List.mem_append.mp hmem with hold | hnew
    · exact h.settled forgotten hold
    · exact hrecorded.settled forgotten hnew
  · intro operationId m hm
    show ∃ found, store.journal.operations.get operationId = some found ∧ _
    by_cases hsame : operationId = input.operationId
    · subst hsame
      obtain rfl : ⟨input.requestHash, action⟩ = m := by simpa [setAction] using hm
      obtain ⟨hid, hhash, hpending⟩ := hrecorded.operation_eq
      exact ⟨operation, hrecorded.stored, hpending, hhash⟩
    · obtain ⟨found, hget, hpending, hhash⟩ :=
        h.running operationId m (by simpa [setAction, hsame] using hm)
      rcases hrecorded.others operationId hsame with hnone | heq
      · have hmem : operationId ∈ (dropped s.store.journal store.journal).map (·.operationId) :=
          mem_dropped.mpr ⟨hget ▸ rfl, hnone⟩
        obtain ⟨gone, hgone, rfl⟩ := List.mem_map.mp hmem
        have hstored : s.store.journal.operations.get gone.operationId = some gone :=
          InsertionMap.get_eq_some.mpr ⟨(List.mem_filter.mp hgone).1, rfl⟩
        obtain rfl := Option.some.inj (hget.symm.trans hstored)
        exact absurd hpending (hrecorded.settled _ hgone)
      · exact ⟨found, heq.trans hget, hpending, hhash⟩
  · intro operationId found text hget hstate hresult
    by_cases hsame : operationId = input.operationId
    · subst hsame
      obtain rfl := Option.some.inj (hrecorded.stored.symm.trans hget)
      exact absurd hrecorded.operation_eq.2.2 hstate
    · rcases hrecorded.others operationId hsame with hnone | heq
      · cases hnone.symm.trans hget
      · exact h.recorded operationId found text (heq.symm.trans hget) hstate hresult
  · intro operationId found hget
    by_cases hsame : operationId = input.operationId
    · subst hsame
      obtain rfl := Option.some.inj (hrecorded.stored.symm.trans hget)
      refine List.mem_append_right _ ?_
      rw [hrecorded.operation_eq.2.1]
      exact List.mem_singleton_self _
    · rcases hrecorded.others operationId hsame with hnone | heq
      · cases hnone.symm.trans hget
      · exact List.mem_append_left _ (h.known operationId found (heq.symm.trans hget))
  · intro a ha hkind
    exact (h.replays a ha hkind).mono (List.subset_append_left _ _) (List.Subset.refl _)
  · intro hnot
    cases hnot.symm.trans hstarted

/-- An operation is recorded under its own hash before its action begins. -/
theorem Bookkept.intend (h : Bookkept texts s) (hstarted : s.started = true)
    (kind : OperationKind) (sourceId : String)
    (failureId : Option String) (hash operationId : String) :
    (∃ s', s.intend texts kind sourceId failureId hash operationId = (false, s') ∧
      Bookkept texts s') ∨
      ∃ s', s.intend texts kind sourceId failureId hash operationId = (true, s') ∧
        ∀ action, Bookkept texts (s'.setAction operationId hash action) := by
  obtain ⟨store, existing, hintend, hstore, hget⟩ | ⟨store, message, hintend, hstore⟩ |
    ⟨store, operation, time, hintend, hrecorded⟩ :=
    intend_cases texts kind sourceId failureId hash operationId s
  · have hkept : Bookkept texts { s with store := store } :=
      h.kept (.of_same hstore rfl rfl rfl rfl rfl)
    exact .inl ⟨_, hintend, hkept.answer fun _ => h.replayed hget⟩
  · have hkept : Bookkept texts { s with store := store } :=
      h.kept (.of_same hstore rfl rfl rfl rfl rfl)
    exact .inl ⟨_, hintend, hkept.answer fun hkind => by cases hkind⟩
  · exact .inr ⟨_, hintend, h.begin hstarted hrecorded⟩

theorem Bookkept.mutate (h : Bookkept texts s) (hstarted : s.started = true)
    (kind : OperationKind) (sourceId : String)
    (failureId : Option String) (request : JsValue) (operationId : String) :
    Bookkept texts (s.mutate texts kind sourceId failureId request operationId) := by
  unfold OperatorService.mutate
  dsimp only
  obtain ⟨s', hintend, hdone⟩ | ⟨s', hintend, hbegun⟩ :=
    h.intend hstarted kind sourceId failureId (requestHash texts.toRecordTexts kind request) operationId
  · rw [hintend]
    exact hdone
  · rw [hintend]
    exact hbegun .working

theorem Kept.setAction {operationId hash : String} (action : Action) (h : Kept s s')
    (hmutations : s'.mutations = s.mutations) :
    Kept (s.setAction operationId hash action) (s'.setAction operationId hash action) where
  operations := h.operations
  begun := h.begun
  forgotten := h.forgotten
  answers := h.answers
  started := h.started
  running := by
    intro other m hm
    refine ⟨m, ?_, rfl⟩
    simpa [OperatorService.setAction, hmutations] using hm

theorem claim_mutations (request : RedriveRequest) (running : Bool) (s : OperatorService) :
    (s.claim request running).2.mutations = s.mutations := by
  unfold claim
  split
  · rfl
  split
  · rfl
  dsimp only
  split
  · rfl
  split
  · rfl
  split
  · rfl
  · rfl
  split
  · rfl
  split
  · rfl
  split <;> rfl

theorem Bookkept.redrive (h : Bookkept texts s) (hstarted : s.started = true)
    (request : RedriveRequest)
    (operationId : String) (running : Bool) :
    Bookkept texts (s.redrive texts request operationId running) := by
  have hread := (read_same (fun j => j.incidents.get request.failureId) s.store).journal
  unfold OperatorService.redrive
  dsimp only
  rcases hanswer : s.store.read fun j => j.incidents.get request.failureId with ⟨answer, store⟩
  rw [hanswer] at hread
  have hkept : Bookkept texts { s with store := store } :=
    h.kept (.of_same hread rfl rfl rfl rfl rfl)
  rcases answer with message | _ | record
  · exact hkept
  · exact hkept.answer fun hkind => by cases hkind
  · dsimp only
    obtain ⟨s', hintend, hdone⟩ | ⟨s', hintend, hbegun⟩ :=
      hkept.intend hstarted .redrive record.sourceId (some request.failureId)
        (requestHash texts.toRecordTexts .redrive (redriveJson request)) operationId
    · rw [hintend]
      exact hdone
    · rw [hintend]
      dsimp only
      have hclaim := kept_claim request running s'
      have hmutations := claim_mutations request running s'
      rcases hclaimed : s'.claim request running with ⟨claimed, s''⟩
      rw [hclaimed] at hclaim hmutations
      rcases claimed with draft | ⟨plan, current⟩
      · exact (hbegun (.settled draft)).kept (hclaim.setAction _ hmutations)
      · exact (hbegun (.reading plan current)).kept (hclaim.setAction _ hmutations)

/-! ### Finishing and restarting -/

section Finishing

variable {j j' : Journal}

theorem checkOperationResult_text {text canonical : String}
    (h : checkOperationResult (.ok text) = .ok canonical) : canonical = text := by
  unfold checkOperationResult at h
  dsimp only at h
  split at h
  · cases h
  · exact (Except.ok.inj h).symm

/-- What is recorded of a finished operation is the text it was given. -/
theorem finishOperation_text
    {operationId text time : String} {state : FinishState} {reply : StoreReply}
    (h : j.finishOperation operationId state (.ok text) time = .ok (reply, j')) :
    ∃ operation, j.operations.get operationId = some operation ∧ operation.state = .pending ∧
      j' = { j with operations := j.operations.set { operation with
        state := state.toOperationState
        result := some text
        completedAt := some time } } := by
  unfold Journal.finishOperation at h
  cases hresult : checkOperationResult (.ok text) with
  | error refusal =>
      rw [hresult] at h
      cases h
  | ok canonical =>
      obtain rfl := checkOperationResult_text hresult
      rw [hresult, ok_bind] at h
      unfold finishedOperation at h
      cases hget : j.operations.get operationId with
      | none =>
          rw [hget] at h
          cases h
      | some operation =>
          rw [hget] at h
          dsimp only at h
          by_cases hpending : operation.state = .pending
          · rw [if_neg (not_not.mpr hpending), ok_bind] at h
            cases h
            exact ⟨operation, rfl, hpending, rfl⟩
          · rw [if_pos hpending] at h
            cases h

theorem get_abandoned (time : String) (operationId : String) :
    (j.abandonPendingOperations time).2.operations.get operationId =
      (j.operations.get operationId).map fun operation =>
        if isPending operation then abandonedOperation time operation else operation := by
  have hvalues := InsertionMap.foldl_set (p := isPending) (f := abandonedOperation time)
    (fun _ => rfl) j.operations
  cases hget : j.operations.get operationId with
  | none =>
      rw [Option.map_none, InsertionMap.get_eq_none]
      intro operation hmem
      unfold abandonPendingOperations at hmem
      rw [hvalues] at hmem
      obtain ⟨before, hbefore, rfl⟩ := List.mem_map.mp hmem
      have hne := InsertionMap.get_eq_none.mp hget before hbefore
      split <;> exact hne
  | some operation =>
      obtain ⟨hmem, rfl⟩ := InsertionMap.get_eq_some.mp hget
      rw [Option.map_some, InsertionMap.get_eq_some]
      refine ⟨?_, by split <;> rfl⟩
      unfold abandonPendingOperations
      rw [hvalues]
      exact List.mem_map_of_mem hmem

end Finishing

/-- The caller is answered what is recorded, or the operation stays pending. -/
theorem Bookkept.finish (h : Bookkept texts s) {operationId hash : String} {draft : Draft}
    (hm : s.mutations operationId = some ⟨hash, .settled draft⟩) :
    Bookkept texts (s.finish texts operationId hash draft) := by
  have hclock := s.store.nowIso_same.journal
  unfold OperatorService.finish
  rcases htime : s.store.nowIso with ⟨time, store⟩
  rw [htime] at hclock
  dsimp only at hclock ⊢
  have hsubset : s.answers ⊆ s.answers ++ [⟨operationId, hash, draft, .ran⟩] :=
    List.subset_append_left _ _
  have hrunning : ∀ other m, Function.update s.mutations operationId none other = some m →
      other ≠ operationId ∧ s.mutations other = some m := by
    intro other m hother
    by_cases hsame : other = operationId
    · subst hsame
      rw [Function.update_self] at hother
      cases hother
    · rw [Function.update_of_ne hsame] at hother
      exact ⟨hsame, hother⟩
  have hreplays : ∀ s' : OperatorService, s'.begun = s.begun →
      s'.answers = s.answers ++ [⟨operationId, hash, draft, .ran⟩] →
      ∀ a ∈ s'.answers, a.kind = .replayed → ReplayOf s' a := by
    intro s' hbegun hanswers a ha hkind
    rw [hanswers] at ha
    rcases List.mem_append.mp ha with hold | hnew
    · exact (h.replays a hold hkind).mono (fun _ hmem => hbegun ▸ hmem) (hanswers ▸ hsubset)
    · rw [List.mem_singleton.mp hnew] at hkind
      cases hkind
  have hidle : s.started = false → ∀ other,
      Function.update s.mutations operationId none other = none := by
    intro hstarted other
    cases hother : Function.update s.mutations operationId none other with
    | none => rfl
    | some m => cases (h.idle hstarted other).symm.trans (hrunning other m hother).2
  obtain ⟨operation, hget, hpending, hhash⟩ := h.running operationId _ hm
  obtain ⟨refusal, store', hcall, hsame⟩ | ⟨reply, store', hcall, -, -, haccepted⟩ :=
    call_cases (.finishOperation operationId (finishState draft)
      (.ok (texts.resultText operationId draft)) time) store
  · have hjournal := hsame.journal.trans hclock
    rw [hcall]
    constructor
    · intro other
      unfold isStored
      dsimp only
      rw [hjournal]
      exact h.once other
    · exact h.settled
    · intro other m hother
      dsimp only
      rw [hjournal]
      exact h.running other m (hrunning other m hother).2
    · intro other found text hfound hstate hresult
      dsimp only at hfound
      rw [hjournal] at hfound
      obtain ⟨earlier, htext, hran⟩ := h.recorded other found text hfound hstate hresult
      exact ⟨earlier, htext, hsubset hran⟩
    · intro other found hfound
      dsimp only at hfound
      rw [hjournal] at hfound
      exact h.known other found hfound
    · exact hreplays _ rfl rfl
    · exact hidle
  · rw [hclock] at haccepted
    obtain ⟨pending, hpendingGet, -, hafter⟩ := finishOperation_text haccepted
    obtain rfl := Option.some.inj (hget.symm.trans hpendingGet)
    obtain rfl := InsertionMap.key_of_get hget
    have hself : store'.journal.operations.get operation.operationId = some { operation with
        state := (finishState draft).toOperationState
        result := some (texts.resultText operation.operationId draft)
        completedAt := some time } := by
      rw [hafter]
      exact InsertionMap.get_set_self s.store.journal.operations _
    have hothers : ∀ other, other ≠ operation.operationId →
        store'.journal.operations.get other = s.store.journal.operations.get other := by
      intro other hother
      rw [hafter]
      exact InsertionMap.get_set_ne _ hother
    rw [hcall]
    constructor
    · intro other
      have hstored : (store'.journal.operations.get other).isSome = s.isStored other := by
        unfold isStored
        by_cases hother : other = operation.operationId
        · subst hother
          rw [hself, hget]
          rfl
        · rw [hothers other hother]
      have honce := h.once other
      rw [← hstored] at honce
      exact honce
    · exact h.settled
    · intro other m hother
      obtain ⟨hne, hbefore⟩ := hrunning other m hother
      dsimp only
      rw [hothers other hne]
      exact h.running other m hbefore
    · intro other found text hfound hstate hresult
      dsimp only at hfound
      by_cases hother : other = operation.operationId
      · subst hother
        obtain rfl := Option.some.inj (hself.symm.trans hfound)
        obtain rfl := Option.some.inj hresult
        refine ⟨draft, rfl, List.mem_append_right _ ?_⟩
        rw [hhash]
        exact List.mem_singleton_self _
      · rw [hothers other hother] at hfound
        obtain ⟨earlier, htext, hran⟩ := h.recorded other found text hfound hstate hresult
        exact ⟨earlier, htext, hsubset hran⟩
    · intro other found hfound
      dsimp only at hfound
      by_cases hother : other = operation.operationId
      · subst hother
        obtain rfl := Option.some.inj (hself.symm.trans hfound)
        exact h.known operation.operationId operation hget
      · rw [hothers other hother] at hfound
        exact h.known other found hfound
    · exact hreplays _ rfl rfl
    · exact hidle

theorem Bookkept.restarted (h : Bookkept texts s) (settings : OperatorSettings) :
    Bookkept texts (s.restarted settings) :=
  { h with
    running := fun _ _ hm => nomatch hm
    idle := fun _ _ => rfl }

/-- What a crash left pending has no result from then on. -/
theorem Bookkept.construct (h : Bookkept texts s) (hstopped : s.started = false) :
    Bookkept texts s.construct := by
  have hclock := s.store.nowIso_same.journal
  unfold OperatorService.construct
  rcases htime : s.store.nowIso with ⟨time, store⟩
  rw [htime] at hclock
  dsimp only at hclock ⊢
  obtain ⟨refusal, store', hcall, hsame⟩ | ⟨reply, store', hcall, -, -, haccepted⟩ :=
    call_cases (.abandonPendingOperations time) store
  · rw [hcall]
    exact h.kept (.of_same (hsame.journal.trans hclock) rfl rfl rfl rfl rfl)
  · rw [hclock] at haccepted
    have hafter : store'.journal = (s.store.journal.abandonPendingOperations time).2 :=
      (congrArg Prod.snd (Except.ok.inj haccepted)).symm
    have hget : ∀ operationId, store'.journal.operations.get operationId =
        (s.store.journal.operations.get operationId).map fun operation =>
          if isPending operation then abandonedOperation time operation else operation := by
      intro operationId
      rw [hafter]
      exact get_abandoned time operationId
    have hnone := h.idle hstopped
    rw [hcall]
    constructor
    · intro operationId
      have honce := h.once operationId
      unfold isStored at honce ⊢
      dsimp only
      rw [hget, Option.isSome_map]
      exact honce
    · exact h.settled
    · intro operationId m hm
      cases (hnone operationId).symm.trans hm
    · intro operationId operation text hfound hstate hresult
      dsimp only at hfound
      rw [hget] at hfound
      obtain ⟨before, hbefore, heq⟩ := Option.map_eq_some_iff.mp hfound
      by_cases hpending : isPending before
      · rw [if_pos hpending] at heq
        subst heq
        cases hresult
      · rw [if_neg hpending] at heq
        subst heq
        exact h.recorded operationId before text hbefore hstate hresult
    · intro operationId operation hfound
      dsimp only at hfound
      rw [hget] at hfound
      obtain ⟨before, hbefore, rfl⟩ := Option.map_eq_some_iff.mp hfound
      have hhash : (if isPending before then abandonedOperation time before
          else before).requestHash = before.requestHash := by
        split <;> rfl
      rw [hhash]
      exact h.known operationId before hbefore
    · exact h.replays
    · intro hstarted
      cases hstarted

/-! ### Every run -/

theorem Bookkept.advance (h : Bookkept texts s) {operationId : String} {m : Mutation}
    (hm : s.mutations operationId = some m) (e : OperatorEvent) :
    Bookkept texts (s.advance texts operationId m e) := by
  have hkept : Kept s s := .of_same rfl rfl rfl rfl rfl rfl
  unfold OperatorService.advance
  split
  · exact h.kept (hkept.goes_on _ hm)
  · rename_i read plan current hreading
    have hsame := (recheck_same texts plan current read s.store).journal
    rcases hrecheck : recheck texts plan current read s.store with ⟨answer, store⟩
    rw [hrecheck] at hsame
    have hread : Kept s { s with store := store } := .of_same hsame rfl rfl rfl rfl rfl
    cases answer with
    | error draft => exact h.kept (hread.goes_on _ hm)
    | ok raw => exact h.kept (hread.goes_on _ hm)
  · split <;> exact h.kept (hkept.goes_on _ hm)
  · exact h.kept (hkept.goes_on _ hm)
  · rename_i prepared counts plan current raw hmapping
    have hgoes := hkept.goes_on
      (.redriven plan current (redriveOutcome plan.outputHash counts prepared)) hm
    refine h.kept ?_
    unfold mappedRedrive
    dsimp only
    split
    · exact hgoes.trans (.of_same rfl rfl rfl rfl rfl rfl)
    · exact hgoes
  · rename_i plan current outcome hredriven
    have hoperations : (redriveSettled operationId current outcome s.store).2.journal.operations =
        s.store.journal.operations := noted_operations current operationId _ s.store
    have hnoted : Kept s
        { s with store := (redriveSettled operationId current outcome s.store).2 } :=
      { hkept with operations := hoperations }
    exact h.kept (hnoted.goes_on _ hm)
  · rename_i draft hsettled
    refine h.finish ?_
    rw [hm]
    cases m
    cases hsettled
    rfl
  · exact h

theorem Bookkept.handle (h : Bookkept texts s) (e : OperatorEvent) :
    Bookkept texts (s.handle texts e) := by
  cases e with
  | restart settings => exact h.restarted settings
  | construct =>
      unfold OperatorService.handle
      dsimp only
      split
      · exact h
      · rename_i hstarted
        exact h.construct (Bool.not_eq_true _ ▸ hstarted)
  | stored c =>
      unfold OperatorService.handle
      dsimp only
      split
      · rename_i hkeeps
        have hkept : Kept s s := .of_same rfl rfl rfl rfl rfl rfl
        exact h.kept { hkept with operations := keeping_call_operations hkeeps s.store }
      · exact h
  | evaluate ticket failureId expectedRevision =>
      unfold OperatorService.handle
      dsimp only
      split
      · exact h.kept (kept_evaluate ticket failureId expectedRevision s)
      · exact h
  | evidenceRead ticket read =>
      unfold OperatorService.handle
      dsimp only
      split
      · split
        · exact h
        · exact h.kept (kept_evidenceRead _ read s)
      · exact h
  | evaluated ticket prepared running planId =>
      unfold OperatorService.handle
      dsimp only
      split
      · split
        · exact h.kept (kept_recordEvaluated _ _ prepared running planId s)
        · exact h
      · exact h
  | mutate kind sourceId failureId request operationId =>
      unfold OperatorService.handle
      dsimp only
      split
      · rename_i hstarted
        exact h.mutate hstarted kind sourceId failureId request operationId
      · exact h
  | redrive request generated running =>
      unfold OperatorService.handle
      dsimp only
      split
      · rename_i hstarted
        exact h.redrive hstarted request _ running
      · exact h
  | acted operationId draft | rechecked operationId read | hooked operationId running
  | mapped operationId prepared counts | redriven operationId | finish operationId =>
      unfold OperatorService.handle
      dsimp only
      split
      · rename_i m hm
        exact h.advance hm _
      · exact h

/-- The service as a machine: anything may happen at any time. -/
def machine (texts : OperatorTexts) : Machine OperatorService OperatorOccurrence where
  step := step texts
  allowed _ _ := True

theorem bookkept_step (h : Bookkept texts s) (o : OperatorOccurrence) :
    Bookkept texts (s.step texts o) :=
  (h.kept (kept_given o s)).handle o.event

theorem bookkept_after (texts : OperatorTexts) (settings : OperatorSettings)
    (occurrences : List OperatorOccurrence) :
    Bookkept texts ((machine texts).after (initial settings) occurrences) :=
  Machine.invariant (P := Bookkept texts) (fun _ o h _ => bookkept_step h o)
    (bookkept_initial texts settings) ((machine texts).admits_of_allowed (fun _ _ => trivial) _ _)

/-- The action of an ID ran once for each time the ID was recorded, and only a settled operation
is forgotten. -/
structure ActsOnce (s : OperatorService) : Prop where
  once : ∀ operationId, (s.begun.map (·.1)).count operationId =
    (s.forgotten.map (·.operationId)).count operationId + if s.isStored operationId then 1 else 0
  settled : ∀ operation ∈ s.forgotten, operation.state ≠ .pending
  recorded : ∀ operationId m, s.mutations operationId = some m →
    ∃ operation, s.store.journal.operations.get operationId = some operation ∧
      operation.state = .pending ∧ operation.requestHash = m.requestHash

/-- Operations act once, over every run with crashes and failing store calls. -/
theorem actsOnce_after (texts : OperatorTexts) (settings : OperatorSettings)
    (occurrences : List OperatorOccurrence) :
    ActsOnce ((machine texts).after (initial settings) occurrences) := by
  have hbookkept := bookkept_after texts settings occurrences
  exact ⟨hbookkept.once, hbookkept.settled, hbookkept.running⟩

/-- A repeated operation ID is refused for another request, is said to be running or interrupted,
or is answered as the call that ran it was. -/
def ReplaysAnswer (s : OperatorService) : Prop :=
  ∀ a ∈ s.answers, a.kind = .replayed → ReplayOf s a

theorem replaysAnswer_after (texts : OperatorTexts) (settings : OperatorSettings)
    (occurrences : List OperatorOccurrence) :
    ReplaysAnswer ((machine texts).after (initial settings) occurrences) :=
  (bookkept_after texts settings occurrences).replays

end OperatorService

end StreamOtter
