import StreamOtter.OperatorOperations
import StreamOtter.ServedStore
import Mathlib.Data.List.Count

/-!
# What a plan approves

An admitted redrive used up a plan of its own, at the revision, the evidence and the output that
the plan was issued for.  When no plan of an incident is issued while a redrive of it is under
way, the incident's record is admitted once at each of its revisions.
-/

namespace StreamOtter

open FailureStore StoreAccess Journal Relation

namespace OperatorService

/-! ### Claims -/

/-- What a redrive under way holds: its plan, the incident as it was, and whether the gateway
has admitted the record. -/
structure Claim where
  plan : Plan
  current : IncidentRecord
  admitted : Bool

def Action.claim : Action → Option Claim
  | .reading plan current | .prepared plan current _ | .mapping plan current _ =>
      some ⟨plan, current, false⟩
  | .redriven plan current (.admitted _) => some ⟨plan, current, true⟩
  | .redriven plan current _ => some ⟨plan, current, false⟩
  | .working | .settled _ => none

def claims (s : OperatorService) (operationId : String) : Option Claim :=
  (s.mutations operationId).bind fun m => Action.claim m.action

variable {texts : OperatorTexts} {s s' : OperatorService}

theorem claims_setAction (operationId hash : String) (action : Action) (s : OperatorService) :
    (s.setAction operationId hash action).claims =
      Function.update s.claims operationId (Action.claim action) := by
  funext other
  unfold claims setAction
  by_cases hother : other = operationId
  · subst hother
    simp
  · simp [hother]

/-! ### What a step does to plans and claims -/

def LaterJournal (s s' : OperatorService) : Prop :=
  ReflTransGen Journal.Next s.store.journal s'.store.journal

theorem later_of_journal (h : s'.store.journal = s.store.journal) : LaterJournal s s' := by
  unfold LaterJournal
  rw [h]

theorem later_call (c : StoreCall) (s : StoreAccess) :
    ReflTransGen Journal.Next s.journal (s.call c).2.journal := by
  obtain ⟨refusal, s', hcall, hsame⟩ | ⟨reply, s', hcall, -, -, haccepted⟩ := call_cases c s
  · rw [hcall, hsame.journal]
  · rw [hcall]
    exact .single ⟨c, reply, haccepted⟩

/-- No plan appears, no record is admitted, and no claim is made. -/
structure Fewer (s s' : OperatorService) : Prop where
  plans : ∀ plan ∈ s'.plans.values, plan ∈ s.plans.values
  issued : s'.issued = s.issued
  admitted : s'.admitted = s.admitted
  begun : s.begun.Sublist s'.begun
  claims : ∀ operationId c, s'.claims operationId = some c → s.claims operationId = some c

/-- Besides, a claim whose record is admitted stays. -/
structure Quiet (s s' : OperatorService) : Prop extends Fewer s s' where
  kept : ∀ operationId c, s.claims operationId = some c → c.admitted →
    s'.claims operationId = some c
  later : LaterJournal s s'

theorem Quiet.of_eq (hplans : s'.plans = s.plans) (hissued : s'.issued = s.issued)
    (hadmitted : s'.admitted = s.admitted) (hbegun : s'.begun = s.begun)
    (hmutations : s'.mutations = s.mutations) (hlater : LaterJournal s s') : Quiet s s' := by
  have hclaims : s'.claims = s.claims := by
    unfold OperatorService.claims
    rw [hmutations]
  refine ⟨⟨?_, ?_, ?_, ?_, ?_⟩, ?_, ?_⟩
  · rw [hplans]
    exact fun _ hplan => hplan
  · exact hissued
  · exact hadmitted
  · rw [hbegun]
  · rw [hclaims]
    exact fun _ _ hclaim => hclaim
  · rw [hclaims]
    exact fun _ _ hclaim _ => hclaim
  · exact hlater

theorem Quiet.rfl : Quiet s s := .of_eq (by rfl) (by rfl) (by rfl) (by rfl) (by rfl) .refl

theorem Quiet.trans {s'' : OperatorService} (h : Quiet s s') (h' : Quiet s' s'') :
    Quiet s s'' where
  plans plan hplan := h.plans plan (h'.plans plan hplan)
  issued := h'.issued.trans h.issued
  admitted := h'.admitted.trans h.admitted
  begun := h.begun.trans h'.begun
  claims operationId c hc := h.claims operationId c (h'.claims operationId c hc)
  kept operationId c hc hdone :=
    h'.kept operationId c (h.kept operationId c hc hdone) hdone
  later := ReflTransGen.trans h.later h'.later

/-- An operation whose record is not admitted goes on, or is given up. -/
theorem Quiet.goes_on {operationId hash : String} {action : Action} (h : Quiet s s')
    (hbefore : ∀ c, s.claims operationId = some c → c.admitted = false)
    (hafter : ∀ c, Action.claim action = some c → s.claims operationId = some c) :
    Quiet s (s'.setAction operationId hash action) := by
  refine { h with claims := ?_, kept := ?_ }
  · intro other c hc
    rw [claims_setAction] at hc
    by_cases hother : other = operationId
    · subst hother
      rw [Function.update_self] at hc
      exact hafter c hc
    · rw [Function.update_of_ne hother] at hc
      exact h.claims other c hc
  · intro other c hc hdone
    rw [claims_setAction]
    by_cases hother : other = operationId
    · subst hother
      cases (hbefore c hc).symm.trans hdone
    · rw [Function.update_of_ne hother]
      exact h.kept other c hc hdone

/-- A plan is issued for an incident that was read earlier. -/
structure Issues (s : OperatorService) (planId failureId : String) (plan : Plan)
    (s' : OperatorService) : Prop where
  planId : plan.planId = planId
  failureId : plan.failureId = failureId
  plans : ∀ other ∈ s'.plans.values, other = plan ∨ other ∈ s.plans.values
  issued : s'.issued = s.issued ++ [plan]
  admitted : s'.admitted = s.admitted
  begun : s'.begun = s.begun
  claims : s'.claims = s.claims
  later : LaterJournal s s'

/-- A redrive claims a plan for the incident as it is stored. -/
structure Claims (s : OperatorService) (operationId : String) (plan : Plan)
    (current : IncidentRecord) (s' : OperatorService) : Prop where
  held : plan ∈ s.plans.values
  stored : s.store.journal.incidents.get current.failureId = some current
  failureId : current.failureId = plan.failureId
  revision : current.revision = plan.incidentRevision
  fresh : s.store.journal.operations.get operationId = none
  plans : ∀ other ∈ s'.plans.values, other ∈ s.plans.values ∧ other.failureId ≠ plan.failureId
  issued : s'.issued = s.issued
  admitted : s'.admitted = s.admitted
  begun : ∃ hash, s'.begun = s.begun ++ [(operationId, hash)]
  claims : s'.claims = Function.update s.claims operationId (some ⟨plan, current, false⟩)
  later : LaterJournal s s'

/-- The gateway admits the record of a claim. -/
structure Admits (s : OperatorService) (operationId : String) (plan : Plan)
    (current : IncidentRecord) (evidenceHash : String) (s' : OperatorService) : Prop where
  claimed : s.claims operationId = some ⟨plan, current, false⟩
  plans : s'.plans = s.plans
  issued : s'.issued = s.issued
  admitted : s'.admitted = s.admitted ++ [⟨operationId, plan.planId, current.failureId,
    current.revision, evidenceHash, plan.outputHash⟩]
  begun : s'.begun = s.begun
  claims : s'.claims = Function.update s.claims operationId (some ⟨plan, current, true⟩)
  later : LaterJournal s s'

/-- The gateway's answer is noted on the incident. -/
structure Notes (faults : List (Option String)) (s : OperatorService) (operationId : String)
    (claim : Claim) (s' : OperatorService) : Prop where
  claimed : s.claims operationId = some claim
  plans : s'.plans = s.plans
  issued : s'.issued = s.issued
  admitted : s'.admitted = s.admitted
  begun : s'.begun = s.begun
  claims : s'.claims = Function.update s.claims operationId none
  later : LaterJournal s s'
  noted : faults = [] → s.store.journal.Known claim.current →
    ∃ latest, s'.store.journal.incidents.get claim.current.failureId = some latest ∧
      claim.current.revision < latest.revision

/-- What a step does, as far as plans are concerned. -/
inductive Redrives (texts : OperatorTexts) (s : OperatorService) (o : OperatorOccurrence)
    (s' : OperatorService) : Prop
  | quiet (h : Quiet s s')
  | issues {ticket : ℕ} {outputs : List PlannedOutput} {outputHash planId : String}
      {running : Bool} {evaluation : OperatorEvaluation} {plan : Plan}
      (hevent : o.event = .evaluated ticket (some (.ok outputs outputHash)) running planId)
      (hticket : s.evaluating.get ticket = some evaluation)
      (h : Issues s planId evaluation.record.failureId plan s')
  | claims {operationId : String} {plan : Plan} {current : IncidentRecord}
      (h : Claims s operationId plan current s')
  | admits {operationId hash : String} {plan : Plan} {current : IncidentRecord}
      {raw : RawEvidence}
      (hmapping : s.mutations operationId = some ⟨hash, .mapping plan current raw⟩)
      (h : Admits s operationId plan current (raw.evidenceHash texts.sha256Hex) s')
  | notes {operationId : String} {claim : Claim} (hevent : o.event = .redriven operationId)
      (h : Notes o.faults s operationId claim s')
  | restarts {settings : OperatorSettings} (hevent : o.event = .restart settings)
      (h : s' = s.restarted settings)

/-! ### Each event -/

theorem quiet_given (o : OperatorOccurrence) (s : OperatorService) : Quiet s (s.given o) :=
  .of_eq rfl rfl rfl rfl rfl .refl

theorem quiet_evaluate (ticket : ℕ) (failureId : String) (expectedRevision : ℕ)
    (s : OperatorService) : Quiet s (s.evaluate ticket failureId expectedRevision) := by
  have hread := (read_same (fun j => j.incidents.get failureId) s.store).journal
  unfold evaluate
  rcases hanswer : s.store.read fun j => j.incidents.get failureId with ⟨answer, store⟩
  rw [hanswer] at hread
  have hlater : ReflTransGen Journal.Next s.store.journal store.journal := by rw [hread]
  rcases answer with message | _ | record
  · exact .of_eq rfl rfl rfl rfl rfl hlater
  · exact .of_eq rfl rfl rfl rfl rfl hlater
  · dsimp only
    split
    · exact .of_eq rfl rfl rfl rfl rfl hlater
    split
    · exact .of_eq rfl rfl rfl rfl rfl hlater
    split <;> exact .of_eq rfl rfl rfl rfl rfl hlater

theorem quiet_evidenceRead (evaluation : OperatorEvaluation) (read : Option EvidenceRead)
    (s : OperatorService) : Quiet s (s.evidenceRead evaluation read) := by
  rcases read with _ | ⟨raw⟩ | ⟨expired, message⟩ <;> exact .of_eq rfl rfl rfl rfl rfl .refl

theorem keptPlans_subset (now : ℕ) (plans : InsertionMap Plan.planId) {plan : Plan}
    (h : plan ∈ (keptPlans now plans).values) : plan ∈ plans.values :=
  List.mem_of_mem_filter (List.mem_of_mem_filter h)

theorem issues_issuePlan (texts : RecordTexts) (record : IncidentRecord)
    (outputs : List PlannedOutput) (outputHash planId : String) (s : OperatorService) :
    Issues s planId record.failureId (s.issuePlan texts record outputs outputHash planId).1
      (s.issuePlan texts record outputs outputHash planId).2 := by
  have hclock := s.store.dateNow_same.journal
  unfold issuePlan
  rcases hnow : s.store.dateNow with ⟨now, store⟩
  rw [hnow] at hclock
  constructor
  · rfl
  · rfl
  · intro other hother
    rcases InsertionMap.mem_set.mp hother with rfl | ⟨hkept, -⟩
    · exact .inl rfl
    · exact .inr (keptPlans_subset now s.plans hkept)
  · rfl
  · rfl
  · rfl
  · rfl
  · exact later_of_journal hclock

/-- An evaluation ends, and issues a plan or does not. -/
theorem recordEvaluated_cases (texts : RecordTexts) (evaluation : OperatorEvaluation)
    (prepared : Option OperatorPrepared) (running : Bool) (planId : String)
    (s : OperatorService) :
    Quiet s (s.recordEvaluated texts evaluation prepared running planId) ∨
      ∃ outputs outputHash plan, prepared = some (.ok outputs outputHash) ∧
        Issues s planId evaluation.record.failureId plan
          (s.recordEvaluated texts evaluation prepared running planId) := by
  rcases prepared with _ | ⟨outputs, outputHash⟩ | ⟨stage, failureClass, reason⟩ | _
  · exact .inl (.of_eq rfl rfl rfl rfl rfl .refl)
  · have hread := (redriveBlocker_same s.settings running evaluation.record s.store).journal
    unfold recordEvaluated
    dsimp only
    rcases hblocker : redriveBlocker s.settings running evaluation.record s.store with
      ⟨answer, store⟩
    rw [hblocker] at hread
    have hlater : ReflTransGen Journal.Next s.store.journal store.journal := by rw [hread]
    rcases answer with message | _ | blocked
    · exact .inl (.of_eq rfl rfl rfl rfl rfl hlater)
    · have hissues := issues_issuePlan texts evaluation.record outputs outputHash planId
        { s with store := store }
      refine .inr ⟨outputs, outputHash, ({ s with store := store }.issuePlan texts
        evaluation.record outputs outputHash planId).1, rfl, ?_⟩
      exact
        { planId := hissues.planId
          failureId := hissues.failureId
          plans := hissues.plans
          issued := hissues.issued
          admitted := hissues.admitted
          begun := hissues.begun
          claims := hissues.claims
          later := ReflTransGen.trans hlater hissues.later }
    · exact .inl (.of_eq rfl rfl rfl rfl rfl hlater)
  · exact .inl (.of_eq rfl rfl rfl rfl rfl .refl)
  · exact .inl (.of_eq rfl rfl rfl rfl rfl .refl)

/-- What the checks of a redrive find when they claim a plan. -/
structure Claimable (s : OperatorService) (request : RedriveRequest) (plan : Plan)
    (current : IncidentRecord) : Prop where
  held : plan ∈ s.plans.values
  failureId : plan.failureId = request.failureId
  stored : s.store.journal.incidents.get request.failureId = some current
  revision : current.revision = plan.incidentRevision

theorem claim_cases (request : RedriveRequest) (running : Bool) (s : OperatorService) :
    (∃ draft s', s.claim request running = (.error draft, s') ∧ Quiet s s' ∧
      s'.mutations = s.mutations) ∨
      ∃ plan current store, s.claim request running = (.ok (plan, current), { s with
          store := store
          plans := s.plans.filter fun other => other.failureId ≠ plan.failureId }) ∧
        Claimable s request plan current ∧ store.journal = s.store.journal := by
  unfold claim
  split
  · exact .inl ⟨_, _, rfl, .rfl, rfl⟩
  rename_i plan hplan
  split
  · exact .inl ⟨_, _, rfl, .rfl, rfl⟩
  rename_i hsame
  have hclock := s.store.dateNow_same.journal
  rcases hnow : s.store.dateNow with ⟨now, store⟩
  rw [hnow] at hclock
  dsimp only at hclock ⊢
  have hquiet : ∀ store' : StoreAccess, store'.journal = s.store.journal →
      Quiet s { s with store := store' } := fun store' hjournal =>
    .of_eq rfl rfl rfl rfl rfl (later_of_journal hjournal)
  split
  · refine .inl ⟨_, _, rfl, ?_, rfl⟩
    have hdeleted := hquiet store hclock
    exact { hdeleted with
      plans := fun other hother => List.mem_of_mem_filter hother }
  split
  · exact .inl ⟨_, _, rfl, hquiet store hclock, rfl⟩
  obtain ⟨message, store', hread, hsame'⟩ | ⟨store', hread, hsame'⟩ :=
    read_cases (fun j => j.incidents.get request.failureId) store
  · rw [hread]
    exact .inl ⟨_, _, rfl, hquiet store' (hsame'.journal.trans hclock), rfl⟩
  · have hjournal := hsame'.journal.trans hclock
    rw [hread, hclock]
    cases hget : s.store.journal.incidents.get request.failureId with
    | none => exact .inl ⟨_, _, rfl, hquiet store' hjournal, rfl⟩
    | some current =>
        dsimp only
        split
        · exact .inl ⟨_, _, rfl, hquiet store' hjournal, rfl⟩
        rename_i hrevision
        split
        · exact .inl ⟨_, _, rfl, hquiet store' hjournal, rfl⟩
        have hblocker := (redriveBlocker_same s.settings running current store').journal
        rcases hblocked : redriveBlocker s.settings running current store' with ⟨answer, store''⟩
        rw [hblocked] at hblocker
        have hafter := hblocker.trans hjournal
        rcases answer with thrown | _ | blocked
        · exact .inl ⟨_, _, rfl, hquiet store'' hafter, rfl⟩
        · refine .inr ⟨plan, current, store'', rfl, ?_, hafter⟩
          exact
            { held := InsertionMap.mem_of_get hplan
              failureId := not_not.mp hsame
              stored := hget
              revision := not_not.mp (not_or.mp hrevision).2 }
        · exact .inl ⟨_, _, rfl, hquiet store'' hafter, rfl⟩

/-- An operation that is not run leaves the plans alone; one that is run is recorded. -/
theorem intend_quiet (texts : OperatorTexts) (kind : OperationKind) (sourceId : String)
    (failureId : Option String) (hash operationId : String) (s : OperatorService) :
    (∃ s', s.intend texts kind sourceId failureId hash operationId = (false, s') ∧ Quiet s s') ∨
      ∃ s', s.intend texts kind sourceId failureId hash operationId = (true, s') ∧ Quiet s s' ∧
        s'.begun = s.begun ++ [(operationId, hash)] ∧ s'.plans = s.plans ∧
        s'.mutations = s.mutations ∧ s'.store.journal.incidents = s.store.journal.incidents ∧
        s.store.journal.operations.get operationId = none := by
  have hclock := s.store.nowIso_same.journal
  unfold intend
  rcases htime : s.store.nowIso with ⟨time, store⟩
  rw [htime] at hclock
  dsimp only at hclock ⊢
  obtain ⟨refusal, store', hcall, hsame⟩ | ⟨reply, store', hcall, -, -, haccepted⟩ :=
    call_cases (.beginOperation ⟨operationId, kind, sourceId, failureId, hash, time⟩) store
  · rw [hcall]
    exact .inl ⟨_, rfl, .of_eq rfl rfl rfl rfl rfl
      (later_of_journal (hsame.journal.trans hclock))⟩
  · rw [hcall]
    rw [hclock] at haccepted
    have hlater : ReflTransGen Journal.Next s.store.journal store'.journal :=
      .single ⟨_, reply, haccepted⟩
    have hincidents := (call_incidents haccepted).kept rfl
    rcases beginOperation_ok haccepted with ⟨new, existing, -, -, rfl, hafter⟩ |
      ⟨new, ids, hnew, hfresh, rfl, hafter⟩
    · exact .inl ⟨_, rfl, .of_eq rfl rfl rfl rfl rfl hlater⟩
    · obtain ⟨rfl, -⟩ := newOperation_ok hnew
      refine .inr ⟨_, rfl, ⟨⟨?_, ?_, ?_, ?_, ?_⟩, ?_, ?_⟩, rfl, rfl, rfl, hincidents, hfresh⟩
      · exact fun _ hplan => hplan
      · rfl
      · rfl
      · exact List.sublist_append_left _ _
      · exact fun _ _ hclaim => hclaim
      · exact fun _ _ hclaim _ => hclaim
      · exact hlater

theorem Bookkept.unclaimed (h : Bookkept texts s) {operationId : String}
    (hfresh : s.store.journal.operations.get operationId = none) :
    s.mutations operationId = none := by
  cases hm : s.mutations operationId with
  | none => rfl
  | some m =>
      obtain ⟨operation, hget, -⟩ := h.running operationId m hm
      cases hfresh.symm.trans hget

theorem claims_of_none {operationId : String} (h : s.mutations operationId = none) :
    s.claims operationId = none := by
  unfold claims
  rw [h]
  rfl

theorem quiet_mutate (hbookkept : Bookkept texts s) (kind : OperationKind) (sourceId : String)
    (failureId : Option String) (request : JsValue) (operationId : String) :
    Quiet s (s.mutate texts kind sourceId failureId request operationId) := by
  unfold mutate
  dsimp only
  obtain ⟨s', hintend, hquiet⟩ | ⟨s', hintend, hquiet, -, -, -, -, hfresh⟩ :=
    intend_quiet texts kind sourceId failureId
      (requestHash texts.toRecordTexts kind request) operationId s
  · rw [hintend]
    exact hquiet
  · rw [hintend]
    have hnone := claims_of_none (hbookkept.unclaimed hfresh)
    refine hquiet.goes_on ?_ ?_
    · intro c hc
      cases hnone.symm.trans hc
    · intro c hc
      cases hc

/-- A redrive claims a plan, or leaves the plans as they are. -/
theorem redrive_cases (hbookkept : Bookkept texts s) (request : RedriveRequest)
    (operationId : String) (running : Bool) :
    Quiet s (s.redrive texts request operationId running) ∨
      ∃ plan current, Claims s operationId plan current
        (s.redrive texts request operationId running) := by
  unfold redrive
  dsimp only
  obtain ⟨message, store, hread, hsame⟩ | ⟨store, hread, hsame⟩ :=
    read_cases (fun j => j.incidents.get request.failureId) s.store
  · rw [hread]
    exact .inl (.of_eq rfl rfl rfl rfl rfl (later_of_journal hsame.journal))
  · have hread' : Quiet s { s with store := store } :=
      .of_eq rfl rfl rfl rfl rfl (later_of_journal hsame.journal)
    rw [hread]
    cases s.store.journal.incidents.get request.failureId with
    | none => exact .inl (hread'.trans (.of_eq rfl rfl rfl rfl rfl .refl))
    | some record =>
        dsimp only
        obtain ⟨s', hintend, hquiet⟩ | ⟨s', hintend, hquiet, hbegun, hplans, hmutations,
            hincidents, hfresh⟩ :=
          intend_quiet texts .redrive record.sourceId (some request.failureId)
            (requestHash texts.toRecordTexts .redrive (redriveJson request)) operationId
            { s with store := store }
        · rw [hintend]
          exact .inl (hread'.trans hquiet)
        · rw [hintend]
          dsimp only
          have hbefore := hread'.trans hquiet
          have hfreshStored : s.store.journal.operations.get operationId = none := by
            rw [← hsame.journal]
            exact hfresh
          have hnone := claims_of_none (hbookkept.unclaimed hfreshStored)
          obtain ⟨draft, s'', hclaim, hclaimed, -⟩ | ⟨plan, current, after, hclaim, hclaimable,
              hjournal⟩ := claim_cases request running s'
          · rw [hclaim]
            refine .inl ((hbefore.trans hclaimed).goes_on ?_ ?_)
            · intro c hc
              cases hnone.symm.trans hc
            · intro c hc
              cases hc
          · rw [hclaim]
            dsimp only
            have hstored := hclaimable.stored
            rw [hincidents] at hstored
            have hid : current.failureId = request.failureId := InsertionMap.key_of_get hstored
            refine .inr ⟨plan, current, ?_⟩
            constructor
            · exact hplans ▸ hclaimable.held
            · rw [hid, ← hsame.journal]
              exact hstored
            · exact hid.trans hclaimable.failureId.symm
            · exact hclaimable.revision
            · exact hfreshStored
            · intro other hother
              obtain ⟨hheld, hother'⟩ := List.mem_filter.mp hother
              exact ⟨hplans ▸ hheld, of_decide_eq_true hother'⟩
            · exact hbefore.issued
            · exact hbefore.admitted
            · exact ⟨_, hbegun⟩
            · rw [claims_setAction]
              have hclaims : ({ s' with
                  store := after
                  plans := s'.plans.filter fun other => other.failureId ≠ plan.failureId }
                  : OperatorService).claims = s.claims := by
                unfold claims
                rw [hmutations]
              rw [hclaims]
              rfl
            · refine ReflTransGen.trans hbefore.later ?_
              show ReflTransGen Journal.Next s'.store.journal after.journal
              rw [hjournal]

/-- Recording the answer on the incident raises its revision when no store call throws. -/
theorem noted_raises {current : IncidentRecord} {operationId detail : String} {s : StoreAccess}
    (hfaults : s.faults = []) (hknown : s.journal.Known current) :
    ∃ latest, (noted current operationId detail s).2.journal.incidents.get current.failureId =
        some latest ∧ current.revision < latest.revision := by
  obtain ⟨latest, hget, hle, -⟩ := hknown
  have hid : latest.failureId = current.failureId := InsertionMap.key_of_get hget
  have hclock := s.nowIso_same
  have hserved := s.nowIso_faults
  unfold noted
  rw [read_served hfaults, hget]
  dsimp only
  rcases htime : s.nowIso with ⟨time, s₁⟩
  rw [htime] at hclock hserved
  have hlatest : s₁.journal.incidents.get latest.failureId = some latest := by
    rw [hclock.journal, hid]
    exact hget
  have hcall := call_accepted (hserved.trans hfaults) (journal_update {}
    ⟨time, .operator, some (sliced 512 detail), some operationId⟩ hlatest)
  dsimp only [Option.getD_some]
  rw [hcall]
  refine ⟨patched {} time latest, ?_, Nat.lt_succ_of_le hle⟩
  rw [← hid]
  exact InsertionMap.get_set_self s₁.journal.incidents (patched {} time latest)

theorem noted_later (current : IncidentRecord) (operationId detail : String) (s : StoreAccess) :
    ReflTransGen Journal.Next s.journal (noted current operationId detail s).2.journal := by
  have hread := (read_same (fun j => j.incidents.get current.failureId) s).journal
  unfold noted
  rcases hanswer : s.read fun j => j.incidents.get current.failureId with ⟨answer, s₁⟩
  rw [hanswer] at hread
  cases answer with
  | error message =>
      dsimp only at hread ⊢
      rw [hread]
  | ok found =>
      dsimp only
      have hclock := s₁.nowIso_same.journal
      rcases htime : s₁.nowIso with ⟨time, s₂⟩
      rw [htime] at hclock
      dsimp only at hclock hread ⊢
      have hcall := later_call (.update (found.getD current).failureId
        (found.getD current).revision {}
        ⟨time, .operator, some (sliced 512 detail), some operationId⟩) s₂
      rw [hclock, hread] at hcall
      split
      · rename_i updated s₃ hupdated
        rw [hupdated] at hcall
        exact hcall
      · rename_i answer s₃ hupdated
        rw [hupdated] at hcall
        exact hcall

theorem claims_of_some {operationId : String} {m : Mutation}
    (hm : s.mutations operationId = some m) : s.claims operationId = Action.claim m.action := by
  unfold claims
  rw [hm]
  rfl

/-- An operation without an admitted record goes on. -/
theorem Quiet.advance {operationId : String} {m : Mutation} {action : Action} (h : Quiet s s')
    (hm : s.mutations operationId = some m)
    (hbefore : ∀ c, Action.claim m.action = some c → c.admitted = false)
    (hafter : ∀ c, Action.claim action = some c → Action.claim m.action = some c) :
    Quiet s (s'.setAction operationId m.requestHash action) := by
  refine h.goes_on ?_ ?_
  · intro c hc
    rw [claims_of_some hm] at hc
    exact hbefore c hc
  · intro c hc
    rw [claims_of_some hm]
    exact hafter c hc

theorem advance_redrives {operationId : String} {m : Mutation} {o : OperatorOccurrence}
    (hm : s.mutations operationId = some m) (hevent : operationOf o.event = some operationId)
    (hfaults : s.store.faults = o.faults) :
    Redrives texts s o (s.advance texts operationId m o.event) := by
  obtain ⟨hash, action⟩ := m
  unfold OperatorService.advance
  split
  · rename_i draft _ hworking
    dsimp only at hworking
    subst hworking
    refine .quiet (Quiet.rfl.advance hm ?_ ?_)
    · intro c hc
      cases hc
    · intro c hc
      cases hc
  · rename_i read plan current _ hreading
    dsimp only at hreading
    subst hreading
    have hsame := (recheck_same texts plan current read s.store).journal
    rcases hrecheck : recheck texts plan current read s.store with ⟨answer, store⟩
    rw [hrecheck] at hsame
    have hread : Quiet s { s with store := store } :=
      .of_eq rfl rfl rfl rfl rfl (later_of_journal hsame)
    cases answer with
    | error draft =>
        refine .quiet (hread.advance hm ?_ ?_)
        · intro c hc
          cases hc
          rfl
        · intro c hc
          cases hc
    | ok raw =>
        refine .quiet (hread.advance hm ?_ ?_)
        · intro c hc
          cases hc
          rfl
        · exact fun c hc => hc
  · rename_i running plan current raw _ hprepared
    dsimp only at hprepared
    subst hprepared
    split
    · refine .quiet (Quiet.rfl.advance hm ?_ ?_)
      · intro c hc
        cases hc
        rfl
      · exact fun c hc => hc
    · refine .quiet (Quiet.rfl.advance hm ?_ ?_)
      · intro c hc
        cases hc
        rfl
      · exact fun c hc => hc
  · rename_i plan current raw _ hmapping
    dsimp only at hmapping
    subst hmapping
    refine .quiet (Quiet.rfl.advance hm ?_ ?_)
    · intro c hc
      cases hc
      rfl
    · intro c hc
      cases hc
  · rename_i prepared counts plan current raw _ hmapping
    dsimp only at hmapping
    subst hmapping
    have hclaimed := claims_of_some hm
    have hunadmitted : ∀ outcome, (∀ given, outcome ≠ RedriveOutcome.admitted given) →
        Quiet s (s.setAction operationId hash (.redriven plan current outcome)) := by
      intro outcome hnot
      refine Quiet.rfl.advance hm ?_ ?_
      · intro c hc
        cases hc
        rfl
      · intro c hc
        cases outcome with
        | admitted given => exact absurd rfl (hnot given)
        | changed => exact hc
        | problem => exact hc
        | abandon => exact hc
    unfold mappedRedrive redriveOutcome
    dsimp only
    cases prepared with
    | abandon => exact .quiet (hunadmitted .abandon (fun _ h => by cases h))
    | problem stage failureClass reason =>
        exact .quiet (hunadmitted (.problem stage failureClass reason) (fun _ h => by cases h))
    | ok outputs outputHash =>
        by_cases hchanged : outputHash = plan.outputHash
        · subst hchanged
          dsimp only
          rw [if_neg (not_not.mpr rfl)]
          refine .admits hm ?_
          constructor
          · exact hclaimed
          · rfl
          · rfl
          · rfl
          · rfl
          · exact claims_setAction operationId hash _ s
          · exact .refl
        · dsimp only
          rw [if_pos hchanged]
          exact .quiet (hunadmitted .changed (fun _ h => by cases h))
  · rename_i other plan current outcome hother hredriven
    dsimp only at hredriven
    subst hredriven
    have hclaimed := claims_of_some hm
    obtain ⟨claim, hclaim, hcurrent⟩ : ∃ claim,
        Action.claim (.redriven plan current outcome) = some claim ∧ claim.current = current := by
      cases outcome with
      | admitted given => exact ⟨_, rfl, rfl⟩
      | changed => exact ⟨_, rfl, rfl⟩
      | problem => exact ⟨_, rfl, rfl⟩
      | abandon => exact ⟨_, rfl, rfl⟩
    rw [hother] at hevent
    obtain rfl : other = operationId := Option.some.inj hevent
    refine .notes hother (?_ : Notes o.faults s other claim _)
    constructor
    · exact hclaimed.trans hclaim
    · rfl
    · rfl
    · rfl
    · rfl
    · exact claims_setAction other hash _ _
    · exact noted_later current other _ s.store
    · intro hserved hknown
      rw [hcurrent] at hknown ⊢
      exact noted_raises (hfaults.trans hserved) hknown
  · rename_i draft _ hsettled
    dsimp only at hsettled
    subst hsettled
    have hclaimed := claims_of_some hm
    have hclock := s.store.nowIso_same.journal
    refine .quiet ?_
    have hclaims : (s.finish texts operationId hash draft).claims =
        Function.update s.claims operationId none := by
      funext other
      unfold claims finish
      by_cases hsame : other = operationId
      · subst hsame
        simp
      · simp [hsame]
    refine ⟨⟨?_, ?_, ?_, ?_, ?_⟩, ?_, ?_⟩
    · exact fun _ hplan => hplan
    · rfl
    · rfl
    · exact List.Sublist.refl _
    · intro other c hc
      rw [hclaims] at hc
      by_cases hsame : other = operationId
      · subst hsame
        rw [Function.update_self] at hc
        cases hc
      · rw [Function.update_of_ne hsame] at hc
        exact hc
    · intro other c hc hdone
      rw [hclaims]
      by_cases hsame : other = operationId
      · subst hsame
        cases hclaimed.symm.trans hc
      · rw [Function.update_of_ne hsame]
        exact hc
    · have hlater := later_call (.finishOperation operationId (finishState draft)
        (.ok (texts.resultText operationId draft)) s.store.nowIso.1) s.store.nowIso.2
      rw [hclock] at hlater
      exact hlater
  · exact .quiet .rfl

theorem quiet_construct (s : OperatorService) : Quiet s s.construct := by
  have hclock := s.store.nowIso_same.journal
  have hlater := later_call (.abandonPendingOperations s.store.nowIso.1) s.store.nowIso.2
  unfold OperatorService.construct
  rcases htime : s.store.nowIso with ⟨time, store⟩
  rw [htime] at hclock hlater
  dsimp only at hclock hlater ⊢
  rw [hclock] at hlater
  rcases hcall : store.call (.abandonPendingOperations time) with ⟨answer, store'⟩
  rw [hcall] at hlater
  cases answer with
  | error refusal => exact .of_eq rfl rfl rfl rfl rfl hlater
  | ok reply => exact .of_eq rfl rfl rfl rfl rfl hlater

/-- Every step is of one of these kinds. -/
theorem step_redrives (hbookkept : Bookkept texts s) (o : OperatorOccurrence) :
    Redrives texts (s.given o) o (s.step texts o) := by
  have hgiven : Bookkept texts (s.given o) := hbookkept.kept (kept_given o s)
  unfold step
  cases hevent : o.event with
  | restart settings => exact .restarts hevent rfl
  | construct =>
      unfold handle
      dsimp only
      split
      · exact .quiet .rfl
      · exact .quiet (quiet_construct _)
  | stored c =>
      unfold handle
      dsimp only
      split
      · exact .quiet (.of_eq rfl rfl rfl rfl rfl (later_call c (s.given o).store))
      · exact .quiet .rfl
  | evaluate ticket failureId expectedRevision =>
      unfold handle
      dsimp only
      split
      · exact .quiet (quiet_evaluate ticket failureId expectedRevision _)
      · exact .quiet .rfl
  | evidenceRead ticket read =>
      unfold handle
      dsimp only
      split
      · split
        · exact .quiet .rfl
        · exact .quiet (quiet_evidenceRead _ read _)
      · exact .quiet .rfl
  | evaluated ticket prepared running planId =>
      unfold handle
      dsimp only
      split
      · rename_i evaluation hticket
        split
        · obtain hquiet | ⟨outputs, outputHash, plan, rfl, hissues⟩ :=
            recordEvaluated_cases texts.toRecordTexts evaluation prepared running planId (s.given o)
          · exact .quiet hquiet
          · exact .issues hevent hticket hissues
        · exact .quiet .rfl
      · exact .quiet .rfl
  | mutate kind sourceId failureId request operationId =>
      unfold handle
      dsimp only
      split
      · exact .quiet (quiet_mutate hgiven kind sourceId failureId request operationId)
      · exact .quiet .rfl
  | redrive request generated running =>
      unfold handle
      dsimp only
      split
      · obtain hquiet | ⟨plan, current, hclaims⟩ :=
          redrive_cases hgiven request (request.operationId.getD generated) running
        · exact .quiet hquiet
        · exact .claims hclaims
      · exact .quiet .rfl
  | acted operationId draft | rechecked operationId read | hooked operationId running
  | mapped operationId prepared counts | redriven operationId | finish operationId =>
      unfold handle
      dsimp only
      split
      · rename_i m hm
        rw [← hevent]
        exact advance_redrives hm (by rw [hevent]; rfl) rfl
      · exact .quiet .rfl

/-! ### The evidence of a redrive -/

/-- The evidence that goes to the gateway has the hash that the plan was issued for. -/
def Action.Rechecked (texts : OperatorTexts) : Action → Prop
  | .prepared plan _ raw | .mapping plan _ raw =>
      raw.evidenceHash texts.sha256Hex = plan.evidenceHash
  | _ => True

def Rechecked (texts : OperatorTexts) (s : OperatorService) : Prop :=
  ∀ operationId m, s.mutations operationId = some m → Action.Rechecked texts m.action

theorem Rechecked.of_eq (h : Rechecked texts s) (hmutations : s'.mutations = s.mutations) :
    Rechecked texts s' := by
  intro operationId m hm
  exact h operationId m (hmutations ▸ hm)

theorem Rechecked.setAction (h : Rechecked texts s) {operationId hash : String} {action : Action}
    (haction : Action.Rechecked texts action) :
    Rechecked texts (s.setAction operationId hash action) := by
  intro other m hm
  by_cases hother : other = operationId
  · subst hother
    obtain rfl : ⟨hash, action⟩ = m := by simpa [OperatorService.setAction] using hm
    exact haction
  · exact h other m (by simpa [OperatorService.setAction, hother] using hm)

theorem recheck_ok {plan : Plan} {current : IncidentRecord} {read : Option EvidenceRead}
    {s s' : StoreAccess} {raw : RawEvidence}
    (h : recheck texts plan current read s = (.ok raw, s')) :
    raw.evidenceHash texts.sha256Hex = plan.evidenceHash := by
  unfold recheck at h
  rcases read with _ | ⟨found⟩ | ⟨expired, message⟩
  · cases h
  · dsimp only at h
    split at h
    · cases h
    · rename_i hhash
      split at h
      · cases h
      · split at h
        · cases h
        · cases h
          exact not_not.mp hhash
  · cases h

theorem evaluate_mutations (ticket : ℕ) (failureId : String) (expectedRevision : ℕ)
    (s : OperatorService) :
    (s.evaluate ticket failureId expectedRevision).mutations = s.mutations := by
  unfold evaluate
  split
  · rfl
  · rfl
  split
  · rfl
  split
  · rfl
  split <;> rfl

theorem evidenceRead_mutations (evaluation : OperatorEvaluation) (read : Option EvidenceRead)
    (s : OperatorService) : (s.evidenceRead evaluation read).mutations = s.mutations := by
  rcases read with _ | ⟨raw⟩ | ⟨expired, message⟩ <;> rfl

theorem recordEvaluated_mutations (texts : RecordTexts) (evaluation : OperatorEvaluation)
    (prepared : Option OperatorPrepared) (running : Bool) (planId : String)
    (s : OperatorService) :
    (s.recordEvaluated texts evaluation prepared running planId).mutations = s.mutations := by
  unfold recordEvaluated
  split
  · rfl
  · rfl
  · rfl
  split <;> rfl

theorem construct_mutations (s : OperatorService) : s.construct.mutations = s.mutations := by
  unfold OperatorService.construct
  dsimp only
  split <;> rfl

theorem intend_mutations (texts : OperatorTexts) (kind : OperationKind) (sourceId : String)
    (failureId : Option String) (hash operationId : String) (s : OperatorService) :
    (s.intend texts kind sourceId failureId hash operationId).2.mutations = s.mutations := by
  unfold intend
  dsimp only
  split <;> rfl

theorem Rechecked.mutate (h : Rechecked texts s) (kind : OperationKind) (sourceId : String)
    (failureId : Option String) (request : JsValue) (operationId : String) :
    Rechecked texts (s.mutate texts kind sourceId failureId request operationId) := by
  have hsame := intend_mutations texts kind sourceId failureId
    (requestHash texts.toRecordTexts kind request) operationId s
  unfold OperatorService.mutate
  dsimp only
  rcases hintend : s.intend texts kind sourceId failureId
    (requestHash texts.toRecordTexts kind request) operationId with ⟨run, s'⟩
  rw [hintend] at hsame
  cases run with
  | false => exact h.of_eq hsame
  | true => exact (h.of_eq hsame).setAction trivial

theorem Rechecked.redrive (h : Rechecked texts s) (request : RedriveRequest)
    (operationId : String) (running : Bool) :
    Rechecked texts (s.redrive texts request operationId running) := by
  unfold OperatorService.redrive
  dsimp only
  split
  · exact h.of_eq rfl
  · exact h.of_eq rfl
  rename_i record store hread
  have hsame := intend_mutations texts .redrive record.sourceId
    (some request.failureId) (requestHash texts.toRecordTexts .redrive (redriveJson request))
    operationId { s with store := store }
  split
  · rename_i s' hintend
    rw [hintend] at hsame
    exact h.of_eq hsame
  · rename_i s' hintend
    rw [hintend] at hsame
    have hclaim := claim_mutations request running s'
    split
    · rename_i draft s'' hclaimed
      rw [hclaimed] at hclaim
      exact (h.of_eq (hclaim.trans hsame)).setAction trivial
    · rename_i plan current s'' hclaimed
      rw [hclaimed] at hclaim
      exact (h.of_eq (hclaim.trans hsame)).setAction trivial

theorem Rechecked.advance (h : Rechecked texts s) {operationId : String} {m : Mutation}
    (hm : s.mutations operationId = some m) (e : OperatorEvent) :
    Rechecked texts (s.advance texts operationId m e) := by
  have hbefore := h operationId m hm
  unfold OperatorService.advance
  split
  · exact h.setAction trivial
  · split
    · exact (h.of_eq rfl).setAction trivial
    · rename_i raw store hrecheck
      exact (h.of_eq rfl).setAction (recheck_ok hrecheck)
  · rename_i plan current raw _ hprepared
    rw [hprepared] at hbefore
    split
    · exact h.setAction hbefore
    · exact h.setAction trivial
  · exact h.setAction trivial
  · rename_i prepared counts plan current raw hmapping
    have hset : Rechecked texts (s.setAction operationId m.requestHash
        (.redriven plan current (redriveOutcome plan.outputHash counts prepared))) :=
      h.setAction trivial
    unfold mappedRedrive
    dsimp only
    split
    · exact hset.of_eq rfl
    · exact hset
  · refine Rechecked.setAction (h.of_eq rfl) ?_
    trivial
  · intro other m' hother
    unfold OperatorService.finish at hother
    by_cases hsame : other = operationId
    · subst hsame
      simp at hother
    · exact h other m' (by simpa [hsame] using hother)
  · exact h

theorem rechecked_step (h : Rechecked texts s) (o : OperatorOccurrence) :
    Rechecked texts (s.step texts o) := by
  have hgiven : Rechecked texts (s.given o) := h.of_eq rfl
  unfold step
  cases o.event with
  | restart settings =>
      intro operationId m hm
      cases hm
  | construct =>
      unfold handle
      dsimp only
      split
      · exact hgiven
      · exact hgiven.of_eq (construct_mutations _)
  | stored c =>
      unfold handle
      dsimp only
      split
      · exact hgiven.of_eq rfl
      · exact hgiven
  | evaluate ticket failureId expectedRevision =>
      unfold handle
      dsimp only
      split
      · exact hgiven.of_eq (evaluate_mutations ticket failureId expectedRevision _)
      · exact hgiven
  | evidenceRead ticket read =>
      unfold handle
      dsimp only
      split
      · split
        · exact hgiven
        · exact hgiven.of_eq (evidenceRead_mutations _ read _)
      · exact hgiven
  | evaluated ticket prepared running planId =>
      unfold handle
      dsimp only
      split
      · split
        · exact hgiven.of_eq (recordEvaluated_mutations _ _ prepared running planId _)
        · exact hgiven
      · exact hgiven
  | mutate kind sourceId failureId request operationId =>
      unfold handle
      dsimp only
      split
      · exact hgiven.mutate kind sourceId failureId request operationId
      · exact hgiven
  | redrive request generated running =>
      unfold handle
      dsimp only
      split
      · exact hgiven.redrive request _ running
      · exact hgiven
  | acted operationId draft | rechecked operationId read | hooked operationId running
  | mapped operationId prepared counts | redriven operationId | finish operationId =>
      unfold handle
      dsimp only
      split
      · rename_i m hm
        exact hgiven.advance hm _
      · exact hgiven

/-! ### Plans are used once -/

/-- What is admitted was approved. -/
structure Approved (s : OperatorService) : Prop where
  used : (s.admitted.map (·.planId)).Nodup
  plan : ∀ a ∈ s.admitted, ∃ p ∈ s.issued, p.planId = a.planId ∧ p.failureId = a.failureId ∧
    p.incidentRevision = a.revision ∧ p.evidenceHash = a.evidenceHash ∧
    p.outputHash = a.outputHash
  once : ∀ operationId, (s.admitted.map (·.operationId)).count operationId ≤
    (s.begun.map (·.1)).count operationId

/-- A redrive under way that has not admitted its record yet. -/
def awaits (s : OperatorService) (operationId : String) : Prop :=
  ∃ plan current, s.claims operationId = some ⟨plan, current, false⟩

/-- Every plan is where it can be used, in the hands of one redrive, or used up. -/
structure PlansTracked (s : OperatorService) : Prop where
  approved : Approved s
  distinct : (s.issued.map (·.planId)).Nodup
  known : ∀ plan ∈ s.plans.values, plan ∈ s.issued
  spent : ∀ a ∈ s.admitted, ∀ plan ∈ s.plans.values, plan.planId ≠ a.planId
  held : ∀ operationId c, s.claims operationId = some c →
    c.plan ∈ s.issued ∧ c.plan.failureId = c.current.failureId ∧
      c.plan.incidentRevision = c.current.revision ∧
      ∀ plan ∈ s.plans.values, plan.planId ≠ c.plan.planId
  unused : ∀ operationId c, s.claims operationId = some c → c.admitted = false →
    ∀ a ∈ s.admitted, a.planId ≠ c.plan.planId
  single : ∀ operationId c other c', s.claims operationId = some c → s.claims other = some c' →
    c.plan.planId = c'.plan.planId → operationId = other
  pending : ∀ operationId, s.awaits operationId →
    (s.admitted.map (·.operationId)).count operationId <
      (s.begun.map (·.1)).count operationId

theorem plansTracked_initial (settings : OperatorSettings) : PlansTracked (initial settings) where
  approved :=
    { used := List.nodup_nil
      plan := fun _ ha => nomatch ha
      once := fun _ => le_rfl }
  distinct := List.nodup_nil
  known _ h := nomatch h
  spent _ h := nomatch h
  held _ _ h := nomatch h
  unused _ _ h := nomatch h
  single _ _ _ _ h := nomatch h
  pending := by
    rintro operationId ⟨plan, current, hclaim⟩
    cases hclaim

theorem PlansTracked.fewer (h : PlansTracked s) (hfewer : Fewer s s') : PlansTracked s' := by
  have hcount : ∀ operationId, (s.begun.map (·.1)).count operationId ≤
      (s'.begun.map (·.1)).count operationId := fun operationId =>
    (hfewer.begun.map _).count_le operationId
  constructor
  · constructor
    · rw [hfewer.admitted]
      exact h.approved.used
    · rw [hfewer.admitted, hfewer.issued]
      exact h.approved.plan
    · intro operationId
      rw [hfewer.admitted]
      exact (h.approved.once operationId).trans (hcount operationId)
  · rw [hfewer.issued]
    exact h.distinct
  · intro plan hplan
    rw [hfewer.issued]
    exact h.known plan (hfewer.plans plan hplan)
  · rw [hfewer.admitted]
    exact fun a ha plan hplan => h.spent a ha plan (hfewer.plans plan hplan)
  · intro operationId c hc
    obtain ⟨hissued, hid, hrevision, hgone⟩ := h.held operationId c (hfewer.claims operationId c hc)
    rw [hfewer.issued]
    exact ⟨hissued, hid, hrevision, fun plan hplan => hgone plan (hfewer.plans plan hplan)⟩
  · rw [hfewer.admitted]
    exact fun operationId c hc => h.unused operationId c (hfewer.claims operationId c hc)
  · exact fun operationId c other c' hc hc' =>
      h.single operationId c other c' (hfewer.claims operationId c hc) (hfewer.claims other c' hc')
  · rintro operationId ⟨plan, current, hc⟩
    rw [hfewer.admitted]
    exact Nat.lt_of_lt_of_le (h.pending operationId ⟨plan, current, hfewer.claims _ _ hc⟩)
      (hcount operationId)

theorem PlansTracked.issues (h : PlansTracked s) {planId failureId : String} {plan : Plan}
    (hissues : Issues s planId failureId plan s') (hfresh : planId ∉ s.issued.map (·.planId)) :
    PlansTracked s' := by
  have hnew : ∀ other ∈ s.issued, plan.planId ≠ other.planId := by
    intro other hother heq
    exact hfresh (hissues.planId ▸ heq ▸ List.mem_map_of_mem hother)
  constructor
  · constructor
    · rw [hissues.admitted]
      exact h.approved.used
    · intro a ha
      rw [hissues.admitted] at ha
      obtain ⟨p, hp, hrest⟩ := h.approved.plan a ha
      exact ⟨p, hissues.issued ▸ List.mem_append_left _ hp, hrest⟩
    · rw [hissues.admitted, hissues.begun]
      exact h.approved.once
  · rw [hissues.issued, List.map_append, List.map_singleton, List.nodup_append]
    refine ⟨h.distinct, by simp, ?_⟩
    intro a ha b hb heq
    rw [List.mem_singleton.mp hb, hissues.planId] at heq
    exact hfresh (heq ▸ ha)
  · intro other hother
    rw [hissues.issued]
    rcases hissues.plans other hother with rfl | hold
    · exact List.mem_append_right _ (List.mem_singleton_self _)
    · exact List.mem_append_left _ (h.known other hold)
  · intro a ha other hother
    rw [hissues.admitted] at ha
    rcases hissues.plans other hother with rfl | hold
    · obtain ⟨p, hp, hid, -⟩ := h.approved.plan a ha
      rw [← hid]
      exact hnew p hp
    · exact h.spent a ha other hold
  · intro operationId c hc
    rw [hissues.claims] at hc
    obtain ⟨hheld, hid, hrevision, hgone⟩ := h.held operationId c hc
    refine ⟨hissues.issued ▸ List.mem_append_left _ hheld, hid, hrevision, ?_⟩
    intro other hother
    rcases hissues.plans other hother with rfl | hold
    · exact hnew c.plan hheld
    · exact hgone other hold
  · rw [hissues.claims, hissues.admitted]
    exact h.unused
  · rw [hissues.claims]
    exact h.single
  · rintro operationId ⟨claimed, current, hc⟩
    rw [hissues.claims] at hc
    rw [hissues.admitted, hissues.begun]
    exact h.pending operationId ⟨claimed, current, hc⟩

theorem PlansTracked.claims (h : PlansTracked s) {operationId : String} {plan : Plan}
    {current : IncidentRecord} (hclaims : Claims s operationId plan current s') :
    PlansTracked s' := by
  obtain ⟨hash, hbegun⟩ := hclaims.begun
  have hkept : ∀ other ∈ s'.plans.values, other ∈ s.plans.values := fun other hother =>
    (hclaims.plans other hother).1
  have hfree : ∀ other c, s.claims other = some c → c.plan.planId ≠ plan.planId :=
    fun other c hc heq => (h.held other c hc).2.2.2 plan hclaims.held heq.symm
  have hcases : ∀ other c, s'.claims other = some c →
      (other = operationId ∧ c = ⟨plan, current, false⟩) ∨
        other ≠ operationId ∧ s.claims other = some c := by
    intro other c hc
    rw [hclaims.claims] at hc
    by_cases hother : other = operationId
    · subst hother
      rw [Function.update_self] at hc
      exact .inl ⟨rfl, (Option.some.inj hc).symm⟩
    · rw [Function.update_of_ne hother] at hc
      exact .inr ⟨hother, hc⟩
  have hcount : ∀ other, (s'.begun.map (·.1)).count other =
      (s.begun.map (·.1)).count other + [operationId].count other := by
    intro other
    rw [hbegun, List.map_append, List.count_append]
    rfl
  constructor
  · constructor
    · rw [hclaims.admitted]
      exact h.approved.used
    · rw [hclaims.admitted, hclaims.issued]
      exact h.approved.plan
    · intro other
      rw [hclaims.admitted, hcount]
      exact (h.approved.once other).trans (Nat.le_add_right _ _)
  · rw [hclaims.issued]
    exact h.distinct
  · intro other hother
    rw [hclaims.issued]
    exact h.known other (hkept other hother)
  · rw [hclaims.admitted]
    exact fun a ha other hother => h.spent a ha other (hkept other hother)
  · intro other c hc
    rw [hclaims.issued]
    rcases hcases other c hc with ⟨-, rfl⟩ | ⟨-, hold⟩
    · refine ⟨h.known plan hclaims.held, hclaims.failureId.symm, hclaims.revision.symm, ?_⟩
      intro kept hmem heq
      obtain ⟨hheld, hne⟩ := hclaims.plans kept hmem
      exact hne (congrArg Plan.failureId (InsertionMap.eq_of_mem hheld hclaims.held heq))
    · obtain ⟨hissued, hid, hrevision, hgone⟩ := h.held other c hold
      exact ⟨hissued, hid, hrevision, fun kept hmem => hgone kept (hkept kept hmem)⟩
  · intro other c hc hwaiting
    rw [hclaims.admitted]
    rcases hcases other c hc with ⟨-, rfl⟩ | ⟨-, hold⟩
    · exact fun a ha heq => h.spent a ha plan hclaims.held heq.symm
    · exact h.unused other c hold hwaiting
  · intro first c second c' hc hc' heq
    rcases hcases first c hc with ⟨rfl, rfl⟩ | ⟨-, hold⟩
    · rcases hcases second c' hc' with ⟨rfl, -⟩ | ⟨-, hold'⟩
      · rfl
      · exact absurd heq.symm (hfree second c' hold')
    · rcases hcases second c' hc' with ⟨rfl, rfl⟩ | ⟨-, hold'⟩
      · exact absurd heq (hfree first c hold)
      · exact h.single first c second c' hold hold' heq
  · rintro other ⟨claimed, record, hc⟩
    rw [hclaims.admitted, hcount]
    rcases hcases other _ hc with ⟨rfl, -⟩ | ⟨-, hold⟩
    · rw [List.count_singleton_self]
      exact Nat.lt_succ_of_le (h.approved.once other)
    · exact Nat.lt_of_lt_of_le (h.pending other ⟨claimed, record, hold⟩) (Nat.le_add_right _ _)

theorem PlansTracked.admits (h : PlansTracked s) {operationId evidenceHash : String} {plan : Plan}
    {current : IncidentRecord} (hadmits : Admits s operationId plan current evidenceHash s')
    (hhash : evidenceHash = plan.evidenceHash) : PlansTracked s' := by
  have hclaimed := hadmits.claimed
  obtain ⟨hissued, hid, hrevision, hgone⟩ := h.held operationId _ hclaimed
  have hunused := h.unused operationId _ hclaimed rfl
  have hpending := h.pending operationId ⟨plan, current, hclaimed⟩
  have hcases : ∀ other c, s'.claims other = some c →
      (other = operationId ∧ c = ⟨plan, current, true⟩) ∨
        other ≠ operationId ∧ s.claims other = some c := by
    intro other c hc
    rw [hadmits.claims] at hc
    by_cases hother : other = operationId
    · subst hother
      rw [Function.update_self] at hc
      exact .inl ⟨rfl, (Option.some.inj hc).symm⟩
    · rw [Function.update_of_ne hother] at hc
      exact .inr ⟨hother, hc⟩
  have hbefore : ∀ other c, s'.claims other = some c →
      ∃ c', s.claims other = some c' ∧ c'.plan = c.plan ∧ c'.current = c.current := by
    intro other c hc
    rcases hcases other c hc with ⟨rfl, rfl⟩ | ⟨-, hold⟩
    · exact ⟨_, hclaimed, rfl, rfl⟩
    · exact ⟨c, hold, rfl, rfl⟩
  have hcount : ∀ other, (s'.admitted.map (·.operationId)).count other =
      (s.admitted.map (·.operationId)).count other + [operationId].count other := by
    intro other
    rw [hadmits.admitted, List.map_append, List.count_append]
    rfl
  constructor
  · constructor
    · rw [hadmits.admitted, List.map_append, List.nodup_append]
      refine ⟨h.approved.used, List.nodup_singleton _, ?_⟩
      intro used hused other hother heq
      obtain ⟨a, ha, rfl⟩ := List.mem_map.mp hused
      obtain rfl : other = plan.planId := List.mem_singleton.mp hother
      exact hunused a ha heq
    · intro a ha
      rw [hadmits.admitted] at ha
      rw [hadmits.issued]
      rcases List.mem_append.mp ha with hold | hnew
      · exact h.approved.plan a hold
      · obtain rfl := List.mem_singleton.mp hnew
        exact ⟨plan, hissued, rfl, hid, hrevision, hhash.symm, rfl⟩
    · intro other
      rw [hcount, hadmits.begun]
      by_cases hother : other = operationId
      · subst hother
        rw [List.count_singleton_self]
        exact hpending
      · have hzero : [operationId].count other = 0 :=
          List.count_eq_zero_of_not_mem fun hmem => hother (List.mem_singleton.mp hmem)
        rw [hzero]
        exact h.approved.once other
  · rw [hadmits.issued]
    exact h.distinct
  · rw [hadmits.plans, hadmits.issued]
    exact h.known
  · intro a ha other hother
    rw [hadmits.plans] at hother
    rw [hadmits.admitted] at ha
    rcases List.mem_append.mp ha with hold | hnew
    · exact h.spent a hold other hother
    · obtain rfl := List.mem_singleton.mp hnew
      exact hgone other hother
  · intro other c hc
    obtain ⟨c', hc', hplan, hcurrent⟩ := hbefore other c hc
    rw [hadmits.issued, hadmits.plans, ← hplan, ← hcurrent]
    exact h.held other c' hc'
  · intro other c hc hwaiting a ha
    rw [hadmits.admitted] at ha
    rcases hcases other c hc with ⟨-, rfl⟩ | ⟨hother, hold⟩
    · cases hwaiting
    · rcases List.mem_append.mp ha with holder | hnew
      · exact h.unused other c hold hwaiting a holder
      · obtain rfl := List.mem_singleton.mp hnew
        intro heq
        exact hother (h.single other c operationId _ hold hclaimed heq.symm)
  · intro first c second c' hc hc' heq
    obtain ⟨d, hd, hplan, -⟩ := hbefore first c hc
    obtain ⟨d', hd', hplan', -⟩ := hbefore second c' hc'
    rw [← hplan, ← hplan'] at heq
    exact h.single first d second d' hd hd' heq
  · rintro other ⟨claimed, record, hc⟩
    rcases hcases other _ hc with ⟨-, heq⟩ | ⟨hother, hold⟩
    · cases heq
    · have hzero : [operationId].count other = 0 :=
        List.count_eq_zero_of_not_mem fun hmem => hother (List.mem_singleton.mp hmem)
      rw [hcount, hadmits.begun, hzero]
      exact h.pending other ⟨claimed, record, hold⟩

theorem fewer_notes {faults : List (Option String)} {operationId : String} {claim : Claim}
    (h : Notes faults s operationId claim s') : Fewer s s' where
  plans := by
    rw [h.plans]
    exact fun _ hplan => hplan
  issued := h.issued
  admitted := h.admitted
  begun := by rw [h.begun]
  claims := by
    intro other c hc
    rw [h.claims] at hc
    by_cases hother : other = operationId
    · subst hother
      rw [Function.update_self] at hc
      cases hc
    · rwa [Function.update_of_ne hother] at hc

theorem fewer_restarted (settings : OperatorSettings) (s : OperatorService) :
    Fewer s (s.restarted settings) where
  plans _ hplan := nomatch hplan
  issued := rfl
  admitted := rfl
  begun := List.Sublist.refl _
  claims _ _ hc := nomatch hc

theorem PlansTracked.given (h : PlansTracked s) (o : OperatorOccurrence) :
    PlansTracked (s.given o) := h.fewer (quiet_given o s).toFewer

/-- The ID for the plan of an evaluation that ends. -/
def planIdOf : OperatorEvent → Option String
  | .evaluated _ _ _ planId => some planId
  | _ => none

/-- No plan is issued under an ID that another one had. -/
def FreshPlan (s : OperatorService) (o : OperatorOccurrence) : Prop :=
  ∀ planId ∈ planIdOf o.event, planId ∉ s.issued.map (·.planId)

instance (s : OperatorService) (o : OperatorOccurrence) : Decidable (FreshPlan s o) :=
  inferInstanceAs (Decidable (∀ planId ∈ planIdOf o.event, planId ∉ s.issued.map (·.planId)))

theorem PlansTracked.step (h : PlansTracked s) (hbookkept : Bookkept texts s)
    (hrechecked : Rechecked texts s) {o : OperatorOccurrence} (hfresh : FreshPlan s o) :
    PlansTracked (s.step texts o) := by
  cases step_redrives hbookkept o with
  | quiet hquiet => exact (h.given o).fewer hquiet.toFewer
  | issues hevent hticket hissues =>
      exact (h.given o).issues hissues (hfresh _ (by rw [hevent]; rfl))
  | claims hclaims => exact (h.given o).claims hclaims
  | admits hmapping hadmits =>
      exact (h.given o).admits hadmits (hrechecked _ _ hmapping)
  | notes hevent hnotes => exact (h.given o).fewer (fewer_notes hnotes)
  | restarts hevent hrestarted =>
      rw [hrestarted]
      exact (h.given o).fewer (fewer_restarted _ _)

/-- The service with plan IDs that never repeat. -/
def planMachine (texts : OperatorTexts) : Machine OperatorService OperatorOccurrence where
  step := step texts
  allowed := FreshPlan

instance (texts : OperatorTexts) (s : OperatorService) (o : OperatorOccurrence) :
    Decidable ((planMachine texts).allowed s o) := inferInstanceAs (Decidable (FreshPlan s o))

structure Planned (texts : OperatorTexts) (s : OperatorService) : Prop where
  bookkept : Bookkept texts s
  rechecked : Rechecked texts s
  tracked : PlansTracked s

theorem planned_step (h : Planned texts s) {o : OperatorOccurrence} (hfresh : FreshPlan s o) :
    Planned texts (s.step texts o) where
  bookkept := bookkept_step h.bookkept o
  rechecked := rechecked_step h.rechecked o
  tracked := h.tracked.step h.bookkept h.rechecked hfresh

theorem planned_initial (texts : OperatorTexts) (settings : OperatorSettings) :
    Planned texts (initial settings) where
  bookkept := bookkept_initial texts settings
  rechecked _ _ hm := nomatch hm
  tracked := plansTracked_initial settings

/-- Whatever is admitted was approved by a plan of its own, over every run. -/
theorem approved_after (texts : OperatorTexts) (settings : OperatorSettings)
    {occurrences : List OperatorOccurrence}
    (hrun : (planMachine texts).Admits (initial settings) occurrences) :
    Approved ((planMachine texts).after (initial settings) occurrences) := by
  have hplanned : Planned texts ((planMachine texts).after (initial settings) occurrences) := by
    refine Machine.invariant (P := Planned texts) ?_ (planned_initial texts settings) hrun
    exact fun s o h hfresh => planned_step h hfresh
  exact hplanned.tracked.approved

theorem approved_redrivenOnce :
    Approved ((planMachine sampleTexts).after (initial sampleSettings) redrivenOnce) := by
  apply approved_after
  decide +kernel

/-! ### One admission at a revision -/

/-- The incident of a claim and whether its record is admitted, for every operation that began. -/
def everyClaim (p : Claim → Bool) (s : OperatorService) : Bool :=
  (s.begun.map (·.1)).all fun operationId => (s.claims operationId).all p

theorem everyClaim_of (hbookkept : Bookkept texts s) {p : Claim → Bool} (h : s.everyClaim p = true)
    {operationId : String} {c : Claim} (hc : s.claims operationId = some c) : p c = true := by
  have hbegun : operationId ∈ s.begun.map (·.1) := by
    cases hm : s.mutations operationId with
    | none => cases (claims_of_none hm).symm.trans hc
    | some m =>
        obtain ⟨operation, hget, -⟩ := hbookkept.running operationId m hm
        exact List.mem_map.mpr ⟨_, hbookkept.known operationId operation hget, rfl⟩
  have hall := List.all_eq_true.mp h operationId hbegun
  rw [hc] at hall
  exact hall

/-- The evaluation whose record mapped cleanly. -/
def cleanTicket : OperatorEvent → Option ℕ
  | .evaluated ticket (some (.ok _ _)) _ _ => some ticket
  | _ => none

def answersRedrive : OperatorEvent → Bool
  | .redriven _ => true
  | _ => false

def endsProcess : OperatorEvent → Bool
  | .restart _ => true
  | _ => false

/-- Plan IDs do not repeat; no evaluation of an incident issues a plan while a redrive of it is
under way; what a redrive came to is recorded on the incident, and no process ends between the
admission of a record and that. -/
def Undisturbed (s : OperatorService) (o : OperatorOccurrence) : Prop :=
  FreshPlan s o ∧
    (∀ ticket ∈ cleanTicket o.event, ∀ evaluation ∈ s.evaluating.get ticket,
      s.everyClaim (fun c => c.current.failureId ≠ evaluation.record.failureId) = true) ∧
    (answersRedrive o.event = true → o.faults = []) ∧
    (endsProcess o.event = true → s.everyClaim (fun c => !c.admitted) = true)

instance (s : OperatorService) (o : OperatorOccurrence) : Decidable (Undisturbed s o) :=
  inferInstanceAs (Decidable (FreshPlan s o ∧
    (∀ ticket ∈ cleanTicket o.event, ∀ evaluation ∈ s.evaluating.get ticket,
      s.everyClaim (fun c => c.current.failureId ≠ evaluation.record.failureId) = true) ∧
    (answersRedrive o.event = true → o.faults = []) ∧
    (endsProcess o.event = true → s.everyClaim (fun c => !c.admitted) = true)))

/-- An incident's record is admitted once at each of its revisions. -/
def AdmitsOnce (s : OperatorService) : Prop :=
  (s.admitted.map fun a => (a.failureId, a.revision)).Nodup

structure Exclusive (s : OperatorService) : Prop where
  once : AdmitsOnce s
  known : ∀ operationId c, s.claims operationId = some c → s.store.journal.Known c.current
  alone : ∀ operationId c other c', s.claims operationId = some c → s.claims other = some c' →
    c.current.failureId = c'.current.failureId → operationId = other
  unplanned : ∀ operationId c, s.claims operationId = some c →
    ∀ plan ∈ s.plans.values, plan.failureId ≠ c.current.failureId
  waiting : ∀ operationId c, s.claims operationId = some c → c.admitted = false →
    ∀ a ∈ s.admitted, a.failureId = c.current.failureId → a.revision ≠ c.current.revision
  passed : ∀ a ∈ s.admitted,
    (∃ operationId c, s.claims operationId = some c ∧ c.admitted = true ∧
        c.current.failureId = a.failureId ∧ c.current.revision = a.revision) ∨
      ∃ latest, s.store.journal.incidents.get a.failureId = some latest ∧
        a.revision < latest.revision

theorem exclusive_initial (settings : OperatorSettings) : Exclusive (initial settings) where
  once := List.nodup_nil
  known _ _ h := nomatch h
  alone _ _ _ _ h := nomatch h
  unplanned _ _ h := nomatch h
  waiting _ _ h := nomatch h
  passed _ h := nomatch h

/-- A stored revision that is past another one stays past it. -/
theorem passed_later {failureId : String} {revision : ℕ} {latest : IncidentRecord}
    (hlater : LaterJournal s s')
    (hget : s.store.journal.incidents.get failureId = some latest)
    (hpast : revision < latest.revision) :
    ∃ later, s'.store.journal.incidents.get failureId = some later ∧
      revision < later.revision := by
  obtain rfl : latest.failureId = failureId := InsertionMap.key_of_get hget
  obtain ⟨later, hlaterGet, hle, -⟩ := (Journal.known_of_get hget).later hlater
  exact ⟨later, hlaterGet, Nat.lt_of_lt_of_le hpast hle⟩

theorem Exclusive.quiet (h : Exclusive s) (hquiet : Quiet s s') : Exclusive s' := by
  constructor
  · unfold AdmitsOnce
    rw [hquiet.admitted]
    exact h.once
  · exact fun operationId c hc => (h.known operationId c (hquiet.claims _ _ hc)).later hquiet.later
  · exact fun operationId c other c' hc hc' =>
      h.alone operationId c other c' (hquiet.claims _ _ hc) (hquiet.claims _ _ hc')
  · exact fun operationId c hc plan hplan =>
      h.unplanned operationId c (hquiet.claims _ _ hc) plan (hquiet.plans plan hplan)
  · rw [hquiet.admitted]
    exact fun operationId c hc => h.waiting operationId c (hquiet.claims _ _ hc)
  · intro a ha
    rw [hquiet.admitted] at ha
    rcases h.passed a ha with ⟨operationId, c, hc, hdone, hsame⟩ | ⟨latest, hget, hpast⟩
    · exact .inl ⟨operationId, c, hquiet.kept operationId c hc hdone, hdone, hsame⟩
    · exact .inr (passed_later hquiet.later hget hpast)

theorem Exclusive.issues (h : Exclusive s) {planId failureId : String} {plan : Plan}
    (hissues : Issues s planId failureId plan s')
    (hfree : ∀ operationId c, s.claims operationId = some c → c.current.failureId ≠ failureId) :
    Exclusive s' := by
  constructor
  · unfold AdmitsOnce
    rw [hissues.admitted]
    exact h.once
  · intro operationId c hc
    rw [hissues.claims] at hc
    exact (h.known operationId c hc).later hissues.later
  · rw [hissues.claims]
    exact h.alone
  · intro operationId c hc other hother
    rw [hissues.claims] at hc
    rcases hissues.plans other hother with rfl | hold
    · rw [hissues.failureId]
      exact (hfree operationId c hc).symm
    · exact h.unplanned operationId c hc other hold
  · rw [hissues.claims, hissues.admitted]
    exact h.waiting
  · intro a ha
    rw [hissues.admitted] at ha
    rw [hissues.claims]
    rcases h.passed a ha with hclaimed | ⟨latest, hget, hpast⟩
    · exact .inl hclaimed
    · exact .inr (passed_later hissues.later hget hpast)

theorem Exclusive.claims (h : Exclusive s) {operationId : String} {plan : Plan}
    {current : IncidentRecord} (hclaims : Claims s operationId plan current s')
    (hnone : s.claims operationId = none) : Exclusive s' := by
  have hothers : ∀ other c, s.claims other = some c →
      c.current.failureId ≠ current.failureId := by
    intro other c hc heq
    exact h.unplanned other c hc plan hclaims.held (hclaims.failureId.symm.trans heq.symm)
  have hcases : ∀ other c, s'.claims other = some c →
      (other = operationId ∧ c = ⟨plan, current, false⟩) ∨ s.claims other = some c := by
    intro other c hc
    rw [hclaims.claims] at hc
    by_cases hother : other = operationId
    · subst hother
      rw [Function.update_self] at hc
      exact .inl ⟨rfl, (Option.some.inj hc).symm⟩
    · rw [Function.update_of_ne hother] at hc
      exact .inr hc
  constructor
  · unfold AdmitsOnce
    rw [hclaims.admitted]
    exact h.once
  · intro other c hc
    rcases hcases other c hc with ⟨-, rfl⟩ | hold
    · exact (Journal.known_of_get hclaims.stored).later hclaims.later
    · exact (h.known other c hold).later hclaims.later
  · intro first c second c' hc hc' heq
    rcases hcases first c hc with ⟨rfl, rfl⟩ | hold
    · rcases hcases second c' hc' with ⟨rfl, -⟩ | hold'
      · rfl
      · exact absurd heq.symm (hothers second c' hold')
    · rcases hcases second c' hc' with ⟨rfl, rfl⟩ | hold'
      · exact absurd heq (hothers first c hold)
      · exact h.alone first c second c' hold hold' heq
  · intro other c hc kept hkept
    obtain ⟨hheld, hne⟩ := hclaims.plans kept hkept
    rcases hcases other c hc with ⟨-, rfl⟩ | hold
    · rw [hclaims.failureId]
      exact hne
    · exact h.unplanned other c hold kept hheld
  · intro other c hc hwaiting a ha
    rw [hclaims.admitted] at ha
    rcases hcases other c hc with ⟨-, rfl⟩ | hold
    · intro hid hrevision
      rcases h.passed a ha with ⟨holder, d, hd, -, hsame, -⟩ | ⟨latest, hget, hpast⟩
      · exact hothers holder d hd (hsame.trans hid)
      · rw [hid, hclaims.stored] at hget
        obtain rfl := Option.some.inj hget
        exact absurd hrevision (Nat.ne_of_lt hpast)
    · exact h.waiting other c hold hwaiting a ha
  · intro a ha
    rw [hclaims.admitted] at ha
    rcases h.passed a ha with ⟨holder, d, hd, hdone, hsame⟩ | ⟨latest, hget, hpast⟩
    · refine .inl ⟨holder, d, ?_, hdone, hsame⟩
      rw [hclaims.claims, Function.update_of_ne]
      · exact hd
      · rintro rfl
        cases hnone.symm.trans hd
    · exact .inr (passed_later hclaims.later hget hpast)

theorem Exclusive.admits (h : Exclusive s) {operationId evidenceHash : String} {plan : Plan}
    {current : IncidentRecord} (hadmits : Admits s operationId plan current evidenceHash s') :
    Exclusive s' := by
  have hclaimed := hadmits.claimed
  have hwaiting := h.waiting operationId _ hclaimed rfl
  have hcases : ∀ other c, s'.claims other = some c →
      (other = operationId ∧ c = ⟨plan, current, true⟩) ∨
        other ≠ operationId ∧ s.claims other = some c := by
    intro other c hc
    rw [hadmits.claims] at hc
    by_cases hother : other = operationId
    · subst hother
      rw [Function.update_self] at hc
      exact .inl ⟨rfl, (Option.some.inj hc).symm⟩
    · rw [Function.update_of_ne hother] at hc
      exact .inr ⟨hother, hc⟩
  have hbefore : ∀ other c, s'.claims other = some c →
      ∃ c', s.claims other = some c' ∧ c'.current = c.current := by
    intro other c hc
    rcases hcases other c hc with ⟨rfl, rfl⟩ | ⟨-, hold⟩
    · exact ⟨_, hclaimed, rfl⟩
    · exact ⟨c, hold, rfl⟩
  constructor
  · unfold AdmitsOnce
    rw [hadmits.admitted, List.map_append, List.nodup_append]
    refine ⟨h.once, List.nodup_singleton _, ?_⟩
    intro used hused other hother heq
    obtain ⟨a, ha, rfl⟩ := List.mem_map.mp hused
    obtain rfl := List.mem_singleton.mp hother
    obtain ⟨hid, hrevision⟩ := Prod.mk.inj heq
    exact hwaiting a ha hid hrevision
  · intro other c hc
    obtain ⟨c', hc', hcurrent⟩ := hbefore other c hc
    rw [← hcurrent]
    exact (h.known other c' hc').later hadmits.later
  · intro first c second c' hc hc' heq
    obtain ⟨d, hd, hcurrent⟩ := hbefore first c hc
    obtain ⟨d', hd', hcurrent'⟩ := hbefore second c' hc'
    rw [← hcurrent, ← hcurrent'] at heq
    exact h.alone first d second d' hd hd' heq
  · intro other c hc
    obtain ⟨c', hc', hcurrent⟩ := hbefore other c hc
    rw [hadmits.plans, ← hcurrent]
    exact h.unplanned other c' hc'
  · intro other c hc hfree a ha
    rcases hcases other c hc with ⟨-, rfl⟩ | ⟨hother, hold⟩
    · cases hfree
    · rw [hadmits.admitted] at ha
      rcases List.mem_append.mp ha with holder | hnew
      · exact h.waiting other c hold hfree a holder
      · obtain rfl := List.mem_singleton.mp hnew
        intro hid
        exact absurd (h.alone other c operationId _ hold hclaimed hid.symm) hother
  · intro a ha
    rw [hadmits.admitted] at ha
    rcases List.mem_append.mp ha with hold | hnew
    · rcases h.passed a hold with ⟨holder, d, hd, hdone, hsame⟩ | ⟨latest, hget, hpast⟩
      · refine .inl ⟨holder, d, ?_, hdone, hsame⟩
        rw [hadmits.claims, Function.update_of_ne]
        · exact hd
        · rintro rfl
          cases Option.some.inj (hclaimed.symm.trans hd)
          cases hdone
      · exact .inr (passed_later hadmits.later hget hpast)
    · obtain rfl := List.mem_singleton.mp hnew
      refine .inl ⟨operationId, ⟨plan, current, true⟩, ?_, rfl, rfl, rfl⟩
      rw [hadmits.claims, Function.update_self]

theorem Exclusive.notes (h : Exclusive s) {operationId : String} {claim : Claim}
    (hnotes : Notes [] s operationId claim s') : Exclusive s' := by
  have hclaimed := hnotes.claimed
  obtain ⟨latest, hlatest, hraised⟩ := hnotes.noted rfl (h.known operationId claim hclaimed)
  have hfewer := fewer_notes hnotes
  constructor
  · unfold AdmitsOnce
    rw [hnotes.admitted]
    exact h.once
  · exact fun other c hc => (h.known other c (hfewer.claims other c hc)).later hnotes.later
  · exact fun first c second c' hc hc' =>
      h.alone first c second c' (hfewer.claims first c hc) (hfewer.claims second c' hc')
  · exact fun other c hc plan hplan =>
      h.unplanned other c (hfewer.claims other c hc) plan (hfewer.plans plan hplan)
  · rw [hnotes.admitted]
    exact fun other c hc => h.waiting other c (hfewer.claims other c hc)
  · intro a ha
    rw [hnotes.admitted] at ha
    rcases h.passed a ha with ⟨holder, d, hd, hdone, hid, hrevision⟩ | ⟨past, hget, hpast⟩
    · by_cases hsame : holder = operationId
      · subst hsame
        obtain rfl := Option.some.inj (hclaimed.symm.trans hd)
        exact .inr ⟨latest, hid ▸ hlatest, hrevision ▸ hraised⟩
      · refine .inl ⟨holder, d, ?_, hdone, hid, hrevision⟩
        rw [hnotes.claims, Function.update_of_ne hsame]
        exact hd
    · exact .inr (passed_later hnotes.later hget hpast)

theorem Exclusive.restarted (h : Exclusive s) (settings : OperatorSettings)
    (hdone : ∀ operationId c, s.claims operationId = some c → c.admitted = false) :
    Exclusive (s.restarted settings) where
  once := h.once
  known _ _ hc := nomatch hc
  alone _ _ _ _ hc := nomatch hc
  unplanned _ _ hc := nomatch hc
  waiting _ _ hc := nomatch hc
  passed := by
    intro a ha
    rcases h.passed a ha with ⟨holder, d, hd, hadmitted, -⟩ | hpast
    · cases (hdone holder d hd).symm.trans hadmitted
    · exact .inr hpast

theorem Exclusive.given (h : Exclusive s) (o : OperatorOccurrence) : Exclusive (s.given o) :=
  h.quiet (quiet_given o s)

theorem Exclusive.step (h : Exclusive s) (hbookkept : Bookkept texts s) {o : OperatorOccurrence}
    (hallowed : Undisturbed s o) : Exclusive (s.step texts o) := by
  obtain ⟨-, hclean, hnoted, hended⟩ := hallowed
  cases step_redrives hbookkept o with
  | quiet hquiet => exact (h.given o).quiet hquiet
  | issues hevent hticket hissues =>
      rw [hevent] at hclean
      refine (h.given o).issues hissues ?_
      intro operationId c hc
      exact of_decide_eq_true (everyClaim_of hbookkept (hclean _ rfl _ hticket) hc)
  | claims hclaims =>
      exact (h.given o).claims hclaims (claims_of_none (hbookkept.unclaimed hclaims.fresh))
  | admits hmapping hadmits => exact (h.given o).admits hadmits
  | notes hevent hnotes =>
      rw [hnoted (by rw [hevent]; rfl)] at hnotes
      exact (h.given o).notes hnotes
  | restarts hevent hrestarted =>
      rw [hrestarted]
      refine (h.given o).restarted _ ?_
      intro operationId c hc
      have hfree := everyClaim_of hbookkept (hended (by rw [hevent]; rfl)) hc
      simpa using hfree

/-- The service left undisturbed. -/
def undisturbedMachine (texts : OperatorTexts) : Machine OperatorService OperatorOccurrence where
  step := step texts
  allowed := Undisturbed

instance (texts : OperatorTexts) (s : OperatorService) (o : OperatorOccurrence) :
    Decidable ((undisturbedMachine texts).allowed s o) :=
  inferInstanceAs (Decidable (Undisturbed s o))

/-- At most one redrive admits the record of an incident at a revision. -/
theorem admitsOnce_after (texts : OperatorTexts) (settings : OperatorSettings)
    {occurrences : List OperatorOccurrence}
    (hrun : (undisturbedMachine texts).Admits (initial settings) occurrences) :
    AdmitsOnce ((undisturbedMachine texts).after (initial settings) occurrences) := by
  have hexclusive : Bookkept texts
        ((undisturbedMachine texts).after (initial settings) occurrences) ∧
      Exclusive ((undisturbedMachine texts).after (initial settings) occurrences) := by
    refine Machine.invariant (P := fun s => Bookkept texts s ∧ Exclusive s) ?_
      ⟨bookkept_initial texts settings, exclusive_initial settings⟩ hrun
    exact fun s o h hallowed => ⟨bookkept_step h.1 o, h.2.step h.1 hallowed⟩
  exact hexclusive.2.once

theorem admitsOnce_redrivenOnce :
    AdmitsOnce ((undisturbedMachine sampleTexts).after (initial sampleSettings) redrivenOnce) := by
  apply admitsOnce_after
  decide +kernel

/-- A plan issued while another redrive waits for its evidence admits the record again. -/
example :
    ((machine sampleTexts).after (initial sampleSettings)
      (sampleStart ++ sampleEvaluation 0 "p1" ++ sampleRedrive "p1" ++ sampleEvaluation 1 "p2" ++
        sampleRedrive "p2" ++ sampleAdmission "p1" ++ sampleAdmission "p2")).admitted.map
          (fun a => (a.failureId, a.revision)) = [("f1", 2), ("f1", 2)] := by
  decide +kernel

end OperatorService

end StreamOtter
