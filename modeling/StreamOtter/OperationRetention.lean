import StreamOtter.BoundaryChain

/-!
# Retention of operator operations

A store holds at most its maximum of operations.  A new one makes room by dropping the oldest
finished operations, in the order of their completion, start and insertion; a pending one is
never dropped.
-/

namespace StreamOtter

/-! ### The first elements of a stable sort -/

section Stable

variable {α : Type} {le : α → α → Bool} {l : List α}

theorem pair_sublist {a b : α} (ha : a ∈ l) (hb : b ∈ l) (hne : a ≠ b) :
    [a, b].Sublist l ∨ [b, a].Sublist l := by
  induction l with
  | nil => simp at ha
  | cons c rest ih =>
      rcases List.mem_cons.mp ha with rfl | hrestA
      · have hrestB := (List.mem_cons.mp hb).resolve_left (Ne.symm hne)
        exact .inl ((List.singleton_sublist.mpr hrestB).cons_cons a)
      · rcases List.mem_cons.mp hb with rfl | hrestB
        · exact .inr ((List.singleton_sublist.mpr hrestA).cons_cons b)
        · rcases ih hrestA hrestB with hab | hba
          · exact .inl (hab.cons c)
          · exact .inr (hba.cons c)

theorem pair_sublist_asymm {a b : α} (hnodup : l.Nodup) (hab : [a, b].Sublist l) :
    ¬[b, a].Sublist l := by
  induction l with
  | nil => simp at hab
  | cons c rest ih =>
      rw [List.nodup_cons] at hnodup
      intro hba
      cases hab with
      | cons _ hab =>
          cases hba with
          | cons _ hba => exact ih hnodup.2 hab hba
          | cons_cons _ _ => exact hnodup.1 (hab.subset (by simp))
      | cons_cons _ hb =>
          cases hba with
          | cons _ hba => exact hnodup.1 (hba.subset (by simp))
          | cons_cons _ _ => exact hnodup.1 (hb.subset (by simp))

/-- What a stable sort puts among the first goes before the rest, and so did it in the list when
neither goes before the other in the order. -/
theorem take_mergeSort_before
    (htrans : ∀ a b c, le a b → le b c → le a c) (htotal : ∀ a b, le a b || le b a)
    (hnodup : l.Nodup) {n : ℕ} {a b : α} (ha : a ∈ (l.mergeSort le).take n) (hb : b ∈ l)
    (hkept : b ∉ (l.mergeSort le).take n) :
    le a b ∧ (le b a → [a, b].Sublist l) := by
  have hb' : b ∈ (l.mergeSort le).drop n := by
    have hsorted : b ∈ l.mergeSort le := List.mem_mergeSort.mpr hb
    rw [← List.take_append_drop n (l.mergeSort le), List.mem_append] at hsorted
    exact hsorted.resolve_left hkept
  have hsplit : [a, b].Sublist (l.mergeSort le) := by
    rw [← List.take_append_drop n (l.mergeSort le)]
    exact (List.singleton_sublist.mpr ha).append (List.singleton_sublist.mpr hb')
  constructor
  · have hpairwise := List.pairwise_mergeSort htrans htotal l
    have hpair : [a, b].Pairwise fun a b => le a b = true := hpairwise.sublist hsplit
    simpa using hpair
  · intro hba
    have ha' : a ∈ l := List.mem_mergeSort.mp (List.mem_of_mem_take ha)
    have hne : a ≠ b := by
      rintro rfl
      exact hkept ha
    rcases pair_sublist ha' hb hne with hab | hswapped
    · exact hab
    · have hstable := List.pair_sublist_mergeSort htrans htotal hba hswapped
      have hsorted : (l.mergeSort le).Nodup := (List.mergeSort_perm l le).nodup_iff.mpr hnodup
      exact absurd hstable (pair_sublist_asymm hsorted hsplit)

end Stable

/-! ### The orders of texts -/

/-- An order of texts: total and transitive. -/
structure TextOrder (le : String → String → Bool) : Prop where
  total : ∀ a b, le a b || le b a
  trans : ∀ a b c, le a b → le b c → le a c

theorem lex_asymm (a b : List ℕ) (h : (a.lex b fun x y => x < y) = true) :
    (b.lex a fun x y => x < y) = false := by
  induction a generalizing b with
  | nil => simp
  | cons x a ih =>
      cases b with
      | nil => simp at h
      | cons y b =>
          rw [List.cons_lex_cons] at h ⊢
          simp only [Bool.or_eq_true, Bool.and_eq_true, decide_eq_true_eq, beq_iff_eq] at h
          rcases h with hlt | ⟨rfl, hrest⟩
          · simp [Nat.not_lt.mpr (Nat.le_of_lt hlt), Nat.ne_of_gt hlt]
          · simp [ih b hrest]

theorem lex_between (a b c : List ℕ) (h : (c.lex a fun x y => x < y) = true) :
    (b.lex a fun x y => x < y) = true ∨ (c.lex b fun x y => x < y) = true := by
  induction a generalizing b c with
  | nil => cases c <;> simp at h
  | cons x a ih =>
      cases b with
      | nil => simp
      | cons y b =>
          cases c with
          | nil => simp
          | cons z c =>
              rw [List.cons_lex_cons] at h ⊢
              rw [List.cons_lex_cons]
              simp only [Bool.or_eq_true, Bool.and_eq_true, decide_eq_true_eq, beq_iff_eq] at h ⊢
              rcases h with hlt | ⟨rfl, hrest⟩
              · omega
              · rcases Nat.lt_trichotomy y z with hless | rfl | hmore
                · exact .inl (.inl hless)
                · rcases ih b c hrest with hleft | hright
                  · exact .inl (.inr ⟨rfl, hleft⟩)
                  · exact .inr (.inr ⟨rfl, hright⟩)
                · exact .inr (.inl hmore)

theorem textOrder_of_units (units : String → List ℕ) :
    TextOrder fun a b => !(units b).lex (units a) fun x y => x < y := by
  constructor
  · intro a b
    cases h : (units b).lex (units a) fun x y => x < y with
    | false => rfl
    | true => simp [lex_asymm _ _ h]
  · intro a b c hab hbc
    rw [Bool.not_eq_true'] at hab hbc ⊢
    cases h : (units c).lex (units a) fun x y => x < y with
    | false => rfl
    | true =>
        rcases lex_between _ (units b) _ h with hba | hcb
        · rw [hba] at hab
          cases hab
        · rw [hcb] at hbc
          cases hbc

theorem textOrder_codeUnits : TextOrder MemoryIncidentStore.codeUnitLe :=
  textOrder_of_units MemoryIncidentStore.codeUnits

theorem textOrder_codePoints : TextOrder SqliteIncidentStore.codePointLe :=
  textOrder_of_units fun text => text.toList.map Char.toNat

/-! ### The order of pruning -/

def strictly (le : String → String → Bool) (a b : String) : Prop := le a b = true ∧ le b a = false

def tied (le : String → String → Bool) (a b : String) : Prop := le a b = true ∧ le b a = true

/-- Completed earlier, or at the same time and started earlier, or inserted earlier then. -/
def Older (le : String → String → Bool) (operations : List StoredOperation)
    (a b : StoredOperation) : Prop :=
  strictly le (a.completedAt.getD "") (b.completedAt.getD "") ∨
    tied le (a.completedAt.getD "") (b.completedAt.getD "") ∧
      (strictly le a.startedAt b.startedAt ∨
        tied le a.startedAt b.startedAt ∧ [a, b].Sublist operations)

/-- The operations that an accepted begin removed. -/
structure MadeRoom (le : String → String → Bool) (maximum : ℕ) (before : List StoredOperation)
    (operation : StoredOperation) (after removed : List StoredOperation) : Prop where
  count : removed.length = before.length + 1 - maximum
  nodup : removed.Nodup
  finished : ∀ r ∈ removed, r ∈ before ∧ r.state ≠ .pending
  oldest : ∀ r ∈ removed, ∀ k ∈ before, k ∉ removed → k.state ≠ .pending → Older le before r k
  fresh : ∀ k ∈ before, k.operationId ≠ operation.operationId
  after_eq : after = (before.filter fun k => k ∉ removed) ++ [operation]

section Finished

variable {le : String → String → Bool}

theorem finishedBefore_eq_true {a b : StoredOperation} :
    Journal.finishedBefore le a b = true ↔
      strictly le (a.completedAt.getD "") (b.completedAt.getD "") ∨
        tied le (a.completedAt.getD "") (b.completedAt.getD "") ∧
          le a.startedAt b.startedAt = true := by
  unfold Journal.finishedBefore strictly tied
  dsimp only
  cases le (a.completedAt.getD "") (b.completedAt.getD "") <;>
    cases le (b.completedAt.getD "") (a.completedAt.getD "") <;> simp

theorem finishedBefore_total (h : TextOrder le) (a b : StoredOperation) :
    (Journal.finishedBefore le a b || Journal.finishedBefore le b a) = true := by
  have hcompleted := h.total (a.completedAt.getD "") (b.completedAt.getD "")
  have hstarted := h.total a.startedAt b.startedAt
  rw [Bool.or_eq_true] at hcompleted hstarted ⊢
  rw [finishedBefore_eq_true, finishedBefore_eq_true]
  unfold strictly tied
  cases hab : le (a.completedAt.getD "") (b.completedAt.getD "") <;>
    cases hba : le (b.completedAt.getD "") (a.completedAt.getD "") <;> simp_all

theorem strictly_trans_le (h : TextOrder le) {a b c : String} (hab : strictly le a b)
    (hbc : le b c = true) : strictly le a c := by
  refine ⟨h.trans a b c hab.1 hbc, ?_⟩
  rw [Bool.eq_false_iff]
  intro hca
  have hba := h.trans b c a hbc hca
  rw [hab.2] at hba
  cases hba

theorem strictly_of_le (h : TextOrder le) {a b c : String} (hab : le a b = true)
    (hbc : strictly le b c) : strictly le a c := by
  refine ⟨h.trans a b c hab hbc.1, ?_⟩
  rw [Bool.eq_false_iff]
  intro hca
  have hcb := h.trans c a b hca hab
  rw [hbc.2] at hcb
  cases hcb

theorem finishedBefore_trans (h : TextOrder le) (a b c : StoredOperation)
    (hab : Journal.finishedBefore le a b = true) (hbc : Journal.finishedBefore le b c = true) :
    Journal.finishedBefore le a c = true := by
  rw [finishedBefore_eq_true] at hab hbc ⊢
  rcases hab with hab | ⟨hab, hstartAB⟩
  · left
    rcases hbc with hbc | ⟨hbc, -⟩
    · exact strictly_trans_le h hab hbc.1
    · exact strictly_trans_le h hab hbc.1
  · rcases hbc with hbc | ⟨hbc, hstartBC⟩
    · exact .inl (strictly_of_le h hab.1 hbc)
    · right
      refine ⟨⟨h.trans _ _ _ hab.1 hbc.1, h.trans _ _ _ hbc.2 hab.2⟩, ?_⟩
      exact h.trans _ _ _ hstartAB hstartBC

/-- What a stable sort by the order of pruning puts first is the oldest. -/
theorem older_of_take (h : TextOrder le) {finished : List StoredOperation} (hnodup : finished.Nodup)
    {n : ℕ} {a b : StoredOperation}
    (ha : a ∈ (finished.mergeSort (Journal.finishedBefore le)).take n) (hb : b ∈ finished)
    (hkept : b ∉ (finished.mergeSort (Journal.finishedBefore le)).take n) :
    Older le finished a b := by
  obtain ⟨hbefore, hstable⟩ := take_mergeSort_before (finishedBefore_trans h)
    (finishedBefore_total h) hnodup ha hb hkept
  rcases finishedBefore_eq_true.mp hbefore with hcompleted | ⟨hcompleted, hstarted⟩
  · exact .inl hcompleted
  · right
    refine ⟨hcompleted, ?_⟩
    cases hback : le b.startedAt a.startedAt with
    | false => exact .inl ⟨hstarted, hback⟩
    | true =>
        right
        refine ⟨⟨hstarted, hback⟩, hstable ?_⟩
        exact finishedBefore_eq_true.mpr (.inr ⟨⟨hcompleted.2, hcompleted.1⟩, hback⟩)

end Finished

/-! ### Making room -/

namespace Journal

open FailureStore

section Room

variable {le : String → String → Bool} {limit : ℕ} {j j' : Journal}

theorem operationsToPrune_ok {stored finished limit count : ℕ}
    (h : operationsToPrune stored finished limit = .ok count) :
    count = stored + 1 - limit ∧ count ≤ finished := by
  unfold operationsToPrune at h
  dsimp only at h
  by_cases hroom : finished < stored + 1 - limit
  · rw [if_pos hroom] at h
    cases h
  · rw [if_neg hroom] at h
    cases h
    omega

theorem nodup_operations (j : Journal) : j.operations.values.Nodup :=
  j.operations.distinct.of_map _

/-- A begin that stores its operation makes room for it. -/
theorem beginOperation_created
    (hle : TextOrder le) {input : NewOperation} {operation : StoredOperation}
    (h : j.beginOperation le limit input = .ok (.begun operation true, j')) :
    operation.operationId = input.operationId ∧
      ∃ removed,
        MadeRoom le limit j.operations.values operation j'.operations.values removed := by
  unfold beginOperation at h
  cases hnew : newOperation input with
  | error refusal =>
      rw [hnew] at h
      cases h
  | ok new =>
      rw [hnew, ok_bind] at h
      cases hfound : j.operations.get new.operationId with
      | some existing =>
          rw [hfound] at h
          cases h
      | none =>
          rw [hfound] at h
          dsimp only at h
          cases hprune : operationsToPrune j.operations.values.length
              (j.operations.values.filter isFinished).length limit with
          | error refusal =>
              rw [hprune] at h
              cases h
          | ok count =>
              rw [hprune, ok_bind] at h
              obtain ⟨hreply, rfl⟩ := Prod.ext_iff.mp (Except.ok.inj h)
              obtain rfl : new = operation := by
                cases hreply
                rfl
              obtain ⟨hcount, henough⟩ := operationsToPrune_ok hprune
              have hfinished : (j.operations.values.filter isFinished).Nodup :=
                (nodup_operations j).filter _
              have hsorted : ∀ r ∈ pruned le count j.operations.values,
                  r ∈ j.operations.values.filter isFinished := fun r hr =>
                List.mem_mergeSort.mp (List.mem_of_mem_take hr)
              have hid : new.operationId = input.operationId := by
                rw [(newOperation_ok hnew).1]
              refine ⟨hid, pruned le count j.operations.values, ?_, ?_, ?_, ?_,
                InsertionMap.get_eq_none.mp hfound, ?_⟩
              · unfold pruned
                rw [List.length_take, List.length_mergeSort, Nat.min_eq_left henough, hcount]
              · exact ((List.mergeSort_perm _ _).nodup_iff.mpr hfinished).sublist
                  (List.take_sublist _ _)
              · intro r hr
                have hmem := List.mem_filter.mp (hsorted r hr)
                exact ⟨hmem.1, by simpa [isFinished] using hmem.2⟩
              · intro r hr k hk hkept hstate
                have hk' : k ∈ j.operations.values.filter isFinished :=
                  List.mem_filter.mpr ⟨hk, by simpa [isFinished] using hstate⟩
                rcases older_of_take hle hfinished hr hk' hkept with hcompleted |
                  ⟨hcompleted, hstarted | ⟨hstarted, hplace⟩⟩
                · exact .inl hcompleted
                · exact .inr ⟨hcompleted, .inl hstarted⟩
                · exact .inr ⟨hcompleted, .inr ⟨hstarted, hplace.trans List.filter_sublist⟩⟩
              · have hids : j.operations.values.filter (fun item =>
                    item.operationId ∉ (pruned le count j.operations.values).map (·.operationId)) =
                    j.operations.values.filter (fun k =>
                      k ∉ pruned le count j.operations.values) := by
                  apply List.filter_congr
                  intro k hk
                  rw [decide_eq_decide, not_iff_not, List.mem_map]
                  constructor
                  · rintro ⟨r, hr, hsame⟩
                    have hmem := (List.mem_filter.mp (hsorted r hr)).1
                    exact InsertionMap.eq_of_mem hmem hk hsame ▸ hr
                  · intro hr
                    exact ⟨k, hr, rfl⟩
                have hfresh : (j.operations.filter fun item => item.operationId ∉
                    (pruned le count j.operations.values).map (·.operationId)).get
                      new.operationId = none := by
                  rw [InsertionMap.get_eq_none]
                  intro k hk
                  exact InsertionMap.get_eq_none.mp hfound k (List.mem_of_mem_filter hk)
                rw [InsertionMap.values_set_of_get_none hfresh, InsertionMap.values_filter, hids]

end Room

end Journal

theorem MadeRoom.length_le
    {le : String → String → Bool} {maximum : ℕ} {before after removed : List StoredOperation}
    {operation : StoredOperation} (h : MadeRoom le maximum before operation after removed)
    (hnodup : before.Nodup) : after.length ≤ maximum := by
  have hremoved : (before.filter fun k => k ∈ removed).length = removed.length := by
    apply List.Perm.length_eq
    rw [List.perm_ext_iff_of_nodup (hnodup.filter _) h.nodup]
    intro k
    rw [List.mem_filter, decide_eq_true_eq]
    constructor
    · exact fun hk => hk.2
    · exact fun hk => ⟨(h.finished k hk).1, hk⟩
  have hsplit : (before.filter fun k => k ∈ removed).length +
      (before.filter fun k => k ∉ removed).length = before.length := by
    rw [← List.length_append]
    apply List.Perm.length_eq
    simpa using List.filter_append_perm (fun k => decide (k ∈ removed)) before
  have hcount := h.count
  rw [h.after_eq, List.length_append, List.length_singleton]
  omega

/-! ### Every run -/

/-- What every run of a store keeps of the operations that it holds. -/
structure KeepsOperations {σ : Type} (le : String → String → Bool) (maximum : ℕ)
    (answers : σ → StoreCall → Except Refusal (StoreReply × σ) → Prop)
    (operations : σ → List StoredOperation) (initial : σ) : Prop where
  bounded : ∀ s, Reached answers initial s → (operations s).length ≤ maximum
  makesRoom : ∀ s input operation s', Reached answers initial s →
    answers s (.beginOperation input) (.ok (.begun operation true, s')) →
      operation.operationId = input.operationId ∧
        ∃ removed, MadeRoom le maximum (operations s) operation (operations s') removed
  repeated : ∀ s input operation s', Reached answers initial s →
    answers s (.beginOperation input) (.ok (.begun operation false, s')) →
      operation ∈ operations s ∧ operation.operationId = input.operationId ∧
        operations s' = operations s
  others : ∀ s c reply s', Reached answers initial s → answers s c (.ok (reply, s')) →
    (∀ input, c ≠ .beginOperation input) →
      (operations s').map (·.operationId) = (operations s).map (·.operationId)

namespace Journal

open FailureStore

section Operations

variable {le : String → String → Bool} {limit : ℕ} {j j' : Journal}

theorem claim_operations (time : String) (sources : List SourceIdentity) (j : Journal) :
    (j.claim time sources).operations = j.operations := by
  unfold claim
  induction sources generalizing j with
  | nil => rfl
  | cons source rest ih =>
      rw [List.foldl_cons, ih]
      unfold claimSource
      split
      · rfl
      · split <;> rfl

/-- What an accepted call may do to the operations. -/
theorem Accepts.operations
    {c : StoreCall} {reply : StoreReply} (hstep : Accepts le limit j c reply j') :
    (∃ input, c = .beginOperation input ∧ j.beginOperation le limit input = .ok (reply, j')) ∨
      (∀ input, c ≠ .beginOperation input) ∧
        j'.operations.values.map (·.operationId) = j.operations.values.map (·.operationId) := by
  cases hstep with
  | claim _ =>
      right
      refine ⟨by rintro input ⟨⟩, ?_⟩
      rw [claim_operations]
  | call hok =>
      cases c with
      | beginOperation input => exact .inl ⟨input, rfl, hok⟩
      | claim projectId sources time =>
          cases hok
          right
          refine ⟨by rintro input ⟨⟩, ?_⟩
          rw [claim_operations]
      | observe observation =>
          right
          refine ⟨by rintro input ⟨⟩, ?_⟩
          have hafter : (j.observe observation).2 = j' := congrArg Prod.snd (Except.ok.inj hok)
          rw [← hafter]
          unfold observe
          split <;> rfl
      | update failureId expectedRevision patch event =>
          obtain ⟨existing, -, -, -, rfl⟩ := update_ok hok
          exact .inr ⟨by rintro input ⟨⟩, rfl⟩
      | prepareAdvance input =>
          obtain ⟨context, record, -, -, -, -, -, -, -, -, rfl⟩ := prepareAdvance_ok hok
          exact .inr ⟨by rintro input ⟨⟩, rfl⟩
      | retireBoundary boundaryId expectedRevision retirement time =>
          obtain ⟨boundary, -, -, -, -, -, rfl⟩ := retireBoundary_ok hok
          exact .inr ⟨by rintro input ⟨⟩, rfl⟩
      | updateCircuit sourceId expectedRevision next =>
          obtain ⟨-, rfl⟩ := updateCircuit_ok hok
          exact .inr ⟨by rintro input ⟨⟩, rfl⟩
      | finishOperation operationId state result time =>
          obtain ⟨operation, canonical, hfound, -, -, rfl⟩ := finishOperation_ok hok
          right
          refine ⟨by rintro input ⟨⟩, ?_⟩
          apply map_put_of_present
          exact List.mem_map.mpr ⟨operation, InsertionMap.mem_of_get hfound, rfl⟩
      | abandonPendingOperations time =>
          cases hok
          right
          refine ⟨by rintro input ⟨⟩, ?_⟩
          have hvalues := InsertionMap.foldl_set (p := isPending) (f := abandonedOperation time)
            (fun _ => rfl) j.operations
          dsimp only
          rw [hvalues, List.map_map]
          apply List.map_congr_left
          intro operation _
          by_cases hpending : isPending operation = true
          · simp [hpending, abandonedOperation]
          · simp [hpending]

end Operations

end Journal

section Simulation

open FailureStore

variable {σ : Type} {answers : σ → StoreCall → Except Refusal (StoreReply × σ) → Prop}
  {operations : σ → List StoredOperation} {initial : σ} {represents : σ → Journal → Prop}
  {le : String → String → Bool} {limit : ℕ}

/-- A store that refines the abstract one retains operations as it does. -/
theorem keepsOperations_of_simulation
    (hle : TextOrder le) (hinitial : represents initial Journal.initial)
    (hoperations : ∀ s j, represents s j → operations s = j.operations.values)
    (hstep : ∀ s j c reply s', represents s j → j.Sound → answers s c (.ok (reply, s')) →
      ∃ j', j.Accepts le limit c reply j' ∧ represents s' j') :
    KeepsOperations le limit answers operations initial := by
  have hreached : ∀ s, Reached answers initial s →
      ∃ j, represents s j ∧ j.Sound ∧ j.operations.values.length ≤ limit := by
    intro s hs
    induction hs with
    | start => exact ⟨_, hinitial, Journal.sound_initial, Nat.zero_le _⟩
    | accepted _ hanswer ih =>
        obtain ⟨j, hrepresents, hsound, hbound⟩ := ih
        obtain ⟨j', haccepts, hrepresents'⟩ := hstep _ j _ _ _ hrepresents hsound hanswer
        refine ⟨j', hrepresents', haccepts.sound hsound, ?_⟩
        rcases haccepts.operations with ⟨input, rfl, hbegin⟩ | ⟨-, hsame⟩
        · rcases Journal.beginOperation_ok hbegin with ⟨_, _, -, -, -, rfl⟩ |
            ⟨operation, _, -, -, rfl, -⟩
          · exact hbound
          · obtain ⟨-, removed, hroom⟩ := Journal.beginOperation_created hle hbegin
            exact hroom.length_le (Journal.nodup_operations j)
        · have hlength := congrArg List.length hsame
          rw [List.length_map, List.length_map] at hlength
          omega
  have hbegins : ∀ s input operation created s', Reached answers initial s →
      answers s (.beginOperation input) (.ok (.begun operation created, s')) →
        ∃ j j' : Journal, operations s = j.operations.values ∧ operations s' = j'.operations.values ∧
          j.beginOperation le limit input = .ok (.begun operation created, j') := by
    intro s input operation created s' hs hanswer
    obtain ⟨j, hrepresents, hsound, -⟩ := hreached s hs
    obtain ⟨j', haccepts, hrepresents'⟩ := hstep _ j _ _ _ hrepresents hsound hanswer
    refine ⟨j, j', hoperations s j hrepresents, hoperations s' j' hrepresents', ?_⟩
    rcases haccepts.operations with ⟨other, hcall, hbegin⟩ | ⟨hnone, -⟩
    · cases hcall
      exact hbegin
    · exact absurd rfl (hnone input)
  constructor
  · intro s hs
    obtain ⟨j, hrepresents, -, hbound⟩ := hreached s hs
    rw [hoperations s j hrepresents]
    exact hbound
  · intro s input operation s' hs hanswer
    obtain ⟨j, j', hbefore, hafter, hbegin⟩ := hbegins s input operation true s' hs hanswer
    rw [hbefore, hafter]
    exact Journal.beginOperation_created hle hbegin
  · intro s input operation s' hs hanswer
    obtain ⟨j, j', hbefore, hafter, hbegin⟩ := hbegins s input operation false s' hs hanswer
    rw [hbefore, hafter]
    rcases Journal.beginOperation_ok hbegin with ⟨new, existing, hnew, hfound, hreply, rfl⟩ |
      ⟨_, _, -, -, hreply, -⟩
    · cases hreply
      have hid : new.operationId = input.operationId := by
        rw [(newOperation_ok hnew).1]
      exact ⟨InsertionMap.mem_of_get hfound, (InsertionMap.key_of_get hfound).trans hid, rfl⟩
    · cases hreply
  · intro s c reply s' hs hanswer hother
    obtain ⟨j, hrepresents, hsound, -⟩ := hreached s hs
    obtain ⟨j', haccepts, hrepresents'⟩ := hstep _ j _ _ _ hrepresents hsound hanswer
    rw [hoperations s j hrepresents, hoperations s' j' hrepresents']
    rcases haccepts.operations with ⟨input, hcall, -⟩ | ⟨-, hsame⟩
    · exact absurd hcall (hother input)
    · exact hsame

end Simulation

/-- Both stores retain operations in every run, whatever the conditions of the SQLite store at
each call. -/
theorem stores_retain_operations
    (memory : MemoryLimits) (sqlite : SqliteLimits) (projectId : String) :
    KeepsOperations MemoryIncidentStore.codeUnitLe memory.maxOperations
        (fun s c answer => MemoryIncidentStore.call memory s c = answer)
        (fun s => s.operations.values) .initial ∧
      KeepsOperations SqliteIncidentStore.codePointLe sqlite.maxOperations
        (fun s c answer => ∃ conditions, SqliteIncidentStore.call sqlite conditions s c = answer)
        (fun s => s.operations.contents) (.initial projectId) := by
  constructor
  · apply keepsOperations_of_simulation textOrder_codeUnits MemoryIncidentStore.represents_initial
    · intro s j hrepresents
      rw [hrepresents.operations]
    · intro s j c reply s' hrepresents hsound hok
      exact hrepresents.accepts hsound hok
  · apply keepsOperations_of_simulation textOrder_codePoints
      (SqliteIncidentStore.represents_initial projectId)
    · intro s j hrepresents
      exact hrepresents.operations
    · rintro s j c reply s' hrepresents hsound ⟨conditions, hok⟩
      exact hrepresents.accepts hsound hok

end StreamOtter
