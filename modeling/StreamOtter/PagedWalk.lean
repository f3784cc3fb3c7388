import Mathlib.Data.List.Basic

/-!
# Walks through the pages of a growing list

A list only grows at its end, while what is wanted of it changes.  A page holds what is wanted
of a stretch of places, and the next page goes on where it stopped.  The pages of a walk never
repeat a place and keep the order of the list, and a walk that comes to the end has met every
key that was wanted throughout.
-/

namespace PagedWalk

section Stretches

variable {κ : Type*}

/-- What is wanted of the places from `p` to before `q`. -/
def stretch (listed : List κ) (wanted : κ → Bool) (p q : ℕ) : List κ :=
  ((listed.take q).drop p).filter wanted

theorem mem_stretch
    {listed : List κ} {wanted : κ → Bool} {p q i : ℕ} {k : κ} (hlisted : listed[i]? = some k)
    (hfrom : p ≤ i) (hbefore : i < q) (hwanted : wanted k) : k ∈ stretch listed wanted p q := by
  have hdropped : ((listed.take q).drop p)[i - p]? = some k := by
    rw [List.getElem?_drop, List.getElem?_take]
    have hplace : p + (i - p) = i := by omega
    rw [hplace, if_pos hbefore, hlisted]
  rw [stretch, List.mem_filter]
  exact ⟨List.mem_of_getElem? hdropped, hwanted⟩

/-- What stands before a place, and a stretch from there. -/
theorem sublist_stretch (listed : List κ) (wanted : κ → Bool) {p q : ℕ} (hle : p ≤ q) :
    (listed.take p ++ stretch listed wanted p q).Sublist (listed.take q) := by
  have hsplit : listed.take q = listed.take p ++ (listed.take q).drop p := by
    have htake := List.take_append_drop p (listed.take q)
    rw [List.take_take, Nat.min_eq_left hle] at htake
    exact htake.symm
  rw [hsplit]
  unfold stretch
  exact List.Sublist.append (List.Sublist.refl _) List.filter_sublist

end Stretches

section Walks

variable {σ κ γ : Type*}

/-- Pages read one after another, each with the cursor of the one before: the moments at which
they were read with what they held, and the last cursor. -/
inductive Walk (later : σ → σ → Prop) (page : Option γ → σ → List κ → Option γ → Prop) :
    List (σ × List κ) → Option γ → Prop
  | first {s : σ} {items : List κ} {next : Option γ} (h : page none s items next) :
      Walk later page [(s, items)] next
  | more {visited : List (σ × List κ)} {s s' : σ} {before items : List κ} {c : γ}
      {next : Option γ} (hwalk : Walk later page (visited ++ [(s, before)]) (some c))
      (hlater : later s s') (h : page (some c) s' items next) :
      Walk later page (visited ++ [(s, before)] ++ [(s', items)]) next

/-- The steps between pages only add to the end of the list. -/
def Grows (later : σ → σ → Prop) (listed : σ → List κ) : Prop :=
  ∀ s s', later s s' → ∃ added, listed s' = listed s ++ added

/-- Every page is a stretch of the list; the last one reaches its end. -/
def ReadsStretches (listed : σ → List κ) (wanted : σ → κ → Bool)
    (starts : Option γ → ℕ → Prop) (page : Option γ → σ → List κ → Option γ → Prop) : Prop :=
  ∀ c p s items next, starts c p → page c s items next →
    ∃ q, p ≤ q ∧ items = stretch (listed s) (wanted s) p q ∧
      (next = none → (listed s).length ≤ q) ∧ ∀ c', next = some c' → starts (some c') q

/-- The pages of a walk so far. -/
def returned (visited : List (σ × List κ)) : List κ := visited.flatMap Prod.snd

variable {later : σ → σ → Prop} {page : Option γ → σ → List κ → Option γ → Prop}
  {listed : σ → List κ} {wanted : σ → κ → Bool} {starts : Option γ → ℕ → Prop}

/-- How far a walk has come. -/
structure Progress (listed : σ → List κ) (wanted : σ → κ → Bool)
    (starts : Option γ → ℕ → Prop) (visited : List (σ × List κ)) (next : Option γ) (q : ℕ) :
    Prop where
  taken : ∀ s items, visited.getLast? = some (s, items) →
    (returned visited).Sublist ((listed s).take q)
  found : ∀ i k, i < q → (∀ v ∈ visited, (listed v.1)[i]? = some k ∧ wanted v.1 k) →
    k ∈ returned visited
  ended : next = none → ∀ s items, visited.getLast? = some (s, items) → (listed s).length ≤ q
  goesOn : ∀ c, next = some c → starts (some c) q

/-- The induction over a walk. -/
theorem Walk.progress
    (hgrows : Grows later listed) (hreads : ReadsStretches listed wanted starts page)
    (hstart : starts none 0) {visited : List (σ × List κ)} {next : Option γ}
    (h : Walk later page visited next) : ∃ q, Progress listed wanted starts visited next q := by
  induction h with
  | @first s items next hpage =>
      obtain ⟨q, -, hitems, hended, hgoesOn⟩ := hreads none 0 s items next hstart hpage
      have hreturned : returned [(s, items)] = items := by simp [returned]
      refine ⟨q, ?_, ?_, ?_, hgoesOn⟩
      · intro s' items' hlast
        obtain ⟨rfl, rfl⟩ : s = s' ∧ items = items' := by simpa using hlast
        have hstretch := sublist_stretch (listed s) (wanted s) (Nat.zero_le q)
        rw [hreturned, hitems]
        exact (List.sublist_append_right _ _).trans hstretch
      · intro i k hbefore hall
        obtain ⟨hlisted, hwanted⟩ := hall (s, items) List.mem_cons_self
        rw [hreturned, hitems]
        exact mem_stretch hlisted (Nat.zero_le i) hbefore hwanted
      · intro hnone s' items' hlast
        obtain ⟨rfl, rfl⟩ : s = s' ∧ items = items' := by simpa using hlast
        exact hended hnone
  | @more visited s s' before items c next hwalk hlater hpage ih =>
      obtain ⟨p, hprogress⟩ := ih
      obtain ⟨q, hle, hitems, hended, hgoesOn⟩ :=
        hreads (some c) p s' items next (hprogress.goesOn c rfl) hpage
      have hreturned : returned (visited ++ [(s, before)] ++ [(s', items)]) =
          returned (visited ++ [(s, before)]) ++ items := by
        simp [returned]
      refine ⟨q, ?_, ?_, ?_, hgoesOn⟩
      · intro s₁ items₁ hlast
        obtain ⟨rfl, rfl⟩ : s' = s₁ ∧ items = items₁ := by simpa using hlast
        obtain ⟨added, hadded⟩ := hgrows s s' hlater
        have hold : ((listed s).take p).Sublist ((listed s').take p) := by
          rw [hadded, List.take_append]
          exact List.sublist_append_left _ _
        have htaken := (hprogress.taken s before (by simp)).trans hold
        have hstretch := sublist_stretch (listed s') (wanted s') hle
        rw [hreturned, hitems]
        exact (htaken.append_right _).trans hstretch
      · intro i k hbefore hall
        rw [hreturned, List.mem_append]
        by_cases hold : i < p
        · left
          apply hprogress.found i k hold
          intro v hv
          exact hall v (List.mem_append_left _ hv)
        · right
          obtain ⟨hlisted, hwanted⟩ := hall (s', items) (by simp)
          rw [hitems]
          exact mem_stretch hlisted (Nat.le_of_not_lt hold) hbefore hwanted
      · intro hnone s₁ items₁ hlast
        obtain ⟨rfl, rfl⟩ : s' = s₁ ∧ items = items₁ := by simpa using hlast
        exact hended hnone

/-- No place comes twice, and the places come in the order of the list. -/
theorem Walk.sublist
    (hgrows : Grows later listed) (hreads : ReadsStretches listed wanted starts page)
    (hstart : starts none 0) {visited : List (σ × List κ)} {next : Option γ}
    (h : Walk later page visited next) {s : σ} {items : List κ}
    (hlast : visited.getLast? = some (s, items)) : (returned visited).Sublist (listed s) := by
  obtain ⟨q, hprogress⟩ := h.progress hgrows hreads hstart
  exact (hprogress.taken s items hlast).trans (List.take_sublist q (listed s))

/-- What was listed at the first page is listed in its place at every page. -/
theorem Walk.grows
    (hgrows : Grows later listed) {visited : List (σ × List κ)} {next : Option γ}
    (h : Walk later page visited next) :
    ∃ s items, visited.head? = some (s, items) ∧
      ∀ v ∈ visited, ∃ added, listed v.1 = listed s ++ added := by
  induction h with
  | @first s items next hpage =>
      refine ⟨s, items, rfl, ?_⟩
      intro v hv
      obtain rfl := List.mem_singleton.mp hv
      exact ⟨[], (List.append_nil _).symm⟩
  | @more visited s s' before items c next hwalk hlater hpage ih =>
      obtain ⟨s₀, items₀, hhead, hlisted⟩ := ih
      refine ⟨s₀, items₀, by rw [List.head?_append, hhead]; rfl, ?_⟩
      intro v hv
      rcases List.mem_append.mp hv with hold | hnew
      · exact hlisted v hold
      · obtain rfl := List.mem_singleton.mp hnew
        obtain ⟨before', hbefore⟩ := hlisted (s, before) (by simp)
        obtain ⟨added, hadded⟩ := hgrows s s' hlater
        exact ⟨before' ++ added, by rw [hadded, hbefore, List.append_assoc]⟩

/-- A walk that has ended met every key of its first moment that was wanted at each page. -/
theorem Walk.complete
    (hgrows : Grows later listed) (hreads : ReadsStretches listed wanted starts page)
    (hstart : starts none 0) {visited : List (σ × List κ)} (h : Walk later page visited none)
    {s : σ} {items : List κ} (hhead : visited.head? = some (s, items)) {k : κ}
    (hlisted : k ∈ listed s) (hwanted : ∀ v ∈ visited, wanted v.1 k) :
    k ∈ returned visited := by
  obtain ⟨q, hprogress⟩ := h.progress hgrows hreads hstart
  obtain ⟨s₀, items₀, hhead₀, hkept⟩ := h.grows hgrows
  obtain ⟨rfl, rfl⟩ : s₀ = s ∧ items₀ = items := by simpa [hhead₀] using hhead
  obtain ⟨i, hi, hplace⟩ := List.getElem_of_mem hlisted
  have hall : ∀ v ∈ visited, (listed v.1)[i]? = some k := by
    intro v hv
    obtain ⟨added, hadded⟩ := hkept v hv
    rw [hadded, List.getElem?_append_left hi, List.getElem?_eq_getElem hi, hplace]
  have hbefore : i < q := by
    cases hlast : visited.getLast? with
    | none =>
        have hread : visited ≠ [] := by cases h <;> simp
        exact absurd (List.getLast?_eq_none_iff.mp hlast) hread
    | some last =>
        have hlength := hprogress.ended rfl last.1 last.2 hlast
        have hlt := (List.getElem?_eq_some_iff.mp (hall last (List.mem_of_getLast? hlast))).1
        omega
  exact hprogress.found i k hbefore fun v hv => ⟨hall v hv, hwanted v hv⟩

end Walks

end PagedWalk
