import Mathlib.Data.List.Basic
import Mathlib.Data.List.Nodup

/-!
# Maps in insertion order

A finite map whose values carry their own key and are listed in the order in which the
keys were first set, as the values of a JavaScript `Map` are.  Setting a present key keeps
its place; deleting it gives the place up.
-/

namespace StreamOtter

section Put

variable {κ ν : Type*} [DecidableEq κ] {key : ν → κ}

/-- Replaces the value with the key of `v`, or appends `v`. -/
def put (key : ν → κ) (v : ν) : List ν → List ν
  | [] => [v]
  | w :: rest => if key w = key v then v :: rest else w :: put key v rest

theorem put_of_fresh
    {v : ν} {values : List ν} (hfresh : ∀ w ∈ values, key w ≠ key v) :
    put key v values = values ++ [v] := by
  induction values with
  | nil => rfl
  | cons w rest ih =>
      have hrest := ih fun u hu => hfresh u (List.mem_cons_of_mem _ hu)
      simp [put, hfresh w, hrest]

/-- A present key's value is rewritten in place. -/
theorem put_of_present
    {v : ν} {values : List ν} (hdistinct : (values.map key).Nodup)
    (hpresent : key v ∈ values.map key) :
    put key v values = values.map fun u => if key u = key v then v else u := by
  induction values with
  | nil => simp at hpresent
  | cons w rest ih =>
      rw [List.map_cons, List.nodup_cons] at hdistinct
      unfold put
      by_cases hw : key w = key v
      · have hrest : rest.map (fun x => if key x = key v then v else x) = rest.map id := by
          apply List.map_congr_left
          intro x hx
          have hne : key x ≠ key v := by
            intro heq
            exact hdistinct.1 (hw ▸ heq ▸ List.mem_map_of_mem hx)
          simp [hne]
        simp [hw, hrest]
      · rw [List.map_cons, List.mem_cons] at hpresent
        have hrest := ih hdistinct.2 (hpresent.resolve_left (Ne.symm hw))
        simp [hw, hrest]

theorem map_put_of_present
    {v : ν} {values : List ν} (hpresent : key v ∈ values.map key) :
    (put key v values).map key = values.map key := by
  induction values with
  | nil => simp at hpresent
  | cons w rest ih =>
      unfold put
      by_cases hw : key w = key v
      · simp [hw]
      · rw [List.map_cons, List.mem_cons] at hpresent
        have hrest := ih (hpresent.resolve_left (Ne.symm hw))
        simp [hw, hrest]

theorem nodup_put
    {v : ν} {values : List ν} (hdistinct : (values.map key).Nodup) :
    ((put key v values).map key).Nodup := by
  by_cases hpresent : key v ∈ values.map key
  · rwa [map_put_of_present hpresent]
  · have hfresh : ∀ w ∈ values, key w ≠ key v := by
      intro w hw heq
      exact hpresent (heq ▸ List.mem_map_of_mem hw)
    rw [put_of_fresh hfresh, List.map_append]
    rw [List.nodup_append]
    refine ⟨hdistinct, by simp, ?_⟩
    intro k hk k' hk' heq
    obtain rfl : k' = key v := by simpa using hk'
    exact hpresent (heq ▸ hk)

theorem mem_put
    {v w : ν} {values : List ν} (hdistinct : (values.map key).Nodup) :
    w ∈ put key v values ↔ w = v ∨ w ∈ values ∧ key w ≠ key v := by
  induction values with
  | nil => simp [put]
  | cons u rest ih =>
      rw [List.map_cons, List.nodup_cons] at hdistinct
      unfold put
      by_cases hu : key u = key v
      · have hrest : ∀ x ∈ rest, key x ≠ key v := by
          intro x hx heq
          exact hdistinct.1 (hu ▸ heq ▸ List.mem_map_of_mem hx)
        simp only [if_pos hu, List.mem_cons]
        constructor
        · rintro (rfl | hw)
          · exact .inl rfl
          · exact .inr ⟨.inr hw, hrest w hw⟩
        · rintro (rfl | ⟨rfl | hw, hne⟩)
          · exact .inl rfl
          · exact absurd hu hne
          · exact .inr hw
      · simp only [if_neg hu, List.mem_cons, ih hdistinct.2]
        constructor
        · rintro (rfl | rfl | ⟨hw, hne⟩)
          · exact .inr ⟨.inl rfl, hu⟩
          · exact .inl rfl
          · exact .inr ⟨.inr hw, hne⟩
        · rintro (rfl | ⟨rfl | hw, hne⟩)
          · exact .inr (.inl rfl)
          · exact .inl rfl
          · exact .inr (.inr ⟨hw, hne⟩)

end Put

structure InsertionMap {κ ν : Type*} (key : ν → κ) where
  values : List ν
  distinct : (values.map key).Nodup

namespace InsertionMap

section Operations

variable {κ ν : Type*} {key : ν → κ}

@[ext] theorem ext {m m' : InsertionMap key} (h : m.values = m'.values) : m = m' := by
  cases m
  cases m'
  simp_all

def empty : InsertionMap key := ⟨[], List.nodup_nil⟩

@[simp] theorem values_empty : (empty : InsertionMap key).values = [] := rfl

/-- The values that are no longer wanted go, the others keep their places. -/
def filter (p : ν → Bool) (m : InsertionMap key) : InsertionMap key :=
  ⟨m.values.filter p, (List.filter_sublist.map key).nodup m.distinct⟩

@[simp] theorem values_filter (p : ν → Bool) (m : InsertionMap key) :
    (m.filter p).values = m.values.filter p := rfl

theorem eq_of_mem {m : InsertionMap key} {v w : ν} (hv : v ∈ m.values) (hw : w ∈ m.values)
    (hkey : key v = key w) : v = w :=
  List.inj_on_of_nodup_map m.distinct hv hw hkey

variable [DecidableEq κ]

def get (m : InsertionMap key) (k : κ) : Option ν := m.values.find? fun v => key v = k

def set (v : ν) (m : InsertionMap key) : InsertionMap key :=
  ⟨put key v m.values, nodup_put m.distinct⟩

@[simp] theorem get_empty (k : κ) : (empty : InsertionMap key).get k = none := rfl

theorem get_eq_some {m : InsertionMap key} {k : κ} {v : ν} :
    m.get k = some v ↔ v ∈ m.values ∧ key v = k := by
  constructor
  · intro h
    have hkey := List.find?_some h
    exact ⟨List.mem_of_find?_eq_some h, by simpa using hkey⟩
  · rintro ⟨hmem, rfl⟩
    cases hfound : m.get (key v) with
    | none =>
        have hnone := List.find?_eq_none.mp hfound v hmem
        simp at hnone
    | some w =>
        have hkey := List.find?_some hfound
        have hw := List.mem_of_find?_eq_some hfound
        rw [eq_of_mem hw hmem (by simpa using hkey)]

theorem get_eq_none {m : InsertionMap key} {k : κ} :
    m.get k = none ↔ ∀ v ∈ m.values, key v ≠ k := by
  simp [get, List.find?_eq_none]

theorem key_of_get {m : InsertionMap key} {k : κ} {v : ν} (h : m.get k = some v) : key v = k :=
  (get_eq_some.mp h).2

theorem mem_of_get {m : InsertionMap key} {k : κ} {v : ν} (h : m.get k = some v) :
    v ∈ m.values :=
  (get_eq_some.mp h).1

theorem mem_set {m : InsertionMap key} {v w : ν} :
    w ∈ (m.set v).values ↔ w = v ∨ w ∈ m.values ∧ key w ≠ key v :=
  mem_put m.distinct

@[simp] theorem get_set_self (m : InsertionMap key) (v : ν) : (m.set v).get (key v) = some v := by
  rw [get_eq_some, mem_set]
  exact ⟨.inl rfl, rfl⟩

theorem get_set_ne (m : InsertionMap key) {v : ν} {k : κ} (hne : k ≠ key v) :
    (m.set v).get k = m.get k := by
  ext w
  rw [get_eq_some, get_eq_some, mem_set]
  constructor
  · rintro ⟨rfl | ⟨hw, -⟩, rfl⟩
    · exact absurd rfl hne
    · exact ⟨hw, rfl⟩
  · rintro ⟨hw, rfl⟩
    exact ⟨.inr ⟨hw, hne⟩, rfl⟩

theorem get_set (m : InsertionMap key) (v : ν) (k : κ) :
    (m.set v).get k = if k = key v then some v else m.get k := by
  by_cases hk : k = key v
  · subst hk
    simp
  · rw [if_neg hk, get_set_ne m hk]

theorem values_set_of_get_none {m : InsertionMap key} {v : ν} (h : m.get (key v) = none) :
    (m.set v).values = m.values ++ [v] :=
  put_of_fresh (get_eq_none.mp h)

theorem values_set_of_get_some
    {m : InsertionMap key} {v w : ν} (h : m.get (key v) = some w) :
    (m.set v).values = m.values.map fun u => if key u = key v then v else u := by
  obtain ⟨hw, hkey⟩ := get_eq_some.mp h
  have hpresent : key v ∈ m.values.map key := hkey ▸ List.mem_map_of_mem hw
  exact put_of_present m.distinct hpresent

theorem get_filter
    {m : InsertionMap key} {p : ν → Bool} {k : κ} {v : ν} :
    (m.filter p).get k = some v ↔ m.get k = some v ∧ p v = true := by
  simp [get_eq_some]
  tauto

theorem set_split
    {m : InsertionMap key} {done rest : List ν} {u v : ν} (hvalues : m.values = done ++ u :: rest)
    (hkey : key u = key v) : (m.set v).values = done ++ v :: rest := by
  have hu : u ∈ m.values := by simp [hvalues]
  have hothers : ∀ w ∈ m.values, w ∈ done ∨ w ∈ rest → key w ≠ key v := by
    have hdistinct := m.distinct
    rw [hvalues, List.map_append, List.map_cons, List.nodup_append, List.nodup_cons] at hdistinct
    rintro w - (hw | hw) heq
    · exact hdistinct.2.2 _ (List.mem_map_of_mem hw) _ List.mem_cons_self (heq.trans hkey.symm)
    · exact hdistinct.2.1.1 (hkey ▸ heq ▸ List.mem_map_of_mem hw)
  have hrewrite : ∀ l : List ν, (∀ w ∈ l, key w ≠ key v) →
      l.map (fun w => if key w = key v then v else w) = l := by
    intro l hl
    induction l with
    | nil => rfl
    | cons w l ih =>
        have hw := hl w List.mem_cons_self
        simp [hw, ih fun x hx => hl x (List.mem_cons_of_mem _ hx)]
  have hget : m.get (key v) = some u := get_eq_some.mpr ⟨hu, hkey⟩
  rw [values_set_of_get_some hget, hvalues, List.map_append, List.map_cons, if_pos hkey]
  rw [hrewrite done fun w hw => hothers w (by simp [hvalues, hw]) (.inl hw)]
  rw [hrewrite rest fun w hw => hothers w (by simp [hvalues, hw]) (.inr hw)]

/-- Setting some of the values one after the other, each under its own key, rewrites each in
its place. -/
theorem foldl_set
    {p : ν → Bool} {f : ν → ν} (hf : ∀ v, key (f v) = key v) (m : InsertionMap key) :
    (((m.values.filter p).map f).foldl (fun m v => m.set v) m).values =
      m.values.map fun v => if p v then f v else v := by
  have hrun : ∀ (rest done : List ν) (m : InsertionMap key), m.values = done ++ rest →
      (((rest.filter p).map f).foldl (fun m v => m.set v) m).values =
        done ++ rest.map fun v => if p v then f v else v := by
    intro rest
    induction rest with
    | nil =>
        intro done m hvalues
        simpa using hvalues
    | cons u rest ih =>
        intro done m hvalues
        by_cases hp : p u
        · have hset := set_split hvalues (hf u).symm
          have hrest := ih (done ++ [f u]) (m.set (f u)) (by simpa using hset)
          simpa [hp] using hrest
        · have hrest := ih (done ++ [u]) m (by simpa using hvalues)
          simpa [hp] using hrest
  simpa using hrun m.values [] m rfl

end Operations

end InsertionMap

end StreamOtter
