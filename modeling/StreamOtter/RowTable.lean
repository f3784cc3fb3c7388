import StreamOtter.InsertionMap
import Mathlib.Data.List.Sort

/-!
# Tables with row numbers

A table of an SQL database whose rows are numbered by an `AUTOINCREMENT` column: the rows
in the order of their numbers, and the highest number ever given.  `ORDER BY` the number is
the order of the rows; any other order is a sort with the number as its last key.
-/

namespace StreamOtter

structure RowTable (ρ : Type*) where
  rows : List (ℕ × ρ)
  lastId : ℕ
  ordered : rows.Pairwise fun a b => a.1 < b.1
  bounded : ∀ row ∈ rows, row.1 ≤ lastId

namespace RowTable

variable {ρ : Type*}

def empty : RowTable ρ := ⟨[], 0, .nil, by simp⟩

/-- The rows without their numbers. -/
def contents (t : RowTable ρ) : List ρ := t.rows.map Prod.snd

@[simp] theorem contents_empty : (empty : RowTable ρ).contents = [] := rfl

/-- `INSERT`. -/
def insert (r : ρ) (t : RowTable ρ) : RowTable ρ where
  rows := t.rows ++ [(t.lastId + 1, r)]
  lastId := t.lastId + 1
  ordered := by
    rw [List.pairwise_append]
    refine ⟨t.ordered, by simp, ?_⟩
    intro row hrow new hnew
    obtain rfl := List.mem_singleton.mp hnew
    have hle := t.bounded row hrow
    dsimp only
    omega
  bounded := by
    intro row hrow
    rcases List.mem_append.mp hrow with hold | hnew
    · have hle := t.bounded row hold
      omega
    · obtain rfl := List.mem_singleton.mp hnew
      exact le_rfl

/-- `UPDATE … SET … WHERE`. -/
def update (p : ρ → Bool) (f : ρ → ρ) (t : RowTable ρ) : RowTable ρ where
  rows := t.rows.map fun row => (row.1, if p row.2 then f row.2 else row.2)
  lastId := t.lastId
  ordered := by
    rw [List.pairwise_map]
    exact t.ordered
  bounded := by
    intro row hrow
    obtain ⟨old, hold, rfl⟩ := List.mem_map.mp hrow
    exact t.bounded old hold

/-- `DELETE … WHERE`. -/
def delete (p : ℕ × ρ → Bool) (t : RowTable ρ) : RowTable ρ where
  rows := t.rows.filter fun row => !p row
  lastId := t.lastId
  ordered := t.ordered.sublist List.filter_sublist
  bounded := fun row hrow => t.bounded row (List.mem_of_mem_filter hrow)

/-- `SELECT … WHERE … ORDER BY` the number. -/
def select (p : ρ → Bool) (t : RowTable ρ) : List (ℕ × ρ) := t.rows.filter fun row => p row.2

@[simp] theorem contents_insert (r : ρ) (t : RowTable ρ) :
    (t.insert r).contents = t.contents ++ [r] := by
  simp [contents, insert]

@[simp] theorem contents_update (p : ρ → Bool) (f : ρ → ρ) (t : RowTable ρ) :
    (t.update p f).contents = t.contents.map fun r => if p r then f r else r := by
  simp [contents, update, Function.comp_def]

theorem map_select (p : ρ → Bool) (t : RowTable ρ) :
    (t.select p).map Prod.snd = t.contents.filter p := by
  simp [select, contents, List.filter_map, Function.comp_def]

/-- The first row that matches. -/
theorem head?_select (p : ρ → Bool) (t : RowTable ρ) :
    (t.select p).head?.map Prod.snd = t.contents.find? p := by
  unfold select contents
  rw [List.head?_filter, List.find?_map]
  rfl

theorem length_rows (t : RowTable ρ) : t.rows.length = t.contents.length := by
  simp [contents]

/-- Two rows with one number are one row. -/
theorem eq_of_id {t : RowTable ρ} {a b : ℕ × ρ} (ha : a ∈ t.rows) (hb : b ∈ t.rows)
    (hid : a.1 = b.1) : a = b := by
  have hdistinct : (t.rows.map Prod.fst).Nodup := by
    rw [List.nodup_iff_pairwise_ne, List.pairwise_map]
    exact t.ordered.imp fun hlt => Nat.ne_of_lt hlt
  exact List.inj_on_of_nodup_map hdistinct ha hb hid

section Trim

/-- What lies beyond a position of an increasing list. -/
theorem filter_beyond
    {rows : List (ℕ × ρ)} (hordered : rows.Pairwise fun a b => a.1 < b.1) {i : ℕ}
    {row : ℕ × ρ} (hrow : rows[i]? = some row) :
    rows.filter (fun r => !decide (r.1 ≤ row.1)) = rows.drop (i + 1) := by
  induction rows generalizing i with
  | nil => simp at hrow
  | cons first rest ih =>
      rw [List.pairwise_cons] at hordered
      cases i with
      | zero =>
          obtain rfl : first = row := by simpa using hrow
          have hall : rest.filter (fun r => !decide (r.1 ≤ first.1)) = rest := by
            rw [List.filter_eq_self]
            intro r hr
            simpa using hordered.1 r hr
          simp [hall]
      | succ i =>
          have hrest : rest[i]? = some row := by simpa using hrow
          have hlt := hordered.1 row (List.mem_of_getElem? hrest)
          have hle : first.1 ≤ row.1 := Nat.le_of_lt hlt
          simp [hle, ih hordered.2 hrest]

/-- The number of the newest row past the `n` newest ones that match: `ORDER BY id DESC
LIMIT 1 OFFSET n`. -/
def pastNewest (p : ρ → Bool) (n : ℕ) (t : RowTable ρ) : Option ℕ :=
  (((t.select p).reverse.drop n).head?).map Prod.fst

/-- `DELETE … WHERE … AND id <= (SELECT id … ORDER BY id DESC LIMIT 1 OFFSET n)`. -/
def keepNewest (p : ρ → Bool) (n : ℕ) (t : RowTable ρ) : RowTable ρ :=
  t.delete fun row => p row.2 && (t.pastNewest p n).any (row.1 ≤ ·)

theorem select_keepNewest (p : ρ → Bool) (n : ℕ) (t : RowTable ρ) :
    (t.keepNewest p n).select p = (t.select p).drop ((t.select p).length - n) := by
  have hselect : (t.keepNewest p n).select p =
      (t.select p).filter fun row => !(t.pastNewest p n).any (row.1 ≤ ·) := by
    unfold keepNewest select delete
    dsimp only
    rw [List.filter_filter, List.filter_filter]
    apply List.filter_congr
    intro row _
    cases p row.2 <;> simp
  have hordered : (t.select p).Pairwise fun a b => a.1 < b.1 :=
    t.ordered.sublist List.filter_sublist
  rw [hselect]
  unfold pastNewest
  by_cases hfew : (t.select p).length ≤ n
  · have hnone : (t.select p).reverse.drop n = [] := by
      apply List.drop_eq_nil_of_le
      simpa using hfew
    have hzero : (t.select p).length - n = 0 := by omega
    rw [hnone, hzero]
    simp
  · have hindex : (t.select p).length - 1 - n < (t.select p).length := by omega
    have hrow : (t.select p)[(t.select p).length - 1 - n]? =
        some ((t.select p)[(t.select p).length - 1 - n]) := List.getElem?_eq_getElem hindex
    have hhead : ((t.select p).reverse.drop n).head? =
        some ((t.select p)[(t.select p).length - 1 - n]) := by
      rw [List.head?_drop, List.getElem?_reverse (by omega)]
      exact hrow
    rw [hhead]
    have hbeyond := filter_beyond hordered hrow
    rw [show (t.select p).length - 1 - n + 1 = (t.select p).length - n by omega] at hbeyond
    simpa using hbeyond

/-- The rows that do not match stay. -/
theorem select_keepNewest_other
    {p q : ρ → Bool} (hdisjoint : ∀ r, q r = true → p r = false) (n : ℕ) (t : RowTable ρ) :
    (t.keepNewest p n).select q = t.select q := by
  unfold keepNewest select delete
  dsimp only
  rw [List.filter_filter]
  apply List.filter_congr
  intro row _
  cases hq : q row.2 with
  | false => simp
  | true => simp [hdisjoint row.2 hq]

theorem filter_keepNewest (p : ρ → Bool) (n : ℕ) (t : RowTable ρ) :
    (t.keepNewest p n).contents.filter p =
      (t.contents.filter p).drop ((t.contents.filter p).length - n) := by
  rw [← map_select, ← map_select, select_keepNewest, List.map_drop, List.length_map]

theorem filter_keepNewest_other
    {p q : ρ → Bool} (hdisjoint : ∀ r, q r = true → p r = false) (n : ℕ) (t : RowTable ρ) :
    (t.keepNewest p n).contents.filter q = t.contents.filter q := by
  rw [← map_select, ← map_select, select_keepNewest_other hdisjoint]

end Trim

section Order

/-- `ORDER BY` the keys that `le` compares, then the number. -/
def orderBy (le : ρ → ρ → Bool) (rows : List (ℕ × ρ)) : List (ℕ × ρ) :=
  rows.mergeSort fun a b => if le a.2 b.2 then !le b.2 a.2 || a.1 ≤ b.1 else false

/-- On rows in the order of their numbers, the number as last key is what makes the sort
stable. -/
theorem map_orderBy
    (le : ρ → ρ → Bool) {rows : List (ℕ × ρ)} (hordered : rows.Pairwise fun a b => a.1 < b.1) :
    (orderBy le rows).map Prod.snd = (rows.map Prod.snd).mergeSort le := by
  have hindexed : ∀ a ∈ rows.zipIdx, ∀ b ∈ rows.zipIdx,
      (a.2 ≤ b.2 ↔ a.1.1 ≤ b.1.1) := by
    intro a ha b hb
    have hgeta := List.mem_zipIdx_iff_getElem?.mp ha
    have hgetb := List.mem_zipIdx_iff_getElem?.mp hb
    obtain ⟨hia, hvala⟩ := List.getElem?_eq_some_iff.mp hgeta
    obtain ⟨hib, hvalb⟩ := List.getElem?_eq_some_iff.mp hgetb
    rcases Nat.lt_trichotomy a.2 b.2 with hlt | heq | hgt
    · have hless := List.pairwise_iff_getElem.mp hordered a.2 b.2 hia hib hlt
      rw [hvala, hvalb] at hless
      omega
    · have hsame : a.1 = b.1 := by
        rw [← hvala, ← hvalb]
        simp [heq]
      rw [hsame]
      omega
    · have hless := List.pairwise_iff_getElem.mp hordered b.2 a.2 hib hia hgt
      rw [hvala, hvalb] at hless
      omega
  have hstable : orderBy le rows = rows.mergeSort fun a b => le a.2 b.2 := by
    rw [← List.mergeSort_zipIdx]
    have hmap := List.map_mergeSort (l := rows.zipIdx) (f := Prod.fst)
      (r := List.zipIdxLE fun a b => le a.2 b.2)
      (s := fun a b : ℕ × ρ => if le a.2 b.2 then !le b.2 a.2 || a.1 ≤ b.1 else false)
    rw [hmap]
    · simp [orderBy]
    · intro a ha b hb
      have hiff := hindexed a ha b hb
      unfold List.zipIdxLE
      cases hab : le a.1.2 b.1.2 <;> cases hba : le b.1.2 a.1.2 <;> simp [hab, hba, hiff]
  rw [hstable]
  exact List.map_mergeSort fun a _ b _ => rfl

/-- Rows chosen by their numbers are the rows chosen by a key that tells rows apart. -/
theorem contents_deleteChosen
    {κ : Type*} [DecidableEq κ] {key : ρ → κ} {t : RowTable ρ}
    (hdistinct : (t.contents.map key).Nodup) {chosen : List (ℕ × ρ)}
    (hchosen : ∀ row ∈ chosen, row ∈ t.rows) :
    (t.delete fun row => row.1 ∈ chosen.map Prod.fst).contents =
      t.contents.filter fun r => key r ∉ (chosen.map Prod.snd).map key := by
  unfold contents delete
  dsimp only
  rw [List.filter_map]
  congr 1
  apply List.filter_congr
  intro row hrow
  have hiff : row.1 ∈ chosen.map Prod.fst ↔ key row.2 ∈ (chosen.map Prod.snd).map key := by
    constructor
    · intro hmem
      obtain ⟨other, hother, hid⟩ := List.mem_map.mp hmem
      obtain rfl := eq_of_id (hchosen other hother) hrow hid
      exact List.mem_map_of_mem (List.mem_map_of_mem hother)
    · intro hmem
      obtain ⟨content, hcontent, hkey⟩ := List.mem_map.mp hmem
      obtain ⟨other, hother, rfl⟩ := List.mem_map.mp hcontent
      have hnodup : (t.rows.map fun r => key r.2).Nodup := by
        simpa [contents, Function.comp_def] using hdistinct
      have hsame := List.inj_on_of_nodup_map hnodup (hchosen other hother) hrow hkey
      exact hsame ▸ List.mem_map_of_mem hother
  simp [hiff]

end Order

end RowTable

end StreamOtter
