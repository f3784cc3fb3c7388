import StreamOtter.EcmaValue
import StreamOtter.NumberText

/-!
# Revisions as text

A translation of `isRevision` and `compareRevisions`.  A canonical revision has no leading
zeros, so the longer of two is the greater number, and of two of one length the one that comes
later as text.
-/

namespace StreamOtter.Revisions

open Ecma

/-- `REVISION_PATTERN`. -/
def isRevision : Text → Bool
  | [] => false
  | first :: rest =>
      (first = 0x30 && rest.isEmpty) ||
        (first != 0x30 && isDigit first && rest.length ≤ 38 && rest.all isDigit)

/-- `a < b` of two strings. -/
def unitsLt (a b : Text) : Bool := !unitsLe b a

def compareRevisions (a b : Text) : ℤ :=
  if a.length ≠ b.length then
    if a.length < b.length then -1 else 1
  else if a = b then 0
  else if unitsLt a b then -1
  else 1

theorem digit_le {u : UInt16} (h : isDigit u) : 48 ≤ u.toNat ∧ u.toNat ≤ 57 := by
  simp only [isDigit, Bool.and_eq_true, decide_eq_true_eq] at h
  exact ⟨UInt16.le_iff_toNat_le.mp h.1, UInt16.le_iff_toNat_le.mp h.2⟩

theorem readDigits_cons (u : UInt16) (rest : Text) :
    readDigits (u :: rest) = (u.toNat - 48) * 10 ^ rest.length + readDigits rest := by
  have hfirst : readDigits [u] = u.toNat - 48 := by simp [readDigits]
  rw [show u :: rest = [u] ++ rest from rfl, readDigits_append, hfirst]

theorem readDigits_lt {text : Text} (h : ∀ u ∈ text, isDigit u) :
    readDigits text < 10 ^ text.length := by
  induction text with
  | nil => simp [readDigits]
  | cons u rest ih =>
      have hrest := ih fun v hv => h v (List.mem_cons_of_mem _ hv)
      have hdigit := digit_le (h u List.mem_cons_self)
      have hplace : (u.toNat - 48) * 10 ^ rest.length ≤ 9 * 10 ^ rest.length :=
        Nat.mul_le_mul_right _ (by omega)
      rw [readDigits_cons, List.length_cons, pow_succ]
      omega

/-- Two numerals of one length compare as texts. -/
theorem unitsLe_iff {a b : Text} (ha : ∀ u ∈ a, isDigit u) (hb : ∀ u ∈ b, isDigit u)
    (hlength : a.length = b.length) : unitsLe a b ↔ readDigits a ≤ readDigits b := by
  induction a generalizing b with
  | nil =>
      obtain rfl : b = [] := List.length_eq_zero_iff.mp hlength.symm
      simp [unitsLe]
  | cons u rest ih =>
      cases b with
      | nil => cases hlength
      | cons v rest' =>
          have hsame : rest.length = rest'.length := Nat.succ.inj hlength
          have hrest : ∀ w ∈ rest, isDigit w := fun w hw => ha w (List.mem_cons_of_mem _ hw)
          have hrest' : ∀ w ∈ rest', isDigit w := fun w hw => hb w (List.mem_cons_of_mem _ hw)
          have hu := digit_le (ha u List.mem_cons_self)
          have hv := digit_le (hb v List.mem_cons_self)
          have hlt := readDigits_lt hrest
          have hlt' := readDigits_lt hrest'
          rw [readDigits_cons, readDigits_cons, hsame]
          rw [hsame] at hlt
          simp only [unitsLe, Bool.or_eq_true, decide_eq_true_eq, Bool.and_eq_true,
            ih hrest hrest' hsame]
          -- The first digits decide, or are the same.
          rcases Nat.lt_trichotomy u.toNat v.toNat with hless | hequal | hgreater
          · have hplace : (u.toNat - 48 + 1) * 10 ^ rest'.length ≤
                (v.toNat - 48) * 10 ^ rest'.length := Nat.mul_le_mul_right _ (by omega)
            rw [Nat.add_mul] at hplace
            constructor
            · intro _
              omega
            · intro _
              exact .inl hless
          · obtain rfl : u = v := UInt16.toNat_inj.mp hequal
            constructor
            · rintro (hless | ⟨-, hle⟩)
              · omega
              · omega
            · intro hle
              exact .inr ⟨rfl, by omega⟩
          · have hplace : (v.toNat - 48 + 1) * 10 ^ rest'.length ≤
                (u.toNat - 48) * 10 ^ rest'.length := Nat.mul_le_mul_right _ (by omega)
            rw [Nat.add_mul] at hplace
            constructor
            · rintro (hless | ⟨rfl, -⟩)
              · omega
              · omega
            · intro hle
              omega

theorem readDigits_inj {a b : Text} (ha : ∀ u ∈ a, isDigit u) (hb : ∀ u ∈ b, isDigit u)
    (hlength : a.length = b.length) (heq : readDigits a = readDigits b) : a = b :=
  unitsLe_antisymm ((unitsLe_iff ha hb hlength).mpr (Nat.le_of_eq heq))
    ((unitsLe_iff hb ha hlength.symm).mpr (Nat.le_of_eq heq.symm))

theorem isRevision_digits {text : Text} (h : isRevision text) : ∀ u ∈ text, isDigit u := by
  cases text with
  | nil => cases h
  | cons first rest =>
      simp only [isRevision, Bool.or_eq_true, Bool.and_eq_true, decide_eq_true_eq] at h
      rcases h with ⟨rfl, hempty⟩ | ⟨⟨⟨-, hfirst⟩, -⟩, hrest⟩
      · rw [List.isEmpty_iff.mp hempty]
        intro u hu
        rw [List.mem_singleton.mp hu]
        rfl
      · intro u hu
        rcases List.mem_cons.mp hu with rfl | hmem
        · exact hfirst
        · exact List.all_eq_true.mp hrest u hmem

/-- A revision of several digits does not begin with a zero. -/
theorem isRevision_place {text : Text} (h : isRevision text) (hlong : 1 < text.length) :
    10 ^ (text.length - 1) ≤ readDigits text := by
  cases text with
  | nil => cases h
  | cons first rest =>
      have hdigit := digit_le (isRevision_digits h first List.mem_cons_self)
      simp only [isRevision, Bool.or_eq_true, Bool.and_eq_true, decide_eq_true_eq, bne_iff_ne] at h
      rcases h with ⟨-, hempty⟩ | ⟨⟨⟨hfirst, -⟩, -⟩, -⟩
      · rw [List.isEmpty_iff.mp hempty] at hlong
        cases hlong with
        | step h => cases h
      · have hnonzero : first.toNat ≠ 48 := by
          intro hzero
          exact hfirst (UInt16.toNat_inj.mp hzero)
        have hplace : 1 * 10 ^ rest.length ≤ (first.toNat - 48) * 10 ^ rest.length :=
          Nat.mul_le_mul_right _ (by omega)
        rw [readDigits_cons, List.length_cons, Nat.add_sub_cancel]
        omega

/-- The longer revision is the greater number. -/
theorem readDigits_lt_of_length {a b : Text} (ha : isRevision a) (hb : isRevision b)
    (hlength : a.length < b.length) : readDigits a < readDigits b := by
  have hnonempty : 0 < a.length := by
    cases a with
    | nil => cases ha
    | cons _ _ => exact Nat.succ_pos _
  calc readDigits a
      < 10 ^ a.length := readDigits_lt (isRevision_digits ha)
    _ ≤ 10 ^ (b.length - 1) := Nat.pow_le_pow_right (by decide) (by omega)
    _ ≤ readDigits b := isRevision_place hb (by omega)

theorem compareRevisions_eq_sign {a b : Text} (ha : isRevision a) (hb : isRevision b) :
    compareRevisions a b = Int.sign ((readDigits a : ℤ) - readDigits b) := by
  have hdigits := isRevision_digits ha
  have hdigits' := isRevision_digits hb
  unfold compareRevisions
  split
  · case isTrue hlength =>
      split
      · case isTrue hshorter =>
          have hlt := readDigits_lt_of_length ha hb hshorter
          exact (Int.sign_eq_neg_one_of_neg (by omega)).symm
      · case isFalse hlonger =>
          have hlt := readDigits_lt_of_length hb ha (by omega)
          exact (Int.sign_eq_one_of_pos (by omega)).symm
  · case isFalse hlength =>
      have hsame : a.length = b.length := not_not.mp hlength
      split
      · case isTrue heq =>
          rw [heq, Int.sub_self]
          rfl
      · case isFalse hdifferent =>
          have hne : readDigits a ≠ readDigits b := fun heq =>
            hdifferent (readDigits_inj hdigits hdigits' hsame heq)
          have hle := unitsLe_iff hdigits' hdigits hsame.symm
          unfold unitsLt
          split
          · case isTrue hless =>
              have hgreater : ¬readDigits b ≤ readDigits a := by
                intro hge
                rw [hle.mpr hge] at hless
                cases hless
              exact (Int.sign_eq_neg_one_of_neg (by omega)).symm
          · case isFalse hnotLess =>
              have hge : readDigits b ≤ readDigits a := by
                apply hle.mp
                simpa using hnotLess
              exact (Int.sign_eq_one_of_pos (by omega)).symm

/-- A canonical revision string. -/
structure RevisionText where
  text : Text
  canonical : isRevision text

namespace RevisionText

def number (r : RevisionText) : ℕ := readDigits r.text

def compare (a b : RevisionText) : ℤ := compareRevisions a.text b.text

theorem compare_eq_sign (a b : RevisionText) :
    a.compare b = Int.sign ((a.number : ℤ) - b.number) :=
  compareRevisions_eq_sign a.canonical b.canonical

theorem number_injective {a b : RevisionText} (h : a.number = b.number) : a = b := by
  have hlength : a.text.length = b.text.length := by
    rcases Nat.lt_trichotomy a.text.length b.text.length with hless | hequal | hgreater
    · exact absurd h (Nat.ne_of_lt (readDigits_lt_of_length a.canonical b.canonical hless))
    · exact hequal
    · exact absurd h.symm (Nat.ne_of_lt (readDigits_lt_of_length b.canonical a.canonical hgreater))
  have htext : a.text = b.text := readDigits_inj (isRevision_digits a.canonical)
    (isRevision_digits b.canonical) hlength h
  cases a
  cases b
  cases htext
  rfl

/-- Revisions compare as the numbers they denote: in a total order in which only a revision
itself compares equal to it. -/
theorem compare_numeric (a b c : RevisionText) :
    a.compare b = Int.sign ((a.number : ℤ) - b.number) ∧
      (a.compare b = 0 ↔ a = b) ∧ b.compare a = -a.compare b ∧
      (a.compare b ≤ 0 → b.compare c ≤ 0 → a.compare c ≤ 0) := by
  refine ⟨compare_eq_sign a b, ?_, ?_, ?_⟩
  · rw [compare_eq_sign, Int.sign_eq_zero_iff_zero]
    constructor
    · intro hzero
      exact number_injective (by omega)
    · rintro rfl
      exact Int.sub_self _
  · rw [compare_eq_sign, compare_eq_sign, ← Int.sign_neg, Int.neg_sub]
  · rw [compare_eq_sign, compare_eq_sign, compare_eq_sign, Int.sign_nonpos_iff,
      Int.sign_nonpos_iff, Int.sign_nonpos_iff]
    intro hab hbc
    omega

end RevisionText

/-- Two revisions far beyond the machine integers. -/
example : compareRevisions (units "99999999999999999999") (units "100000000000000000000") = -1 := by
  decide +kernel

end StreamOtter.Revisions
