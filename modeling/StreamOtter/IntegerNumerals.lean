import StreamOtter.NumberText
import Mathlib.Tactic.Positivity

/-!
# Numerals of integers

An integer of up to sixteen digits is written in digits, without a point and without an exponent.
-/

namespace Ecma

/-- A decimal whose digits reach up to a place is written by that many digits at most. -/
theorem digitUnits_length_le {n count : ℕ} (h : n < 10 ^ count) :
    (digitUnits n).length ≤ count := by
  rw [digitUnits, List.length_map, List.length_reverse]
  exact (Nat.digits_length_le_iff (by decide) n).mpr h

/-- The candidates for an integer that have no more digits than it are integers. -/
theorem candidates_integer {n log count : ℕ} (hbelow : n < 10 ^ (log + 1)) (hcount : count ≤ log)
    {d : Decimal} (hd : d ∈ candidates (n : ℚ) (log + 1 : ℕ) (count + 1)) :
    0 ≤ d.exponent ∧ d.exponent + (digitUnits d.digits).length ≤ log + 2 := by
  obtain ⟨e, he⟩ : ∃ e, log = count + e := ⟨log - count, by omega⟩
  have hexponent : ((log + 1 : ℕ) : ℤ) - ((count + 1 : ℕ) : ℤ) = (e : ℤ) := by
    subst he
    push_cast
    ring
  have hlow : ((n : ℚ) / 10 ^ (e : ℤ)).floor.toNat = n / 10 ^ e := by
    have hcast : (n : ℚ) / 10 ^ (e : ℤ) = ((n : ℚ) / ((10 ^ e : ℕ) : ℚ)) := by
      push_cast
      rw [zpow_natCast]
    rw [hcast]
    have hfloor := Rat.floor_intCast_div_natCast (n : ℤ) (10 ^ e)
    have hsame : ((n : ℚ) / ((10 ^ e : ℕ) : ℚ)).floor = ⌊((n : ℤ) : ℚ) / ((10 ^ e : ℕ) : ℚ)⌋ := rfl
    rw [hsame, hfloor]
    rfl
  have hsmall : n / 10 ^ e < 10 ^ (count + 1) := by
    rw [Nat.div_lt_iff_lt_mul (by positivity), ← pow_add]
    have hpower : count + 1 + e = log + 1 := by omega
    rwa [hpower]
  unfold candidates at hd
  rw [hexponent] at hd
  dsimp only at hd
  rw [hlow] at hd
  have hcases : d = ⟨n / 10 ^ e, e⟩ ∨ d = ⟨1, (log + 1 : ℕ)⟩ ∨
      (n / 10 ^ e + 1 ≠ 10 ^ (count + 1) ∧ d = ⟨n / 10 ^ e + 1, e⟩) := by
    split at hd <;> split at hd <;> simp_all <;> tauto
  rcases hcases with rfl | rfl | ⟨hne, rfl⟩
  · have hlength := digitUnits_length_le hsmall
    dsimp only
    omega
  · have hlength := digitUnits_length_le (show 1 < 10 ^ 1 by decide)
    dsimp only
    push_cast
    omega
  · have hlength := digitUnits_length_le (show n / 10 ^ e + 1 < 10 ^ (count + 1) by omega)
    dsimp only
    omega

/-- A positive integer that is safe is written in digits. -/
theorem FiniteNumber.numeral_digits {x : FiniteNumber} {n : ℕ} (hvalue : x.toRat = n)
    (hpositive : 0 < n) (hsmall : n < 10 ^ 16) :
    x.numeral ≠ [] ∧ ∀ u ∈ x.numeral, isDigit u := by
  have hcast : (0 : ℚ) < n := by exact_mod_cast hpositive
  have hbits : x.bits ≠ 0 := by
    intro hzero
    rw [toRat, hzero, valueOf_zero] at hvalue
    split at hvalue <;> linarith
  have hsign : x.negative = false := by
    by_contra hnegative
    rw [toRat, if_pos (by simpa using hnegative)] at hvalue
    have hpos := valueOf_pos hbits
    linarith
  have hmagnitude : valueOf x.bits = n := by
    rw [toRat, hsign] at hvalue
    simpa using hvalue
  have hrounds := roundsTo_valueOf hbits
  rw [hmagnitude] at hrounds
  obtain ⟨log, hlog⟩ : ∃ log, log = Nat.log 10 n := ⟨_, rfl⟩
  have hbelow : n < 10 ^ (log + 1) := by
    rw [hlog]
    exact Nat.lt_pow_succ_log_self (by decide) n
  have hlogsmall : log < 16 := by
    rw [hlog]
    exact Nat.log_lt_of_lt_pow (by omega) hsmall
  have hplace : Int.log 10 (n : ℚ) + 1 = ((log + 1 : ℕ) : ℤ) := by
    rw [hlog]
    push_cast
    rw [Int.log_natCast]
  have hexact : ∃ d, (candidates (n : ℚ) ((log + 1 : ℕ) : ℤ) (log + 1)).find?
      (fun d => RoundsTo d.value x.bits) = some d := by
    have hmem : (⟨n, 0⟩ : Decimal) ∈ candidates (n : ℚ) ((log + 1 : ℕ) : ℤ) (log + 1) := by
      have hlow : ((n : ℚ) / 10 ^ (0 : ℤ)).floor.toNat = n := by
        rw [zpow_zero, div_one]
        exact congrArg Int.toNat (Int.floor_natCast (R := ℚ) n)
      unfold candidates
      rw [sub_self]
      dsimp only
      rw [hlow]
      split_ifs <;> simp
    have hfound : ((candidates (n : ℚ) ((log + 1 : ℕ) : ℤ) (log + 1)).find?
        fun d => RoundsTo d.value x.bits).isSome := by
      rw [List.find?_isSome]
      refine ⟨_, hmem, decide_eq_true ?_⟩
      have hsame : (⟨n, 0⟩ : Decimal).value = n := by simp [Decimal.value]
      rwa [hsame]
    exact Option.isSome_iff_exists.mp hfound
  obtain ⟨d, count, hcount, hd, hshortest⟩ : ∃ d count, count ≤ log ∧
      d ∈ candidates (n : ℚ) ((log + 1 : ℕ) : ℤ) (count + 1) ∧ shortest x.bits = d := by
    obtain ⟨exact, hexact⟩ := hexact
    unfold shortest
    dsimp only
    rw [hmagnitude, hplace]
    have hsplit : 17 = (log + 1) + (16 - log) := by omega
    rw [hsplit, List.range_add, List.findSome?_append]
    cases hfirst : (List.range (log + 1)).findSome? fun count =>
        (candidates (n : ℚ) ((log + 1 : ℕ) : ℤ) (count + 1)).find?
          fun d => RoundsTo d.value x.bits with
    | none =>
        have hnone := List.findSome?_eq_none_iff.mp hfirst log (List.mem_range.mpr (by omega))
        rw [hexact] at hnone
        cases hnone
    | some d =>
        obtain ⟨count, hcount, hfound⟩ := List.exists_of_findSome?_eq_some hfirst
        have hlast := List.mem_range.mp hcount
        exact ⟨d, count, by omega, List.mem_of_find?_eq_some hfound, rfl⟩
  obtain ⟨hexponent, hlength⟩ := candidates_integer hbelow hcount hd
  have hdigits : d.digits ≠ 0 := hshortest ▸ digits_ne_zero hbits
  have htext : d.text = digitUnits d.digits ++ zeros d.exponent.toNat := by
    unfold Decimal.text
    dsimp only
    rw [if_pos ⟨by omega, by omega⟩]
    simp [assemble]
  rw [numeral, if_neg hbits, hsign, if_neg Bool.false_ne_true, hshortest, htext]
  refine ⟨?_, ?_⟩
  · have hpos := digitUnits_length_pos hdigits
    intro hempty
    rw [List.append_eq_nil_iff] at hempty
    simp [hempty.1] at hpos
  · intro u hu
    rcases List.mem_append.mp hu with hu | hu
    · exact isDigit_digitUnits _ u hu
    · exact isDigit_zeros _ u hu

end Ecma
