import StreamOtter.JsonText
import Mathlib.Data.Int.Log
import Mathlib.Data.Rat.Floor
import Mathlib.Data.Nat.Digits.Lemmas
import Mathlib.Tactic.Linarith
import Mathlib.Tactic.Ring
import Mathlib.Tactic.FieldSimp

/-!
# The numerals of ECMAScript numbers

A finite number is a binary64 value.  Its numeral is the shortest decimal that rounds to it,
as `Number::toString` writes it, so a numeral determines the number but for the sign of zero.
-/

namespace Ecma

/-! ## Magnitudes -/

/-- A finite magnitude in units of the least one, by its bits without the sign. -/
def unitsOf (bits : ℕ) : ℕ :=
  if bits / 2 ^ 52 = 0 then bits else (2 ^ 52 + bits % 2 ^ 52) * 2 ^ (bits / 2 ^ 52 - 1)

theorem unitsOf_lt_succ (bits : ℕ) : unitsOf bits < unitsOf (bits + 1) := by
  obtain ⟨exponent, fraction, hfraction, rfl⟩ :
      ∃ exponent fraction, fraction < 2 ^ 52 ∧ bits = 2 ^ 52 * exponent + fraction :=
    ⟨bits / 2 ^ 52, bits % 2 ^ 52, Nat.mod_lt _ (by decide), (Nat.div_add_mod _ _).symm⟩
  have hdiv : (2 ^ 52 * exponent + fraction) / 2 ^ 52 = exponent := by omega
  have hmod : (2 ^ 52 * exponent + fraction) % 2 ^ 52 = fraction := by omega
  unfold unitsOf
  rw [hdiv, hmod]
  by_cases hlast : fraction + 1 < 2 ^ 52
  · have hdiv' : (2 ^ 52 * exponent + fraction + 1) / 2 ^ 52 = exponent := by omega
    have hmod' : (2 ^ 52 * exponent + fraction + 1) % 2 ^ 52 = fraction + 1 := by omega
    rw [hdiv', hmod']
    by_cases hzero : exponent = 0
    · rw [if_pos hzero, if_pos hzero]
      omega
    · rw [if_neg hzero, if_neg hzero]
      exact Nat.mul_lt_mul_of_pos_right (by omega) (Nat.two_pow_pos _)
  · have hdiv' : (2 ^ 52 * exponent + fraction + 1) / 2 ^ 52 = exponent + 1 := by omega
    have hmod' : (2 ^ 52 * exponent + fraction + 1) % 2 ^ 52 = 0 := by omega
    rw [hdiv', hmod', if_neg (Nat.succ_ne_zero _), Nat.add_sub_cancel, Nat.add_zero]
    cases exponent with
    | zero =>
        rw [if_pos rfl]
        omega
    | succ exponent =>
        rw [if_neg (Nat.succ_ne_zero _), Nat.add_sub_cancel, pow_succ]
        have hpos := Nat.two_pow_pos exponent
        have hlt : (2 ^ 52 + fraction) * 2 ^ exponent < (2 ^ 52 + 2 ^ 52) * 2 ^ exponent :=
          Nat.mul_lt_mul_of_pos_right (by omega) hpos
        calc (2 ^ 52 + fraction) * 2 ^ exponent
            < (2 ^ 52 + 2 ^ 52) * 2 ^ exponent := hlt
          _ = 2 ^ 52 * (2 ^ exponent * 2) := by ring

theorem unitsOf_strictMono : StrictMono unitsOf := strictMono_nat_of_lt_succ unitsOf_lt_succ

/-- The least magnitude is this negative power of two. -/
def precision : ℕ := 1074

/-- How many units make one. -/
def scale : ℚ := 2 ^ precision

theorem scale_pos : 0 < scale := by
  unfold scale
  positivity

/-- The magnitude. -/
def valueOf (bits : ℕ) : ℚ := unitsOf bits / scale

/-! ## Rounding -/

/-- Half a unit's multiples between which a decimal rounds to a magnitude; a tie goes to the
even one. -/
def RoundsTo (r : ℚ) (bits : ℕ) : Prop :=
  if bits % 2 = 0 then
    (unitsOf (bits - 1) + unitsOf bits : ℚ) ≤ 2 * (r * scale) ∧
      2 * (r * scale) ≤ unitsOf bits + unitsOf (bits + 1)
  else
    (unitsOf (bits - 1) + unitsOf bits : ℚ) < 2 * (r * scale) ∧
      2 * (r * scale) < unitsOf bits + unitsOf (bits + 1)

instance (r : ℚ) (bits : ℕ) : Decidable (RoundsTo r bits) := by
  unfold RoundsTo
  infer_instance

theorem RoundsTo.le {r : ℚ} {bits : ℕ} (h : RoundsTo r bits) :
    (unitsOf (bits - 1) + unitsOf bits : ℚ) ≤ 2 * (r * scale) ∧
      2 * (r * scale) ≤ unitsOf bits + unitsOf (bits + 1) := by
  unfold RoundsTo at h
  split at h
  · exact h
  · exact ⟨h.1.le, h.2.le⟩

theorem RoundsTo.not_lt {r : ℚ} {a b : ℕ} (ha : RoundsTo r a) (hb : RoundsTo r b) : ¬ a < b := by
  intro hlt
  have hhigh := ha.le.2
  have hlow := hb.le.1
  have hstep : unitsOf a ≤ unitsOf (b - 1) := unitsOf_strictMono.monotone (by omega)
  have hstep' : unitsOf (a + 1) ≤ unitsOf b := unitsOf_strictMono.monotone (by omega)
  have hstep₁ : (unitsOf a : ℚ) ≤ unitsOf (b - 1) := by exact_mod_cast hstep
  have hstep₂ : (unitsOf (a + 1) : ℚ) ≤ unitsOf b := by exact_mod_cast hstep'
  -- No decimal lies beyond one magnitude's half and before the other's: it is a tie.
  have hadjacent : unitsOf (a + 1) = unitsOf b := by
    have hle : (unitsOf b : ℚ) ≤ unitsOf (a + 1) := by linarith
    exact le_antisymm hstep' (by exact_mod_cast hle)
  have hnext : a + 1 = b := unitsOf_strictMono.injective hadjacent
  unfold RoundsTo at ha hb
  by_cases heven : a % 2 = 0
  · rw [if_neg (by omega)] at hb
    linarith [hb.1]
  · rw [if_neg heven] at ha
    linarith [ha.2]

/-- A decimal rounds to one magnitude. -/
theorem RoundsTo.unique {r : ℚ} {a b : ℕ} (ha : RoundsTo r a) (hb : RoundsTo r b) : a = b := by
  have hab := ha.not_lt hb
  have hba := hb.not_lt ha
  omega

theorem RoundsTo.pos {r : ℚ} {bits : ℕ} (h : RoundsTo r bits) (hbits : bits ≠ 0) : 0 < r := by
  have hlow := h.le.1
  have hunits : 0 < unitsOf bits :=
    lt_of_le_of_lt (Nat.zero_le _) (unitsOf_strictMono (Nat.pos_of_ne_zero hbits))
  have hunits' : (0 : ℚ) < unitsOf bits := by exact_mod_cast hunits
  have hbelow : (0 : ℚ) ≤ unitsOf (bits - 1) := Nat.cast_nonneg _
  by_contra hnot
  have hle : r * scale ≤ 0 := mul_nonpos_of_nonpos_of_nonneg (le_of_not_gt hnot) scale_pos.le
  linarith

theorem roundsTo_valueOf {bits : ℕ} (hbits : bits ≠ 0) : RoundsTo (valueOf bits) bits := by
  have hdouble : 2 * (valueOf bits * scale) = unitsOf bits + unitsOf bits := by
    rw [valueOf, div_mul_cancel₀ _ scale_pos.ne', two_mul]
  have hbelow : unitsOf (bits - 1) < unitsOf bits := unitsOf_strictMono (by omega)
  have habove : unitsOf bits < unitsOf (bits + 1) := unitsOf_lt_succ bits
  have hbelow' : (unitsOf (bits - 1) : ℚ) < unitsOf bits := by exact_mod_cast hbelow
  have habove' : (unitsOf bits : ℚ) < unitsOf (bits + 1) := by exact_mod_cast habove
  unfold RoundsTo
  rw [hdouble]
  split
  · constructor <;> linarith
  · constructor <;> linarith

/-! ## The shortest decimal -/

/-- Some digits, and the power of ten they count. -/
structure Decimal where
  digits : ℕ
  exponent : ℤ
  deriving DecidableEq, Repr

def Decimal.value (d : Decimal) : ℚ := d.digits * 10 ^ d.exponent

/-- The decimals of so many digits around a magnitude, the closer one first; `place` is the
place of the point before the first of them. -/
def candidates (v : ℚ) (place : ℤ) (count : ℕ) : List Decimal :=
  let exponent := place - count
  let low := (v / 10 ^ exponent).floor.toNat
  let below : Decimal := ⟨low, exponent⟩
  let above : Decimal := if low + 1 = 10 ^ count then ⟨1, place⟩ else ⟨low + 1, exponent⟩
  if v - below.value ≤ above.value - v then [below, above] else [above, below]

/-- The magnitude itself. -/
def exactDecimal (bits : ℕ) : Decimal := ⟨unitsOf bits * 5 ^ precision, -precision⟩

/-- The fewest digits that round to the magnitude, of which seventeen are always enough. -/
def shortest (bits : ℕ) : Decimal :=
  let v := valueOf bits
  let place := Int.log 10 v + 1
  ((List.range 17).findSome? fun count =>
    (candidates v place (count + 1)).find? fun d => RoundsTo d.value bits).getD (exactDecimal bits)

theorem exactDecimal_value (bits : ℕ) : (exactDecimal bits).value = valueOf bits := by
  unfold exactDecimal Decimal.value valueOf scale
  have hten : (10 : ℚ) ^ (-(precision : ℤ)) = ((5 : ℚ) ^ precision * 2 ^ precision)⁻¹ := by
    have hfactors : (10 : ℚ) = 5 * 2 := by norm_num
    rw [zpow_neg, zpow_natCast, hfactors, mul_pow]
  have hfive : (5 : ℚ) ^ precision ≠ 0 := by positivity
  dsimp only
  rw [hten]
  push_cast
  rw [mul_inv, ← mul_assoc, mul_inv_cancel_right₀ hfive, div_eq_mul_inv]

theorem roundsTo_shortest {bits : ℕ} (hbits : bits ≠ 0) : RoundsTo (shortest bits).value bits := by
  unfold shortest
  dsimp only
  cases hfound : (List.range 17).findSome? fun count =>
      (candidates (valueOf bits) (Int.log 10 (valueOf bits) + 1) (count + 1)).find?
        fun d => RoundsTo d.value bits with
  | none =>
      rw [Option.getD_none, exactDecimal_value]
      exact roundsTo_valueOf hbits
  | some d =>
      obtain ⟨count, -, hcount⟩ := List.exists_of_findSome?_eq_some hfound
      have hrounds := List.find?_some hcount
      exact of_decide_eq_true hrounds

/-! ## Decimals as text -/

def digitUnit (digit : ℕ) : UInt16 := UInt16.ofNat (48 + digit)

/-- The digits of a number, the first one first. -/
def digitUnits (n : ℕ) : Text := (Nat.digits 10 n).reverse.map digitUnit

def zeros (count : ℕ) : Text := List.replicate count 0x30

/-- A numeral of its whole digits, its fraction and its exponent. -/
def assemble (whole : Text) (fraction exponent : Option Text) : Text :=
  whole ++ (fraction.elim [] (0x2e :: ·) ++ exponent.elim [] (0x65 :: ·))

/-- `Number::toString` of the digits `k` and the place `n` of the point. -/
def Decimal.text (d : Decimal) : Text :=
  let digits := digitUnits d.digits
  let n := d.exponent + digits.length
  if digits.length ≤ n ∧ n ≤ 21 then assemble (digits ++ zeros d.exponent.toNat) none none
  else if 0 < n ∧ n ≤ 21 then assemble (digits.take n.toNat) (some (digits.drop n.toNat)) none
  else if -6 < n ∧ n ≤ 0 then assemble [0x30] (some (zeros (-n).toNat ++ digits)) none
  else
    let exponent := (if 0 < n then 0x2b else 0x2d) :: digitUnits (n - 1).natAbs
    if digits.length = 1 then assemble digits none (some exponent)
    else assemble (digits.take 1) (some (digits.drop 1)) (some exponent)

/-! ### Reading a numeral -/

def readDigits (text : Text) : ℕ := text.foldl (fun value u => 10 * value + (u.toNat - 48)) 0

def readExponent : Text → ℤ
  | [] => 0
  | sign :: digits => if sign = 0x2d then -(readDigits digits) else readDigits digits

/-- The decimal that a numeral without a sign is. -/
def readDecimal (text : Text) : ℚ :=
  let mantissa := text.takeWhile (· != 0x65)
  let exponent := (text.dropWhile (· != 0x65)).drop 1
  let whole := mantissa.takeWhile (· != 0x2e)
  let fraction := (mantissa.dropWhile (· != 0x2e)).drop 1
  readDigits (whole ++ fraction) * 10 ^ (readExponent exponent - fraction.length)

theorem digitUnit_toNat {digit : ℕ} (h : digit < 10) : (digitUnit digit).toNat = 48 + digit := by
  unfold digitUnit
  rw [UInt16.toNat_ofNat']
  omega

theorem isDigit_digitUnit {digit : ℕ} (h : digit < 10) : isDigit (digitUnit digit) := by
  have hall : ∀ digit : Fin 10, isDigit (digitUnit digit.val) := by decide
  exact hall ⟨digit, h⟩

theorem isDigit_digitUnits (n : ℕ) : ∀ u ∈ digitUnits n, isDigit u := by
  intro u hu
  obtain ⟨digit, hdigit, rfl⟩ := List.mem_map.mp hu
  exact isDigit_digitUnit (Nat.digits_lt_base (by decide) (List.mem_reverse.mp hdigit))

theorem isDigit_zeros (count : ℕ) : ∀ u ∈ zeros count, isDigit u := by
  intro u hu
  rw [List.eq_of_mem_replicate hu]
  decide

theorem readDigits_append (a b : Text) :
    readDigits (a ++ b) = readDigits a * 10 ^ b.length + readDigits b := by
  unfold readDigits
  induction b using List.reverseRecOn with
  | nil => simp
  | append_singleton b u ih =>
      rw [← List.append_assoc, List.foldl_append, ih, List.foldl_append, List.length_append,
        List.foldl_cons, List.foldl_nil, List.foldl_cons, List.foldl_nil, List.length_singleton,
        pow_succ]
      ring

theorem readDigits_zeros (count : ℕ) : readDigits (zeros count) = 0 := by
  induction count with
  | zero => rfl
  | succ count ih =>
      have hsplit : zeros (count + 1) = [0x30] ++ zeros count := rfl
      rw [hsplit, readDigits_append, ih]
      have hzero : readDigits [0x30] = 0 := by decide
      rw [hzero, Nat.zero_mul]

theorem readDigits_digitUnits (n : ℕ) : readDigits (digitUnits n) = n := by
  have hread : ∀ digits : List ℕ, (∀ digit ∈ digits, digit < 10) →
      readDigits (digits.reverse.map digitUnit) = Nat.ofDigits 10 digits := by
    intro digits hdigits
    induction digits with
    | nil => rfl
    | cons digit rest ih =>
        have hdigit := digitUnit_toNat (hdigits digit List.mem_cons_self)
        rw [List.reverse_cons, List.map_append, readDigits_append,
          ih fun other hother => hdigits other (List.mem_cons_of_mem _ hother), Nat.ofDigits_cons]
        simp only [readDigits, List.map_cons, List.map_nil, List.foldl_cons, List.foldl_nil, hdigit,
          List.length_singleton]
        omega
  rw [digitUnits, hread _ fun digit hdigit => Nat.digits_lt_base (by decide) hdigit,
    Nat.ofDigits_digits]

theorem ne_of_isDigit {u : UInt16} (h : isDigit u) : u ≠ 0x65 ∧ u ≠ 0x2e ∧ u ≠ 0x2d := by
  refine ⟨?_, ?_, ?_⟩ <;> rintro rfl <;> exact absurd h (by decide)

/-- The parts of a numeral are read apart. -/
theorem readDecimal_assemble
    {whole : Text} (hwhole : ∀ u ∈ whole, isDigit u) {fraction exponent : Option Text}
    (hfraction : ∀ text ∈ fraction, ∀ u ∈ text, isDigit u) :
    readDecimal (assemble whole fraction exponent) =
      readDigits (whole ++ fraction.getD []) *
        10 ^ (readExponent (exponent.getD []) - ((fraction.getD []).length : ℤ)) := by
  have hplain : ∀ u ∈ whole ++ fraction.elim [] (0x2e :: ·), (u != 0x65) = true := by
    intro u hu
    rw [bne_iff_ne]
    rcases List.mem_append.mp hu with hmem | hmem
    · exact (ne_of_isDigit (hwhole u hmem)).1
    · cases fraction with
      | none => simp at hmem
      | some text =>
          rcases List.mem_cons.mp hmem with rfl | hmem
          · decide
          · exact (ne_of_isDigit (hfraction text rfl u hmem)).1
  have hmantissa : (assemble whole fraction exponent).takeWhile (· != 0x65) =
      whole ++ fraction.elim [] (0x2e :: ·) := by
    unfold assemble
    rw [← List.append_assoc, List.takeWhile_append_of_pos hplain]
    cases exponent <;> simp
  have hexponent : ((assemble whole fraction exponent).dropWhile (· != 0x65)).drop 1 =
      exponent.getD [] := by
    unfold assemble
    rw [← List.append_assoc, List.dropWhile_append_of_pos hplain]
    cases exponent <;> simp
  have hdigits : ∀ u ∈ whole, (u != 0x2e) = true := by
    intro u hu
    exact bne_iff_ne.mpr (ne_of_isDigit (hwhole u hu)).2.1
  have hwhole' : (whole ++ fraction.elim [] (0x2e :: ·)).takeWhile (· != 0x2e) = whole := by
    rw [List.takeWhile_append_of_pos hdigits]
    cases fraction <;> simp
  have hfraction' : ((whole ++ fraction.elim [] (0x2e :: ·)).dropWhile (· != 0x2e)).drop 1 =
      fraction.getD [] := by
    rw [List.dropWhile_append_of_pos hdigits]
    cases fraction <;> simp
  unfold readDecimal
  dsimp only
  rw [hmantissa, hexponent, hwhole', hfraction']

theorem digitUnits_length_pos {n : ℕ} (h : n ≠ 0) : 0 < (digitUnits n).length := by
  unfold digitUnits
  rw [List.length_map, List.length_reverse, List.length_pos_iff]
  exact Nat.digits_ne_nil_iff_ne_zero.mpr h

/-- The text of a decimal is one numeral of digits before a fraction and an exponent. -/
structure Reads (d : Decimal) (whole : Text) (fraction exponent : Option Text) : Prop where
  nonempty : whole ≠ []
  digits : ∀ u ∈ whole, isDigit u
  decimals : ∀ text ∈ fraction, ∀ u ∈ text, isDigit u
  power : ∀ text ∈ exponent, ∀ u ∈ text, isNumeric u
  value : (readDigits (whole ++ fraction.getD []) : ℚ) *
    10 ^ (readExponent (exponent.getD []) - ((fraction.getD []).length : ℤ)) = d.value

theorem isNumeric_of_isDigit {u : UInt16} (h : isDigit u) : isNumeric u := by
  unfold isDigit at h
  unfold isNumeric
  rw [h]
  rfl

/-- The exponent of the last two forms. -/
theorem readExponent_place (n : ℤ) :
    readExponent ((if 0 < n then 0x2b else 0x2d) :: digitUnits (n - 1).natAbs) = n - 1 := by
  rw [readExponent, readDigits_digitUnits]
  by_cases hpos : 0 < n
  · rw [if_pos hpos, if_neg (by decide)]
    omega
  · rw [if_neg hpos, if_pos rfl]
    omega

section Forms

variable {d : Decimal} {digits : Text}

theorem reads_integer
    (hdigits : ∀ u ∈ digits, isDigit u) (hnil : digits ≠ []) (hread : readDigits digits = d.digits)
    (hexponent : 0 ≤ d.exponent) : Reads d (digits ++ zeros d.exponent.toNat) none none := by
  obtain ⟨count, hcount⟩ := Int.eq_ofNat_of_zero_le hexponent
  refine ⟨?_, ?_, by simp, by simp, ?_⟩
  · exact fun hempty => hnil (List.append_eq_nil_iff.mp hempty).1
  · intro u hu
    exact (List.mem_append.mp hu).elim (hdigits u) (isDigit_zeros _ u)
  · have hlen : (zeros count).length = count := List.length_replicate
    rw [hcount, Int.toNat_natCast, Option.getD_none, List.append_nil, readDigits_append,
      readDigits_zeros, hlen, hread, Decimal.value, hcount]
    simp [readExponent]

theorem reads_pointed
    (hdigits : ∀ u ∈ digits, isDigit u) (hread : readDigits digits = d.digits) {place : ℕ}
    (hpos : 0 < place) (hplace : (place : ℤ) = d.exponent + digits.length)
    (hle : place ≤ digits.length) : Reads d (digits.take place) (some (digits.drop place)) none := by
  refine ⟨?_, ?_, ?_, by simp, ?_⟩
  · rw [← List.length_pos_iff, List.length_take]
    omega
  · exact fun u hu => hdigits u (List.mem_of_mem_take hu)
  · rintro text htext u hu
    obtain rfl : digits.drop place = text := Option.some.inj htext
    exact hdigits u (List.mem_of_mem_drop hu)
  · have hexponent : (0 : ℤ) - ((digits.length - place : ℕ) : ℤ) = d.exponent := by omega
    rw [Option.getD_some, List.take_append_drop, hread, List.length_drop, Option.getD_none,
      readExponent, hexponent, Decimal.value]

theorem reads_small
    (hdigits : ∀ u ∈ digits, isDigit u) (hread : readDigits digits = d.digits) {count : ℕ}
    (hcount : -(count : ℤ) = d.exponent + digits.length) :
    Reads d [0x30] (some (zeros count ++ digits)) none := by
  refine ⟨by simp, ?_, ?_, by simp, ?_⟩
  · intro u hu
    obtain rfl := List.mem_singleton.mp hu
    decide
  · rintro text htext u hu
    obtain rfl : zeros count ++ digits = text := Option.some.inj htext
    exact (List.mem_append.mp hu).elim (isDigit_zeros _ u) (hdigits u)
  · have hzero : readDigits [0x30] = 0 := by decide
    have hlen : (zeros count).length = count := List.length_replicate
    have hexponent : (0 : ℤ) - ((count + digits.length : ℕ) : ℤ) = d.exponent := by omega
    rw [Option.getD_some, readDigits_append, hzero, Nat.zero_mul, Nat.zero_add, readDigits_append,
      readDigits_zeros, Nat.zero_mul, Nat.zero_add, hread, List.length_append, hlen,
      Option.getD_none, readExponent, hexponent, Decimal.value]

theorem reads_power
    (hdigits : ∀ u ∈ digits, isDigit u) (hnil : digits ≠ []) (hread : readDigits digits = d.digits)
    {exponent : Text} (hnumeric : ∀ u ∈ exponent, isNumeric u)
    (hexponent : readExponent exponent = d.exponent + digits.length - 1) :
    Reads d (digits.take 1) (some (digits.drop 1)) (some exponent) := by
  have hlength := List.length_pos_iff.mpr hnil
  refine ⟨?_, ?_, ?_, ?_, ?_⟩
  · rw [← List.length_pos_iff, List.length_take]
    omega
  · exact fun u hu => hdigits u (List.mem_of_mem_take hu)
  · rintro text htext u hu
    obtain rfl : digits.drop 1 = text := Option.some.inj htext
    exact hdigits u (List.mem_of_mem_drop hu)
  · rintro text htext
    obtain rfl : exponent = text := Option.some.inj htext
    exact hnumeric
  · have hplace : d.exponent + (digits.length : ℤ) - 1 - ((digits.length - 1 : ℕ) : ℤ) =
        d.exponent := by
      omega
    rw [Option.getD_some, List.take_append_drop, Option.getD_some, hexponent, hread,
      List.length_drop, hplace, Decimal.value]

theorem reads_power_single
    (hdigits : ∀ u ∈ digits, isDigit u) (hread : readDigits digits = d.digits)
    (hsingle : digits.length = 1) {exponent : Text} (hnumeric : ∀ u ∈ exponent, isNumeric u)
    (hexponent : readExponent exponent = d.exponent + digits.length - 1) :
    Reads d digits none (some exponent) := by
  refine ⟨?_, hdigits, by simp, ?_, ?_⟩
  · exact List.length_pos_iff.mp (by omega)
  · rintro text htext
    obtain rfl : exponent = text := Option.some.inj htext
    exact hnumeric
  · rw [Option.getD_none, List.append_nil, Option.getD_some, hexponent, hread, hsingle]
    simp [Decimal.value]

end Forms

theorem Decimal.text_reads (d : Decimal) (h : d.digits ≠ 0) :
    ∃ whole fraction exponent, d.text = assemble whole fraction exponent ∧
      Reads d whole fraction exponent := by
  have hlength := digitUnits_length_pos h
  have hdigits := isDigit_digitUnits d.digits
  have hnil : digitUnits d.digits ≠ [] := List.length_pos_iff.mp hlength
  have hread := readDigits_digitUnits d.digits
  unfold Decimal.text
  dsimp only
  generalize digitUnits d.digits = digits at hlength hdigits hnil hread ⊢
  split
  · exact ⟨_, _, _, rfl, reads_integer hdigits hnil hread (by omega)⟩
  · split
    · exact ⟨_, _, _, rfl, reads_pointed hdigits hread (by omega) (by omega) (by omega)⟩
    · split
      · exact ⟨_, _, _, rfl, reads_small hdigits hread (by omega)⟩
      · have hexponent := readExponent_place (d.exponent + digits.length)
        have hnumeric : ∀ u ∈ (if 0 < d.exponent + (digits.length : ℤ) then (0x2b : UInt16)
            else 0x2d) :: digitUnits (d.exponent + digits.length - 1).natAbs, isNumeric u := by
          intro u hu
          rcases List.mem_cons.mp hu with rfl | hu
          · split <;> decide
          · exact isNumeric_of_isDigit (isDigit_digitUnits _ u hu)
        split
        · rename_i hsingle
          exact ⟨_, _, _, rfl, reads_power_single hdigits hread hsingle hnumeric hexponent⟩
        · exact ⟨_, _, _, rfl, reads_power hdigits hnil hread hnumeric hexponent⟩

theorem Decimal.readDecimal_text (d : Decimal) (h : d.digits ≠ 0) :
    readDecimal d.text = d.value := by
  obtain ⟨whole, fraction, exponent, htext, hreads⟩ := d.text_reads h
  rw [htext, readDecimal_assemble hreads.digits hreads.decimals, hreads.value]

/-- A decimal's text begins with a digit, and is made of numeric units. -/
theorem Decimal.text_head (d : Decimal) (h : d.digits ≠ 0) :
    ∃ u rest, d.text = u :: rest ∧ isDigit u ∧ ∀ u' ∈ d.text, isNumeric u' := by
  obtain ⟨whole, fraction, exponent, htext, hreads⟩ := d.text_reads h
  obtain ⟨u, rest, rfl⟩ := List.exists_cons_of_ne_nil hreads.nonempty
  refine ⟨u, _, by rw [htext, assemble, List.cons_append], hreads.digits u List.mem_cons_self, ?_⟩
  intro u' hu'
  rw [htext, assemble, List.mem_append, List.mem_append] at hu'
  rcases hu' with hwhole | hfraction | hexponent
  · exact isNumeric_of_isDigit (hreads.digits u' hwhole)
  · cases hsome : fraction with
    | none => simp [hsome] at hfraction
    | some text =>
        rw [hsome] at hfraction
        rcases List.mem_cons.mp hfraction with rfl | hmem
        · decide
        · exact isNumeric_of_isDigit (hreads.decimals text hsome u' hmem)
  · cases hsome : exponent with
    | none => simp [hsome] at hexponent
    | some text =>
        rw [hsome] at hexponent
        rcases List.mem_cons.mp hexponent with rfl | hmem
        · decide
        · exact hreads.power text hsome u' hmem

/-! ## Numbers -/

/-- A finite number. -/
structure FiniteNumber where
  negative : Bool
  bits : ℕ
  bounded : bits < 2047 * 2 ^ 52
  deriving DecidableEq

namespace FiniteNumber

def toRat (x : FiniteNumber) : ℚ := if x.negative then -valueOf x.bits else valueOf x.bits

/-- `Number::toString`. -/
def numeral (x : FiniteNumber) : Text :=
  if x.bits = 0 then [0x30]
  else if x.negative then 0x2d :: (shortest x.bits).text
  else (shortest x.bits).text

def isNegativeZero (x : FiniteNumber) : Bool := x.negative && x.bits = 0

theorem digits_ne_zero {x : FiniteNumber} (h : x.bits ≠ 0) : (shortest x.bits).digits ≠ 0 := by
  intro hzero
  have hpos := (roundsTo_shortest h).pos h
  rw [Decimal.value, hzero, Nat.cast_zero, zero_mul] at hpos
  exact lt_irrefl 0 hpos

/-- The number that a numeral is. -/
def read (text : Text) : ℚ :=
  match text with
  | 0x2d :: rest => -readDecimal rest
  | text => readDecimal text

theorem read_numeral_zero {x : FiniteNumber} (h : x.bits = 0) : read x.numeral = 0 := by
  unfold numeral
  rw [if_pos h]
  decide +kernel

theorem read_numeral {x : FiniteNumber} (h : x.bits ≠ 0) :
    read x.numeral =
      if x.negative then -(shortest x.bits).value else (shortest x.bits).value := by
  have hdigits := digits_ne_zero h
  unfold numeral
  rw [if_neg h]
  split
  · rw [read, Decimal.readDecimal_text _ hdigits]
  · obtain ⟨u, rest, htext, hu, -⟩ := Decimal.text_head _ hdigits
    have hread := Decimal.readDecimal_text _ hdigits
    rw [htext] at hread ⊢
    rw [← hread]
    have hsign := (ne_of_isDigit hu).2.2
    unfold read
    split
    · rename_i heq
      exact absurd (List.cons.inj heq).1 hsign
    · rfl

/-- A numeral tells a number from every other one, unless both are zeros. -/
theorem numeral_inj {x y : FiniteNumber} (h : x.numeral = y.numeral) : x.toRat = y.toRat := by
  have hread : read x.numeral = read y.numeral := by rw [h]
  by_cases hx : x.bits = 0
  · by_cases hy : y.bits = 0
    · simp [toRat, hx, hy, valueOf, unitsOf]
    · rw [read_numeral_zero hx, read_numeral hy] at hread
      have hpos := (roundsTo_shortest hy).pos hy
      split at hread <;> linarith
  · have hpos := (roundsTo_shortest hx).pos hx
    by_cases hy : y.bits = 0
    · rw [read_numeral_zero hy, read_numeral hx] at hread
      split at hread <;> linarith
    · have hpos' := (roundsTo_shortest hy).pos hy
      rw [read_numeral hx, read_numeral hy] at hread
      have hsign : x.negative = y.negative ∧
          (shortest x.bits).value = (shortest y.bits).value := by
        cases hnx : x.negative <;> cases hny : y.negative <;> simp only [hnx, hny] at hread <;>
          simp only [if_true, Bool.false_eq_true, if_false] at hread <;>
          first | exact ⟨rfl, by linarith⟩ | (exfalso; linarith)
      have hrounds := roundsTo_shortest hx
      rw [hsign.2] at hrounds
      have hbits := hrounds.unique (roundsTo_shortest hy)
      rw [toRat, toRat, hsign.1, hbits]

theorem valueOf_strictMono : StrictMono valueOf := by
  intro a b hlt
  have hunits := unitsOf_strictMono hlt
  unfold valueOf
  exact div_lt_div_of_pos_right (by exact_mod_cast hunits) scale_pos

theorem valueOf_zero : valueOf 0 = 0 := by
  simp [valueOf, unitsOf]

theorem valueOf_pos {bits : ℕ} (h : bits ≠ 0) : 0 < valueOf bits := by
  rw [← valueOf_zero]
  exact valueOf_strictMono (Nat.pos_of_ne_zero h)

/-- Numbers of one value are the same one, or zeros. -/
theorem eq_or_zero_of_toRat_eq {x y : FiniteNumber} (h : x.toRat = y.toRat) :
    x = y ∨ (x.bits = 0 ∧ y.bits = 0) := by
  unfold toRat at h
  by_cases hx : x.bits = 0
  · by_cases hy : y.bits = 0
    · exact .inr ⟨hx, hy⟩
    · have hpos := valueOf_pos hy
      rw [hx, valueOf_zero, neg_zero, ite_self] at h
      split at h <;> linarith
  · have hpos := valueOf_pos hx
    by_cases hy : y.bits = 0
    · rw [hy, valueOf_zero, neg_zero, ite_self] at h
      split at h <;> linarith
    · have hpos' := valueOf_pos hy
      have hsign : x.negative = y.negative ∧ valueOf x.bits = valueOf y.bits := by
        cases hnx : x.negative <;> cases hny : y.negative <;> simp only [hnx, hny] at h <;>
          simp only [if_true, Bool.false_eq_true, if_false] at h <;>
          first | exact ⟨rfl, by linarith⟩ | (exfalso; linarith)
      left
      obtain ⟨negative, bits, hbounded⟩ := x
      obtain ⟨negative', bits', hbounded'⟩ := y
      obtain ⟨rfl, hvalue⟩ := hsign
      obtain rfl := valueOf_strictMono.injective hvalue
      rfl

end FiniteNumber

/-- A finite number that is not the negative zero. -/
structure PlainNumber where
  number : FiniteNumber
  plain : number.isNegativeZero = false
  deriving DecidableEq

namespace PlainNumber

def numeral (x : PlainNumber) : Text := x.number.numeral

def toRat (x : PlainNumber) : ℚ := x.number.toRat

theorem toRat_injective : Function.Injective toRat := by
  rintro ⟨x, hx⟩ ⟨y, hy⟩ h
  have hsame : x = y := by
    rcases FiniteNumber.eq_or_zero_of_toRat_eq h with hsame | ⟨hxzero, hyzero⟩
    · exact hsame
    · obtain ⟨negative, bits, hbounded⟩ := x
      obtain ⟨negative', bits', hbounded'⟩ := y
      obtain rfl : bits = 0 := hxzero
      obtain rfl : bits' = 0 := hyzero
      obtain rfl : negative = false := by simpa [FiniteNumber.isNegativeZero] using hx
      obtain rfl : negative' = false := by simpa [FiniteNumber.isNegativeZero] using hy
      rfl
  subst hsame
  rfl

/-- The numerals of numbers other than the negative zero are apart. -/
theorem numerals : Numerals numeral where
  injective := by
    intro x y h
    exact toRat_injective (FiniteNumber.numeral_inj h)
  nonempty := by
    intro x
    unfold numeral FiniteNumber.numeral
    split
    · simp
    · rename_i hbits
      obtain ⟨u, rest, htext, -⟩ := Decimal.text_head _ (FiniteNumber.digits_ne_zero hbits)
      split <;> simp [htext]
  numeric := by
    intro x u hu
    unfold numeral FiniteNumber.numeral at hu
    split at hu
    · obtain rfl := List.mem_singleton.mp hu
      decide
    · rename_i hbits
      obtain ⟨-, -, -, -, hall⟩ := Decimal.text_head _ (FiniteNumber.digits_ne_zero hbits)
      split at hu
      · rcases List.mem_cons.mp hu with rfl | hmem
        · decide
        · exact hall u hmem
      · exact hall u hu

end PlainNumber

example : (FiniteNumber.mk true 4591870180066957722 (by decide)).numeral = units "-0.1" := by
  decide +kernel

example : (FiniteNumber.mk false 1 (by decide)).numeral = units "5e-324" := by
  decide +kernel

end Ecma
