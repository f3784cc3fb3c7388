import Mathlib.Data.Nat.Digits.Defs
import Mathlib.Data.List.Basic

/-!
# Times as texts

A time in milliseconds since 1970 as `Date.prototype.toISOString` prints it, and what
`Date.parse` reads from such a text.  The calendar counts days from the first of March of the
year zero in cycles of 400 years; the year has four digits, or a sign and at least six.
-/

namespace IsoTime

/-! ### The calendar -/

structure Civil where
  year : ℕ
  month : ℕ
  day : ℕ
  deriving DecidableEq, Repr

/-- The days from the first of March of the year zero to 1970. -/
def epochShift : ℕ := 719468

/-- The year of a cycle and the day of that year, for a day of the cycle. -/
def yearAndDay (dayOfCycle : ℕ) : ℕ × ℕ :=
  let century := min (dayOfCycle / 36524) 3
  let dayOfCentury := dayOfCycle - century * 36524
  let leap := dayOfCentury / 1461
  let year := min (dayOfCentury % 1461 / 365) 3
  (century * 100 + leap * 4 + year, dayOfCentury % 1461 - year * 365)

/-- The first day of a year of a cycle. -/
def firstDay (year : ℕ) : ℕ := year * 365 + year / 4 - year / 100

/-- The date of a day since 1970.  The months count from March. -/
def civilOfDays (days : ℕ) : Civil :=
  let (year, day) := yearAndDay ((days + epochShift) % 146097)
  let month := (5 * day + 2) / 153
  { year := (days + epochShift) / 146097 * 400 + year + if month < 10 then 0 else 1
    month := if month < 10 then month + 3 else month - 9
    day := day - (153 * month + 2) / 5 + 1 }

def daysOfCivil (date : Civil) : ℕ :=
  let year := if date.month ≤ 2 then date.year - 1 else date.year
  let month := if date.month ≤ 2 then date.month + 9 else date.month - 3
  year / 400 * 146097 + firstDay (year % 400) + ((153 * month + 2) / 5 + date.day - 1) - epochShift

theorem yearAndDay_spec {dayOfCycle : ℕ} (h : dayOfCycle < 146097) :
    (yearAndDay dayOfCycle).1 < 400 ∧ (yearAndDay dayOfCycle).2 ≤ 365 ∧
      firstDay (yearAndDay dayOfCycle).1 + (yearAndDay dayOfCycle).2 = dayOfCycle := by
  unfold yearAndDay firstDay
  dsimp only
  generalize hcentury : min (dayOfCycle / 36524) 3 = century
  generalize hleap : (dayOfCycle - century * 36524) / 1461 = leap
  generalize hyear : min ((dayOfCycle - century * 36524) % 1461 / 365) 3 = year
  have hquarter : (century * 100 + leap * 4 + year) / 4 = century * 25 + leap := by omega
  have hhundred : (century * 100 + leap * 4 + year) / 100 = century := by omega
  rw [hquarter, hhundred]
  omega

theorem daysOfCivil_civilOfDays (days : ℕ) : daysOfCivil (civilOfDays days) = days := by
  have hcycle : (days + epochShift) % 146097 < 146097 := Nat.mod_lt _ (by decide)
  obtain ⟨hyear, hday, hfirst⟩ := yearAndDay_spec hcycle
  unfold civilOfDays
  generalize hsplit : yearAndDay ((days + epochShift) % 146097) = split at hyear hday hfirst ⊢
  obtain ⟨year, day⟩ := split
  dsimp only at hyear hday hfirst ⊢
  generalize hmonth : (5 * day + 2) / 153 = month
  generalize hera : (days + epochShift) / 146097 = era at *
  unfold daysOfCivil
  dsimp only
  by_cases hlow : month < 10
  · rw [if_pos hlow, if_pos hlow, if_neg (by omega), if_neg (by omega)]
    have hmod : (era * 400 + year + 0) % 400 = year := by omega
    have hdiv : (era * 400 + year + 0) / 400 = era := by omega
    rw [hmod, hdiv]
    omega
  · rw [if_neg hlow, if_neg hlow, if_pos (by omega), if_pos (by omega)]
    have hmod : (era * 400 + year + 1 - 1) % 400 = year := by omega
    have hdiv : (era * 400 + year + 1 - 1) / 400 = era := by omega
    rw [hmod, hdiv]
    omega

/-! ### The text -/

/-- `String(n).padStart(width, "0")`. -/
def padded (width n : ℕ) : List Char :=
  List.replicate (width - (Nat.toDigits 10 n).length) '0' ++ Nat.toDigits 10 n

def yearText (year : ℕ) : List Char :=
  if year ≤ 9999 then padded 4 year else '+' :: padded 6 year

def toISOString (time : ℕ) : String :=
  let date := civilOfDays (time / 86400000)
  String.ofList (yearText date.year ++ '-' :: (padded 2 date.month ++ '-' :: (padded 2 date.day ++
    'T' :: (padded 2 (time / 3600000 % 24) ++ ':' :: (padded 2 (time / 60000 % 60) ++
      ':' :: (padded 2 (time / 1000 % 60) ++ '.' :: (padded 3 (time % 1000) ++ ['Z'])))))))

/-- The numbers of a text, with what the digits before it amount to. -/
def numbersFrom (current : ℕ) : List Char → List ℕ
  | [] => [current]
  | c :: rest =>
      if c.isDigit then numbersFrom (10 * current + (c.toNat - 48)) rest
      else current :: numbersFrom 0 rest

def unsigned : List Char → List Char
  | '+' :: rest => rest
  | text => text

def timeOf : List ℕ → Option ℕ
  | [year, month, day, hour, minute, second, millisecond, 0] =>
      some (daysOfCivil ⟨year, month, day⟩ * 86400000 + hour * 3600000 + minute * 60000 +
        second * 1000 + millisecond)
  | _ => none

/-- `Date.parse` of a text that `toISOString` prints; `none` is `NaN`. -/
def parse (text : String) : Option ℕ :=
  (timeOf (numbersFrom 0 (unsigned text.toList))).filter fun time => toISOString time = text

theorem padded_isDigit (width n : ℕ) : ∀ c ∈ padded width n, c.isDigit = true := by
  intro c hc
  rcases List.mem_append.mp hc with hzero | hdigit
  · rw [List.eq_of_mem_replicate hzero]
    rfl
  · exact Nat.isDigit_of_mem_toDigits (by omega) (by omega) hdigit

theorem ofDigitChars_padded (width n : ℕ) : Nat.ofDigitChars 10 (padded width n) 0 = n := by
  rw [padded, Nat.ofDigitChars_append, Nat.ofDigitChars_replicate_zero, Nat.mul_zero,
    Nat.ofDigitChars_ten_toDigits]

theorem numbersFrom_digits
    {digits : List Char} (hdigits : ∀ c ∈ digits, c.isDigit = true) (current : ℕ)
    (rest : List Char) :
    numbersFrom current (digits ++ rest) =
      numbersFrom (Nat.ofDigitChars 10 digits current) rest := by
  induction digits generalizing current with
  | nil => rfl
  | cons c tail ih =>
      have htail : ∀ d ∈ tail, d.isDigit = true := fun d hd => hdigits d (List.mem_cons_of_mem _ hd)
      show numbersFrom current (c :: (tail ++ rest)) = _
      rw [numbersFrom, if_pos (hdigits c List.mem_cons_self), ih htail, Nat.ofDigitChars_cons]
      rfl

/-- A padded number ends where no digit follows. -/
theorem numbersFrom_padded
    (width n : ℕ) {c : Char} (hend : c.isDigit = false) (rest : List Char) :
    numbersFrom 0 (padded width n ++ c :: rest) = n :: numbersFrom 0 rest := by
  rw [numbersFrom_digits (padded_isDigit width n), ofDigitChars_padded, numbersFrom, hend]
  rfl

theorem unsigned_yearText (year : ℕ) (rest : List Char) :
    ∃ width, unsigned (yearText year ++ rest) = padded width year ++ rest := by
  unfold yearText
  by_cases hyear : year ≤ 9999
  · rw [if_pos hyear]
    refine ⟨4, ?_⟩
    cases hpadded : padded 4 year with
    | nil =>
        have hlength := congrArg List.length hpadded
        have hpositive : 0 < (Nat.toDigits 10 year).length := Nat.length_toDigits_pos
        rw [padded, List.length_append, List.length_nil] at hlength
        omega
    | cons first tail =>
        have hfirst := padded_isDigit 4 year first (by rw [hpadded]; exact List.mem_cons_self)
        show unsigned (first :: (tail ++ rest)) = first :: (tail ++ rest)
        unfold unsigned
        split
        · rename_i hplus
          obtain ⟨rfl, -⟩ := List.cons.inj hplus
          cases hfirst
        · rfl
  · rw [if_neg hyear]
    exact ⟨6, rfl⟩

/-- What is printed is read back. -/
@[simp] theorem parse_toISOString (time : ℕ) : parse (toISOString time) = some time := by
  have hnumbers : numbersFrom 0 (unsigned (toISOString time).toList) =
      [(civilOfDays (time / 86400000)).year, (civilOfDays (time / 86400000)).month,
        (civilOfDays (time / 86400000)).day, time / 3600000 % 24, time / 60000 % 60,
        time / 1000 % 60, time % 1000, 0] := by
    unfold toISOString
    dsimp only
    rw [String.toList_ofList]
    obtain ⟨width, hyear⟩ := unsigned_yearText (civilOfDays (time / 86400000)).year _
    rw [hyear, numbersFrom_padded _ _ rfl, numbersFrom_padded _ _ rfl, numbersFrom_padded _ _ rfl,
      numbersFrom_padded _ _ rfl, numbersFrom_padded _ _ rfl, numbersFrom_padded _ _ rfl,
      numbersFrom_padded _ _ rfl]
    rfl
  have htime : daysOfCivil (civilOfDays (time / 86400000)) * 86400000 +
      time / 3600000 % 24 * 3600000 + time / 60000 % 60 * 60000 + time / 1000 % 60 * 1000 +
        time % 1000 = time := by
    rw [daysOfCivil_civilOfDays]
    omega
  have hread : timeOf [(civilOfDays (time / 86400000)).year,
      (civilOfDays (time / 86400000)).month, (civilOfDays (time / 86400000)).day,
      time / 3600000 % 24, time / 60000 % 60, time / 1000 % 60, time % 1000, 0] = some time :=
    congrArg some htime
  unfold parse
  rw [hnumbers, hread]
  simp

end IsoTime
