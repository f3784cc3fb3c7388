import StreamOtter.SchemaValidation
import StreamOtter.TraceBuffer
import StreamOtter.ByteCodec

/-!
# Lengths of texts

`utf8ByteLength` and `codePointLength` look ahead for surrogate pairs and skip the second half.
What they count is said here unit by unit: a unit stands for a character of its own, is one half
of a pair, or is an unpaired surrogate, which the replacement character stands for.
-/

namespace StreamOtter.TextLengths

open Ecma Contracts ByteCodec

/-- The character of a surrogate pair. -/
def pairChar (u v : UInt16) : Char :=
  Char.ofNat (0x10000 + (u.toNat - 0xd800) * 0x400 + (v.toNat - 0xdc00))

/-- The character that begins at a unit between two others, if one does. -/
def scalarAt (previous : Option UInt16) (u : UInt16) (next : Option UInt16) : Option Char :=
  if isTrail u then
    if previous.any isLead then none else some replacement
  else if isLead u then
    match next with
    | some v => if isTrail v then some (pairChar u v) else some replacement
    | none => some replacement
  else some (Char.ofNat u.toNat)

def scalarsFrom (previous : Option UInt16) : Text → List Char
  | [] => []
  | u :: rest => (scalarAt previous u rest.head?).toList ++ scalarsFrom (some u) rest

/-- The code points of a text, each unpaired surrogate replaced. -/
def scalars (text : Text) : List Char := scalarsFrom none text

/-- A high surrogate ends the first text and a low one begins the second. -/
def Joins (a b : Text) : Bool := a.getLast?.any isLead && b.head?.any isTrail

theorem isLead_iff {u : UInt16} : isLead u ↔ 0xd800 ≤ u.toNat ∧ u.toNat ≤ 0xdbff := by
  simp only [isLead, Bool.and_eq_true, decide_eq_true_eq, UInt16.le_iff_toNat_le]
  rfl

theorem isTrail_iff {u : UInt16} : isTrail u ↔ 0xdc00 ≤ u.toNat ∧ u.toNat ≤ 0xdfff := by
  simp only [isTrail, Bool.and_eq_true, decide_eq_true_eq, UInt16.le_iff_toNat_le]
  rfl

theorem not_isLead_of_isTrail {u : UInt16} (h : isTrail u) : isLead u = false := by
  apply Bool.eq_false_iff.mpr
  intro hlead
  have htrail := isTrail_iff.mp h
  have hlead := isLead_iff.mp hlead
  omega

/-! ### One unit, one pair -/

theorem scalarsFrom_of_not_lead {previous : Option UInt16} (h : previous.any isLead = false)
    (text : Text) : scalarsFrom previous text = scalars text := by
  cases text with
  | nil => rfl
  | cons u rest => simp [scalars, scalarsFrom, scalarAt, h]

theorem scalarsFrom_of_not_trail {previous : Option UInt16} {text : Text}
    (h : text.head?.any isTrail = false) : scalarsFrom previous text = scalars text := by
  cases text with
  | nil => rfl
  | cons u rest =>
      have hu : isTrail u = false := h
      simp [scalars, scalarsFrom, scalarAt, hu]

theorem scalars_pair {u v : UInt16} (hu : isLead u) (hv : isTrail v) (rest : Text) :
    scalars (u :: v :: rest) = pairChar u v :: scalars rest := by
  have hu' : isTrail u = false := by
    apply Bool.eq_false_iff.mpr
    intro htrail
    rw [not_isLead_of_isTrail htrail] at hu
    cases hu
  have hnext : (some v).any isLead = false := not_isLead_of_isTrail hv
  have hrest := scalarsFrom_of_not_lead hnext rest
  simp [scalars, scalarsFrom, scalarAt, hu, hu', hv, hrest]

/-- The character that a unit outside a pair stands for. -/
def unitChar (u : UInt16) : Char :=
  if isLead u || isTrail u then replacement else Char.ofNat u.toNat

theorem scalars_unit {u : UInt16} {rest : Text}
    (h : isLead u = false ∨ rest.head?.any isTrail = false) :
    scalars (u :: rest) = unitChar u :: scalars rest := by
  have hrest : scalarsFrom (some u) rest = scalars rest := by
    rcases h with hlead | htrail
    · have hprevious : (some u).any isLead = false := hlead
      exact scalarsFrom_of_not_lead hprevious rest
    · exact scalarsFrom_of_not_trail htrail
  have hfirst : scalarAt none u rest.head? = some (unitChar u) := by
    unfold scalarAt unitChar
    cases htrail : isTrail u
    · cases hlead : isLead u
      · rfl
      · rcases h with hlead' | hnext
        · rw [hlead] at hlead'
          cases hlead'
        · cases rest with
          | nil => rfl
          | cons v _ =>
              have hv : isTrail v = false := hnext
              simp [hv]
    · simp
  show (scalarAt none u rest.head?).toList ++ scalarsFrom (some u) rest = _
  rw [hfirst, hrest]
  rfl

/-! ### Sizes -/

theorem utf8Size_eq (c : Char) : c.utf8Size =
    if c.toNat < 0x80 then 1 else if c.toNat < 0x800 then 2 else if c.toNat < 0x10000 then 3
    else 4 := by
  have hbound : ∀ n : UInt32, c.val ≤ n ↔ c.toNat < n.toNat + 1 := fun n =>
    UInt32.le_iff_toNat_le.trans Nat.lt_succ_iff.symm
  unfold Char.utf8Size
  simp only [hbound]
  rfl

theorem toNat_ofNat {n : ℕ} (h : n.isValidChar) : (Char.ofNat n).toNat = n := by
  unfold Char.ofNat
  rw [dif_pos h]
  rfl

theorem utf8Size_pairChar {u v : UInt16} (hu : isLead u) (hv : isTrail v) :
    (pairChar u v).utf8Size = 4 := by
  have hlead := isLead_iff.mp hu
  have htrail := isTrail_iff.mp hv
  have hvalid : (0x10000 + (u.toNat - 0xd800) * 0x400 + (v.toNat - 0xdc00)).isValidChar :=
    .inr ⟨by omega, by omega⟩
  rw [utf8Size_eq, pairChar, toNat_ofNat hvalid, if_neg (by omega), if_neg (by omega),
    if_neg (by omega)]

theorem utf8Size_unitChar (u : UInt16) : (unitChar u).utf8Size =
    if u.toNat < 0x80 then 1 else if u.toNat < 0x800 then 2 else 3 := by
  unfold unitChar
  split
  · case isTrue hsurrogate =>
      have hrange : 0xd800 ≤ u.toNat := by
        rcases Bool.or_eq_true_iff.mp hsurrogate with hlead | htrail
        · exact (isLead_iff.mp hlead).1
        · have hge := (isTrail_iff.mp htrail).1
          omega
      rw [if_neg (by omega), if_neg (by omega)]
      decide
  · case isFalse hplain =>
      have hlt : u.toNat < 0x10000 := u.toNat_lt
      have hrange : u.toNat < 0xd800 ∨ 0xdfff < u.toNat := by
        by_contra hsurrogate
        apply hplain
        rw [Bool.or_eq_true, isLead_iff, isTrail_iff]
        omega
      have hvalid : u.toNat.isValidChar := hrange.imp id fun hhigh => ⟨hhigh, by omega⟩
      rw [utf8Size_eq, toNat_ofNat hvalid, if_pos hlt]

theorem utf8ByteLength_pair {u v : UInt16} (hu : isLead u) (hv : isTrail v) (rest : Text) :
    utf8ByteLength (u :: v :: rest) = 4 + utf8ByteLength rest := by
  have hrange := isLead_iff.mp hu
  rw [utf8ByteLength, if_neg (by omega), if_neg (by omega), if_pos (by rw [hu, hv]; rfl),
    Nat.add_comm]

theorem utf8ByteLength_unit {u : UInt16} {rest : Text}
    (h : isLead u = false ∨ rest.head?.any isTrail = false) :
    utf8ByteLength (u :: rest) = (unitChar u).utf8Size + utf8ByteLength rest := by
  rw [utf8Size_unitChar]
  cases rest with
  | nil => rfl
  | cons v rest =>
      have hunpaired : (isLead u && isTrail v) = false := by
        rcases h with hlead | htrail
        · rw [hlead, Bool.false_and]
        · rw [show isTrail v = false from htrail, Bool.and_false]
      rw [utf8ByteLength, hunpaired, if_neg Bool.false_ne_true]
      split_ifs <;> rw [Nat.add_comm]

theorem codePointLength_pair {u v : UInt16} (hu : isLead u) (hv : isTrail v) (rest : Text) :
    codePointLength (u :: v :: rest) = 1 + codePointLength rest := by
  rw [codePointLength, if_pos (by rw [hu, hv]; rfl), Nat.add_comm]

theorem codePointLength_unit {u : UInt16} {rest : Text}
    (h : isLead u = false ∨ rest.head?.any isTrail = false) :
    codePointLength (u :: rest) = 1 + codePointLength rest := by
  cases rest with
  | nil => rfl
  | cons v rest =>
      have hunpaired : (isLead u && isTrail v) = false := by
        rcases h with hlead | htrail
        · rw [hlead, Bool.false_and]
        · rw [show isTrail v = false from htrail, Bool.and_false]
      rw [codePointLength, hunpaired, if_neg Bool.false_ne_true, Nat.add_comm]

/-- A text is taken apart into pairs and single units. -/
theorem units_induction {P : Text → Prop} (hnil : P [])
    (hpair : ∀ u v rest, isLead u → isTrail v → P rest → P (u :: v :: rest))
    (hunit : ∀ u rest, isLead u = false ∨ rest.head?.any isTrail = false → P rest →
      P (u :: rest)) : (text : Text) → P text
  | [] => hnil
  | [u] => hunit u [] (.inr rfl) hnil
  | u :: v :: rest => by
      cases hu : isLead u with
      | false => exact hunit u _ (.inl hu) (units_induction hnil hpair hunit (v :: rest))
      | true =>
          cases hv : isTrail v with
          | false => exact hunit u _ (.inr hv) (units_induction hnil hpair hunit (v :: rest))
          | true => exact hpair u v rest hu hv (units_induction hnil hpair hunit rest)

theorem utf8ByteLength_eq (text : Text) :
    utf8ByteLength text = ((scalars text).flatMap String.utf8EncodeChar).length := by
  induction text using units_induction with
  | hnil => rfl
  | hpair u v rest hu hv ih =>
      rw [utf8ByteLength_pair hu hv, scalars_pair hu hv, List.flatMap_cons, List.length_append,
        String.length_utf8EncodeChar, utf8Size_pairChar hu hv, ih]
  | hunit u rest h ih =>
      rw [utf8ByteLength_unit h, scalars_unit h, List.flatMap_cons, List.length_append,
        String.length_utf8EncodeChar, ih]

theorem codePointLength_eq (text : Text) : codePointLength text = (scalars text).length := by
  induction text using units_induction with
  | hnil => rfl
  | hpair u v rest hu hv ih =>
      rw [codePointLength_pair hu hv, scalars_pair hu hv, List.length_cons, ih, Nat.add_comm]
  | hunit u rest h ih =>
      rw [codePointLength_unit h, scalars_unit h, List.length_cons, ih, Nat.add_comm]

/-! ### Concatenation -/

theorem joins_cons {u : UInt16} {a b : Text} (ha : a ≠ []) : Joins (u :: a) b = Joins a b := by
  unfold Joins
  rw [List.getLast?_cons_of_ne_nil ha]

/-- The two halves that meet counted as an unpaired surrogate each. -/
theorem lengths_append (a b : Text) :
    utf8ByteLength (a ++ b) + (if Joins a b then 2 else 0) = utf8ByteLength a + utf8ByteLength b ∧
      codePointLength (a ++ b) + (if Joins a b then 1 else 0) =
        codePointLength a + codePointLength b := by
  induction a using units_induction with
  | hnil =>
      have hnone : Joins [] b = false := rfl
      simp [hnone, utf8ByteLength, codePointLength]
  | hpair u v rest hu hv ih =>
      have hjoins : Joins (u :: v :: rest) b = Joins rest b := by
        cases rest with
        | nil => simp [Joins, not_isLead_of_isTrail hv]
        | cons w rest => rw [joins_cons (by simp), joins_cons (by simp)]
      rw [List.cons_append, List.cons_append, hjoins, utf8ByteLength_pair hu hv,
        utf8ByteLength_pair hu hv, codePointLength_pair hu hv, codePointLength_pair hu hv]
      omega
  | hunit u rest h ih =>
      cases rest with
      | cons w rest =>
          have happended : isLead u = false ∨ ((w :: rest) ++ b).head?.any isTrail = false := h
          rw [List.cons_append, joins_cons (by simp), utf8ByteLength_unit happended,
            utf8ByteLength_unit h, codePointLength_unit happended, codePointLength_unit h]
          omega
      | nil =>
          have hsingle : isLead u = false ∨ ([] : Text).head?.any isTrail = false := .inr rfl
          have hempty : utf8ByteLength [] = 0 ∧ codePointLength [] = 0 := ⟨rfl, rfl⟩
          cases hjoins : Joins [u] b with
          | false =>
              have happended : isLead u = false ∨ b.head?.any isTrail = false :=
                Bool.and_eq_false_iff.mp hjoins
              rw [List.cons_append, List.nil_append, utf8ByteLength_unit happended,
                utf8ByteLength_unit hsingle, codePointLength_unit happended,
                codePointLength_unit hsingle]
              simp [hempty]
          | true =>
              obtain ⟨hu, hb⟩ := Bool.and_eq_true_iff.mp hjoins
              cases b with
              | nil => cases hb
              | cons v rest =>
                  have hlead : isLead u := hu
                  have htrail : isTrail v := hb
                  have hsplit : isLead v = false ∨ rest.head?.any isTrail = false :=
                    .inl (not_isLead_of_isTrail htrail)
                  have hsizes : (unitChar u).utf8Size = 3 ∧ (unitChar v).utf8Size = 3 := by
                    have hlow := (isLead_iff.mp hlead).1
                    have hlow' := (isTrail_iff.mp htrail).1
                    rw [utf8Size_unitChar, utf8Size_unitChar, if_neg (by omega), if_neg (by omega),
                      if_neg (by omega), if_neg (by omega)]
                    exact ⟨rfl, rfl⟩
                  rw [List.cons_append, List.nil_append, utf8ByteLength_pair hlead htrail,
                    utf8ByteLength_unit hsingle, utf8ByteLength_unit hsplit,
                    codePointLength_pair hlead htrail, codePointLength_unit hsingle,
                    codePointLength_unit hsplit, hsizes.1, hsizes.2, hempty.1, hempty.2]
                  exact ⟨by simp; omega, by simp; omega⟩

/-- The lengths of a text are those of its code points and of its UTF-8 encoding, and add up
unless a pair is cut. -/
theorem lengths_exact :
    (∀ text, utf8ByteLength text = ((scalars text).flatMap String.utf8EncodeChar).length ∧
      codePointLength text = (scalars text).length) ∧
    ∀ a b,
      (utf8ByteLength (a ++ b) = utf8ByteLength a + utf8ByteLength b ↔ Joins a b = false) ∧
      (codePointLength (a ++ b) = codePointLength a + codePointLength b ↔ Joins a b = false) := by
  refine ⟨fun text => ⟨utf8ByteLength_eq text, codePointLength_eq text⟩, fun a b => ?_⟩
  obtain ⟨hbytes, hpoints⟩ := lengths_append a b
  cases hjoins : Joins a b
  · rw [hjoins, if_neg Bool.false_ne_true] at hbytes hpoints
    exact ⟨⟨fun _ => rfl, fun _ => hbytes⟩, ⟨fun _ => rfl, fun _ => hpoints⟩⟩
  · rw [hjoins, if_pos rfl] at hbytes hpoints
    refine ⟨⟨fun hadds => ?_, fun h => by cases h⟩, ⟨fun hadds => ?_, fun h => by cases h⟩⟩
    · omega
    · omega

/-! ### Texts of characters -/

/-- The UTF-16 code units of a character. -/
def utf16Units (c : Char) : Text :=
  if c.toNat < 0x10000 then [UInt16.ofNat c.toNat]
  else
    [UInt16.ofNat (0xd800 + (c.toNat - 0x10000) / 0x400),
      UInt16.ofNat (0xdc00 + (c.toNat - 0x10000) % 0x400)]

/-- A text of characters has these as its code points. -/
theorem scalars_utf16 (chars : List Char) : scalars (chars.flatMap utf16Units) = chars := by
  induction chars with
  | nil => rfl
  | cons c rest ih =>
      have hscalar : c.toNat < 0xd800 ∨ 0xdfff < c.toNat ∧ c.toNat < 0x110000 := isScalar c
      rw [List.flatMap_cons, utf16Units]
      split
      · case isTrue hbasic =>
          have hunit : (UInt16.ofNat c.toNat).toNat = c.toNat := by
            rw [UInt16.toNat_ofNat']
            omega
          have hlead : isLead (UInt16.ofNat c.toNat) = false := by
            rw [← Bool.not_eq_true, isLead_iff, hunit]
            omega
          have htrail : isTrail (UInt16.ofNat c.toNat) = false := by
            rw [← Bool.not_eq_true, isTrail_iff, hunit]
            omega
          have hchar : unitChar (UInt16.ofNat c.toNat) = c := by
            rw [unitChar, hlead, htrail, Bool.or_false, if_neg Bool.false_ne_true, hunit, Char.ofNat_toNat]
          rw [List.cons_append, List.nil_append, scalars_unit (.inl hlead), hchar, ih]
      · case isFalse hpaired =>
          set u := UInt16.ofNat (0xd800 + (c.toNat - 0x10000) / 0x400)
          set v := UInt16.ofNat (0xdc00 + (c.toNat - 0x10000) % 0x400)
          have hu : u.toNat = 0xd800 + (c.toNat - 0x10000) / 0x400 := by
            rw [UInt16.toNat_ofNat']
            omega
          have hv : v.toNat = 0xdc00 + (c.toNat - 0x10000) % 0x400 := by
            rw [UInt16.toNat_ofNat']
            omega
          have hchar : pairChar u v = c := by
            rw [pairChar, hu, hv]
            have hvalue : 0x10000 + (0xd800 + (c.toNat - 0x10000) / 0x400 - 0xd800) * 0x400 +
                (0xdc00 + (c.toNat - 0x10000) % 0x400 - 0xdc00) = c.toNat := by omega
            rw [hvalue, Char.ofNat_toNat]
          have hlead : isLead u := isLead_iff.mpr (by omega)
          have htrail : isTrail v := isTrail_iff.mpr (by omega)
          rw [List.cons_append, List.cons_append, List.nil_append, scalars_pair hlead htrail, hchar,
            ih]

end StreamOtter.TextLengths
