import Mathlib.Data.List.Sort

/-!
# The text of JSON data

`JSON.stringify` of ECMAScript without an indent, over any type of numbers that has numerals.
Strings are lists of UTF-16 code units, which may hold unpaired surrogates.  The text of a
tree determines the tree with its fields in the order in which they were written.
-/

namespace Ecma

/-- A string, by its UTF-16 code units. -/
abbrev Text := List UInt16

/-- A literal of ASCII characters. -/
def units (literal : String) : Text := literal.toList.map fun c => UInt16.ofNat c.toNat

def isLead (u : UInt16) : Bool := 0xd800 ≤ u && u ≤ 0xdbff

def isTrail (u : UInt16) : Bool := 0xdc00 ≤ u && u ≤ 0xdfff

/-! ## Quoted strings -/

/-- The second unit of a two-unit escape. -/
def shortEscapes : List (UInt16 × UInt16) :=
  [(0x08, 0x62), (0x09, 0x74), (0x0a, 0x6e), (0x0c, 0x66), (0x0d, 0x72), (0x22, 0x22),
    (0x5c, 0x5c)]

def hexUnit (value : ℕ) : UInt16 := UInt16.ofNat (if value < 10 then 48 + value else 87 + value)

def hexEscape (u : UInt16) : Text :=
  [0x5c, 0x75, hexUnit (u.toNat / 4096), hexUnit (u.toNat / 256 % 16), hexUnit (u.toNat / 16 % 16),
    hexUnit (u.toNat % 16)]

def escapeUnit (u : UInt16) : Text :=
  match shortEscapes.lookup u with
  | some second => [0x5c, second]
  | none => if u < 0x20 || isLead u || isTrail u then hexEscape u else [u]

/-- The inside of a quoted string: a pair of surrogates stands as it is, and an unpaired one
is escaped. -/
def escaped : Text → Text
  | [] => []
  | [u] => escapeUnit u
  | u :: v :: rest =>
      if isLead u && isTrail v then u :: v :: escaped rest
      else escapeUnit u ++ escaped (v :: rest)

def quoted (text : Text) : Text := 0x22 :: (escaped text ++ [0x22])

def hexValue (u : UInt16) : ℕ := if u.toNat < 58 then u.toNat - 48 else u.toNat - 87

def ofHex (a b c d : UInt16) : UInt16 :=
  UInt16.ofNat (hexValue a * 4096 + hexValue b * 256 + hexValue c * 16 + hexValue d)

def unescape (second : UInt16) : UInt16 :=
  ((shortEscapes.map Prod.swap).lookup second).getD second

/-- What stands before the closing quote, and what follows it. -/
def unquote : Text → Option (Text × Text)
  | [] => none
  | u :: rest =>
      if u = 0x22 then some ([], rest)
      else if u = 0x5c then
        match rest with
        | [] => none
        | second :: rest =>
            if second = 0x75 then
              match rest with
              | a :: b :: c :: d :: rest => (unquote rest).map (Prod.map (ofHex a b c d :: ·) id)
              | _ => none
            else (unquote rest).map (Prod.map (unescape second :: ·) id)
      else (unquote rest).map (Prod.map (u :: ·) id)

theorem unquote_quote (rest : Text) : unquote (0x22 :: rest) = some ([], rest) := by
  rw [unquote.eq_def]
  simp only [if_true]

theorem unquote_raw {u : UInt16} (hquote : u ≠ 0x22) (hbackslash : u ≠ 0x5c) (rest : Text) :
    unquote (u :: rest) = (unquote rest).map (Prod.map (u :: ·) id) := by
  rw [unquote.eq_def]
  simp only [if_neg hquote, if_neg hbackslash]

theorem hexValue_hexUnit {value : ℕ} (h : value < 16) : hexValue (hexUnit value) = value := by
  have hall : ∀ value : Fin 16, hexValue (hexUnit value.val) = value.val := by decide
  exact hall ⟨value, h⟩

theorem unquote_hexEscape (u : UInt16) (rest : Text) :
    unquote (hexEscape u ++ rest) = (unquote rest).map (Prod.map (u :: ·) id) := by
  have hu := u.toNat_lt
  have hread : ofHex (hexUnit (u.toNat / 4096)) (hexUnit (u.toNat / 256 % 16))
      (hexUnit (u.toNat / 16 % 16)) (hexUnit (u.toNat % 16)) = u := by
    unfold ofHex
    rw [hexValue_hexUnit (by omega), hexValue_hexUnit (by omega), hexValue_hexUnit (by omega),
      hexValue_hexUnit (by omega)]
    have hvalue : u.toNat / 4096 * 4096 + u.toNat / 256 % 16 * 256 + u.toNat / 16 % 16 * 16 +
        u.toNat % 16 = u.toNat := by
      omega
    rw [hvalue, UInt16.ofNat_toNat]
  simp only [hexEscape, List.cons_append, List.nil_append]
  rw [unquote.eq_def]
  dsimp only
  rw [if_neg (by decide), if_pos rfl, if_pos rfl, hread]

theorem unquote_escapeUnit (u : UInt16) (rest : Text) :
    unquote (escapeUnit u ++ rest) = (unquote rest).map (Prod.map (u :: ·) id) := by
  unfold escapeUnit
  cases hshort : shortEscapes.lookup u with
  | some second =>
      have hall : (shortEscapes.all fun e => decide (e.2 ≠ 0x75) && unescape e.2 = e.1) = true := by
        decide
      obtain ⟨before, after, hsplit, -⟩ := List.lookup_eq_some_iff.mp hshort
      have hescape := List.all_eq_true.mp hall (u, second) (by rw [hsplit]; simp)
      obtain ⟨hsecond, hread⟩ : second ≠ 0x75 ∧ unescape second = u := by simpa using hescape
      simp only [List.cons_append, List.nil_append]
      rw [unquote.eq_def]
      dsimp only
      rw [if_neg (by decide), if_pos rfl, if_neg hsecond, hread]
  | none =>
      have hquote : u ≠ 0x22 := by
        rintro rfl
        exact absurd hshort (by decide)
      have hbackslash : u ≠ 0x5c := by
        rintro rfl
        exact absurd hshort (by decide)
      dsimp only
      split
      · exact unquote_hexEscape u rest
      · exact unquote_raw hquote hbackslash rest

theorem surrogate_raw {u : UInt16} (h : isLead u ∨ isTrail u) : u ≠ 0x22 ∧ u ≠ 0x5c := by
  constructor <;> rintro rfl <;> exact absurd h (by decide)

/-- A quoted string reads back, whatever follows it. -/
theorem unquote_escaped (text rest : Text) :
    unquote (escaped text ++ 0x22 :: rest) = some (text, rest) := by
  fun_induction escaped text with
  | case1 => exact unquote_quote rest
  | case2 u =>
      rw [unquote_escapeUnit, unquote_quote]
      rfl
  | case3 u v tail hpair ih =>
      obtain ⟨hlead, htrail⟩ := Bool.and_eq_true_iff.mp hpair
      obtain ⟨hquote, hbackslash⟩ := surrogate_raw (.inl hlead)
      obtain ⟨hquote', hbackslash'⟩ := surrogate_raw (.inr htrail)
      rw [List.cons_append, List.cons_append, unquote_raw hquote hbackslash,
        unquote_raw hquote' hbackslash', ih]
      rfl
  | case4 u v tail hpair ih =>
      rw [List.append_assoc, unquote_escapeUnit, ih]
      rfl

theorem quoted_append_inj {a b rest rest' : Text} (h : quoted a ++ rest = quoted b ++ rest') :
    a = b ∧ rest = rest' := by
  unfold quoted at h
  simp only [List.cons_append, List.append_assoc, List.nil_append, List.cons.injEq, true_and] at h
  have hread := unquote_escaped a rest
  rw [h, unquote_escaped b rest', Option.some.injEq, Prod.mk.injEq] at hread
  exact ⟨hread.1.symm, hread.2.symm⟩

/-! ## Trees -/

/-- JSON data; an object's fields are listed in the order in which they were made. -/
inductive Json (ν : Type*)
  | null
  | boolean (value : Bool)
  | number (value : ν)
  | string (text : Text)
  | array (items : List (Json ν))
  | object (fields : List (Text × Json ν))

/-- The units of which numerals are made. -/
def isNumeric (u : UInt16) : Bool :=
  (0x30 ≤ u && u ≤ 0x39) || u = 0x2b || u = 0x2d || u = 0x2e || u = 0x65

/-- A value's text ends where one of these stands. -/
def isDelimiter (u : UInt16) : Bool := u = 0x2c || u = 0x5d || u = 0x7d

namespace Json

variable {ν : Type*}

section Printing

variable (numeral : ν → Text)

mutual

/-- The text of a tree, its fields in the order of the lists. -/
def print : Json ν → Text
  | .null => units "null"
  | .boolean value => if value then units "true" else units "false"
  | .number value => numeral value
  | .string text => quoted text
  | .array [] => [0x5b, 0x5d]
  | .array (item :: rest) => 0x5b :: (item.print ++ (printItems rest ++ [0x5d]))
  | .object [] => [0x7b, 0x7d]
  | .object ((name, item) :: rest) =>
      0x7b :: (quoted name ++ 0x3a :: (item.print ++ (printFields rest ++ [0x7d])))

/-- The items after the first one. -/
def printItems : List (Json ν) → Text
  | [] => []
  | item :: rest => 0x2c :: (item.print ++ printItems rest)

/-- The fields after the first one. -/
def printFields : List (Text × Json ν) → Text
  | [] => []
  | (name, item) :: rest => 0x2c :: (quoted name ++ 0x3a :: (item.print ++ printFields rest))

end

end Printing

end Json

/-! ## What a text was written from -/

/-- A numeral is a text of its own, of the units that make numerals. -/
structure Numerals {ν : Type*} (numeral : ν → Text) : Prop where
  injective : Function.Injective numeral
  nonempty : ∀ n, numeral n ≠ []
  numeric : ∀ n, ∀ u ∈ numeral n, isNumeric u

/-- Nothing of a value's text goes on here. -/
def Ends (rest : Text) : Prop := ∀ u ∈ rest.head?, isDelimiter u

theorem not_numeric_of_delimiter {u : UInt16} (h : isDelimiter u) : ¬ isNumeric u := by
  simp only [isDelimiter, Bool.or_eq_true, decide_eq_true_eq] at h
  rcases h with (rfl | rfl) | rfl <;> decide

/-- The first unit of a text tells what kind of value it is of. -/
def kindOf (u : UInt16) : ℕ :=
  if isNumeric u then 2
  else if u = 0x6e then 0
  else if u = 0x74 || u = 0x66 then 1
  else if u = 0x22 then 3
  else if u = 0x5b then 4
  else if u = 0x7b then 5
  else 6

namespace Json

variable {ν : Type*} {numeral : ν → Text}

def kind : Json ν → ℕ
  | .null => 0
  | .boolean _ => 1
  | .number _ => 2
  | .string _ => 3
  | .array _ => 4
  | .object _ => 5

theorem print_head (h : Numerals numeral) (v : Json ν) :
    ∃ u rest, v.print numeral = u :: rest ∧ kindOf u = v.kind := by
  cases v with
  | null => exact ⟨_, _, rfl, rfl⟩
  | boolean value => cases value <;> exact ⟨_, _, rfl, rfl⟩
  | number value =>
      cases hnumeral : numeral value with
      | nil => exact absurd hnumeral (h.nonempty value)
      | cons u rest =>
          have hnumeric := h.numeric value u (by rw [hnumeral]; exact List.mem_cons_self)
          exact ⟨u, rest, by rw [print, hnumeral], by simp [kindOf, hnumeric, kind]⟩
  | string text => exact ⟨_, _, rfl, rfl⟩
  | array items =>
      cases items with
      | nil => exact ⟨_, _, rfl, rfl⟩
      | cons item rest => exact ⟨_, _, by rw [print], rfl⟩
  | object fields =>
      cases fields with
      | nil => exact ⟨_, _, rfl, rfl⟩
      | cons field rest => exact ⟨_, _, by rw [print], rfl⟩

theorem kind_eq (h : Numerals numeral) {v w : Json ν} {rest rest' : Text}
    (heq : v.print numeral ++ rest = w.print numeral ++ rest') : v.kind = w.kind := by
  obtain ⟨u, tail, hv, hkind⟩ := print_head h v
  obtain ⟨u', tail', hw, hkind'⟩ := print_head h w
  rw [hv, hw, List.cons_append, List.cons_append, List.cons.injEq] at heq
  rw [← hkind, ← hkind', heq.1]

theorem kind_lt (v : Json ν) : v.kind < 6 := by
  cases v <;> simp only [kind] <;> omega

/-- No value begins with what is no value's first unit. -/
theorem print_append_ne (h : Numerals numeral) (v : Json ν) {u : UInt16} (hu : kindOf u = 6)
    (rest rest' : Text) : v.print numeral ++ rest ≠ u :: rest' := by
  obtain ⟨u', tail, hv, hkind⟩ := print_head h v
  rw [hv, List.cons_append]
  intro heq
  rw [(List.cons.inj heq).1] at hkind
  have hlt := v.kind_lt
  omega

theorem takeWhile_numeral (h : Numerals numeral) (n : ν) {rest : Text} (hends : Ends rest) :
    (numeral n ++ rest).takeWhile isNumeric = numeral n := by
  rw [List.takeWhile_append_of_pos (h.numeric n)]
  cases rest with
  | nil => simp
  | cons u rest =>
      have hnot := not_numeric_of_delimiter (hends u rfl)
      rw [List.takeWhile_cons_of_neg hnot, List.append_nil]

theorem ends_cons {u : UInt16} (hdelimiter : isDelimiter u) (rest : Text) : Ends (u :: rest) := by
  intro u' hu'
  obtain rfl : u = u' := by simpa using hu'
  exact hdelimiter

theorem ends_printItems (items : List (Json ν)) {rest : Text} (hends : Ends rest) :
    Ends (printItems numeral items ++ rest) := by
  cases items with
  | nil => exact hends
  | cons item items =>
      rw [printItems]
      exact ends_cons (by decide) _

theorem ends_printFields (fields : List (Text × Json ν)) {rest : Text} (hends : Ends rest) :
    Ends (printFields numeral fields ++ rest) := by
  cases fields with
  | nil => exact hends
  | cons field fields =>
      rw [printFields]
      exact ends_cons (by decide) _

mutual

/-- A text is written from one tree, and where it ends is determined. -/
theorem print_append_inj (h : Numerals numeral) : ∀ (v w : Json ν) {rest rest' : Text}, Ends rest → Ends rest' →
    v.print numeral ++ rest = w.print numeral ++ rest' → v = w ∧ rest = rest'
  | .null, w, rest, rest', _, _, heq => by
      have hkind := kind_eq h heq
      cases w <;> simp only [kind] at hkind <;> try omega
      exact ⟨rfl, List.append_cancel_left heq⟩
  | .boolean value, w, rest, rest', _, _, heq => by
      have hkind := kind_eq h heq
      cases w <;> simp only [kind] at hkind <;> try omega
      case boolean value' =>
        have hfirst : (value = value') := by
          cases value <;> cases value' <;> first | rfl | exact absurd (List.cons.inj heq).1 (by decide)
        subst hfirst
        exact ⟨rfl, List.append_cancel_left heq⟩
  | .number value, w, rest, rest', hends, hends', heq => by
      have hkind := kind_eq h heq
      cases w <;> simp only [kind] at hkind <;> try omega
      case number value' =>
        rw [print, print] at heq
        have hnumeral : numeral value = numeral value' := by
          rw [← takeWhile_numeral h value hends, heq, takeWhile_numeral h value' hends']
        obtain rfl := h.injective hnumeral
        exact ⟨rfl, List.append_cancel_left heq⟩
  | .string text, w, rest, rest', _, _, heq => by
      have hkind := kind_eq h heq
      cases w <;> simp only [kind] at hkind <;> try omega
      case string text' =>
        rw [print, print] at heq
        obtain ⟨rfl, hrest⟩ := quoted_append_inj heq
        exact ⟨rfl, hrest⟩
  | .array items, w, rest, rest', _, _, heq => by
      have hkind := kind_eq h heq
      cases w <;> simp only [kind] at hkind <;> try omega
      case array items' =>
        obtain ⟨rfl, hrest⟩ := printArray_append_inj h items items' heq
        exact ⟨rfl, hrest⟩
  | .object fields, w, rest, rest', _, _, heq => by
      have hkind := kind_eq h heq
      cases w <;> simp only [kind] at hkind <;> try omega
      case object fields' =>
        obtain ⟨rfl, hrest⟩ := printObject_append_inj h fields fields' heq
        exact ⟨rfl, hrest⟩

theorem printArray_append_inj (h : Numerals numeral) : ∀ (items items' : List (Json ν)) {rest rest' : Text},
    (array items).print numeral ++ rest = (array items').print numeral ++ rest' →
      items = items' ∧ rest = rest'
  | [], [], rest, rest', heq => ⟨rfl, List.append_cancel_left heq⟩
  | [], item :: items, rest, rest', heq => by
      simp only [print, List.cons_append, List.nil_append, List.append_assoc, List.cons.injEq,
        true_and] at heq
      exact absurd heq.symm (print_append_ne h item rfl _ _)
  | item :: items, [], rest, rest', heq => by
      simp only [print, List.cons_append, List.nil_append, List.append_assoc, List.cons.injEq,
        true_and] at heq
      exact absurd heq (print_append_ne h item rfl _ _)
  | item :: items, item' :: items', rest, rest', heq => by
      simp only [print, List.cons_append, List.nil_append, List.append_assoc, List.cons.injEq,
        true_and] at heq
      obtain ⟨rfl, htail⟩ := print_append_inj h item item'
        (ends_printItems items (ends_cons (by decide) rest))
        (ends_printItems items' (ends_cons (by decide) rest')) heq
      obtain ⟨rfl, hrest⟩ := printItems_append_inj h items items' htail
      exact ⟨rfl, hrest⟩

theorem printItems_append_inj (h : Numerals numeral) : ∀ (items items' : List (Json ν)) {rest rest' : Text},
    printItems numeral items ++ 0x5d :: rest = printItems numeral items' ++ 0x5d :: rest' →
      items = items' ∧ rest = rest'
  | [], [], rest, rest', heq => ⟨rfl, (List.cons.inj heq).2⟩
  | [], item :: items, rest, rest', heq => by
      rw [printItems, printItems, List.nil_append, List.cons_append] at heq
      exact absurd (List.cons.inj heq).1 (by decide)
  | item :: items, [], rest, rest', heq => by
      rw [printItems, printItems, List.nil_append, List.cons_append] at heq
      exact absurd (List.cons.inj heq).1 (by decide)
  | item :: items, item' :: items', rest, rest', heq => by
      simp only [printItems, List.cons_append, List.append_assoc, List.cons.injEq, true_and] at heq
      obtain ⟨rfl, htail⟩ := print_append_inj h item item'
        (ends_printItems items (ends_cons (by decide) rest))
        (ends_printItems items' (ends_cons (by decide) rest')) heq
      obtain ⟨rfl, hrest⟩ := printItems_append_inj h items items' htail
      exact ⟨rfl, hrest⟩

theorem printObject_append_inj (h : Numerals numeral) : ∀ (fields fields' : List (Text × Json ν)) {rest rest' : Text},
    (object fields).print numeral ++ rest = (object fields').print numeral ++ rest' →
      fields = fields' ∧ rest = rest'
  | [], [], rest, rest', heq => ⟨rfl, List.append_cancel_left heq⟩
  | [], (name, item) :: fields, rest, rest', heq => by
      simp only [print, quoted, List.cons_append, List.cons.injEq, true_and] at heq
      exact absurd heq.1 (by decide)
  | (name, item) :: fields, [], rest, rest', heq => by
      simp only [print, quoted, List.cons_append, List.cons.injEq, true_and] at heq
      exact absurd heq.1 (by decide)
  | (name, item) :: fields, (name', item') :: fields', rest, rest', heq => by
      simp only [print, List.cons_append, List.nil_append, List.append_assoc, List.cons.injEq,
        true_and] at heq
      obtain ⟨rfl, hvalue⟩ := quoted_append_inj heq
      obtain ⟨rfl, htail⟩ := print_append_inj h item item'
        (ends_printFields fields (ends_cons (by decide) rest))
        (ends_printFields fields' (ends_cons (by decide) rest')) (List.cons.inj hvalue).2
      obtain ⟨rfl, hrest⟩ := printFields_append_inj h fields fields' htail
      exact ⟨rfl, hrest⟩

theorem printFields_append_inj (h : Numerals numeral) : ∀ (fields fields' : List (Text × Json ν)) {rest rest' : Text},
    printFields numeral fields ++ 0x7d :: rest = printFields numeral fields' ++ 0x7d :: rest' →
      fields = fields' ∧ rest = rest'
  | [], [], rest, rest', heq => ⟨rfl, (List.cons.inj heq).2⟩
  | [], (name, item) :: fields, rest, rest', heq => by
      rw [printFields, printFields, List.nil_append, List.cons_append] at heq
      exact absurd (List.cons.inj heq).1 (by decide)
  | (name, item) :: fields, [], rest, rest', heq => by
      rw [printFields, printFields, List.nil_append, List.cons_append] at heq
      exact absurd (List.cons.inj heq).1 (by decide)
  | (name, item) :: fields, (name', item') :: fields', rest, rest', heq => by
      simp only [printFields, List.cons_append, List.append_assoc, List.cons.injEq, true_and] at heq
      obtain ⟨rfl, hvalue⟩ := quoted_append_inj heq
      obtain ⟨rfl, htail⟩ := print_append_inj h item item'
        (ends_printFields fields (ends_cons (by decide) rest))
        (ends_printFields fields' (ends_cons (by decide) rest')) (List.cons.inj hvalue).2
      obtain ⟨rfl, hrest⟩ := printFields_append_inj h fields fields' htail
      exact ⟨rfl, hrest⟩

end

/-- Different trees have different texts. -/
theorem print_injective (h : Numerals numeral) : Function.Injective (@print ν numeral) := by
  intro v w heq
  have hends : Ends [] := by
    intro u hu
    simp at hu
  exact (print_append_inj h v w hends hends (by rw [heq])).1

/-! ## The order of an object's fields -/

end Json

def isDigit (u : UInt16) : Bool := 0x30 ≤ u && u ≤ 0x39

/-- The index that a property's name is, if it is the numeral of one. -/
def arrayIndex (name : Text) : Option ℕ :=
  if name.all isDigit && !name.isEmpty && (name = [0x30] || name.head? != some 0x30) then
    let index := name.foldl (fun value u => 10 * value + (u.toNat - 48)) 0
    if index < 4294967295 then some index else none
  else none

/-- `Object.keys` and `Object.entries`: indices go first, in their order, and the other names
in the order in which they were made. -/
def enumerationOrder {α : Type*} (fields : List (Text × α)) : List (Text × α) :=
  (fields.filter fun field => (arrayIndex field.1).isSome).insertionSort
      (fun a b => (arrayIndex a.1).getD 0 ≤ (arrayIndex b.1).getD 0) ++
    fields.filter fun field => !(arrayIndex field.1).isSome

theorem enumerationOrder_perm {α : Type*} (fields : List (Text × α)) :
    (enumerationOrder fields).Perm fields := by
  unfold enumerationOrder
  have hsorted := List.perm_insertionSort
    (fun a b : Text × α => (arrayIndex a.1).getD 0 ≤ (arrayIndex b.1).getD 0)
    (fields.filter fun field => (arrayIndex field.1).isSome)
  exact (hsorted.append_right _).trans (List.filter_append_perm _ fields)

namespace Json

variable {ν : Type*}

mutual

/-- The tree with the fields of every object in the order of enumeration. -/
def enumerated : Json ν → Json ν
  | .null => .null
  | .boolean value => .boolean value
  | .number value => .number value
  | .string text => .string text
  | .array items => .array (enumerateItems items)
  | .object fields => .object (enumerationOrder (enumerateFields fields))

def enumerateItems : List (Json ν) → List (Json ν)
  | [] => []
  | item :: rest => item.enumerated :: enumerateItems rest

def enumerateFields : List (Text × Json ν) → List (Text × Json ν)
  | [] => []
  | (name, item) :: rest => (name, item.enumerated) :: enumerateFields rest

end

/-- `JSON.stringify`. -/
def stringify (numeral : ν → Text) (v : Json ν) : Text := v.enumerated.print numeral

theorem enumerateItems_eq_map (items : List (Json ν)) :
    enumerateItems items = items.map enumerated := by
  induction items with
  | nil => rfl
  | cons item rest ih => rw [enumerateItems, ih, List.map_cons]

theorem enumerateFields_eq_map (fields : List (Text × Json ν)) :
    enumerateFields fields = fields.map (Prod.map id enumerated) := by
  induction fields with
  | nil => rfl
  | cons field rest ih => rw [enumerateFields, ih, List.map_cons, Prod.map_apply, id]

theorem kind_enumerated (v : Json ν) : v.enumerated.kind = v.kind := by
  cases v <;> rfl

/-- One text means one tree, up to the order in which fields were made. -/
theorem stringify_injective {numeral : ν → Text} (h : Numerals numeral) {v w : Json ν}
    (heq : v.stringify numeral = w.stringify numeral) : v.enumerated = w.enumerated :=
  print_injective h heq

/-- The fields of two objects whose fields are enumerated alike. -/
theorem mem_of_enumerated_eq {fields fields' : List (Text × Json ν)}
    (heq : (object fields).enumerated = (object fields').enumerated) {name : Text} {item : Json ν}
    (hmem : (name, item) ∈ fields) :
    ∃ item', (name, item') ∈ fields' ∧ item.enumerated = item'.enumerated := by
  rw [enumerated, enumerated, Json.object.injEq, enumerateFields_eq_map,
    enumerateFields_eq_map] at heq
  have hplaced : (name, item.enumerated) ∈
      enumerationOrder (fields.map (Prod.map id enumerated)) := by
    rw [(enumerationOrder_perm _).mem_iff]
    exact List.mem_map.mpr ⟨(name, item), hmem, rfl⟩
  rw [heq, (enumerationOrder_perm _).mem_iff] at hplaced
  obtain ⟨⟨name', item'⟩, hmem', hfield⟩ := List.mem_map.mp hplaced
  obtain ⟨rfl, hitem⟩ : name' = name ∧ item'.enumerated = item.enumerated := by
    simpa [Prod.map] using hfield
  exact ⟨item', hmem', hitem.symm⟩

example : (object [(units "b", .null), (units "10", .array [.boolean true]),
      (units "9", .string [0xd800])]).stringify (fun n : Empty => nomatch n) =
    units "\x7b\"9\":\"\\ud800\",\"10\":[true],\"b\":null\x7d" := by
  decide +kernel

end Json

end Ecma
