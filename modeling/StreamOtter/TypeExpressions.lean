import StreamOtter.EcmaValue

/-!
# Type expressions

The part of TypeScript in which contracts between programs are written: the tokens of a text, the
types that tokens make, and the values that have a type.  A text is read one unit after the other
and its tokens one after the other, so that what is written in parts is read in parts.
-/

namespace TypeScript

open Ecma Value

/-! ## Tokens -/

inductive Token
  | word (name : Text)
  | numeral (digits : Text)
  | quote (text : Text)
  | mark (c : Char)
  deriving DecidableEq, Repr

def isLineEnd (u : UInt16) : Bool := u = 0x0a || u = 0x0d || u = 0x2028 || u = 0x2029

def isBlank (u : UInt16) : Bool := u = 0x20 || u = 0x09 || isLineEnd u

def isNameStart (u : UInt16) : Bool :=
  (0x41 ≤ u && u ≤ 0x5a) || (0x61 ≤ u && u ≤ 0x7a) || u = 0x5f || u = 0x24

def isNamePart (u : UInt16) : Bool := isNameStart u || isDigit u

def isMark (u : UInt16) : Bool := (units "()[]|:;?<>,=\x7b\x7d").contains u

def isHex (u : UInt16) : Bool := isDigit u || (0x61 ≤ u && u ≤ 0x66)

/-- What a reader of units is in the middle of. -/
inductive Mode
  | blank
  | slash
  | lineComment
  | blockComment (star : Bool)
  | word (name : Text)
  | numeral (digits : Text)
  | quote (text : Text)
  | escape (text : Text)
  | unicode (text digits : Text)
  deriving DecidableEq, Repr

/-- What is read after some tokens. -/
def following (done : List Token) (read : Option (List Token × Mode)) :
    Option (List Token × Mode) :=
  read.map fun read => (done ++ read.1, read.2)

@[simp] theorem following_none (done : List Token) : following done none = none := rfl

@[simp] theorem following_some (done : List Token) (read : List Token × Mode) :
    following done (some read) = some (done ++ read.1, read.2) := rfl

@[simp] theorem following_nil (read : Option (List Token × Mode)) : following [] read = read := by
  cases read <;> rfl

@[simp] theorem following_following (done done' : List Token)
    (read : Option (List Token × Mode)) :
    following done (following done' read) = following (done ++ done') read := by
  cases read <;> simp [following]

/-- What a unit begins where nothing is open. -/
def opening (u : UInt16) : Option (List Token × Mode) :=
  if isBlank u then some ([], .blank)
  else if u = 0x2f then some ([], .slash)
  else if u = 0x22 then some ([], .quote [])
  else if isNameStart u then some ([], .word [u])
  else if isDigit u then some ([], .numeral [u])
  else if isMark u then some ([.mark (Char.ofNat u.toNat)], .blank)
  else none

/-- The tokens that a unit completes, and what it leaves open.  A string ends on its own line. -/
def scanUnit (mode : Mode) (u : UInt16) : Option (List Token × Mode) :=
  match mode with
  | .blank => opening u
  | .slash =>
      if u = 0x2f then some ([], .lineComment)
      else if u = 0x2a then some ([], .blockComment false)
      else none
  | .lineComment => some ([], if isLineEnd u then .blank else .lineComment)
  | .blockComment star =>
      some ([], if star && u = 0x2f then .blank else .blockComment (u = 0x2a))
  | .word name =>
      if isNamePart u then some ([], .word (name ++ [u]))
      else following [.word name] (opening u)
  | .numeral digits =>
      if isDigit u then some ([], .numeral (digits ++ [u]))
      else if isNameStart u then none
      else following [.numeral digits] (opening u)
  | .quote text =>
      if u = 0x22 then some ([.quote text], .blank)
      else if u = 0x5c then some ([], .escape text)
      else if isLineEnd u then none
      else some ([], .quote (text ++ [u]))
  | .escape text =>
      if u = 0x75 then some ([], .unicode text [])
      else ((shortEscapes.map Prod.swap).lookup u).map fun v => ([], .quote (text ++ [v]))
  | .unicode text digits =>
      if !isHex u then none
      else
        match digits with
        | [a, b, c] => some ([], .quote (text ++ [ofHex a b c u]))
        | _ => some ([], .unicode text (digits ++ [u]))

def scan : Mode → Text → Option (List Token × Mode)
  | mode, [] => some ([], mode)
  | mode, u :: rest =>
      match scanUnit mode u with
      | none => none
      | some (done, next) => following done (scan next rest)

/-- What the end of a text completes. -/
def ending : Mode → Option (List Token)
  | .blank | .lineComment => some []
  | .word name => some [.word name]
  | .numeral digits => some [.numeral digits]
  | _ => none

def tokens (text : Text) : Option (List Token) :=
  match scan .blank text with
  | none => none
  | some (done, mode) => (ending mode).map (done ++ ·)

/-! ## Types -/

/-- A type as it is written, parentheses included. -/
inductive TypeExpr
  | string
  | number
  | boolean
  | null
  | never
  | literal (text : Text)
  | numeral (digits : Text)
  | named (name : Text) (arguments : List TypeExpr)
  | union (left right : TypeExpr)
  | parens (inner : TypeExpr)
  | array (item : TypeExpr)
  | object (members : List (Text × Bool × TypeExpr))

/-- The name of a member, whether it is optional, and its type. -/
abbrev Members := List (Text × Bool × TypeExpr)

def ofWord (name : Text) : TypeExpr :=
  if name = units "string" then .string
  else if name = units "number" then .number
  else if name = units "boolean" then .boolean
  else if name = units "null" then .null
  else if name = units "never" then .never
  else .named name []

/-- A union with one more alternative. -/
def joined (left : Option TypeExpr) (right : TypeExpr) : TypeExpr :=
  match left with
  | none => right
  | some left => .union left right

/-- What a type is read for, with the alternatives that stand before it. -/
inductive Frame
  | parens (left : Option TypeExpr)
  | member (left : Option TypeExpr) (members : Members) (name : Text) (optional : Bool)
  | argument (left : Option TypeExpr) (name : Text) (arguments : List TypeExpr)

inductive Position
  | operand (left : Option TypeExpr)
  | after (left : Option TypeExpr) (type : TypeExpr)
  | bracket (left : Option TypeExpr) (type : TypeExpr)
  | members (left : Option TypeExpr) (members : Members)
  | key (left : Option TypeExpr) (members : Members) (name : Text) (optional : Bool)

/-- What a token makes of the innermost type when it ends it. -/
def closeType (type : TypeExpr) (frames : List Frame) (c : Char) :
    Option (Position × List Frame) :=
  match frames with
  | [] => none
  | .parens left :: frames =>
      if c = ')' then some (.after left (.parens type), frames) else none
  | .member left members name optional :: frames =>
      let members := members ++ [(name, optional, type)]
      if c = ';' ∨ c = ',' then some (.members left members, frames)
      else if c = '\x7d' then some (.after left (.object members), frames)
      else none
  | .argument left name arguments :: frames =>
      let arguments := arguments ++ [type]
      if c = ',' then some (.operand none, .argument left name arguments :: frames)
      else if c = '>' then some (.after left (.named name arguments), frames)
      else none

def shift (position : Position) (frames : List Frame) (token : Token) :
    Option (Position × List Frame) :=
  match position, token with
  | .operand left, .word name => some (.after left (ofWord name), frames)
  | .operand left, .numeral digits => some (.after left (.numeral digits), frames)
  | .operand left, .quote text => some (.after left (.literal text), frames)
  | .operand left, .mark c =>
      if c = '(' then some (.operand none, .parens left :: frames)
      else if c = '\x7b' then some (.members left [], frames)
      else none
  | .after left type, .mark c =>
      if c = '[' then some (.bracket left type, frames)
      else if c = '|' then some (.operand (some (joined left type)), frames)
      else if c = '<' then
        match type with
        | .named name [] => some (.operand none, .argument left name [] :: frames)
        | _ => none
      else closeType (joined left type) frames c
  | .bracket left type, .mark c =>
      if c = ']' then some (.after left (.array type), frames) else none
  | .members left members, .mark c =>
      if c = '\x7d' then some (.after left (.object members), frames) else none
  | .members left members, .word name | .members left members, .quote name =>
      some (.key left members name false, frames)
  | .key left members name optional, .mark c =>
      if c = '?' ∧ !optional then some (.key left members name true, frames)
      else if c = ':' then some (.operand none, .member left members name optional :: frames)
      else none
  | _, _ => none

def shifts : Position → List Frame → List Token → Option (Position × List Frame)
  | position, frames, [] => some (position, frames)
  | position, frames, token :: rest =>
      match shift position frames token with
      | none => none
      | some (next, frames) => shifts next frames rest

/-- The type that a text is, if it is one. -/
def readType (text : Text) : Option TypeExpr :=
  match (tokens text).bind (shifts (.operand none) []) with
  | some (.after left type, []) => some (joined left type)
  | _ => none

/-! ### Meaning -/

mutual

/-- Whether a value has a type.  The objects of a `fresh` value, which is written out where the
type is asked for, have no other properties than those of their type. -/
def has (fresh : Bool) : TypeExpr → Value → Bool
  | .string, .string _ => true
  | .number, .number _ => true
  | .boolean, .boolean _ => true
  | .null, .null => true
  | .literal text, .string value => value = text
  | .union left right, value => has fresh left value || has fresh right value
  | .parens inner, value => has fresh inner value
  | .array item, .array items => items.all fun value => has fresh item value
  | .object members, .object fields =>
      haveMembers fresh members fields &&
        (!fresh || (ownKeys fields).all fun name => (members.map Prod.fst).contains name)
  | .named name [.string, .never], .object fields => name = units "Record" && (ownKeys fields).isEmpty
  | _, _ => false

def haveMembers (fresh : Bool) : Members → Fields → Bool
  | [], _ => true
  | (name, optional, type) :: rest, fields =>
      (if hasOwn fields name then
        has fresh type (property fields name) || (optional && (property fields name).isUndefined)
      else optional) && haveMembers fresh rest fields

end

/-! ## Texts in parts -/

variable {a b text : Text} {ts us : List Token} {e e' : TypeExpr}

theorem scan_append (mode : Mode) (a b : Text) :
    scan mode (a ++ b) =
      (scan mode a).bind fun read => following read.1 (scan read.2 b) := by
  induction a generalizing mode with
  | nil => simp [scan]
  | cons u rest ih =>
      rw [List.cons_append, scan, scan]
      cases hunit : scanUnit mode u with
      | none => rfl
      | some read =>
          dsimp only
          rw [ih]
          cases hrest : scan read.2 rest with
          | none => rfl
          | some read' => simp

/-- A mode in which only a last word or numeral is open. -/
inductive Open : Mode → List Token → Prop
  | blank : Open .blank []
  | word (name : Text) : Open (.word name) [.word name]
  | numeral (digits : Text) : Open (.numeral digits) [.numeral digits]

/-- The tokens as which a text is written. -/
def Written (text : Text) (ts : List Token) : Prop :=
  ∃ done mode last, scan .blank text = some (done, mode) ∧ Open mode last ∧ ts = done ++ last

theorem Open.ending {mode : Mode} {last : List Token} (h : Open mode last) :
    ending mode = some last := by
  cases h <;> rfl

theorem Open.scan {mode : Mode} {last : List Token} (h : Open mode last) {u : UInt16} {rest : Text}
    (hapart : isNamePart u = false) :
    scan mode (u :: rest) = following last (scan .blank (u :: rest)) := by
  have hstart : isNameStart u = false ∧ isDigit u = false := by
    simpa [isNamePart] using hapart
  cases h with
  | blank => exact (following_nil _).symm
  | word name =>
      have hunit : scanUnit (.word name) u = following [.word name] (opening u) :=
        if_neg (by simp [hapart])
      have hblank : scanUnit .blank u = opening u := rfl
      rw [TypeScript.scan, TypeScript.scan, hunit, hblank]
      cases hopening : opening u with
      | none => rfl
      | some read => simp
  | numeral digits =>
      have hunit : scanUnit (.numeral digits) u = following [.numeral digits] (opening u) := by
        rw [scanUnit, if_neg (by simp [hstart.2]), if_neg (by simp [hstart.1])]
      have hblank : scanUnit .blank u = opening u := rfl
      rw [TypeScript.scan, TypeScript.scan, hunit, hblank]
      cases hopening : opening u with
      | none => rfl
      | some read => simp

/-- The tokens as which a text is written that leaves nothing open. -/
def Closed (text : Text) (ts : List Token) : Prop := scan .blank text = some (ts, .blank)

theorem Closed.written (h : Closed text ts) : Written text ts :=
  ⟨ts, .blank, [], h, .blank, (List.append_nil ts).symm⟩

theorem Written.tokens (h : Written text ts) : tokens text = some ts := by
  obtain ⟨done, mode, last, hscan, hopen, rfl⟩ := h
  rw [TypeScript.tokens, hscan]
  simp [hopen.ending]

theorem Closed.append (ha : Closed a ts) (hb : Closed b us) : Closed (a ++ b) (ts ++ us) := by
  rw [Closed, scan_append, ha]
  exact (congrArg (following ts) hb).trans rfl

theorem Closed.append_written (ha : Closed a ts) (hb : Written b us) :
    Written (a ++ b) (ts ++ us) := by
  obtain ⟨done, mode, last, hscan, hopen, rfl⟩ := hb
  refine ⟨ts ++ done, mode, last, ?_, hopen, by simp⟩
  rw [scan_append, ha]
  simp [hscan]

/-- What follows a type closes it. -/
theorem Written.close {u : UInt16} {rest : Text} (ha : Written a ts) (hb : Closed (u :: rest) us)
    (hapart : isNamePart u = false) : Closed (a ++ u :: rest) (ts ++ us) := by
  obtain ⟨done, mode, last, hscan, hopen, rfl⟩ := ha
  rw [Closed, scan_append, hscan]
  simp [hopen.scan hapart, show scan .blank (u :: rest) = _ from hb]

theorem closed_blanks {blanks : Text} (h : ∀ u ∈ blanks, isBlank u) : Closed blanks [] := by
  induction blanks with
  | nil => rfl
  | cons u rest ih =>
      have hblank : scanUnit .blank u = some ([], .blank) := by
        rw [scanUnit, opening, if_pos (h u List.mem_cons_self)]
      rw [Closed, scan, hblank]
      exact (following_nil _).trans (ih fun v hv => h v (List.mem_cons_of_mem _ hv))

/-- A comment without a star is passed over. -/
theorem scan_comment {note : Text} (h : 0x2a ∉ note) (rest : Text) :
    scan (.blockComment false) (note ++ rest) = scan (.blockComment false) rest := by
  induction note with
  | nil => rfl
  | cons u tail ih =>
      obtain ⟨hu, htail⟩ : u ≠ 0x2a ∧ 0x2a ∉ tail := by simpa [eq_comm] using h
      rw [List.cons_append, scan, scanUnit, Bool.false_and, if_neg Bool.false_ne_true]
      simpa [hu] using ih htail

/-- A name is a word. -/
theorem written_word {u : UInt16} {rest : Text} (hstart : isNameStart u)
    (hparts : ∀ v ∈ rest, isNamePart v) : Written (u :: rest) [.word (u :: rest)] := by
  have hblank : isBlank u = false ∧ u ≠ 0x2f ∧ u ≠ 0x22 := by
    refine ⟨?_, ?_, ?_⟩
    · by_contra hblank
      simp only [isBlank, isLineEnd, Bool.not_eq_false, Bool.or_eq_true, decide_eq_true_eq]
        at hblank
      rcases hblank with (rfl | rfl) | ((rfl | rfl) | rfl) | rfl <;> exact absurd hstart (by decide)
    · rintro rfl
      exact absurd hstart (by decide)
    · rintro rfl
      exact absurd hstart (by decide)
  have hscan : ∀ (rest name : Text), (∀ v ∈ rest, isNamePart v) →
      scan (.word name) rest = some ([], .word (name ++ rest)) := by
    intro rest
    induction rest with
    | nil =>
        intro name _
        rw [scan, List.append_nil]
    | cons v rest ih =>
        intro name hparts
        rw [scan, scanUnit, if_pos (hparts v List.mem_cons_self)]
        dsimp only
        rw [ih _ fun w hw => hparts w (List.mem_cons_of_mem _ hw)]
        simp
  refine ⟨[], .word (u :: rest), _, ?_, .word _, rfl⟩
  rw [scan, scanUnit, opening, hblank.1, if_neg (by simp), if_neg hblank.2.1, if_neg hblank.2.2,
    if_pos hstart]
  dsimp only
  rw [hscan rest [u] hparts]
  rfl

/-- A line comment is passed over. -/
theorem scan_lineComment {note : Text} (h : ∀ u ∈ note, isLineEnd u = false) (rest : Text) :
    scan .lineComment (note ++ rest) = scan .lineComment rest := by
  induction note with
  | nil => rfl
  | cons u tail ih =>
      rw [List.cons_append, scan, scanUnit, h u List.mem_cons_self]
      dsimp only
      rw [following_nil]
      exact ih fun v hv => h v (List.mem_cons_of_mem _ hv)

/-- Some digits are a numeral. -/
theorem written_numeral {u : UInt16} {rest : Text} (hdigit : isDigit u)
    (hdigits : ∀ v ∈ rest, isDigit v) : Written (u :: rest) [.numeral (u :: rest)] := by
  have hopening : opening u = some ([], .numeral [u]) := by
    have hrange : 0x30 ≤ u.toNat ∧ u.toNat ≤ 0x39 := by
      rw [isDigit, Bool.and_eq_true, decide_eq_true_eq, decide_eq_true_eq] at hdigit
      exact hdigit
    have hall : ∀ v : Fin 10, opening (UInt16.ofNat (48 + v.val)) =
        some ([], .numeral [UInt16.ofNat (48 + v.val)]) := by
      decide +kernel
    have hu : UInt16.ofNat (48 + (u.toNat - 48)) = u := by
      rw [Nat.add_sub_cancel' hrange.1, UInt16.ofNat_toNat]
    have hone := hall ⟨u.toNat - 48, by omega⟩
    rwa [hu] at hone
  have hscan : ∀ (rest digits : Text), (∀ v ∈ rest, isDigit v) →
      scan (.numeral digits) rest = some ([], .numeral (digits ++ rest)) := by
    intro rest
    induction rest with
    | nil =>
        intro digits _
        rw [scan, List.append_nil]
    | cons v rest ih =>
        intro digits hdigits
        rw [scan, scanUnit, if_pos (hdigits v List.mem_cons_self)]
        dsimp only
        rw [ih _ fun w hw => hdigits w (List.mem_cons_of_mem _ hw)]
        simp
  refine ⟨[], .numeral (u :: rest), _, ?_, .numeral _, rfl⟩
  rw [scan, scanUnit, hopening]
  dsimp only
  rw [hscan rest [u] hdigits]
  rfl

/-! ### Strings -/

/-- The units between the quotes that stand for a unit of the text. -/
def Spells (piece : Text) (u : UInt16) : Prop :=
  ∀ read rest, scan (.quote read) (piece ++ rest) = scan (.quote (read ++ [u])) rest

theorem spells_raw {u : UInt16} (hquote : u ≠ 0x22) (hbackslash : u ≠ 0x5c)
    (hline : isLineEnd u = false) : Spells [u] u := by
  intro read rest
  rw [List.singleton_append, scan, scanUnit, if_neg hquote, if_neg hbackslash,
    if_neg (by simp [hline])]
  simp

theorem spells_short {u second : UInt16} (h : shortEscapes.lookup u = some second) :
    Spells [0x5c, second] u := by
  have hall : (shortEscapes.all fun escape => decide (escape.2 ≠ 0x75) &&
      (shortEscapes.map Prod.swap).lookup escape.2 == some escape.1) = true := by
    decide
  obtain ⟨before, after, hsplit, -⟩ := List.lookup_eq_some_iff.mp h
  have hescape := List.all_eq_true.mp hall (u, second) (by rw [hsplit]; simp)
  obtain ⟨hsecond, hread⟩ : second ≠ 0x75 ∧
      (shortEscapes.map Prod.swap).lookup second = some u := by simpa using hescape
  intro read rest
  simp only [List.cons_append, List.nil_append]
  rw [scan, scanUnit, if_neg (by decide), if_pos rfl]
  dsimp only
  rw [scan, scanUnit, if_neg hsecond, hread]
  simp

theorem isHex_hexUnit {value : ℕ} (h : value < 16) : isHex (hexUnit value) := by
  have hall : ∀ value : Fin 16, isHex (hexUnit value.val) := by decide
  exact hall ⟨value, h⟩

theorem spells_hexEscape (u : UInt16) : Spells (hexEscape u) u := by
  have hu := u.toNat_lt
  have hread : ofHex (hexUnit (u.toNat / 4096)) (hexUnit (u.toNat / 256 % 16))
      (hexUnit (u.toNat / 16 % 16)) (hexUnit (u.toNat % 16)) = u := by
    unfold ofHex
    rw [hexValue_hexUnit (by omega), hexValue_hexUnit (by omega), hexValue_hexUnit (by omega),
      hexValue_hexUnit (by omega)]
    have hvalue : u.toNat / 4096 * 4096 + u.toNat / 256 % 16 * 256 + u.toNat / 16 % 16 * 16 +
        u.toNat % 16 = u.toNat := by
      omega
    rw [hvalue, UInt16.ofNat_toNat]
  have ha := isHex_hexUnit (show u.toNat / 4096 < 16 by omega)
  have hb := isHex_hexUnit (show u.toNat / 256 % 16 < 16 by omega)
  have hc := isHex_hexUnit (show u.toNat / 16 % 16 < 16 by omega)
  have hd := isHex_hexUnit (show u.toNat % 16 < 16 by omega)
  intro read rest
  simp only [hexEscape, List.cons_append, List.nil_append]
  simp [scan, scanUnit, ha, hb, hc, hd, hread]

/-! ### Types in parts -/

theorem shifts_append (position : Position) (frames : List Frame) (ts us : List Token) :
    shifts position frames (ts ++ us) =
      (shifts position frames ts).bind fun read => shifts read.1 read.2 us := by
  induction ts generalizing position frames with
  | nil => rfl
  | cons token rest ih =>
      rw [List.cons_append, shifts, shifts]
      cases hshift : shift position frames token with
      | none => rfl
      | some read => exact ih read.1 read.2

/-- The tokens of a type that is not a union. -/
def Operand (ts : List Token) (e : TypeExpr) : Prop :=
  ∀ left frames, shifts (.operand left) frames ts = some (.after left e, frames)

/-- The tokens of any type. -/
def Alternatives (ts : List Token) (e : TypeExpr) : Prop :=
  ∀ frames, ∃ left type,
    shifts (.operand none) frames ts = some (.after left type, frames) ∧ joined left type = e

/-- The tokens of some of an object's members. -/
def MemberList (ts : List Token) (members : Members) : Prop :=
  ∀ left before frames,
    shifts (.members left before) frames ts = some (.members left (before ++ members), frames)

theorem Operand.alternatives (h : Operand ts e) : Alternatives ts e :=
  fun frames => ⟨none, e, h none frames, rfl⟩

theorem Alternatives.or (h : Alternatives ts e) (h' : Operand us e') :
    Alternatives (ts ++ .mark '|' :: us) (.union e e') := by
  intro frames
  obtain ⟨left, type, hshifts, rfl⟩ := h frames
  refine ⟨some (joined left type), e', ?_, rfl⟩
  rw [shifts_append, hshifts]
  exact h' (some (joined left type)) frames

theorem Operand.array (h : Operand ts e) : Operand (ts ++ [.mark '[', .mark ']']) (.array e) := by
  intro left frames
  rw [shifts_append, h left frames]
  rfl

theorem Alternatives.parens (h : Alternatives ts e) :
    Operand (.mark '(' :: (ts ++ [.mark ')'])) (.parens e) := by
  intro left frames
  obtain ⟨inner, type, hshifts, rfl⟩ := h (.parens left :: frames)
  have hopen : shift (.operand left) frames (.mark '(') =
      some (.operand none, .parens left :: frames) := rfl
  rw [shifts, hopen]
  dsimp only
  rw [shifts_append, hshifts]
  rfl

theorem memberList_nil : MemberList [] [] := by
  intro left before frames
  rw [List.append_nil]
  rfl

theorem MemberList.append {members members' : Members} (h : MemberList ts members)
    (h' : MemberList us members') : MemberList (ts ++ us) (members ++ members') := by
  intro left before frames
  rw [shifts_append, h left before frames, ← List.append_assoc]
  exact h' left (before ++ members) frames

/-- The tokens between a member's name and its type. -/
def colon (optional : Bool) : List Token :=
  if optional then [.mark '?', .mark ':'] else [.mark ':']

theorem memberList_member {name : Text} {key : Token} (hkey : key = .word name ∨ key = .quote name)
    (optional : Bool) (h : Alternatives ts e) :
    MemberList (key :: (colon optional ++ (ts ++ [.mark ';']))) [(name, optional, e)] := by
  intro left before frames
  obtain ⟨inner, type, hshifts, rfl⟩ := h (.member left before name optional :: frames)
  have hname : shift (.members left before) frames key =
      some (.key left before name false, frames) := by
    rcases hkey with rfl | rfl <;> rfl
  have hcolon : shifts (.key left before name false) frames (colon optional) =
      some (.operand none, .member left before name optional :: frames) := by
    cases optional <;> rfl
  rw [shifts, hname]
  dsimp only
  rw [shifts_append, hcolon]
  dsimp only [Option.bind_some]
  rw [shifts_append, hshifts]
  rfl

theorem MemberList.object {members : Members} (h : MemberList ts members) :
    Operand (.mark '\x7b' :: (ts ++ [.mark '\x7d'])) (.object members) := by
  intro left frames
  have hopen : shift (.operand left) frames (.mark '\x7b') = some (.members left [], frames) := rfl
  rw [shifts, hopen]
  dsimp only
  rw [shifts_append, h left [] frames]
  rfl

/-- The tokens of an object's members up to its end, with commas between them. -/
def MemberCommas (ts : List Token) (members : Members) : Prop :=
  ∀ left before frames,
    shifts (.members left before) frames (ts ++ [.mark '\x7d']) =
      some (.after left (.object (before ++ members)), frames)

theorem memberCommas_nil : MemberCommas [] [] := by
  intro left before frames
  rw [List.append_nil]
  rfl

theorem memberCommas_last {name : Text} {key : Token} (hkey : key = .word name ∨ key = .quote name)
    (h : Alternatives ts e) :
    MemberCommas (key :: .mark ':' :: ts) [(name, false, e)] := by
  intro left before frames
  obtain ⟨inner, type, hshifts, rfl⟩ := h (.member left before name false :: frames)
  have hbegin : shifts (.members left before) frames [key, .mark ':'] =
      some (.operand none, .member left before name false :: frames) := by
    rcases hkey with rfl | rfl <;> rfl
  have hsplit : key :: .mark ':' :: ts ++ [.mark '\x7d'] =
      [key, .mark ':'] ++ (ts ++ [.mark '\x7d']) := rfl
  rw [hsplit, shifts_append, hbegin]
  dsimp only [Option.bind_some]
  rw [shifts_append, hshifts]
  rfl

theorem memberCommas_cons {name : Text} {key : Token} {members : Members}
    (hkey : key = .word name ∨ key = .quote name) (h : Alternatives ts e)
    (h' : MemberCommas us members) :
    MemberCommas (key :: .mark ':' :: (ts ++ .mark ',' :: us)) ((name, false, e) :: members) := by
  intro left before frames
  obtain ⟨inner, type, hshifts, rfl⟩ := h (.member left before name false :: frames)
  have hbegin : shifts (.members left before) frames [key, .mark ':'] =
      some (.operand none, .member left before name false :: frames) := by
    rcases hkey with rfl | rfl <;> rfl
  have hsplit : key :: .mark ':' :: (ts ++ .mark ',' :: us) ++ [.mark '\x7d'] =
      [key, .mark ':'] ++ (ts ++ ([.mark ','] ++ (us ++ [.mark '\x7d']))) := by
    simp
  have hcomma : shifts (.after inner type) (.member left before name false :: frames) [.mark ','] =
      some (.members left (before ++ [(name, false, joined inner type)]), frames) := rfl
  rw [hsplit, shifts_append, hbegin]
  dsimp only [Option.bind_some]
  rw [shifts_append, hshifts]
  dsimp only [Option.bind_some]
  rw [shifts_append, hcomma]
  dsimp only [Option.bind_some]
  rw [h' left _ frames, List.append_assoc]
  rfl

theorem MemberCommas.object {members : Members} (h : MemberCommas ts members) :
    Operand (.mark '\x7b' :: (ts ++ [.mark '\x7d'])) (.object members) := by
  intro left frames
  have hopen : shift (.operand left) frames (.mark '\x7b') = some (.members left [], frames) := rfl
  rw [shifts, hopen]
  exact h left [] frames

/-! ### Texts of types -/

/-- A text that is a type, wherever it stands. -/
def Reads (text : Text) (e : TypeExpr) : Prop := ∃ ts, Written text ts ∧ Alternatives ts e

/-- A text that is a type and not a bare union. -/
def ReadsOperand (text : Text) (e : TypeExpr) : Prop := ∃ ts, Written text ts ∧ Operand ts e

/-- A text that is a list of members. -/
def ReadsMembers (text : Text) (members : Members) : Prop :=
  ∃ ts, Closed text ts ∧ MemberList ts members

theorem ReadsOperand.reads (h : ReadsOperand text e) : Reads text e := by
  obtain ⟨ts, hwritten, hoperand⟩ := h
  exact ⟨ts, hwritten, hoperand.alternatives⟩

theorem Reads.readType (h : Reads text e) : readType text = some e := by
  obtain ⟨ts, hwritten, halternatives⟩ := h
  obtain ⟨left, type, hshifts, rfl⟩ := halternatives []
  rw [TypeScript.readType, hwritten.tokens]
  simp [hshifts]

theorem ReadsOperand.array (h : ReadsOperand text e) :
    ReadsOperand (text ++ units "[]") (.array e) := by
  obtain ⟨ts, hwritten, hoperand⟩ := h
  exact ⟨_, (hwritten.close (show Closed (units "[]") [.mark '[', .mark ']'] from rfl)
    (by decide)).written, hoperand.array⟩

theorem Reads.parens (h : Reads text e) :
    ReadsOperand (units "(" ++ (text ++ units ")")) (.parens e) := by
  obtain ⟨ts, hwritten, halternatives⟩ := h
  have hclosed : Closed (units ")") [.mark ')'] := rfl
  exact ⟨_, (show Closed (units "(") [.mark '('] from rfl).append_written
    (hwritten.close hclosed (by decide)).written, halternatives.parens⟩

/-- A union of types with a literal after it. -/
theorem Reads.or {literal : Text} {value : Text} (h : Reads text e)
    (hliteral : Closed literal [.quote value]) :
    Reads (text ++ (units " | " ++ literal)) (.union e (.literal value)) := by
  obtain ⟨ts, hwritten, halternatives⟩ := h
  have hoperand : Operand [.quote value] (.literal value) := fun _ _ => rfl
  have hbar : Closed (units " | ") [.mark '|'] := rfl
  exact ⟨_, (hwritten.close (hbar.append hliteral) (by decide)).written, halternatives.or hoperand⟩

theorem ReadsMembers.append {members members' : Members} (h : ReadsMembers a members)
    (h' : ReadsMembers b members') : ReadsMembers (a ++ b) (members ++ members') := by
  obtain ⟨ts, hclosed, hmembers⟩ := h
  obtain ⟨us, hclosed', hmembers'⟩ := h'
  exact ⟨ts ++ us, hclosed.append hclosed', hmembers.append hmembers'⟩

theorem readsMembers_blanks {blanks : Text} (h : ∀ u ∈ blanks, isBlank u) :
    ReadsMembers blanks [] := ⟨[], closed_blanks h, memberList_nil⟩

/-- A member as it is written, after blanks and a comment. -/
theorem readsMembers_member {before key : Text} {name : Text} {token : Token} (optional : Bool)
    (hbefore : Closed before []) (hkey : Written key [token])
    (hname : token = .word name ∨ token = .quote name) (h : Reads text e) :
    ReadsMembers (before ++ (key ++ (units (if optional then "?: " else ": ") ++
      (text ++ units ";")))) [(name, optional, e)] := by
  obtain ⟨ts, hwritten, halternatives⟩ := h
  have hclose : Closed (text ++ units ";") (ts ++ [.mark ';']) :=
    hwritten.close (show Closed (units ";") [.mark ';'] from rfl) (by decide)
  refine ⟨_, hbefore.append ?_, memberList_member hname optional halternatives⟩
  cases optional with
  | true =>
      have hcolon : Closed (units "?: ") [.mark '?', .mark ':'] := rfl
      exact hkey.close (hcolon.append hclose) (by decide)
  | false =>
      have hcolon : Closed (units ": ") [.mark ':'] := rfl
      exact hkey.close (hcolon.append hclose) (by decide)

theorem ReadsMembers.object {members : Members} (h : ReadsMembers text members) :
    ReadsOperand (units "\x7b" ++ (text ++ units "\x7d")) (.object members) := by
  obtain ⟨ts, hclosed, hmembers⟩ := h
  have hopen : Closed (units "\x7b") [.mark '\x7b'] := rfl
  have hclose : Closed (units "\x7d") [.mark '\x7d'] := rfl
  exact ⟨_, (hopen.append (hclosed.append hclose)).written, hmembers.object⟩

theorem readsMembers_flatMap {text : Text → Text} {member : Text → Text × Bool × TypeExpr}
    {names : List Text} (h : ∀ name ∈ names, ReadsMembers (text name) [member name]) :
    ReadsMembers (names.flatMap text) (names.map member) := by
  induction names with
  | nil => exact ⟨[], rfl, memberList_nil⟩
  | cons name rest ih =>
      rw [List.flatMap_cons, List.map_cons]
      exact (h name List.mem_cons_self).append
        (ih fun name hmem => h name (List.mem_cons_of_mem _ hmem))

/-- A text that is a list of members with commas between them. -/
def ReadsCommas (text : Text) (members : Members) : Prop :=
  ∃ ts, Written text ts ∧ MemberCommas ts members

/-- A text that begins a member and is followed by its type. -/
def ReadsKey (text name : Text) : Prop :=
  ∃ key, Closed text [key, .mark ':'] ∧ (key = .word name ∨ key = .quote name)

theorem readsKey {before key : Text} {name : Text} {token : Token} (hbefore : Closed before [])
    (hkey : Written key [token]) (hname : token = .word name ∨ token = .quote name) :
    ReadsKey (before ++ (key ++ units ": ")) name := by
  have hcolon : Closed (units ": ") [.mark ':'] := rfl
  exact ⟨token, hbefore.append (hkey.close hcolon (by decide)), hname⟩

theorem readsCommas_intercalate {key text : Text → Text} {type : Text → TypeExpr}
    {names : List Text}
    (h : ∀ name ∈ names, ReadsKey (key name) name ∧ Reads (text name) (type name)) :
    ReadsCommas ((units ",\n").intercalate (names.map fun name => key name ++ text name))
      (names.map fun name => (name, false, type name)) := by
  induction names with
  | nil => exact ⟨[], Closed.written rfl, memberCommas_nil⟩
  | cons name rest ih =>
      obtain ⟨⟨token, hkey, hname⟩, ts, hwritten, halternatives⟩ := h name List.mem_cons_self
      have hfirst := hkey.append_written hwritten
      cases rest with
      | nil =>
          rw [List.map_singleton, List.map_singleton, List.intercalate_singleton]
          exact ⟨_, hfirst, memberCommas_last hname halternatives⟩
      | cons other rest =>
          obtain ⟨us, hwritten', hcommas⟩ :=
            ih fun name hmem => h name (List.mem_cons_of_mem _ hmem)
          have hcomma : Closed (units ",\n") [.mark ','] := rfl
          have hclosed : Closed ((key name ++ text name) ++ units ",\n")
              (([token, .mark ':'] ++ ts) ++ [.mark ',']) := hfirst.close hcomma (by decide)
          rw [List.map_cons, List.map_cons, List.map_cons, List.intercalate_cons_cons]
          refine ⟨_, hclosed.append_written hwritten', ?_⟩
          have hall := memberCommas_cons hname halternatives hcommas
          simpa using hall

theorem ReadsCommas.object {members : Members} (h : ReadsCommas text members) :
    ReadsOperand (units "\x7b\n" ++ (text ++ units "\n\x7d")) (.object members) := by
  obtain ⟨ts, hwritten, hcommas⟩ := h
  have hopen : Closed (units "\x7b\n") [.mark '\x7b'] := rfl
  have hclose : Closed (units "\n\x7d") [.mark '\x7d'] := rfl
  exact ⟨_, (hopen.append (hwritten.close hclose (by decide))).written, hcommas.object⟩

/-! ### Values of types -/

/-- The union of some literals after a type. -/
def orLiterals (e : TypeExpr) (values : List Text) : TypeExpr :=
  values.foldl (fun e value => .union e (.literal value)) e

theorem has_orLiterals (fresh : Bool) (values : List Text) (e : TypeExpr) (value : Value) :
    has fresh (orLiterals e values) value =
      (has fresh e value || values.any fun text => has fresh (.literal text) value) := by
  induction values generalizing e with
  | nil => simp [orLiterals]
  | cons text rest ih =>
      rw [show orLiterals e (text :: rest) = orLiterals (.union e (.literal text)) rest from rfl,
        ih, List.any_cons, has, Bool.or_assoc]

theorem haveMembers_iff {fresh : Bool} {members : Members} {fields : Fields} :
    haveMembers fresh members fields ↔ ∀ member ∈ members,
      if hasOwn fields member.1 then
        has fresh member.2.2 (property fields member.1) ∨
          (member.2.1 ∧ (property fields member.1).isUndefined)
      else member.2.1 = true := by
  induction members with
  | nil => simp [haveMembers]
  | cons member rest ih =>
      obtain ⟨name, optional, type⟩ := member
      rw [haveMembers, Bool.and_eq_true, ih, List.forall_mem_cons]
      refine and_congr ?_ Iff.rfl
      dsimp only
      split <;> simp

end TypeScript
