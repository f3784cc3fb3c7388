import StreamOtter.SchemaValidation
import StreamOtter.TypeExpressions

/-!
# Generated types

A translation of `renderType` of the command line tool, which writes the TypeScript type of a
schema.  The text of an accepted schema is a type, every value that the schema accepts has it, and
what has it is refused for a range or a length only.
-/

namespace StreamOtter.Generation

open Ecma Value Contracts TypeScript

/-! ## Texts -/

/-- U+2028 and U+2029 end a line in the language, and JSON leaves them as they are. -/
def escapeSeparator (u : UInt16) : Text :=
  if u = 0x2028 then units "\\u2028" else if u = 0x2029 then units "\\u2029" else [u]

def literal (value : Text) : Text := (quoted value).flatMap escapeSeparator

/-- `IDENTIFIER`. -/
def isPlainName : Text → Bool
  | [] => false
  | u :: rest => isNameStart u && rest.all isNamePart

def propertyKey (name : Text) : Text := if isPlainName name then name else literal name

/-- A bound with its name, where there is one. -/
def bound (fields : Fields) (name : String) : List Text :=
  let value := property fields (units name)
  if value.isUndefined then [] else [units name ++ 0x20 :: display value]

def describe : Value → Option Text
  | .object fields =>
      match Contracts.typeOf fields with
      | some .string =>
          let parts := bound fields "minLength" ++ bound fields "maxLength"
          if parts.isEmpty then none else some ((units ", ").intercalate parts)
      | some .number =>
          let parts := units "number" :: (bound fields "minimum" ++ bound fields "maximum")
          if parts.length ≤ 1 then none else some ((units ", ").intercalate parts)
      | some .integer =>
          some ((units ", ").intercalate
            (units "integer" :: (bound fields "minimum" ++ bound fields "maximum")))
      | some .array => some (units "maxItems " ++ display (property fields (units "maxItems")))
      | _ => none
  | _ => none

def comment (schema : Value) (inner : Text) : Text :=
  match describe schema with
  | none => []
  | some note => inner ++ (units "/** " ++ (note ++ units " */\n"))

def stringText (fields : Fields) : Text :=
  match property fields (units "enum") with
  | .array items => (units " | ").intercalate ((strings items).map literal)
  | _ => units "string"

/-- Whether the type of an array's items stands in parentheses. -/
def inParens (item : Text) : Bool :=
  item.any (fun u => u = 0x7c || u = 0x26) && !(item.head? = some 0x7b)

def arrayText (item : Text) : Text :=
  if inParens item then units "(" ++ (item ++ units ")") ++ units "[]" else item ++ units "[]"

def memberText (render : Value → Text → Text) (fields : Fields) (inner name : Text) : Text :=
  let child := property (declared fields) name
  let optional := !(requiredNames fields).contains name
  comment child inner ++ inner ++ (propertyKey name ++ (units (if optional then "?: " else ": ") ++
    (render child inner ++ units ";")))

def objectText (render : Value → Text → Text) (fields : Fields) (indent : Text) : Text :=
  let names := ownKeys (declared fields)
  if names.isEmpty then units "Record<string, never>"
  else
    let inner := indent ++ units "  "
    units "\x7b" ++ (units "\n" ++
      (units "\n").intercalate (names.map (memberText render fields inner)) ++
      (units "\n" ++ indent) ++ units "\x7d")

/-- `renderType`, by the nesting still allowed. -/
def renderAt : ℕ → Value → Text → Text
  | allowed + 1, .object fields, indent =>
      match Contracts.typeOf fields with
      | some .string => stringText fields
      | some .number | some .integer => units "number"
      | some .boolean => units "boolean"
      | some .null => units "null"
      | some .array => arrayText (renderAt allowed (property fields (units "items")) indent)
      | some .object => objectText (renderAt allowed) fields indent
      | none => units "never"
  | _, _, _ => units "never"

def renderType (schema : Value) (indent : Text) : Text := renderAt maxNestingDepth schema indent

/-! ## The types that the texts are -/

def stringType (fields : Fields) : TypeExpr :=
  match property fields (units "enum") with
  | .array items =>
      match strings items with
      | [] => .never
      | first :: rest => orLiterals (.literal first) rest
  | _ => .string

def arrayType (text : Text) (item : TypeExpr) : TypeExpr :=
  .array (if inParens text then .parens item else item)

def objectType (type : Value → Text → TypeExpr) (fields : Fields) (indent : Text) : TypeExpr :=
  let names := ownKeys (declared fields)
  if names.isEmpty then .named (units "Record") [.string, .never]
  else
    .object (names.map fun name =>
      (name, !(requiredNames fields).contains name,
        type (property (declared fields) name) (indent ++ units "  ")))

def typeAt : ℕ → Value → Text → TypeExpr
  | allowed + 1, .object fields, indent =>
      match Contracts.typeOf fields with
      | some .string => stringType fields
      | some .number | some .integer => .number
      | some .boolean => .boolean
      | some .null => .null
      | some .array =>
          arrayType (renderAt allowed (property fields (units "items")) indent)
            (typeAt allowed (property fields (units "items")) indent)
      | some .object => objectType (typeAt allowed) fields indent
      | none => .never
  | _, _, _ => .never

/-! ## Schemas with a type -/

/-- An enumeration that has values, or none. -/
def HasValues (fields : Fields) : Prop :=
  (property fields (units "enum")).isUndefined ∨ ∃ items first rest,
    property fields (units "enum") = .array items ∧ strings items = first :: rest

/-- What the text of a schema relies on, by the nesting still allowed. -/
def Renderable : ℕ → Value → Prop
  | allowed + 1, .object fields =>
      match Contracts.typeOf fields with
      | some .string => HasValues fields
      | some .array => Renderable allowed (property fields (units "items"))
      | some .object =>
          (∀ name, hasOwn (declared fields) name →
            Renderable allowed (property (declared fields) name)) ∧
          ∀ name ∈ requiredNames fields, hasOwn (declared fields) name
      | some _ => True
      | none => False
  | _, _ => False

/-- An accepted enumeration has values. -/
theorem enum_accepted {fields : Fields} {path : Text} (h : stringIssues fields path = []) :
    HasValues fields := by
  unfold stringIssues at h
  simp only [List.append_eq_nil_iff] at h
  have hvalues := h.2.2.2
  unfold enumIssues at hvalues
  dsimp only at hvalues
  split at hvalues
  · rename_i hundefined
    exact .inl (by rw [hundefined]; rfl)
  · rename_i items hitems
    split at hvalues
    · cases hvalues
    · rename_i hstrings
      simp only [Bool.or_eq_true, Bool.not_eq_true', not_or, List.isEmpty_iff, Bool.not_eq_false,
        List.all_eq_true] at hstrings
      obtain ⟨item, hitem⟩ := List.exists_mem_of_ne_nil items hstrings.1
      cases item with
      | string text =>
          obtain ⟨first, rest, hvalues⟩ :=
            List.exists_cons_of_ne_nil (List.ne_nil_of_mem (mem_strings.mpr hitem))
          exact .inr ⟨items, first, rest, hitems, hvalues⟩
      | _ => exact absurd (hstrings.2 _ hitem) (by simp [isString])
  · cases hvalues

theorem items_accepted {check : Value → Text → List ConfigIssue} {fields : Fields} {path : Text}
    (h : arrayIssues check fields path = []) :
    ∃ path', check (property fields (units "items")) path' = [] := by
  unfold arrayIssues at h
  rw [List.append_eq_nil_iff] at h
  have hitems := h.2
  split at hitems
  · cases hitems
  · exact ⟨_, hitems⟩

theorem renderable_of_accepted {allowed : ℕ} {schema : Value} {path : Text}
    (h : schemaIssues allowed schema path = []) : Renderable allowed schema := by
  induction allowed generalizing schema path with
  | zero => cases h
  | succ allowed ih =>
      cases schema with
      | object fields =>
          rw [schemaIssues] at h
          rw [Renderable]
          split at h
          · cases h
          · rename_i type htype
            rw [List.append_eq_nil_iff] at h
            obtain ⟨-, hissues⟩ := h
            rw [htype]
            cases type with
            | string => exact enum_accepted hissues
            | number | integer | boolean | null => exact trivial
            | array =>
                obtain ⟨path', hitems⟩ := items_accepted hissues
                exact ih hitems
            | object =>
                obtain ⟨hchildren, hnames⟩ := objectIssues_eq_nil hissues
                refine ⟨fun name hname => ?_, hnames⟩
                obtain ⟨path', hchild⟩ := hchildren name hname
                exact ih hchild
      | _ => cases h

/-! ## Texts read back -/

theorem escapeSeparator_of_ne {u : UInt16} (h : u ≠ 0x2028) (h' : u ≠ 0x2029) :
    escapeSeparator u = [u] := by
  rw [escapeSeparator, if_neg h, if_neg h']

theorem escapeSeparator_hexUnit {value : ℕ} (h : value < 16) :
    escapeSeparator (hexUnit value) = [hexUnit value] := by
  have hall : ∀ value : Fin 16, escapeSeparator (hexUnit value.val) = [hexUnit value.val] := by
    decide
  exact hall ⟨value, h⟩

theorem spells_escapeUnit (u : UInt16) : Spells ((escapeUnit u).flatMap escapeSeparator) u := by
  unfold escapeUnit
  cases hshort : shortEscapes.lookup u with
  | some second =>
      have hall : (shortEscapes.all fun escape =>
          escapeSeparator escape.2 == [escape.2]) = true := by decide
      obtain ⟨before, after, hsplit, -⟩ := List.lookup_eq_some_iff.mp hshort
      have hsecond := List.all_eq_true.mp hall (u, second) (by rw [hsplit]; simp)
      have hsame : ([0x5c, second] : Text).flatMap escapeSeparator = [0x5c, second] := by
        have hbackslash : escapeSeparator 0x5c = [0x5c] := by decide
        simp [hbackslash, beq_iff_eq.mp hsecond]
      dsimp only
      rw [hsame]
      exact spells_short hshort
  | none =>
      dsimp only
      split
      · have hu := u.toNat_lt
        have hsame : (hexEscape u).flatMap escapeSeparator = hexEscape u := by
          have hbackslash : escapeSeparator 0x5c = [0x5c] := by decide
          have hletter : escapeSeparator 0x75 = [0x75] := by decide
          simp only [hexEscape, List.flatMap_cons, List.flatMap_nil, hbackslash, hletter]
          rw [escapeSeparator_hexUnit (by omega), escapeSeparator_hexUnit (by omega),
            escapeSeparator_hexUnit (by omega), escapeSeparator_hexUnit (by omega)]
          rfl
        rw [hsame]
        exact spells_hexEscape u
      · rw [List.flatMap_cons, List.flatMap_nil, List.append_nil]
        by_cases hline : u = 0x2028
        · subst hline
          exact spells_hexEscape 0x2028
        by_cases hparagraph : u = 0x2029
        · subst hparagraph
          exact spells_hexEscape 0x2029
        rw [escapeSeparator_of_ne hline hparagraph]
        refine spells_raw ?_ ?_ ?_
        · rintro rfl
          exact absurd hshort (by decide)
        · rintro rfl
          exact absurd hshort (by decide)
        · have hfeed : u ≠ 0x0a := by
            rintro rfl
            exact absurd hshort (by decide)
          have hreturn : u ≠ 0x0d := by
            rintro rfl
            exact absurd hshort (by decide)
          simp [isLineEnd, hfeed, hreturn, hline, hparagraph]

theorem spells_surrogate {u : UInt16} (h : isLead u ∨ isTrail u) :
    Spells (escapeSeparator u) u := by
  obtain ⟨hquote, hbackslash⟩ := surrogate_raw h
  have hline : isLineEnd u = false := by
    by_contra hline
    simp only [isLineEnd, Bool.not_eq_false, Bool.or_eq_true, decide_eq_true_eq] at hline
    rcases hline with ((rfl | rfl) | rfl) | rfl <;> exact absurd h (by decide)
  rw [escapeSeparator_of_ne]
  · exact spells_raw hquote hbackslash hline
  · rintro rfl
    exact absurd h (by decide)
  · rintro rfl
    exact absurd h (by decide)

theorem scan_escaped (value read rest : Text) :
    scan (.quote read) ((escaped value).flatMap escapeSeparator ++ rest) =
      scan (.quote (read ++ value)) rest := by
  fun_induction escaped value generalizing read with
  | case1 => rw [List.flatMap_nil, List.nil_append, List.append_nil]
  | case2 u => exact spells_escapeUnit u read rest
  | case3 u v tail hpair ih =>
      obtain ⟨hlead, htrail⟩ := Bool.and_eq_true_iff.mp hpair
      rw [List.flatMap_cons, List.flatMap_cons, List.append_assoc, List.append_assoc,
        spells_surrogate (.inl hlead), spells_surrogate (.inr htrail), ih]
      simp
  | case4 u v tail hpair ih =>
      rw [List.flatMap_append, List.append_assoc, spells_escapeUnit, ih]
      simp

/-- A literal is one token, whatever is written in it. -/
theorem closed_literal (value : Text) : Closed (literal value) [.quote value] := by
  have hquote : escapeSeparator 0x22 = [0x22] := by decide
  have hopen : scanUnit .blank 0x22 = some ([], .quote []) := by decide
  have hclose : scan (.quote value) [0x22] = some ([.quote value], .blank) := rfl
  rw [Closed, literal, quoted, List.flatMap_cons, List.flatMap_append, hquote, List.cons_append,
    List.nil_append, scan, hopen]
  dsimp only
  rw [following_nil, scan_escaped, List.nil_append, List.flatMap_cons, hquote]
  exact hclose

theorem written_propertyKey (name : Text) :
    ∃ token, Written (propertyKey name) [token] ∧ (token = .word name ∨ token = .quote name) := by
  unfold propertyKey
  split
  · rename_i hname
    cases name with
    | nil => cases hname
    | cons u rest =>
        obtain ⟨hstart, hparts⟩ := Bool.and_eq_true_iff.mp hname
        exact ⟨_, written_word hstart (List.all_eq_true.mp hparts), .inl rfl⟩
  · exact ⟨_, (closed_literal name).written, .inr rfl⟩

/-! ### Comments -/

/-- Nothing in a text can end the comment around it. -/
def Inert (text : Text) : Prop := 0x2a ∉ text

theorem inert_append {a b : Text} : Inert (a ++ b) ↔ Inert a ∧ Inert b := by
  simp [Inert, not_or]

theorem inert_display (value : Value) : Inert (display value) := by
  have hstar : ∀ u : UInt16, isNumeric u → u ≠ 0x2a := by
    rintro u hu rfl
    exact absurd hu (by decide)
  unfold display
  split
  · rename_i x
    intro hmem
    by_cases hbits : x.bits = 0
    · rw [FiniteNumber.numeral, if_pos hbits] at hmem
      exact absurd hmem (by decide)
    · obtain ⟨-, -, -, -, hall⟩ := Decimal.text_head _ (FiniteNumber.digits_ne_zero hbits)
      rw [FiniteNumber.numeral, if_neg hbits] at hmem
      split at hmem
      · rcases List.mem_cons.mp hmem with hsign | hdigit
        · exact absurd hsign (by decide)
        · exact hstar _ (hall _ hdigit) rfl
      · exact hstar _ (hall _ hmem) rfl
  · unfold Inert
    decide
  · unfold Inert
    split <;> decide
  · simp [Inert]

theorem inert_intercalate {texts : List Text} (h : ∀ text ∈ texts, Inert text) :
    Inert ((units ", ").intercalate texts) := by
  induction texts with
  | nil => simp [Inert]
  | cons text rest ih =>
      have htext := h text List.mem_cons_self
      have hrest := ih fun text hmem => h text (List.mem_cons_of_mem _ hmem)
      cases rest with
      | nil => rwa [List.intercalate_singleton]
      | cons other rest =>
          rw [List.intercalate_cons_cons, inert_append, inert_append]
          exact ⟨⟨htext, by unfold Inert; decide⟩, hrest⟩

theorem inert_bound {fields : Fields} {name : String} (hname : Inert (units name)) :
    ∀ text ∈ bound fields name, Inert text := by
  intro text hmem
  unfold bound at hmem
  dsimp only at hmem
  split at hmem
  · cases hmem
  · obtain rfl := List.mem_singleton.mp hmem
    rw [inert_append]
    refine ⟨hname, ?_⟩
    have hdisplay := inert_display (property fields (units name))
    simpa [Inert] using hdisplay

theorem inert_describe {schema : Value} {note : Text} (h : describe schema = some note) :
    Inert note := by
  have hlength : Inert (units "minLength") ∧ Inert (units "maxLength") := by
    constructor <;> unfold Inert <;> decide
  have hrange : Inert (units "minimum") ∧ Inert (units "maximum") := by
    constructor <;> unfold Inert <;> decide
  have hnumber : Inert (units "number") ∧ Inert (units "integer") := by
    constructor <;> unfold Inert <;> decide
  have hitems : Inert (units "maxItems ") := by
    unfold Inert
    decide
  have hbounds : ∀ {fields : Fields} {a b : String}, Inert (units a) → Inert (units b) →
      ∀ text ∈ bound fields a ++ bound fields b, Inert text := by
    intro fields a b ha hb text hmem
    rcases List.mem_append.mp hmem with hmem | hmem
    · exact inert_bound ha text hmem
    · exact inert_bound hb text hmem
  cases schema with
  | object fields =>
      rw [describe] at h
      split at h
      · dsimp only at h
        split at h
        · cases h
        · obtain rfl := Option.some.inj h
          exact inert_intercalate (hbounds hlength.1 hlength.2)
      · dsimp only at h
        split at h
        · cases h
        · obtain rfl := Option.some.inj h
          refine inert_intercalate (List.forall_mem_cons.mpr ⟨hnumber.1, ?_⟩)
          exact hbounds hrange.1 hrange.2
      · obtain rfl := Option.some.inj h
        refine inert_intercalate (List.forall_mem_cons.mpr ⟨hnumber.2, ?_⟩)
        exact hbounds hrange.1 hrange.2
      · obtain rfl := Option.some.inj h
        exact inert_append.mpr ⟨hitems, inert_display _⟩
      · cases h
  | _ => cases h

theorem closed_comment (schema : Value) {inner : Text} (hinner : ∀ u ∈ inner, isBlank u) :
    Closed (comment schema inner) [] := by
  unfold comment
  cases hnote : describe schema with
  | none => rfl
  | some note =>
      refine (closed_blanks hinner).append ?_
      have hopen : scan .blank (units "/** ") = some ([], .blockComment false) := rfl
      have hclose : scan (.blockComment false) (units " */\n") = some ([], .blank) := rfl
      rw [Closed, scan_append, hopen, Option.bind_some, following_nil,
        scan_comment (inert_describe hnote), hclose]

/-! ### Types -/

theorem reads_orLiterals {text : Text} {e : TypeExpr} (h : Reads text e) (values : List Text) :
    Reads (text ++ values.flatMap fun value => units " | " ++ literal value)
      (orLiterals e values) := by
  induction values generalizing text e with
  | nil => rwa [List.flatMap_nil, List.append_nil]
  | cons value rest ih =>
      rw [List.flatMap_cons, ← List.append_assoc]
      exact ih (h.or (closed_literal value))

theorem intercalate_cons (separator text : Text) (texts : List Text) :
    separator.intercalate (text :: texts) = text ++ texts.flatMap (separator ++ ·) := by
  induction texts generalizing text with
  | nil => rw [List.intercalate_singleton, List.flatMap_nil, List.append_nil]
  | cons other rest ih =>
      rw [List.intercalate_cons_cons, ih, List.flatMap_cons]
      simp

theorem readsMembers_lines {text : Text → Text} {member : Text → Text × Bool × TypeExpr}
    {names : List Text} (h : ∀ name ∈ names, ReadsMembers (text name) [member name]) :
    ReadsMembers ((units "\n").intercalate (names.map text)) (names.map member) := by
  have hline : ReadsMembers (units "\n") [] := readsMembers_blanks (List.all_eq_true.mp (by decide))
  induction names with
  | nil => exact readsMembers_blanks (fun _ hmem => absurd hmem (List.not_mem_nil))
  | cons name rest ih =>
      have hname := h name List.mem_cons_self
      have hrest := ih fun name hmem => h name (List.mem_cons_of_mem _ hmem)
      cases rest with
      | nil =>
          rw [List.map_singleton, List.map_singleton, List.intercalate_singleton]
          exact hname
      | cons other rest =>
          rw [List.map_cons, List.map_cons, List.map_cons, List.intercalate_cons_cons]
          exact (hname.append hline).append hrest

theorem eq_undefined {value : Value} (h : value.isUndefined) : value = .undefined := by
  cases value with
  | undefined => rfl
  | _ => cases h

theorem readsOperand_word {text : Text} {e : TypeExpr} (h : Written text [.word text])
    (he : ofWord text = e) : ReadsOperand text e := by
  refine ⟨_, h, ?_⟩
  intro left frames
  rw [← he]
  rfl

theorem readsOperand_literal (value : Text) : ReadsOperand (literal value) (.literal value) :=
  ⟨_, (closed_literal value).written, fun _ _ => rfl⟩

/-- A union of literals would be taken for its last one if it stood before brackets. -/
theorem inParens_union (first second : Text) (rest : Text) :
    inParens (literal first ++ (units " | " ++ (literal second ++ rest))) = true := by
  have hquote : escapeSeparator 0x22 = [0x22] := by decide
  have hhead : ∃ tail, literal first = 0x22 :: tail := by
    rw [literal, quoted, List.flatMap_cons, hquote]
    exact ⟨_, rfl⟩
  have hbar : 0x7c ∈ units " | " := by decide
  obtain ⟨tail, hliteral⟩ := hhead
  rw [inParens, Bool.and_eq_true]
  constructor
  · rw [List.any_eq_true]
    exact ⟨0x7c, by simp [hbar], by decide⟩
  · rw [hliteral]
    simp

theorem reads_string {fields : Fields} (h : HasValues fields) :
    Reads (stringText fields) (stringType fields) ∧
      (inParens (stringText fields) = false →
        ReadsOperand (stringText fields) (stringType fields)) := by
  unfold stringText stringType
  rcases h with hundefined | ⟨items, first, rest, henum, hvalues⟩
  · have hword : ReadsOperand (units "string") .string :=
      readsOperand_word ⟨[], _, _, rfl, .word _, rfl⟩ rfl
    rw [eq_undefined hundefined]
    exact ⟨hword.reads, fun _ => hword⟩
  · have htext : (units " | ").intercalate ((first :: rest).map literal) =
        literal first ++ rest.flatMap fun value => units " | " ++ literal value := by
      rw [List.map_cons, intercalate_cons, List.flatMap_map]
    rw [henum]
    dsimp only
    rw [hvalues, htext]
    refine ⟨reads_orLiterals (readsOperand_literal first).reads rest, ?_⟩
    intro hparens
    cases rest with
    | nil =>
        rw [List.flatMap_nil, List.append_nil]
        exact readsOperand_literal first
    | cons second rest =>
        rw [List.flatMap_cons, List.append_assoc, inParens_union] at hparens
        cases hparens

theorem readsOperand_array {text : Text} {e : TypeExpr} (h : Reads text e)
    (hoperand : inParens text = false → ReadsOperand text e) :
    ReadsOperand (arrayText text) (arrayType text e) := by
  unfold arrayText arrayType
  cases hparens : inParens text with
  | true => exact h.parens.array
  | false => exact (hoperand hparens).array

theorem readsOperand_object {render : Value → Text → Text} {type : Value → Text → TypeExpr}
    {fields : Fields} {indent : Text} (hindent : ∀ u ∈ indent, isBlank u)
    (h : ∀ name, hasOwn (declared fields) name → ∀ inner : Text, (∀ u ∈ inner, isBlank u) →
      Reads (render (property (declared fields) name) inner)
        (type (property (declared fields) name) inner)) :
    ReadsOperand (objectText render fields indent) (objectType type fields indent) := by
  unfold objectText objectType
  dsimp only
  split
  · have hclosed : Closed (units "Record<string, never>")
        [.word (units "Record"), .mark '<', .word (units "string"), .mark ',',
          .word (units "never"), .mark '>'] := rfl
    exact ⟨_, hclosed.written, fun _ _ => rfl⟩
  · have hinner : ∀ u ∈ indent ++ units "  ", isBlank u := by
      intro u hu
      rcases List.mem_append.mp hu with hu | hu
      · exact hindent u hu
      · exact List.all_eq_true.mp (show (units "  ").all isBlank by decide) u hu
    have hmembers : ∀ name ∈ ownKeys (declared fields),
        ReadsMembers (memberText render fields (indent ++ units "  ") name)
          [(name, !(requiredNames fields).contains name,
            type (property (declared fields) name) (indent ++ units "  "))] := by
      intro name hname
      obtain ⟨token, hkey, htoken⟩ := written_propertyKey name
      exact readsMembers_member _ ((closed_comment _ hinner).append (closed_blanks hinner)) hkey
        htoken (h name (mem_ownKeys.mp hname) _ hinner)
    have hline : ReadsMembers (units "\n") [] := readsMembers_blanks (List.all_eq_true.mp (by decide))
    have hbody := (hline.append (readsMembers_lines hmembers)).append
      (hline.append (readsMembers_blanks hindent))
    rw [List.nil_append, List.nil_append, List.append_nil] at hbody
    have hobject := hbody.object
    simpa only [List.append_assoc] using hobject

/-- The text of a schema is its type. -/
theorem reads_renderAt {allowed : ℕ} {schema : Value} {indent : Text}
    (h : Renderable allowed schema) (hindent : ∀ u ∈ indent, isBlank u) :
    Reads (renderAt allowed schema indent) (typeAt allowed schema indent) ∧
      (inParens (renderAt allowed schema indent) = false →
        ReadsOperand (renderAt allowed schema indent) (typeAt allowed schema indent)) := by
  induction allowed generalizing schema indent with
  | zero => cases h
  | succ allowed ih =>
      cases schema with
      | object fields =>
          rw [Renderable] at h
          rw [renderAt, typeAt]
          have hword : ∀ {text : Text} {e : TypeExpr}, ReadsOperand text e →
              Reads text e ∧ (inParens text = false → ReadsOperand text e) :=
            fun h => ⟨h.reads, fun _ => h⟩
          cases htype : Contracts.typeOf fields with
          | none =>
              rw [htype] at h
              cases h
          | some type =>
              rw [htype] at h
              cases type with
              | string => exact reads_string h
              | number | integer =>
                  exact hword (readsOperand_word ⟨[], _, _, rfl, .word _, rfl⟩ rfl)
              | boolean => exact hword (readsOperand_word ⟨[], _, _, rfl, .word _, rfl⟩ rfl)
              | null => exact hword (readsOperand_word ⟨[], _, _, rfl, .word _, rfl⟩ rfl)
              | array =>
                  obtain ⟨hreads, hoperand⟩ := ih h hindent
                  exact hword (readsOperand_array hreads hoperand)
              | object =>
                  refine hword (readsOperand_object hindent ?_)
                  exact fun name hname inner hinner => (ih (h.1 name hname) hinner).1
      | _ => cases h

/-! ## Values of the types -/

theorem has_literals {fresh : Bool} {text : Text} {first : Text} {rest : List Text} :
    has fresh (orLiterals (.literal first) rest) (.string text) ↔ text ∈ first :: rest := by
  rw [has_orLiterals, Bool.or_eq_true, List.any_eq_true, List.mem_cons]
  refine or_congr ?_ ?_
  · simp [has]
  · simp [has]

theorem has_stringType {fields : Fields} {value : Value} {path : Text}
    (h : validateString fields value path = none) (fresh : Bool) :
    has fresh (stringType fields) value := by
  unfold validateString at h
  cases value with
  | string text =>
      dsimp only at h
      split at h
      · cases h
      · rename_i hmember
        unfold stringType
        split
        · rename_i items henum
          rw [henum] at hmember
          have hmem : text ∈ strings items := by
            simpa [isUndefined, isMember] using hmember
          cases hvalues : strings items with
          | nil =>
              rw [hvalues] at hmem
              cases hmem
          | cons first rest =>
              rw [hvalues] at hmem
              exact has_literals.mpr hmem
        · rfl
  | _ => cases h

theorem has_arrayType {fresh : Bool} {text : Text} {e : TypeExpr} {items : List Value} :
    has fresh (arrayType text e) (.array items) ↔ ∀ item ∈ items, has fresh e item := by
  unfold arrayType
  rw [has, List.all_eq_true]
  split <;> simp [has]

theorem has_objectType {fresh : Bool} {type : Value → Text → TypeExpr} {fields own : Fields}
    {indent : Text} :
    has fresh (objectType type fields indent) (.object own) ↔
      (∀ name, hasOwn (declared fields) name →
        if hasOwn own name then
          has fresh (type (property (declared fields) name) (indent ++ units "  "))
              (property own name) ∨
            (name ∉ requiredNames fields ∧ (property own name).isUndefined)
        else name ∉ requiredNames fields) ∧
      ((fresh ∨ ¬ ∃ name, hasOwn (declared fields) name) →
        ∀ name, hasOwn own name → hasOwn (declared fields) name) := by
  unfold objectType
  dsimp only
  split
  · rename_i hempty
    have hnone : ∀ name, ¬ hasOwn (declared fields) name := by
      intro name hname
      rw [List.isEmpty_iff] at hempty
      rw [← mem_ownKeys, hempty] at hname
      cases hname
    rw [has, decide_eq_true rfl, Bool.true_and, List.isEmpty_iff, List.eq_nil_iff_forall_not_mem]
    constructor
    · intro hown
      refine ⟨fun name hname => absurd hname (hnone name), fun _ name hname => ?_⟩
      exact absurd (mem_ownKeys.mpr hname) (hown name)
    · intro h name hname
      exact hnone name (h.2 (.inr (not_exists.mpr hnone)) name (mem_ownKeys.mp hname))
  · rename_i hsome
    have hexists : ∃ name, hasOwn (declared fields) name := by
      obtain ⟨name, hname⟩ := List.exists_mem_of_ne_nil _ (by simpa using hsome)
      exact ⟨name, mem_ownKeys.mp hname⟩
    rw [has, Bool.and_eq_true, haveMembers_iff]
    refine and_congr ?_ ?_
    · simp only [List.forall_mem_map, mem_ownKeys, Bool.not_eq_true', List.contains_eq_mem,
        decide_eq_false_iff_not]
    · simp [hexists, mem_ownKeys]
      cases fresh <;> simp

/-- Every value that a schema accepts has its type. -/
theorem has_of_validateAt {allowed : ℕ} {schema value : Value} {path : Text}
    (h : validateAt allowed schema value path = none) (fresh : Bool) (indent : Text) :
    has fresh (typeAt allowed schema indent) value := by
  induction allowed generalizing schema value path indent with
  | zero => cases h
  | succ allowed ih =>
      obtain ⟨-, fields, -, rfl⟩ := validateAt_object h
      rw [validateAt] at h
      rw [typeAt]
      cases htype : Contracts.typeOf fields with
      | none =>
          rw [htype] at h
          cases h
      | some type =>
          rw [htype] at h
          cases type with
          | string => exact has_stringType h fresh
          | number | integer =>
              cases value with
              | number n => rfl
              | _ => cases h
          | boolean | null => cases value <;> first | rfl | cases h
          | array =>
              obtain ⟨items, rfl, -, hfirst⟩ := validateArray_eq_none.mp h
              refine has_arrayType.mpr fun item hitem => ?_
              obtain ⟨path', hpath⟩ := firstIssue_eq_none hfirst item hitem
              exact ih hpath indent
          | object =>
              obtain ⟨own, rfl, haccepted⟩ := validateObject_eq_none.mp h
              refine has_objectType.mpr ⟨?_, fun _ => haccepted.declared⟩
              intro name _
              split
              · rename_i hown
                exact .inl (ih (haccepted.accepted name hown) _)
              · rename_i hown
                exact fun hrequired => hown (haccepted.required name hrequired)

/-- A refusal for a range or a length, which no type expresses. -/
def IsRuntimeCheck (issue : FoundIssue) : Prop :=
  issue.message = units "Expected a safe integer." ∨ ∃ bound,
    issue.message = units "Expected at least " ++ bound ++ units " characters." ∨
    issue.message = units "Expected at most " ++ bound ++ units " characters." ∨
    issue.message = units "Expected a value of at least " ++ bound ++ units "." ∨
    issue.message = units "Expected a value of at most " ++ bound ++ units "." ∨
    issue.message = units "Expected at most " ++ bound ++ units " items."

/-- Nothing is wrong but what is checked when the program runs. -/
def Checked (found : Option FoundIssue) : Prop := ∀ issue ∈ found, IsRuntimeCheck issue

theorem checked_none : Checked none := fun _ hmem => by cases hmem

theorem checked_some {issue : FoundIssue} (h : IsRuntimeCheck issue) : Checked (some issue) := by
  intro issue' hmem
  obtain rfl := Option.some.inj hmem
  exact h

theorem checked_string {fields : Fields} {value : Value} {path : Text} (hvalues : HasValues fields)
    (h : has true (stringType fields) value) : Checked (validateString fields value path) := by
  obtain ⟨text, rfl, hmember⟩ : ∃ text, value = .string text ∧
      (!(property fields (units "enum")).isUndefined &&
        !isMember text (property fields (units "enum"))) = false := by
    unfold stringType at h
    rcases hvalues with hundefined | ⟨items, first, rest, henum, hvalues⟩
    · rw [eq_undefined hundefined] at h ⊢
      cases value with
      | string text => exact ⟨text, rfl, rfl⟩
      | _ => cases h
    · rw [henum] at h ⊢
      dsimp only at h
      rw [hvalues] at h
      cases value with
      | string text =>
          have hmem := has_literals.mp h
          refine ⟨text, rfl, ?_⟩
          rw [isMember, hvalues, List.contains_iff_mem.mpr hmem]
          rfl
      | _ =>
          dsimp only at h
          rw [has_orLiterals, Bool.or_eq_true, List.any_eq_true] at h
          rcases h with hfirst | ⟨text, -, hrest⟩
          · cases hfirst
          · cases hrest
  unfold validateString
  dsimp only
  rw [hmember, if_neg Bool.false_ne_true]
  split
  · exact checked_some (.inr ⟨_, .inl rfl⟩)
  · split
    · exact checked_some (.inr ⟨_, .inr (.inl rfl)⟩)
    · exact checked_none

theorem checked_number {integer : Bool} {fields : Fields} {x : FiniteNumber} {path : Text} :
    Checked (validateNumber integer fields (.number (.finite x)) path) := by
  unfold validateNumber
  dsimp only
  split
  · exact checked_some (.inl rfl)
  · split
    · exact checked_some (.inr ⟨_, .inr (.inr (.inl rfl))⟩)
    · split
      · exact checked_some (.inr ⟨_, .inr (.inr (.inr (.inl rfl)))⟩)
      · exact checked_none

theorem checked_array {check : Value → Text → Option FoundIssue} {fields : Fields}
    {items : List Value} (h : ∀ item ∈ items, ∀ path, Checked (check item path)) (path : Text) :
    Checked (validateArray check fields (.array items) path) := by
  have hfirst : ∀ index, Checked (firstIssue check path index items) := by
    induction items with
    | nil => exact fun _ => checked_none
    | cons item rest ih =>
        intro index
        rw [firstIssue]
        have hitem := h item List.mem_cons_self (path ++ 0x5b :: (indexUnits index ++ [0x5d]))
        split
        · rename_i issue hissue
          rwa [hissue] at hitem
        · exact ih (fun item hmem => h item (List.mem_cons_of_mem _ hmem)) (index + 1)
  unfold validateArray
  dsimp only
  split
  · exact checked_some (.inr ⟨_, .inr (.inr (.inr (.inr rfl)))⟩)
  · exact hfirst 0

theorem checked_object {check : Value → Value → Text → Option FoundIssue} {fields own : Fields}
    (hdeclared : ∀ name, hasOwn own name → hasOwn (declared fields) name)
    (hrequired : ∀ name ∈ requiredNames fields, hasOwn own name)
    (h : ∀ name, hasOwn (declared fields) name → hasOwn own name → ∀ path,
      Checked (check (property (declared fields) name) (property own name) path)) (path : Text) :
    Checked (validateObject check fields (.object own) path) := by
  unfold validateObject
  dsimp only
  split
  · rename_i name hfound
    have hown := mem_ownKeys.mp (List.mem_of_find?_eq_some hfound)
    have hundeclared := List.find?_some hfound
    simp [hdeclared name hown] at hundeclared
  · split
    · rename_i name hfound
      have hmissing := List.find?_some hfound
      simp [hrequired name (List.mem_of_find?_eq_some hfound)] at hmissing
    · intro issue hissue
      obtain ⟨name, hname, hchild⟩ := List.exists_of_findSome?_eq_some hissue
      split at hchild
      · rename_i hown
        exact h name (mem_ownKeys.mp hname) hown _ issue hchild
      · cases hchild

/-- What has the type of a schema is refused for a range or a length only. -/
theorem checked_of_has {allowed : ℕ} {schema value : Value} {indent : Text}
    (hschema : Renderable allowed schema) (hjson : isJsonAt allowed value)
    (h : has true (typeAt allowed schema indent) value) (path : Text) :
    Checked (validateAt allowed schema value path) := by
  induction allowed generalizing schema value indent path with
  | zero => cases hschema
  | succ allowed ih =>
      cases schema with
      | object fields =>
          rw [Renderable] at hschema
          rw [typeAt] at h
          rw [validateAt]
          cases htype : Contracts.typeOf fields with
          | none =>
              rw [htype] at hschema
              cases hschema
          | some type =>
              rw [htype] at hschema h
              cases type with
              | string => exact checked_string hschema h
              | number | integer =>
                  cases value with
                  | number n =>
                      cases n with
                      | finite x => exact checked_number
                      | _ => cases hjson
                  | _ => cases h
              | boolean =>
                  cases value with
                  | boolean value => exact checked_none
                  | _ => cases h
              | null =>
                  cases value with
                  | null => exact checked_none
                  | _ => cases h
              | array =>
                  cases value with
                  | array items =>
                      have hhave := has_arrayType.mp h
                      rw [isJsonAt, List.all_eq_true] at hjson
                      refine checked_array (fun item hitem path => ?_) _
                      exact ih hschema (hjson item hitem) (hhave item hitem) path
                  | _ => cases h
              | object =>
                  obtain ⟨hchildren, hnames⟩ := hschema
                  cases value with
                  | object own =>
                      obtain ⟨hmembers, hclosed⟩ := has_objectType.mp h
                      rw [isJsonAt_object] at hjson
                      refine checked_object (hclosed (.inl rfl)) ?_ ?_ _
                      · intro name hname
                        by_contra hown
                        have hmember := hmembers name (hnames name hname)
                        rw [if_neg hown] at hmember
                        exact hmember hname
                      · intro name hname hown path
                        have hmember := hmembers name hname
                        rw [if_pos hown] at hmember
                        rcases hmember with hhas | ⟨-, hundefined⟩
                        · exact ih (hchildren name hname) (hjson name hown) hhas path
                        · have hdata := hjson name hown
                          rw [eq_undefined hundefined] at hdata
                          cases allowed <;> cases hdata
                  | _ =>
                      dsimp only [objectType] at h
                      split at h <;> cases h
      | _ => cases hschema

/-- The text generated for an accepted schema is one type; every value that the schema accepts has
it, and data that has it is refused for a range or a length only. -/
theorem generated_type_sound (schema : Value) (path indent : Text)
    (hindent : ∀ u ∈ indent, isBlank u) (h : validateSchemaDefinition schema path = []) :
    ∃ type, readType (renderType schema indent) = some type ∧
      (∀ value, validateValue schema value = none → ∀ fresh, has fresh type value) ∧
      ∀ value, isJsonValue value → has true type value →
        ∀ issue ∈ validateValue schema value, IsRuntimeCheck issue := by
  have hschema := renderable_of_accepted h
  refine ⟨typeAt maxNestingDepth schema indent, (reads_renderAt hschema hindent).1.readType, ?_, ?_⟩
  · exact fun value haccepted fresh => has_of_validateAt haccepted fresh indent
  · exact fun value hjson hhas => checked_of_has hschema hjson hhas (units "$")

theorem generated_type_sound_tagged :
    ∃ type, readType (renderType taggedSchema []) = some type ∧
      (∀ value, validateValue taggedSchema value = none → ∀ fresh, has fresh type value) ∧
      ∀ value, isJsonValue value → has true type value →
        ∀ issue ∈ validateValue taggedSchema value, IsRuntimeCheck issue :=
  generated_type_sound taggedSchema [] [] (fun _ h => absurd h List.not_mem_nil)
    (by decide +kernel)

example : renderType taggedSchema [] =
    units ("\x7b\n  /** minLength 2 */\n  name: string;\n" ++
      "  /** maxItems 2 */\n  tags?: number[];\n\x7d") := by
  decide +kernel

end StreamOtter.Generation
