import StreamOtter.TypeExpressions

/-!
# Type declarations

Files of TypeScript that import types, name types and hold constants: how their tokens are read,
one declaration after the other, and which declarations a text is.
-/

namespace TypeScript

open Ecma

/-! ## Files -/

/-- A constant is told by the type that it has `as const`. -/
inductive Declaration
  | imported (names : List Text) (source : Text)
  | typeAlias (name : Text) (type : TypeExpr)
  | constant (name : Text) (type : TypeExpr)

/-- What is read of a declaration so far. -/
inductive Statement
  | start
  | importing
  | importOpen
  | importName (names : List Text)
  | importNext (names : List Text)
  | importFrom (names : List Text)
  | importSource (names : List Text)
  | importEnd (names : List Text) (source : Text)
  | exporting
  | name (constant : Bool)
  | equals (constant : Bool) (name : Text)
  | type (constant : Bool) (name : Text) (position : Position) (frames : List Frame)
  | asConst (name : Text) (type : TypeExpr)
  | constEnd (name : Text) (type : TypeExpr)

/-- A token of a declaration, but for those of its type. -/
def declare (statement : Statement) (token : Token) : Option (List Declaration × Statement) :=
  match statement, token with
  | .start, .word word =>
      if word = units "import" then some ([], .importing)
      else if word = units "export" then some ([], .exporting)
      else none
  | .importing, .word word => if word = units "type" then some ([], .importOpen) else none
  | .importOpen, .mark c => if c = '\x7b' then some ([], .importName []) else none
  | .importName names, .word name => some ([], .importNext (names ++ [name]))
  | .importNext names, .mark c =>
      if c = ',' then some ([], .importName names)
      else if c = '\x7d' then some ([], .importFrom names)
      else none
  | .importFrom names, .word word =>
      if word = units "from" then some ([], .importSource names) else none
  | .importSource names, .quote source => some ([], .importEnd names source)
  | .importEnd names source, .mark c =>
      if c = ';' then some ([.imported names source], .start) else none
  | .exporting, .word word =>
      if word = units "type" then some ([], .name false)
      else if word = units "const" then some ([], .name true)
      else none
  | .name constant, .word name => some ([], .equals constant name)
  | .equals constant name, .mark c =>
      if c = '=' then some ([], .type constant name (.operand none) []) else none
  | .asConst name type, .word word =>
      if word = units "const" then some ([], .constEnd name type) else none
  | .constEnd name type, .mark c =>
      if c = ';' then some ([.constant name type], .start) else none
  | _, _ => none

/-- A token after the type of a declaration. -/
def endType (constant : Bool) (name : Text) (position : Position) (frames : List Frame)
    (token : Token) : Option (List Declaration × Statement) :=
  match position, frames, token with
  | .after left type, [], .mark c =>
      if c = ';' ∧ !constant then some ([.typeAlias name (joined left type)], .start) else none
  | .after left type, [], .word word =>
      if constant && word = units "as" then some ([], .asConst name (joined left type)) else none
  | _, _, _ => none

def nextStatement (statement : Statement) (token : Token) : Option (List Declaration × Statement) :=
  match statement with
  | .type constant name position frames =>
      match shift position frames token with
      | some (position, frames) => some ([], .type constant name position frames)
      | none => endType constant name position frames token
  | statement => declare statement token

def statements : Statement → List Token → Option (List Declaration × Statement)
  | statement, [] => some ([], statement)
  | statement, token :: rest =>
      match nextStatement statement token with
      | none => none
      | some (done, next) =>
          (statements next rest).map fun read => (done ++ read.1, read.2)

/-- The declarations that a text is, if it is a file of them. -/
def readDeclarations (text : Text) : Option (List Declaration) :=
  match (tokens text).bind (statements .start) with
  | some (declarations, .start) => some declarations
  | _ => none

/-- The type of a name that is declared in a file. -/
def aliasOf (declarations : List Declaration) (name : Text) : Option TypeExpr :=
  match declarations with
  | [] => none
  | .typeAlias other type :: rest => if other = name then some type else aliasOf rest name
  | _ :: rest => aliasOf rest name

/-- The names that a file imports or declares. -/
def namesOf : Declaration → List Text
  | .imported names _ => names
  | .typeAlias name _ | .constant name _ => [name]

/-! ## Files in parts -/

variable {a b text : Text} {ts us : List Token} {e : TypeExpr}

theorem statements_append (statement : Statement) (ts us : List Token) :
    statements statement (ts ++ us) =
      (statements statement ts).bind fun read =>
        (statements read.2 us).map fun read' => (read.1 ++ read'.1, read'.2) := by
  induction ts generalizing statement with
  | nil => simp [statements]
  | cons token rest ih =>
      rw [List.cons_append, statements, statements]
      cases hnext : nextStatement statement token with
      | none => rfl
      | some read =>
          dsimp only
          rw [ih]
          cases hrest : statements read.2 rest with
          | none => rfl
          | some read' => cases hus : statements read'.2 us <;> simp [hus]

/-- The tokens of a type are read as such. -/
theorem statements_type (constant : Bool) (name : Text) {position position' : Position}
    {frames frames' : List Frame} (h : shifts position frames ts = some (position', frames')) :
    statements (.type constant name position frames) ts =
      some ([], .type constant name position' frames') := by
  induction ts generalizing position frames with
  | nil =>
      obtain ⟨rfl, rfl⟩ := Prod.mk.inj (Option.some.inj h)
      rfl
  | cons token rest ih =>
      rw [shifts] at h
      cases hshift : shift position frames token with
      | none =>
          rw [hshift] at h
          cases h
      | some read =>
          rw [hshift] at h
          have hnext : nextStatement (.type constant name position frames) token =
              some ([], .type constant name read.1 read.2) := by
            rw [nextStatement, hshift]
          rw [statements, hnext]
          dsimp only
          rw [ih h]
          rfl

@[simp] theorem aliasOf_imported (names : List Text) (source : Text) (rest : List Declaration)
    (name : Text) : aliasOf (.imported names source :: rest) name = aliasOf rest name := rfl

theorem aliasOf_append (a b : List Declaration) (name : Text) :
    aliasOf (a ++ b) name = (aliasOf a name).or (aliasOf b name) := by
  induction a with
  | nil => rfl
  | cons declaration rest ih =>
      cases declaration with
      | typeAlias other type =>
          rw [List.cons_append, aliasOf, aliasOf, ih]
          split <;> rfl
      | imported | constant => exact ih

/-- The types of distinct names are found. -/
theorem aliasOf_map {ids : List Text} {name : Text → Text} (type : Text → TypeExpr) {id : Text}
    (hid : id ∈ ids) (hown : ∀ id' ∈ ids, name id' = name id → id' = id) :
    aliasOf (ids.map fun id => .typeAlias (name id) (type id)) (name id) = some (type id) := by
  induction ids with
  | nil => cases hid
  | cons other rest ih =>
      rw [List.map_cons, aliasOf]
      by_cases hname : name other = name id
      · obtain rfl := hown other List.mem_cons_self hname
        exact if_pos rfl
      · rw [if_neg hname]
        refine ih ?_ fun id' hid' => hown id' (List.mem_cons_of_mem _ hid')
        rcases List.mem_cons.mp hid with rfl | hmem
        · exact absurd rfl hname
        · exact hmem

theorem aliasOf_map_none {ids : List Text} {name : Text → Text} (type : Text → TypeExpr)
    {other : Text} (h : ∀ id ∈ ids, name id ≠ other) :
    aliasOf (ids.map fun id => .typeAlias (name id) (type id)) other = none := by
  induction ids with
  | nil => rfl
  | cons id rest ih =>
      rw [List.map_cons, aliasOf, if_neg (h id List.mem_cons_self)]
      exact ih fun id hid => h id (List.mem_cons_of_mem _ hid)

/-- A text that is some declarations of a file. -/
def Declares (text : Text) (declarations : List Declaration) : Prop :=
  ∃ ts, Closed text ts ∧ statements .start ts = some (declarations, .start)

theorem Declares.readDeclarations {declarations : List Declaration}
    (h : Declares text declarations) :
    readDeclarations text = some declarations := by
  obtain ⟨ts, hclosed, hstatements⟩ := h
  rw [TypeScript.readDeclarations, hclosed.written.tokens]
  simp [hstatements]

theorem Declares.append {declarations declarations' : List Declaration}
    (h : Declares a declarations) (h' : Declares b declarations') :
    Declares (a ++ b) (declarations ++ declarations') := by
  obtain ⟨ts, hclosed, hstatements⟩ := h
  obtain ⟨us, hclosed', hstatements'⟩ := h'
  refine ⟨ts ++ us, hclosed.append hclosed', ?_⟩
  rw [statements_append, hstatements]
  simp [hstatements']

theorem declares_flatMap {text : Text → Text} {declaration : Text → Declaration} {names : List Text}
    (h : ∀ name ∈ names, Declares (text name) [declaration name]) :
    Declares (names.flatMap text) (names.map declaration) := by
  induction names with
  | nil => exact ⟨[], rfl, rfl⟩
  | cons name rest ih =>
      rw [List.flatMap_cons, List.map_cons]
      exact (h name List.mem_cons_self).append
        (ih fun name hmem => h name (List.mem_cons_of_mem _ hmem))

theorem declares_passed (h : Closed text []) : Declares text [] := ⟨[], h, rfl⟩

/-- The declaration of a type. -/
theorem declares_alias {name : Text} (hname : Written name [.word name]) (h : Reads text e) :
    Declares (units "export type " ++ (name ++ (units " = " ++ (text ++ units ";"))))
      [.typeAlias name e] := by
  obtain ⟨ts, hwritten, halternatives⟩ := h
  obtain ⟨left, type, hshifts, rfl⟩ := halternatives []
  have hexport : Closed (units "export type ") [.word (units "export"), .word (units "type")] := rfl
  have hequals : Closed (units " = ") [.mark '='] := rfl
  have hend : Closed (text ++ units ";") (ts ++ [.mark ';']) :=
    hwritten.close (show Closed (units ";") [.mark ';'] from rfl) (by decide)
  refine ⟨_, hexport.append (hname.close (hequals.append hend) (by decide)), ?_⟩
  have hbegin : statements .start
      ([.word (units "export"), .word (units "type")] ++ ([.word name] ++ [.mark '='])) =
        some ([], .type false name (.operand none) []) := rfl
  have hlast : statements (.type false name (.after left type) []) [.mark ';'] =
      some ([.typeAlias name (joined left type)], .start) := rfl
  rw [← List.append_assoc [_] [_], ← List.append_assoc, statements_append, hbegin]
  dsimp only [Option.bind_some]
  rw [statements_append, statements_type false name hshifts]
  dsimp only [Option.bind_some]
  rw [hlast]
  rfl

/-- The declaration of a constant. -/
theorem declares_constant {name : Text} (hname : Written name [.word name])
    (h : ReadsOperand text e) :
    Declares (units "export const " ++ (name ++ (units " = " ++ (text ++ units " as const;"))))
      [.constant name e] := by
  obtain ⟨ts, hwritten, hoperand⟩ := h
  have hexport : Closed (units "export const ") [.word (units "export"), .word (units "const")] :=
    rfl
  have hequals : Closed (units " = ") [.mark '='] := rfl
  have hconst : Closed (units " as const;")
      [.word (units "as"), .word (units "const"), .mark ';'] := rfl
  have hend := hwritten.close hconst (by decide)
  refine ⟨_, hexport.append (hname.close (hequals.append hend) (by decide)), ?_⟩
  have hbegin : statements .start
      ([.word (units "export"), .word (units "const")] ++ ([.word name] ++ [.mark '='])) =
        some ([], .type true name (.operand none) []) := rfl
  have hlast : statements (.type true name (.after none e) [])
      [.word (units "as"), .word (units "const"), .mark ';'] =
        some ([.constant name e], .start) := rfl
  rw [← List.append_assoc [_] [_], ← List.append_assoc, statements_append, hbegin]
  dsimp only [Option.bind_some]
  rw [statements_append, statements_type true name (hoperand none [])]
  dsimp only [Option.bind_some]
  rw [hlast]
  rfl

end TypeScript
