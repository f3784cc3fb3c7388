import StreamOtter.ConfigInput

/-!
# Schemas in a configuration

A translation of `validateSchemaDefinition` and `validateParamsSchema` over values as they are
handed over: the checks of an array's items skip holes, and its length and its set of items
count them.  What the schema check accepts has the shape of JSON data, and it is accepted when
it is read back, too.
-/

namespace StreamOtter.Configuration

open Ecma Input
open Contracts (isSafeInteger lessThan codePointLength pointer quotedIn SchemaType)

/-! ## Issues -/

inductive Code
  | unsupportedFeature | unknownKey | required | invalidType | invalidIdentifier | invalidValue
  | duplicate | unknownReference | consumerGroupConflict | multipleConnections
  | handlersRefMismatch | inconsistentLimits | schemaDepthExceeded | schemaUnsupportedType
  | schemaUnsupportedKeyword | invalidParamsSchema
  deriving DecidableEq, Repr

structure Issue where
  path : Text
  code : Code
  message : Text
  deriving DecidableEq, Repr

/-- One issue where a check fails. -/
def issueIf (failed : Bool) (path : Text) (code : Code) (message : Text) : List Issue :=
  if failed then [⟨path, code, message⟩] else []

@[simp] theorem issueIf_eq_nil {failed : Bool} {path message : Text} {code : Code} :
    issueIf failed path code message = [] ↔ failed = false := by
  cases failed <;> simp [issueIf]

/-! ## What checks read -/

namespace Input

/-- `SameValueZero` of values that are not objects; no two objects are the same. -/
def same : Input → Input → Bool
  | .null, .null => true
  | .boolean a, .boolean b => a = b
  | .string a, .string b => a = b
  | .number (.finite x), .number (.finite y) => x.toRat = y.toRat
  | .number (.infinity a), .number (.infinity b) => a = b
  | .number .nan, .number .nan => true
  | v, w => v.isUndefined && w.isUndefined

/-- `new Set(items).size`. -/
def setSize (items : List Input) : ℕ :=
  (items.foldl (fun seen item => if seen.any (same item) then seen else seen ++ [item]) []).length

end Input

def nonNegativeSafeInteger (value : Input) : Option ℕ :=
  match value.asNumber with
  | some (.finite x) =>
      if isSafeInteger (.finite x) && 0 ≤ x.toRat then some x.toRat.num.toNat else none
  | _ => none

/-! ## Definitions of schemas -/

def keywordIssues (type : SchemaType) (fields : Fields) (path : Text) : List Issue :=
  ((ownKeys fields).filter fun key => !type.keywords.contains key).map fun key =>
    ⟨pointer path key, .schemaUnsupportedKeyword,
      quotedIn [] key (units " is not supported for " ++ type.name ++ units " schemas in V1.")⟩

def outOfBounds (minLength maxLength : Input) (item : Input) : Bool :=
  item.asText.any fun text =>
    (nonNegativeSafeInteger minLength).any (fun bound => codePointLength text < bound) ||
      (nonNegativeSafeInteger maxLength).any fun bound => bound < codePointLength text

def enumIssues (minLength maxLength values : Input) (path : Text) : List Issue :=
  let path := pointer path (units "enum")
  let notStrings : List Issue :=
    [⟨path, .invalidValue, units "enum must be a non-empty array of strings."⟩]
  match values with
  | .undefined | .hole => []
  | .array items =>
      if items.isEmpty || !items.all fun item => item.isHole || item.isString then notStrings
      else if setSize items ≠ items.length then
        [⟨path, .invalidValue, units "enum values must be unique."⟩]
      else
        issueIf (items.any (outOfBounds minLength maxLength)) path .invalidValue
          (units "Every enum value must satisfy minLength and maxLength.")
  | _ => notStrings

def stringIssues (fields : Fields) (path : Text) : List Issue :=
  let minLength := property fields (units "minLength")
  let maxLength := property fields (units "maxLength")
  let notLength (value : Input) : Bool :=
    !value.isUndefined && (nonNegativeSafeInteger value).isNone
  let reversed : Bool :=
    (nonNegativeSafeInteger minLength).any fun low =>
      (nonNegativeSafeInteger maxLength).any fun high => high < low
  issueIf (notLength minLength) (pointer path (units "minLength")) .invalidValue
      (units "minLength must be a non-negative integer.") ++
    (issueIf (notLength maxLength) (pointer path (units "maxLength")) .invalidValue
      (units "maxLength must be a non-negative integer.") ++
    (issueIf reversed (pointer path (units "minLength")) .invalidValue
      (units "minLength must not exceed maxLength.") ++
    enumIssues minLength maxLength (property fields (units "enum")) path))

/-- Whether a bound is a number of the schema's type. -/
def isBound (integer : Bool) (bound : Input) : Bool :=
  match bound.asNumber with
  | some (.finite x) => !integer || isSafeInteger (.finite x)
  | _ => false

def boundIssues (integer : Bool) (key : Text) (bound : Input) (path : Text) : List Issue :=
  issueIf (!bound.isUndefined && !isBound integer bound) (pointer path key) .invalidValue
    (key ++ units " must be a finite " ++ units (if integer then "safe integer" else "number") ++
      units ".")

def reversedBounds (minimum maximum : Input) : Bool :=
  minimum.asNumber.any fun low => maximum.asNumber.any fun high => lessThan high low

def numberIssues (integer : Bool) (fields : Fields) (path : Text) : List Issue :=
  let minimum := property fields (units "minimum")
  let maximum := property fields (units "maximum")
  boundIssues integer (units "minimum") minimum path ++
    (boundIssues integer (units "maximum") maximum path ++
    issueIf (reversedBounds minimum maximum) (pointer path (units "minimum")) .invalidValue
      (units "minimum must not exceed maximum."))

/-- The name that an item of `required` is looked up by. -/
def requiredName : Input → Text
  | .string text => text
  | _ => units "undefined"

def requiredIssues (properties required : Input) (path : Text) : List Issue :=
  let path := pointer path (units "required")
  let notNames : List Issue :=
    [⟨path, .required, units "Objects require a required array of property names."⟩]
  match required with
  | .array items =>
      if !items.all fun item => item.isHole || item.isString then notNames
      else
        issueIf (setSize items ≠ items.length) path .invalidValue
            (units "required names must be unique.") ++
          match properties with
          | .object true children =>
              ((items.map requiredName).filter fun name => !hasOwn children name).map fun name =>
                ⟨path, .unknownReference,
                  quotedIn (units "required property ") name
                    (units " is not declared in properties.")⟩
          | _ => []
  | _ => notNames

/-- The type of a schema, if it is one of the dialect's. -/
def typeOf (fields : Fields) : Option SchemaType :=
  (property fields (units "type")).asText.bind SchemaType.ofName

def arrayIssues (check : Input → Text → List Issue) (fields : Fields) (path : Text) : List Issue :=
  let items := property fields (units "items")
  issueIf (nonNegativeSafeInteger (property fields (units "maxItems"))).isNone
      (pointer path (units "maxItems")) .required
      (units "Arrays require a non-negative integer maxItems bound.") ++
    if items.isUndefined then
      [⟨pointer path (units "items"), .required, units "Arrays require an items schema."⟩]
    else check items (pointer path (units "items"))

def propertiesIssues (check : Input → Text → List Issue) (properties : Input) (path : Text) :
    List Issue :=
  let path := pointer path (units "properties")
  match properties with
  | .object true children =>
      (ownKeys children).flatMap fun name => check (property children name) (pointer path name)
  | _ => [⟨path, .required, units "Objects require a properties map."⟩]

def objectIssues (check : Input → Text → List Issue) (fields : Fields) (path : Text) : List Issue :=
  let properties := property fields (units "properties")
  issueIf ((property fields (units "additionalProperties")).asBoolean ≠ some false)
      (pointer path (units "additionalProperties")) .required
      (units "Objects must declare additionalProperties: false.") ++
    (propertiesIssues check properties path ++
    requiredIssues properties (property fields (units "required")) path)

/-- `validateSchemaDefinition`, by the nesting still allowed: the issues it adds. -/
def schemaIssues : ℕ → Input → Text → List Issue
  | 0, _, path => [⟨path, .schemaDepthExceeded, units "Schemas may nest at most 16 levels."⟩]
  | allowed + 1, .object true fields, path =>
      match typeOf fields with
      | none =>
          [⟨pointer path (units "type"), .schemaUnsupportedType,
            units ("type must be one of string, number, integer, boolean, null, array, " ++
              "or object (unions are not supported in V1).")⟩]
      | some type =>
          keywordIssues type fields path ++
            match type with
            | .string => stringIssues fields path
            | .number => numberIssues false fields path
            | .integer => numberIssues true fields path
            | .boolean | .null => []
            | .array => arrayIssues (schemaIssues allowed) fields path
            | .object => objectIssues (schemaIssues allowed) fields path
  | _ + 1, _, path => [⟨path, .invalidType, units "A schema must be an object."⟩]

def validateSchemaDefinition (schema : Input) (path : Text) : List Issue :=
  schemaIssues maxNestingDepth schema path

/-- The type that a parameter's schema names. -/
def parameterType : Input → Option Text
  | .object _ fields => (property fields (units "type")).asText
  | _ => none

/-- A parameter's schema: its type and whether it is required. -/
def parameterIssues (required : Input) (child : Input) (name path : Text) : List Issue :=
  let listed : Bool :=
    match required with
    | .array items => items.any fun item => item.asText = some name
    | _ => false
  if child.isUndefined then []
  else
    issueIf (!([units "string", units "boolean", units "integer"].any fun type =>
        parameterType child = some type)) path .invalidParamsSchema
        (units "Parameters may only be strings, booleans, or integers in V1.") ++
      issueIf (!listed) path .invalidParamsSchema
        (units "Every parameter must be required; optional parameters are not supported in V1.")

/-- `validateParamsSchema`, of a schema that `validateSchemaDefinition` accepted. -/
def paramsSchemaIssues (schema : Input) (path : Text) : List Issue :=
  if parameterType schema ≠ some (units "object") then
    [⟨path, .invalidParamsSchema, units "Parameter schemas must be objects."⟩]
  else
    match schema with
    | .object _ fields =>
        match property fields (units "properties") with
        | .object _ children =>
            (ownKeys children).flatMap fun name =>
              parameterIssues (property fields (units "required")) (property children name) name
                (pointer (pointer path (units "properties")) name)
        | _ => []
    | _ => []

/-! ## What is accepted -/

section Accepted

variable {depth : ℕ} {fields : Fields} {v : Input} {path : Text}

theorem isSafeInteger_backNumber (n : JsNumber) : isSafeInteger (backNumber n) = isSafeInteger n := by
  cases n with
  | finite x => simp [isSafeInteger]
  | _ => rfl

theorem lessThan_backNumber (m n : JsNumber) :
    lessThan (backNumber m) (backNumber n) = lessThan m n := by
  cases m with
  | finite x =>
      cases n with
      | finite y => simp [lessThan]
      | nan => rfl
      | infinity negative => cases negative <;> rfl
  | nan => cases n <;> rfl
  | infinity negative => cases negative <;> cases n <;> rfl

@[simp] theorem nonNegativeSafeInteger_readBack (depth : ℕ) (v : Input) :
    nonNegativeSafeInteger (readBack depth v) = nonNegativeSafeInteger v := by
  unfold nonNegativeSafeInteger
  rw [asNumber_readBack]
  cases v.asNumber with
  | none => rfl
  | some n =>
      cases n with
      | finite x =>
          have hsafe := isSafeInteger_backNumber (.finite x)
          rw [backNumber_finite] at hsafe
          simp only [Option.map_some, backNumber_finite, hsafe, toRat_normalized]
      | _ => rfl

@[simp] theorem isBound_readBack (integer : Bool) (depth : ℕ) (v : Input) :
    isBound integer (readBack depth v) = isBound integer v := by
  unfold isBound
  rw [asNumber_readBack]
  cases v.asNumber with
  | none => rfl
  | some n =>
      cases n with
      | finite x =>
          have hsafe := isSafeInteger_backNumber (.finite x)
          rw [backNumber_finite] at hsafe
          simp only [Option.map_some, backNumber_finite, hsafe]
      | _ => rfl

@[simp] theorem reversedBounds_readBack (depth : ℕ) (v w : Input) :
    reversedBounds (readBack depth v) (readBack depth w) = reversedBounds v w := by
  unfold reversedBounds
  rw [asNumber_readBack, asNumber_readBack]
  cases v.asNumber with
  | none => rfl
  | some m =>
      cases w.asNumber with
      | none => rfl
      | some n => simp [lessThan_backNumber]

@[simp] theorem typeOf_backFields (depth : ℕ) (fields : Fields) :
    typeOf (backFields depth fields) = typeOf fields := by
  simp [typeOf]

theorem keywordIssues_eq_nil {type : SchemaType} :
    keywordIssues type fields path = [] ↔
      ∀ name, hasOwn fields name → name ∈ type.keywords := by
  simp [keywordIssues, List.filter_eq_nil_iff, mem_ownKeys]

theorem hasOwn_of_backFields {name : Text} (h : hasOwn (backFields depth fields) name) :
    hasOwn fields name := by
  rw [hasOwn_backFields, Bool.not_eq_true'] at h
  exact hasOwn_of_defined h

theorem keywordIssues_backFields {type : SchemaType} (h : keywordIssues type fields path = []) :
    keywordIssues type (backFields depth fields) path = [] := by
  rw [keywordIssues_eq_nil] at h ⊢
  exact fun name hname => h name (hasOwn_of_backFields hname)

theorem shaped_nonNegative (h : (nonNegativeSafeInteger v).isSome) : shaped (depth + 1) v := by
  unfold nonNegativeSafeInteger at h
  cases hnumber : v.asNumber with
  | none => simp [hnumber] at h
  | some n =>
      cases n with
      | finite x => exact shaped_number hnumber
      | _ => simp [hnumber] at h

theorem shaped_bound {integer : Bool} (h : isBound integer v) : shaped (depth + 1) v := by
  unfold isBound at h
  cases hnumber : v.asNumber with
  | none => simp [hnumber] at h
  | some n =>
      cases n with
      | finite x => exact shaped_number hnumber
      | _ => simp [hnumber] at h

/-- An accepted `enum` is an array of strings and holes. -/
theorem enumIssues_items {minLength maxLength : Input}
    (h : enumIssues minLength maxLength v path = []) :
    v.isUndefined ∨ ∃ items, v = .array items ∧
      ∀ item ∈ items, item.isHole || item.isString := by
  cases v with
  | undefined => exact .inl rfl
  | hole => exact .inl rfl
  | array items =>
      right
      refine ⟨items, rfl, ?_⟩
      unfold enumIssues at h
      dsimp only at h
      split at h
      · cases h
      · case isFalse hitems =>
          simp only [Bool.or_eq_true, not_or, Bool.not_eq_true', Bool.not_eq_false] at hitems
          exact List.all_eq_true.mp hitems.2
  | _ => cases h

theorem enumIssues_readBack {minLength maxLength : Input}
    (h : enumIssues minLength maxLength v path = []) (hdense : dense depth v) :
    enumIssues (readBack depth minLength) (readBack depth maxLength) (readBack depth v) path =
      [] := by
  have hbounds : outOfBounds (readBack depth minLength) (readBack depth maxLength) =
      outOfBounds minLength maxLength := by
    funext item
    simp [outOfBounds]
  rcases enumIssues_items h with hundefined | ⟨items, rfl, hitems⟩
  · cases v with
    | undefined => cases depth <;> rfl
    | hole => cases depth <;> rfl
    | _ => cases hundefined
  · rw [readBack_strings hitems hdense]
    unfold enumIssues at h ⊢
    dsimp only at h ⊢
    rw [hbounds]
    exact h

/-- An accepted `required` is an array of strings and holes. -/
theorem requiredIssues_items {properties : Input} (h : requiredIssues properties v path = []) :
    ∃ items, v = .array items ∧ ∀ item ∈ items, item.isHole || item.isString := by
  cases v with
  | array items =>
      refine ⟨items, rfl, ?_⟩
      unfold requiredIssues at h
      dsimp only at h
      split at h
      · cases h
      · case isFalse hitems =>
          simp only [Bool.not_eq_true', Bool.not_eq_false] at hitems
          exact List.all_eq_true.mp hitems
  | _ => cases h

theorem requiredIssues_readBack {children : Fields}
    (h : requiredIssues (.object true children) v path = []) (hdense : dense depth v)
    (hchildren : ∀ name, hasOwn children name → (property children name).isUndefined = false)
    (depth' : ℕ) :
    requiredIssues (.object true (backFields depth' children)) (readBack depth v) path = [] := by
  obtain ⟨items, rfl, hitems⟩ := requiredIssues_items h
  rw [readBack_strings hitems hdense]
  have howned : hasOwn (backFields depth' children) = hasOwn children := by
    funext name
    rw [hasOwn_backFields]
    cases hown : hasOwn children name with
    | true => simp [hchildren name hown]
    | false =>
        cases hundefined : (property children name).isUndefined with
        | true => rfl
        | false =>
            rw [hasOwn_of_defined hundefined] at hown
            cases hown
  unfold requiredIssues at h ⊢
  dsimp only at h ⊢
  rw [howned]
  exact h

/-- An array of strings or an undefined value, where a schema may have them. -/
theorem shaped_enum {minLength maxLength : Input}
    (h : enumIssues minLength maxLength v path = []) :
    v.isUndefined ∨ shaped (depth + 2) v := by
  rcases enumIssues_items h with hundefined | ⟨items, rfl, hitems⟩
  · exact .inl hundefined
  · exact .inr (shaped_strings hitems)

/-- What a schema's check accepts where it is plain, with its type. -/
theorem schemaIssues_eq_nil {allowed : ℕ} (h : schemaIssues (allowed + 1) v path = []) :
    ∃ fields type, v = .object true fields ∧ typeOf fields = some type ∧
      keywordIssues type fields path = [] := by
  cases v with
  | object plain fields =>
      cases plain with
      | false => cases h
      | true =>
          rw [schemaIssues] at h
          cases htype : typeOf fields with
          | none =>
              rw [htype] at h
              cases h
          | some type =>
              rw [htype] at h
              exact ⟨fields, type, rfl, htype, (List.append_eq_nil_iff.mp h).1⟩
  | _ => cases h

/-- An accepted schema is not undefined. -/
theorem isUndefined_of_schemaIssues {allowed : ℕ} (h : schemaIssues allowed v path = []) :
    v.isUndefined = false := by
  cases allowed with
  | zero => cases h
  | succ allowed =>
      obtain ⟨fields, type, rfl, -, -⟩ := schemaIssues_eq_nil h
      rfl

/-- The properties of an accepted object's schema. -/
theorem propertiesIssues_eq_nil {check : Input → Text → List Issue}
    (h : propertiesIssues check v path = []) :
    ∃ children, v = .object true children ∧ ∀ name, hasOwn children name →
      check (property children name) (pointer (pointer path (units "properties")) name) = [] := by
  cases v with
  | object plain children =>
      cases plain with
      | false => cases h
      | true =>
          refine ⟨children, rfl, ?_⟩
          intro name hname
          exact List.flatMap_eq_nil_iff.mp h name (mem_ownKeys.mpr hname)
  | _ => cases h

theorem typeOf_text {type : SchemaType} (h : typeOf fields = some type) :
    ∃ text, (property fields (units "type")).asText = some text := by
  unfold typeOf at h
  cases htext : (property fields (units "type")).asText with
  | none => simp [htext] at h
  | some text => exact ⟨text, rfl⟩

theorem shaped_length (h : (!v.isUndefined && (nonNegativeSafeInteger v).isNone) = false) :
    v.isUndefined ∨ shaped (depth + 1) v := by
  cases hundefined : v.isUndefined with
  | true => exact .inl rfl
  | false =>
      rw [hundefined, Bool.not_false, Bool.true_and, Option.isNone_eq_false_iff] at h
      exact .inr (shaped_nonNegative h)

theorem shaped_limit {integer : Bool} {key : Text} (h : boundIssues integer key v path = []) :
    v.isUndefined ∨ shaped (depth + 1) v := by
  rw [boundIssues, issueIf_eq_nil] at h
  cases hundefined : v.isUndefined with
  | true => exact .inl rfl
  | false =>
      rw [hundefined, Bool.not_false, Bool.true_and, Bool.not_eq_false'] at h
      exact .inr (shaped_bound h)

/-- An accepted schema has the shape, with two levels for each level of nesting allowed. -/
theorem shaped_schema {allowed : ℕ} (h : schemaIssues allowed v path = []) :
    shaped (2 * allowed + 1) v := by
  induction allowed generalizing v path with
  | zero => cases h
  | succ allowed ih =>
      obtain ⟨fields, type, rfl, htype, hkeywords⟩ := schemaIssues_eq_nil h
      rw [keywordIssues_eq_nil] at hkeywords
      apply shaped_object hkeywords
      have htext : (property fields (units "type")).isUndefined ∨
          shaped (2 * (allowed + 1)) (property fields (units "type")) := by
        obtain ⟨text, htext⟩ := typeOf_text htype
        exact .inr (shaped_text htext)
      rw [schemaIssues, htype] at h
      have hrest := (List.append_eq_nil_iff.mp h).2
      cases type with
      | string =>
          simp only [stringIssues, List.append_eq_nil_iff, issueIf_eq_nil] at hrest
          obtain ⟨hmin, hmax, -, henum⟩ := hrest
          simp only [SchemaType.keywords, List.Forall]
          exact ⟨htext, shaped_length hmin, shaped_length hmax, shaped_enum henum⟩
      | number =>
          simp only [numberIssues, List.append_eq_nil_iff] at hrest
          simp only [SchemaType.keywords, List.Forall]
          exact ⟨htext, shaped_limit hrest.1, shaped_limit hrest.2.1⟩
      | integer =>
          simp only [numberIssues, List.append_eq_nil_iff] at hrest
          simp only [SchemaType.keywords, List.Forall]
          exact ⟨htext, shaped_limit hrest.1, shaped_limit hrest.2.1⟩
      | boolean =>
          simp only [SchemaType.keywords, List.Forall]
          exact htext
      | null =>
          simp only [SchemaType.keywords, List.Forall]
          exact htext
      | array =>
          simp only [arrayIssues, List.append_eq_nil_iff, issueIf_eq_nil] at hrest
          obtain ⟨hmax, hitems⟩ := hrest
          simp only [SchemaType.keywords, List.Forall]
          refine ⟨htext, ?_, .inr (shaped_nonNegative (by simpa using hmax))⟩
          split at hitems
          · cases hitems
          · exact .inr (shaped_mono (by omega) (ih hitems))
      | object =>
          simp only [objectIssues, List.append_eq_nil_iff, issueIf_eq_nil] at hrest
          obtain ⟨hadditional, hproperties, hrequired⟩ := hrest
          simp only [SchemaType.keywords, List.Forall]
          refine ⟨htext, .inr ?_, .inr ?_, .inr ?_⟩
          · obtain ⟨children, hchildren, hchecks⟩ := propertiesIssues_eq_nil hproperties
            rw [hchildren]
            show shaped (2 * allowed + 1 + 1) (.object true children) = true
            rw [shaped, Bool.true_and, List.all_eq_true]
            intro name hname
            rw [ih (hchecks name (mem_ownKeys.mp hname)), Bool.or_true]
          · obtain ⟨items, hitems, hstrings⟩ := requiredIssues_items hrequired
            rw [hitems]
            exact shaped_strings hstrings
          · rw [decide_eq_false_iff_not, not_not] at hadditional
            exact shaped_boolean hadditional

theorem defined_of_schemas {allowed : ℕ}
    (h : propertiesIssues (schemaIssues allowed) (.object true fields) path = []) (name : Text)
    (hname : hasOwn fields name) : (property fields name).isUndefined = false := by
  obtain ⟨children, hchildren, hchecks⟩ := propertiesIssues_eq_nil h
  obtain rfl := (Input.object.inj hchildren).2
  exact isUndefined_of_schemaIssues (hchecks name hname)

/-- A map of values that one check accepts is accepted when it is read back. -/
theorem propertiesIssues_readBack {check : Input → Text → List Issue}
    (h : propertiesIssues check v path = []) (hdense : dense depth v)
    (hcheck : ∀ (d : ℕ) (w : Input) (path : Text), check w path = [] → dense d w →
      check (readBack d w) path = []) :
    propertiesIssues check (readBack depth v) path = [] := by
  obtain ⟨children, rfl, hchecks⟩ := propertiesIssues_eq_nil h
  cases depth with
  | zero => exact h
  | succ depth =>
      show propertiesIssues check (.object true (backFields depth children)) path = []
      rw [propertiesIssues, List.flatMap_eq_nil_iff]
      intro name hname
      rw [property_backFields]
      exact hcheck depth _ _ (hchecks name (hasOwn_of_backFields (mem_ownKeys.mp hname)))
        (dense_property hdense name)

theorem objectIssues_backFields {allowed : ℕ}
    (h : objectIssues (schemaIssues allowed) fields path = [])
    (hdense : ∀ name, dense depth (property fields name))
    (hcheck : ∀ (d : ℕ) (w : Input) (path : Text), schemaIssues allowed w path = [] →
      dense d w → schemaIssues allowed (readBack d w) path = []) :
    objectIssues (schemaIssues allowed) (backFields depth fields) path = [] := by
  simp only [objectIssues, List.append_eq_nil_iff, issueIf_eq_nil] at h ⊢
  obtain ⟨hadditional, hproperties, hrequired⟩ := h
  simp only [property_backFields, asBoolean_readBack]
  refine ⟨hadditional, propertiesIssues_readBack hproperties (hdense _) hcheck, ?_⟩
  obtain ⟨children, hchildren, -⟩ := propertiesIssues_eq_nil hproperties
  rw [hchildren] at hproperties hrequired ⊢
  cases depth with
  | zero =>
      obtain ⟨items, hitems, -⟩ := requiredIssues_items hrequired
      rw [hitems] at hrequired ⊢
      exact hrequired
  | succ depth =>
      exact requiredIssues_readBack hrequired (hdense _) (defined_of_schemas hproperties) depth

/-- An accepted schema without holes is accepted when it is read back. -/
theorem schemaIssues_readBack {allowed : ℕ} (h : schemaIssues allowed v path = [])
    (hdense : dense depth v) : schemaIssues allowed (readBack depth v) path = [] := by
  induction allowed generalizing v path depth with
  | zero => cases h
  | succ allowed ih =>
      obtain ⟨fields, type, rfl, htype, hkeywords⟩ := schemaIssues_eq_nil h
      cases depth with
      | zero => exact h
      | succ depth =>
          have hfields := dense_property hdense
          show schemaIssues (allowed + 1) (.object true (backFields depth fields)) path = []
          rw [schemaIssues, htype] at h
          rw [schemaIssues, typeOf_backFields, htype]
          have hrest := (List.append_eq_nil_iff.mp h).2
          refine List.append_eq_nil_iff.mpr ⟨keywordIssues_backFields hkeywords, ?_⟩
          cases type with
          | string =>
              simp only [stringIssues, List.append_eq_nil_iff, property_backFields,
                isUndefined_readBack, nonNegativeSafeInteger_readBack] at hrest ⊢
              obtain ⟨hmin, hmax, hordered, henum⟩ := hrest
              exact ⟨hmin, hmax, hordered, enumIssues_readBack henum (hfields _)⟩
          | number =>
              simp only [numberIssues, boundIssues, property_backFields, isUndefined_readBack,
                isBound_readBack, reversedBounds_readBack] at hrest ⊢
              exact hrest
          | integer =>
              simp only [numberIssues, boundIssues, property_backFields, isUndefined_readBack,
                isBound_readBack, reversedBounds_readBack] at hrest ⊢
              exact hrest
          | boolean => rfl
          | null => rfl
          | array =>
              simp only [arrayIssues, List.append_eq_nil_iff, property_backFields,
                isUndefined_readBack, nonNegativeSafeInteger_readBack] at hrest ⊢
              obtain ⟨hmax, hitems⟩ := hrest
              refine ⟨hmax, ?_⟩
              split at hitems
              · cases hitems
              · case isFalse hdefined =>
                  rw [if_neg hdefined]
                  exact ih hitems (hfields _)
          | object => exact objectIssues_backFields hrest hfields fun _ _ _ => ih

@[simp] theorem parameterType_readBack (depth : ℕ) (v : Input) :
    parameterType (readBack depth v) = parameterType v := by
  cases depth with
  | zero => cases v <;> rfl
  | succ depth =>
      cases v with
      | object plain fields =>
          show parameterType (.object true (backFields depth fields)) = _
          simp only [parameterType, property_backFields, asText_readBack]
      | _ => rfl

theorem parameterIssues_readBack (required child : Input) (name path : Text) (depth : ℕ) :
    parameterIssues required (readBack depth child) name path =
      parameterIssues required child name path := by
  simp only [parameterIssues, isUndefined_readBack, parameterType_readBack]

theorem ofName_object : SchemaType.ofName (units "object") = some .object := by decide

/-- The parts of an accepted object's schema. -/
theorem objectIssues_of_parameterType {allowed : ℕ} (h : schemaIssues (allowed + 1) v path = [])
    (hobject : parameterType v = some (units "object")) :
    ∃ fields, v = .object true fields ∧ objectIssues (schemaIssues allowed) fields path = [] := by
  obtain ⟨fields, type, rfl, htype, -⟩ := schemaIssues_eq_nil h
  refine ⟨fields, rfl, ?_⟩
  have htext : (property fields (units "type")).asText = some (units "object") := hobject
  rw [typeOf, htext, Option.bind_some, ofName_object] at htype
  obtain rfl := Option.some.inj htype
  have htype' : typeOf fields = some .object := by
    rw [typeOf, htext, Option.bind_some, ofName_object]
  rw [schemaIssues, htype'] at h
  exact (List.append_eq_nil_iff.mp h).2

theorem paramsSchemaIssues_readBack {allowed : ℕ} {path' : Text}
    (h : paramsSchemaIssues v path = []) (hschema : schemaIssues (allowed + 1) v path' = [])
    (hdense : dense depth v) : paramsSchemaIssues (readBack depth v) path = [] := by
  unfold paramsSchemaIssues at h
  split at h
  · cases h
  · case isFalse hobject =>
      rw [not_not] at hobject
      obtain ⟨fields, rfl, hparts⟩ := objectIssues_of_parameterType hschema hobject
      cases depth with
      | zero =>
          show paramsSchemaIssues (.object true fields) path = []
          unfold paramsSchemaIssues
          rw [if_neg (not_not.mpr hobject)]
          exact h
      | succ depth =>
          have hfields := dense_property hdense
          simp only [objectIssues, List.append_eq_nil_iff] at hparts
          obtain ⟨-, hproperties, hrequired⟩ := hparts
          obtain ⟨children, hchildren, -⟩ := propertiesIssues_eq_nil hproperties
          obtain ⟨items, hitems, hstrings⟩ := requiredIssues_items hrequired
          have hback : readBack depth (property fields (units "required")) =
              property fields (units "required") := by
            have hdenseRequired := hfields (units "required")
            rw [hitems] at hdenseRequired ⊢
            exact readBack_strings hstrings hdenseRequired
          show paramsSchemaIssues (.object true (backFields depth fields)) path = []
          unfold paramsSchemaIssues
          have hobject' : parameterType (.object true (backFields depth fields)) =
              some (units "object") :=
            (parameterType_readBack (depth + 1) (.object true fields)).trans hobject
          rw [if_neg (not_not.mpr hobject')]
          dsimp only at h ⊢
          rw [property_backFields, property_backFields, hback]
          rw [hchildren] at h ⊢
          dsimp only at h
          rw [List.flatMap_eq_nil_iff] at h
          cases depth with
          | zero => exact List.flatMap_eq_nil_iff.mpr h
          | succ depth =>
              rw [readBack_object]
              dsimp only
              rw [List.flatMap_eq_nil_iff]
              intro name hname
              rw [property_backFields, parameterIssues_readBack]
              exact h name (mem_ownKeys.mpr (hasOwn_of_backFields (mem_ownKeys.mp hname)))

end Accepted

end StreamOtter.Configuration
