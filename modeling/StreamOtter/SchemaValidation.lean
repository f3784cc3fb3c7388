import StreamOtter.CanonicalJson

/-!
# Schemas

A translation of `validateSchemaDefinition` and `validateValue` of the contracts.  A schema
is a value like any other, and both count its nesting by what is still allowed.
-/

namespace StreamOtter.Contracts

open Ecma Value

/-! ## Code units and numbers -/

/-- A surrogate pair counts once, and so does an unpaired surrogate. -/
def codePointLength : Text → ℕ
  | [] => 0
  | [_] => 1
  | u :: v :: rest =>
      if isLead u && isTrail v then codePointLength rest + 1 else codePointLength (v :: rest) + 1

def maxSafeInteger : ℕ := 9007199254740991

/-- `Number.isSafeInteger`. -/
def isSafeInteger : JsNumber → Bool
  | .finite x => x.toRat.den = 1 && x.toRat.num.natAbs ≤ maxSafeInteger
  | _ => false

/-- The `<` of two numbers. -/
def lessThan : JsNumber → JsNumber → Bool
  | .finite x, .finite y => x.toRat < y.toRat
  | .infinity true, .finite _ | .infinity true, .infinity false | .finite _, .infinity false => true
  | _, _ => false

/-- What `isNonNegativeSafeInteger` lets pass, as the number it is. -/
def nonNegativeSafeInteger : Value → Option ℕ
  | .number (.finite x) =>
      if isSafeInteger (.finite x) && 0 ≤ x.toRat then some x.toRat.num.toNat else none
  | _ => none

/-- `String` of a number, in a message. -/
def display : Value → Text
  | .number (.finite x) => x.numeral
  | .number .nan => units "NaN"
  | .number (.infinity negative) => units (if negative then "-Infinity" else "Infinity")
  | _ => []

/-! ## Definitions of schemas -/

inductive SchemaType
  | string | number | integer | boolean | null | array | object
  deriving DecidableEq, Repr

namespace SchemaType

def all : List SchemaType := [.string, .number, .integer, .boolean, .null, .array, .object]

def name : SchemaType → Text
  | .string => units "string"
  | .number => units "number"
  | .integer => units "integer"
  | .boolean => units "boolean"
  | .null => units "null"
  | .array => units "array"
  | .object => units "object"

/-- `KEYWORDS`. -/
def keywords : SchemaType → List Text
  | .string => [units "type", units "minLength", units "maxLength", units "enum"]
  | .number | .integer => [units "type", units "minimum", units "maximum"]
  | .boolean | .null => [units "type"]
  | .array => [units "type", units "items", units "maxItems"]
  | .object =>
      [units "type", units "properties", units "required", units "additionalProperties"]

def ofName (text : Text) : Option SchemaType := all.find? fun type => type.name = text

end SchemaType

inductive IssueCode
  | schemaDepthExceeded | invalidType | schemaUnsupportedType | schemaUnsupportedKeyword
  | invalidValue | required | unknownReference
  deriving DecidableEq, Repr

structure ConfigIssue where
  path : Text
  code : IssueCode
  message : Text
  deriving DecidableEq, Repr

def escapeSegment (u : UInt16) : Text :=
  if u = 0x7e then units "~0" else if u = 0x2f then units "~1" else [u]

def pointer (base segment : Text) : Text := base ++ 0x2f :: segment.flatMap escapeSegment

def quotedIn (before name after : Text) : Text := before ++ 0x22 :: name ++ 0x22 :: after

def keywordIssues (type : SchemaType) (fields : Fields) (path : Text) : List ConfigIssue :=
  ((ownKeys fields).filter fun key => !type.keywords.contains key).map fun key =>
    ⟨pointer path key, .schemaUnsupportedKeyword,
      quotedIn [] key (units " is not supported for " ++ type.name ++ units " schemas in V1.")⟩

/-- One issue where a check fails. -/
def issueIf (failed : Bool) (path : Text) (code : IssueCode) (message : Text) : List ConfigIssue :=
  if failed then [⟨path, code, message⟩] else []

def isString : Value → Bool
  | .string _ => true
  | _ => false

/-- The strings among the items of an array. -/
def strings (items : List Value) : List Text :=
  items.filterMap fun item =>
    match item with
    | .string text => some text
    | _ => none

def outOfBounds (minLength maxLength : Value) (text : Text) : Bool :=
  (nonNegativeSafeInteger minLength).any (fun bound => codePointLength text < bound) ||
    (nonNegativeSafeInteger maxLength).any fun bound => bound < codePointLength text

def enumIssues (minLength maxLength values : Value) (path : Text) : List ConfigIssue :=
  let path := pointer path (units "enum")
  let notStrings : List ConfigIssue :=
    [⟨path, .invalidValue, units "enum must be a non-empty array of strings."⟩]
  match values with
  | .undefined => []
  | .array items =>
      if items.isEmpty || !items.all isString then notStrings
      else if (strings items).dedup.length ≠ items.length then
        [⟨path, .invalidValue, units "enum values must be unique."⟩]
      else
        issueIf ((strings items).any (outOfBounds minLength maxLength)) path .invalidValue
          (units "Every enum value must satisfy minLength and maxLength.")
  | _ => notStrings

def stringIssues (fields : Fields) (path : Text) : List ConfigIssue :=
  let minLength := property fields (units "minLength")
  let maxLength := property fields (units "maxLength")
  let notLength (value : Value) : Bool :=
    !value.isUndefined && (nonNegativeSafeInteger value).isNone
  let reversed : Bool :=
    (nonNegativeSafeInteger minLength).any fun low =>
      (nonNegativeSafeInteger maxLength).any fun high => high < low
  issueIf (notLength minLength) (pointer path (units "minLength")) .invalidValue
      (units "minLength must be a non-negative integer.") ++
    (issueIf (notLength maxLength) (pointer path (units "maxLength")) .invalidValue
      (units "maxLength must be a non-negative integer.") ++
    (issueIf reversed (pointer path (units "minLength")) .invalidValue
      (units "minLength must not exceed maxLength.") ++
    enumIssues minLength maxLength (property fields (units "enum")) path))

/-- Whether a bound is a number of the schema's type. -/
def isBound (integer : Bool) : Value → Bool
  | .number (.finite x) => !integer || isSafeInteger (.finite x)
  | _ => false

def boundIssues (integer : Bool) (key : Text) (bound : Value) (path : Text) : List ConfigIssue :=
  issueIf (!bound.isUndefined && !isBound integer bound) (pointer path key) .invalidValue
    (key ++ units " must be a finite " ++ units (if integer then "safe integer" else "number") ++
      units ".")

def numberIssues (integer : Bool) (fields : Fields) (path : Text) : List ConfigIssue :=
  let minimum := property fields (units "minimum")
  let maximum := property fields (units "maximum")
  let reversed : Bool :=
    match minimum, maximum with
    | .number low, .number high => lessThan high low
    | _, _ => false
  boundIssues integer (units "minimum") minimum path ++
    (boundIssues integer (units "maximum") maximum path ++
    issueIf reversed (pointer path (units "minimum")) .invalidValue
      (units "minimum must not exceed maximum."))

def requiredIssues (properties required : Value) (path : Text) : List ConfigIssue :=
  let path := pointer path (units "required")
  let notNames : List ConfigIssue :=
    [⟨path, .required, units "Objects require a required array of property names."⟩]
  match required with
  | .array items =>
      if !items.all isString then notNames
      else
        issueIf ((strings items).dedup.length ≠ items.length) path .invalidValue
            (units "required names must be unique.") ++
          match properties with
          | .object children =>
              ((strings items).filter fun name => !hasOwn children name).map fun name =>
                ⟨path, .unknownReference,
                  quotedIn (units "required property ") name
                    (units " is not declared in properties.")⟩
          | _ => []
  | _ => notNames

/-- The type of a schema, if it is one of the dialect's. -/
def typeOf (fields : Fields) : Option SchemaType :=
  match property fields (units "type") with
  | .string text => SchemaType.ofName text
  | _ => none

def arrayIssues (check : Value → Text → List ConfigIssue) (fields : Fields) (path : Text) :
    List ConfigIssue :=
  let items := property fields (units "items")
  issueIf (nonNegativeSafeInteger (property fields (units "maxItems"))).isNone
      (pointer path (units "maxItems")) .required
      (units "Arrays require a non-negative integer maxItems bound.") ++
    if items.isUndefined then
      [⟨pointer path (units "items"), .required, units "Arrays require an items schema."⟩]
    else check items (pointer path (units "items"))

def isFalse : Value → Bool
  | .boolean value => !value
  | _ => false

def propertiesIssues (check : Value → Text → List ConfigIssue) (properties : Value) (path : Text) :
    List ConfigIssue :=
  let path := pointer path (units "properties")
  match properties with
  | .object children =>
      (ownKeys children).flatMap fun name => check (property children name) (pointer path name)
  | _ => [⟨path, .required, units "Objects require a properties map."⟩]

def objectIssues (check : Value → Text → List ConfigIssue) (fields : Fields) (path : Text) :
    List ConfigIssue :=
  let properties := property fields (units "properties")
  issueIf (!isFalse (property fields (units "additionalProperties")))
      (pointer path (units "additionalProperties")) .required
      (units "Objects must declare additionalProperties: false.") ++
    (propertiesIssues check properties path ++
    requiredIssues properties (property fields (units "required")) path)

/-- `validateSchemaDefinition`, by the nesting still allowed: the issues it adds. -/
def schemaIssues : ℕ → Value → Text → List ConfigIssue
  | 0, _, path => [⟨path, .schemaDepthExceeded, units "Schemas may nest at most 16 levels."⟩]
  | allowed + 1, .object fields, path =>
      match typeOf fields with
      | none =>
          [⟨pointer path (units "type"), .schemaUnsupportedType,
            units ("type must be one of string, number, integer, boolean, null, array, " ++
              "or object (unions are not supported in V1).")⟩]
      | some type =>
          keywordIssues type fields path ++
            match type with
            | .string => stringIssues fields path
            | .number => numberIssues false fields path
            | .integer => numberIssues true fields path
            | .boolean | .null => []
            | .array => arrayIssues (schemaIssues allowed) fields path
            | .object => objectIssues (schemaIssues allowed) fields path
  | _ + 1, _, path => [⟨path, .invalidType, units "A schema must be an object."⟩]

def validateSchemaDefinition (schema : Value) (path : Text) : List ConfigIssue :=
  schemaIssues maxNestingDepth schema path

/-! ## Values of a schema -/

/-- A problem that `validateValue` found. -/
structure FoundIssue where
  path : Text
  message : Text
  deriving DecidableEq, Repr

/-- A count against a bound, which is a number. -/
def countBelow (count : ℕ) : Value → Bool
  | .number (.finite x) => (count : ℚ) < x.toRat
  | .number (.infinity negative) => !negative
  | _ => false

def countAbove (count : ℕ) : Value → Bool
  | .number (.finite x) => x.toRat < (count : ℚ)
  | .number (.infinity negative) => negative
  | _ => false

def numberBelow (value : JsNumber) : Value → Bool
  | .number bound => lessThan value bound
  | _ => false

def numberAbove (value : JsNumber) : Value → Bool
  | .number bound => lessThan bound value
  | _ => false

def isMember (text : Text) : Value → Bool
  | .array items => (strings items).contains text
  | _ => false

def validateString (fields : Fields) (value : Value) (path : Text) : Option FoundIssue :=
  let minLength := property fields (units "minLength")
  let maxLength := property fields (units "maxLength")
  let values := property fields (units "enum")
  match value with
  | .string text =>
      let length := codePointLength text
      if !values.isUndefined && !isMember text values then
        some ⟨path, units "Value is not one of the allowed strings."⟩
      else if !minLength.isUndefined && countBelow length minLength then
        some ⟨path, units "Expected at least " ++ display minLength ++ units " characters."⟩
      else if !maxLength.isUndefined && countAbove length maxLength then
        some ⟨path, units "Expected at most " ++ display maxLength ++ units " characters."⟩
      else none
  | _ => some ⟨path, units "Expected a string."⟩

def validateNumber (integer : Bool) (fields : Fields) (value : Value) (path : Text) :
    Option FoundIssue :=
  let minimum := property fields (units "minimum")
  let maximum := property fields (units "maximum")
  match value with
  | .number (.finite x) =>
      if integer && !isSafeInteger (.finite x) then
        some ⟨path, units "Expected a safe integer."⟩
      else if !minimum.isUndefined && numberBelow (.finite x) minimum then
        some ⟨path, units "Expected a value of at least " ++ display minimum ++ units "."⟩
      else if !maximum.isUndefined && numberAbove (.finite x) maximum then
        some ⟨path, units "Expected a value of at most " ++ display maximum ++ units "."⟩
      else none
  | _ => some ⟨path, units "Expected a finite number."⟩

/-- The properties that a schema's object declares. -/
def declared (fields : Fields) : Fields :=
  match property fields (units "properties") with
  | .object children => children
  | _ => []

def requiredNames (fields : Fields) : List Text :=
  match property fields (units "required") with
  | .array items => strings items
  | _ => []

def childPath (path name : Text) : Text := path ++ 0x2e :: name

def indexUnits (index : ℕ) : Text := if index = 0 then [0x30] else digitUnits index

/-- The issue of the first item that has one. -/
def firstIssue (check : Value → Text → Option FoundIssue) (path : Text) :
    ℕ → List Value → Option FoundIssue
  | _, [] => none
  | index, item :: rest =>
      match check item (path ++ 0x5b :: (indexUnits index ++ [0x5d])) with
      | some issue => some issue
      | none => firstIssue check path (index + 1) rest

def validateArray (check : Value → Text → Option FoundIssue) (fields : Fields) (value : Value)
    (path : Text) : Option FoundIssue :=
  let maxItems := property fields (units "maxItems")
  match value with
  | .array items =>
      if countAbove items.length maxItems then
        some ⟨path, units "Expected at most " ++ display maxItems ++ units " items."⟩
      else firstIssue check path 0 items
  | _ => some ⟨path, units "Expected an array."⟩

def validateObject (check : Value → Value → Text → Option FoundIssue) (fields : Fields)
    (value : Value) (path : Text) : Option FoundIssue :=
  match value with
  | .object own =>
      match (ownKeys own).find? fun key => !hasOwn (declared fields) key with
      | some key => some ⟨childPath path key, units "Property is not allowed."⟩
      | none =>
          match (requiredNames fields).find? fun key => !hasOwn own key with
          | some key => some ⟨childPath path key, units "Required property is missing."⟩
          | none =>
              (ownKeys (declared fields)).findSome? fun key =>
                if hasOwn own key then
                  check (property (declared fields) key) (property own key) (childPath path key)
                else none
  | _ => some ⟨path, units "Expected an object."⟩

def validateBoolean (value : Value) (path : Text) : Option FoundIssue :=
  match value with
  | .boolean _ => none
  | _ => some ⟨path, units "Expected a boolean."⟩

def validateNull (value : Value) (path : Text) : Option FoundIssue :=
  match value with
  | .null => none
  | _ => some ⟨path, units "Expected null."⟩

/-- `validateValue`, by the nesting still allowed. -/
def validateAt : ℕ → Value → Value → Text → Option FoundIssue
  | 0, _, _, path => some ⟨path, units "Values may nest at most 16 levels."⟩
  | allowed + 1, .object fields, value, path =>
      match typeOf fields with
      | some .string => validateString fields value path
      | some .number => validateNumber false fields value path
      | some .integer => validateNumber true fields value path
      | some .boolean => validateBoolean value path
      | some .null => validateNull value path
      | some .array =>
          validateArray (validateAt allowed (property fields (units "items"))) fields value path
      | some .object => validateObject (validateAt allowed) fields value path
      | none => some ⟨path, units "Unsupported schema."⟩
  | _ + 1, _, _, path => some ⟨path, units "Unsupported schema."⟩

/-- `validateValue`: the first issue, or none when the value is valid. -/
def validateValue (schema value : Value) : Option FoundIssue :=
  validateAt maxNestingDepth schema value (units "$")

/-! ## What is accepted -/

theorem firstIssue_eq_none {check : Value → Text → Option FoundIssue} {path : Text} {index : ℕ}
    {items : List Value} (h : firstIssue check path index items = none) :
    ∀ item ∈ items, ∃ path', check item path' = none := by
  induction items generalizing index with
  | nil => simp
  | cons item rest ih =>
      rw [firstIssue] at h
      split at h
      · cases h
      · rename_i hfirst
        intro item' hmem
        rcases List.mem_cons.mp hmem with rfl | hrest
        · exact ⟨_, hfirst⟩
        · exact ih h item' hrest

theorem firstIssue_of_accepted {check : Value → Text → Option FoundIssue} {items : List Value}
    (h : ∀ item ∈ items, ∀ path, check item path = none) (path : Text) (index : ℕ) :
    firstIssue check path index items = none := by
  induction items generalizing index with
  | nil => rfl
  | cons item rest ih =>
      rw [firstIssue, h item List.mem_cons_self]
      exact ih (fun item' hmem => h item' (List.mem_cons_of_mem _ hmem)) (index + 1)

/-- An object is accepted when its properties are declared, the required ones are there and
each is accepted. -/
structure AcceptedObject (check : Value → Value → Text → Option FoundIssue) (fields own : Fields)
    (path : Text) : Prop where
  declared : ∀ name, hasOwn own name → hasOwn (declared fields) name
  required : ∀ name ∈ requiredNames fields, hasOwn own name
  accepted : ∀ name, hasOwn own name →
    check (property (Contracts.declared fields) name) (property own name) (childPath path name) =
      none

theorem validateObject_eq_none {check : Value → Value → Text → Option FoundIssue} {fields : Fields}
    {value : Value} {path : Text} :
    validateObject check fields value path = none ↔
      ∃ own, value = .object own ∧ AcceptedObject check fields own path := by
  unfold validateObject
  constructor
  · intro h
    split at h
    · rename_i own
      split at h
      · cases h
      · rename_i hdeclared
        split at h
        · cases h
        · rename_i hrequired
          rw [List.find?_eq_none] at hdeclared hrequired
          rw [List.findSome?_eq_none_iff] at h
          have hown : ∀ name, hasOwn own name → hasOwn (declared fields) name := by
            intro name hname
            simpa using hdeclared name (mem_ownKeys.mpr hname)
          refine ⟨own, rfl, hown, ?_, ?_⟩
          · intro name hname
            simpa using hrequired name hname
          · intro name hname
            have hcheck := h name (mem_ownKeys.mpr (hown name hname))
            rwa [if_pos hname] at hcheck
    · cases h
  · rintro ⟨own, rfl, h⟩
    have hdeclared : (ownKeys own).find? (fun key => !hasOwn (declared fields) key) = none := by
      rw [List.find?_eq_none]
      intro name hname
      simpa using h.declared name (mem_ownKeys.mp hname)
    have hrequired : (requiredNames fields).find? (fun key => !hasOwn own key) = none := by
      rw [List.find?_eq_none]
      intro name hname
      simpa using h.required name hname
    dsimp only
    rw [hdeclared, hrequired]
    dsimp only
    rw [List.findSome?_eq_none_iff]
    intro name hname
    by_cases hown : hasOwn own name
    · rw [if_pos hown, h.accepted name hown]
    · rw [if_neg hown]

theorem validateArray_eq_none {check : Value → Text → Option FoundIssue} {fields : Fields}
    {value : Value} {path : Text} :
    validateArray check fields value path = none ↔
      ∃ items, value = .array items ∧
        countAbove items.length (property fields (units "maxItems")) = false ∧
        firstIssue check path 0 items = none := by
  unfold validateArray
  constructor
  · intro h
    split at h
    · rename_i items
      dsimp only at h
      split at h
      · cases h
      · rename_i hcount
        exact ⟨items, rfl, by simpa using hcount, h⟩
    · cases h
  · rintro ⟨items, rfl, hcount, hfirst⟩
    dsimp only
    rw [hcount, if_neg Bool.false_ne_true, hfirst]

theorem validateAt_object {allowed : ℕ} {schema value : Value} {path : Text}
    (h : validateAt allowed schema value path = none) :
    ∃ allowed' fields, allowed = allowed' + 1 ∧ schema = .object fields := by
  cases allowed with
  | zero => cases h
  | succ allowed =>
      cases schema with
      | object fields => exact ⟨allowed, fields, rfl, rfl⟩
      | _ => cases h

/-- Everything accepted is JSON data, whatever the schema. -/
theorem isJsonAt_of_validateAt {allowed : ℕ} {schema value : Value} {path : Text}
    (h : validateAt allowed schema value path = none) : isJsonAt allowed value := by
  induction allowed generalizing schema value path with
  | zero => cases h
  | succ allowed ih =>
      obtain ⟨-, fields, -, rfl⟩ := validateAt_object h
      rw [validateAt] at h
      split at h
      · cases value <;> first | rfl | cases h
      · cases value with
        | number n => cases n <;> first | rfl | cases h
        | _ => cases h
      · cases value with
        | number n => cases n <;> first | rfl | cases h
        | _ => cases h
      · cases value <;> first | rfl | cases h
      · cases value <;> first | rfl | cases h
      · obtain ⟨items, rfl, -, hfirst⟩ := validateArray_eq_none.mp h
        rw [isJsonAt, List.all_eq_true]
        intro item hitem
        obtain ⟨path', hpath⟩ := firstIssue_eq_none hfirst item hitem
        exact ih hpath
      · obtain ⟨own, rfl, haccepted⟩ := validateObject_eq_none.mp h
        rw [isJsonAt_object]
        intro name hname
        exact ih (haccepted.accepted name hname)
      · cases h

theorem firstIssue_congr {check : Value → Text → Option FoundIssue} {path : Text} {index : ℕ}
    {items items' : List Value} (hdata : items.map data = items'.map data)
    (hone : ∀ item item' path, item' ∈ items' → item.data = item'.data →
      check item path = none → check item' path = none)
    (h : firstIssue check path index items = none) : firstIssue check path index items' = none := by
  induction items generalizing index items' with
  | nil =>
      obtain rfl := List.map_eq_nil_iff.mp hdata.symm
      rfl
  | cons item rest ih =>
      cases items' with
      | nil => cases hdata
      | cons item' rest' =>
          obtain ⟨hitem, hrest⟩ := List.cons.inj hdata
          rw [firstIssue] at h ⊢
          split at h
          · cases h
          · rename_i hfirst
            rw [hone item item' _ List.mem_cons_self hitem hfirst]
            exact ih hrest (fun a a' path hmem => hone a a' path (List.mem_cons_of_mem _ hmem)) h

theorem validateNumber_congr {integer : Bool} {fields : Fields} {x y : FiniteNumber} {path : Text}
    (heq : x.toRat = y.toRat)
    (h : validateNumber integer fields (.number (.finite x)) path = none) :
    validateNumber integer fields (.number (.finite y)) path = none := by
  have hsafe : isSafeInteger (.finite y) = isSafeInteger (.finite x) := by
    rw [isSafeInteger, isSafeInteger, heq]
  have hbelow : ∀ bound, numberBelow (.finite y) bound = numberBelow (.finite x) bound := by
    intro bound
    cases bound with
    | number n =>
        cases n with
        | nan => rfl
        | infinity negative => cases negative <;> rfl
        | finite z => simp only [numberBelow, lessThan, heq]
    | _ => rfl
  have habove : ∀ bound, numberAbove (.finite y) bound = numberAbove (.finite x) bound := by
    intro bound
    cases bound with
    | number n =>
        cases n with
        | nan => rfl
        | infinity negative => cases negative <;> rfl
        | finite z => simp only [numberAbove, lessThan, heq]
    | _ => rfl
  unfold validateNumber at h ⊢
  simp only [hsafe, hbelow, habove]
  exact h

/-- What is accepted depends on the data only. -/
theorem validateAt_congr {allowed : ℕ} {schema v w : Value} {path : Text}
    (h : validateAt allowed schema v path = none) (hjson : isJsonAt allowed w)
    (hdata : v.data = w.data) : validateAt allowed schema w path = none := by
  have hv := isJsonAt_of_validateAt h
  induction allowed generalizing schema v w path with
  | zero => cases h
  | succ allowed ih =>
      obtain ⟨-, fields, -, rfl⟩ := validateAt_object h
      cases v with
      | undefined => cases hv
      | foreign => cases hv
      | null => rwa [eq_null_of_data hdata.symm]
      | boolean value => rwa [eq_boolean_of_data hdata.symm]
      | string text => rwa [eq_string_of_data hdata.symm]
      | number n =>
          cases n with
          | nan => cases hv
          | infinity negative => cases hv
          | finite x =>
              obtain ⟨y, rfl, hvalue⟩ := eq_number_of_data hdata.symm
              rw [validateAt] at h ⊢
              split at h <;> first | exact validateNumber_congr hvalue.symm h | cases h
      | array items =>
          obtain ⟨items', rfl, hitems⟩ := eq_array_of_data hdata.symm
          rw [itemsData_eq_map, itemsData_eq_map] at hitems
          rw [isJsonAt, List.all_eq_true] at hv hjson
          rw [validateAt] at h ⊢
          cases htype : typeOf fields with
          | none => simp only [htype] at h; cases h
          | some type =>
              simp only [htype] at h ⊢
              cases type with
              | array =>
                  obtain ⟨_, heq, hcount, hfirst⟩ := validateArray_eq_none.mp h
                  obtain rfl := Value.array.inj heq
                  have hlength : items'.length = items.length := by
                    rw [← List.length_map, hitems, List.length_map]
                  refine validateArray_eq_none.mpr ⟨items', rfl, by rw [hlength]; exact hcount, ?_⟩
                  refine firstIssue_congr hitems.symm ?_ hfirst
                  intro item item' path hmem heq hitem
                  exact ih hitem (hjson item' hmem) heq (isJsonAt_of_validateAt hitem)
              | _ => cases h
      | object own =>
          obtain ⟨own', rfl, hfields⟩ := eq_object_of_data hdata.symm
          have hsame : ∀ name, hasOwn own' name ↔ hasOwn own name := by
            intro name
            rw [property_of_isJsonAt hv, property_of_isJsonAt hjson, isUndefined_eq hfields]
          have hproperty : ∀ name, hasOwn own' name →
              (property own name).data = (property own' name).data := by
            intro name hname
            have hleft := (property_of_isJsonAt hv).mp ((hsame name).mp hname)
            have hright := (property_of_isJsonAt hjson).mp hname
            have heq := congrFun hfields name
            rw [fieldsData_defined hleft, fieldsData_defined hright] at heq
            exact (Option.some.inj heq).symm
          rw [isJsonAt_object] at hjson
          rw [validateAt] at h ⊢
          cases htype : typeOf fields with
          | none => simp only [htype] at h; cases h
          | some type =>
              simp only [htype] at h ⊢
              cases type with
              | object =>
                  obtain ⟨_, heq, haccepted⟩ := validateObject_eq_none.mp h
                  obtain rfl := Value.object.inj heq
                  refine validateObject_eq_none.mpr ⟨own', rfl, ?_, ?_, ?_⟩
                  · intro name hname
                    exact haccepted.declared name ((hsame name).mp hname)
                  · intro name hname
                    exact (hsame name).mpr (haccepted.required name hname)
                  · intro name hname
                    have hone := haccepted.accepted name ((hsame name).mp hname)
                    exact ih hone (hjson name hname) (hproperty name hname)
                      (isJsonAt_of_validateAt hone)
              | _ => cases h

/-! ## Accepted schemas have values -/

@[simp] theorem issueIf_eq_nil {failed : Bool} {path : Text} {code : IssueCode} {message : Text} :
    issueIf failed path code message = [] ↔ failed = false := by
  cases failed <;> simp [issueIf]

theorem nonNegativeSafeInteger_eq {v : Value} {n : ℕ} (h : nonNegativeSafeInteger v = some n) :
    ∃ x : FiniteNumber, v = .number (.finite x) ∧ x.toRat = n := by
  unfold nonNegativeSafeInteger at h
  split at h
  · rename_i x
    split at h
    · rename_i hsafe
      rw [Bool.and_eq_true, decide_eq_true_eq, isSafeInteger, Bool.and_eq_true,
        decide_eq_true_eq] at hsafe
      obtain ⟨⟨hden, -⟩, hnonneg⟩ := hsafe
      refine ⟨x, rfl, ?_⟩
      have hnum : (x.toRat.num.toNat : ℤ) = x.toRat.num :=
        Int.toNat_of_nonneg (Rat.num_nonneg.mpr hnonneg)
      rw [← Option.some.inj h, ← Int.cast_natCast, hnum]
      exact (Rat.den_eq_one_iff _).mp hden |>.symm
    · cases h
  · cases h

theorem countBelow_eq {v : Value} {n count : ℕ} (h : nonNegativeSafeInteger v = some n) :
    countBelow count v = decide (count < n) := by
  obtain ⟨x, rfl, hx⟩ := nonNegativeSafeInteger_eq h
  rw [countBelow, hx]
  simp only [Nat.cast_lt]

theorem countAbove_eq {v : Value} {n count : ℕ} (h : nonNegativeSafeInteger v = some n) :
    countAbove count v = decide (n < count) := by
  obtain ⟨x, rfl, hx⟩ := nonNegativeSafeInteger_eq h
  rw [countAbove, hx]
  simp only [Nat.cast_lt]

theorem codePointLength_replicate (n : ℕ) : codePointLength (List.replicate n 0x61) = n := by
  induction n with
  | zero => rfl
  | succ n ih =>
      cases n with
      | zero => rfl
      | succ n =>
          rw [List.replicate_succ, List.replicate_succ, codePointLength, if_neg (by decide),
            ← List.replicate_succ, ih]

theorem mem_strings {items : List Value} {text : Text} :
    text ∈ strings items ↔ .string text ∈ items := by
  unfold strings
  rw [List.mem_filterMap]
  constructor
  · rintro ⟨item, hitem, heq⟩
    cases item with
    | string other => rwa [← Option.some.inj heq]
    | _ => cases heq
  · intro hmem
    exact ⟨_, hmem, rfl⟩

/-- A length's bound as the definition left it: none, or a count. -/
theorem length_bound {v : Value}
    (h : (!v.isUndefined && (nonNegativeSafeInteger v).isNone) = false) :
    v.isUndefined ∨ ∃ n, nonNegativeSafeInteger v = some n := by
  cases hundefined : v.isUndefined with
  | true => exact .inl rfl
  | false =>
      rw [hundefined, Bool.not_false, Bool.true_and, Option.isNone_eq_false_iff,
        Option.isSome_iff_exists] at h
      exact .inr h

theorem nonNegativeSafeInteger_undefined {v : Value} (h : v.isUndefined) :
    nonNegativeSafeInteger v = none := by
  cases v with
  | undefined => rfl
  | _ => cases h

/-- A text within the bounds passes the length checks. -/
theorem lengths_accepted {minLength maxLength : Value} {text : Text}
    (hmin : minLength.isUndefined ∨ ∃ n, nonNegativeSafeInteger minLength = some n)
    (hmax : maxLength.isUndefined ∨ ∃ n, nonNegativeSafeInteger maxLength = some n)
    (h : outOfBounds minLength maxLength text = false) :
    (!minLength.isUndefined && countBelow (codePointLength text) minLength) = false ∧
      (!maxLength.isUndefined && countAbove (codePointLength text) maxLength) = false := by
  unfold outOfBounds at h
  rw [Bool.or_eq_false_iff] at h
  constructor
  · rcases hmin with hundefined | ⟨n, hn⟩
    · rw [hundefined, Bool.not_true, Bool.false_and]
    · rw [countBelow_eq hn, Bool.and_eq_false_iff]
      right
      simpa [hn] using h.1
  · rcases hmax with hundefined | ⟨n, hn⟩
    · rw [hundefined, Bool.not_true, Bool.false_and]
    · rw [countAbove_eq hn, Bool.and_eq_false_iff]
      right
      simpa [hn] using h.2

theorem exists_string {fields : Fields} {path : Text} (h : stringIssues fields path = []) :
    ∃ text, ∀ path, validateString fields (.string text) path = none := by
  unfold stringIssues at h
  simp only [List.append_eq_nil_iff, issueIf_eq_nil] at h
  obtain ⟨hmin, hmax, hreversed, henum⟩ := h
  replace hmin := length_bound hmin
  replace hmax := length_bound hmax
  -- A string within the bounds, which is one of the values where there is a list of them.
  obtain ⟨text, hbounds, hmember⟩ : ∃ text,
      outOfBounds (property fields (units "minLength")) (property fields (units "maxLength")) text =
        false ∧
      (!(property fields (units "enum")).isUndefined &&
        !isMember text (property fields (units "enum"))) = false := by
    unfold enumIssues at henum
    split at henum
    · rename_i hundefined
      refine ⟨List.replicate
        ((nonNegativeSafeInteger (property fields (units "minLength"))).getD 0) 0x61, ?_, ?_⟩
      · unfold outOfBounds
        rw [codePointLength_replicate]
        cases hlow : nonNegativeSafeInteger (property fields (units "minLength")) <;>
          cases hhigh : nonNegativeSafeInteger (property fields (units "maxLength")) <;>
          simp [hlow, hhigh] at hreversed ⊢
        exact hreversed
      · rw [hundefined]
        rfl
    · rename_i items hitems
      split at henum
      · cases henum
      · rename_i hstrings
        split at henum
        · cases henum
        · rw [issueIf_eq_nil, List.any_eq_false] at henum
          simp only [Bool.or_eq_true, Bool.not_eq_true', not_or, List.isEmpty_iff,
            Bool.not_eq_false, List.all_eq_true] at hstrings
          obtain ⟨item, hitem⟩ := List.exists_mem_of_ne_nil items hstrings.1
          cases item with
          | string text =>
              have hmem : text ∈ strings items := mem_strings.mpr hitem
              refine ⟨text, by simpa using henum text hmem, ?_⟩
              rw [hitems, isMember, List.contains_iff_mem.mpr hmem]
              rfl
          | _ => exact absurd (hstrings.2 _ hitem) (by simp [isString])
    · cases henum
  obtain ⟨hlow, hhigh⟩ := lengths_accepted hmin hmax hbounds
  refine ⟨text, fun path => ?_⟩
  unfold validateString
  dsimp only
  rw [hmember, if_neg Bool.false_ne_true, hlow, if_neg Bool.false_ne_true, hhigh,
    if_neg Bool.false_ne_true]

theorem bound_of_issues {integer : Bool} {key : Text} {bound : Value} {path : Text}
    (h : boundIssues integer key bound path = []) :
    bound.isUndefined ∨ ∃ x : FiniteNumber, bound = .number (.finite x) ∧
      (integer && !isSafeInteger (.finite x)) = false := by
  unfold boundIssues at h
  rw [issueIf_eq_nil] at h
  cases bound with
  | undefined => exact .inl rfl
  | number n =>
      cases n with
      | finite x =>
          refine .inr ⟨x, rfl, ?_⟩
          simpa [isUndefined, isBound] using h
      | nan => cases h
      | infinity negative => cases h
  | _ => cases h

theorem zero_safe : isSafeInteger (.finite ⟨false, 0, by decide⟩) = true := by
  have hzero : (FiniteNumber.mk false 0 (by decide)).toRat = 0 := FiniteNumber.valueOf_zero
  rw [isSafeInteger, hzero]
  rfl

theorem lessThan_self (x : FiniteNumber) : lessThan (.finite x) (.finite x) = false := by
  simp [lessThan]

theorem exists_number {integer : Bool} {fields : Fields} {path : Text}
    (h : numberIssues integer fields path = []) :
    ∃ x : FiniteNumber, ∀ path,
      validateNumber integer fields (.number (.finite x)) path = none := by
  unfold numberIssues at h
  simp only [List.append_eq_nil_iff, issueIf_eq_nil] at h
  obtain ⟨hmin, hmax, hreversed⟩ := h
  -- The least value allowed, the greatest one where there is none, and zero without bounds.
  obtain ⟨x, hsafe, hbelow, habove⟩ : ∃ x : FiniteNumber,
      (integer && !isSafeInteger (.finite x)) = false ∧
      (!(property fields (units "minimum")).isUndefined &&
        numberBelow (.finite x) (property fields (units "minimum"))) = false ∧
      (!(property fields (units "maximum")).isUndefined &&
        numberAbove (.finite x) (property fields (units "maximum"))) = false := by
    rcases bound_of_issues hmin with hundefined | ⟨low, hlow, hsafe⟩
    · rcases bound_of_issues hmax with hundefined' | ⟨high, hhigh, hsafe⟩
      · refine ⟨⟨false, 0, by decide⟩, ?_, ?_, ?_⟩
        · rw [zero_safe, Bool.not_true, Bool.and_false]
        · rw [hundefined, Bool.not_true, Bool.false_and]
        · rw [hundefined', Bool.not_true, Bool.false_and]
      · refine ⟨high, hsafe, ?_, ?_⟩
        · rw [hundefined, Bool.not_true, Bool.false_and]
        · rw [hhigh, numberAbove, lessThan_self, Bool.and_false]
    · refine ⟨low, hsafe, ?_, ?_⟩
      · rw [hlow, numberBelow, lessThan_self, Bool.and_false]
      · rcases bound_of_issues hmax with hundefined' | ⟨high, hhigh, -⟩
        · rw [hundefined', Bool.not_true, Bool.false_and]
        · rw [hlow, hhigh] at hreversed
          have hle : lessThan (.finite high) (.finite low) = false := hreversed
          rw [hhigh, numberAbove, hle, Bool.and_false]
  refine ⟨x, fun path => ?_⟩
  unfold validateNumber
  dsimp only
  rw [hsafe, if_neg Bool.false_ne_true, hbelow, if_neg Bool.false_ne_true, habove,
    if_neg Bool.false_ne_true]

theorem empty_array {check : Value → Text → List ConfigIssue} {fields : Fields} {path : Text}
    (h : arrayIssues check fields path = []) (check' : Value → Text → Option FoundIssue)
    (path' : Text) : validateArray check' fields (.array []) path' = none := by
  unfold arrayIssues at h
  rw [List.append_eq_nil_iff, issueIf_eq_nil, Option.isNone_eq_false_iff,
    Option.isSome_iff_exists] at h
  obtain ⟨⟨n, hn⟩, -⟩ := h
  refine validateArray_eq_none.mpr ⟨[], rfl, ?_, rfl⟩
  rw [countAbove_eq hn]
  simp

/-- The properties and required names of an accepted object schema. -/
theorem objectIssues_eq_nil {check : Value → Text → List ConfigIssue} {fields : Fields} {path : Text}
    (h : objectIssues check fields path = []) :
    (∀ name, hasOwn (declared fields) name →
      ∃ path, check (property (declared fields) name) path = []) ∧
    ∀ name ∈ requiredNames fields, hasOwn (declared fields) name := by
  unfold objectIssues at h
  simp only [List.append_eq_nil_iff] at h
  obtain ⟨-, hproperties, hrequired⟩ := h
  unfold propertiesIssues at hproperties
  dsimp only at hproperties
  split at hproperties
  · rename_i children hchildren
    have hdeclared : declared fields = children := by rw [declared, hchildren]
    rw [hdeclared]
    constructor
    · intro name hname
      exact ⟨_, List.flatMap_eq_nil_iff.mp hproperties name (mem_ownKeys.mpr hname)⟩
    · intro name hname
      rw [requiredNames] at hname
      unfold requiredIssues at hrequired
      rw [hchildren] at hrequired
      split at hname
      · rename_i items hitems
        rw [hitems] at hrequired
        dsimp only at hrequired
        split at hrequired
        · cases hrequired
        · rw [List.append_eq_nil_iff, List.map_eq_nil_iff, List.filter_eq_nil_iff] at hrequired
          simpa using hrequired.2 name hname
      · cases hname
  · cases hproperties

/-- An accepted schema accepts some value. -/
theorem exists_accepted {allowed : ℕ} {schema : Value} {path : Text}
    (h : schemaIssues allowed schema path = []) :
    ∃ value, ∀ path, validateAt allowed schema value path = none := by
  induction allowed generalizing schema path with
  | zero => cases h
  | succ allowed ih =>
      cases schema with
      | object fields =>
          rw [schemaIssues] at h
          split at h
          · cases h
          · rename_i type htype
            rw [List.append_eq_nil_iff] at h
            obtain ⟨-, hissues⟩ := h
            cases type with
            | string =>
                obtain ⟨text, htext⟩ := exists_string hissues
                exact ⟨.string text, fun path => by rw [validateAt, htype]; exact htext path⟩
            | number =>
                obtain ⟨x, hx⟩ := exists_number hissues
                exact ⟨.number (.finite x), fun path => by rw [validateAt, htype]; exact hx path⟩
            | integer =>
                obtain ⟨x, hx⟩ := exists_number hissues
                exact ⟨.number (.finite x), fun path => by rw [validateAt, htype]; exact hx path⟩
            | boolean => exact ⟨.boolean true, fun path => by rw [validateAt, htype]; rfl⟩
            | null => exact ⟨.null, fun path => by rw [validateAt, htype]; rfl⟩
            | array =>
                refine ⟨.array [], fun path => ?_⟩
                rw [validateAt, htype]
                exact empty_array hissues _ path
            | object =>
                obtain ⟨hchildren, hrequired⟩ := objectIssues_eq_nil hissues
                have hvalues : ∀ name, ∃ value, hasOwn (declared fields) name →
                    ∀ path, validateAt allowed (property (declared fields) name) value path =
                      none := by
                  intro name
                  by_cases hname : hasOwn (declared fields) name
                  · obtain ⟨path, hpath⟩ := hchildren name hname
                    obtain ⟨value, hvalue⟩ := ih hpath
                    exact ⟨value, fun _ => hvalue⟩
                  · exact ⟨.null, fun hown => absurd hown hname⟩
                choose value hvalue using hvalues
                refine ⟨.object ((requiredNames fields).map fun name => (name, value name)),
                  fun path => ?_⟩
                have hown : ∀ name, hasOwn ((requiredNames fields).map fun name =>
                    (name, value name)) name = true ↔ name ∈ requiredNames fields := by
                  intro name
                  rw [hasOwn, lookup_isSome, List.map_map]
                  have hid : (Prod.fst ∘ fun name => (name, value name)) = id := rfl
                  rw [hid, List.map_id]
                rw [validateAt, htype]
                refine validateObject_eq_none.mpr ⟨_, rfl, ?_, ?_, ?_⟩
                · intro name hname
                  exact hrequired name ((hown name).mp hname)
                · intro name hname
                  exact (hown name).mpr hname
                · intro name hname
                  have hmem := (hown name).mp hname
                  rw [property_map, if_pos hmem]
                  exact hvalue name (hrequired name hmem) _
      | _ => cases h

/-- Accepted schemas are satisfiable, and what they accept is JSON data with a canonical form
that they accept as well. -/
theorem accepted_schema_sound
    (schema : Value) (path : Text) (h : validateSchemaDefinition schema path = []) :
    (∃ value, isJsonValue value ∧ validateValue schema value = none) ∧
    ∀ value, validateValue schema value = none →
      isJsonValue value ∧
      (∃ form, canonicalize maxNestingDepth value = .ok form ∧
        canonicalJson value maxNestingDepth = .ok (form.stringify PlainNumber.numeral) ∧
        validateValue schema (toValue form) = none) ∧
      ∀ value', isJsonValue value' →
        canonicalJson value' maxNestingDepth = canonicalJson value maxNestingDepth →
        validateValue schema value' = none := by
  constructor
  · obtain ⟨value, hvalue⟩ := exists_accepted h
    exact ⟨value, isJsonAt_of_validateAt (hvalue (units "$")), hvalue (units "$")⟩
  · intro value haccepted
    have hjson := isJsonAt_of_validateAt haccepted
    obtain ⟨form, hform⟩ := canonicalize_ok_of_isJsonAt hjson
    have htext := canonicalJson_of_canonicalize hform
    refine ⟨hjson, ⟨form, hform, htext, ?_⟩, ?_⟩
    · obtain ⟨hdata, hform'⟩ := toValue_of_canonicalize hform
      exact validateAt_congr haccepted hform' hdata.symm
    · intro value' hjson' hsame
      have hdata := (canonicalJson_eq_iff (hsame.trans htext) htext).mp rfl
      exact validateAt_congr haccepted hjson' hdata.symm

def two : FiniteNumber := ⟨false, 4611686018427387904, by decide⟩

/-- An object with a required name and at most two tags. -/
def taggedSchema : Value :=
  .object [
    (units "type", .string (units "object")),
    (units "properties", .object [
      (units "name", .object [
        (units "type", .string (units "string")), (units "minLength", .number (.finite two))]),
      (units "tags", .object [
        (units "type", .string (units "array")), (units "maxItems", .number (.finite two)),
        (units "items", .object [
          (units "type", .string (units "integer")), (units "minimum", .number (.finite two))])])]),
    (units "required", .array [.string (units "name")]),
    (units "additionalProperties", .boolean false)]

theorem accepted_schema_sound_tagged :
    (∃ value, isJsonValue value ∧ validateValue taggedSchema value = none) ∧
    ∀ value, validateValue taggedSchema value = none →
      isJsonValue value ∧
      (∃ form, canonicalize maxNestingDepth value = .ok form ∧
        canonicalJson value maxNestingDepth = .ok (form.stringify PlainNumber.numeral) ∧
        validateValue taggedSchema (toValue form) = none) ∧
      ∀ value', isJsonValue value' →
        canonicalJson value' maxNestingDepth = canonicalJson value maxNestingDepth →
        validateValue taggedSchema value' = none :=
  accepted_schema_sound taggedSchema [] (by decide +kernel)

end StreamOtter.Contracts
