import StreamOtter.NumberText
import Mathlib.Data.List.Dedup

/-!
# ECMAScript values

Values as code sees them that came from outside, what their plain objects answer, and what
they are as data.
-/

namespace Ecma

inductive JsNumber
  | nan
  | infinity (negative : Bool)
  | finite (x : FiniteNumber)
  deriving DecidableEq

/-- A value of the language; `foreign` is anything that is neither a primitive, an array nor a
plain object.  A name's first entry among the fields is the property. -/
inductive Value
  | undefined
  | null
  | boolean (value : Bool)
  | number (value : JsNumber)
  | string (text : Text)
  | array (items : List Value)
  | object (fields : List (Text × Value))
  | foreign

/-- The order of `Array.prototype.sort` without a comparison. -/
def unitsLe : Text → Text → Bool
  | [], _ => true
  | _ :: _, [] => false
  | a :: s, b :: t => a.toNat < b.toNat || (a = b && unitsLe s t)

theorem unitsLe_total (s t : Text) : unitsLe s t ∨ unitsLe t s := by
  induction s generalizing t with
  | nil => exact .inl rfl
  | cons a s ih =>
      cases t with
      | nil => exact .inr rfl
      | cons b t =>
          simp only [unitsLe, Bool.or_eq_true, Bool.and_eq_true, decide_eq_true_eq]
          rcases Nat.lt_trichotomy a.toNat b.toNat with hlt | heq | hgt
          · exact .inl (.inl hlt)
          · obtain rfl := UInt16.toNat.inj heq
            rcases ih t with hle | hle
            · exact .inl (.inr ⟨rfl, hle⟩)
            · exact .inr (.inr ⟨rfl, hle⟩)
          · exact .inr (.inl hgt)

theorem unitsLe_antisymm {s t : Text} (hst : unitsLe s t) (hts : unitsLe t s) : s = t := by
  induction s generalizing t with
  | nil =>
      cases t with
      | nil => rfl
      | cons b t => exact absurd hts (by simp [unitsLe])
  | cons a s ih =>
      cases t with
      | nil => exact absurd hst (by simp [unitsLe])
      | cons b t =>
          simp only [unitsLe, Bool.or_eq_true, Bool.and_eq_true, decide_eq_true_eq] at hst hts
          rcases hst with hlt | ⟨rfl, hle⟩
          · rcases hts with hlt' | ⟨rfl, -⟩
            · omega
            · omega
          · rcases hts with hlt' | ⟨-, hle'⟩
            · omega
            · rw [ih hle hle']

theorem unitsLe_trans {s t u : Text} (hst : unitsLe s t) (htu : unitsLe t u) : unitsLe s u := by
  induction s generalizing t u with
  | nil => rfl
  | cons a s ih =>
      cases t with
      | nil => exact absurd hst (by simp [unitsLe])
      | cons b t =>
          cases u with
          | nil => exact absurd htu (by simp [unitsLe])
          | cons c u =>
              simp only [unitsLe, Bool.or_eq_true, Bool.and_eq_true, decide_eq_true_eq] at hst htu ⊢
              rcases hst with hlt | ⟨rfl, hle⟩
              · rcases htu with hlt' | ⟨rfl, -⟩
                · exact .inl (by omega)
                · exact .inl hlt
              · rcases htu with hlt' | ⟨rfl, hle'⟩
                · exact .inl hlt'
                · exact .inr ⟨rfl, ih hle hle'⟩

namespace Value

abbrev Fields := List (Text × Value)

def isUndefined : Value → Bool
  | .undefined => true
  | _ => false

/-- `Object.keys` of a plain object. -/
def ownKeys (fields : Fields) : List Text := ((enumerationOrder fields).map Prod.fst).dedup

def hasOwn (fields : Fields) (name : Text) : Bool := (fields.lookup name).isSome

/-- A property of a plain object, `undefined` when it has none of that name. -/
def property (fields : Fields) (name : Text) : Value := (fields.lookup name).getD .undefined

theorem property_cons_self (name : Text) (item : Value) (rest : Fields) :
    property ((name, item) :: rest) name = item := by
  rw [property, List.lookup_cons_self, Option.getD_some]

theorem property_cons_of_ne {name other : Text} (h : name ≠ other) (item : Value)
    (rest : Fields) : property ((other, item) :: rest) name = property rest name := by
  rw [property, List.lookup_cons, beq_eq_false_iff_ne.mpr h, property]

/-- The property with its name, unless it is undefined. -/
def definedField (fields : Fields) (name : Text) : Option (Text × Value) :=
  if (property fields name).isUndefined then none else some (name, property fields name)

theorem lookup_isSome {α : Type*} {fields : List (Text × α)} {name : Text} :
    (fields.lookup name).isSome ↔ name ∈ fields.map Prod.fst := by
  induction fields with
  | nil => simp
  | cons field rest ih =>
      rw [List.lookup_cons, List.map_cons, List.mem_cons, ← ih]
      by_cases hname : name = field.1
      · simp [hname]
      · simp [hname, beq_eq_false_iff_ne.mpr hname]

theorem mem_ownKeys {fields : Fields} {name : Text} : name ∈ ownKeys fields ↔ hasOwn fields name := by
  unfold ownKeys hasOwn
  rw [List.mem_dedup, lookup_isSome]
  exact ((enumerationOrder_perm fields).map Prod.fst).mem_iff

theorem nodup_ownKeys (fields : Fields) : (ownKeys fields).Nodup := List.nodup_dedup _

theorem property_of_not_hasOwn {fields : Fields} {name : Text} (h : hasOwn fields name = false) :
    property fields name = .undefined := by
  unfold hasOwn at h
  unfold property
  rw [Option.isSome_eq_false_iff, Option.isNone_iff_eq_none] at h
  rw [h, Option.getD_none]

theorem property_mem {fields : Fields} {name : Text} (h : hasOwn fields name) :
    (name, property fields name) ∈ fields := by
  induction fields with
  | nil => cases h
  | cons field rest ih =>
      obtain ⟨other, item⟩ := field
      by_cases hname : name = other
      · subst hname
        rw [property_cons_self]
        exact List.mem_cons_self
      · rw [property_cons_of_ne hname]
        refine List.mem_cons_of_mem _ (ih ?_)
        rwa [hasOwn, List.lookup_cons, beq_eq_false_iff_ne.mpr hname] at h

theorem hasOwn_of_defined {fields : Fields} {name : Text}
    (h : (property fields name).isUndefined = false) : hasOwn fields name := by
  by_contra hnot
  rw [property_of_not_hasOwn (Bool.not_eq_true _ ▸ hnot)] at h
  exact absurd h (by decide)

theorem property_map {names : List Text} {f : Text → Value} (name : Text) :
    property (names.map fun name => (name, f name)) name =
      if name ∈ names then f name else .undefined := by
  induction names with
  | nil => rfl
  | cons other rest ih =>
      rw [List.map_cons]
      by_cases hname : name = other
      · subst hname
        rw [property_cons_self, if_pos List.mem_cons_self]
      · rw [property_cons_of_ne hname, ih]
        simp [hname]

end Value

/-! ## Equality as data -/

/-- What a value is as data: objects without the order of their fields and without undefined
ones, numbers by their values. -/
inductive Data
  | null
  | boolean (value : Bool)
  | number (value : ℚ)
  | string (text : Text)
  | array (items : List Data)
  | object (fields : Text → Option Data)
  | other

def JsNumber.data : JsNumber → Data
  | .finite x => .number x.toRat
  | .nan | .infinity _ => .other

namespace Value

mutual

def data : Value → Data
  | .null => .null
  | .boolean value => .boolean value
  | .number value => value.data
  | .string text => .string text
  | .array items => .array (itemsData items)
  | .object fields => .object (fieldsData fields)
  | .undefined | .foreign => .other

def itemsData : List Value → List Data
  | [] => []
  | item :: rest => item.data :: itemsData rest

def fieldsData : List (Text × Value) → Text → Option Data
  | [], _ => none
  | (name, item) :: rest, key =>
      if key = name then if item.isUndefined then none else some item.data
      else fieldsData rest key

end

/-- The kind of JSON data that a value is, if it is any. -/
def kind : Value → ℕ
  | .null => 0
  | .boolean _ => 1
  | .number _ => 2
  | .string _ => 3
  | .array _ => 4
  | .object _ => 5
  | .undefined | .foreign => 6

theorem eq_null_of_data {v : Value} (h : v.data = .null) : v = .null := by
  cases v with
  | null => rfl
  | number n => cases n <;> cases h
  | _ => cases h

theorem eq_boolean_of_data {v : Value} {value : Bool} (h : v.data = .boolean value) :
    v = .boolean value := by
  cases v with
  | boolean value' => rw [Data.boolean.inj h]
  | number n => cases n <;> cases h
  | _ => cases h

theorem eq_string_of_data {v : Value} {text : Text} (h : v.data = .string text) :
    v = .string text := by
  cases v with
  | string text' => rw [Data.string.inj h]
  | number n => cases n <;> cases h
  | _ => cases h

theorem eq_number_of_data {v : Value} {value : ℚ} (h : v.data = .number value) :
    ∃ x : FiniteNumber, v = .number (.finite x) ∧ x.toRat = value := by
  cases v with
  | number n =>
      cases n with
      | finite x => exact ⟨x, rfl, Data.number.inj h⟩
      | nan => cases h
      | infinity negative => cases h
  | _ => cases h

theorem eq_array_of_data {v : Value} {data : List Data} (h : v.data = .array data) :
    ∃ items, v = .array items ∧ itemsData items = data := by
  cases v with
  | array items => exact ⟨items, rfl, Data.array.inj h⟩
  | number n => cases n <;> cases h
  | _ => cases h

theorem eq_object_of_data {v : Value} {data : Text → Option Data} (h : v.data = .object data) :
    ∃ fields, v = .object fields ∧ fieldsData fields = data := by
  cases v with
  | object fields => exact ⟨fields, rfl, Data.object.inj h⟩
  | number n => cases n <;> cases h
  | _ => cases h

theorem itemsData_eq_map (items : List Value) : itemsData items = items.map data := by
  induction items with
  | nil => rfl
  | cons item rest ih => rw [itemsData, ih, List.map_cons]

theorem fieldsData_eq (fields : Fields) (name : Text) :
    fieldsData fields name =
      if (property fields name).isUndefined then none else some (property fields name).data := by
  induction fields with
  | nil => rfl
  | cons field rest ih =>
      obtain ⟨other, item⟩ := field
      rw [fieldsData]
      by_cases hname : name = other
      · subst hname
        rw [if_pos rfl, property_cons_self]
      · rw [if_neg hname, ih, property_cons_of_ne hname]

/-- What the fields as data say of a property. -/
theorem fieldsData_defined {fields : Fields} {name : Text}
    (h : (property fields name).isUndefined = false) :
    fieldsData fields name = some (property fields name).data := by
  rw [fieldsData_eq, h, if_neg Bool.false_ne_true]

theorem isUndefined_eq {fields fields' : Fields}
    (h : fieldsData fields = fieldsData fields') (name : Text) :
    (property fields name).isUndefined = (property fields' name).isUndefined := by
  have hname := congrFun h name
  rw [fieldsData_eq, fieldsData_eq] at hname
  split at hname <;> split at hname <;> simp_all

end Value

end Ecma
