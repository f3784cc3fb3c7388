import StreamOtter.SchemaValidation

/-!
# Configurations as they are handed over

Values with what no JSON text has: undefined properties, arrays with holes and objects that are
not plain.  A value's canonical text is read back as the value that `readBack` computes.
-/

namespace StreamOtter.Configuration

open Ecma
open Contracts (normalized normalized_toRat mapM_eq_ok map_eq_ok exists_forall₂)

/-- A value of the language.  A `hole` is an index of an array without an element, `other` is a
function, a symbol or a big integer.  A name's first entry among the fields is the property. -/
inductive Input
  | undefined
  | null
  | boolean (value : Bool)
  | number (value : JsNumber)
  | string (text : Text)
  | array (items : List Input)
  | object (plain : Bool) (fields : List (Text × Input))
  | hole
  | other

namespace Input

abbrev Fields := List (Text × Input)

def isHole : Input → Bool
  | .hole => true
  | _ => false

/-- What reading an element or a property gives. -/
def read : Input → Input
  | .hole => .undefined
  | value => value

def isUndefined : Input → Bool
  | .undefined | .hole => true
  | _ => false

def isString : Input → Bool
  | .string _ => true
  | _ => false

def asText : Input → Option Text
  | .string text => some text
  | _ => none

def asNumber : Input → Option JsNumber
  | .number n => some n
  | _ => none

def asBoolean : Input → Option Bool
  | .boolean value => some value
  | _ => none

/-- `Object.keys`. -/
def ownKeys (fields : Fields) : List Text := ((enumerationOrder fields).map Prod.fst).dedup

def hasOwn (fields : Fields) (name : Text) : Bool := (fields.lookup name).isSome

def property (fields : Fields) (name : Text) : Input := ((fields.lookup name).getD .undefined).read

/-- The names of the properties that are not undefined, sorted. -/
def definedNames (fields : Fields) : List Text :=
  ((ownKeys fields).insertionSort fun a b => unitsLe a b).filter
    fun name => !(property fields name).isUndefined

/-- `canonicalize`, by the nesting still allowed.  `map` leaves a hole where it is, and
`JSON.stringify` writes it as `null`. -/
def canonicalize : ℕ → Input → Except String (Json PlainNumber)
  | 0, _ => .error "Value exceeds the maximum nesting depth"
  | _ + 1, .null => .ok .null
  | _ + 1, .boolean value => .ok (.boolean value)
  | _ + 1, .string text => .ok (.string text)
  | _ + 1, .number (.finite x) => .ok (.number (normalized x))
  | _ + 1, .number _ => .error "Non-finite numbers are not JSON data"
  | depth + 1, .array items =>
      (items.mapM fun item : Input =>
        if item.isHole then Except.ok Json.null else canonicalize depth item).map .array
  | depth + 1, .object true fields =>
      ((definedNames fields).mapM fun name =>
        (canonicalize depth (property fields name)).map (Prod.mk name)).map .object
  | _ + 1, .object false _ | _ + 1, .undefined | _ + 1, .hole | _ + 1, .other =>
      .error "Value is not JSON data"

def canonicalJson (value : Input) (maxDepth : ℕ) : Except String Text :=
  (canonicalize maxDepth value).map fun form => form.stringify PlainNumber.numeral

mutual

/-- The value of a tree that `JSON.parse` read. -/
def ofJson : Json PlainNumber → Input
  | .null => .null
  | .boolean value => .boolean value
  | .number x => .number (.finite x.number)
  | .string text => .string text
  | .array items => .array (itemsOfJson items)
  | .object fields => .object true (fieldsOfJson fields)

def itemsOfJson : List (Json PlainNumber) → List Input
  | [] => []
  | item :: rest => ofJson item :: itemsOfJson rest

def fieldsOfJson : List (Text × Json PlainNumber) → Fields
  | [] => []
  | (name, item) :: rest => (name, ofJson item) :: fieldsOfJson rest

end

/-- `JSON.parse`: the value of the tree whose text it is. -/
def Parses (text : Text) (value : Input) : Prop :=
  ∃ form : Json PlainNumber, form.print PlainNumber.numeral = text ∧ ofJson form = value

/-- No text is read as two values. -/
theorem parses_unique {text : Text} {v w : Input} (hv : Parses text v) (hw : Parses text w) :
    v = w := by
  obtain ⟨form, hform, rfl⟩ := hv
  obtain ⟨form', hform', rfl⟩ := hw
  rw [Json.print_injective PlainNumber.numerals (hform.trans hform'.symm)]

/-! ## Reading back -/

/-- A number without its sign, if it is a zero. -/
def backNumber : JsNumber → JsNumber
  | .finite x => .finite (normalized x).number
  | n => n

/-- What the canonical text of a value is read back as, by the nesting still allowed. -/
def readBack : ℕ → Input → Input
  | _, .number n => .number (backNumber n)
  | depth + 1, .array items =>
      .array (items.map fun item => if item.isHole then .null else readBack depth item)
  | depth + 1, .object _ fields =>
      .object true (enumerationOrder ((definedNames fields).map fun name =>
        (name, readBack depth (property fields name))))
  | _, value => value

/-- The fields that an object's fields are read back as. -/
def backFields (depth : ℕ) (fields : Fields) : Fields :=
  enumerationOrder ((definedNames fields).map fun name =>
    (name, readBack depth (property fields name)))

/-- JSON data within the nesting allowed, but for undefined properties and for holes in arrays,
which have strings only. -/
def shaped : ℕ → Input → Bool
  | 0, _ => false
  | _ + 1, .null | _ + 1, .boolean _ | _ + 1, .string _ | _ + 1, .number (.finite _) => true
  | depth + 1, .array items => items.all fun item => item.isHole || (item.isString && 0 < depth)
  | depth + 1, .object plain fields =>
      plain && (ownKeys fields).all fun name =>
        (property fields name).isUndefined || shaped depth (property fields name)
  | _ + 1, _ => false

/-- No array has a hole. -/
def dense : ℕ → Input → Bool
  | depth + 1, .array items => items.all fun item => !item.isHole && dense depth item
  | depth + 1, .object _ fields => (ownKeys fields).all fun name => dense depth (property fields name)
  | _, _ => true

section Fields

variable {fields : Fields} {name : Text}

@[simp] theorem isUndefined_read (v : Input) : v.read.isUndefined = v.isUndefined := by
  cases v <;> rfl

theorem property_cons_self (item : Input) (rest : Fields) :
    property ((name, item) :: rest) name = item.read := by
  rw [property, List.lookup_cons_self, Option.getD_some]

theorem property_cons_of_ne {other : Text} (h : name ≠ other) (item : Input) (rest : Fields) :
    property ((other, item) :: rest) name = property rest name := by
  rw [property, List.lookup_cons, beq_eq_false_iff_ne.mpr h, property]

theorem mem_ownKeys : name ∈ ownKeys fields ↔ hasOwn fields name := by
  unfold ownKeys hasOwn
  rw [List.mem_dedup, Value.lookup_isSome]
  exact ((enumerationOrder_perm fields).map Prod.fst).mem_iff

theorem nodup_ownKeys (fields : Fields) : (ownKeys fields).Nodup := List.nodup_dedup _

theorem hasOwn_of_defined (h : (property fields name).isUndefined = false) :
    hasOwn fields name := by
  unfold property at h
  unfold hasOwn
  cases hlookup : fields.lookup name with
  | none => simp [hlookup, read, isUndefined] at h
  | some item => rfl

theorem mem_definedNames :
    name ∈ definedNames fields ↔ (property fields name).isUndefined = false := by
  unfold definedNames
  rw [List.mem_filter, Bool.not_eq_true', List.mem_insertionSort, mem_ownKeys]
  exact ⟨fun h => h.2, fun h => ⟨hasOwn_of_defined h, h⟩⟩

theorem nodup_definedNames (fields : Fields) : (definedNames fields).Nodup := by
  have hperm := List.perm_insertionSort (fun a b => unitsLe a b = true) (ownKeys fields)
  exact (hperm.nodup_iff.mpr (nodup_ownKeys fields)).filter _

theorem sorted_definedNames (fields : Fields) :
    (definedNames fields).Pairwise fun a b => unitsLe a b := by
  have htotal : Std.Total fun a b => unitsLe a b = true := ⟨unitsLe_total⟩
  have htrans : IsTrans Text fun a b => unitsLe a b = true := ⟨fun _ _ _ => unitsLe_trans⟩
  exact (List.pairwise_insertionSort _ _).filter _

/-- Sorted names are determined by which they are. -/
theorem definedNames_eq {fields' : Fields}
    (h : ∀ name, (property fields name).isUndefined = (property fields' name).isUndefined) :
    definedNames fields = definedNames fields' := by
  have hperm : (definedNames fields).Perm (definedNames fields') := by
    rw [List.perm_ext_iff_of_nodup (nodup_definedNames fields) (nodup_definedNames fields')]
    intro name
    rw [mem_definedNames, mem_definedNames, h]
  exact hperm.eq_of_pairwise (fun a b _ _ => unitsLe_antisymm) (sorted_definedNames fields)
    (sorted_definedNames fields')

end Fields

/-! ## What is read back -/

/-- A lookup does not depend on the order of distinct names. -/
theorem lookup_perm {α : Type*} {l l' : List (Text × α)} (hperm : l.Perm l')
    (hnodup : (l.map Prod.fst).Nodup) (name : Text) : l.lookup name = l'.lookup name := by
  induction hperm with
  | nil => rfl
  | cons entry _ ih =>
      rw [List.map_cons, List.nodup_cons] at hnodup
      rw [List.lookup_cons, List.lookup_cons, ih hnodup.2]
  | swap first second rest =>
      simp only [List.map_cons, List.nodup_cons, List.mem_cons, not_or] at hnodup
      rw [List.lookup_cons, List.lookup_cons, List.lookup_cons, List.lookup_cons]
      by_cases hfirst : name = first.1
      · have hsecond : name ≠ second.1 := fun heq => hnodup.1.1 (heq.symm.trans hfirst)
        simp [hfirst, beq_eq_false_iff_ne.mpr (hfirst ▸ hsecond)]
      · simp [beq_eq_false_iff_ne.mpr hfirst]
  | trans hfirst _ ihfirst ihsecond =>
      rw [ihfirst hnodup, ihsecond ((hfirst.map Prod.fst).nodup_iff.mp hnodup)]

theorem lookup_map {α : Type*} (names : List Text) (f : Text → α) (name : Text) :
    (names.map fun name => (name, f name)).lookup name =
      if name ∈ names then some (f name) else none := by
  induction names with
  | nil => rfl
  | cons other rest ih =>
      rw [List.map_cons, List.lookup_cons, ih]
      by_cases hname : name = other
      · simp [hname]
      · simp [hname, beq_eq_false_iff_ne.mpr hname]

/-- The order of enumeration does not look at what the fields hold. -/
theorem enumerationOrder_map {α β : Type*} (f : α → β) (fields : List (Text × α)) :
    enumerationOrder (fields.map (Prod.map id f)) =
      (enumerationOrder fields).map (Prod.map id f) := by
  unfold enumerationOrder
  rw [List.map_append, List.filter_map, List.filter_map]
  congr 1
  symm
  apply List.map_insertionSort
  intro a _ b _
  rfl

section ReadBack

variable {depth : ℕ} {plain : Bool} {fields : Fields} {name : Text} {v : Input}
  {c : Json PlainNumber}

theorem readBack_object (depth : ℕ) (plain : Bool) (fields : Fields) :
    readBack (depth + 1) (.object plain fields) = .object true (backFields depth fields) := rfl

@[simp] theorem isUndefined_readBack (depth : ℕ) (v : Input) :
    (readBack depth v).isUndefined = v.isUndefined := by
  cases depth <;> cases v <;> rfl

theorem isHole_readBack (depth : ℕ) (v : Input) : (readBack depth v).isHole = v.isHole := by
  cases depth <;> cases v <;> rfl

theorem read_of_isHole (h : v.isHole = false) : v.read = v := by
  cases v with
  | hole => cases h
  | _ => rfl

theorem isHole_property (fields : Fields) (name : Text) : (property fields name).isHole = false := by
  unfold property
  cases (fields.lookup name).getD .undefined <;> rfl

theorem property_of_isUndefined (h : (property fields name).isUndefined = true) :
    property fields name = .undefined := by
  have hhole := isHole_property fields name
  cases hproperty : property fields name with
  | undefined => rfl
  | hole => simp [hproperty, isHole] at hhole
  | _ => simp [hproperty, isUndefined] at h

theorem lookup_backFields (depth : ℕ) (fields : Fields) (name : Text) :
    (backFields depth fields).lookup name =
      if (property fields name).isUndefined then none
      else some (readBack depth (property fields name)) := by
  unfold backFields
  have hperm := enumerationOrder_perm ((definedNames fields).map fun name =>
    (name, readBack depth (property fields name)))
  have hnodup : (((definedNames fields).map fun name =>
      (name, readBack depth (property fields name))).map Prod.fst).Nodup := by
    rw [List.map_map]
    simpa [Function.comp_def] using nodup_definedNames fields
  rw [← lookup_perm hperm.symm hnodup, lookup_map]
  by_cases hundefined : (property fields name).isUndefined = true
  · simp [mem_definedNames, hundefined]
  · simp [mem_definedNames, hundefined]

@[simp] theorem property_backFields (depth : ℕ) (fields : Fields) (name : Text) :
    property (backFields depth fields) name = readBack depth (property fields name) := by
  by_cases hundefined : (property fields name).isUndefined = true
  · rw [property, lookup_backFields, if_pos hundefined, property_of_isUndefined hundefined]
    cases depth <;> rfl
  · rw [property, lookup_backFields, if_neg hundefined, Option.getD_some]
    apply read_of_isHole
    rw [isHole_readBack, isHole_property]

@[simp] theorem hasOwn_backFields (depth : ℕ) (fields : Fields) (name : Text) :
    hasOwn (backFields depth fields) name = !(property fields name).isUndefined := by
  rw [hasOwn, lookup_backFields]
  cases (property fields name).isUndefined <;> rfl

theorem definedNames_backFields (depth : ℕ) (fields : Fields) :
    definedNames (backFields depth fields) = definedNames fields := by
  apply definedNames_eq
  intro name
  rw [property_backFields, isUndefined_readBack]

theorem canonicalize_array {items : List Input} :
    canonicalize (depth + 1) (.array items) = .ok c ↔
      ∃ forms, List.Forall₂ (fun item form =>
        (if item.isHole then .ok .null else canonicalize depth item) = .ok form) items forms ∧
        .array forms = c := by
  rw [canonicalize, map_eq_ok]
  simp only [mapM_eq_ok]

/-- The canonical forms of a plain object's properties. -/
theorem canonicalize_object :
    canonicalize (depth + 1) (.object true fields) = .ok c ↔
      ∃ entries, List.Forall₂ (fun name entry =>
        entry.1 = name ∧ canonicalize depth (property fields name) = .ok entry.2)
          (definedNames fields) entries ∧ .object entries = c := by
  have hentry : ∀ (name : Text) (entry : Text × Json PlainNumber) (item : Input),
      (canonicalize depth item).map (Prod.mk name) = .ok entry ↔
        entry.1 = name ∧ canonicalize depth item = .ok entry.2 := by
    rintro name ⟨name', form⟩ item
    rw [map_eq_ok]
    constructor
    · rintro ⟨form', hform, heq⟩
      obtain ⟨rfl, rfl⟩ := Prod.mk.inj heq
      exact ⟨rfl, hform⟩
    · rintro ⟨rfl, hform⟩
      exact ⟨form, hform, rfl⟩
  rw [canonicalize, map_eq_ok]
  simp only [mapM_eq_ok, hentry]

theorem itemsOfJson_eq_map (items : List (Json PlainNumber)) :
    itemsOfJson items = items.map ofJson := by
  induction items with
  | nil => rfl
  | cons item rest ih => rw [itemsOfJson, ih, List.map_cons]

theorem fieldsOfJson_eq_map (fields : List (Text × Json PlainNumber)) :
    fieldsOfJson fields = fields.map (Prod.map id ofJson) := by
  induction fields with
  | nil => rfl
  | cons field rest ih => rw [fieldsOfJson, ih, List.map_cons, Prod.map_apply, id]

theorem map_eq_of_forall₂ {α β γ : Type*} {R : α → β → Prop} {f : α → γ} {g : β → γ} {l : List α}
    {r : List β} (h : List.Forall₂ R l r) (hone : ∀ a b, R a b → g b = f a) : r.map g = l.map f := by
  induction h with
  | nil => rfl
  | cons hhead _ ih => rw [List.map_cons, List.map_cons, hone _ _ hhead, ih]

/-- The tree that a canonical text prints is the value read back. -/
theorem ofJson_enumerated (h : canonicalize depth v = .ok c) :
    ofJson c.enumerated = readBack depth v := by
  induction depth generalizing v c with
  | zero => cases h
  | succ depth ih =>
      cases v with
      | undefined => cases h
      | hole => cases h
      | other => cases h
      | null =>
          obtain rfl := Except.ok.inj h
          rfl
      | boolean value =>
          obtain rfl := Except.ok.inj h
          rfl
      | string text =>
          obtain rfl := Except.ok.inj h
          rfl
      | number n =>
          cases n with
          | nan => cases h
          | infinity negative => cases h
          | finite x =>
              obtain rfl := Except.ok.inj h
              rfl
      | array items =>
          obtain ⟨forms, hforms, rfl⟩ := canonicalize_array.mp h
          rw [Json.enumerated, ofJson, readBack, Json.enumerateItems_eq_map, itemsOfJson_eq_map,
            List.map_map]
          congr 1
          apply map_eq_of_forall₂ hforms
          intro item form hform
          cases hhole : item.isHole with
          | true =>
              rw [hhole] at hform
              obtain rfl := Except.ok.inj hform
              rfl
          | false =>
              rw [hhole] at hform
              exact ih hform
      | object plain fields =>
          cases plain with
          | false => cases h
          | true =>
              obtain ⟨entries, hentries, rfl⟩ := canonicalize_object.mp h
              rw [Json.enumerated, ofJson, readBack, Json.enumerateFields_eq_map,
                enumerationOrder_map, fieldsOfJson_eq_map, List.map_map, Prod.map_comp_map,
                Function.id_comp, ← enumerationOrder_map]
              congr 2
              apply map_eq_of_forall₂ hentries
              rintro name ⟨name', form⟩ ⟨rfl, hform⟩
              exact Prod.ext rfl (ih hform)

theorem normalized_number (x : PlainNumber) : normalized x.number = x := by
  rw [normalized, dif_neg (by simp [x.plain])]

theorem dense_property (h : dense (depth + 1) (.object plain fields)) (name : Text) :
    dense depth (property fields name) := by
  rw [dense, List.all_eq_true] at h
  cases hundefined : (property fields name).isUndefined with
  | true =>
      rw [property_of_isUndefined hundefined]
      cases depth <;> rfl
  | false => exact h name (mem_ownKeys.mpr (hasOwn_of_defined hundefined))

/-- The value read back has the same canonical form. -/
theorem canonicalize_readBack (h : canonicalize depth v = .ok c) (hdense : dense depth v) :
    canonicalize depth (readBack depth v) = .ok c := by
  induction depth generalizing v c with
  | zero => cases h
  | succ depth ih =>
      cases v with
      | number n =>
          cases n with
          | nan => cases h
          | infinity negative => cases h
          | finite x =>
              obtain rfl := Except.ok.inj h
              rw [readBack, backNumber, canonicalize, normalized_number]
      | array items =>
          obtain ⟨forms, hforms, rfl⟩ := canonicalize_array.mp h
          rw [dense, List.all_eq_true] at hdense
          rw [readBack, canonicalize_array]
          refine ⟨forms, ?_, rfl⟩
          rw [List.forall₂_map_left_iff]
          have hitems := List.forall₂_iff_zip.mp hforms
          refine List.forall₂_iff_zip.mpr ⟨hitems.1, ?_⟩
          intro item form hmem
          have hitem := hdense item (List.of_mem_zip hmem).1
          simp only [Bool.and_eq_true, Bool.not_eq_true'] at hitem
          have hform := hitems.2 hmem
          rw [hitem.1] at hform
          simp only [Bool.false_eq_true, if_false, isHole_readBack, hitem.1]
          exact ih hform hitem.2
      | object plain fields =>
          cases plain with
          | false => cases h
          | true =>
              obtain ⟨entries, hentries, rfl⟩ := canonicalize_object.mp h
              show canonicalize (depth + 1) (.object true (backFields depth fields)) = _
              rw [canonicalize_object, definedNames_backFields]
              refine ⟨entries, hentries.imp ?_, rfl⟩
              rintro name entry ⟨hname, hform⟩
              rw [property_backFields]
              exact ⟨hname, ih hform (dense_property hdense name)⟩
      | _ => exact h

/-- What has the shape has a canonical form. -/
theorem canonicalize_of_shaped (h : shaped depth v) : ∃ c, canonicalize depth v = .ok c := by
  induction depth generalizing v with
  | zero => cases h
  | succ depth ih =>
      cases v with
      | undefined => cases h
      | hole => cases h
      | other => cases h
      | null => exact ⟨_, rfl⟩
      | boolean value => exact ⟨_, rfl⟩
      | string text => exact ⟨_, rfl⟩
      | number n =>
          cases n with
          | nan => cases h
          | infinity negative => cases h
          | finite x => exact ⟨_, rfl⟩
      | array items =>
          rw [shaped, List.all_eq_true] at h
          obtain ⟨forms, hforms⟩ := @exists_forall₂ _ _ (fun (item : Input) form =>
            (if item.isHole then .ok .null else canonicalize depth item) = .ok form) items (by
              intro item hitem
              have hshape := h item hitem
              cases item with
              | hole => exact ⟨_, rfl⟩
              | string text =>
                  cases depth with
                  | zero => simp [isHole] at hshape
                  | succ depth => exact ⟨_, rfl⟩
              | _ => simp [isHole, isString] at hshape)
          exact ⟨_, canonicalize_array.mpr ⟨forms, hforms, rfl⟩⟩
      | object plain fields =>
          rw [shaped, Bool.and_eq_true, List.all_eq_true] at h
          obtain ⟨rfl, hfields⟩ := h
          have hnames : ∀ name ∈ definedNames fields, ∃ entry : Text × Json PlainNumber,
              entry.1 = name ∧ canonicalize depth (property fields name) = .ok entry.2 := by
            intro name hname
            have hdefined := mem_definedNames.mp hname
            have hshape := hfields name (mem_ownKeys.mpr (hasOwn_of_defined hdefined))
            rw [hdefined, Bool.false_or] at hshape
            obtain ⟨form, hform⟩ := ih hshape
            exact ⟨(name, form), rfl, hform⟩
          obtain ⟨entries, hentries⟩ := exists_forall₂ hnames
          exact ⟨_, canonicalize_object.mpr ⟨entries, hentries, rfl⟩⟩

/-- A hole is read back as a `null`, which the shape does not allow in an array. -/
theorem dense_of_shaped_readBack (h : shaped depth v) (hback : shaped depth (readBack depth v)) :
    dense depth v := by
  induction depth generalizing v with
  | zero => cases h
  | succ depth ih =>
      cases v with
      | array items =>
          rw [shaped, List.all_eq_true] at h
          rw [readBack, shaped, List.all_map, List.all_eq_true] at hback
          rw [dense, List.all_eq_true]
          intro item hitem
          have hshape := h item hitem
          have hshapeBack := hback item hitem
          cases item with
          | hole => simp [isHole, isString] at hshapeBack
          | string text => cases depth <;> rfl
          | _ => simp [isHole, isString] at hshape
      | object plain fields =>
          rw [shaped, Bool.and_eq_true, List.all_eq_true] at h
          have hback' : shaped (depth + 1) (.object true (backFields depth fields)) := hback
          rw [shaped, Bool.and_eq_true, List.all_eq_true] at hback'
          rw [dense, List.all_eq_true]
          intro name hname
          cases hundefined : (property fields name).isUndefined with
          | true =>
              rw [property_of_isUndefined hundefined]
              cases depth <;> rfl
          | false =>
              have hshape := h.2 name hname
              have hshapeBack := hback'.2 name
                (mem_ownKeys.mpr (by rw [hasOwn_backFields, hundefined]; rfl))
              rw [hundefined, Bool.false_or] at hshape
              rw [property_backFields, isUndefined_readBack, hundefined, Bool.false_or] at hshapeBack
              exact ih hshape hshapeBack
      | _ => rfl

/-! ### What checks read -/

@[simp] theorem backNumber_finite (x : FiniteNumber) :
    backNumber (.finite x) = .finite (normalized x).number := rfl

@[simp] theorem toRat_normalized (x : FiniteNumber) : (normalized x).number.toRat = x.toRat :=
  normalized_toRat x

@[simp] theorem asText_readBack (depth : ℕ) (v : Input) :
    (readBack depth v).asText = v.asText := by
  cases depth <;> cases v <;> rfl

@[simp] theorem asBoolean_readBack (depth : ℕ) (v : Input) :
    (readBack depth v).asBoolean = v.asBoolean := by
  cases depth <;> cases v <;> rfl

@[simp] theorem asNumber_readBack (depth : ℕ) (v : Input) :
    (readBack depth v).asNumber = v.asNumber.map backNumber := by
  cases depth <;> cases v <;> rfl

/-- An array of strings is read back as it was. -/
theorem readBack_strings {items : List Input}
    (hitems : ∀ item ∈ items, item.isHole || item.isString)
    (hdense : dense depth (.array items)) : readBack depth (.array items) = .array items := by
  cases depth with
  | zero => rfl
  | succ depth =>
      rw [dense, List.all_eq_true] at hdense
      rw [readBack]
      congr 1
      conv_rhs => rw [← List.map_id items]
      apply List.map_congr_left
      intro item hitem
      have hstring := hitems item hitem
      have hfull := hdense item hitem
      cases item with
      | hole => simp [isHole] at hfull
      | string text => cases depth <;> rfl
      | _ => simp [isHole, isString] at hstring

theorem shaped_mono {depth' : ℕ} (hle : depth ≤ depth') (h : shaped depth v) :
    shaped depth' v := by
  induction depth generalizing v depth' with
  | zero => cases h
  | succ depth ih =>
      obtain ⟨depth', rfl⟩ : ∃ n, depth' = n + 1 := ⟨depth' - 1, by omega⟩
      cases v with
      | number n => cases n <;> exact h
      | array items =>
          rw [shaped, List.all_eq_true] at h ⊢
          intro item hitem
          have hitem := h item hitem
          simp only [Bool.or_eq_true, Bool.and_eq_true, decide_eq_true_eq] at hitem ⊢
          exact hitem.imp_right fun hstring => ⟨hstring.1, by omega⟩
      | object plain fields =>
          rw [shaped, Bool.and_eq_true, List.all_eq_true] at h ⊢
          refine ⟨h.1, ?_⟩
          intro name hname
          have hproperty := h.2 name hname
          rw [Bool.or_eq_true] at hproperty ⊢
          exact hproperty.imp_right (ih (by omega))
      | _ => exact h

/-- A plain object of known properties has the shape where they do. -/
theorem shaped_object {names : List Text} (hnames : ∀ name, hasOwn fields name → name ∈ names)
    (hfields : names.Forall fun name =>
      (property fields name).isUndefined ∨ shaped depth (property fields name)) :
    shaped (depth + 1) (.object true fields) := by
  rw [shaped, Bool.true_and, List.all_eq_true]
  intro name hname
  rw [Bool.or_eq_true]
  exact List.forall_iff_forall_mem.mp hfields name (hnames name (mem_ownKeys.mp hname))

theorem shaped_text {text : Text} (h : v.asText = some text) : shaped (depth + 1) v := by
  cases v with
  | string text => rfl
  | _ => cases h

theorem shaped_boolean {value : Bool} (h : v.asBoolean = some value) : shaped (depth + 1) v := by
  cases v with
  | boolean value => rfl
  | _ => cases h

theorem shaped_number {x : FiniteNumber} (h : v.asNumber = some (.finite x)) :
    shaped (depth + 1) v := by
  cases v with
  | number n =>
      obtain rfl := Option.some.inj h
      rfl
  | _ => cases h

theorem shaped_strings {items : List Input}
    (hitems : ∀ item ∈ items, item.isHole || item.isString) :
    shaped (depth + 2) (.array items) := by
  rw [shaped, List.all_eq_true]
  intro item hitem
  have hstring := hitems item hitem
  rw [Bool.or_eq_true] at hstring ⊢
  exact hstring.imp_right fun h => by simp [h]

end ReadBack

end Input

end StreamOtter.Configuration
