import StreamOtter.EcmaValue
import StreamOtter.JsValue
import Mathlib.Data.List.Forall2

/-!
# Canonical JSON

A translation of `isJsonValue`, `withoutUndefinedProperties` and `canonicalJson` of the
contracts, over values with numbers and strings as the language has them.  Two values have
one canonical text just if they are equal as data.
-/

namespace StreamOtter.Contracts

open Ecma Value

/-! ## Checks -/

/-- `isJsonValue`, by the nesting still allowed. -/
def isJsonAt : ℕ → Value → Bool
  | 0, _ => false
  | _ + 1, .null | _ + 1, .string _ | _ + 1, .boolean _ => true
  | _ + 1, .number (.finite _) => true
  | _ + 1, .number _ => false
  | depth + 1, .array items => items.all (isJsonAt depth)
  | depth + 1, .object fields =>
      (ownKeys fields).all fun name => isJsonAt depth (property fields name)
  | _ + 1, .undefined | _ + 1, .foreign => false

def isJsonValue (value : Value) : Bool := isJsonAt maxNestingDepth value

/-- `withoutUndefinedProperties`, by the nesting still allowed. -/
def withoutUndefinedAt : ℕ → Value → Value
  | 0, value => value
  | depth + 1, .array items => .array (items.map (withoutUndefinedAt depth))
  | depth + 1, .object fields =>
      .object (((ownKeys fields).filterMap (definedField fields)).map
        (Prod.map id (withoutUndefinedAt depth)))
  | _ + 1, value => value

def withoutUndefinedProperties (value : Value) : Value := withoutUndefinedAt maxNestingDepth value

/-! ## Canonical form -/

/-- `Object.is(value, -0) ? 0 : value`. -/
def normalized (x : FiniteNumber) : PlainNumber :=
  if h : x.isNegativeZero then ⟨⟨false, 0, by decide⟩, rfl⟩ else ⟨x, Bool.not_eq_true _ ▸ h⟩

/-- The properties with their names, sorted, and without the undefined ones. -/
def sortedFields (fields : Fields) : Fields :=
  ((ownKeys fields).insertionSort fun a b => unitsLe a b).filterMap
    (definedField fields)

/-- `canonicalize`, by the nesting still allowed. -/
def canonicalize : ℕ → Value → Except String (Json PlainNumber)
  | 0, _ => .error "Value exceeds the maximum nesting depth"
  | _ + 1, .null => .ok .null
  | _ + 1, .boolean value => .ok (.boolean value)
  | _ + 1, .string text => .ok (.string text)
  | _ + 1, .number (.finite x) => .ok (.number (normalized x))
  | _ + 1, .number _ => .error "Non-finite numbers are not JSON data"
  | depth + 1, .array items => (items.mapM (canonicalize depth)).map .array
  | depth + 1, .object fields =>
      ((sortedFields fields).mapM fun entry =>
        (canonicalize depth entry.2).map (Prod.mk entry.1)).map .object
  | _ + 1, .undefined | _ + 1, .foreign => .error "Value is not JSON data"

def canonicalJson (value : Value) (maxDepth : ℕ) : Except String Text :=
  (canonicalize maxDepth value).map fun form => form.stringify PlainNumber.numeral

/-! ## Canonical forms -/

theorem mapM_eq_ok {ε α β : Type*} {f : α → Except ε β} {l : List α} {r : List β} :
    l.mapM f = .ok r ↔ List.Forall₂ (fun a b => f a = .ok b) l r := by
  induction l generalizing r with
  | nil =>
      rw [List.mapM_nil, List.forall₂_nil_left_iff]
      exact ⟨fun h => (Except.ok.inj h).symm, fun h => by rw [h]; rfl⟩
  | cons a l ih =>
      rw [List.mapM_cons]
      cases hfirst : f a with
      | error e =>
          constructor
          · intro h
            cases h
          · intro h
            cases h with
            | cons hhead htail => rw [hfirst] at hhead; cases hhead
      | ok b =>
          cases hrest : l.mapM f with
          | error e =>
              constructor
              · intro h
                cases h
              · intro h
                cases h with
                | cons hhead htail => rw [← ih, hrest] at htail; cases htail
          | ok bs =>
              constructor
              · intro h
                obtain rfl : b :: bs = r := Except.ok.inj h
                exact .cons hfirst (ih.mp hrest)
              · intro h
                cases h with
                | cons hhead htail =>
                    obtain rfl := Except.ok.inj (hfirst.symm.trans hhead)
                    obtain rfl := Except.ok.inj (hrest.symm.trans (ih.mpr htail))
                    rfl

/-- The names of the properties that are not undefined, sorted. -/
def definedNames (fields : Fields) : List Text :=
  ((ownKeys fields).insertionSort fun a b => unitsLe a b).filter
    fun name => !(property fields name).isUndefined

theorem sortedFields_eq (fields : Fields) :
    sortedFields fields =
      (definedNames fields).map fun name => (name, property fields name) := by
  unfold sortedFields definedNames
  generalize (ownKeys fields).insertionSort (fun a b => unitsLe a b) = names
  induction names with
  | nil => rfl
  | cons name rest ih =>
      by_cases hundefined : (property fields name).isUndefined
      · rw [List.filterMap_cons_none (by rw [definedField, if_pos hundefined]), ih,
          List.filter_cons_of_neg (by simp [hundefined])]
      · rw [List.filterMap_cons_some (by rw [definedField, if_neg hundefined]), ih,
          List.filter_cons_of_pos (by simp [hundefined]), List.map_cons]

theorem mem_definedNames {fields : Fields} {name : Text} :
    name ∈ definedNames fields ↔ (property fields name).isUndefined = false := by
  unfold definedNames
  rw [List.mem_filter, Bool.not_eq_true', List.mem_insertionSort, mem_ownKeys]
  exact ⟨fun h => h.2, fun h => ⟨hasOwn_of_defined h, h⟩⟩

/-- Sorted names are determined by which they are. -/
theorem definedNames_eq {fields fields' : Fields}
    (h : ∀ name, (property fields name).isUndefined =
      (property fields' name).isUndefined) :
    definedNames fields = definedNames fields' := by
  have hsorted : ∀ fields, (definedNames fields).Pairwise fun a b => unitsLe a b := by
    intro fields
    have htotal : Std.Total fun a b => unitsLe a b = true := ⟨unitsLe_total⟩
    have htrans : IsTrans Text fun a b => unitsLe a b = true := ⟨fun _ _ _ => unitsLe_trans⟩
    exact (List.pairwise_insertionSort _ _).filter _
  have hnodup : ∀ fields, (definedNames fields).Nodup := by
    intro fields
    have hperm := List.perm_insertionSort (fun a b => unitsLe a b = true) (ownKeys fields)
    exact (hperm.nodup_iff.mpr (nodup_ownKeys fields)).filter _
  have hperm : (definedNames fields).Perm (definedNames fields') := by
    rw [List.perm_ext_iff_of_nodup (hnodup fields) (hnodup fields')]
    intro name
    rw [mem_definedNames, mem_definedNames, h]
  exact hperm.eq_of_pairwise (fun a b _ _ => unitsLe_antisymm) (hsorted fields) (hsorted fields')

theorem map_eq_ok {ε α β : Type*} {x : Except ε α} {f : α → β} {b : β} :
    x.map f = .ok b ↔ ∃ a, x = .ok a ∧ f a = b := by
  cases x <;> simp [Except.map]

theorem canonicalize_array {depth : ℕ} {items : List Value} {c : Json PlainNumber} :
    canonicalize (depth + 1) (.array items) = .ok c ↔
      ∃ forms, List.Forall₂ (fun item form => canonicalize depth item = .ok form) items forms ∧
        .array forms = c := by
  rw [canonicalize, map_eq_ok]
  simp only [mapM_eq_ok]

/-- The canonical forms of a plain object's properties. -/
def CanonicalFields (depth : ℕ) (fields : Fields)
    (entries : List (Text × Json PlainNumber)) : Prop :=
  List.Forall₂
    (fun name entry => entry.1 = name ∧
      canonicalize depth (property fields name) = .ok entry.2)
    (definedNames fields) entries

theorem canonicalize_object {depth : ℕ} {fields : Fields} {c : Json PlainNumber} :
    canonicalize (depth + 1) (.object fields) = .ok c ↔
      ∃ entries, CanonicalFields depth fields entries ∧ .object entries = c := by
  have hentry : ∀ (name : Text) (entry : Text × Json PlainNumber) (item : Value),
      (canonicalize depth item).map (Prod.mk name) = .ok entry ↔
        entry.1 = name ∧ canonicalize depth item = .ok entry.2 := by
    rintro name ⟨name', form⟩ item
    rw [map_eq_ok]
    constructor
    · rintro ⟨form', hform, heq⟩
      obtain ⟨rfl, rfl⟩ := Prod.mk.inj heq
      exact ⟨rfl, hform⟩
    · rintro ⟨rfl, hform⟩
      exact ⟨form, hform, rfl⟩
  rw [canonicalize, map_eq_ok]
  simp only [mapM_eq_ok, sortedFields_eq, List.forall₂_map_left_iff, hentry]
  rfl

theorem normalized_toRat (x : FiniteNumber) : (normalized x).toRat = x.toRat := by
  unfold normalized
  split
  · rename_i hzero
    have hbits : x.bits = 0 := by
      simp only [FiniteNumber.isNegativeZero, Bool.and_eq_true, decide_eq_true_eq] at hzero
      exact hzero.2
    simp [PlainNumber.toRat, FiniteNumber.toRat, hbits, FiniteNumber.valueOf_zero]
  · rfl

theorem forall₂_mem_left {α β : Type*} {R : α → β → Prop} {l : List α} {r : List β}
    (h : List.Forall₂ R l r) {a : α} (hmem : a ∈ l) : ∃ b ∈ r, R a b := by
  induction h with
  | nil => cases hmem
  | cons hhead htail ih =>
      rcases List.mem_cons.mp hmem with rfl | hrest
      · exact ⟨_, List.mem_cons_self, hhead⟩
      · obtain ⟨b, hb, hab⟩ := ih hrest
        exact ⟨b, List.mem_cons_of_mem _ hb, hab⟩

theorem forall₂_mem_right {α β : Type*} {R : α → β → Prop} {l : List α} {r : List β}
    (h : List.Forall₂ R l r) {b : β} (hmem : b ∈ r) : ∃ a ∈ l, R a b :=
  forall₂_mem_left h.flip hmem

/-- Lists related to lists with the same images have the same images. -/
theorem forall₂_map_eq {α α' β β' δ ε : Type*} {R : α → β → Prop} {R' : α' → β' → Prop}
    {l : List α} {l' : List α'} {r : List β} {r' : List β'} {f : α → δ} {f' : α' → δ} {g : β → ε}
    {g' : β' → ε} (h : List.Forall₂ R l r) (h' : List.Forall₂ R' l' r')
    (hone : ∀ a b a' b', R a b → R' a' b' → f a = f' a' → g b = g' b')
    (heq : l.map f = l'.map f') : r.map g = r'.map g' := by
  induction h generalizing l' r' with
  | nil =>
      obtain rfl := List.map_eq_nil_iff.mp heq.symm
      cases h'
      rfl
  | cons hhead htail ih =>
      cases h' with
      | nil => cases heq
      | cons hhead' htail' =>
          obtain ⟨hf, hrest⟩ := List.cons.inj heq
          rw [List.map_cons, List.map_cons, hone _ _ _ _ hhead hhead' hf, ih htail' hrest]

theorem forall₂_eq {α α' β δ : Type*} {R : α → β → Prop} {R' : α' → β → Prop} {l : List α}
    {l' : List α'} {r r' : List β} {f : α → δ} {f' : α' → δ} (h : List.Forall₂ R l r)
    (h' : List.Forall₂ R' l' r') (hone : ∀ a b a' b', R a b → R' a' b' → f a = f' a' → b = b')
    (heq : l.map f = l'.map f') : r = r' := by
  have hmap := @forall₂_map_eq _ _ _ _ _ _ _ _ _ _ _ _ f f' id id h h' hone heq
  rwa [List.map_id, List.map_id] at hmap

theorem isUndefined_of_canonicalize {depth : ℕ} {v : Value} {c : Json PlainNumber}
    (h : canonicalize depth v = .ok c) : v.isUndefined = false := by
  cases v with
  | undefined => cases depth <;> cases h
  | _ => rfl

/-- Equal data have one canonical form. -/
theorem canonicalize_eq {depth : ℕ} {v w : Value} {c c' : Json PlainNumber}
    (hv : canonicalize depth v = .ok c) (hw : canonicalize depth w = .ok c')
    (hdata : v.data = w.data) : c = c' := by
  induction depth generalizing v w c c' with
  | zero => cases hv
  | succ depth ih =>
      cases v with
      | undefined => cases hv
      | foreign => cases hv
      | null =>
          obtain rfl := eq_null_of_data hdata.symm
          exact Except.ok.inj (hv.symm.trans hw)
      | boolean value =>
          obtain rfl := eq_boolean_of_data hdata.symm
          exact Except.ok.inj (hv.symm.trans hw)
      | string text =>
          obtain rfl := eq_string_of_data hdata.symm
          exact Except.ok.inj (hv.symm.trans hw)
      | number n =>
          cases n with
          | nan => cases hv
          | infinity negative => cases hv
          | finite x =>
              obtain ⟨y, rfl, hvalue⟩ := eq_number_of_data hdata.symm
              rw [← normalized_toRat, ← normalized_toRat x] at hvalue
              obtain rfl := Except.ok.inj hv
              obtain rfl := Except.ok.inj hw
              rw [PlainNumber.toRat_injective hvalue]
      | array items =>
          obtain ⟨items', rfl, hitems⟩ := eq_array_of_data hdata.symm
          obtain ⟨forms, hforms, rfl⟩ := canonicalize_array.mp hv
          obtain ⟨forms', hforms', rfl⟩ := canonicalize_array.mp hw
          rw [itemsData_eq_map, itemsData_eq_map] at hitems
          rw [forall₂_eq hforms hforms' (fun _ _ _ _ hform hform' => ih hform hform') hitems.symm]
      | object fields =>
          obtain ⟨fields', rfl, hfields⟩ := eq_object_of_data hdata.symm
          obtain ⟨entries, hentries, rfl⟩ := canonicalize_object.mp hv
          obtain ⟨entries', hentries', rfl⟩ := canonicalize_object.mp hw
          have hnames := definedNames_eq (isUndefined_eq hfields.symm)
          have hdefined : (definedNames fields).map (fun name => (name, fieldsData fields name)) =
              (definedNames fields').map fun name => (name, fieldsData fields' name) := by
            rw [hnames, hfields]
          rw [forall₂_eq hentries hentries' ?_ hdefined]
          rintro name ⟨first, form⟩ name' ⟨first', form'⟩ ⟨rfl, hform⟩ ⟨rfl, hform'⟩ heq
          obtain ⟨rfl, hproperty⟩ := Prod.mk.inj heq
          rw [fieldsData_defined (isUndefined_of_canonicalize hform),
            fieldsData_defined (isUndefined_of_canonicalize hform')] at hproperty
          exact congrArg _ (ih hform hform' (Option.some.inj hproperty))

/-- A property with its canonical form, among the entries of an object's. -/
theorem CanonicalFields.mem_iff {depth : ℕ} {fields : Fields}
    {entries : List (Text × Json PlainNumber)} (h : CanonicalFields depth fields entries)
    {name : Text} {form : Json PlainNumber} :
    (name, form) ∈ entries ↔ canonicalize depth (property fields name) = .ok form := by
  constructor
  · intro hmem
    obtain ⟨name', -, rfl, hform⟩ := forall₂_mem_right h hmem
    exact hform
  · intro hform
    have hdefined := mem_definedNames.mpr (isUndefined_of_canonicalize hform)
    obtain ⟨⟨name', form'⟩, hmem, rfl, hform'⟩ := forall₂_mem_left h hdefined
    obtain rfl := Except.ok.inj (hform.symm.trans hform')
    exact hmem

theorem kind_of_canonicalize {depth : ℕ} {v : Value} {c : Json PlainNumber}
    (h : canonicalize depth v = .ok c) : c.kind = v.kind := by
  cases depth with
  | zero => cases h
  | succ depth =>
      cases v with
      | undefined => cases h
      | foreign => cases h
      | null => rw [← Except.ok.inj h]; rfl
      | boolean value => rw [← Except.ok.inj h]; rfl
      | string text => rw [← Except.ok.inj h]; rfl
      | number n =>
          cases n with
          | nan => cases h
          | infinity negative => cases h
          | finite x => rw [← Except.ok.inj h]; rfl
      | array items =>
          obtain ⟨forms, -, rfl⟩ := canonicalize_array.mp h
          rfl
      | object fields =>
          obtain ⟨entries, -, rfl⟩ := canonicalize_object.mp h
          rfl

/-- Canonical forms that are enumerated alike are of equal data. -/
theorem data_eq {depth : ℕ} {v w : Value} {c c' : Json PlainNumber}
    (hv : canonicalize depth v = .ok c) (hw : canonicalize depth w = .ok c')
    (heq : c.enumerated = c'.enumerated) : v.data = w.data := by
  induction depth generalizing v w c c' with
  | zero => cases hv
  | succ depth ih =>
      have hkind : v.kind = w.kind := by
        rw [← kind_of_canonicalize hv, ← kind_of_canonicalize hw, ← Json.kind_enumerated, heq,
          Json.kind_enumerated]
      cases v with
      | undefined => cases hv
      | foreign => cases hv
      | null =>
          cases w <;> simp only [Value.kind] at hkind <;> try omega
          rfl
      | boolean value =>
          cases w <;> simp only [Value.kind] at hkind <;> try omega
          case boolean value' =>
            obtain rfl := Except.ok.inj hv
            obtain rfl := Except.ok.inj hw
            rw [Json.boolean.inj heq]
      | string text =>
          cases w <;> simp only [Value.kind] at hkind <;> try omega
          case string text' =>
            obtain rfl := Except.ok.inj hv
            obtain rfl := Except.ok.inj hw
            rw [Json.string.inj heq]
      | number n =>
          cases w <;> simp only [Value.kind] at hkind <;> try omega
          case number n' =>
            cases n with
            | nan => cases hv
            | infinity negative => cases hv
            | finite x =>
                cases n' with
                | nan => cases hw
                | infinity negative => cases hw
                | finite y =>
                    obtain rfl := Except.ok.inj hv
                    obtain rfl := Except.ok.inj hw
                    have hnumber : (normalized x) = (normalized y) := Json.number.inj heq
                    rw [Value.data, Value.data, JsNumber.data, JsNumber.data, ← normalized_toRat,
                      hnumber, normalized_toRat]
      | array items =>
          cases w <;> simp only [Value.kind] at hkind <;> try omega
          case array items' =>
            obtain ⟨forms, hforms, rfl⟩ := canonicalize_array.mp hv
            obtain ⟨forms', hforms', rfl⟩ := canonicalize_array.mp hw
            rw [Json.enumerated, Json.enumerated, Json.array.injEq, Json.enumerateItems_eq_map,
              Json.enumerateItems_eq_map] at heq
            rw [Value.data, Value.data, itemsData_eq_map, itemsData_eq_map]
            rw [forall₂_map_eq hforms.flip hforms'.flip
              (fun _ _ _ _ hform hform' hsame => ih hform hform' hsame) heq]
      | object fields =>
          cases w <;> simp only [Value.kind] at hkind <;> try omega
          case object fields' =>
            obtain ⟨entries, hentries, rfl⟩ := canonicalize_object.mp hv
            obtain ⟨entries', hentries', rfl⟩ := canonicalize_object.mp hw
            have hone : ∀ {fields fields' : Fields} {entries entries'},
                CanonicalFields depth fields entries → CanonicalFields depth fields' entries' →
                (Json.object entries).enumerated = (Json.object entries').enumerated →
                ∀ name, (property fields name).isUndefined = false →
                  fieldsData fields name = fieldsData fields' name := by
              intro fields fields' entries entries' h h' hsame name hdefined
              obtain ⟨⟨name', form⟩, hmem, hname, hform⟩ :=
                forall₂_mem_left h (mem_definedNames.mpr hdefined)
              obtain rfl : name' = name := hname
              obtain ⟨form', hmem', hforms⟩ := Json.mem_of_enumerated_eq hsame hmem
              have hform' := h'.mem_iff.mp hmem'
              rw [fieldsData_defined hdefined,
                fieldsData_defined (isUndefined_of_canonicalize hform'), ih hform hform' hforms]
            rw [Value.data, Value.data, Data.object.injEq]
            funext name
            cases hleft : (property fields name).isUndefined with
            | false => exact hone hentries hentries' heq name hleft
            | true =>
                cases hright : (property fields' name).isUndefined with
                | false => exact (hone hentries' hentries heq.symm name hright).symm
                | true =>
                    rw [fieldsData_eq, fieldsData_eq, if_pos hleft, if_pos hright]

theorem canonicalJson_of_canonicalize {maxDepth : ℕ} {v : Value} {c : Json PlainNumber}
    (h : canonicalize maxDepth v = .ok c) :
    canonicalJson v maxDepth = .ok (c.stringify PlainNumber.numeral) :=
  map_eq_ok.mpr ⟨c, h, rfl⟩

/-- Canonical texts agree just where the values are equal as data. -/
theorem canonicalJson_eq_iff {maxDepth : ℕ} {v w : Value} {text text' : Text}
    (hv : canonicalJson v maxDepth = .ok text) (hw : canonicalJson w maxDepth = .ok text') :
    text = text' ↔ v.data = w.data := by
  obtain ⟨c, hc, rfl⟩ := map_eq_ok.mp hv
  obtain ⟨c', hc', rfl⟩ := map_eq_ok.mp hw
  constructor
  · intro htext
    exact data_eq hc hc' (Json.stringify_injective PlainNumber.numerals htext)
  · intro hdata
    rw [canonicalize_eq hc hc' hdata]

/-! ## Values that have a canonical form -/

theorem exists_forall₂ {α β : Type*} {R : α → β → Prop} {l : List α} (h : ∀ a ∈ l, ∃ b, R a b) :
    ∃ r, List.Forall₂ R l r := by
  induction l with
  | nil => exact ⟨[], .nil⟩
  | cons a l ih =>
      obtain ⟨b, hb⟩ := h a List.mem_cons_self
      obtain ⟨r, hr⟩ := ih fun a' ha' => h a' (List.mem_cons_of_mem _ ha')
      exact ⟨b :: r, .cons hb hr⟩

theorem canonicalize_array_ok {depth : ℕ} {items : List Value} :
    (∃ c, canonicalize (depth + 1) (.array items) = .ok c) ↔
      ∀ item ∈ items, ∃ form, canonicalize depth item = .ok form := by
  constructor
  · rintro ⟨c, hc⟩ item hitem
    obtain ⟨forms, hforms, -⟩ := canonicalize_array.mp hc
    obtain ⟨form, -, hform⟩ := forall₂_mem_left hforms hitem
    exact ⟨form, hform⟩
  · intro h
    obtain ⟨forms, hforms⟩ := exists_forall₂ h
    exact ⟨_, canonicalize_array.mpr ⟨forms, hforms, rfl⟩⟩

theorem canonicalize_object_ok {depth : ℕ} {fields : Fields} :
    (∃ c, canonicalize (depth + 1) (.object fields) = .ok c) ↔
      ∀ name, (property fields name).isUndefined = false →
        ∃ form, canonicalize depth (property fields name) = .ok form := by
  constructor
  · rintro ⟨c, hc⟩ name hdefined
    obtain ⟨entries, hentries, -⟩ := canonicalize_object.mp hc
    obtain ⟨entry, -, -, hform⟩ := forall₂_mem_left hentries (mem_definedNames.mpr hdefined)
    exact ⟨entry.2, hform⟩
  · intro h
    have hnames : ∀ name ∈ definedNames fields, ∃ entry : Text × Json PlainNumber,
        entry.1 = name ∧ canonicalize depth (property fields name) = .ok entry.2 := by
      intro name hname
      obtain ⟨form, hform⟩ := h name (mem_definedNames.mp hname)
      exact ⟨(name, form), rfl, hform⟩
    obtain ⟨entries, hentries⟩ := exists_forall₂ hnames
    exact ⟨_, canonicalize_object.mpr ⟨entries, hentries, rfl⟩⟩


theorem withoutUndefined_fields (depth : ℕ) (fields : Fields) :
    ((ownKeys fields).filterMap (definedField fields)).map (Prod.map id (withoutUndefinedAt depth)) =
      ((ownKeys fields).filter fun name => !(property fields name).isUndefined).map
        fun name => (name, withoutUndefinedAt depth (property fields name)) := by
  generalize ownKeys fields = names
  induction names with
  | nil => rfl
  | cons name rest ih =>
      by_cases hundefined : (property fields name).isUndefined
      · rw [List.filterMap_cons_none (by rw [definedField, if_pos hundefined]), ih,
          List.filter_cons_of_neg (by simp [hundefined])]
      · rw [List.filterMap_cons_some (by rw [definedField, if_neg hundefined]), List.map_cons, ih,
          List.filter_cons_of_pos (by simp [hundefined]), List.map_cons]
        rfl

theorem isUndefined_withoutUndefinedAt (depth : ℕ) (v : Value) :
    (withoutUndefinedAt depth v).isUndefined = v.isUndefined := by
  cases depth with
  | zero => rfl
  | succ depth => cases v <;> rfl

theorem isUndefined_of_isJsonAt {depth : ℕ} {v : Value} (h : isJsonAt depth v) :
    v.isUndefined = false := by
  cases v with
  | undefined => cases depth <;> cases h
  | _ => rfl

/-- Every property of JSON data is JSON data. -/
theorem isJsonAt_object {depth : ℕ} {fields : Fields} :
    isJsonAt (depth + 1) (.object fields) ↔
      ∀ name, hasOwn fields name → isJsonAt depth (property fields name) := by
  rw [isJsonAt, List.all_eq_true]
  simp only [mem_ownKeys]


/-- What has a canonical form: JSON data but for undefined properties. -/
theorem canonicalize_ok_iff {depth : ℕ} {v : Value} :
    (∃ c, canonicalize depth v = .ok c) ↔ isJsonAt depth (withoutUndefinedAt depth v) := by
  induction depth generalizing v with
  | zero =>
      constructor
      · rintro ⟨c, hc⟩
        cases hc
      · intro h
        cases h
  | succ depth ih =>
      cases v with
      | undefined => simp [canonicalize, withoutUndefinedAt, isJsonAt]
      | foreign => simp [canonicalize, withoutUndefinedAt, isJsonAt]
      | null => simp [canonicalize, withoutUndefinedAt, isJsonAt]
      | boolean value => simp [canonicalize, withoutUndefinedAt, isJsonAt]
      | string text => simp [canonicalize, withoutUndefinedAt, isJsonAt]
      | number n => cases n <;> simp [canonicalize, withoutUndefinedAt, isJsonAt]
      | array items =>
          rw [canonicalize_array_ok, withoutUndefinedAt, isJsonAt, List.all_map,
            List.all_eq_true]
          simp only [ih, Function.comp_apply]
      | object fields =>
          rw [canonicalize_object_ok, withoutUndefinedAt, isJsonAt_object,
            withoutUndefined_fields]
          have hmem : ∀ name, name ∈ (ownKeys fields).filter
              (fun name => !(property fields name).isUndefined) ↔
              (property fields name).isUndefined = false := by
            intro name
            rw [List.mem_filter, Bool.not_eq_true', mem_ownKeys]
            exact ⟨fun h => h.2, fun h => ⟨hasOwn_of_defined h, h⟩⟩
          have hown : ∀ name, hasOwn (((ownKeys fields).filter
              fun name => !(property fields name).isUndefined).map
                fun name => (name, withoutUndefinedAt depth (property fields name)))
              name = true ↔ (property fields name).isUndefined = false := by
            intro name
            rw [← hmem name, hasOwn, lookup_isSome, List.map_map]
            have hid : (Prod.fst ∘ fun name =>
                (name, withoutUndefinedAt depth (property fields name))) = id := rfl
            rw [hid, List.map_id]
          constructor
          · intro h name hname
            rw [property_map, if_pos ((hmem name).mpr ((hown name).mp hname))]
            exact ih.mp (h name ((hown name).mp hname))
          · intro h name hdefined
            have hname := h name ((hown name).mpr hdefined)
            rw [property_map, if_pos ((hmem name).mpr hdefined)] at hname
            exact ih.mpr hname

/-- JSON data have a canonical form. -/
theorem canonicalize_ok_of_isJsonAt {depth : ℕ} {v : Value} (h : isJsonAt depth v) :
    ∃ c, canonicalize depth v = .ok c := by
  induction depth generalizing v with
  | zero => cases h
  | succ depth ih =>
      cases v with
      | undefined => cases h
      | foreign => cases h
      | null => exact ⟨_, rfl⟩
      | boolean value => exact ⟨_, rfl⟩
      | string text => exact ⟨_, rfl⟩
      | number n =>
          cases n with
          | nan => cases h
          | infinity negative => cases h
          | finite x => exact ⟨_, rfl⟩
      | array items =>
          rw [isJsonAt, List.all_eq_true] at h
          exact canonicalize_array_ok.mpr fun item hitem => ih (h item hitem)
      | object fields =>
          rw [isJsonAt_object] at h
          exact canonicalize_object_ok.mpr fun name hdefined =>
            ih (h name (hasOwn_of_defined hdefined))

/-- Whether a value has a canonical form depends on the data that it is. -/
theorem canonicalize_ok_of_data {depth : ℕ} {v w : Value} {c : Json PlainNumber}
    (h : canonicalize depth v = .ok c) (hdata : w.data = v.data) :
    ∃ c', canonicalize depth w = .ok c' := by
  induction depth generalizing v w c with
  | zero => cases h
  | succ depth ih =>
      cases v with
      | undefined => cases h
      | foreign => cases h
      | null =>
          obtain rfl := eq_null_of_data hdata
          exact ⟨_, rfl⟩
      | boolean value =>
          obtain rfl := eq_boolean_of_data hdata
          exact ⟨_, rfl⟩
      | string text =>
          obtain rfl := eq_string_of_data hdata
          exact ⟨_, rfl⟩
      | number n =>
          cases n with
          | nan => cases h
          | infinity negative => cases h
          | finite x =>
              obtain ⟨y, rfl, -⟩ := eq_number_of_data hdata
              exact ⟨_, rfl⟩
      | array items =>
          obtain ⟨items', rfl, hitems⟩ := eq_array_of_data hdata
          rw [itemsData_eq_map, itemsData_eq_map] at hitems
          refine canonicalize_array_ok.mpr ?_
          intro item hitem
          have hmapped : item.data ∈ items.map data := hitems ▸ List.mem_map_of_mem hitem
          obtain ⟨original, hmem, hsame⟩ := List.mem_map.mp hmapped
          obtain ⟨form, hform⟩ := canonicalize_array_ok.mp ⟨c, h⟩ original hmem
          exact ih hform hsame.symm
      | object fields =>
          obtain ⟨fields', rfl, hfields⟩ := eq_object_of_data hdata
          refine canonicalize_object_ok.mpr ?_
          intro name hdefined
          have hname := isUndefined_eq hfields name
          rw [hdefined] at hname
          obtain ⟨form, hform⟩ := canonicalize_object_ok.mp ⟨c, h⟩ name hname.symm
          have hsame := congrFun hfields name
          rw [fieldsData_defined hdefined, fieldsData_defined hname.symm] at hsame
          exact ih hform (Option.some.inj hsame)

/-- The own properties of JSON data are the defined ones. -/
theorem property_of_isJsonAt {depth : ℕ} {fields : Fields} {name : Text}
    (h : isJsonAt (depth + 1) (.object fields)) :
    hasOwn fields name ↔ (property fields name).isUndefined = false := by
  constructor
  · intro hname
    exact isUndefined_of_isJsonAt (isJsonAt_object.mp h name hname)
  · exact hasOwn_of_defined

/-! ## Canonical forms as values -/

mutual

/-- A canonical form as a value. -/
def toValue : Json PlainNumber → Value
  | .null => .null
  | .boolean value => .boolean value
  | .number x => .number (.finite x.number)
  | .string text => .string text
  | .array items => .array (itemsToValue items)
  | .object fields => .object (fieldsToValue fields)

def itemsToValue : List (Json PlainNumber) → List Value
  | [] => []
  | item :: rest => toValue item :: itemsToValue rest

def fieldsToValue : List (Text × Json PlainNumber) → Fields
  | [] => []
  | (name, item) :: rest => (name, toValue item) :: fieldsToValue rest

end

theorem itemsToValue_eq_map (items : List (Json PlainNumber)) :
    itemsToValue items = items.map toValue := by
  induction items with
  | nil => rfl
  | cons item rest ih => rw [itemsToValue, ih, List.map_cons]

theorem fieldsToValue_eq_map (fields : List (Text × Json PlainNumber)) :
    fieldsToValue fields = fields.map (Prod.map id toValue) := by
  induction fields with
  | nil => rfl
  | cons field rest ih => rw [fieldsToValue, ih, List.map_cons, Prod.map_apply, id]

/-- The properties of a canonical form as a value. -/
theorem CanonicalFields.property_toValue {depth : ℕ} {fields : Fields}
    {entries : List (Text × Json PlainNumber)} (h : CanonicalFields depth fields entries)
    (name : Text) :
    (hasOwn (fieldsToValue entries) name = false ∧ (property fields name).isUndefined) ∨
      ∃ form, hasOwn (fieldsToValue entries) name ∧
        canonicalize depth (property fields name) = .ok form ∧
        property (fieldsToValue entries) name = toValue form := by
  cases hown : hasOwn (fieldsToValue entries) name with
  | false =>
      left
      refine ⟨rfl, ?_⟩
      by_contra hdefined
      obtain ⟨⟨name', form⟩, hmem, hname, -⟩ :=
        forall₂_mem_left h (mem_definedNames.mpr (Bool.not_eq_true _ ▸ hdefined))
      obtain rfl : name' = name := hname
      have hlisted : hasOwn (fieldsToValue entries) name' := by
        rw [hasOwn, lookup_isSome, fieldsToValue_eq_map, List.map_map, List.mem_map]
        exact ⟨_, hmem, rfl⟩
      rw [hown] at hlisted
      cases hlisted
  | true =>
      right
      have hmem := property_mem hown
      rw [fieldsToValue_eq_map] at hmem
      obtain ⟨⟨name', form⟩, hentry, heq⟩ := List.mem_map.mp hmem
      obtain ⟨rfl, hform⟩ : name' = name ∧ toValue form =
          property (entries.map (Prod.map id toValue)) name := by
        simpa [Prod.map] using heq
      rw [← fieldsToValue_eq_map] at hform
      exact ⟨form, rfl, h.mem_iff.mp hentry, hform.symm⟩

/-- A canonical form is the same data, without undefined properties. -/
theorem toValue_of_canonicalize {depth : ℕ} {v : Value} {c : Json PlainNumber}
    (h : canonicalize depth v = .ok c) :
    (toValue c).data = v.data ∧ isJsonAt depth (toValue c) := by
  induction depth generalizing v c with
  | zero => cases h
  | succ depth ih =>
      cases v with
      | undefined => cases h
      | foreign => cases h
      | null =>
          obtain rfl := Except.ok.inj h
          exact ⟨rfl, rfl⟩
      | boolean value =>
          obtain rfl := Except.ok.inj h
          exact ⟨rfl, rfl⟩
      | string text =>
          obtain rfl := Except.ok.inj h
          exact ⟨rfl, rfl⟩
      | number n =>
          cases n with
          | nan => cases h
          | infinity negative => cases h
          | finite x =>
              obtain rfl := Except.ok.inj h
              exact ⟨congrArg Data.number (normalized_toRat x), rfl⟩
      | array items =>
          obtain ⟨forms, hforms, rfl⟩ := canonicalize_array.mp h
          rw [toValue, data, data, isJsonAt, itemsToValue_eq_map, itemsData_eq_map,
            itemsData_eq_map, List.map_map, List.all_map, List.all_eq_true]
          constructor
          · have hsame : List.Forall₂ (fun item form => (toValue form).data = item.data) items
                forms := hforms.imp fun item form hform => (ih hform).1
            congr 1
            rw [← List.forall₂_eq_eq_eq, List.forall₂_map_left_iff, List.forall₂_map_right_iff]
            exact hsame.flip
          · intro form hmem
            obtain ⟨item, -, hform⟩ := forall₂_mem_right hforms hmem
            exact (ih hform).2
      | object fields =>
          obtain ⟨entries, hentries, rfl⟩ := canonicalize_object.mp h
          rw [toValue, data, data, isJsonAt_object, Data.object.injEq]
          constructor
          · funext name
            rcases hentries.property_toValue name with ⟨hown, hundefined⟩ | ⟨form, -, hform, hvalue⟩
            · rw [fieldsData_eq, property_of_not_hasOwn hown, fieldsData_eq, if_pos hundefined]
              rfl
            · have hdefined := isUndefined_of_isJsonAt (ih hform).2
              rw [fieldsData_defined (isUndefined_of_canonicalize hform),
                fieldsData_defined (by rw [hvalue]; exact hdefined), hvalue, (ih hform).1]
          · intro name hname
            rcases hentries.property_toValue name with ⟨hown, -⟩ | ⟨form, -, hform, hvalue⟩
            · rw [hown] at hname
              cases hname
            · rw [hvalue]
              exact (ih hform).2

end StreamOtter.Contracts
