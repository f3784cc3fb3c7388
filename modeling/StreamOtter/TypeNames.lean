import StreamOtter.ControlRequests
import StreamOtter.TypeGeneration

/-!
# Names of generated types

A translation of `typeNames` of the command line tool, which names the types of a configuration's
schemas.  The names are apart, none of them means anything else in the generated file, and they do
not depend on the order of the schemas.
-/

namespace StreamOtter.Generation

open Ecma TypeScript
open Control (isLetter isIdentifier)

/-! ## Names -/

/-- `RESERVED`. -/
def reserved : List Text :=
  ["AppChannels", "ChannelContract", "Client", "Subscription", "Array", "Boolean", "Date", "Error",
    "Function", "JSON", "Map", "Math", "Number", "Object", "Promise", "Record", "Set", "String",
    "Symbol"].map units

def isSeparator (u : UInt16) : Bool := u = 0x2d || u = 0x5f

/-- `toUpperCase` of a letter of an identifier. -/
def upper (u : UInt16) : UInt16 := if 0x61 ≤ u && u ≤ 0x7a then u - 0x20 else u

def capitalized : Text → Text
  | [] => []
  | u :: rest => upper u :: rest

def pascalCase (id : Text) : Text :=
  ((id.splitOnP isSeparator).filter fun part => !part.isEmpty).flatMap capitalized

/-- The names that are tried, one after the other. -/
def candidate (name : Text) : ℕ → Text
  | 0 => name
  | suffix + 1 => name ++ digitUnits (suffix + 2)

/-- The first candidate that is free.  One more than there are used names is enough. -/
def freeName (used : List Text) (name : Text) : Text :=
  (((List.range (used.length + 1)).map (candidate name)).find? fun name =>
    !used.contains name).getD name

def baseName (id : Text) : Text :=
  let name := pascalCase id
  if reserved.contains name then name ++ units "Schema" else name

/-- `names` and `used`; the latest entry of an ID counts. -/
structure Names where
  names : List (Text × Text)
  used : List Text

def Names.add (taken : Names) (id : Text) : Names :=
  let name := freeName taken.used (baseName id)
  ⟨(id, name) :: taken.names, name :: taken.used⟩

def typeNames (schemaIds : List Text) : List (Text × Text) :=
  ((schemaIds.insertionSort fun a b => unitsLe a b).foldl Names.add ⟨[], []⟩).names

/-! ## Free names -/

variable {id name : Text} {used ids : List Text}

theorem digitUnits_injective {m n : ℕ} (h : digitUnits m = digitUnits n) : m = n := by
  rw [← readDigits_digitUnits m, h, readDigits_digitUnits]

theorem candidate_injective (name : Text) : Function.Injective (candidate name) := by
  have hlonger : ∀ suffix, name ≠ name ++ digitUnits (suffix + 2) := by
    intro suffix heq
    have hempty : digitUnits (suffix + 2) = [] := by simpa using heq.symm
    have hlength := digitUnits_length_pos (show suffix + 2 ≠ 0 by omega)
    simp [hempty] at hlength
  intro m n h
  cases m with
  | zero =>
      cases n with
      | zero => rfl
      | succ n => exact absurd h (hlonger n)
  | succ m =>
      cases n with
      | zero => exact absurd h.symm (hlonger m)
      | succ n =>
          have hdigits := digitUnits_injective (List.append_cancel_left h)
          omega

/-- The search for a free name ends. -/
theorem freeName_spec (used : List Text) (name : Text) :
    freeName used name ∉ used ∧ ∃ suffix, freeName used name = candidate name suffix := by
  have hfree : ∃ tried ∈ (List.range (used.length + 1)).map (candidate name), tried ∉ used := by
    by_contra hnone
    simp only [not_exists, not_and, not_not] at hnone
    have hnodup := (List.nodup_range (n := used.length + 1)).map (candidate_injective name)
    have hlength := (hnodup.subperm hnone).length_le
    simp at hlength
  obtain ⟨tried, htried, hunused⟩ := hfree
  unfold freeName
  cases hfind : ((List.range (used.length + 1)).map (candidate name)).find? fun name =>
      !used.contains name with
  | none =>
      have hused := List.find?_eq_none.mp hfind tried htried
      simp [hunused] at hused
  | some found =>
      obtain ⟨suffix, -, hsuffix⟩ := List.mem_map.mp (List.mem_of_find?_eq_some hfind)
      have hfound := List.find?_some hfind
      exact ⟨by simpa using hfound, suffix, hsuffix.symm⟩

/-! ## What names are made of -/

/-- A name of letters and digits that begins with a capital. -/
def IsTypeName (name : Text) : Prop :=
  (∃ u rest, name = u :: rest ∧ 0x41 ≤ u ∧ u ≤ 0x5a) ∧ ∀ u ∈ name, isNameStart u ∨ isDigit u

theorem mem_splitOnP {p : UInt16 → Bool} {text part : Text} (h : part ∈ text.splitOnP p) :
    ∀ u ∈ part, u ∈ text ∧ p u = false := by
  induction text generalizing part with
  | nil =>
      rw [List.splitOnP_nil, List.mem_singleton] at h
      rw [h]
      exact fun _ hu => absurd hu List.not_mem_nil
  | cons v rest ih =>
      have hlater : ∀ part ∈ rest.splitOnP p, ∀ u ∈ part, u ∈ v :: rest ∧ p u = false := by
        intro part hpart u hu
        obtain ⟨hmem, hp⟩ := ih hpart u hu
        exact ⟨List.mem_cons_of_mem _ hmem, hp⟩
      rw [List.splitOnP_cons_eq_if_modifyHead] at h
      split at h
      · rcases List.mem_cons.mp h with rfl | hpart
        · exact fun _ hu => absurd hu List.not_mem_nil
        · exact hlater part hpart
      · rename_i hv
        cases hparts : rest.splitOnP p with
        | nil => exact absurd hparts (List.splitOnP_ne_nil p rest)
        | cons first parts =>
            rw [hparts, List.modifyHead_cons] at h
            rw [hparts] at hlater
            rcases List.mem_cons.mp h with rfl | hpart
            · intro u hu
              rcases List.mem_cons.mp hu with rfl | hu
              · exact ⟨List.mem_cons_self, by simpa using hv⟩
              · exact hlater first List.mem_cons_self u hu
            · exact hlater part (List.mem_cons_of_mem _ hpart)

theorem mem_pascalCase {u : UInt16} (h : u ∈ pascalCase id) :
    ∃ v ∈ id, isSeparator v = false ∧ (u = v ∨ u = upper v) := by
  obtain ⟨part, hpart, hu⟩ := List.mem_flatMap.mp h
  have hunits := mem_splitOnP (List.mem_filter.mp hpart).1
  cases part with
  | nil => cases hu
  | cons v rest =>
      rcases List.mem_cons.mp hu with rfl | hu
      · obtain ⟨hmem, hseparator⟩ := hunits v List.mem_cons_self
        exact ⟨v, hmem, hseparator, .inr rfl⟩
      · obtain ⟨hmem, hseparator⟩ := hunits u (List.mem_cons_of_mem _ hu)
        exact ⟨u, hmem, hseparator, .inl rfl⟩

theorem isNameStart_of_isLetter {u : UInt16} (h : isLetter u) : isNameStart u := by
  simp only [isLetter, isNameStart, Bool.or_eq_true, Bool.and_eq_true, decide_eq_true_eq,
    UInt16.le_iff_toNat_le] at h ⊢
  rcases h with h | h
  · exact .inl (.inl (.inl h))
  · exact .inl (.inl (.inr h))

theorem upper_toNat (u : UInt16) :
    (upper u).toNat = if 97 ≤ u.toNat ∧ u.toNat ≤ 122 then u.toNat - 32 else u.toNat := by
  have hcondition : ((0x61 ≤ u && u ≤ 0x7a) = true) ↔ 97 ≤ u.toNat ∧ u.toNat ≤ 122 := by
    rw [Bool.and_eq_true, decide_eq_true_eq, decide_eq_true_eq]
    exact Iff.rfl
  unfold upper
  by_cases hlower : 97 ≤ u.toNat ∧ u.toNat ≤ 122
  · rw [if_pos hlower, if_pos (hcondition.mpr hlower)]
    refine UInt16.toNat_sub_of_le _ _ ?_
    exact le_trans (show 32 ≤ 97 by decide) hlower.1
  · rw [if_neg hlower, if_neg fun h => hlower (hcondition.mp h)]

theorem upper_letter {u : UInt16} (h : isLetter u) : 0x41 ≤ upper u ∧ upper u ≤ 0x5a := by
  simp only [isLetter, Bool.or_eq_true, Bool.and_eq_true, decide_eq_true_eq] at h
  have hvalue := upper_toNat u
  change 65 ≤ (upper u).toNat ∧ (upper u).toNat ≤ 90
  split at hvalue <;> omega

theorem isTypeName_pascalCase (h : isIdentifier id) : IsTypeName (pascalCase id) := by
  cases id with
  | nil => cases h
  | cons u rest =>
      simp only [isIdentifier, Bool.and_eq_true, List.all_eq_true] at h
      obtain ⟨⟨hletter, -⟩, hrest⟩ := h
      have hseparator : isSeparator u = false := by
        by_contra hnot
        simp only [isSeparator, Bool.not_eq_false, Bool.or_eq_true, decide_eq_true_eq] at hnot
        rcases hnot with rfl | rfl <;> exact absurd hletter (by decide)
      refine ⟨?_, ?_⟩
      · obtain ⟨first, parts, hparts⟩ :=
          List.exists_cons_of_ne_nil (List.splitOnP_ne_nil isSeparator rest)
        have hsplit : (u :: rest).splitOnP isSeparator = (u :: first) :: parts := by
          rw [List.splitOnP_cons_eq_if_modifyHead, if_neg (by simp [hseparator]), hparts,
            List.modifyHead_cons]
        refine ⟨upper u, first ++ (parts.filter fun part => !part.isEmpty).flatMap capitalized, ?_,
          upper_letter hletter⟩
        rw [pascalCase, hsplit, List.filter_cons_of_pos (by simp), List.flatMap_cons, capitalized,
          List.cons_append]
      · intro v hv
        obtain ⟨w, hw, hseparator', hvalue⟩ := mem_pascalCase hv
        have hunit : isLetter w ∨ isDigit w := by
          rcases List.mem_cons.mp hw with rfl | hw
          · exact .inl hletter
          · have hunit := hrest w hw
            simp only [isSeparator, Bool.or_eq_false_iff, decide_eq_false_iff_not] at hseparator'
            simpa [hseparator'.1, hseparator'.2] using hunit
        rcases hunit with hunit | hunit
        · left
          rcases hvalue with rfl | rfl
          · exact isNameStart_of_isLetter hunit
          · obtain ⟨hlow, hhigh⟩ := upper_letter hunit
            simp [isNameStart, hlow, hhigh]
        · right
          rcases hvalue with rfl | rfl
          · exact hunit
          · have hsame : upper w = w := by
              unfold upper
              rw [if_neg]
              simp only [isDigit, Bool.and_eq_true, decide_eq_true_eq, UInt16.le_iff_toNat_le]
                at hunit
              simp only [Bool.and_eq_true, decide_eq_true_eq, UInt16.le_iff_toNat_le, not_and,
                not_le]
              intro hlow
              have hhigh : w.toNat ≤ 57 := hunit.2
              have hlow' : 97 ≤ w.toNat := hlow
              omega
            rw [hsame]
            exact hunit

/-- A name that means nothing else in a generated file. -/
def IsFree (name : Text) : Prop := IsTypeName name ∧ name ∉ reserved

theorem IsTypeName.append {suffix : Text} (h : IsTypeName name)
    (hsuffix : ∀ u ∈ suffix, isNameStart u ∨ isDigit u) : IsTypeName (name ++ suffix) := by
  obtain ⟨⟨u, rest, rfl, hcapital⟩, hunits⟩ := h
  refine ⟨⟨u, rest ++ suffix, rfl, hcapital⟩, ?_⟩
  intro v hv
  rcases List.mem_append.mp hv with hv | hv
  · exact hunits v hv
  · exact hsuffix v hv

theorem isFree_baseName (h : isIdentifier id) : IsFree (baseName id) := by
  have hname := isTypeName_pascalCase h
  unfold baseName
  dsimp only
  split
  · rename_i hreserved
    refine ⟨hname.append ?_, ?_⟩
    · intro u hu
      left
      revert hu
      exact List.all_eq_true.mp (show (units "Schema").all isNameStart by decide) u
    · have hall : ∀ word ∈ reserved, word ++ units "Schema" ∉ reserved := by decide +kernel
      exact hall _ (List.contains_iff_mem.mp hreserved)
  · rename_i hunreserved
    exact ⟨hname, by simpa using hunreserved⟩

theorem isFree_candidate (h : IsFree name) (suffix : ℕ) : IsFree (candidate name suffix) := by
  cases suffix with
  | zero => exact h
  | succ suffix =>
      refine ⟨h.1.append fun u hu => .inr (isDigit_digitUnits _ u hu), ?_⟩
      have hletters : ∀ word ∈ reserved, word.all fun u => !isDigit u := by decide +kernel
      intro hreserved
      have hlength := digitUnits_length_pos (show suffix + 2 ≠ 0 by omega)
      obtain ⟨u, hu⟩ := List.exists_mem_of_length_pos hlength
      have hletter := List.all_eq_true.mp (hletters _ hreserved) u (List.mem_append_right _ hu)
      rw [isDigit_digitUnits _ u hu] at hletter
      cases hletter

/-! ## All names -/

/-- The names given so far are apart, and all of them are free. -/
structure NamesApart (taken : Names) : Prop where
  used : taken.used = taken.names.map Prod.snd
  apart : (taken.names.map Prod.snd).Nodup
  free : ∀ entry ∈ taken.names, IsFree entry.2

theorem namesApart_nil : NamesApart ⟨[], []⟩ :=
  ⟨rfl, List.nodup_nil, fun _ h => absurd h List.not_mem_nil⟩

theorem NamesApart.add {taken : Names} (h : NamesApart taken) (hid : isIdentifier id) :
    NamesApart (taken.add id) := by
  obtain ⟨hunused, suffix, hsuffix⟩ := freeName_spec taken.used (baseName id)
  refine ⟨?_, ?_, ?_⟩
  · exact congrArg (freeName taken.used (baseName id) :: ·) h.used
  · rw [h.used] at hunused
    refine List.nodup_cons.mpr ⟨?_, h.apart⟩
    rwa [h.used]
  · intro entry hentry
    rcases List.mem_cons.mp hentry with rfl | hentry
    · show IsFree (freeName taken.used (baseName id))
      rw [hsuffix]
      exact isFree_candidate (isFree_baseName hid) suffix
    · exact h.free entry hentry

theorem namesApart_fold {taken : Names} (h : NamesApart taken)
    (hids : ∀ id ∈ ids, isIdentifier id) :
    NamesApart (ids.foldl Names.add taken) := by
  induction ids generalizing taken with
  | nil => exact h
  | cons id rest ih =>
      exact ih (h.add (hids id List.mem_cons_self))
        fun id hid => hids id (List.mem_cons_of_mem _ hid)

theorem ids_fold (ids : List Text) (taken : Names) :
    (ids.foldl Names.add taken).names.map Prod.fst = ids.reverse ++ taken.names.map Prod.fst := by
  induction ids generalizing taken with
  | nil => rfl
  | cons id rest ih =>
      rw [List.foldl_cons, ih, List.reverse_cons, List.append_assoc]
      rfl

theorem sorted_perm {ids' : List Text} (h : ids'.Perm ids) :
    (ids'.insertionSort fun a b => unitsLe a b) = ids.insertionSort fun a b => unitsLe a b := by
  have htotal : Std.Total fun a b => unitsLe a b = true := ⟨unitsLe_total⟩
  have htrans : IsTrans Text fun a b => unitsLe a b = true := ⟨fun _ _ _ => unitsLe_trans⟩
  have hperm := ((List.perm_insertionSort (fun a b => unitsLe a b = true) ids').trans h).trans
    (List.perm_insertionSort (fun a b => unitsLe a b = true) ids).symm
  exact hperm.eq_of_pairwise (fun a b _ _ => unitsLe_antisymm)
    (List.pairwise_insertionSort _ _) (List.pairwise_insertionSort _ _)

theorem apart_typeNames (h : ∀ id ∈ ids, isIdentifier id) :
    ((typeNames ids).map Prod.snd).Nodup ∧ ∀ entry ∈ typeNames ids, IsFree entry.2 := by
  have hids : ∀ id ∈ ids.insertionSort fun a b => unitsLe a b, isIdentifier id := by
    intro id hid
    exact h id (List.mem_insertionSort (r := fun a b => unitsLe a b = true) |>.mp hid)
  have hall := namesApart_fold namesApart_nil hids
  exact ⟨hall.apart, hall.free⟩

theorem typeNames_ids (ids : List Text) (id : Text) :
    ((typeNames ids).lookup id).isSome ↔ id ∈ ids := by
  rw [Value.lookup_isSome, typeNames, ids_fold, List.map_nil, List.append_nil, List.mem_reverse,
    List.mem_insertionSort]

theorem mem_of_lookup {names : List (Text × Text)} (h : names.lookup id = some name) :
    (id, name) ∈ names := by
  obtain ⟨before, after, hsplit, -⟩ := List.lookup_eq_some_iff.mp h
  rw [hsplit]
  simp

/-- A type name is a word that no keyword is. -/
theorem IsTypeName.word (h : IsTypeName name) :
    isPlainName name ∧ ofWord name = .named name [] := by
  obtain ⟨⟨u, rest, rfl, hlow, hhigh⟩, hunits⟩ := h
  constructor
  · rw [isPlainName, Bool.and_eq_true, List.all_eq_true]
    refine ⟨by simp [isNameStart, hlow, hhigh], fun v hv => ?_⟩
    have hv := hunits v (List.mem_cons_of_mem _ hv)
    rw [isNamePart, Bool.or_eq_true]
    exact hv
  · have hsmall : ∀ word ∈ [units "string", units "number", units "boolean", units "null",
        units "never"], word.head?.all fun v => 0x5a < v := by
      decide
    have hkeyword : ∀ word ∈ [units "string", units "number", units "boolean", units "null",
        units "never"], u :: rest ≠ word := by
      rintro word hword rfl
      have hlow : 0x5a < u := by simpa using hsmall _ hword
      exact absurd hhigh (UInt16.not_le.mpr hlow)
    unfold ofWord
    rw [if_neg (hkeyword _ (by simp)), if_neg (hkeyword _ (by simp)), if_neg (hkeyword _ (by simp)),
      if_neg (hkeyword _ (by simp)), if_neg (hkeyword _ (by simp))]

/-- What the name of an ID is. -/
theorem lookup_typeNames (h : ∀ id ∈ ids, isIdentifier id) (hid : id ∈ ids) :
    ∃ name, (typeNames ids).lookup id = some name ∧ IsFree name ∧
      ∀ id', (typeNames ids).lookup id' = some name → id' = id := by
  obtain ⟨hapart, hfree⟩ := apart_typeNames h
  obtain ⟨name, hname⟩ := Option.isSome_iff_exists.mp ((typeNames_ids ids id).mpr hid)
  refine ⟨name, hname, hfree _ (mem_of_lookup hname), fun id' hname' => ?_⟩
  have hsame := List.inj_on_of_nodup_map hapart (mem_of_lookup hname') (mem_of_lookup hname) rfl
  exact congrArg Prod.fst hsame

/-- Every schema has a name of its own, which is an identifier and means nothing else in the file,
and the names do not depend on the order of the schemas. -/
theorem typeNames_apart (ids : List Text) (h : ∀ id ∈ ids, isIdentifier id) :
    (∀ id ∈ ids, ∃ name, (typeNames ids).lookup id = some name ∧ isPlainName name ∧
      ofWord name = .named name [] ∧ name ∉ reserved ∧
      ∀ id', (typeNames ids).lookup id' = some name → id' = id) ∧
    ∀ ids' : List Text, ids'.Perm ids → typeNames ids' = typeNames ids := by
  refine ⟨fun id hid => ?_, fun ids' hperm => ?_⟩
  · obtain ⟨name, hname, ⟨htype, hreserved⟩, hown⟩ := lookup_typeNames h hid
    obtain ⟨hplain, hword⟩ := htype.word
    exact ⟨name, hname, hplain, hword, hreserved, hown⟩
  · rw [typeNames, sorted_perm hperm, typeNames]

/-- Two IDs with one name in pascal case, and a reserved name. -/
def collidingIds : List Text := [units "order-line", units "record", units "orderLine"]

theorem typeNames_apart_colliding :
    (∀ id ∈ collidingIds, ∃ name, (typeNames collidingIds).lookup id = some name ∧
      isPlainName name ∧ ofWord name = .named name [] ∧ name ∉ reserved ∧
      ∀ id', (typeNames collidingIds).lookup id' = some name → id' = id) ∧
    ∀ ids' : List Text, ids'.Perm collidingIds → typeNames ids' = typeNames collidingIds :=
  typeNames_apart collidingIds (by decide +kernel)

example : typeNames collidingIds =
    [(units "record", units "RecordSchema"), (units "orderLine", units "OrderLine2"),
      (units "order-line", units "OrderLine")] := by
  decide +kernel

end StreamOtter.Generation
