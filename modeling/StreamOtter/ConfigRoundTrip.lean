import Mathlib.Data.List.TakeWhile
import StreamOtter.ProjectConfig

/-!
# The round trip of a configuration

What an accepted configuration has for its canonical text, and what is accepted when that text
is read back.  Two inputs that the validator lets through get in the way: limits that are an
object of another kind, which has no canonical form, and a hole in an array, which is written
as a `null`.
-/

namespace StreamOtter.Configuration

open Ecma Input
open Contracts (maxSafeInteger pointer forall₂_mem_left)
open Control (isIdentifier)

section Checks

variable {depth : ℕ} {fields : Fields} {v : Input} {path : Text} {issues : List Issue}

/-! ## Values read back -/

@[simp] theorem isText_readBack (literal : String) (depth : ℕ) (v : Input) :
    isText literal (readBack depth v) = isText literal v := by
  rw [isText, asText_readBack, isText]

@[simp] theorem isNumber_readBack (test : ℚ → Bool) (depth : ℕ) (v : Input) :
    isNumber test (readBack depth v) = isNumber test v := by
  unfold isNumber
  rw [asNumber_readBack]
  cases v.asNumber with
  | none => rfl
  | some n =>
      cases n with
      | finite x => simp only [Option.map_some, backNumber_finite, toRat_normalized]
      | _ => rfl

@[simp] theorem isBetween_readBack (low high depth : ℕ) (v : Input) :
    isBetween low high (readBack depth v) = isBetween low high v :=
  isNumber_readBack _ depth v

theorem shaped_textLike {p : Text → Bool} (h : v.asText.any p) : shaped (depth + 1) v := by
  cases htext : v.asText with
  | none => simp [htext] at h
  | some text => exact shaped_text htext

theorem shaped_isText {literal : String} (h : isText literal v) : shaped (depth + 1) v :=
  shaped_text (of_decide_eq_true h)

theorem shaped_isNumber {test : ℚ → Bool} (h : isNumber test v) : shaped (depth + 1) v := by
  unfold isNumber at h
  cases hnumber : v.asNumber with
  | none => simp [hnumber] at h
  | some n =>
      cases n with
      | finite x => exact shaped_number hnumber
      | _ => simp [hnumber] at h

/-! ## The parts of a check -/

theorem ofObject_eq_nil {label : String} {check : Fields → List Issue} :
    ofObject label v path check = [] ↔ ∃ fields, v = .object true fields ∧ check fields = [] := by
  constructor
  · intro h
    cases v with
    | object plain fields =>
        cases plain with
        | false => cases h
        | true => exact ⟨fields, rfl, h⟩
    | _ => cases h
  · rintro ⟨fields, rfl, hcheck⟩
    exact hcheck

theorem isUndefined_of_ofObject {label : String} {check : Fields → List Issue}
    (h : ofObject label v path check = []) : v.isUndefined = false := by
  obtain ⟨fields, rfl, -⟩ := ofObject_eq_nil.mp h
  rfl

/-- An object that is checked in the same way when it is read back. -/
theorem ofObject_readBack {label : String} {check check' : Fields → List Issue}
    (h : ofObject label v path check = []) (hdense : dense (depth + 1) v)
    (hcheck : ∀ fields, v = .object true fields → check fields = [] →
      (∀ name, dense depth (property fields name)) → check' (backFields depth fields) = []) :
    ofObject label (readBack (depth + 1) v) path check' = [] := by
  obtain ⟨fields, rfl, hfields⟩ := ofObject_eq_nil.mp h
  exact hcheck fields rfl hfields (dense_property hdense)

theorem shaped_ofObject {label : String} {check : Fields → List Issue}
    (h : ofObject label v path check = [])
    (hcheck : ∀ fields, check fields = [] → shaped depth (.object true fields)) :
    shaped depth v := by
  obtain ⟨fields, rfl, hfields⟩ := ofObject_eq_nil.mp h
  exact hcheck fields hfields

theorem whenGiven_eq_nil : whenGiven v issues = [] ↔ v.isUndefined ∨ issues = [] := by
  unfold whenGiven
  cases v.isUndefined <;> simp

theorem whenGiven_readBack {issues' : List Issue} (h : whenGiven v issues = [])
    (hcheck : issues = [] → issues' = []) : whenGiven (readBack depth v) issues' = [] := by
  rw [whenGiven_eq_nil] at h ⊢
  rw [isUndefined_readBack]
  exact h.imp_right hcheck

theorem shaped_whenGiven (h : whenGiven v issues = []) (hshape : issues = [] → shaped depth v) :
    v.isUndefined ∨ shaped depth v :=
  (whenGiven_eq_nil.mp h).imp_right hshape

/-- A check that a value passes, unless it is not given. -/
theorem shaped_leaf {passes : Bool} (h : (!v.isUndefined && !passes) = false)
    (hshape : passes → shaped depth v) : v.isUndefined ∨ shaped depth v := by
  cases hundefined : v.isUndefined with
  | true => exact .inl rfl
  | false =>
      rw [hundefined, Bool.not_false, Bool.true_and, Bool.not_eq_false'] at h
      exact .inr (hshape h)

theorem keyIssues_eq_nil {required optional : List Text} :
    keyIssues required optional fields path = [] ↔
      (∀ name, hasOwn fields name → name ∈ required ++ optional) ∧
        ∀ name ∈ required, (property fields name).isUndefined = false := by
  simp only [keyIssues, List.append_eq_nil_iff, List.map_eq_nil_iff, List.filter_eq_nil_iff,
    mem_ownKeys, Bool.not_eq_true', Bool.not_eq_false, Bool.not_eq_true, List.contains_iff_mem]

theorem keyIssues_backFields {required optional : List Text}
    (h : keyIssues required optional fields path = []) :
    keyIssues required optional (backFields depth fields) path = [] := by
  rw [keyIssues_eq_nil] at h ⊢
  refine ⟨fun name hname => h.1 name (hasOwn_of_backFields hname), fun name hname => ?_⟩
  rw [property_backFields, isUndefined_readBack]
  exact h.2 name hname

theorem unknownKeyIssues_eq_nil {allowed : List Text} :
    unknownKeyIssues allowed fields path = [] ↔ ∀ name, hasOwn fields name → name ∈ allowed := by
  simp [unknownKeyIssues, List.filter_eq_nil_iff, mem_ownKeys]

theorem unknownKeyIssues_backFields {allowed : List Text}
    (h : unknownKeyIssues allowed fields path = []) :
    unknownKeyIssues allowed (backFields depth fields) path = [] := by
  rw [unknownKeyIssues_eq_nil] at h ⊢
  exact fun name hname => h name (hasOwn_of_backFields hname)

theorem nonEmptyIssues_readBack (label : String) (max depth : ℕ) (v : Input) (path : Text) :
    nonEmptyIssues label max (readBack depth v) path = nonEmptyIssues label max v path := by
  rw [nonEmptyIssues, asText_readBack, nonEmptyIssues]

theorem shaped_nonEmpty {label : String} {max : ℕ} (h : nonEmptyIssues label max v path = []) :
    shaped (depth + 1) v := by
  rw [nonEmptyIssues, issueIf_eq_nil, Bool.not_eq_false'] at h
  exact shaped_textLike h

theorem identifierIssues_readBack (label : String) (depth : ℕ) (v : Input) (path : Text) :
    identifierIssues label (readBack depth v) path = identifierIssues label v path := by
  rw [identifierIssues, asText_readBack, identifierIssues]

theorem shaped_identifier {label : String} (h : identifierIssues label v path = []) :
    shaped (depth + 1) v := by
  unfold identifierIssues at h
  split at h
  · case isTrue htext => exact shaped_textLike htext
  · cases h

theorem secretIssues_readBack (h : secretIssues v path = []) (hdense : dense (depth + 1) v) :
    secretIssues (readBack (depth + 1) v) path = [] := by
  apply ofObject_readBack h hdense
  intro fields _ hfields _
  simp only [List.append_eq_nil_iff, property_backFields, isUndefined_readBack,
    asText_readBack] at hfields ⊢
  exact ⟨keyIssues_backFields hfields.1, hfields.2⟩

theorem shaped_secret (h : secretIssues v path = []) : shaped (depth + 2) v := by
  apply shaped_ofObject h
  intro fields hfields
  simp only [List.append_eq_nil_iff, issueIf_eq_nil] at hfields
  apply shaped_object (keyIssues_eq_nil.mp hfields.1).1
  simp only [List.append_nil, List.Forall]
  exact shaped_leaf hfields.2 shaped_textLike

/-! ## Arrays of strings -/

theorem itemIssues_eq_nil {passes : Input → Bool} {items : List Input} {message : String} :
    itemIssues passes items path message = [] ↔ ∀ item ∈ items, item.isHole || passes item := by
  unfold itemIssues
  simp only [List.flatMap_eq_nil_iff, issueIf_eq_nil]
  constructor
  · intro h item hitem
    obtain ⟨i, hi, rfl⟩ := List.getElem_of_mem hitem
    have hone := h (items[i], i) (List.mk_mem_zipIdx_iff_getElem?.mpr (by simp [hi]))
    cases hhole : items[i].isHole with
    | true => rfl
    | false => simpa [hhole] using hone
  · intro h item hitem
    have hone := h item.1 (List.fst_mem_of_mem_zipIdx hitem)
    cases hhole : item.1.isHole with
    | true => rfl
    | false => simpa [hhole] using hone

theorem itemIssues_strings {passes : Input → Bool} {items : List Input} {message : String}
    (h : itemIssues passes items path message = []) (hpasses : ∀ v, passes v → v.isString) :
    ∀ item ∈ items, item.isHole || item.isString := by
  intro item hitem
  have hone := itemIssues_eq_nil.mp h item hitem
  rw [Bool.or_eq_true] at hone ⊢
  exact hone.imp_right (hpasses item)

theorem isString_of_any {p : Text → Bool} (v : Input) (h : v.asText.any p) : v.isString := by
  cases v with
  | string text => rfl
  | _ => cases h

/-- An array whose items are strings, but for its holes. -/
def IsStrings (v : Input) : Prop :=
  ∃ items, v = .array items ∧ ∀ item ∈ items, item.isHole || item.isString

theorem IsStrings.shaped (h : IsStrings v) : shaped (depth + 2) v := by
  obtain ⟨items, rfl, hitems⟩ := h
  exact shaped_strings hitems

theorem IsStrings.readBack (h : IsStrings v) (hdense : dense depth v) : readBack depth v = v := by
  obtain ⟨items, rfl, hitems⟩ := h
  exact readBack_strings hitems hdense

theorem isStrings_origins {parseUrl : Text → Option Url} (h : originIssues parseUrl v path = []) :
    IsStrings v := by
  cases v with
  | array items =>
      exact ⟨items, rfl, itemIssues_strings (List.append_eq_nil_iff.mp h).1 isString_of_any⟩
  | _ => cases h

theorem isStrings_brokers (h : brokerIssues v path = []) : IsStrings v := by
  cases v with
  | array items =>
      unfold brokerIssues at h
      dsimp only at h
      split at h
      · cases h
      · exact ⟨items, rfl, itemIssues_strings h isString_of_any⟩
  | _ => cases h

theorem isStrings_topics (h : topicIssues v path = []) : IsStrings v := by
  cases v with
  | array items =>
      unfold topicIssues at h
      dsimp only at h
      split at h
      · cases h
      · exact ⟨items, rfl, itemIssues_strings (List.append_eq_nil_iff.mp h).1 isString_of_any⟩
  | _ => cases h

/-! ## The gateway and the connections -/

theorem shaped_gateway {parseUrl : Text → Option Url} (h : gatewayIssues parseUrl v path = []) :
    shaped (depth + 3) v := by
  apply shaped_ofObject h
  intro fields hfields
  simp only [List.append_eq_nil_iff, issueIf_eq_nil] at hfields
  obtain ⟨hkeys, hhost, hport, hpath, horigins⟩ := hfields
  apply shaped_object (keyIssues_eq_nil.mp hkeys).1
  simp only [List.append_nil, List.Forall]
  exact ⟨shaped_whenGiven hhost shaped_nonEmpty, shaped_leaf hport shaped_isNumber,
    shaped_leaf hpath shaped_textLike,
    shaped_whenGiven horigins fun h => (isStrings_origins h).shaped⟩

theorem gatewayIssues_readBack {parseUrl : Text → Option Url}
    (h : gatewayIssues parseUrl v path = []) (hdense : dense (depth + 1) v) :
    gatewayIssues parseUrl (readBack (depth + 1) v) path = [] := by
  apply ofObject_readBack h hdense
  intro fields _ hfields hparts
  simp only [List.append_eq_nil_iff, property_backFields, isUndefined_readBack, asText_readBack,
    isBetween_readBack, nonEmptyIssues_readBack] at hfields ⊢
  obtain ⟨hkeys, hhost, hport, hpath, horigins⟩ := hfields
  refine ⟨keyIssues_backFields hkeys, whenGiven_readBack hhost id, hport, hpath, ?_⟩
  apply whenGiven_readBack horigins
  intro h
  rw [(isStrings_origins h).readBack (hparts _)]
  exact h

theorem tlsIssues_readBack (h : tlsIssues v path = []) (hdense : dense (depth + 1) v) :
    tlsIssues (readBack (depth + 1) v) path = [] := by
  unfold tlsIssues at h ⊢
  rw [asBoolean_readBack]
  split at h
  · case isTrue hfalse => rw [if_pos hfalse]
  · case isFalse htls =>
      rw [if_neg htls]
      apply ofObject_readBack h hdense
      intro fields _ hfields _
      simp only [List.append_eq_nil_iff, property_backFields,
        nonEmptyIssues_readBack] at hfields ⊢
      exact ⟨keyIssues_backFields hfields.1, whenGiven_readBack hfields.2 id⟩

theorem shaped_tls (h : tlsIssues v path = []) : shaped (depth + 2) v := by
  unfold tlsIssues at h
  split at h
  · case isTrue hfalse => exact shaped_boolean hfalse
  · apply shaped_ofObject h
    intro fields hfields
    simp only [List.append_eq_nil_iff] at hfields
    apply shaped_object (keyIssues_eq_nil.mp hfields.1).1
    simp only [List.nil_append, List.Forall]
    exact shaped_whenGiven hfields.2 shaped_nonEmpty

theorem shaped_mechanism
    (h : (isText "plain" v || isText "scram-sha-256" v || isText "scram-sha-512" v) = true) :
    shaped (depth + 1) v := by
  simp only [Bool.or_eq_true] at h
  rcases h with (h | h) | h
  all_goals exact shaped_isText h

theorem saslIssues_readBack (h : saslIssues v path = []) (hdense : dense (depth + 2) v) :
    saslIssues (readBack (depth + 2) v) path = [] := by
  apply ofObject_readBack h hdense
  intro fields _ hfields hparts
  simp only [List.append_eq_nil_iff, property_backFields, isUndefined_readBack,
    isText_readBack] at hfields ⊢
  obtain ⟨hkeys, hmechanism, husername, hpassword⟩ := hfields
  exact ⟨keyIssues_backFields hkeys, hmechanism,
    whenGiven_readBack husername fun h => secretIssues_readBack h (hparts _),
    whenGiven_readBack hpassword fun h => secretIssues_readBack h (hparts _)⟩

theorem shaped_sasl (h : saslIssues v path = []) : shaped (depth + 3) v := by
  apply shaped_ofObject h
  intro fields hfields
  simp only [List.append_eq_nil_iff, issueIf_eq_nil] at hfields
  obtain ⟨hkeys, hmechanism, husername, hpassword⟩ := hfields
  apply shaped_object (keyIssues_eq_nil.mp hkeys).1
  simp only [List.append_nil, List.Forall]
  exact ⟨shaped_leaf hmechanism shaped_mechanism, shaped_whenGiven husername shaped_secret,
    shaped_whenGiven hpassword shaped_secret⟩

theorem connectionIssues_readBack (h : connectionIssues v path = []) (hdense : dense (depth + 3) v) :
    connectionIssues (readBack (depth + 3) v) path = [] := by
  apply ofObject_readBack h hdense
  intro fields _ hfields hparts
  simp only [List.append_eq_nil_iff, property_backFields] at hfields ⊢
  obtain ⟨hkeys, hbrokers, htls, hsasl⟩ := hfields
  refine ⟨keyIssues_backFields hkeys, ?_,
    whenGiven_readBack htls fun h => tlsIssues_readBack h (hparts _),
    whenGiven_readBack hsasl fun h => saslIssues_readBack h (hparts _)⟩
  apply whenGiven_readBack hbrokers
  intro h
  rw [(isStrings_brokers h).readBack (hparts _)]
  exact h

theorem shaped_connection (h : connectionIssues v path = []) : shaped (depth + 4) v := by
  apply shaped_ofObject h
  intro fields hfields
  simp only [List.append_eq_nil_iff] at hfields
  obtain ⟨hkeys, hbrokers, htls, hsasl⟩ := hfields
  apply shaped_object (keyIssues_eq_nil.mp hkeys).1
  simp only [List.cons_append, List.nil_append, List.Forall]
  exact ⟨shaped_whenGiven hbrokers fun h => (isStrings_brokers h).shaped,
    shaped_whenGiven htls shaped_tls, shaped_whenGiven hsasl shaped_sasl⟩

/-! ## Maps -/

/-- The entries of an accepted map, by names that are identifiers. -/
theorem entryIssues_eq_nil {label names : String} {check : Text → Input → Text → List Issue} :
    entryIssues label names v path check = [] ↔
      ∃ fields, v = .object true fields ∧ ∀ name, hasOwn fields name →
        isIdentifier name ∧ check name (property fields name) (pointer path name) = [] := by
  rw [entryIssues, ofObject_eq_nil]
  simp only [List.flatMap_eq_nil_iff, mem_ownKeys]
  constructor
  all_goals
    rintro ⟨fields, hv, hentries⟩
    refine ⟨fields, hv, fun name hname => ?_⟩
    have hentry := hentries name hname
    by_cases hidentifier : isIdentifier name = true
    · simpa [hidentifier] using hentry
    · simp [hidentifier] at hentry

theorem shaped_entries {label names : String} {check : Text → Input → Text → List Issue}
    (h : entryIssues label names v path check = [])
    (hcheck : ∀ name w path, check name w path = [] → shaped depth w) : shaped (depth + 1) v := by
  obtain ⟨fields, rfl, hentries⟩ := entryIssues_eq_nil.mp h
  rw [shaped, Bool.true_and, List.all_eq_true]
  intro name hname
  rw [hcheck _ _ _ (hentries name (mem_ownKeys.mp hname)).2, Bool.or_true]

theorem entryIssues_readBack {label names : String} {check check' : Text → Input → Text → List Issue}
    (h : entryIssues label names v path check = []) (hdense : dense (depth + 1) v)
    (hcheck : ∀ fields name, v = .object true fields → hasOwn fields name →
      check name (property fields name) (pointer path name) = [] →
      dense depth (property fields name) →
      check' name (readBack depth (property fields name)) (pointer path name) = []) :
    entryIssues label names (readBack (depth + 1) v) path check' = [] := by
  obtain ⟨fields, rfl, hentries⟩ := entryIssues_eq_nil.mp h
  rw [entryIssues_eq_nil]
  refine ⟨backFields depth fields, rfl, fun name hname => ?_⟩
  have hown := hasOwn_of_backFields hname
  have hentry := hentries name hown
  rw [property_backFields]
  exact ⟨hentry.1, hcheck fields name rfl hown hentry.2 (dense_property hdense name)⟩

/-- The names are the same when no entry is undefined. -/
theorem ownKeys_backFields
    (hdefined : ∀ name, hasOwn fields name → (property fields name).isUndefined = false) :
    (ownKeys (backFields depth fields)).Perm (ownKeys fields) := by
  rw [List.perm_ext_iff_of_nodup (nodup_ownKeys _) (nodup_ownKeys _)]
  intro name
  rw [mem_ownKeys, mem_ownKeys]
  constructor
  · exact hasOwn_of_backFields
  · intro hname
    rw [hasOwn_backFields, hdefined name hname]
    rfl

theorem mem_identifiers {name : Text} :
    name ∈ identifiers (.object true fields) ↔ hasOwn fields name ∧ isIdentifier name := by
  rw [identifiers, List.mem_filter, mem_ownKeys]

theorem identifiers_readBack {label names : String} {check : Text → Input → Text → List Issue}
    (h : entryIssues label names v path check = [])
    (hcheck : ∀ name w path, check name w path = [] → w.isUndefined = false) (depth : ℕ) :
    (identifiers (readBack (depth + 1) v)).Perm (identifiers v) := by
  obtain ⟨fields, rfl, hentries⟩ := entryIssues_eq_nil.mp h
  apply List.Perm.filter
  apply ownKeys_backFields
  exact fun name hname => hcheck _ _ _ (hentries name hname).2

theorem perm_filterMap {α β : Type*} {f g : α → Option β} {l l' : List α} (h : l.Perm l')
    (hsame : ∀ a ∈ l', f a = g a) : (l.filterMap f).Perm (l'.filterMap g) := by
  rw [← List.filterMap_congr hsame]
  exact h.filterMap f

/-! ## The sources -/

theorem readBack_of_isUndefined (h : v.isUndefined) : readBack depth v = v := by
  cases v with
  | undefined => cases depth <;> rfl
  | hole => cases depth <;> rfl
  | _ => cases h

theorem sourceProperty_backFields (kind : String) (name : Text) (fields : Fields) (depth : ℕ) :
    (sourceProperty kind name (.object true (backFields depth fields))).asText =
      (sourceProperty kind name (.object true fields)).asText := by
  simp only [sourceProperty, property_backFields, isText_readBack]
  split
  · exact asText_readBack _ _
  · rfl

theorem consumerGroup_eq_some {name : Text} (h : consumerGroup v = some name) :
    ∃ fields, v = .object true fields ∧ isText "kafka" (property fields (units "kind")) ∧
      (property fields (units "consumerGroup")).asText.filter isKafkaName = some name := by
  cases v with
  | object plain fields =>
      cases plain with
      | false => cases h
      | true =>
          refine ⟨fields, rfl, ?_⟩
          unfold consumerGroup sourceProperty at h
          dsimp only at h
          split at h
          · case isTrue hkind => exact ⟨hkind, h⟩
          · cases h
  | _ => cases h

/-- An accepted source is the first of its consumer group. -/
theorem groupOwner_of_accepted {connections sources : Input} {id name : Text}
    (h : sourceIssues connections sources id v path = []) (hgroup : consumerGroup v = some name) :
    groupOwner sources id name = none := by
  obtain ⟨fields, rfl, hkind, hname⟩ := consumerGroup_eq_some hgroup
  unfold sourceIssues ofObject at h
  dsimp only at h
  rw [if_pos hkind] at h
  simp only [kafkaSourceIssues, List.append_eq_nil_iff] at h
  obtain ⟨-, -, -, -, hissues, -, -⟩ := h
  rcases whenGiven_eq_nil.mp hissues with hundefined | hissues
  · rw [property_of_isUndefined hundefined] at hname
    cases hname
  · unfold groupIssues at hissues
    rw [hname] at hissues
    dsimp only at hissues
    cases howner : groupOwner sources id name with
    | none => rfl
    | some owner =>
        rw [howner] at hissues
        cases hissues

/-- Of two members one comes before the other. -/
theorem mem_takeWhile_or {α : Type*} [DecidableEq α] {l : List α} {a b : α} (ha : a ∈ l)
    (hb : b ∈ l) (hne : a ≠ b) :
    a ∈ l.takeWhile (fun c => c ≠ b) ∨ b ∈ l.takeWhile (fun c => c ≠ a) := by
  induction l with
  | nil => cases ha
  | cons head rest ih =>
      by_cases hheada : head = a
      · left
        rw [List.takeWhile_cons_of_pos (by simp [hheada, hne])]
        exact List.mem_cons.mpr (.inl hheada.symm)
      · by_cases hheadb : head = b
        · right
          rw [List.takeWhile_cons_of_pos (by simp [hheadb, Ne.symm hne])]
          exact List.mem_cons.mpr (.inl hheadb.symm)
        · have ha' := List.mem_of_ne_of_mem (Ne.symm hheada) ha
          have hb' := List.mem_of_ne_of_mem (Ne.symm hheadb) hb
          rw [List.takeWhile_cons_of_pos (by simp [hheadb]),
            List.takeWhile_cons_of_pos (by simp [hheada])]
          exact (ih ha' hb').imp (List.mem_cons_of_mem _) (List.mem_cons_of_mem _)

theorem groupOwner_eq_none {id name : Text} :
    groupOwner (.object true fields) id name = none ↔
      ∀ other ∈ (identifiers (.object true fields)).takeWhile fun other => other ≠ id,
        consumerGroup (property fields other) ≠ some name := by
  simp [groupOwner, List.find?_eq_none]

/-- No two accepted sources have one consumer group. -/
theorem groups_distinct {connections : Input} {a b name : Text}
    (hsources : ∀ id, hasOwn fields id → isIdentifier id ∧ sourceIssues connections
      (.object true fields) id (property fields id) (pointer path id) = [])
    (ha : hasOwn fields a) (hb : hasOwn fields b) (hne : a ≠ b)
    (hgroup : consumerGroup (property fields a) = some name) :
    consumerGroup (property fields b) ≠ some name := by
  intro hgroupb
  have hmema := mem_identifiers.mpr ⟨ha, (hsources a ha).1⟩
  have hmemb := mem_identifiers.mpr ⟨hb, (hsources b hb).1⟩
  rcases mem_takeWhile_or hmema hmemb hne with hbefore | hbefore
  · exact groupOwner_eq_none.mp (groupOwner_of_accepted (hsources b hb).2 hgroupb) a hbefore hgroup
  · exact groupOwner_eq_none.mp (groupOwner_of_accepted (hsources a ha).2 hgroup) b hbefore hgroupb

theorem consumerGroup_readBack {id : Text} {connections sources : Input}
    (h : sourceIssues connections sources id v path = []) (depth : ℕ) :
    consumerGroup (readBack (depth + 1) v) = consumerGroup v := by
  obtain ⟨fields, rfl, -⟩ := ofObject_eq_nil.mp h
  rw [readBack_object, consumerGroup, sourceProperty_backFields, consumerGroup]

/-- When the sources are read back, no source takes a group before its own. -/
theorem groupOwner_readBack {connections : Input} {id name : Text}
    (hsources : ∀ id, hasOwn fields id → isIdentifier id ∧ sourceIssues connections
      (.object true fields) id (property fields id) (pointer path id) = [])
    (hown : hasOwn fields id) (hgroup : consumerGroup (property fields id) = some name)
    (depth : ℕ) :
    groupOwner (.object true (backFields (depth + 1) fields)) id name = none := by
  rw [groupOwner_eq_none]
  intro other hother
  have hne : other ≠ id := by simpa using List.mem_takeWhile_imp hother
  have hmem := (List.takeWhile_sublist _).subset hother
  have howner := hasOwn_of_backFields (mem_identifiers.mp hmem).1
  rw [property_backFields, consumerGroup_readBack (hsources other howner).2]
  exact groups_distinct hsources hown howner (Ne.symm hne) hgroup

theorem startFrom_shaped (h : (isText "latest" v || isText "earliest" v) = true) :
    shaped (depth + 1) v := by
  rw [Bool.or_eq_true] at h
  exact h.elim shaped_isText shaped_isText

theorem shaped_group {sources : Input} {id : Text} (h : groupIssues sources id v path = []) :
    shaped (depth + 1) v := by
  unfold groupIssues at h
  cases hname : v.asText with
  | none =>
      rw [hname] at h
      cases h
  | some text => exact shaped_text hname

theorem shaped_source {connections sources : Input} {id : Text}
    (h : sourceIssues connections sources id v path = []) : shaped (depth + 3) v := by
  apply shaped_ofObject h
  intro fields hfields
  dsimp only at hfields
  split at hfields
  · case isTrue hkind =>
      simp only [kafkaSourceIssues, List.append_eq_nil_iff, issueIf_eq_nil] at hfields
      obtain ⟨hkeys, hgeneration, href, htopics, hgroup, hcodec, hstart⟩ := hfields
      apply shaped_object (keyIssues_eq_nil.mp hkeys).1
      simp only [List.append_nil, List.Forall]
      exact ⟨.inr (shaped_isText hkind), shaped_whenGiven hgeneration shaped_identifier,
        shaped_leaf href shaped_textLike,
        shaped_whenGiven htopics fun h => (isStrings_topics h).shaped,
        shaped_whenGiven hgroup shaped_group, shaped_leaf hcodec shaped_isText,
        shaped_leaf hstart startFrom_shaped⟩
  · split at hfields
    · case isTrue hkind =>
        simp only [fixtureSourceIssues, List.append_eq_nil_iff] at hfields
        obtain ⟨hkeys, hgeneration, hfixture⟩ := hfields
        apply shaped_object (keyIssues_eq_nil.mp hkeys).1
        simp only [List.append_nil, List.Forall]
        exact ⟨.inr (shaped_isText hkind), shaped_whenGiven hgeneration shaped_identifier,
          shaped_whenGiven hfixture shaped_identifier⟩
    · cases hfields

theorem groupIssues_readBack {sources sources' : Input} {id : Text}
    (h : groupIssues sources id v path = [])
    (hgroups : ∀ name, v.asText.filter isKafkaName = some name →
      groupOwner sources' id name = none) :
    groupIssues sources' id (readBack depth v) path = [] := by
  unfold groupIssues at h ⊢
  rw [asText_readBack]
  cases hname : v.asText.filter isKafkaName with
  | none =>
      rw [hname] at h
      cases h
  | some name => simp only [hgroups name hname]

theorem sourceIssues_readBack {connections connections' sources sources' : Input} {id : Text}
    (h : sourceIssues connections sources id v path = []) (hdense : dense (depth + 1) v)
    (hrefs : ∀ ref, (identifiers connections').contains ref = (identifiers connections).contains ref)
    (hgroups : ∀ name, consumerGroup v = some name → groupOwner sources' id name = none) :
    sourceIssues connections' sources' id (readBack (depth + 1) v) path = [] := by
  apply ofObject_readBack h hdense
  rintro fields rfl hfields hparts
  simp only [property_backFields, isText_readBack] at hfields ⊢
  split at hfields
  · case isTrue hkind =>
      rw [if_pos hkind]
      simp only [kafkaSourceIssues, List.append_eq_nil_iff, property_backFields,
        isUndefined_readBack, asText_readBack, isText_readBack, identifierIssues_readBack,
        hrefs] at hfields ⊢
      obtain ⟨hkeys, hgeneration, href, htopics, hgroup, hcodec, hstart⟩ := hfields
      refine ⟨keyIssues_backFields hkeys, whenGiven_readBack hgeneration (fun h => h), href, ?_, ?_, hcodec,
        hstart⟩
      · apply whenGiven_readBack htopics
        intro h
        rw [(isStrings_topics h).readBack (hparts _)]
        exact h
      · apply whenGiven_readBack hgroup
        intro h
        apply groupIssues_readBack h
        intro name hname
        apply hgroups
        unfold consumerGroup sourceProperty
        dsimp only
        rw [if_pos hkind]
        exact hname
  · case isFalse hkafka =>
      rw [if_neg hkafka]
      split at hfields
      · case isTrue hkind =>
          rw [if_pos hkind]
          simp only [fixtureSourceIssues, List.append_eq_nil_iff, property_backFields,
            identifierIssues_readBack] at hfields ⊢
          exact ⟨keyIssues_backFields hfields.1, whenGiven_readBack hfields.2.1 (fun h => h),
            whenGiven_readBack hfields.2.2 (fun h => h)⟩
      · cases hfields

/-- An accepted source has the same shape when it is read back. -/
theorem sourceShape_readBack {connections sources : Input} {id : Text}
    (h : sourceIssues connections sources id v path = []) (hdense : dense (depth + 1) v) :
    sourceShape (readBack (depth + 1) v) = sourceShape v := by
  obtain ⟨fields, rfl, hfields⟩ := ofObject_eq_nil.mp h
  have hparts := dense_property hdense
  simp only [readBack_object, sourceShape, property_backFields, isText_readBack]
  split
  · case isTrue hkind =>
      dsimp only at hfields
      rw [if_pos hkind] at hfields
      simp only [kafkaSourceIssues, List.append_eq_nil_iff] at hfields
      obtain ⟨-, -, -, htopics, -⟩ := hfields
      have hback : readBack depth (property fields (units "topics")) =
          property fields (units "topics") := by
        rcases whenGiven_eq_nil.mp htopics with hundefined | htopics
        · exact readBack_of_isUndefined hundefined
        · exact (isStrings_topics htopics).readBack (hparts _)
      rw [hback]
  · rfl

theorem sources_readBack {label names : String} {connections connections' : Input}
    (h : entryIssues label names v path (sourceIssues connections v) = [])
    (hdense : dense (depth + 2) v)
    (hrefs : ∀ ref,
      (identifiers connections').contains ref = (identifiers connections).contains ref) :
    entryIssues label names (readBack (depth + 2) v) path
      (sourceIssues connections' (readBack (depth + 2) v)) = [] := by
  apply entryIssues_readBack h hdense
  rintro fields id rfl hown hissues hpart
  obtain ⟨fields', hfields, hsources⟩ := entryIssues_eq_nil.mp h
  obtain rfl := (Input.object.inj hfields).2
  apply sourceIssues_readBack hissues hpart hrefs
  intro name hgroup
  exact groupOwner_readBack hsources hown hgroup depth

/-- The sources' own values in the order of their names, of an accepted map. -/
theorem perm_of_sources {label names : String} {connections : Input} {α : Type*}
    {f g : Text → Input → Option α}
    (h : entryIssues label names v path (sourceIssues connections v) = [])
    (hdense : dense (depth + 2) v)
    (hsame : ∀ id source path, sourceIssues connections v id source path = [] →
      dense (depth + 1) source → f id (readBack (depth + 1) source) = g id source) :
    ∃ fields, v = .object true fields ∧
      ((identifiers (readBack (depth + 2) v)).filterMap
        fun id => f id (property (backFields (depth + 1) fields) id)).Perm
      ((identifiers v).filterMap fun id => g id (property fields id)) := by
  have hperm := identifiers_readBack h (fun _ _ _ => isUndefined_of_ofObject) (depth + 1)
  obtain ⟨fields, rfl, hsources⟩ := entryIssues_eq_nil.mp h
  refine ⟨fields, rfl, perm_filterMap hperm ?_⟩
  intro id hid
  rw [property_backFields]
  exact hsame _ _ _ (hsources id (mem_identifiers.mp hid).1).2 (dense_property hdense id)

theorem kafkaProfiles_readBack {label names : String} {connections connections' : Input}
    (h : entryIssues label names v path (sourceIssues connections v) = [])
    (hdense : dense (depth + 2) v)
    (hrefs : ∀ ref,
      (identifiers connections').contains ref = (identifiers connections).contains ref) :
    (kafkaProfiles connections' (readBack (depth + 2) v)).length =
      (kafkaProfiles connections v).length := by
  obtain ⟨fields, rfl, hperm⟩ := @perm_of_sources depth v path label names connections Text
    (fun _ => kafkaProfile connections') (fun _ => kafkaProfile connections) h hdense (by
      intro id source path hsource _
      obtain ⟨fields, rfl, -⟩ := ofObject_eq_nil.mp hsource
      simp only [kafkaProfile, readBack_object, sourceProperty_backFields, hrefs])
  exact hperm.dedup.length_eq

theorem sourceShapes_readBack {label names : String} {connections : Input}
    (h : entryIssues label names v path (sourceIssues connections v) = [])
    (hdense : dense (depth + 2) v) :
    (sourceShapes (readBack (depth + 2) v)).Perm (sourceShapes v) := by
  obtain ⟨fields, rfl, hperm⟩ := @perm_of_sources depth v path label names connections
    (Text × SourceShape) (fun id source => (sourceShape source).map (Prod.mk id))
    (fun id source => (sourceShape source).map (Prod.mk id)) h hdense (by
      intro id source path hsource hpart
      rw [sourceShape_readBack hsource hpart])
  exact hperm

theorem keys_sublist {α : Type*} (f : Text → Option α) (names : List Text) :
    ((names.filterMap fun name => (f name).map (Prod.mk name)).map Prod.fst).Sublist names := by
  induction names with
  | nil => exact .slnil
  | cons name rest ih =>
      cases hname : f name with
      | none =>
          rw [List.filterMap_cons_none (by rw [hname]; rfl)]
          exact ih.cons name
      | some value =>
          rw [List.filterMap_cons_some (by rw [hname]; rfl), List.map_cons]
          exact ih.cons_cons name

theorem nodup_sourceShapes (v : Input) : ((sourceShapes v).map Prod.fst).Nodup := by
  cases v with
  | object plain fields =>
      cases plain with
      | false => exact List.nodup_nil
      | true =>
          have hnodup := (nodup_ownKeys fields).filter isIdentifier
          exact hnodup.sublist (keys_sublist (fun id => sourceShape (property fields id)) _)
  | _ => exact List.nodup_nil

/-! ## The channels -/

theorem isSchemaName_readBack {label names : String} {check : Text → Input → Text → List Issue}
    (h : entryIssues label names v path check = [])
    (hcheck : ∀ name w path, check name w path = [] → w.isUndefined = false) (depth : ℕ) :
    isSchemaName (readBack (depth + 1) v) = isSchemaName v := by
  obtain ⟨fields, rfl, hentries⟩ := entryIssues_eq_nil.mp h
  funext name
  rw [readBack_object, isSchemaName, isSchemaName, Bool.eq_iff_iff]
  have hperm := @ownKeys_backFields depth fields
    fun name hname => hcheck _ _ _ (hentries name hname).2
  rw [← mem_ownKeys, ← mem_ownKeys]
  exact hperm.mem_iff

/-- A schema that is read back is the one that the definitions have under its name. -/
theorem schemaDefinition_readBack {label names : String} {name : Text} {schema : Input}
    (h : entryIssues label names v (units "/schemas") (fun _ => validateSchemaDefinition) = [])
    (hdense : dense (depth + 1) v)
    (hschema : schemaDefinition (readBack (depth + 1) v) name = some schema) :
    ∃ w, schemaDefinition v name = some w ∧ schema = readBack depth w ∧ dense depth w ∧
      validateSchemaDefinition w (pointer (units "/schemas") name) = [] := by
  have hperm := identifiers_readBack h
    (fun _ _ _ hissues => isUndefined_of_schemaIssues hissues) depth
  obtain ⟨fields, rfl, hentries⟩ := entryIssues_eq_nil.mp h
  unfold schemaDefinition at hschema
  rw [readBack_object] at hschema
  dsimp only at hschema
  split at hschema
  · case isTrue hfound =>
      obtain rfl := Option.some.inj hschema
      rw [Bool.and_eq_true, List.contains_iff_mem] at hfound
      have hname := hperm.mem_iff.mp hfound.1
      have haccepted := (hentries name (mem_identifiers.mp hname).1).2
      refine ⟨property fields name, ?_, property_backFields _ _ _, dense_property hdense name,
        haccepted⟩
      unfold schemaDefinition
      dsimp only
      rw [haccepted, List.contains_iff_mem.mpr hname]
      rfl
  · cases hschema

theorem paramsIssues_readBack {label names : String} {ref : Input}
    (h : entryIssues label names v (units "/schemas") (fun _ => validateSchemaDefinition) = [])
    (hdense : dense (depth + 1) v) (hparams : paramsIssues v ref = []) (d : ℕ) :
    paramsIssues (readBack (depth + 1) v) (readBack d ref) = [] := by
  unfold paramsIssues at hparams ⊢
  rw [asText_readBack]
  cases hname : ref.asText with
  | none => rfl
  | some name =>
      rw [hname] at hparams
      simp only [Option.bind_some] at hparams ⊢
      cases hschema : schemaDefinition (readBack (depth + 1) v) name with
      | none => rfl
      | some schema =>
          obtain ⟨w, hw, rfl, hpart, haccepted⟩ := schemaDefinition_readBack h hdense hschema
          rw [hw] at hparams
          exact paramsSchemaIssues_readBack hparams haccepted hpart

theorem shaped_delivery (h : deliveryIssues v path = []) : shaped (depth + 2) v := by
  apply shaped_ofObject h
  intro fields hfields
  simp only [List.append_eq_nil_iff, issueIf_eq_nil] at hfields
  obtain ⟨hkeys, hkind, hoverflow⟩ := hfields
  apply shaped_object (keyIssues_eq_nil.mp hkeys).1
  simp only [List.append_nil, List.Forall]
  exact ⟨shaped_leaf hkind shaped_isText, shaped_leaf hoverflow shaped_isText⟩

theorem deliveryIssues_readBack (h : deliveryIssues v path = []) (hdense : dense (depth + 1) v) :
    deliveryIssues (readBack (depth + 1) v) path = [] := by
  apply ofObject_readBack h hdense
  intro fields _ hfields _
  simp only [List.append_eq_nil_iff, property_backFields, isUndefined_readBack,
    isText_readBack] at hfields ⊢
  exact ⟨keyIssues_backFields hfields.1, hfields.2⟩

theorem shaped_reference {schemas : Input} {key : Text}
    (h : referenceIssues schemas key v path = []) : v.isUndefined ∨ shaped (depth + 1) v := by
  rw [referenceIssues, issueIf_eq_nil] at h
  exact shaped_leaf h shaped_textLike

theorem shaped_channel {sources schemas : Input} {name : Text}
    (h : channelIssues sources schemas name v path = []) : shaped (depth + 3) v := by
  apply shaped_ofObject h
  intro fields hfields
  simp only [List.append_eq_nil_iff, issueIf_eq_nil] at hfields
  obtain ⟨hkeys, hversion, hsource, hparams, hpayload, -, hhandlers, hdelivery⟩ := hfields
  apply shaped_object (keyIssues_eq_nil.mp hkeys).1
  simp only [List.append_nil, List.Forall]
  refine ⟨shaped_leaf hversion shaped_isNumber, shaped_leaf hsource shaped_textLike,
    shaped_reference hparams, shaped_reference hpayload, ?_, shaped_whenGiven hdelivery shaped_delivery⟩
  have hleaf : (!(property fields (units "handlersRef")).isUndefined &&
      !decide ((property fields (units "handlersRef")).asText = some name)) = false := by
    simpa using hhandlers
  exact shaped_leaf hleaf fun h => shaped_text (of_decide_eq_true h)

theorem channelIssues_readBack {label names : String} {sources sources' schemas : Input}
    {name : Text} {d : ℕ} (h : channelIssues sources schemas name v path = [])
    (hdense : dense (depth + 2) v)
    (hschemas : entryIssues label names schemas (units "/schemas")
      (fun _ => validateSchemaDefinition) = [])
    (hdenseSchemas : dense (d + 1) schemas)
    (hrefs : ∀ ref, (identifiers sources').contains ref = (identifiers sources).contains ref) :
    channelIssues sources' (readBack (d + 1) schemas) name (readBack (depth + 2) v) path = [] := by
  apply ofObject_readBack h hdense
  intro fields _ hfields hparts
  have hnames := isSchemaName_readBack hschemas
    (fun _ _ _ hissues => isUndefined_of_schemaIssues hissues) d
  simp only [List.append_eq_nil_iff, referenceIssues, property_backFields, isUndefined_readBack,
    asText_readBack, isBetween_readBack, hrefs, hnames] at hfields ⊢
  obtain ⟨hkeys, hversion, hsource, hparams, hpayload, hparamsSchema, hhandlers, hdelivery⟩ :=
    hfields
  exact ⟨keyIssues_backFields hkeys, hversion, hsource, hparams, hpayload,
    paramsIssues_readBack hschemas hdenseSchemas hparamsSchema _, hhandlers,
    whenGiven_readBack hdelivery fun h => deliveryIssues_readBack h (hparts _)⟩

/-! ## The limits -/

theorem limitIssues_eq_nil {key : Text} (h : limitIssues key v path = []) :
    isBetween 1 maxSafeInteger v := by
  unfold limitIssues at h
  split at h
  · cases h
  · split at h
    · cases h
    · case isFalse hbetween => simpa using hbetween

theorem limitIssues_readBack (key : Text) (depth : ℕ) (v : Input) (path : Text) :
    limitIssues key (readBack depth v) path = limitIssues key v path := by
  simp only [limitIssues, isBetween_readBack]

theorem resolvedLimit_backFields (depth : ℕ) (fields : Fields) :
    resolvedLimit (backFields depth fields) = resolvedLimit fields := by
  funext key
  unfold resolvedLimit
  rw [property_backFields, asNumber_readBack]
  cases (property fields key).asNumber with
  | none => rfl
  | some n =>
      cases n with
      | finite x => simp only [Option.map_some, backNumber_finite, toRat_normalized]
      | _ => rfl

theorem validateLimits_eq_nil :
    validateLimits v path = [] ↔ v.isUndefined ∨ ∃ plain fields, v = .object plain fields ∧
      (∀ key, hasOwn fields key → limitIssues key (property fields key) path = []) ∧
      consistencyIssues (resolvedLimit fields) path = [] := by
  cases v with
  | undefined => exact ⟨fun _ => .inl rfl, fun _ => rfl⟩
  | hole => exact ⟨fun _ => .inl rfl, fun _ => rfl⟩
  | object plain fields =>
      have hkeys : ((ownKeys fields).flatMap fun key => limitIssues key (property fields key) path) =
          [] ↔ ∀ key, hasOwn fields key → limitIssues key (property fields key) path = [] := by
        simp only [List.flatMap_eq_nil_iff, mem_ownKeys]
      unfold validateLimits
      dsimp only
      constructor
      · intro h
        split at h
        · case isTrue hissues =>
            exact .inr ⟨plain, fields, rfl, hkeys.mp (List.isEmpty_iff.mp hissues), h⟩
        · case isFalse hissues => exact absurd (List.isEmpty_iff.mpr h) hissues
      · rintro (hundefined | ⟨plain', fields', heq, hissues, hconsistent⟩)
        · cases hundefined
        · obtain ⟨rfl, rfl⟩ := Input.object.inj heq
          rw [if_pos (List.isEmpty_iff.mpr (hkeys.mpr hissues))]
          exact hconsistent
  | _ =>
      refine ⟨fun h => (by cases h), ?_⟩
      rintro (hundefined | ⟨plain, fields, heq, -⟩)
      · cases hundefined
      · cases heq

/-- What accepted limits lack: that they are an object of the plain kind. -/
def PlainLimits (v : Input) : Prop := v.isUndefined ∨ ∃ fields, v = .object true fields

theorem shaped_limits (h : validateLimits v path = []) (hplain : PlainLimits v) :
    v.isUndefined ∨ shaped (depth + 2) v := by
  rcases hplain with hundefined | ⟨fields, rfl⟩
  · exact .inl hundefined
  · right
    rcases validateLimits_eq_nil.mp h with hundefined | ⟨plain, fields', heq, hissues, -⟩
    · cases hundefined
    · obtain ⟨rfl, rfl⟩ := Input.object.inj heq
      rw [shaped, Bool.true_and, List.all_eq_true]
      intro key hkey
      have hbetween := limitIssues_eq_nil (hissues key (mem_ownKeys.mp hkey))
      rw [shaped_isNumber hbetween, Bool.or_true]

theorem validateLimits_readBack (h : validateLimits v path = []) (depth : ℕ) :
    validateLimits (readBack depth v) path = [] := by
  rcases validateLimits_eq_nil.mp h with hundefined | ⟨plain, fields, rfl, hissues, hconsistent⟩
  · rw [readBack_of_isUndefined hundefined]
    exact h
  · cases depth with
    | zero => exact h
    | succ depth =>
        rw [readBack_object, validateLimits_eq_nil]
        refine .inr ⟨true, backFields depth fields, rfl, ?_, ?_⟩
        · intro key hkey
          rw [property_backFields, limitIssues_readBack]
          exact hissues key (hasOwn_of_backFields hkey)
        · rw [resolvedLimit_backFields]
          exact hconsistent

theorem plainLimits_readBack (h : validateLimits v path = []) (depth : ℕ) :
    PlainLimits (readBack (depth + 1) v) := by
  rcases validateLimits_eq_nil.mp h with hundefined | ⟨plain, fields, rfl, -⟩
  · left
    rw [isUndefined_readBack]
    exact hundefined
  · exact .inr ⟨backFields depth fields, rfl⟩

/-! ## The handling of failures -/

theorem shaped_isPolicy (h : isPolicy v) : shaped (depth + 1) v := by
  unfold isPolicy at h
  simp only [Bool.or_eq_true] at h
  rcases h with (h | h) | h
  all_goals exact shaped_isText h

theorem shaped_isRetirement (h : isRetirement v) : shaped (depth + 1) v := by
  unfold isRetirement at h
  simp only [Bool.or_eq_true] at h
  rcases h with (h | h) | h
  all_goals exact shaped_isText h

@[simp] theorem isPolicy_readBack (depth : ℕ) (v : Input) :
    isPolicy (readBack depth v) = isPolicy v := by
  simp only [isPolicy, isText_readBack]

@[simp] theorem isSkipWord_readBack (depth : ℕ) (v : Input) :
    isSkipWord (readBack depth v) = isSkipWord v := by
  simp only [isSkipWord, isText_readBack]

@[simp] theorem isRetirement_readBack (depth : ℕ) (v : Input) :
    isRetirement (readBack depth v) = isRetirement v := by
  simp only [isRetirement, isText_readBack]

theorem policyIssues_readBack (key : String) (depth : ℕ) (v : Input) (path : Text) :
    policyIssues key (readBack depth v) path = policyIssues key v path := by
  rw [policyIssues, isUndefined_readBack, isPolicy_readBack, asText_readBack,
    isSkipWord_readBack, policyIssues]

theorem retirementIssues_readBack (resyncs : Bool) (depth : ℕ) (v : Input) (path : Text) :
    retirementIssues resyncs (readBack depth v) path = retirementIssues resyncs v path := by
  rw [retirementIssues, isRetirement_readBack, retirementIssues]

theorem shaped_retirement {resyncs : Bool} (h : retirementIssues resyncs v path = []) :
    shaped (depth + 1) v := by
  unfold retirementIssues at h
  split at h
  · cases h
  · case isFalse hretirement => exact shaped_isRetirement (by simpa using hretirement)

theorem advanceLimitIssues_readBack {resyncs : Bool} (h : advanceLimitIssues resyncs v path = [])
    (hdense : dense (depth + 1) v) :
    advanceLimitIssues resyncs (readBack (depth + 1) v) path = [] := by
  apply ofObject_readBack h hdense
  intro fields _ hfields _
  simp only [List.append_eq_nil_iff, property_backFields, isBetween_readBack] at hfields ⊢
  exact ⟨unknownKeyIssues_backFields hfields.1, hfields.2⟩

theorem shaped_advanceLimit {resyncs : Bool} (h : advanceLimitIssues resyncs v path = []) :
    shaped (depth + 2) v := by
  apply shaped_ofObject h
  intro fields hfields
  simp only [List.append_eq_nil_iff, issueIf_eq_nil, Bool.not_eq_false'] at hfields
  obtain ⟨hkeys, hincidents, hwindow, -⟩ := hfields
  apply shaped_object (unknownKeyIssues_eq_nil.mp hkeys)
  exact ⟨.inr (shaped_isNumber hincidents), .inr (shaped_isNumber hwindow)⟩

theorem quarantineIssues_readBack {shapes shapes' : List (Text × SourceShape)}
    (h : quarantineIssues shapes v path = []) (hdense : dense (depth + 1) v)
    (hshapes : shapes'.Perm shapes) :
    quarantineIssues shapes' (readBack (depth + 1) v) path = [] := by
  apply ofObject_readBack h hdense
  intro fields _ hfields _
  simp only [List.append_eq_nil_iff, property_backFields, isUndefined_readBack, asText_readBack,
    isText_readBack] at hfields ⊢
  obtain ⟨hkeys, htopic, hcapture⟩ := hfields
  refine ⟨unknownKeyIssues_backFields hkeys, ?_, hcapture⟩
  split at htopic
  · cases htopic
  · case isFalse hdefined =>
      rw [if_neg hdefined]
      split at htopic
      · cases htopic
      · rw [List.map_eq_nil_iff] at htopic ⊢
        exact ((hshapes.filter _).trans (.of_eq htopic)).eq_nil

theorem shaped_quarantine {shapes : List (Text × SourceShape)}
    (h : quarantineIssues shapes v path = []) : shaped (depth + 2) v := by
  apply shaped_ofObject h
  intro fields hfields
  simp only [List.append_eq_nil_iff] at hfields
  obtain ⟨hkeys, htopic, hcapture⟩ := hfields
  apply shaped_object (unknownKeyIssues_eq_nil.mp hkeys)
  refine ⟨.inr ?_, .inr ?_⟩
  · split at htopic
    · cases htopic
    · cases hname : (property fields (units "topic")).asText with
      | none =>
          rw [hname] at htopic
          cases htopic
      | some text => exact shaped_text hname
  · split at hcapture
    · cases hcapture
    · rw [issueIf_eq_nil, Bool.not_eq_false'] at hcapture
      exact shaped_isText hcapture

theorem isNone_topicOf (quarantine : Input) :
    ((topicOf quarantine).isNone && quarantine.isUndefined) = quarantine.isUndefined := by
  cases quarantine with
  | object plain fields => simp [isUndefined]
  | _ => rfl

theorem sourcePolicyIssues_readBack {kafka : Bool} {quarantine quarantine' : Input}
    {sourceId root : Text} (h : sourcePolicyIssues kafka quarantine sourceId v path root = [])
    (hdense : dense (depth + 2) v) (hquarantine : quarantine'.isUndefined = quarantine.isUndefined) :
    sourcePolicyIssues kafka quarantine' sourceId (readBack (depth + 2) v) path root = [] := by
  have hmissing : ((topicOf quarantine').isNone && quarantine'.isUndefined) =
      quarantine.isUndefined := (isNone_topicOf quarantine').trans hquarantine
  apply ofObject_readBack h hdense
  intro fields _ hfields hparts
  simp only [List.append_eq_nil_iff, property_backFields, isUndefined_readBack, asBoolean_readBack,
    isText_readBack, isNumber_readBack, isPolicy_readBack, policyIssues_readBack,
    retirementIssues_readBack, Bool.and_assoc, isNone_topicOf quarantine, hmissing, List.any_cons,
    List.any_nil] at hfields ⊢
  obtain ⟨hkeys, hjson, hpayload, htopic, hretries, hreplay, hrepeats, hlimit, hretirement⟩ := hfields
  exact ⟨unknownKeyIssues_backFields hkeys, hjson, hpayload, htopic, hretries, hreplay, hrepeats,
    whenGiven_readBack hlimit fun h => advanceLimitIssues_readBack h (hparts _),
    whenGiven_readBack hretirement fun h => h⟩

theorem shaped_policy {key : String} (h : policyIssues key v path = []) :
    v.isUndefined ∨ shaped (depth + 1) v := by
  rw [policyIssues, issueIf_eq_nil] at h
  exact shaped_leaf h shaped_isPolicy

theorem shaped_sourcePolicy {kafka : Bool} {quarantine : Input} {sourceId root : Text}
    (h : sourcePolicyIssues kafka quarantine sourceId v path root = []) : shaped (depth + 3) v := by
  apply shaped_ofObject h
  intro fields hfields
  simp only [List.append_eq_nil_iff, issueIf_eq_nil] at hfields
  obtain ⟨hkeys, hjson, hpayload, -, hretries, hreplay, -, hlimit, hretirement⟩ := hfields
  apply shaped_object (unknownKeyIssues_eq_nil.mp hkeys)
  simp only [policyKeys, List.Forall]
  refine ⟨shaped_policy hjson, shaped_policy hpayload, shaped_leaf hretries shaped_isNumber, ?_,
    shaped_whenGiven hlimit shaped_advanceLimit, shaped_whenGiven hretirement shaped_retirement⟩
  cases hboolean : (property fields (units "replaySafeMapping")).asBoolean with
  | none =>
      rw [hboolean, Option.isNone_none, Bool.and_true, Bool.not_eq_false'] at hreplay
      exact .inl hreplay
  | some value => exact .inr (shaped_boolean hboolean)

theorem policiesIssues_eq_nil {shapes : List (Text × SourceShape)} {quarantine : Input}
    {root : Text} (h : policiesIssues shapes quarantine v path root = []) :
    ∃ fields, v = .object true fields ∧ ∀ sourceId, hasOwn fields sourceId →
      (shapes.lookup sourceId).isSome ∧
      sourcePolicyIssues ((shapes.lookup sourceId).any fun shape => shape.kafka) quarantine sourceId
        (property fields sourceId) (pointer path sourceId) root = [] := by
  cases v with
  | object plain fields =>
      cases plain with
      | false => cases h
      | true =>
          refine ⟨fields, rfl, fun sourceId hsource => ?_⟩
          have hone := List.flatMap_eq_nil_iff.mp h sourceId (mem_ownKeys.mpr hsource)
          rw [List.append_eq_nil_iff, issueIf_eq_nil, Option.isNone_eq_false_iff] at hone
          exact hone
  | _ => cases h

theorem policiesIssues_readBack {shapes shapes' : List (Text × SourceShape)}
    {quarantine quarantine' : Input} {root : Text}
    (h : policiesIssues shapes quarantine v path root = []) (hdense : dense (depth + 3) v)
    (hshapes : ∀ name, shapes'.lookup name = shapes.lookup name)
    (hquarantine : quarantine'.isUndefined = quarantine.isUndefined) :
    policiesIssues shapes' quarantine' (readBack (depth + 3) v) path root = [] := by
  obtain ⟨fields, rfl, hsources⟩ := policiesIssues_eq_nil h
  rw [readBack_object]
  unfold policiesIssues
  dsimp only
  rw [List.flatMap_eq_nil_iff]
  intro sourceId hsource
  obtain ⟨hknown, hissues⟩ := hsources sourceId (hasOwn_of_backFields (mem_ownKeys.mp hsource))
  rw [List.append_eq_nil_iff, issueIf_eq_nil, Option.isNone_eq_false_iff, hshapes,
    property_backFields]
  exact ⟨hknown, sourcePolicyIssues_readBack hissues (dense_property hdense sourceId) hquarantine⟩

theorem shaped_policies {shapes : List (Text × SourceShape)} {quarantine : Input} {root : Text}
    (h : policiesIssues shapes quarantine v path root = []) : shaped (depth + 4) v := by
  obtain ⟨fields, rfl, hsources⟩ := policiesIssues_eq_nil h
  rw [shaped, Bool.true_and, List.all_eq_true]
  intro sourceId hsource
  rw [shaped_sourcePolicy (hsources sourceId (mem_ownKeys.mp hsource)).2, Bool.or_true]

theorem failureHandling_readBack {shapes shapes' : List (Text × SourceShape)}
    (h : validateFailureHandling shapes v path = []) (hdense : dense (depth + 4) v)
    (hshapes : shapes'.Perm shapes) (hnodup : (shapes.map Prod.fst).Nodup) :
    validateFailureHandling shapes' (readBack (depth + 4) v) path = [] := by
  apply whenGiven_readBack h
  intro h
  apply ofObject_readBack h hdense
  intro fields _ hfields hparts
  simp only [List.append_eq_nil_iff, property_backFields] at hfields ⊢
  obtain ⟨hkeys, hquarantine, hpolicies⟩ := hfields
  have hlookup : ∀ name, shapes'.lookup name = shapes.lookup name :=
    fun name => (lookup_perm hshapes.symm hnodup name).symm
  exact ⟨unknownKeyIssues_backFields hkeys,
    whenGiven_readBack hquarantine fun h => quarantineIssues_readBack h (hparts _) hshapes,
    policiesIssues_readBack hpolicies (hparts _) hlookup (isUndefined_readBack _ _)⟩

theorem shaped_failureHandling {shapes : List (Text × SourceShape)}
    (h : validateFailureHandling shapes v path = []) : v.isUndefined ∨ shaped (depth + 5) v := by
  apply shaped_whenGiven h
  intro h
  apply shaped_ofObject h
  intro fields hfields
  simp only [List.append_eq_nil_iff] at hfields
  obtain ⟨hkeys, hquarantine, hpolicies⟩ := hfields
  apply shaped_object (unknownKeyIssues_eq_nil.mp hkeys)
  simp only [List.Forall]
  exact ⟨shaped_whenGiven hquarantine shaped_quarantine, .inr (shaped_policies hpolicies)⟩

end Checks

/-! ## The configuration -/

section Configurations

variable {parseUrl : Text → Option Url} {v : Input}

/-- The nesting allowed when a configuration is canonicalized. -/
def maxConfigDepth : ℕ := 2 * maxNestingDepth + 8

def limitsOf : Input → Input
  | .object _ fields => property fields (units "limits")
  | _ => .undefined

/-- An accepted configuration has the shape, but for limits of another kind. -/
theorem shaped_of_accepted (h : Accepted parseUrl v) (hplain : PlainLimits (limitsOf v)) :
    shaped maxConfigDepth v := by
  obtain ⟨fields, rfl, hfields⟩ := ofObject_eq_nil.mp h
  simp only [List.append_eq_nil_iff, issueIf_eq_nil] at hfields
  obtain ⟨hkeys, hversion, hproject, hgateway, hconnections, hsources, -, hschemas, hchannels,
    hlimits, hfailures⟩ := hfields
  apply @shaped_object 39 _ _ (keyIssues_eq_nil.mp hkeys).1
  simp only [requiredKeys, List.cons_append, List.nil_append, List.Forall]
  refine ⟨shaped_leaf hversion shaped_isNumber, shaped_whenGiven hproject shaped_identifier,
    shaped_whenGiven hgateway shaped_gateway, ?_, ?_, ?_, ?_, shaped_limits hlimits hplain,
    shaped_failureHandling hfailures⟩
  · apply shaped_whenGiven hconnections
    exact fun h => shaped_entries h fun _ _ _ => shaped_connection
  · apply shaped_whenGiven hsources
    exact fun h => shaped_entries h fun _ _ _ => shaped_source
  · apply shaped_whenGiven hschemas
    intro h
    have hshape : shaped (2 * maxNestingDepth + 1 + 1) (property fields (units "schemas")) :=
      shaped_entries h fun _ _ _ => shaped_schema
    exact shaped_mono (by decide) hshape
  · apply shaped_whenGiven hchannels
    exact fun h => shaped_entries h fun _ _ _ => shaped_channel

theorem of_whenGiven {issues : List Issue} (h : whenGiven v issues = [])
    (hdefined : v.isUndefined = false) : issues = [] :=
  (whenGiven_eq_nil.mp h).resolve_left (by simp [hdefined])

/-- An accepted configuration without holes is accepted when it is read back. -/
theorem accepted_readBack (h : Accepted parseUrl v) (hdense : dense maxConfigDepth v) :
    Accepted parseUrl (readBack maxConfigDepth v) := by
  apply @ofObject_readBack 39 _ _ _ _ _ h hdense
  intro fields _ hfields hparts
  simp only [List.append_eq_nil_iff, issueIf_eq_nil, property_backFields, isUndefined_readBack,
    isNumber_readBack, identifierIssues_readBack] at hfields ⊢
  obtain ⟨hkeys, hversion, hproject, hgateway, hconnections, hsources, hprofiles, hschemas,
    hchannels, hlimits, hfailures⟩ := hfields
  have hdefined := (keyIssues_eq_nil.mp hkeys).2
  have hconnections' := of_whenGiven hconnections (hdefined _ (by simp [requiredKeys]))
  have hsources' := of_whenGiven hsources (hdefined _ (by simp [requiredKeys]))
  have hschemas' := of_whenGiven hschemas (hdefined _ (by simp [requiredKeys]))
  have hrefs : ∀ ref,
      (identifiers (readBack 39 (property fields (units "connections")))).contains ref =
        (identifiers (property fields (units "connections"))).contains ref := fun ref =>
    (identifiers_readBack hconnections' (fun _ _ _ => isUndefined_of_ofObject) 38).contains_eq
  have hsourceRefs : ∀ ref,
      (identifiers (readBack 39 (property fields (units "sources")))).contains ref =
        (identifiers (property fields (units "sources"))).contains ref := fun ref =>
    (identifiers_readBack hsources' (fun _ _ _ => isUndefined_of_ofObject) 38).contains_eq
  refine ⟨keyIssues_backFields hkeys, hversion, whenGiven_readBack hproject fun h => h, ?_, ?_, ?_,
    ?_, ?_, ?_, validateLimits_readBack hlimits 39, ?_⟩
  · exact whenGiven_readBack hgateway fun h => gatewayIssues_readBack h (hparts _)
  · apply whenGiven_readBack hconnections
    exact fun h => entryIssues_readBack h (hparts _) fun _ _ _ _ => connectionIssues_readBack
  · exact whenGiven_readBack hsources fun h => sources_readBack h (hparts _) hrefs
  · rw [kafkaProfiles_readBack hsources' (hparts _) hrefs]
    exact hprofiles
  · apply whenGiven_readBack hschemas
    exact fun h => entryIssues_readBack h (hparts _) fun _ _ _ _ => schemaIssues_readBack
  · apply whenGiven_readBack hchannels
    intro h
    apply entryIssues_readBack h (hparts _)
    intro _ _ _ _ hchannel hdenseChannel
    exact channelIssues_readBack hchannel hdenseChannel hschemas' (hparts _) hsourceRefs
  · exact failureHandling_readBack hfailures (hparts _)
      (sourceShapes_readBack hsources' (hparts _)) (nodup_sourceShapes _)

/-- A text of a configuration that is read back, accepted and written as the same text. -/
def RoundTrips (parseUrl : Text → Option Url) (v : Input) : Prop :=
  ∃ text w, canonicalJson v maxConfigDepth = .ok text ∧ Parses text w ∧ Accepted parseUrl w ∧
    canonicalJson w maxConfigDepth = .ok text

theorem validateLimits_of_accepted (h : Accepted parseUrl v) :
    ∃ fields, v = .object true fields ∧ limitsOf v = property fields (units "limits") ∧
      validateLimits (limitsOf v) (units "/limits") = [] := by
  obtain ⟨fields, rfl, hfields⟩ := ofObject_eq_nil.mp h
  simp only [List.append_eq_nil_iff] at hfields
  obtain ⟨-, -, -, -, -, -, -, -, -, hlimits, -⟩ := hfields
  exact ⟨fields, rfl, rfl, hlimits⟩

/-- Limits of another kind have no canonical form, and neither does their configuration. -/
theorem plainLimits_of_canonicalize {c : Json PlainNumber} (h : Accepted parseUrl v)
    (hform : canonicalize maxConfigDepth v = .ok c) : PlainLimits (limitsOf v) := by
  obtain ⟨fields, rfl, hlimits, hvalid⟩ := validateLimits_of_accepted h
  rcases validateLimits_eq_nil.mp hvalid with hundefined | ⟨plain, overrides, heq, -⟩
  · exact .inl hundefined
  · cases plain with
    | true => exact .inr ⟨overrides, heq⟩
    | false =>
        obtain ⟨entries, hentries, -⟩ := (@canonicalize_object 39 _ _).mp hform
        rw [hlimits] at heq
        have hname : units "limits" ∈ definedNames fields := by
          rw [mem_definedNames, heq]
          rfl
        obtain ⟨entry, -, -, hentry⟩ := forall₂_mem_left hentries hname
        rw [heq] at hentry
        cases hentry

theorem limitsOf_readBack (h : Accepted parseUrl v) :
    PlainLimits (limitsOf (readBack maxConfigDepth v)) := by
  obtain ⟨fields, rfl, hlimits, hvalid⟩ := validateLimits_of_accepted h
  show PlainLimits (property (backFields 39 fields) (units "limits"))
  rw [property_backFields, ← hlimits]
  exact plainLimits_readBack hvalid 38

/-- The text of a round trip is read back as the value read back. -/
theorem readBack_of_roundTrips (h : RoundTrips parseUrl v) :
    (∃ c, canonicalize maxConfigDepth v = .ok c) ∧ Accepted parseUrl (readBack maxConfigDepth v) := by
  obtain ⟨text, w, htext, hparses, haccepted, -⟩ := h
  cases hform : canonicalize maxConfigDepth v with
  | error message =>
      rw [canonicalJson, hform] at htext
      cases htext
  | ok c =>
      rw [canonicalJson, hform] at htext
      obtain rfl := Except.ok.inj htext
      have hback : Parses (c.stringify PlainNumber.numeral) (readBack maxConfigDepth v) :=
        ⟨c.enumerated, rfl, ofJson_enumerated hform⟩
      obtain rfl := parses_unique hparses hback
      exact ⟨⟨c, rfl⟩, haccepted⟩

/-- An accepted configuration makes the round trip exactly when its limits, if there are any, are
a plain object and none of its arrays has a hole. -/
theorem roundTrips_iff (parseUrl : Text → Option Url) (v : Input) (h : Accepted parseUrl v) :
    RoundTrips parseUrl v ↔ PlainLimits (limitsOf v) ∧ dense maxConfigDepth v := by
  constructor
  · intro htrip
    obtain ⟨⟨c, hform⟩, haccepted⟩ := readBack_of_roundTrips htrip
    have hplain := plainLimits_of_canonicalize h hform
    exact ⟨hplain, dense_of_shaped_readBack (shaped_of_accepted h hplain)
      (shaped_of_accepted haccepted (limitsOf_readBack h))⟩
  · rintro ⟨hplain, hdense⟩
    obtain ⟨c, hform⟩ := canonicalize_of_shaped (shaped_of_accepted h hplain)
    refine ⟨c.stringify PlainNumber.numeral, readBack maxConfigDepth v, ?_,
      ⟨c.enumerated, rfl, ofJson_enumerated hform⟩, accepted_readBack h hdense, ?_⟩
    · rw [canonicalJson, hform]
      rfl
    · rw [canonicalJson, canonicalize_readBack hform hdense]
      rfl

def textOf (literal : String) : Input := .string (units literal)

theorem one_bounded : 4607182418800017408 < 2047 * 2 ^ 52 := by decide

theorem zero_bounded : 0 < 2047 * 2 ^ 52 := by decide

def one : FiniteNumber := ⟨false, 4607182418800017408, one_bounded⟩

def negativeZero : FiniteNumber := ⟨true, 0, zero_bounded⟩

/-- A configuration that has a gateway only. -/
def gatewayOnly (origins limits : Input) : Input :=
  .object true [
    (units "configVersion", .number (.finite one)),
    (units "projectId", textOf "demo"),
    (units "gateway", .object true [
      (units "host", textOf "localhost"),
      (units "port", .number (.finite negativeZero)),
      (units "path", textOf "/"),
      (units "allowedOrigins", origins)]),
    (units "connections", .object true []), (units "sources", .object true []),
    (units "schemas", .object true []), (units "channels", .object true []),
    (units "limits", limits)]

theorem roundTrips_iff_gatewayOnly :
    RoundTrips (fun _ => none) (gatewayOnly (.array []) .undefined) ↔
      PlainLimits (limitsOf (gatewayOnly (.array []) .undefined)) ∧
        dense maxConfigDepth (gatewayOnly (.array []) .undefined) :=
  roundTrips_iff (fun _ => none) (gatewayOnly (.array []) .undefined) (by unfold Accepted; decide +kernel)

/-- Limits that are a date are accepted and have no text, and an array with a hole is accepted
and is read back as one that is not. -/
theorem accepted_without_round_trip :
    (Accepted (fun _ => none) (gatewayOnly (.array []) (.object false [])) ∧
      ¬ RoundTrips (fun _ => none) (gatewayOnly (.array []) (.object false []))) ∧
    Accepted (fun _ => none) (gatewayOnly (.array [.hole]) .undefined) ∧
      ¬ RoundTrips (fun _ => none) (gatewayOnly (.array [.hole]) .undefined) := by
  have hdate : Accepted (fun _ => none) (gatewayOnly (.array []) (.object false [])) := by
    unfold Accepted
    decide +kernel
  refine ⟨⟨hdate, fun htrip => ?_⟩, by unfold Accepted; decide +kernel, fun htrip => ?_⟩
  · obtain ⟨⟨c, hform⟩, -⟩ := readBack_of_roundTrips htrip
    have hplain : PlainLimits (.object false []) := plainLimits_of_canonicalize hdate hform
    rcases hplain with hundefined | ⟨fields, heq⟩
    · cases hundefined
    · cases heq
  · have hback := (readBack_of_roundTrips htrip).2
    revert hback
    unfold Accepted
    decide +kernel

end Configurations

end StreamOtter.Configuration
