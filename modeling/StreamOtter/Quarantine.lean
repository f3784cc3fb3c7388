import StreamOtter.Evidence
import StreamOtter.InsertionMap

/-!
# Quarantined evidence

A quarantined record carries the original headers under a prefix, next to the program's own.
Header lists pass through JavaScript objects and the wire, where a repeated name becomes an
array and an array becomes repeated names again.  Evidence that was flattened from an object
comes back as it was.
-/

namespace StreamOtter

open ByteCodec

/-! ### Header objects -/

/-- `inherited` is what a name finds on `Object.prototype`. -/
inductive HeaderItem
  | buffer (bytes : Bytes)
  | text (content : String)
  | inherited
  deriving DecidableEq, Repr

inductive HeaderField
  | undefined
  | single (item : HeaderItem)
  | array (items : List HeaderItem)
  deriving DecidableEq, Repr

/-- The own properties of an object in the order in which they were first assigned. -/
abbrev HeaderObject := InsertionMap (Prod.fst : String × HeaderField → String)

def objectPrototypeNames : List String :=
  ["constructor", "__defineGetter__", "__defineSetter__", "hasOwnProperty", "__lookupGetter__",
    "__lookupSetter__", "isPrototypeOf", "propertyIsEnumerable", "toString", "valueOf", "__proto__",
    "toLocaleString"]

/-- The number that a canonical array index names. -/
def arrayIndex (name : String) : Option ℕ :=
  let n := name.toList.foldl (fun n c => n * 10 + (c.toNat - 48)) 0
  if toString n = name ∧ n < 2 ^ 32 - 1 then some n else none

namespace HeaderObject

/-- `headers[name]`, with what the name inherits. -/
def lookup (headers : HeaderObject) (name : String) : HeaderField :=
  match headers.get name with
  | some (_, field) => field
  | none => if name ∈ objectPrototypeNames then .single .inherited else .undefined

/-- `Object.entries`: array indices in ascending order, then the other names as assigned. -/
def entries (headers : HeaderObject) : List (String × HeaderField) :=
  (headers.values.filter fun entry => (arrayIndex entry.1).isSome).mergeSort
      (fun a b => (arrayIndex a.1).getD 0 ≤ (arrayIndex b.1).getD 0) ++
    headers.values.filter fun entry => (arrayIndex entry.1).isNone

/-- A value joins those of the same name, the second one makes them an array. -/
def add (headers : HeaderObject) (name : String) (value : Bytes) : HeaderObject :=
  match headers.lookup name with
  | .undefined => headers.set (name, .single (.buffer value))
  | .single item => headers.set (name, .array [item, .buffer value])
  | .array items => headers.set (name, .array (items ++ [.buffer value]))

end HeaderObject

def HeaderItem.bytes? : HeaderItem → Option Bytes
  | .buffer bytes => some bytes
  | .text content => some (utf8 content)
  | .inherited => none

def HeaderField.values : HeaderField → List Bytes
  | .undefined => []
  | .single item => item.bytes?.toList
  | .array items => items.filterMap HeaderItem.bytes?

/-- One entry per value that came from the wire. -/
def flattenKafkaHeaders : Option HeaderObject → List HeaderBytes
  | none => []
  | some headers => headers.entries.flatMap fun entry => entry.2.values.map (⟨entry.1, ·⟩)

def sourceHeaderPrefix : String := "src."

/-- The name behind the prefix, of a header that has it. -/
def sourceHeader? (header : HeaderBytes) : Option HeaderBytes :=
  if sourceHeaderPrefix.toList.isPrefixOf header.name.toList then
    some ⟨String.ofList (header.name.toList.drop sourceHeaderPrefix.toList.length), header.value⟩
  else none

def sourceHeadersFromQuarantine (headers : Option HeaderObject) : List HeaderBytes :=
  (flattenKafkaHeaders headers).filterMap sourceHeader?

/-! ### Writing and reading a quarantine record -/

def maxEnvelopeHeaderBytes : ℕ := 16 * 1024

structure QuarantineWrite where
  evidence : RawEvidence
  failureId : String
  envelope : String
  deriving Repr

/-- A record as KafkaJS takes and gives it. -/
structure KafkaMessage where
  key : Option Bytes
  value : Option Bytes
  headers : Option HeaderObject

/-- A record as it is stored, with the bytes of its header names. -/
structure WireRecord where
  key : Option Bytes
  value : Option Bytes
  headers : List (Bytes × Bytes)

def failureIdHeader : String := "streamotter-failure-id"

def envelopeHeader : String := "streamotter-envelope"

def ownHeaders (write : QuarantineWrite) : HeaderObject :=
  ((InsertionMap.empty).set (envelopeHeader, .single (.buffer (utf8 write.envelope)))).set
    (failureIdHeader, .single (.buffer (utf8 write.failureId)))

/-- The message that `publish` sends, or why it sends none. -/
def publish (write : QuarantineWrite) : Except String KafkaMessage :=
  if (utf8 write.envelope).length > maxEnvelopeHeaderBytes then
    .error "the envelope exceeds 16 KiB"
  else
    .ok {
      key := write.evidence.key
      value := write.evidence.value
      headers := some (write.evidence.headers.foldl
        (fun headers header => headers.add (sourceHeaderPrefix ++ header.name) header.value)
        (ownHeaders write)) }

/-- KafkaJS writes the headers in object order, one for each element of an array. -/
def kafkaEncode (message : KafkaMessage) : WireRecord where
  key := message.key
  value := message.value
  headers := (flattenKafkaHeaders message.headers).map fun header =>
    (utf8 header.name, header.value)

/-- KafkaJS folds repeated names into arrays, in the order of arrival. -/
def kafkaDecode (record : WireRecord) : KafkaMessage where
  key := record.key
  value := record.value
  headers := some (record.headers.foldl
    (fun headers header => headers.add (ofUtf8 header.1) header.2) .empty)

inductive QuarantineRead
  | found (evidence : RawEvidence)
  | mismatch (reason : String)
  deriving DecidableEq, Repr

def verifyQuarantineRecord (sha256Hex : Bytes → String) (record : KafkaMessage)
    (failureId expectedHash : String) : QuarantineRead :=
  let id := (record.headers.map fun headers => headers.lookup failureIdHeader).getD .undefined
  match id with
  | .undefined => .mismatch "the record at these coordinates has no streamotter-failure-id header"
  | .array _ =>
      .mismatch "the record at these coordinates has more than one streamotter-failure-id header"
  | .single item =>
      if item.bytes? ≠ some (utf8 failureId) then
        .mismatch
          "the record at these coordinates belongs to a different failure (streamotter-failure-id differs)"
      else
        let evidence : RawEvidence :=
          ⟨record.key, record.value, sourceHeadersFromQuarantine record.headers⟩
        if evidence.evidenceHash sha256Hex ≠ expectedHash then
          .mismatch "the record's key, value and headers do not match the incident's evidence hash"
        else .found evidence

/-! ### Grouped headers -/

/-- The values of each name together, as a header object holds them. -/
abbrev Groups := List (String × List Bytes)

def Groups.flatten (groups : Groups) : List HeaderBytes :=
  groups.flatMap fun group => group.2.map (⟨group.1, ·⟩)

def fieldOfValues : List Bytes → HeaderField
  | [value] => .single (.buffer value)
  | values => .array (values.map .buffer)

def entryOf (group : String × List Bytes) : String × HeaderField := (group.1, fieldOfValues group.2)

/-- Names that differ and are not inherited, each with some value. -/
structure Groups.Proper (groups : Groups) : Prop where
  distinct : (groups.map Prod.fst).Nodup
  own : ∀ group ∈ groups, group.1 ∉ objectPrototypeNames
  valued : ∀ group ∈ groups, group.2 ≠ []

theorem values_fieldOfValues (values : List Bytes) : (fieldOfValues values).values = values := by
  have hmap : ∀ values : List Bytes,
      (values.map HeaderItem.buffer).filterMap HeaderItem.bytes? = values := by
    intro values
    induction values with
    | nil => rfl
    | cons value rest ih => simp [HeaderItem.bytes?, ih]
  unfold fieldOfValues
  split
  · rfl
  · exact hmap values

namespace HeaderObject

variable {headers : HeaderObject}

theorem lookup_of_mem {name : String} {field : HeaderField}
    (h : (name, field) ∈ headers.values) : headers.lookup name = field := by
  have hget : headers.get name = some (name, field) := InsertionMap.get_eq_some.mpr ⟨h, rfl⟩
  unfold lookup
  rw [hget]

theorem lookup_fresh {name : String} (hfresh : headers.get name = none)
    (hown : name ∉ objectPrototypeNames) : headers.lookup name = .undefined := by
  unfold lookup
  rw [hfresh]
  exact if_neg hown

/-- The first value of a name. -/
theorem values_add_fresh {name : String} (hfresh : headers.get name = none)
    (hown : name ∉ objectPrototypeNames) (value : Bytes) :
    (headers.add name value).values = headers.values ++ [entryOf (name, [value])] := by
  unfold add
  rw [lookup_fresh hfresh hown]
  exact InsertionMap.values_set_of_get_none hfresh

/-- A further value of the name that was added last. -/
theorem values_add_again {name : String} {values : List Bytes} {done : List (String × HeaderField)}
    (hvalues : headers.values = done ++ [entryOf (name, values)]) (hsome : values ≠ [])
    (value : Bytes) :
    (headers.add name value).values = done ++ [entryOf (name, values ++ [value])] := by
  have hmem : (name, fieldOfValues values) ∈ headers.values := by simp [hvalues, entryOf]
  have hset : ∀ field, (headers.set (name, field)).values = done ++ [(name, field)] := by
    intro field
    exact InsertionMap.set_split hvalues rfl
  unfold add
  rw [lookup_of_mem hmem]
  match values, hsome with
  | [first], _ => exact hset _
  | first :: second :: rest, _ =>
      have hfield : fieldOfValues (first :: second :: rest) =
          .array ((first :: second :: rest).map .buffer) := rfl
      rw [hfield]
      dsimp only
      rw [hset]
      simp [entryOf, fieldOfValues]

/-- All further values of one name. -/
theorem values_add_values {name : String} {values more : List Bytes}
    {done : List (String × HeaderField)}
    (hvalues : headers.values = done ++ [entryOf (name, values)]) (hsome : values ≠ []) :
    (more.foldl (fun headers value => headers.add name value) headers).values =
      done ++ [entryOf (name, values ++ more)] := by
  induction more generalizing headers values with
  | nil => simpa using hvalues
  | cons value rest ih =>
      have hnext := values_add_again hvalues hsome value
      have hrest := ih hnext (by simp)
      rw [List.foldl_cons, hrest]
      simp

/-- Headers that arrive in groups make one entry for each group. -/
theorem values_add_groups {groups : Groups} (hproper : groups.Proper)
    (hfresh : ∀ group ∈ groups, headers.get group.1 = none) :
    (groups.flatten.foldl (fun headers header => headers.add header.name header.value)
      headers).values = headers.values ++ groups.map entryOf := by
  induction groups generalizing headers with
  | nil => simp [Groups.flatten]
  | cons group rest ih =>
      obtain ⟨name, values⟩ := group
      have hdistinct := hproper.distinct
      rw [List.map_cons, List.nodup_cons] at hdistinct
      have hrest : Groups.Proper rest :=
        ⟨hdistinct.2, fun g hg => hproper.own g (List.mem_cons_of_mem _ hg),
          fun g hg => hproper.valued g (List.mem_cons_of_mem _ hg)⟩
      cases values with
      | nil => exact absurd rfl (hproper.valued _ List.mem_cons_self)
      | cons first more =>
          have hadded := values_add_fresh (hfresh _ List.mem_cons_self)
            (hproper.own _ List.mem_cons_self) first
          have hgroup : (more.foldl (fun headers value => headers.add name value)
              (headers.add name first)).values = headers.values ++ [entryOf (name, [first] ++ more)] :=
            values_add_values hadded (by simp)
          have hsplit : Groups.flatten ((name, first :: more) :: rest) =
              (first :: more).map (HeaderBytes.mk name) ++ Groups.flatten rest := rfl
          rw [hsplit, List.foldl_append, List.map_cons, List.foldl_cons, List.foldl_map, ih hrest]
          · rw [hgroup]
            simp
          · intro other hother
            rw [InsertionMap.get_eq_none, hgroup]
            intro entry hentry
            rcases List.mem_append.mp hentry with hold | hnew
            · exact InsertionMap.get_eq_none.mp (hfresh other (List.mem_cons_of_mem _ hother)) entry
                hold
            · obtain rfl := List.mem_singleton.mp hnew
              intro hsame
              exact hdistinct.1 (hsame ▸ List.mem_map_of_mem hother)

end HeaderObject

/-! ### Object order -/

theorem arrayIndex_eq_none {name : String} {first : Char} {rest : List Char}
    (hname : name.toList = first :: rest) (hfirst : first.isDigit = false) :
    arrayIndex name = none := by
  unfold arrayIndex
  dsimp only
  generalize name.toList.foldl (fun n c => n * 10 + (c.toNat - 48)) 0 = n
  apply if_neg
  rintro ⟨hdigits, -⟩
  rw [← hdigits, Nat.toString_eq_ofList_toDigits, String.toList_ofList] at hname
  have hmem : first ∈ Nat.toDigits 10 n := by
    rw [hname]
    exact List.mem_cons_self
  rw [Nat.isDigit_of_mem_toDigits (by omega) (by omega) hmem] at hfirst
  cases hfirst

theorem entries_perm (headers : HeaderObject) : headers.entries.Perm headers.values := by
  have hindices := List.mergeSort_perm
    (headers.values.filter fun entry => (arrayIndex entry.1).isSome)
    (fun a b => (arrayIndex a.1).getD 0 ≤ (arrayIndex b.1).getD 0)
  have hsplit := List.filter_append_perm (fun entry : String × HeaderField =>
    (arrayIndex entry.1).isSome) headers.values
  refine (hindices.append_right _).trans ?_
  simpa using hsplit

theorem entries_of_names
    {headers : HeaderObject} (h : ∀ entry ∈ headers.values, arrayIndex entry.1 = none) :
    headers.entries = headers.values := by
  have hindices : (headers.values.filter fun entry => (arrayIndex entry.1).isSome) = [] := by
    rw [List.filter_eq_nil_iff]
    intro entry hentry
    simp [h entry hentry]
  have hnames : (headers.values.filter fun entry => (arrayIndex entry.1).isNone) =
      headers.values := by
    rw [List.filter_eq_self]
    intro entry hentry
    simp [h entry hentry]
  unfold HeaderObject.entries
  rw [hindices, hnames, List.mergeSort_nil, List.nil_append]

/-- The groups of a header object, without the names that hold no value. -/
def groupsOf (headers : HeaderObject) : Groups :=
  (headers.entries.map fun entry => (entry.1, entry.2.values)).filter fun group => group.2 ≠ []

theorem flatten_groupsOf (headers : HeaderObject) :
    (groupsOf headers).flatten = flattenKafkaHeaders (some headers) := by
  have hflatten : flattenKafkaHeaders (some headers) =
      headers.entries.flatMap fun entry => entry.2.values.map (⟨entry.1, ·⟩) := rfl
  rw [hflatten]
  unfold groupsOf
  induction headers.entries with
  | nil => rfl
  | cons entry rest ih =>
      rw [List.map_cons, List.flatMap_cons, ← ih]
      by_cases hvalues : entry.2.values = []
      · simp [hvalues]
      · simp [hvalues, Groups.flatten]

theorem distinct_groupsOf (headers : HeaderObject) :
    ((groupsOf headers).map Prod.fst).Nodup := by
  have hentries : (headers.entries.map Prod.fst).Nodup :=
    ((entries_perm headers).map Prod.fst).nodup_iff.mpr headers.distinct
  have hgroups : (headers.entries.map fun entry => (entry.1, entry.2.values)).map Prod.fst =
      headers.entries.map Prod.fst := by
    rw [List.map_map]
    rfl
  unfold groupsOf
  apply (List.filter_sublist.map Prod.fst).nodup
  rw [hgroups]
  exact hentries

theorem flatten_of_groups
    {headers : HeaderObject} {groups : Groups} (hvalues : headers.values = groups.map entryOf)
    (hnames : ∀ group ∈ groups, arrayIndex group.1 = none) :
    flattenKafkaHeaders (some headers) = groups.flatten := by
  have hentries : headers.entries = groups.map entryOf := by
    rw [entries_of_names, hvalues]
    intro entry hentry
    rw [hvalues] at hentry
    obtain ⟨group, hgroup, rfl⟩ := List.mem_map.mp hentry
    exact hnames group hgroup
  unfold flattenKafkaHeaders
  dsimp only
  rw [hentries, List.flatMap_map]
  unfold Groups.flatten entryOf
  simp only [values_fieldOfValues]

/-! ### Prefixed names -/

def prefixed (groups : Groups) : Groups :=
  groups.map fun group => (sourceHeaderPrefix ++ group.1, group.2)

theorem toList_prefixed (name : String) :
    (sourceHeaderPrefix ++ name).toList = 's' :: 'r' :: 'c' :: '.' :: name.toList := by
  rw [String.toList_append]
  rfl

theorem arrayIndex_prefixed (name : String) : arrayIndex (sourceHeaderPrefix ++ name) = none :=
  arrayIndex_eq_none (toList_prefixed name) (by decide)

theorem sourceHeader?_prefixed (name : String) (value : Bytes) :
    sourceHeader? ⟨sourceHeaderPrefix ++ name, value⟩ = some ⟨name, value⟩ := by
  have hlist : sourceHeaderPrefix.toList = ['s', 'r', 'c', '.'] := by decide
  unfold sourceHeader?
  dsimp only
  rw [toList_prefixed, hlist]
  simp [List.isPrefixOf]

theorem prefixed_ne {other : String} (h : other.toList.take 4 ≠ ['s', 'r', 'c', '.'])
    (name : String) : sourceHeaderPrefix ++ name ≠ other := by
  rintro rfl
  apply h
  rw [toList_prefixed]
  rfl

theorem prefixed_inherits_nothing (name : String) :
    sourceHeaderPrefix ++ name ∉ objectPrototypeNames := by
  have hstart : ∀ other ∈ objectPrototypeNames, other.toList.take 4 ≠ ['s', 'r', 'c', '.'] := by
    decide
  intro hmem
  exact prefixed_ne (hstart _ hmem) name rfl

theorem proper_prefixed
    {groups : Groups} (hdistinct : (groups.map Prod.fst).Nodup)
    (hvalued : ∀ group ∈ groups, group.2 ≠ []) : (prefixed groups).Proper := by
  constructor
  · have hnames : (prefixed groups).map Prod.fst =
        (groups.map Prod.fst).map (sourceHeaderPrefix ++ ·) := by
      unfold prefixed
      rw [List.map_map, List.map_map]
      rfl
    rw [hnames]
    apply hdistinct.map
    intro a b hab
    have hlist := congrArg String.toList hab
    rw [toList_prefixed, toList_prefixed] at hlist
    apply String.toList_inj.mp
    simpa using hlist
  · intro group hgroup
    obtain ⟨original, -, rfl⟩ := List.mem_map.mp hgroup
    exact prefixed_inherits_nothing original.1
  · intro group hgroup
    obtain ⟨original, horiginal, rfl⟩ := List.mem_map.mp hgroup
    exact hvalued original horiginal

theorem flatten_prefixed (groups : Groups) :
    (prefixed groups).flatten =
      groups.flatten.map fun header => ⟨sourceHeaderPrefix ++ header.name, header.value⟩ := by
  unfold prefixed Groups.flatten
  rw [List.flatMap_map, List.map_flatMap]
  simp [Function.comp_def]

theorem sourceHeaders_prefixed (groups : Groups) :
    (prefixed groups).flatten.filterMap sourceHeader? = groups.flatten := by
  rw [flatten_prefixed, List.filterMap_map]
  have hkept : (sourceHeader? ∘ fun header : HeaderBytes =>
      ⟨sourceHeaderPrefix ++ header.name, header.value⟩) = some := by
    funext header
    exact sourceHeader?_prefixed header.name header.value
  rw [hkept, List.filterMap_some]

/-! ### The round trip -/

section RoundTrip

variable {write : QuarantineWrite} {groups : Groups}

def ownGroups (write : QuarantineWrite) : Groups :=
  [(envelopeHeader, [utf8 write.envelope]), (failureIdHeader, [utf8 write.failureId])]

theorem values_ownHeaders (write : QuarantineWrite) :
    (ownHeaders write).values = (ownGroups write).map entryOf := by
  have hfresh : ((InsertionMap.empty : HeaderObject).set
      (envelopeHeader, .single (.buffer (utf8 write.envelope)))).get failureIdHeader = none := by
    rw [InsertionMap.get_set_ne _ (by show failureIdHeader ≠ envelopeHeader; decide)]
    rfl
  unfold ownHeaders
  rw [InsertionMap.values_set_of_get_none hfresh, InsertionMap.values_set_of_get_none rfl]
  rfl

theorem proper_allGroups
    (hdistinct : (groups.map Prod.fst).Nodup) (hvalued : ∀ group ∈ groups, group.2 ≠ []) :
    (ownGroups write ++ prefixed groups).Proper := by
  have hsourced := proper_prefixed hdistinct hvalued
  have hother : ∀ name ∈ (prefixed groups).map Prod.fst,
      name ≠ envelopeHeader ∧ name ≠ failureIdHeader := by
    intro name hname
    obtain ⟨group, hgroup, rfl⟩ := List.mem_map.mp hname
    obtain ⟨original, -, rfl⟩ := List.mem_map.mp hgroup
    exact ⟨prefixed_ne (by decide) original.1, prefixed_ne (by decide) original.1⟩
  constructor
  · rw [List.map_append, List.nodup_append]
    refine ⟨by show [envelopeHeader, failureIdHeader].Nodup; decide, hsourced.distinct, ?_⟩
    intro name hname other hmem hequal
    obtain ⟨henvelope, hfailureId⟩ := hother other hmem
    have hcases : name = envelopeHeader ∨ name = failureIdHeader := by
      simpa [ownGroups] using hname
    rcases hcases with rfl | rfl
    · exact henvelope hequal.symm
    · exact hfailureId hequal.symm
  · intro group hgroup
    rcases List.mem_append.mp hgroup with hown | hsource
    · have hcases : group = (envelopeHeader, [utf8 write.envelope]) ∨
          group = (failureIdHeader, [utf8 write.failureId]) := by simpa [ownGroups] using hown
      rcases hcases with rfl | rfl
      · show envelopeHeader ∉ objectPrototypeNames
        decide
      · show failureIdHeader ∉ objectPrototypeNames
        decide
    · exact hsourced.own group hsource
  · intro group hgroup
    rcases List.mem_append.mp hgroup with hown | hsource
    · have hcases : group = (envelopeHeader, [utf8 write.envelope]) ∨
          group = (failureIdHeader, [utf8 write.failureId]) := by simpa [ownGroups] using hown
      rcases hcases with rfl | rfl <;> simp
    · exact hsourced.valued group hsource

theorem names_allGroups : ∀ group ∈ ownGroups write ++ prefixed groups,
    arrayIndex group.1 = none := by
  intro group hgroup
  rcases List.mem_append.mp hgroup with hown | hsource
  · have hcases : group = (envelopeHeader, [utf8 write.envelope]) ∨
        group = (failureIdHeader, [utf8 write.failureId]) := by simpa [ownGroups] using hown
    rcases hcases with rfl | rfl
    · show arrayIndex envelopeHeader = none
      decide
    · show arrayIndex failureIdHeader = none
      decide
  · obtain ⟨original, -, rfl⟩ := List.mem_map.mp hsource
    exact arrayIndex_prefixed original.1

/-- The headers that are sent, group by group. -/
theorem values_published
    (hheaders : write.evidence.headers = groups.flatten)
    (hdistinct : (groups.map Prod.fst).Nodup) (hvalued : ∀ group ∈ groups, group.2 ≠ []) :
    (write.evidence.headers.foldl
      (fun headers header => HeaderObject.add headers (sourceHeaderPrefix ++ header.name)
        header.value) (ownHeaders write)).values =
      (ownGroups write ++ prefixed groups).map entryOf := by
  have hproper := proper_prefixed hdistinct hvalued
  have hall : (ownGroups write ++ prefixed groups).Proper := proper_allGroups hdistinct hvalued
  have hfold : write.evidence.headers.foldl
      (fun headers header => HeaderObject.add headers (sourceHeaderPrefix ++ header.name)
        header.value) (ownHeaders write) =
      (prefixed groups).flatten.foldl
        (fun headers header => HeaderObject.add headers header.name header.value)
        (ownHeaders write) := by
    rw [flatten_prefixed, List.foldl_map, hheaders]
  rw [hfold, HeaderObject.values_add_groups hproper, values_ownHeaders, List.map_append]
  intro group hgroup
  rw [InsertionMap.get_eq_none, values_ownHeaders]
  intro entry hentry hsame
  have hnodup := hall.distinct
  rw [List.map_append, List.nodup_append] at hnodup
  obtain ⟨own, hown, rfl⟩ := List.mem_map.mp hentry
  exact hnodup.2.2 own.1 (List.mem_map_of_mem hown) group.1 (List.mem_map_of_mem hgroup) hsame

/-- What is written is read back as it was sent. -/
theorem values_readBack
    {headers : HeaderObject} {key value : Option Bytes} {all : Groups}
    (hvalues : headers.values = all.map entryOf) (hproper : all.Proper)
    (hnames : ∀ group ∈ all, arrayIndex group.1 = none) :
    (kafkaDecode (kafkaEncode ⟨key, value, some headers⟩)) = ⟨key, value, some headers⟩ := by
  have hflatten := flatten_of_groups hvalues hnames
  have hdecoded : (all.flatten.foldl
      (fun headers header => HeaderObject.add headers header.name header.value)
      InsertionMap.empty) = headers := by
    apply InsertionMap.ext
    rw [HeaderObject.values_add_groups hproper fun _ _ => rfl, hvalues]
    rfl
  unfold kafkaEncode kafkaDecode
  dsimp only
  rw [hflatten, List.foldl_map]
  simp only [ofUtf8_utf8]
  rw [hdecoded]

theorem verify_found
    (sha256Hex : Bytes → String) {evidence : RawEvidence} {headers : HeaderObject}
    {failureId : String}
    (hid : headers.lookup failureIdHeader = .single (.buffer (utf8 failureId)))
    (hsources : sourceHeadersFromQuarantine (some headers) = evidence.headers) :
    verifyQuarantineRecord sha256Hex ⟨evidence.key, evidence.value, some headers⟩ failureId
      (evidence.evidenceHash sha256Hex) = .found evidence := by
  unfold verifyQuarantineRecord
  dsimp only [Option.map_some, Option.getD_some]
  have hbytes : (HeaderItem.buffer (utf8 failureId)).bytes? = some (utf8 failureId) := rfl
  rw [hid, hsources]
  exact (if_neg (not_not.mpr hbytes)).trans (if_neg (not_not.mpr rfl))

end RoundTrip

/-- Evidence of a KafkaJS record is published unless its envelope is too long, and what is read
back verifies as the same evidence. -/
theorem quarantine_round_trip
    (sha256Hex : Bytes → String) (key value : Option Bytes) (headers : Option HeaderObject)
    (failureId envelope : String) :
    let evidence : RawEvidence := ⟨key, value, flattenKafkaHeaders headers⟩
    if (utf8 envelope).length > maxEnvelopeHeaderBytes then
      publish ⟨evidence, failureId, envelope⟩ = .error "the envelope exceeds 16 KiB"
    else ∃ message, publish ⟨evidence, failureId, envelope⟩ = .ok message ∧
      verifyQuarantineRecord sha256Hex (kafkaDecode (kafkaEncode message)) failureId
        (evidence.evidenceHash sha256Hex) = .found evidence := by
  intro evidence
  by_cases hlong : (utf8 envelope).length > maxEnvelopeHeaderBytes
  · rw [if_pos hlong]
    exact if_pos hlong
  · rw [if_neg hlong]
    refine ⟨_, if_neg hlong, ?_⟩
    obtain ⟨groups, hheaders, hdistinct, hvalued⟩ : ∃ groups : Groups,
        evidence.headers = groups.flatten ∧ (groups.map Prod.fst).Nodup ∧
          ∀ group ∈ groups, group.2 ≠ [] := by
      cases headers with
      | none => exact ⟨[], rfl, List.nodup_nil, by simp⟩
      | some headers =>
          refine ⟨groupsOf headers, (flatten_groupsOf headers).symm, distinct_groupsOf headers, ?_⟩
          intro group hgroup
          simpa using (List.mem_filter.mp hgroup).2
    let write : QuarantineWrite := ⟨evidence, failureId, envelope⟩
    have hvalues := @values_published write groups hheaders hdistinct hvalued
    have hproper : (ownGroups write ++ prefixed groups).Proper :=
      proper_allGroups hdistinct hvalued
    rw [values_readBack hvalues hproper names_allGroups]
    have hid : (failureIdHeader, HeaderField.single (.buffer (utf8 failureId))) ∈
        (write.evidence.headers.foldl
          (fun headers header => HeaderObject.add headers (sourceHeaderPrefix ++ header.name)
            header.value) (ownHeaders write)).values := by
      rw [hvalues]
      exact List.mem_map.mpr ⟨(failureIdHeader, [utf8 failureId]), by simp [ownGroups, write], rfl⟩
    have hsources : sourceHeadersFromQuarantine (some (write.evidence.headers.foldl
        (fun headers header => HeaderObject.add headers (sourceHeaderPrefix ++ header.name)
          header.value) (ownHeaders write))) = evidence.headers := by
      have hown : (ownGroups write).flatten.filterMap sourceHeader? = [] := by
        simp [ownGroups, Groups.flatten, sourceHeader?, envelopeHeader, failureIdHeader,
          sourceHeaderPrefix]
      have hsplit : (ownGroups write ++ prefixed groups : Groups).flatten =
          (ownGroups write).flatten ++ (prefixed groups).flatten := List.flatMap_append
      unfold sourceHeadersFromQuarantine
      rw [flatten_of_groups hvalues names_allGroups, hsplit, List.filterMap_append, hown,
        sourceHeaders_prefixed, hheaders]
      rfl
    exact verify_found sha256Hex (HeaderObject.lookup_of_mem hid) hsources

end StreamOtter
