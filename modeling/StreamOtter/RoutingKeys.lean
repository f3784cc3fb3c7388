import StreamOtter.SchemaValidation
import StreamOtter.FailureVocabulary
import StreamOtter.InsertionMap

/-!
# Routing keys

A translation of `validateParamsSchema` and `canonicalizeParams` of the contracts, and of
`routingKey`, `Router` and `#buildOutput` of the gateway.  An output and a subscription have
one routing key just if they name one channel, version, tenant and set of parameters.
-/

namespace StreamOtter.Routing

open Ecma Value Contracts

/-! ## Parameters -/

/-- `validateParamsSchema`, of a schema that `validateSchemaDefinition` accepted. -/
def paramsSchemaIssues (schema : Value) (path : Text) : List (Text × Text) :=
  match schema with
  | .object fields =>
      if typeOf fields ≠ some .object then
        [(path, units "Parameter schemas must be objects.")]
      else
        (ownKeys (declared fields)).flatMap fun name =>
          let childPath := pointer (pointer path (units "properties")) name
          let flat : Bool :=
            match property (declared fields) name with
            | .object child =>
                decide (typeOf child = some .string ∨ typeOf child = some .boolean ∨
                  typeOf child = some .integer)
            | _ => false
          (if flat then [] else
            [(childPath, units "Parameters may only be strings, booleans, or integers in V1.")]) ++
          if (requiredNames fields).contains name then [] else
            [(childPath,
              units "Every parameter must be required; optional parameters are not supported in V1.")]
  | _ => [(path, units "Parameter schemas must be objects.")]

/-- A schema that a channel's configuration may name for its parameters. -/
structure ParamsSchema where
  schema : Value
  valid : validateSchemaDefinition schema [] = []
  params : paramsSchemaIssues schema [] = []

/-- `Object.is(value, -0) ? 0 : value` of a parameter. -/
def zeroed : Value → Value
  | .number (.finite x) => .number (.finite (normalized x).number)
  | value => value

/-- The parameters with sorted names, without undefined ones and negative zeros. -/
def normalizedFields (fields : Fields) : Fields := (sortedFields fields).map (Prod.map id zeroed)

inductive CanonicalParams
  | ok (params : Value) (canonical : Text)
  | issue (issue : FoundIssue)
  | thrown (message : String)

def canonicalizeParams (schema params : Value) : CanonicalParams :=
  match validateValue schema params with
  | some issue => .issue issue
  | none =>
      let normalized : Value :=
        match params with
        | .object fields => .object (normalizedFields fields)
        | _ => .object []
      match canonicalJson normalized maxNestingDepth with
      | .ok canonical => .ok normalized canonical
      | .error message => .thrown message

theorem zeroed_data (v : Value) : (zeroed v).data = v.data := by
  cases v with
  | number n =>
      cases n with
      | finite x => exact congrArg Data.number (normalized_toRat x)
      | _ => rfl
  | _ => rfl

theorem zeroed_isUndefined (v : Value) : (zeroed v).isUndefined = v.isUndefined := by
  cases v with
  | number n => cases n <;> rfl
  | _ => rfl

theorem zeroed_isJsonAt {depth : ℕ} {v : Value} (h : isJsonAt depth v) :
    isJsonAt depth (zeroed v) := by
  cases v with
  | number n =>
      cases n with
      | finite x => cases depth with
        | zero => cases h
        | succ depth => rfl
      | _ => exact h
  | _ => exact h

theorem property_normalizedFields (fields : Fields) (name : Text) :
    property (normalizedFields fields) name = zeroed (property fields name) := by
  have hmap : normalizedFields fields =
      (definedNames fields).map fun name => (name, zeroed (property fields name)) := by
    rw [normalizedFields, sortedFields_eq, List.map_map]
    rfl
  rw [hmap, property_map]
  by_cases hmem : name ∈ definedNames fields
  · rw [if_pos hmem]
  · rw [if_neg hmem]
    rw [mem_definedNames, Bool.not_eq_false] at hmem
    cases hproperty : property fields name with
    | undefined => rfl
    | _ => rw [hproperty] at hmem; cases hmem

theorem normalized_data (fields : Fields) :
    (Value.object (normalizedFields fields)).data = (Value.object fields).data := by
  rw [data, data, Data.object.injEq]
  funext name
  rw [fieldsData_eq, fieldsData_eq, property_normalizedFields, zeroed_isUndefined, zeroed_data]

theorem normalized_isJsonAt {depth : ℕ} {fields : Fields}
    (h : isJsonAt (depth + 1) (.object fields)) :
    isJsonAt (depth + 1) (.object (normalizedFields fields)) := by
  rw [isJsonAt_object] at h ⊢
  intro name hname
  have hmap : normalizedFields fields =
      (definedNames fields).map fun name => (name, zeroed (property fields name)) := by
    rw [normalizedFields, sortedFields_eq, List.map_map]
    rfl
  rw [property_normalizedFields]
  apply zeroed_isJsonAt
  apply h
  rw [hmap, hasOwn, lookup_isSome, List.map_map] at hname
  have hid : (Prod.fst ∘ fun name => (name, zeroed (property fields name))) = id := rfl
  rw [hid, List.map_id, mem_definedNames] at hname
  exact hasOwn_of_defined hname

/-- A schema for parameters accepts objects only. -/
theorem ParamsSchema.object_of_accepted (schema : ParamsSchema) {params : Value}
    (h : validateValue schema.schema params = none) : ∃ fields, params = .object fields := by
  obtain ⟨allowed, fields, hallowed, hschema⟩ := validateAt_object h
  have hparams := schema.params
  unfold paramsSchemaIssues at hparams
  rw [hschema] at hparams
  dsimp only at hparams
  split at hparams
  · cases hparams
  · rename_i htype
    rw [Decidable.not_not] at htype
    unfold validateValue at h
    rw [hschema, hallowed, validateAt, htype] at h
    obtain ⟨own, hown, -⟩ := validateObject_eq_none.mp h
    exact ⟨own, hown⟩

/-- Accepted parameters have canonical ones, which are the same data. -/
theorem canonicalizeParams_accepted (schema : ParamsSchema) {params : Value}
    (h : validateValue schema.schema params = none) :
    ∃ normalized canonical, canonicalizeParams schema.schema params = .ok normalized canonical ∧
      canonicalJson normalized maxNestingDepth = .ok canonical ∧ normalized.data = params.data := by
  obtain ⟨fields, rfl⟩ := schema.object_of_accepted h
  have hjson : isJsonAt maxNestingDepth (.object (normalizedFields fields)) :=
    normalized_isJsonAt (isJsonAt_of_validateAt h)
  obtain ⟨form, hform⟩ := canonicalize_ok_of_isJsonAt hjson
  have htext := canonicalJson_of_canonicalize hform
  refine ⟨_, _, ?_, htext, normalized_data fields⟩
  unfold canonicalizeParams
  simp only [h, htext]

theorem canonicalizeParams_ok {schema : ParamsSchema} {params normalized : Value}
    {canonical : Text} (h : canonicalizeParams schema.schema params = .ok normalized canonical) :
    canonicalJson normalized maxNestingDepth = .ok canonical ∧ normalized.data = params.data := by
  cases haccepted : validateValue schema.schema params with
  | some issue =>
      unfold canonicalizeParams at h
      rw [haccepted] at h
      cases h
  | none =>
      obtain ⟨normalized', canonical', hok, htext, hdata⟩ :=
        canonicalizeParams_accepted schema haccepted
      rw [h] at hok
      obtain ⟨rfl, rfl⟩ := CanonicalParams.ok.inj hok
      exact ⟨htext, hdata⟩

/-- Canonical parameters agree just where the parameters are equal as data. -/
theorem canonicalizeParams_eq_iff {schema schema' : ParamsSchema}
    {params params' normalized normalized' : Value} {canonical canonical' : Text}
    (h : canonicalizeParams schema.schema params = .ok normalized canonical)
    (h' : canonicalizeParams schema'.schema params' = .ok normalized' canonical') :
    canonical = canonical' ↔ params.data = params'.data := by
  obtain ⟨htext, hdata⟩ := canonicalizeParams_ok h
  obtain ⟨htext', hdata'⟩ := canonicalizeParams_ok h'
  rw [canonicalJson_eq_iff htext htext', hdata, hdata']

/-! ## Keys -/

def routingKey (channel : Text) (version : PlainNumber) (tenantId canonicalParams : Text) : Text :=
  (Json.array [.string channel, .number version, .string tenantId,
    .string canonicalParams]).stringify PlainNumber.numeral

theorem routingKey_injective {channel channel' tenantId tenantId' params params' : Text}
    {version version' : PlainNumber}
    (h : routingKey channel version tenantId params = routingKey channel' version' tenantId' params') :
    channel = channel' ∧ version = version' ∧ tenantId = tenantId' ∧ params = params' := by
  have htree := Json.stringify_injective PlainNumber.numerals h
  simpa [Json.enumerated, Json.enumerateItems] using htree

/-! ## Outputs -/

structure ChannelRuntime where
  name : Text
  version : PlainNumber
  paramsSchema : ParamsSchema
  payloadSchema : Value

structure OutputEvent where
  id : Text
  channel : Text
  channelVersion : PlainNumber
  data : Value
  revision : Text
  receivedAt : Text

structure RecordOrigin where
  id : Text
  receivedAt : Text

structure OutputFrame where
  event : OutputEvent
  bytes : ℕ
  revision : Text
  dataHash : Text

structure Output where
  channel : ChannelRuntime
  key : Text
  frame : OutputFrame

structure Problem where
  failureClass : FailureClass
  message : Text
  deriving DecidableEq

/-- What Node computes of an output: the ID of its event, its frame's bytes with the overhead,
and the hash of its data. -/
structure Hashing where
  updateEventId : Text → Text → PlainNumber → Text → Text → Text → Text
  frameBytes : OutputEvent → ℕ
  sha256Hex : Value → Text

def outputKeys : List Text := [units "tenantId", units "params", units "revision", units "data"]

/-- `isRevision`. -/
def isRevision (text : Text) : Bool :=
  text = [0x30] ||
    (text.all isDigit && !text.isEmpty && text.head? != some 0x30 && text.length ≤ 39)

def issueDiagnosis (label : Text) (issue : FoundIssue) : Text :=
  if issue.message = units "Property is not allowed." then
    label ++ units ": a property is not allowed by the schema"
  else label ++ 0x20 :: issue.path ++ units ": " ++ issue.message

section Building

variable (hashing : Hashing) (maxDataFrameBytes : ℕ)

/-- `#buildOutput`; `inr` is a routed output. -/
def buildOutput (channel : ChannelRuntime) (record : RecordOrigin) (item : Value) :
    Problem ⊕ Output :=
  let routing (message : Text) : Problem ⊕ Output := .inl ⟨.routingInvalid, message⟩
  match item with
  | .object fields =>
      if (ownKeys fields).any fun key => !outputKeys.contains key then
        routing (units "unexpected field")
      else
        let data := withoutUndefinedProperties (property fields (units "data"))
        match property fields (units "tenantId") with
        | .string tenantId =>
            if tenantId.isEmpty || 512 < tenantId.length then
              routing (units "tenantId must be a non-empty string")
            else
              match canonicalizeParams channel.paramsSchema.schema
                  (property fields (units "params")) with
              | .thrown message => routing (units message)
              | .issue issue => routing (issueDiagnosis (units "params") issue)
              | .ok _ canonical =>
                  match property fields (units "revision") with
                  | .string revision =>
                      if !isRevision revision then
                        routing (units "revision must be a canonical unsigned decimal string")
                      else if !isJsonValue data then routing (units "data must be JSON")
                      else
                        let event : OutputEvent :=
                          ⟨hashing.updateEventId record.id channel.name channel.version tenantId
                              canonical revision,
                            channel.name, channel.version, data, revision, record.receivedAt⟩
                        let bytes := hashing.frameBytes event
                        if maxDataFrameBytes < bytes then
                          routing (units "the data frame exceeds maxDataFrameBytes")
                        else
                          match validateValue channel.payloadSchema data with
                          | some issue =>
                              .inl ⟨.payloadSchema, issueDiagnosis (units "data") issue⟩
                          | none =>
                              .inr ⟨channel,
                                routingKey channel.name channel.version tenantId canonical,
                                ⟨event, bytes, revision, hashing.sha256Hex data⟩⟩
                  | _ => routing (units "revision must be a canonical unsigned decimal string")
        | _ => routing (units "tenantId must be a non-empty string")
  | _ => routing (units "must be an object")

/-- What an output was built from. -/
structure BuiltFrom (channel : ChannelRuntime) (tenantId : Text) (params : Value)
    (output : Output) : Prop where
  canonical : ∃ normalized canonical,
    canonicalizeParams channel.paramsSchema.schema params = .ok normalized canonical ∧
      output.key = routingKey channel.name channel.version tenantId canonical
  channel : output.channel = channel

theorem buildOutput_built {channel : ChannelRuntime} {record : RecordOrigin} {item : Value}
    {output : Output} (h : buildOutput hashing maxDataFrameBytes channel record item = .inr output) :
    ∃ fields tenantId, item = .object fields ∧
      property fields (units "tenantId") = .string tenantId ∧
      BuiltFrom channel tenantId (property fields (units "params")) output := by
  unfold buildOutput at h
  split at h
  · rename_i fields
    dsimp only at h
    split at h
    · cases h
    · split at h
      · rename_i tenantId htenant
        split at h
        · cases h
        · split at h
          · cases h
          · cases h
          · rename_i normalized canonical hcanonical
            refine ⟨fields, tenantId, rfl, htenant, ?_⟩
            split at h
            · split at h
              · cases h
              · split at h
                · cases h
                · split at h
                  · cases h
                  · split at h
                    · cases h
                    · obtain rfl := Sum.inr.inj h
                      exact ⟨⟨normalized, canonical, hcanonical, rfl⟩, rfl⟩
            · cases h
      · cases h
  · cases h

end Building

/-! ## Subscriptions -/

/-- A subscription with the parameters it was requested with, which its channel accepted. -/
structure RoutedSubscription where
  channel : ChannelRuntime
  tenantId : Text
  requested : Value
  params : Value
  canonicalParams : Text
  accepted : canonicalizeParams channel.paramsSchema.schema requested = .ok params canonicalParams

namespace RoutedSubscription

def routingKey (s : RoutedSubscription) : Text :=
  Routing.routingKey s.channel.name s.channel.version s.tenantId s.canonicalParams

end RoutedSubscription

/-- The subscriptions that capture one key. -/
structure RouterSet (σ : Type*) where
  routingKey : Text
  members : List σ

abbrev Router (σ : Type*) := InsertionMap (@RouterSet.routingKey σ)

namespace Router

variable {σ : Type*} [DecidableEq σ] (keyOf : σ → Text)

def add (subscription : σ) (router : Router σ) : Router σ :=
  match router.get (keyOf subscription) with
  | none => router.set ⟨keyOf subscription, [subscription]⟩
  | some set =>
      router.set ⟨keyOf subscription,
        if subscription ∈ set.members then set.members else set.members ++ [subscription]⟩

def remove (subscription : σ) (router : Router σ) : Router σ :=
  match router.get (keyOf subscription) with
  | none => router
  | some set =>
      let members := set.members.filter fun other => other ≠ subscription
      if members.isEmpty then router.filter fun set => set.routingKey ≠ keyOf subscription
      else router.set ⟨keyOf subscription, members⟩

/-- The members of a key's set, if it has one. -/
def captured (router : Router σ) (key : Text) : List σ :=
  match router.get key with
  | none => []
  | some set => set.members

inductive Change (σ : Type*)
  | add (subscription : σ)
  | remove (subscription : σ)

def apply (router : Router σ) : Change σ → Router σ
  | .add subscription => router.add keyOf subscription
  | .remove subscription => router.remove keyOf subscription

/-- The router after some changes. -/
def after (changes : List (Change σ)) : Router σ :=
  changes.foldl (apply keyOf) InsertionMap.empty

/-- Every subscription is under its own key. -/
def Sorted (router : Router σ) : Prop :=
  ∀ set ∈ router.values, ∀ s ∈ set.members, keyOf s = set.routingKey

omit [DecidableEq σ] in
theorem Sorted.set {router : Router σ} (h : router.Sorted keyOf) {key : Text} {members : List σ}
    (hmembers : ∀ s ∈ members, keyOf s = key) :
    Sorted keyOf (InsertionMap.set ⟨key, members⟩ router) := by
  intro set hset s hs
  rcases InsertionMap.mem_set.mp hset with rfl | ⟨hold, -⟩
  · exact hmembers s hs
  · exact h set hold s hs

theorem Sorted.apply {router : Router σ} (h : router.Sorted keyOf) (change : Change σ) :
    (router.apply keyOf change).Sorted keyOf := by
  cases change with
  | add subscription =>
      unfold Router.apply add
      dsimp only
      split
      · apply Sorted.set keyOf h
        intro s hs
        rw [List.mem_singleton.mp hs]
      · rename_i set hget
        obtain ⟨hset, hkey⟩ := InsertionMap.get_eq_some.mp hget
        apply Sorted.set keyOf h
        intro s hs
        split at hs
        · exact (h set hset s hs).trans hkey
        · rcases List.mem_append.mp hs with hold | hnew
          · exact (h set hset s hold).trans hkey
          · rw [List.mem_singleton.mp hnew]
  | remove subscription =>
      unfold Router.apply remove
      dsimp only
      split
      · exact h
      · rename_i set hget
        obtain ⟨hset, hkey⟩ := InsertionMap.get_eq_some.mp hget
        split
        · intro set' hset' s hs
          exact h set' (List.mem_of_mem_filter hset') s hs
        · apply Sorted.set keyOf h
          intro s hs
          exact (h set hset s (List.mem_of_mem_filter hs)).trans hkey

theorem sorted_after (changes : List (Change σ)) : (after keyOf changes).Sorted keyOf := by
  have hrun : ∀ (changes : List (Change σ)) (router : Router σ), router.Sorted keyOf →
      (changes.foldl (apply keyOf) router).Sorted keyOf := by
    intro changes
    induction changes with
    | nil => exact fun _ h => h
    | cons change rest ih => exact fun router h => ih _ (h.apply keyOf change)
  apply hrun
  intro set hset
  cases hset

/-- What captures a key has that key. -/
theorem key_of_captured {changes : List (Change σ)} {key : Text} {s : σ}
    (h : s ∈ (after keyOf changes).captured key) : keyOf s = key := by
  unfold captured at h
  split at h
  · cases h
  · rename_i set hget
    obtain ⟨hset, hkey⟩ := InsertionMap.get_eq_some.mp hget
    exact (sorted_after keyOf changes set hset s h).trans hkey

end Router

/-- An output and a subscription name one channel, version, tenant and set of parameters. -/
structure SameRoute (channel channel' : ChannelRuntime) (tenantId tenantId' : Text)
    (params params' : Value) : Prop where
  name : channel.name = channel'.name
  version : channel.version = channel'.version
  tenant : tenantId = tenantId'
  params : params.data = params'.data

theorem routingKey_eq_iff {channel channel' : ChannelRuntime} {tenantId tenantId' : Text}
    {params params' normalized normalized' : Value} {canonical canonical' : Text}
    (h : canonicalizeParams channel.paramsSchema.schema params = .ok normalized canonical)
    (h' : canonicalizeParams channel'.paramsSchema.schema params' = .ok normalized' canonical') :
    routingKey channel.name channel.version tenantId canonical =
        routingKey channel'.name channel'.version tenantId' canonical' ↔
      SameRoute channel channel' tenantId tenantId' params params' := by
  constructor
  · intro heq
    obtain ⟨hname, hversion, htenant, hcanonical⟩ := routingKey_injective heq
    exact ⟨hname, hversion, htenant, (canonicalizeParams_eq_iff h h').mp hcanonical⟩
  · intro hsame
    rw [hsame.name, hsame.version, hsame.tenant, (canonicalizeParams_eq_iff h h').mpr hsame.params]

/-- Canonical texts, routing keys and the updates that subscribers get agree with equality. -/
theorem routing_agreement :
    -- Canonical JSON is equality of data, within the nesting limit.
    (∀ v w : Value, isJsonValue (withoutUndefinedProperties v) →
      isJsonValue (withoutUndefinedProperties w) →
      ∃ text text', canonicalJson v maxNestingDepth = .ok text ∧
        canonicalJson w maxNestingDepth = .ok text' ∧ (text = text' ↔ v.data = w.data)) ∧
    -- Accepted parameters have routing keys, which are equal just where their routes are.
    (∀ (channel channel' : ChannelRuntime) (tenantId tenantId' : Text) (params params' : Value),
      validateValue channel.paramsSchema.schema params = none →
      validateValue channel'.paramsSchema.schema params' = none →
      ∃ normalized canonical normalized' canonical',
        canonicalizeParams channel.paramsSchema.schema params = .ok normalized canonical ∧
        canonicalizeParams channel'.paramsSchema.schema params' = .ok normalized' canonical' ∧
        (routingKey channel.name channel.version tenantId canonical =
            routingKey channel'.name channel'.version tenantId' canonical' ↔
          SameRoute channel channel' tenantId tenantId' params params')) ∧
    -- An output reaches only subscriptions of its own route.
    ∀ (hashing : Hashing) (maxDataFrameBytes : ℕ) (channel : ChannelRuntime)
      (record : RecordOrigin) (item : Value) (output : Output),
      buildOutput hashing maxDataFrameBytes channel record item = .inr output →
      ∃ fields tenantId, item = .object fields ∧
        property fields (units "tenantId") = .string tenantId ∧
        ∀ (subscriptions : ℕ → RoutedSubscription) (changes : List (Router.Change ℕ)) (id : ℕ),
          id ∈ (Router.after (fun id => (subscriptions id).routingKey) changes).captured
              output.key →
          SameRoute channel (subscriptions id).channel tenantId (subscriptions id).tenantId
            (property fields (units "params")) (subscriptions id).requested := by
  refine ⟨?_, ?_, ?_⟩
  · intro v w hv hw
    obtain ⟨c, hc⟩ := canonicalize_ok_iff.mpr hv
    obtain ⟨c', hc'⟩ := canonicalize_ok_iff.mpr hw
    have htext := canonicalJson_of_canonicalize hc
    have htext' := canonicalJson_of_canonicalize hc'
    exact ⟨_, _, htext, htext', canonicalJson_eq_iff htext htext'⟩
  · intro channel channel' tenantId tenantId' params params' h h'
    obtain ⟨normalized, canonical, hok, -, -⟩ :=
      canonicalizeParams_accepted channel.paramsSchema h
    obtain ⟨normalized', canonical', hok', -, -⟩ :=
      canonicalizeParams_accepted channel'.paramsSchema h'
    exact ⟨_, _, _, _, hok, hok', routingKey_eq_iff hok hok'⟩
  · intro hashing maxDataFrameBytes channel record item output h
    obtain ⟨fields, tenantId, rfl, htenant, hbuilt⟩ := buildOutput_built hashing _ h
    refine ⟨fields, tenantId, rfl, htenant, ?_⟩
    intro subscriptions changes id hid
    obtain ⟨normalized, canonical, hcanonical, hkey⟩ := hbuilt.canonical
    have hsame := Router.key_of_captured _ hid
    rw [hkey] at hsame
    exact (routingKey_eq_iff hcanonical (subscriptions id).accepted).mp hsame.symm

/-- The parameters of a room, which is named by a string. -/
def roomParams : ParamsSchema where
  schema := .object [
    (units "type", .string (units "object")),
    (units "properties", .object [
      (units "room", .object [(units "type", .string (units "string"))])]),
    (units "required", .array [.string (units "room")]),
    (units "additionalProperties", .boolean false)]
  valid := by decide +kernel
  params := by decide +kernel

def roomChannel : ChannelRuntime where
  name := units "rooms"
  version := ⟨⟨false, 4607182418800017408, by decide⟩, by decide⟩
  paramsSchema := roomParams
  payloadSchema := .object [(units "type", .string (units "null"))]

def roomNamed (name : String) : Value := .object [(units "room", .string (units name))]

theorem routing_agreement_rooms :
    ∃ normalized canonical normalized' canonical',
      canonicalizeParams roomParams.schema (roomNamed "a") = .ok normalized canonical ∧
      canonicalizeParams roomParams.schema (roomNamed "a") = .ok normalized' canonical' ∧
      (routingKey roomChannel.name roomChannel.version (units "t") canonical =
          routingKey roomChannel.name roomChannel.version (units "u") canonical' ↔
        SameRoute roomChannel roomChannel (units "t") (units "u") (roomNamed "a")
          (roomNamed "a")) :=
  routing_agreement.2.1 roomChannel roomChannel (units "t") (units "u") (roomNamed "a")
    (roomNamed "a") (by decide +kernel) (by decide +kernel)

end StreamOtter.Routing
