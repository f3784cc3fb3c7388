import StreamOtter.ConfigRoundTrip
import StreamOtter.IntegerNumerals
import StreamOtter.TypeDeclarations
import StreamOtter.TypeNames

/-!
# Generated contracts

A translation of `generateFiles` of the command line tool, as far as it writes the typed channel
contracts.  The file of an accepted configuration is read as declarations: every schema's type under
a name of its own, and every channel's contract over the types of its schemas.
-/

namespace StreamOtter.Generation

open Ecma Value TypeScript
open Contracts (validateValue toValue fieldsToValue maxSafeInteger display)
open Control (isIdentifier)
open StreamOtter.Configuration (Input Url Accepted)

/-! ## The file -/

inductive PackageStyle
  | scopedPackages | streamotter
  deriving DecidableEq, Repr

/-- The `client` of `streamotterModules`. -/
def clientModule : PackageStyle → Text
  | .scopedPackages => units "@streamotter/client"
  | .streamotter => units "streamotter/client"

def generatedMarker : Text := units "// @generated by streamotter generate"

def header (fingerprint : Text) : Text :=
  generatedMarker ++ (units " (config sha256:" ++ (fingerprint ++
    units "). Do not edit; rerun the generator.\n"))

/-- The entries of a map of the configuration. -/
def entries (config : Fields) (key : String) : Fields :=
  match property config (units key) with
  | .object fields => fields
  | _ => []

/-- A property of a channel, or of the configuration, that is a string. -/
def textField (fields : Fields) (key : String) : Text :=
  match property fields (units key) with
  | .string text => text
  | _ => units "undefined"

def channelFields (config : Fields) (name : Text) : Fields :=
  match property (entries config "channels") name with
  | .object fields => fields
  | _ => []

/-- The name of a schema's type. -/
def typeName (config : Fields) (id : Text) : Text :=
  ((typeNames (ownKeys (entries config "schemas"))).lookup id).getD (units "undefined")

def schemaType (config : Fields) (id : Text) : Text :=
  units "/** Schema \"" ++ (id ++ (units "\". */\n" ++ (units "export type " ++
    (typeName config id ++ (units " = " ++
      (renderType (property (entries config "schemas") id) [] ++ units ";"))))))

def contractText (config : Fields) (name : Text) : Text :=
  let channel := channelFields config name
  units "ChannelContract<" ++ (typeName config (textField channel "paramsSchema") ++ (units ", " ++
    (typeName config (textField channel "payloadSchema") ++ (units ", " ++
      (display (property channel (units "version")) ++ units ">")))))

def channelText (config : Fields) (name : Text) : Text :=
  units "  " ++ (propertyKey name ++ (units ": " ++ (contractText config name ++ units ";")))

def versionText (config : Fields) (name : Text) : Text :=
  (units "  " ++ (propertyKey name ++ units ": ")) ++
    display (property (channelFields config name) (units "version"))

/-- The lines of `streamotter.generated.ts`. -/
def typesLines (style : PackageStyle) (fingerprint : Text) (config : Fields) : List Text :=
  let schemas := ownKeys (entries config "schemas")
  let channels := ownKeys (entries config "channels")
  [header fingerprint,
    units "import type \x7b ChannelContract \x7d from \"" ++ clientModule style ++ units "\";",
    []] ++
  schemas.flatMap (fun id => [schemaType config id, []]) ++
  [units "/** Channel contracts for createClient<AppChannels>(). Project \"" ++
      textField config "projectId" ++ units "\". */",
    units "export type AppChannels = \x7b"] ++
  channels.map (channelText config) ++
  [units "\x7d;",
    [],
    units "/** Deployed channel versions; subscribe requests must name them exactly. */",
    units "export const channelVersions = \x7b",
    (units ",\n").intercalate (channels.map (versionText config)),
    units "\x7d as const;",
    []]

/-- `streamotter.generated.ts` of `generateFiles`, of a configuration that was read from JSON. -/
def generateTypes (parseUrl : Text → Option Url) (sha256Hex : Text → Text) (style : PackageStyle)
    (config : Json PlainNumber) : Except String Text :=
  if !(Configuration.validateProjectConfig parseUrl (Input.ofJson config)).isEmpty then
    .error "The configuration is invalid."
  else
    match Input.canonicalJson (Input.ofJson config) Configuration.maxConfigDepth, toValue config with
    | .error message, _ => .error message
    | .ok text, .object fields =>
        .ok ((units "\n").intercalate (typesLines style (sha256Hex text) fields))
    | .ok _, _ => .error "The configuration is invalid."

/-! ## What an accepted configuration has -/

/-- A channel whose schemas are there. -/
structure SoundChannel (config : Fields) (name : Text) : Prop where
  params : hasOwn (entries config "schemas") (textField (channelFields config name) "paramsSchema")
  payload : hasOwn (entries config "schemas") (textField (channelFields config name) "payloadSchema")
  version : ∃ x : FiniteNumber, ∃ n : ℕ,
    property (channelFields config name) (units "version") = .number (.finite x) ∧ x.toRat = n ∧
      0 < n ∧ n < 10 ^ 16

/-- What the file relies on. -/
structure Generable (config : Fields) : Prop where
  identifiers : ∀ id, hasOwn (entries config "schemas") id → isIdentifier id
  schemas : ∀ id, hasOwn (entries config "schemas") id →
    Renderable maxNestingDepth (property (entries config "schemas") id)
  channels : ∀ name, hasOwn (entries config "channels") name → SoundChannel config name
  project : isIdentifier (textField config "projectId")

/-! ## The file read back -/

section Reading

variable {config : Fields} {style : PackageStyle} {id name : Text}

/-- Lines of which the last one is empty all end. -/
theorem lines_end (lines : List Text) :
    (units "\n").intercalate (lines ++ [[]]) = lines.flatMap fun line => line ++ units "\n" := by
  induction lines with
  | nil => rfl
  | cons line rest ih =>
      rw [List.cons_append, List.flatMap_cons, ← ih]
      cases rest with
      | nil => simp
      | cons other rest => rw [List.cons_append, List.intercalate_cons_cons]

theorem inert_identifier {text : Text} (h : isIdentifier text) : Inert text := by
  intro hmem
  cases text with
  | nil => cases h
  | cons u rest =>
      simp only [isIdentifier, Bool.and_eq_true, List.all_eq_true] at h
      rcases List.mem_cons.mp hmem with rfl | hmem
      · exact absurd h.1.1 (by decide)
      · exact absurd (h.2 _ hmem) (by decide)

/-- A comment with an identifier in quotes. -/
theorem closed_noted {before : Text} (hbefore : scan .blank before = some ([], .blockComment false))
    (h : isIdentifier name) :
    Closed (before ++ (name ++ units "\". */\n")) [] := by
  have hafter : scan (.blockComment false) (units "\". */\n") = some ([], .blank) := rfl
  rw [Closed, scan_append, hbefore, Option.bind_some, following_nil,
    scan_comment (inert_identifier h), hafter]

theorem closed_header {fingerprint : Text} (h : ∀ u ∈ fingerprint, isHex u) :
    Closed (header fingerprint) [] := by
  have hbefore : scan .blank (generatedMarker ++ units " (config sha256:") =
      some ([], .lineComment) := rfl
  have hafter : scan .lineComment (units "). Do not edit; rerun the generator.\n") =
      some ([], .blank) := rfl
  have hhex : ∀ u ∈ fingerprint, isLineEnd u = false := by
    intro u hu
    by_contra hline
    simp only [isLineEnd, Bool.not_eq_false, Bool.or_eq_true, decide_eq_true_eq] at hline
    have hunit := h u hu
    rcases hline with ((rfl | rfl) | rfl) | rfl <;> exact absurd hunit (by decide)
  rw [header, ← List.append_assoc, Closed, scan_append, hbefore, Option.bind_some, following_nil,
    scan_lineComment hhex, hafter]

theorem declares_import (style : PackageStyle) :
    Declares (units "import type \x7b ChannelContract \x7d from \"" ++ clientModule style ++
        units "\";" ++ units "\n")
      [.imported [units "ChannelContract"] (clientModule style)] := by
  cases style with
  | scopedPackages =>
      exact ⟨[.word (units "import"), .word (units "type"), .mark '\x7b',
        .word (units "ChannelContract"), .mark '\x7d', .word (units "from"),
        .quote (units "@streamotter/client"), .mark ';'], by unfold Closed; decide +kernel, rfl⟩
  | streamotter =>
      exact ⟨[.word (units "import"), .word (units "type"), .mark '\x7b',
        .word (units "ChannelContract"), .mark '\x7d', .word (units "from"),
        .quote (units "streamotter/client"), .mark ';'], by unfold Closed; decide +kernel, rfl⟩

theorem Generable.typeName (h : Generable config) (hid : hasOwn (entries config "schemas") id) :
    IsFree (typeName config id) ∧ ∀ id', hasOwn (entries config "schemas") id' →
      typeName config id' = typeName config id → id' = id := by
  have hids : ∀ id ∈ ownKeys (entries config "schemas"), isIdentifier id :=
    fun id hid => h.identifiers id (mem_ownKeys.mp hid)
  obtain ⟨name, hname, hfree, hown⟩ := lookup_typeNames hids (mem_ownKeys.mpr hid)
  have htype : Generation.typeName config id = name := by
    rw [Generation.typeName, hname, Option.getD_some]
  rw [htype]
  refine ⟨hfree, fun id' hid' hsame => ?_⟩
  obtain ⟨name', hname', -, -⟩ := lookup_typeNames hids (mem_ownKeys.mpr hid')
  rw [Generation.typeName, hname', Option.getD_some] at hsame
  exact hown id' (hsame ▸ hname')

theorem IsFree.written (h : IsFree name) : Written name [.word name] := by
  obtain ⟨hplain, -⟩ := h.1.word
  cases name with
  | nil => cases hplain
  | cons u rest =>
      obtain ⟨hstart, hparts⟩ := Bool.and_eq_true_iff.mp hplain
      exact written_word hstart (List.all_eq_true.mp hparts)

/-- The type of a schema of the configuration. -/
def schemaExpr (config : Fields) (id : Text) : TypeExpr :=
  typeAt maxNestingDepth (property (entries config "schemas") id) []

theorem declares_schema (h : Generable config) (hid : hasOwn (entries config "schemas") id) :
    Declares (schemaType config id) [.typeAlias (typeName config id) (schemaExpr config id)] := by
  have hreads : Reads (renderType (property (entries config "schemas") id) [])
      (schemaExpr config id) :=
    (reads_renderAt (h.schemas id hid) fun _ hu => absurd hu List.not_mem_nil).1
  have hcomment : Closed (units "/** Schema \"" ++ (id ++ units "\". */\n")) [] :=
    closed_noted rfl (h.identifiers id hid)
  have hall := (declares_passed hcomment).append
    (declares_alias (h.typeName hid).1.written hreads)
  simpa only [schemaType, List.append_assoc, List.nil_append] using hall

/-- The contract of a channel. -/
def contractExpr (config : Fields) (name : Text) : TypeExpr :=
  let channel := channelFields config name
  .named (units "ChannelContract")
    [.named (typeName config (textField channel "paramsSchema")) [],
      .named (typeName config (textField channel "payloadSchema")) [],
      .numeral (display (property channel (units "version")))]

theorem SoundChannel.version_written (h : SoundChannel config name) :
    Written (display (property (channelFields config name) (units "version")))
      [.numeral (display (property (channelFields config name) (units "version")))] := by
  obtain ⟨x, n, hvalue, hnatural, hpositive, hsmall⟩ := h.version
  obtain ⟨hnonempty, hdigits⟩ := FiniteNumber.numeral_digits hnatural hpositive hsmall
  rw [hvalue]
  show Written x.numeral [.numeral x.numeral]
  cases hnumeral : x.numeral with
  | nil => exact absurd hnumeral hnonempty
  | cons u rest =>
      rw [hnumeral] at hdigits
      exact written_numeral (hdigits u List.mem_cons_self)
        fun v hv => hdigits v (List.mem_cons_of_mem _ hv)

theorem readsOperand_contract (h : Generable config) (hchannel : SoundChannel config name) :
    ReadsOperand (contractText config name) (contractExpr config name) := by
  obtain ⟨-, hwordParams⟩ := (h.typeName hchannel.params).1.1.word
  obtain ⟨-, hwordPayload⟩ := (h.typeName hchannel.payload).1.1.word
  have hopen : Closed (units "ChannelContract<") [.word (units "ChannelContract"), .mark '<'] := rfl
  have hcomma : Closed (units ", ") [.mark ','] := rfl
  have hclose : Closed (units ">") [.mark '>'] := rfl
  have hversion := hchannel.version_written.close hclose (by decide)
  have hsecond := (h.typeName hchannel.payload).1.written.close (hcomma.append hversion) (by decide)
  have hfirst := (h.typeName hchannel.params).1.written.close (hcomma.append hsecond) (by decide)
  refine ⟨_, (hopen.append hfirst).written, ?_⟩
  intro left frames
  have hargument : ∀ params payload version : Text, shifts (.operand left) frames
      [.word (units "ChannelContract"), .mark '<', .word params, .mark ',', .word payload,
        .mark ',', .numeral version, .mark '>'] =
      some (.after left (.named (units "ChannelContract")
        [ofWord params, ofWord payload, .numeral version]), frames) := fun _ _ _ => rfl
  refine (hargument _ _ _).trans ?_
  rw [hwordParams, hwordPayload]
  rfl

/-- What `AppChannels` is. -/
def channelsExpr (config : Fields) : TypeExpr :=
  .object ((ownKeys (entries config "channels")).map fun name =>
    (name, false, contractExpr config name))

/-- What `channelVersions` is. -/
def versionsExpr (config : Fields) : TypeExpr :=
  .object ((ownKeys (entries config "channels")).map fun name =>
    (name, false, .numeral (display (property (channelFields config name) (units "version")))))

theorem readsMembers_channel (h : Generable config) (hchannel : SoundChannel config name) :
    ReadsMembers (channelText config name ++ units "\n")
      [(name, false, contractExpr config name)] := by
  obtain ⟨token, hkey, htoken⟩ := written_propertyKey name
  have hmember : ReadsMembers (channelText config name) [(name, false, contractExpr config name)] :=
    readsMembers_member false
      (closed_blanks (List.all_eq_true.mp (show (units "  ").all isBlank by decide))) hkey htoken
      (readsOperand_contract h hchannel).reads
  exact hmember.append (readsMembers_blanks (List.all_eq_true.mp (by decide)))

theorem declares_channels (h : Generable config) :
    Declares (units "export type AppChannels = \x7b" ++ units "\n" ++
        ((ownKeys (entries config "channels")).flatMap fun name =>
          channelText config name ++ units "\n") ++ (units "\x7d;" ++ units "\n"))
      [.typeAlias (units "AppChannels") (channelsExpr config)] := by
  have hline : ReadsMembers (units "\n") [] := readsMembers_blanks (List.all_eq_true.mp (by decide))
  have hmembers : ∀ name ∈ ownKeys (entries config "channels"),
      ReadsMembers (channelText config name ++ units "\n")
        [(name, false, contractExpr config name)] :=
    fun name hname => readsMembers_channel h (h.channels name (mem_ownKeys.mp hname))
  have hobject : ReadsOperand _ (channelsExpr config) :=
    (hline.append (readsMembers_flatMap hmembers)).object
  have hname : Written (units "AppChannels") [.word (units "AppChannels")] :=
    ⟨[], _, _, rfl, .word _, rfl⟩
  have hall := (declares_alias hname hobject.reads).append
    (declares_passed (show Closed (units "\n") [] from rfl))
  have hbegin : units "export type AppChannels = \x7b" =
      units "export type " ++ (units "AppChannels" ++ (units " = " ++ units "\x7b")) := rfl
  have hend : units "\x7d;" = units "\x7d" ++ units ";" := rfl
  rw [hbegin, hend]
  simpa only [List.append_assoc, List.nil_append, List.append_nil] using hall

theorem declares_versions (h : Generable config) :
    Declares (units "export const channelVersions = \x7b" ++ units "\n" ++
        ((units ",\n").intercalate
            ((ownKeys (entries config "channels")).map (versionText config)) ++
          units "\n") ++ (units "\x7d as const;" ++ units "\n"))
      [.constant (units "channelVersions") (versionsExpr config)] := by
  have hmembers : ∀ name ∈ ownKeys (entries config "channels"),
      ReadsKey (units "  " ++ (propertyKey name ++ units ": ")) name ∧
        Reads (display (property (channelFields config name) (units "version")))
          (.numeral (display (property (channelFields config name) (units "version")))) := by
    intro name hname
    obtain ⟨token, hkey, htoken⟩ := written_propertyKey name
    refine ⟨readsKey (closed_blanks (List.all_eq_true.mp (by decide))) hkey htoken, _,
      (h.channels name (mem_ownKeys.mp hname)).version_written, ?_⟩
    exact Operand.alternatives fun _ _ => rfl
  have hcommas : ReadsCommas ((units ",\n").intercalate
      ((ownKeys (entries config "channels")).map (versionText config))) _ :=
    readsCommas_intercalate hmembers
  have hobject : ReadsOperand _ (versionsExpr config) := hcommas.object
  have hname : Written (units "channelVersions") [.word (units "channelVersions")] :=
    ⟨[], _, _, rfl, .word _, rfl⟩
  have hall := (declares_constant hname hobject).append
    (declares_passed (show Closed (units "\n") [] from rfl))
  have hbegin : units "export const channelVersions = \x7b" ++ units "\n" =
      units "export const " ++ (units "channelVersions" ++ (units " = " ++ units "\x7b\n")) := rfl
  have hend : units "\n" ++ units "\x7d as const;" = units "\n\x7d" ++ units " as const;" := rfl
  have hjoin : ∀ versions : Text,
      units "export const channelVersions = \x7b" ++ units "\n" ++ (versions ++ units "\n") ++
        (units "\x7d as const;" ++ units "\n") =
      units "export const channelVersions = \x7b" ++ units "\n" ++ (versions ++
        (units "\n" ++ units "\x7d as const;" ++ units "\n")) := by
    intro versions
    simp only [List.append_assoc]
  rw [hjoin, hbegin, hend]
  simpa only [List.append_assoc, List.nil_append, List.append_nil] using hall

/-- The declarations of the file. -/
def contractDeclarations (style : PackageStyle) (config : Fields) : List Declaration :=
  .imported [units "ChannelContract"] (clientModule style) ::
    ((ownKeys (entries config "schemas")).map fun id =>
      .typeAlias (typeName config id) (schemaExpr config id)) ++
    [.typeAlias (units "AppChannels") (channelsExpr config),
      .constant (units "channelVersions") (versionsExpr config)]

theorem declares_types (style : PackageStyle) {fingerprint : Text} (h : Generable config)
    (hhex : ∀ u ∈ fingerprint, isHex u) :
    Declares ((units "\n").intercalate (typesLines style fingerprint config))
      (contractDeclarations style config) := by
  have hnewline : Declares (units "\n") [] := declares_passed rfl
  have hheader := (declares_passed (closed_header hhex)).append hnewline
  have hschemas : ∀ id ∈ ownKeys (entries config "schemas"),
      Declares (schemaType config id ++ (units "\n" ++ units "\n"))
        [.typeAlias (typeName config id) (schemaExpr config id)] := by
    intro id hid
    exact (declares_schema h (mem_ownKeys.mp hid)).append (hnewline.append hnewline)
  have hproject : Closed (units "/** Channel contracts for createClient<AppChannels>(). Project \"" ++
      (textField config "projectId" ++ units "\". */\n")) [] := by
    refine closed_noted ?_ h.project
    decide +kernel
  have hversions : Closed (units
      "/** Deployed channel versions; subscribe requests must name them exactly. */") [] := by
    unfold Closed
    decide +kernel
  have hall := (((((((hheader.append (declares_import style)).append hnewline).append
    (declares_flatMap hschemas)).append (declares_passed hproject)).append
    (declares_channels h)).append hnewline).append
    ((declares_passed hversions).append hnewline)).append (declares_versions h)
  have hlines : typesLines style fingerprint config = (([header fingerprint,
      units "import type \x7b ChannelContract \x7d from \"" ++ clientModule style ++ units "\";",
      []] ++
    (ownKeys (entries config "schemas")).flatMap (fun id => [schemaType config id, []]) ++
    [units "/** Channel contracts for createClient<AppChannels>(). Project \"" ++
        textField config "projectId" ++ units "\". */",
      units "export type AppChannels = \x7b"] ++
    (ownKeys (entries config "channels")).map (channelText config)) ++
    [units "\x7d;",
      [],
      units "/** Deployed channel versions; subscribe requests must name them exactly. */",
      units "export const channelVersions = \x7b",
      (units ",\n").intercalate ((ownKeys (entries config "channels")).map (versionText config)),
      units "\x7d as const;"]) ++ [[]] := by
    rw [List.append_assoc _ _ [[]]]
    rfl
  have hquote : units "\". */\n" = units "\". */" ++ units "\n" := rfl
  rw [hlines, lines_end]
  rw [hquote] at hall
  simp only [List.flatMap_append, List.flatMap_cons, List.flatMap_nil, List.flatMap_map,
    List.flatMap_assoc, List.append_assoc, List.nil_append, List.append_nil] at hall ⊢
  exact hall

end Reading

/-! ## Accepted configurations -/

section Accepting

open StreamOtter.Configuration.Input (ofJson fieldsOfJson)

variable {fields : List (Text × Json PlainNumber)} {form : Json PlainNumber} {path : Text}

/-- A property of JSON data is the same one, however the data is looked at. -/
theorem property_json (fields : List (Text × Json PlainNumber)) (name : Text) :
    (Input.hasOwn (fieldsOfJson fields) name = false ∧ hasOwn (fieldsToValue fields) name = false ∧
      Input.property (fieldsOfJson fields) name = .undefined ∧
      property (fieldsToValue fields) name = .undefined) ∨
    ∃ form, Input.hasOwn (fieldsOfJson fields) name ∧ hasOwn (fieldsToValue fields) name ∧
      Input.property (fieldsOfJson fields) name = ofJson form ∧
      property (fieldsToValue fields) name = toValue form := by
  have hread : ∀ form : Json PlainNumber, (ofJson form).read = ofJson form := by
    intro form
    cases form <;> rfl
  induction fields with
  | nil => exact .inl ⟨rfl, rfl, rfl, rfl⟩
  | cons field rest ih =>
      obtain ⟨other, form⟩ := field
      simp only [Input.hasOwn, hasOwn, Input.property, property, fieldsOfJson, fieldsToValue,
        List.lookup_cons] at ih ⊢
      by_cases hname : name = other
      · right
        refine ⟨form, ?_⟩
        simp [hname, hread]
      · rw [beq_eq_false_iff_ne.mpr hname]
        exact ih

theorem object_of_ofJson {plain : Bool} {own : Input.Fields}
    (h : ofJson form = .object plain own) :
    ∃ fields, form = .object fields ∧ own = fieldsOfJson fields := by
  cases form with
  | object fields =>
      obtain ⟨-, rfl⟩ := Input.object.inj h
      exact ⟨fields, rfl, rfl⟩
  | _ => cases h

theorem typeOf_json (fields : List (Text × Json PlainNumber)) :
    Contracts.typeOf (fieldsToValue fields) = Configuration.typeOf (fieldsOfJson fields) := by
  unfold Contracts.typeOf Configuration.typeOf
  rcases property_json fields (units "type") with ⟨-, -, hinput, hvalue⟩ | ⟨form, -, -, hinput, hvalue⟩
  · rw [hinput, hvalue]
    rfl
  · rw [hinput, hvalue]
    cases form <;> rfl

theorem items_json {items : List (Json PlainNumber)}
    (h : (Input.itemsOfJson items).all (fun item => item.isHole || item.isString) = true) :
    ∃ texts : List Text, items = texts.map Json.string := by
  induction items with
  | nil => exact ⟨[], rfl⟩
  | cons item rest ih =>
      rw [Input.itemsOfJson, List.all_cons, Bool.and_eq_true] at h
      obtain ⟨texts, rfl⟩ := ih h.2
      cases item with
      | string text => exact ⟨text :: texts, rfl⟩
      | _ => exact absurd h.1 Bool.false_ne_true

theorem strings_json (texts : List Text) :
    Contracts.strings (Contracts.itemsToValue (texts.map Json.string)) = texts := by
  induction texts with
  | nil => rfl
  | cons text rest ih => exact congrArg (text :: ·) ih

theorem hasValues_json
    (h : Configuration.stringIssues (fieldsOfJson fields) path = []) :
    HasValues (fieldsToValue fields) := by
  simp only [Configuration.stringIssues, List.append_eq_nil_iff] at h
  obtain ⟨-, -, -, henum⟩ := h
  rcases property_json fields (units "enum") with ⟨-, -, -, hvalue⟩ | ⟨form, -, -, hinput, hvalue⟩
  · exact .inl (by rw [hvalue]; rfl)
  · rw [hinput] at henum
    cases form with
    | array forms =>
        simp only [ofJson, Configuration.enumIssues] at henum
        split at henum
        · cases henum
        · rename_i hstrings
          simp only [Bool.or_eq_true, Bool.not_eq_true', not_or, Bool.not_eq_false] at hstrings
          obtain ⟨texts, rfl⟩ := items_json hstrings.2
          cases texts with
          | nil => exact absurd rfl hstrings.1
          | cons first rest =>
              exact .inr ⟨_, first, rest, hvalue.trans rfl, strings_json (first :: rest)⟩
    | _ => cases henum

/-- The declared properties of an object's schema. -/
theorem declared_json {check : Input → Text → List Configuration.Issue}
    (h : Configuration.propertiesIssues check
      (Input.property (fieldsOfJson fields) (units "properties")) path = []) :
    ∃ children, Input.property (fieldsOfJson fields) (units "properties") =
        .object true (fieldsOfJson children) ∧
      Contracts.declared (fieldsToValue fields) = fieldsToValue children := by
  obtain ⟨own, hobject, -⟩ := Configuration.propertiesIssues_eq_nil h
  rcases property_json fields (units "properties") with
    ⟨-, -, hinput, -⟩ | ⟨form, -, -, hinput, hvalue⟩
  · rw [hinput] at hobject
    cases hobject
  · rw [hinput] at hobject
    obtain ⟨children, rfl, rfl⟩ := object_of_ofJson hobject
    refine ⟨children, hinput, ?_⟩
    rw [Contracts.declared, hvalue]
    rfl

theorem required_json {children : List (Text × Json PlainNumber)}
    (hchildren : Input.property (fieldsOfJson fields) (units "properties") =
      .object true (fieldsOfJson children))
    (h : Configuration.requiredIssues (Input.property (fieldsOfJson fields) (units "properties"))
      (Input.property (fieldsOfJson fields) (units "required")) path = []) :
    ∀ name ∈ Contracts.requiredNames (fieldsToValue fields),
      hasOwn (fieldsToValue children) name := by
  intro name hname
  rw [hchildren] at h
  rcases property_json fields (units "required") with
    ⟨-, -, hinput, -⟩ | ⟨form, -, -, hinput, hvalue⟩
  · rw [hinput] at h
    cases h
  · rw [hinput] at h
    cases form with
    | array forms =>
        simp only [ofJson, Configuration.requiredIssues] at h
        split at h
        · cases h
        · rename_i hstrings
          rw [Bool.not_eq_true, Bool.not_eq_false'] at hstrings
          obtain ⟨texts, rfl⟩ := items_json hstrings
          rw [Contracts.requiredNames, hvalue] at hname
          dsimp only [toValue] at hname
          rw [strings_json] at hname
          rw [List.append_eq_nil_iff, List.map_eq_nil_iff, List.filter_eq_nil_iff] at h
          have hmem : name ∈ (Input.itemsOfJson (texts.map Json.string)).map
              Configuration.requiredName := by
            have hnames : ∀ texts : List Text, (Input.itemsOfJson (texts.map Json.string)).map
                Configuration.requiredName = texts := by
              intro texts
              induction texts with
              | nil => rfl
              | cons text rest ih => exact congrArg (text :: ·) ih
            rw [hnames]
            exact hname
          have hown := h.2 name hmem
          rcases property_json children name with ⟨hnone, -, -, -⟩ | ⟨form, -, hsome, -, -⟩
          · simp [hnone] at hown
          · exact hsome
    | _ => cases h

theorem renderable_json {allowed : ℕ}
    (h : Configuration.schemaIssues allowed (ofJson form) path = []) :
    Renderable allowed (toValue form) := by
  induction allowed generalizing form path with
  | zero => cases h
  | succ allowed ih =>
      cases form with
      | object fields =>
          rw [ofJson, Configuration.schemaIssues] at h
          rw [toValue, Renderable, typeOf_json]
          cases htype : Configuration.typeOf (fieldsOfJson fields) with
          | none =>
              rw [htype] at h
              cases h
          | some type =>
              rw [htype] at h
              dsimp only at h ⊢
              rw [List.append_eq_nil_iff] at h
              obtain ⟨-, hissues⟩ := h
              cases type with
              | string => exact hasValues_json hissues
              | number | integer | boolean | null => exact trivial
              | array =>
                  simp only [Configuration.arrayIssues, List.append_eq_nil_iff] at hissues
                  obtain ⟨-, hitems⟩ := hissues
                  split at hitems
                  · cases hitems
                  · rename_i hdefined
                    rcases property_json fields (units "items") with
                      ⟨-, -, hinput, -⟩ | ⟨form, -, -, hinput, hvalue⟩
                    · rw [hinput] at hdefined
                      exact absurd rfl hdefined
                    · rw [hinput] at hitems
                      rw [hvalue]
                      exact ih hitems
              | object =>
                  simp only [Configuration.objectIssues, List.append_eq_nil_iff] at hissues
                  obtain ⟨-, hproperties, hrequired⟩ := hissues
                  obtain ⟨children, hchildren, hdeclared⟩ := declared_json hproperties
                  rw [hdeclared]
                  refine ⟨fun name hname => ?_, fun name hname => ?_⟩
                  · rcases property_json children name with
                      ⟨-, hnone, -, -⟩ | ⟨form, hown, -, hinput, hvalue⟩
                    · rw [hnone] at hname
                      cases hname
                    · obtain ⟨own, hobject, hchecks⟩ :=
                        Configuration.propertiesIssues_eq_nil hproperties
                      obtain rfl := (Input.object.inj (hchildren.symm.trans hobject)).2
                      have hcheck := hchecks name hown
                      rw [hinput] at hcheck
                      rw [hvalue]
                      exact ih hcheck
                  · exact required_json hchildren hrequired name hname
      | _ => cases h

/-- A map of the configuration, whose entries are checked. -/
theorem entries_json {label names key : String}
    {check : Text → Input → Text → List Configuration.Issue}
    (hdefined : (Input.property (fieldsOfJson fields) (units key)).isUndefined = false)
    (h : Configuration.whenGiven (Input.property (fieldsOfJson fields) (units key))
      (Configuration.entryIssues label names (Input.property (fieldsOfJson fields) (units key)) path
        check) = []) :
    ∃ children, Input.property (fieldsOfJson fields) (units key) =
        .object true (fieldsOfJson children) ∧
      entries (fieldsToValue fields) key = fieldsToValue children ∧
      ∀ name, hasOwn (fieldsToValue children) name → isIdentifier name ∧ ∃ form path,
        property (fieldsToValue children) name = toValue form ∧
        check name (ofJson form) path = [] := by
  obtain ⟨own, hobject, hchecks⟩ :=
    Configuration.entryIssues_eq_nil.mp (Configuration.of_whenGiven h hdefined)
  rcases property_json fields (units key) with
    ⟨-, -, hinput, -⟩ | ⟨form, -, -, hinput, hvalue⟩
  · rw [hinput] at hobject
    cases hobject
  · rw [hinput] at hobject
    obtain ⟨children, rfl, rfl⟩ := object_of_ofJson hobject
    refine ⟨children, hinput, ?_, fun name hname => ?_⟩
    · rw [entries, hvalue]
      rfl
    · rcases property_json children name with ⟨-, hnone, -, -⟩ | ⟨form, hown, -, hinput, hvalue⟩
      · rw [hnone] at hname
        cases hname
      · obtain ⟨hidentifier, hcheck⟩ := hchecks name hown
        rw [hinput] at hcheck
        exact ⟨hidentifier, form, _, hvalue, hcheck⟩

/-- A reference to a schema that is checked. -/
theorem reference_json {schemas : List (Text × Json PlainNumber)} {key : Text} {ref : String}
    (hdefined : (Input.property (fieldsOfJson fields) (units ref)).isUndefined = false)
    (h : Configuration.referenceIssues (.object true (fieldsOfJson schemas)) key
      (Input.property (fieldsOfJson fields) (units ref)) path = []) :
    hasOwn (fieldsToValue schemas) (textField (fieldsToValue fields) ref) := by
  rw [Configuration.referenceIssues, Configuration.issueIf_eq_nil, hdefined] at h
  rcases property_json fields (units ref) with ⟨-, -, hinput, -⟩ | ⟨form, -, -, hinput, hvalue⟩
  · rw [hinput] at hdefined
    cases hdefined
  · rw [hinput] at h
    cases form with
    | string text =>
        have hname : Input.hasOwn (fieldsOfJson schemas) text = true := by
          simpa [ofJson, Input.asText, Configuration.isSchemaName] using h
        rw [textField, hvalue]
        rcases property_json schemas text with ⟨hnone, -, -, -⟩ | ⟨-, -, hsome, -, -⟩
        · rw [hnone] at hname
          cases hname
        · exact hsome
    | _ => simp [ofJson, Input.asText] at h

theorem version_json
    (hdefined : (Input.property (fieldsOfJson fields) (units "version")).isUndefined = false)
    (h : (!(Input.property (fieldsOfJson fields) (units "version")).isUndefined &&
      !Configuration.isBetween 1 maxSafeInteger
        (Input.property (fieldsOfJson fields) (units "version"))) = false) :
    ∃ x : FiniteNumber, ∃ n : ℕ, property (fieldsToValue fields) (units "version") =
      .number (.finite x) ∧ x.toRat = n ∧ 0 < n ∧ n < 10 ^ 16 := by
  rcases property_json fields (units "version") with ⟨-, -, hinput, -⟩ | ⟨form, -, -, hinput, hvalue⟩
  · rw [hinput] at hdefined
    cases hdefined
  · rw [hinput] at h
    cases form with
    | number x =>
        refine ⟨x.number, x.number.toRat.num.toNat, hvalue, ?_⟩
        have hrange : x.number.toRat.den = 1 ∧ (1 : ℚ) ≤ x.number.toRat ∧
            x.number.toRat ≤ (maxSafeInteger : ℚ) := by
          simpa [ofJson, Input.isUndefined, Configuration.isBetween, Configuration.isNumber,
            Input.asNumber, and_assoc] using h
        obtain ⟨hinteger, hlow, hhigh⟩ := hrange
        have hnum : (x.number.toRat.num : ℚ) = x.number.toRat := Rat.den_eq_one_iff _ |>.mp hinteger
        have hlow' : 1 ≤ x.number.toRat.num := by
          rw [← hnum] at hlow
          exact_mod_cast hlow
        have hhigh' : x.number.toRat.num ≤ (maxSafeInteger : ℤ) := by
          rw [← hnum] at hhigh
          exact_mod_cast hhigh
        have hmax : (maxSafeInteger : ℤ) < 10 ^ 16 := by decide
        refine ⟨?_, by omega, by omega⟩
        rw [← hnum]
        have hnatural : ((x.number.toRat.num.toNat : ℤ)) = x.number.toRat.num :=
          Int.toNat_of_nonneg (by omega)
        exact_mod_cast hnatural.symm
    | _ => simp [ofJson, Input.isUndefined, Configuration.isBetween, Configuration.isNumber,
        Input.asNumber] at h

/-- What an accepted configuration has is what the file relies on. -/
theorem generable_of_accepted {parseUrl : Text → Option Url} (h : Accepted parseUrl (ofJson form)) :
    ∃ fields, toValue form = .object fields ∧ Generable fields := by
  obtain ⟨own, hobject, hparts⟩ := Configuration.ofObject_eq_nil.mp h
  obtain ⟨fields, rfl, rfl⟩ := object_of_ofJson hobject
  simp only [List.append_eq_nil_iff] at hparts
  obtain ⟨hkeys, -, hproject, -, -, -, -, hschemas, hchannels, -, -⟩ := hparts
  have hdefined := (Configuration.keyIssues_eq_nil.mp hkeys).2
  simp only [Configuration.requiredKeys, List.forall_mem_cons] at hdefined
  obtain ⟨-, hprojectDefined, -, -, -, hschemasDefined, hchannelsDefined, -⟩ := hdefined
  obtain ⟨schemas, hschemasInput, hschemasEntries, hschemaChecks⟩ :=
    entries_json hschemasDefined hschemas
  obtain ⟨channels, -, hchannelsEntries, hchannelChecks⟩ := entries_json hchannelsDefined hchannels
  refine ⟨fieldsToValue fields, rfl, ?_, ?_, ?_, ?_⟩
  · intro id hid
    rw [hschemasEntries] at hid
    exact (hschemaChecks id hid).1
  · intro id hid
    rw [hschemasEntries] at hid ⊢
    obtain ⟨-, schema, path, hvalue, hcheck⟩ := hschemaChecks id hid
    rw [hvalue]
    exact renderable_json hcheck
  · intro name hname
    have hown := hname
    rw [hchannelsEntries] at hown
    obtain ⟨-, channel, path, hvalue, hcheck⟩ := hchannelChecks name hown
    rw [hschemasInput] at hcheck
    obtain ⟨own, hobject, hissues⟩ := Configuration.ofObject_eq_nil.mp hcheck
    obtain ⟨parts, rfl, rfl⟩ := object_of_ofJson hobject
    simp only [List.append_eq_nil_iff, Configuration.issueIf_eq_nil] at hissues
    obtain ⟨hkeys, hversion, -, hparams, hpayload, -⟩ := hissues
    have hdefined := (Configuration.keyIssues_eq_nil.mp hkeys).2
    simp only [List.forall_mem_cons] at hdefined
    obtain ⟨hversionDefined, -, hparamsDefined, hpayloadDefined, -⟩ := hdefined
    have hfields : channelFields (fieldsToValue fields) name = fieldsToValue parts := by
      rw [channelFields, hchannelsEntries, hvalue]
      rfl
    refine ⟨?_, ?_, ?_⟩
    · rw [hfields, hschemasEntries]
      exact reference_json hparamsDefined hparams
    · rw [hfields, hschemasEntries]
      exact reference_json hpayloadDefined hpayload
    · rw [hfields]
      exact version_json hversionDefined hversion
  · have hissues := Configuration.of_whenGiven hproject hprojectDefined
    rcases property_json fields (units "projectId") with
      ⟨-, -, hinput, -⟩ | ⟨form, -, -, hinput, hvalue⟩
    · rw [hinput] at hprojectDefined
      cases hprojectDefined
    · rw [hinput] at hissues
      rw [textField, hvalue]
      cases form with
      | string text =>
          show isIdentifier text = true
          by_contra hnot
          simp [ofJson, Configuration.identifierIssues, Input.asText, hnot] at hissues
      | _ => cases hissues

theorem plainLimits_json {parseUrl : Text → Option Url} (h : Accepted parseUrl (ofJson form)) :
    Configuration.PlainLimits (Configuration.limitsOf (ofJson form)) := by
  obtain ⟨own, hobject, hlimits, hvalid⟩ := Configuration.validateLimits_of_accepted h
  obtain ⟨fields, rfl, rfl⟩ := object_of_ofJson hobject
  rcases Configuration.validateLimits_eq_nil.mp hvalid with hundefined | ⟨plain, overrides, heq, -⟩
  · exact .inl hundefined
  · rcases property_json fields (units "limits") with ⟨-, -, hinput, -⟩ | ⟨form, -, -, hinput, -⟩
    · rw [hlimits, hinput] at heq
      cases heq
    · rw [hlimits, hinput] at heq
      obtain ⟨parts, rfl, -⟩ := object_of_ofJson heq
      exact .inr ⟨_, hlimits.trans hinput⟩

/-- The file of an accepted configuration is written. -/
theorem generateTypes_eq {parseUrl : Text → Option Url} (sha256Hex : Text → Text)
    (style : PackageStyle) {config : Fields} (h : Accepted parseUrl (ofJson form))
    (hform : toValue form = .object config) :
    ∃ text, generateTypes parseUrl sha256Hex style form =
      .ok ((units "\n").intercalate (typesLines style (sha256Hex text) config)) := by
  obtain ⟨canonical, hcanonical⟩ := Input.canonicalize_of_shaped
    (Configuration.shaped_of_accepted h (plainLimits_json h))
  have hempty : Configuration.validateProjectConfig parseUrl (ofJson form) = [] := h
  refine ⟨canonical.stringify PlainNumber.numeral, ?_⟩
  rw [generateTypes, hempty, Input.canonicalJson, hcanonical, hform]
  rfl

end Accepting

/-! ## What the declarations say -/

section Declared

variable {config : Fields} {style : PackageStyle} {id name : Text}

theorem IsFree.ne (h : IsFree name) :
    name ≠ units "ChannelContract" ∧ name ≠ units "AppChannels" ∧
      name ≠ units "channelVersions" := by
  obtain ⟨⟨⟨u, rest, rfl, -, hhigh⟩, -⟩, hreserved⟩ := h
  refine ⟨?_, ?_, ?_⟩
  · intro heq
    exact hreserved (by rw [heq]; decide +kernel)
  · intro heq
    exact hreserved (by rw [heq]; decide +kernel)
  · intro heq
    have hhead : units "channelVersions" = 0x63 :: units "hannelVersions" := rfl
    rw [hhead] at heq
    obtain ⟨rfl, -⟩ := List.cons.inj heq
    exact absurd hhigh (by decide)

theorem aliasOf_schema (h : Generable config) (style : PackageStyle)
    (hid : hasOwn (entries config "schemas") id) :
    aliasOf (contractDeclarations style config) (typeName config id) =
      some (schemaExpr config id) := by
  have hmap := aliasOf_map (schemaExpr config) (mem_ownKeys.mpr hid)
    fun id' hid' hsame => (h.typeName hid).2 id' (mem_ownKeys.mp hid') hsame
  rw [contractDeclarations, List.cons_append, aliasOf_imported, aliasOf_append, hmap,
    Option.some_or]

theorem aliasOf_channels (h : Generable config) (style : PackageStyle) :
    aliasOf (contractDeclarations style config) (units "AppChannels") =
      some (channelsExpr config) := by
  have hmap := aliasOf_map_none (schemaExpr config) fun id hid =>
    (h.typeName (mem_ownKeys.mp hid)).1.ne.2.1
  rw [contractDeclarations, List.cons_append, aliasOf_imported, aliasOf_append, hmap,
    Option.none_or, aliasOf, if_pos rfl]

theorem nodup_names (h : Generable config) (style : PackageStyle) :
    ((contractDeclarations style config).flatMap namesOf).Nodup := by
  have hnames : (contractDeclarations style config).flatMap namesOf =
      units "ChannelContract" :: ((ownKeys (entries config "schemas")).map (typeName config) ++
        [units "AppChannels", units "channelVersions"]) := by
    simp only [contractDeclarations, List.cons_append, List.flatMap_cons, List.flatMap_append,
      List.flatMap_map, namesOf, List.flatMap_nil, List.nil_append, List.append_nil]
    rw [← List.map_eq_flatMap]
  have hapart : units "ChannelContract" ≠ units "AppChannels" ∧
      units "ChannelContract" ≠ units "channelVersions" ∧
      units "AppChannels" ≠ units "channelVersions" := by
    decide +kernel
  rw [hnames, List.nodup_cons, List.nodup_append]
  refine ⟨?_, ?_, ?_, ?_⟩
  · intro hmem
    rcases List.mem_append.mp hmem with hmem | hmem
    · obtain ⟨id, hid, hname⟩ := List.mem_map.mp hmem
      exact (h.typeName (mem_ownKeys.mp hid)).1.ne.1 hname
    · simp [hapart.1, hapart.2.1] at hmem
  · refine List.Nodup.map_on ?_ (nodup_ownKeys _)
    exact fun id hid id' hid' hsame =>
      (h.typeName (mem_ownKeys.mp hid')).2 id (mem_ownKeys.mp hid) hsame
  · simp [hapart.2.2]
  · intro name hname other hother heq
    subst heq
    obtain ⟨id, hid, rfl⟩ := List.mem_map.mp hname
    have hne := (h.typeName (mem_ownKeys.mp hid)).1.ne
    simp [hne.2.1, hne.2.2] at hother

/-- A type has what a schema accepts, and what has it is refused for a range or a length only. -/
structure Expresses (schema : Value) (type : TypeExpr) : Prop where
  accepted : ∀ value, validateValue schema value = none → ∀ fresh, has fresh type value
  checked : ∀ value, Contracts.isJsonValue value → has true type value →
    ∀ issue ∈ validateValue schema value, IsRuntimeCheck issue

/-- A channel's contract is over the types of its schemas, and its version is the one deployed. -/
structure Contracted (config : Fields) (declarations : List Declaration) (name : Text)
    (contract : TypeExpr) : Prop where
  types : ∃ params payload version paramsType payloadType versions,
    contract = .named (units "ChannelContract")
      [.named params [], .named payload [], .numeral version] ∧
    aliasOf declarations params = some paramsType ∧
    aliasOf declarations payload = some payloadType ∧
    Expresses (property (entries config "schemas")
      (textField (channelFields config name) "paramsSchema")) paramsType ∧
    Expresses (property (entries config "schemas")
      (textField (channelFields config name) "payloadSchema")) payloadType ∧
    version = display (property (channelFields config name) (units "version")) ∧
    .constant (units "channelVersions") (.object versions) ∈ declarations ∧
    (name, false, .numeral version) ∈ versions

theorem Generable.expresses (h : Generable config) (hid : hasOwn (entries config "schemas") id) :
    Expresses (property (entries config "schemas") id) (schemaExpr config id) where
  accepted := fun _ haccepted fresh => has_of_validateAt haccepted fresh []
  checked := fun _ hjson hhas => checked_of_has (h.schemas id hid) hjson hhas (units "$")

theorem Generable.contracted (h : Generable config) (style : PackageStyle)
    (hname : hasOwn (entries config "channels") name) :
    Contracted config (contractDeclarations style config) name (contractExpr config name) := by
  have hchannel := h.channels name hname
  refine ⟨_, _, _, _, _, _, rfl, aliasOf_schema h style hchannel.params,
    aliasOf_schema h style hchannel.payload, h.expresses hchannel.params,
    h.expresses hchannel.payload, rfl, List.mem_append_right _ (List.mem_cons_of_mem _
      List.mem_cons_self), ?_⟩
  exact List.mem_map.mpr ⟨name, mem_ownKeys.mpr hname, rfl⟩

/-- The file of every accepted configuration is read as declarations of distinct names, in which
`AppChannels` has each channel with the types of its schemas and its version. -/
theorem generated_contracts_sound (parseUrl : Text → Option Url) (sha256Hex : Text → Text)
    (style : PackageStyle) (config : Json PlainNumber)
    (hhex : ∀ text, ∀ u ∈ sha256Hex text, isHex u)
    (h : Accepted parseUrl (Input.ofJson config)) :
    ∃ text declarations fields channels,
      generateTypes parseUrl sha256Hex style config = .ok text ∧
      readDeclarations text = some declarations ∧ (declarations.flatMap namesOf).Nodup ∧
      toValue config = .object fields ∧
      aliasOf declarations (units "AppChannels") = some (.object channels) ∧
      channels.map Prod.fst = ownKeys (entries fields "channels") ∧
      ∀ channel ∈ channels, channel.2.1 = false ∧
        Contracted fields declarations channel.1 channel.2.2 := by
  obtain ⟨fields, hform, hgenerable⟩ := generable_of_accepted h
  obtain ⟨canonical, htext⟩ := generateTypes_eq sha256Hex style h hform
  refine ⟨_, contractDeclarations style fields, fields, _, htext,
    (declares_types style hgenerable (hhex canonical)).readDeclarations,
    nodup_names hgenerable style, hform, aliasOf_channels hgenerable style, ?_, ?_⟩
  · rw [List.map_map]
    exact List.map_id _
  · intro channel hchannel
    obtain ⟨name, hname, rfl⟩ := List.mem_map.mp hchannel
    exact ⟨rfl, hgenerable.contracted style (mem_ownKeys.mp hname)⟩

end Declared

/-! ## An example -/

theorem plainOne_bounded : 4607182418800017408 < 2047 * 2 ^ 52 := by decide

def finiteOne : FiniteNumber := ⟨false, 4607182418800017408, plainOne_bounded⟩

theorem finiteOne_plain : finiteOne.isNegativeZero = false := rfl

def plainOne : PlainNumber := ⟨finiteOne, finiteOne_plain⟩

def textForm (literal : String) : Json PlainNumber := .string (units literal)

/-- The schema of an object with one required property. -/
def recordForm (name : String) (schema : Json PlainNumber) : Json PlainNumber :=
  .object [(units "type", textForm "object"), (units "properties", .object [(units name, schema)]),
    (units "required", .array [textForm name]), (units "additionalProperties", .boolean false)]

/-- A configuration with one channel, over a schema of an enumeration. -/
def orderConfig : Json PlainNumber :=
  .object [
    (units "configVersion", .number plainOne), (units "projectId", textForm "demo"),
    (units "gateway", .object [
      (units "host", textForm "localhost"), (units "port", .number plainOne),
      (units "path", textForm "/"), (units "allowedOrigins", .array [])]),
    (units "connections", .object []),
    (units "sources", .object [(units "orders", .object [
      (units "kind", textForm "fixture"), (units "generation", textForm "g1"),
      (units "fixtureRef", textForm "orders")])]),
    (units "schemas", .object [
      (units "order-key", recordForm "id" (.object [
        (units "type", textForm "string"), (units "minLength", .number plainOne)])),
      (units "order", recordForm "status" (.object [
        (units "type", textForm "array"), (units "maxItems", .number plainOne),
        (units "items", .object [
          (units "type", textForm "string"),
          (units "enum", .array [textForm "open", textForm "paid"])])]))]),
    (units "channels", .object [(units "order-status", .object [
      (units "version", .number plainOne), (units "source", textForm "orders"),
      (units "paramsSchema", textForm "order-key"), (units "payloadSchema", textForm "order"),
      (units "handlersRef", textForm "order-status"),
      (units "delivery", .object [
        (units "kind", textForm "state"), (units "overflow", textForm "resync")])])])]

/-- The hash of its canonical text. -/
def orderHash : Text := units "db1c9e772488ba03f0d48bd30068944e996d3bc894f228e529860ae57442292a"

theorem generated_contracts_sound_order :
    ∃ text declarations fields channels,
      generateTypes (fun _ => none) (fun _ => orderHash) .scopedPackages orderConfig = .ok text ∧
      readDeclarations text = some declarations ∧ (declarations.flatMap namesOf).Nodup ∧
      toValue orderConfig = .object fields ∧
      aliasOf declarations (units "AppChannels") = some (.object channels) ∧
      channels.map Prod.fst = ownKeys (entries fields "channels") ∧
      ∀ channel ∈ channels, channel.2.1 = false ∧
        Contracted fields declarations channel.1 channel.2.2 :=
  generated_contracts_sound (fun _ => none) (fun _ => orderHash) .scopedPackages orderConfig
    (fun _ => List.all_eq_true.mp (by decide)) (by unfold Accepted; decide +kernel)

example : (match toValue orderConfig with
    | .object fields => contractText fields (units "order-status")
    | _ => []) = units "ChannelContract<OrderKey, Order, 1>" := by
  decide +kernel

end StreamOtter.Generation
