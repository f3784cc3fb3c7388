import StreamOtter.ConfigSchemas
import StreamOtter.ControlRequests

/-!
# Project configurations

A translation of `validateProjectConfig` with the parts that it is made of, `validateLimits` and
`validateFailureHandling`.  Each check is the list of the issues that it adds.
-/

namespace StreamOtter.Configuration

open Ecma Input
open Contracts (maxSafeInteger pointer quotedIn)
open Control (isLetter isHexUnit isIdentifier)

/-! ## Names -/

/-- `ENV_NAME_PATTERN`. -/
def isEnvName : Text → Bool
  | [] => false
  | first :: rest =>
      (isLetter first || first = 0x5f) && rest.length ≤ 127 &&
        rest.all fun u => isLetter u || isDigit u || u = 0x5f

/-- `KAFKA_NAME_PATTERN`, and `KAFKA_TOPIC_PATTERN`. -/
def isKafkaName (text : Text) : Bool :=
  0 < text.length && text.length ≤ 249 &&
    text.all fun u => isLetter u || isDigit u || u = 0x2e || u = 0x5f || u = 0x2d

/-- A colon and a port. -/
def isPortSuffix : Text → Bool
  | [] => false
  | colon :: port => colon = 0x3a && 0 < port.length && port.length ≤ 5 && port.all isDigit

/-- `BROKER_PATTERN`: the name of a host has no colon, and an address has no closing bracket. -/
def isBroker : Text → Bool
  | [] => false
  | first :: rest =>
      let text := first :: rest
      let host := text.takeWhile fun u => u ≠ 0x3a
      let address := rest.takeWhile fun u => u ≠ 0x5d
      (!host.isEmpty && host.all (fun u => isLetter u || isDigit u || u = 0x2e || u = 0x2d) &&
          isPortSuffix (text.drop host.length)) ||
        (first = 0x5b && !address.isEmpty &&
          address.all (fun u => isHexUnit u || u = 0x3a || u = 0x2e) &&
          isPortSuffix (rest.drop (address.length + 1)))

/-- An absolute path of a URL. -/
def isUrlPath : Text → Bool
  | [] => false
  | first :: rest =>
      first = 0x2f && rest.length < 256 && rest.all fun u =>
        isLetter u || isDigit u || u = 0x2e || u = 0x5f || u = 0x7e || u = 0x2f || u = 0x2d

/-- What `isOrigin` reads of a URL. -/
structure Url where
  protocol : Text
  origin : Text

/-- `isOrigin`, by what `new URL` makes of a text, if it does not throw. -/
def isOrigin (parseUrl : Text → Option Url) (value : Input) : Bool :=
  value.asText.any fun text =>
    (parseUrl text).any fun url =>
      (url.protocol = units "http:" || url.protocol = units "https:") && url.origin = text

/-! ## Values -/

def isText (literal : String) (value : Input) : Bool := value.asText = some (units literal)

/-- Whether a value is a number that is finite and passes a test. -/
def isNumber (test : ℚ → Bool) (value : Input) : Bool :=
  match value.asNumber with
  | some (.finite x) => test x.toRat
  | _ => false

/-- An integer within bounds. -/
def isBetween (low high : ℕ) : Input → Bool :=
  isNumber fun x => x.den = 1 && low ≤ x && x ≤ high

/-! ## `Checker` -/

def deferredFeatures : List (Text × Text) :=
  [(units "history", units "Retained history is a V2 feature and is not supported in V1."),
    (units "recovery", units "Client recovery cursors are a V2 feature and are not supported in V1."),
    (units "retention", units "Retention windows are a V2 feature and are not supported in V1."),
    (units "acknowledgement",
      units "Application acknowledgements are a V2 feature and are not supported in V1."),
    (units "resume", units "Resume policies are a V2 feature and are not supported in V1."),
    (units "replay", units "Replay is a V2 feature and is not supported in V1."),
    (units "commands", units "Commands are a V3 feature and are not supported in V1."),
    (units "command", units "Commands are a V3 feature and are not supported in V1."),
    (units "gateways", units "Multiple gateways are a V2 feature and are not supported in V1."),
    (units "cluster", units "Multiple gateways are a V2 feature and are not supported in V1."),
    (units "schemaRegistry",
      units "Schema Registry integration is a V2 feature and is not supported in V1."),
    (units "workspaces", units "Team workspaces are a V3 feature and are not supported in V1."),
    (units "environments", units "Environments are a V3 feature and are not supported in V1."),
    (units "transports", units "Only the Socket.IO transport is supported in V1."),
    (units "transport", units "Only the Socket.IO transport is supported in V1.")]

def unknownKey (key path : Text) : Issue :=
  ⟨pointer path key, .unknownKey, quotedIn (units "Unknown key ") key (units ".")⟩

/-- `Checker.keys`. -/
def keyIssues (required optional : List Text) (fields : Fields) (path : Text) : List Issue :=
  (((ownKeys fields).filter fun key => !(required ++ optional).contains key).map fun key =>
      match deferredFeatures.lookup key with
      | some message => ⟨pointer path key, .unsupportedFeature, message⟩
      | none => unknownKey key path) ++
    (required.filter fun key => (property fields key).isUndefined).map fun key =>
      ⟨pointer path key, .required, quotedIn [] key (units " is required.")⟩

/-- `unknownKeys`. -/
def unknownKeyIssues (allowed : List Text) (fields : Fields) (path : Text) : List Issue :=
  ((ownKeys fields).filter fun key => !allowed.contains key).map fun key => unknownKey key path

/-- `Checker.object`, and what is checked of an object. -/
def ofObject (label : String) (value : Input) (path : Text) (check : Fields → List Issue) :
    List Issue :=
  match value with
  | .object true fields => check fields
  | _ => [⟨path, .invalidType, units (label ++ " must be an object.")⟩]

/-- A check of what need not be given. -/
def whenGiven (value : Input) (issues : List Issue) : List Issue :=
  if value.isUndefined then [] else issues

def invalidIdentifier (label : String) (path : Text) : Issue :=
  ⟨path, .invalidIdentifier, units (label ++ " must match [A-Za-z][A-Za-z0-9_-]\x7b0,63\x7d.")⟩

/-- `Checker.identifier`. -/
def identifierIssues (label : String) (value : Input) (path : Text) : List Issue :=
  if value.asText.any isIdentifier then [] else [invalidIdentifier label path]

/-- `Checker.nonEmptyString`. -/
def nonEmptyIssues (label : String) (max : ℕ) (value : Input) (path : Text) : List Issue :=
  issueIf (!value.asText.any fun text => 0 < text.length && text.length ≤ max) path .invalidValue
    (units (label ++ " must be a non-empty string of at most " ++ toString max ++ " characters."))

/-- `Checker.secretRef`. -/
def secretIssues (value : Input) (path : Text) : List Issue :=
  ofObject "A secret reference" value path fun fields =>
    let env := property fields (units "env")
    keyIssues [units "env"] [] fields path ++
      issueIf (!env.isUndefined && !env.asText.any isEnvName) (pointer path (units "env"))
        .invalidValue (units "env must name an environment variable.")

/-- The checks of a map's entries, where the name of each is an identifier. -/
def entryIssues (label names : String) (value : Input) (path : Text)
    (check : Text → Input → Text → List Issue) : List Issue :=
  ofObject label value path fun fields =>
    (ownKeys fields).flatMap fun name =>
      if isIdentifier name then check name (property fields name) (pointer path name)
      else [invalidIdentifier names (pointer path name)]

/-- The names of a map's entries that are identifiers. -/
def identifiers : Input → List Text
  | .object true fields => (ownKeys fields).filter isIdentifier
  | _ => []

/-- `items.forEach`, which leaves out the holes. -/
def itemIssues (passes : Input → Bool) (items : List Input) (path : Text) (message : String) :
    List Issue :=
  items.zipIdx.flatMap fun item =>
    issueIf (!item.1.isHole && !passes item.1) (pointer path (units (toString item.2)))
      .invalidValue (units message)

/-! ## `gateway` -/

def originIssues (parseUrl : Text → Option Url) (origins : Input) (path : Text) : List Issue :=
  match origins with
  | .array items =>
      itemIssues (isOrigin parseUrl) items path
          ("Each allowed origin must be an exact http(s) origin such as https://app.example.com; " ++
            "wildcards are not allowed.") ++
        issueIf (setSize items ≠ items.length) path .duplicate
          (units "allowedOrigins must be unique.")
  | _ => [⟨path, .invalidType, units "allowedOrigins must be an array of exact origins."⟩]

def gatewayIssues (parseUrl : Text → Option Url) (gateway : Input) (path : Text) : List Issue :=
  ofObject "gateway" gateway path fun fields =>
    let host := property fields (units "host")
    let port := property fields (units "port")
    let urlPath := property fields (units "path")
    let origins := property fields (units "allowedOrigins")
    keyIssues [units "host", units "port", units "path", units "allowedOrigins"] [] fields path ++
      (whenGiven host (nonEmptyIssues "host" 253 host (pointer path (units "host"))) ++
      (issueIf (!port.isUndefined && !isBetween 0 65535 port) (pointer path (units "port"))
        .invalidValue (units "port must be an integer from 0 to 65535.") ++
      (issueIf (!urlPath.isUndefined && !urlPath.asText.any isUrlPath) (pointer path (units "path"))
        .invalidValue (units "path must be an absolute URL path without a query or fragment.") ++
      whenGiven origins
        (originIssues parseUrl origins (pointer path (units "allowedOrigins"))))))

/-! ## `connections` -/

def brokerIssues (brokers : Input) (path : Text) : List Issue :=
  let empty : List Issue :=
    [⟨path, .invalidValue, units "brokers must be a non-empty array of host:port strings."⟩]
  match brokers with
  | .array items =>
      if items.isEmpty then empty
      else itemIssues (fun item => item.asText.any isBroker) items path "Each broker must be host:port."
  | _ => empty

def tlsIssues (tls : Input) (path : Text) : List Issue :=
  if tls.asBoolean = some false then []
  else
    ofObject "tls (false or an object)" tls path fun fields =>
      let caFile := property fields (units "caFile")
      keyIssues [] [units "caFile"] fields path ++
        whenGiven caFile (nonEmptyIssues "caFile" 4096 caFile (pointer path (units "caFile")))

def saslIssues (sasl : Input) (path : Text) : List Issue :=
  ofObject "sasl" sasl path fun fields =>
    let mechanism := property fields (units "mechanism")
    let username := property fields (units "username")
    let password := property fields (units "password")
    keyIssues [units "mechanism", units "username", units "password"] [] fields path ++
      (issueIf (!mechanism.isUndefined && !(isText "plain" mechanism ||
          isText "scram-sha-256" mechanism || isText "scram-sha-512" mechanism))
        (pointer path (units "mechanism")) .unsupportedFeature
        (units ("SASL mechanism must be plain, scram-sha-256, or scram-sha-512 " ++
          "(OAuth is not supported in V1).")) ++
      (whenGiven username (secretIssues username (pointer path (units "username"))) ++
      whenGiven password (secretIssues password (pointer path (units "password")))))

def connectionIssues (profile : Input) (path : Text) : List Issue :=
  ofObject "A connection profile" profile path fun fields =>
    let brokers := property fields (units "brokers")
    let tls := property fields (units "tls")
    let sasl := property fields (units "sasl")
    keyIssues [units "brokers", units "tls"] [units "sasl"] fields path ++
      (whenGiven brokers (brokerIssues brokers (pointer path (units "brokers"))) ++
      (whenGiven tls (tlsIssues tls (pointer path (units "tls"))) ++
      whenGiven sasl (saslIssues sasl (pointer path (units "sasl")))))

/-! ## `sources` -/

def topicIssues (topics : Input) (path : Text) : List Issue :=
  let empty : List Issue := [⟨path, .invalidValue, units "topics must be a non-empty array."⟩]
  match topics with
  | .array items =>
      if items.isEmpty then empty
      else
        itemIssues (fun item => item.asText.any isKafkaName) items path
            "Topic names may contain letters, digits, '.', '_', and '-'." ++
          issueIf (setSize items ≠ items.length) path .duplicate (units "topics must be unique.")
  | _ => empty

/-- A source's property, if the source is an object of one kind. -/
def sourceProperty (kind : String) (name : Text) : Input → Input
  | .object true fields =>
      if isText kind (property fields (units "kind")) then property fields name else .undefined
  | _ => .undefined

/-- The consumer group that a source takes. -/
def consumerGroup (source : Input) : Option Text :=
  (sourceProperty "kafka" (units "consumerGroup") source).asText.filter isKafkaName

/-- The connection profile that a source adds to `kafkaProfiles`. -/
def kafkaProfile (connections source : Input) : Option Text :=
  (sourceProperty "kafka" (units "connectionRef") source).asText.filter
    fun ref => (identifiers connections).contains ref

/-- The source that took a consumer group before. -/
def groupOwner (sources : Input) (id group : Text) : Option Text :=
  match sources with
  | .object true fields =>
      ((identifiers sources).takeWhile fun other => other ≠ id).find?
        fun other => consumerGroup (property fields other) = some group
  | _ => none

def groupIssues (sources : Input) (id : Text) (group : Input) (path : Text) : List Issue :=
  match group.asText.filter isKafkaName with
  | none =>
      [⟨path, .invalidValue,
        units "consumerGroup may contain letters, digits, '.', '_', and '-'."⟩]
  | some name =>
      match groupOwner sources id name with
      | none => []
      | some owner =>
          [⟨path, .consumerGroupConflict,
            quotedIn (units "Consumer group ") name
              (quotedIn (units " is already used by source ") owner
                (units "; each source needs a dedicated group."))⟩]

def kafkaSourceIssues (connections sources : Input) (id : Text) (fields : Fields) (path : Text) :
    List Issue :=
  let generation := property fields (units "generation")
  let ref := property fields (units "connectionRef")
  let topics := property fields (units "topics")
  let group := property fields (units "consumerGroup")
  let codec := property fields (units "codec")
  let startFrom := property fields (units "startFrom")
  keyIssues [units "kind", units "generation", units "connectionRef", units "topics",
      units "consumerGroup", units "codec", units "startFrom"] [] fields path ++
    (whenGiven generation
      (identifierIssues "generation" generation (pointer path (units "generation"))) ++
    (issueIf (!ref.isUndefined && !ref.asText.any fun ref => (identifiers connections).contains ref)
      (pointer path (units "connectionRef")) .unknownReference
      (units "connectionRef must name a configured connection profile.") ++
    (whenGiven topics (topicIssues topics (pointer path (units "topics"))) ++
    (whenGiven group (groupIssues sources id group (pointer path (units "consumerGroup"))) ++
    (issueIf (!codec.isUndefined && !isText "json" codec) (pointer path (units "codec"))
      .unsupportedFeature (units "Only the json codec is supported in V1.") ++
    issueIf (!startFrom.isUndefined && !(isText "latest" startFrom || isText "earliest" startFrom))
      (pointer path (units "startFrom")) .invalidValue
      (units "startFrom must be latest or earliest."))))))

def fixtureSourceIssues (fields : Fields) (path : Text) : List Issue :=
  let generation := property fields (units "generation")
  let fixtureRef := property fields (units "fixtureRef")
  keyIssues [units "kind", units "generation", units "fixtureRef"] [] fields path ++
    (whenGiven generation
      (identifierIssues "generation" generation (pointer path (units "generation"))) ++
    whenGiven fixtureRef
      (identifierIssues "fixtureRef" fixtureRef (pointer path (units "fixtureRef"))))

def sourceIssues (connections sources : Input) (id : Text) (source : Input) (path : Text) :
    List Issue :=
  ofObject "A source" source path fun fields =>
    let kind := property fields (units "kind")
    if isText "kafka" kind then kafkaSourceIssues connections sources id fields path
    else if isText "fixture" kind then fixtureSourceIssues fields path
    else
      [⟨pointer path (units "kind"), .unsupportedFeature,
        units "Source kind must be kafka or fixture in V1."⟩]

/-- `kafkaProfiles`. -/
def kafkaProfiles (connections : Input) : Input → List Text
  | .object true fields =>
      (((ownKeys fields).filter isIdentifier).filterMap
        fun id => kafkaProfile connections (property fields id)).dedup
  | _ => []

structure SourceShape where
  kafka : Bool
  topics : List Text
  deriving DecidableEq, Repr

def textsOf : Input → List Text
  | .array items => items.filterMap asText
  | _ => []

/-- The shape that a source adds to `sourceShapes`. -/
def sourceShape (source : Input) : Option SourceShape :=
  match source with
  | .object true fields =>
      let kind := property fields (units "kind")
      if isText "kafka" kind then some ⟨true, textsOf (property fields (units "topics"))⟩
      else if isText "fixture" kind then some ⟨false, []⟩
      else none
  | _ => none

/-- `sourceShapes`. -/
def sourceShapes : Input → List (Text × SourceShape)
  | .object true fields =>
      ((ownKeys fields).filter isIdentifier).filterMap fun id =>
        (sourceShape (property fields id)).map (Prod.mk id)
  | _ => []

/-! ## `schemas` and `channels` -/

/-- What `schemaDefinitions` has under a name. -/
def schemaDefinition (schemas : Input) (name : Text) : Option Input :=
  match schemas with
  | .object true fields =>
      let schema := property fields name
      if (identifiers schemas).contains name &&
          (validateSchemaDefinition schema (pointer (units "/schemas") name)).isEmpty then
        some schema
      else none
  | _ => none

def isSchemaName (schemas : Input) (name : Text) : Bool :=
  match schemas with
  | .object true fields => hasOwn fields name
  | _ => false

def referenceIssues (schemas : Input) (key : Text) (ref : Input) (path : Text) : List Issue :=
  issueIf (!ref.isUndefined && !ref.asText.any (isSchemaName schemas)) (pointer path key)
    .unknownReference (key ++ units " must name a configured schema.")

def paramsIssues (schemas ref : Input) : List Issue :=
  match ref.asText.bind fun name => (schemaDefinition schemas name).map (Prod.mk name) with
  | some (name, schema) => paramsSchemaIssues schema (pointer (units "/schemas") name)
  | none => []

def deliveryIssues (delivery : Input) (path : Text) : List Issue :=
  ofObject "delivery" delivery path fun fields =>
    let kind := property fields (units "kind")
    let overflow := property fields (units "overflow")
    keyIssues [units "kind", units "overflow"] [] fields path ++
      (issueIf (!kind.isUndefined && !isText "state" kind) (pointer path (units "kind"))
        .unsupportedFeature
        (units (if isText "events" kind then
          "Retained event channels (delivery.kind \"events\") are a V2 feature; " ++
            "V1 supports only \"state\"."
        else "delivery.kind must be \"state\" in V1.")) ++
      issueIf (!overflow.isUndefined && !isText "resync" overflow) (pointer path (units "overflow"))
        .unsupportedFeature (units "delivery.overflow must be \"resync\" in V1."))

def channelIssues (sources schemas : Input) (name : Text) (channel : Input) (path : Text) :
    List Issue :=
  ofObject "A channel" channel path fun fields =>
    let version := property fields (units "version")
    let source := property fields (units "source")
    let paramsSchema := property fields (units "paramsSchema")
    let payloadSchema := property fields (units "payloadSchema")
    let handlersRef := property fields (units "handlersRef")
    let delivery := property fields (units "delivery")
    keyIssues [units "version", units "source", units "paramsSchema", units "payloadSchema",
        units "handlersRef", units "delivery"] [] fields path ++
      (issueIf (!version.isUndefined && !isBetween 1 maxSafeInteger version)
        (pointer path (units "version")) .invalidValue
        (units "version must be a positive integer.") ++
      (issueIf (!source.isUndefined && !source.asText.any fun id => (identifiers sources).contains id)
        (pointer path (units "source")) .unknownReference
        (units "source must name a configured source.") ++
      (referenceIssues schemas (units "paramsSchema") paramsSchema path ++
      (referenceIssues schemas (units "payloadSchema") payloadSchema path ++
      (paramsIssues schemas paramsSchema ++
      (issueIf (!handlersRef.isUndefined && handlersRef.asText ≠ some name)
        (pointer path (units "handlersRef")) .handlersRefMismatch
        (units "handlersRef must equal the channel name in V1.") ++
      whenGiven delivery (deliveryIssues delivery (pointer path (units "delivery")))))))))

/-! ## `limits` -/

def maxTimerMs : ℕ := 2147483647

def maxTokenBytes : ℕ := 8192

/-- Room for the frame that connects, around the longest token. -/
def minControlFrameBytes : ℕ := maxTokenBytes + 1024

def defaultLimits : List (Text × ℕ) :=
  [(units "maxConnections", 1000), (units "maxSubscriptionsPerConnection", 50),
    (units "maxSourceRecordBytes", 1048576), (units "maxDataFrameBytes", 65536),
    (units "maxParamsBytes", 4096), (units "maxPendingFramesPerSubscription", 100),
    (units "maxPendingBytesPerSubscription", 1048576),
    (units "maxPendingBytesPerConnection", 4194304), (units "maxPendingBytesGateway", 67108864),
    (units "maxMapOutputs", 100), (units "maxConcurrentSnapshots", 32),
    (units "handlerTimeoutMs", 2000), (units "snapshotTimeoutMs", 10000),
    (units "receiptTimeoutMs", 5000), (units "maxSyncAttempts", 3),
    (units "maxTraceEntries", 10000), (units "maxTraceBytes", 8388608),
    (units "maxControlFrameBytes", 16384), (units "controlRequestsPerSecond", 20)]

def limitKeys : List Text := defaultLimits.map Prod.fst

def limitIssues (key : Text) (value : Input) (path : Text) : List Issue :=
  if !limitKeys.contains key then
    [⟨pointer path key, .unknownKey, quotedIn (units "Unknown limit ") key (units ".")⟩]
  else if !isBetween 1 maxSafeInteger value then
    [⟨pointer path key, .invalidValue, key ++ units " must be a positive integer."⟩]
  else
    issueIf ((units "Ms").isSuffixOf key && !isBetween 1 maxTimerMs value) (pointer path key)
      .invalidValue
      (key ++ units (" must be at most " ++ toString maxTimerMs ++ " (about 24.8 days)."))

/-- A limit of `resolveLimits`, of overrides that passed their checks. -/
def resolvedLimit (overrides : Fields) (key : Text) : ℕ :=
  match (property overrides key).asNumber with
  | some (.finite x) => x.toRat.num.toNat
  | _ => (defaultLimits.lookup key).getD 0

def orderedLimits : List (Text × Text) :=
  [(units "maxDataFrameBytes", units "maxPendingBytesPerSubscription"),
    (units "maxPendingBytesPerSubscription", units "maxPendingBytesPerConnection"),
    (units "maxPendingBytesPerConnection", units "maxPendingBytesGateway"),
    (units "maxParamsBytes", units "maxControlFrameBytes")]

def consistencyIssues (limit : Text → ℕ) (path : Text) : List Issue :=
  (orderedLimits.flatMap fun (smaller, larger) =>
      issueIf (limit larger < limit smaller) (pointer path smaller) .inconsistentLimits
        (smaller ++ units (" (" ++ toString (limit smaller) ++ ") must not exceed ") ++ larger ++
          units (" (" ++ toString (limit larger) ++ ")."))) ++
    (issueIf (limit (units "maxControlFrameBytes") < minControlFrameBytes)
      (pointer path (units "maxControlFrameBytes")) .inconsistentLimits
      (units ("maxControlFrameBytes must be at least " ++ toString minControlFrameBytes ++
        " so a token of up to " ++ toString maxTokenBytes ++
        " bytes fits in the connection handshake.")) ++
    issueIf (limit (units "maxDataFrameBytes") < 1024) (pointer path (units "maxDataFrameBytes"))
      .inconsistentLimits (units "maxDataFrameBytes must be at least 1024."))

/-- `validateLimits`: an object may be of any kind. -/
def validateLimits (limits : Input) (path : Text) : List Issue :=
  match limits with
  | .undefined | .hole => []
  | .object _ fields =>
      let issues := (ownKeys fields).flatMap fun key => limitIssues key (property fields key) path
      if issues.isEmpty then consistencyIssues (resolvedLimit fields) path else issues
  | _ => [⟨path, .invalidType, units "limits must be an object."⟩]

/-! ## `failureHandling` -/

def isPolicy (value : Input) : Bool :=
  isText "pause" value || isText "quarantine-hold" value || isText "quarantine-resync" value

def isSkipWord (value : Input) : Bool :=
  ["ignore", "discard", "skip", "force-skip", "drop"].any fun word => isText word value

def isRetirement (value : Input) : Bool :=
  isText "generation" value || isText "application" value || isText "operator" value

def topicOf (quarantine : Input) : Option Text :=
  match quarantine with
  | .object true fields => (property fields (units "topic")).asText.filter isKafkaName
  | _ => none

def quarantineIssues (shapes : List (Text × SourceShape)) (quarantine : Input) (path : Text) :
    List Issue :=
  ofObject "quarantine" quarantine path fun fields =>
    let topic := property fields (units "topic")
    let capture := property fields (units "capture")
    unknownKeyIssues [units "topic", units "capture"] fields path ++
      ((if topic.isUndefined then
        [⟨pointer path (units "topic"), .required, units "\"topic\" is required."⟩]
      else
        match topic.asText.filter isKafkaName with
        | none =>
            [⟨pointer path (units "topic"), .invalidValue,
              units "The quarantine topic name may contain letters, digits, '.', '_', and '-'."⟩]
        | some name =>
            (shapes.filter fun shape => shape.2.topics.contains name).map fun shape =>
              ⟨pointer path (units "topic"), .invalidValue,
                quotedIn (units "The quarantine topic must not be an ingestion topic; source ")
                  shape.1 (quotedIn (units " consumes ") name (units "."))⟩) ++
      if capture.isUndefined then
        [⟨pointer path (units "capture"), .required,
          units ("\"capture\" is required; set it to \"full-record\" to capture original " ++
            "record bytes.")⟩]
      else
        issueIf (!isText "full-record" capture) (pointer path (units "capture")) .invalidValue
          (units "capture must be \"full-record\" in V1.1."))

def policyIssues (key : String) (value : Input) (path : Text) : List Issue :=
  issueIf (!value.isUndefined && !isPolicy value) (pointer path (units key)) .invalidValue
    (match value.asText with
    | some text =>
        if isSkipWord value then
          quotedIn [] text (units (" is not a policy: StreamOtter never skips a record silently. " ++
            "Use pause, quarantine-hold, or quarantine-resync."))
        else units (key ++ " must be pause, quarantine-hold, or quarantine-resync.")
    | none => units (key ++ " must be pause, quarantine-hold, or quarantine-resync."))

def advanceLimitIssues (resyncs : Bool) (limit : Input) (path : Text) : List Issue :=
  ofObject "automaticAdvanceLimit" limit path fun fields =>
    unknownKeyIssues [units "incidents", units "windowMs"] fields path ++
      (issueIf (!isBetween 1 20 (property fields (units "incidents")))
        (pointer path (units "incidents")) .invalidValue
        (units "incidents must be an integer from 1 to 20.") ++
      (issueIf (!isBetween 1000 3600000 (property fields (units "windowMs")))
        (pointer path (units "windowMs")) .invalidValue
        (units "windowMs must be an integer from 1000 to 3600000.") ++
      issueIf (!resyncs) path .invalidValue
        (units "automaticAdvanceLimit applies only to a quarantine-resync policy.")))

def retirementIssues (resyncs : Bool) (retirement : Input) (path : Text) : List Issue :=
  if !isRetirement retirement then
    [⟨path, .invalidValue, units "boundaryRetirement must be generation, application, or operator."⟩]
  else
    issueIf (!resyncs) path .invalidValue
      (units "boundaryRetirement applies only to a quarantine-resync policy.")

def policyKeys : List Text :=
  [units "invalidJson", units "invalidPublicPayload", units "transientMapperRetries",
    units "replaySafeMapping", units "automaticAdvanceLimit", units "boundaryRetirement"]

/-- The checks of a source's policies; `kafka` is whether the source is one of Kafka. -/
def sourcePolicyIssues (kafka : Bool) (quarantine : Input) (sourceId : Text) (policy : Input)
    (path root : Text) : List Issue :=
  ofObject "A source failure policy" policy path fun fields =>
    let json := property fields (units "invalidJson")
    let payload := property fields (units "invalidPublicPayload")
    let retries := property fields (units "transientMapperRetries")
    let replaySafe := property fields (units "replaySafeMapping")
    let limit := property fields (units "automaticAdvanceLimit")
    let retirement := property fields (units "boundaryRetirement")
    let quarantines := [json, payload].any fun value => isPolicy value && !isText "pause" value
    let resyncs := [json, payload].any (isText "quarantine-resync")
    let repeats := isNumber (fun x => x = 1 || x = 2) retries
    unknownKeyIssues policyKeys fields path ++
      (policyIssues "invalidJson" json path ++
      (policyIssues "invalidPublicPayload" payload path ++
      (issueIf (quarantines && kafka && (topicOf quarantine).isNone && quarantine.isUndefined)
        (pointer root (units "quarantine")) .required
        (quotedIn (units "Source ") sourceId
          (units " uses a quarantine policy, which requires failureHandling.quarantine.")) ++
      (issueIf (!retries.isUndefined && !isNumber (fun x => x = 0 || x = 1 || x = 2) retries)
        (pointer path (units "transientMapperRetries")) .invalidValue
        (units "transientMapperRetries must be 0, 1, or 2.") ++
      (issueIf (!replaySafe.isUndefined && replaySafe.asBoolean.isNone)
        (pointer path (units "replaySafeMapping")) .invalidType
        (units "replaySafeMapping must be a boolean.") ++
      (issueIf (repeats && replaySafe.asBoolean ≠ some true)
        (pointer path (units "transientMapperRetries")) .invalidValue
        (units ("Transient retries repeat the map handlers; declare replaySafeMapping: true once " ++
          "they are side-effect-free.")) ++
      (whenGiven limit
        (advanceLimitIssues resyncs limit (pointer path (units "automaticAdvanceLimit"))) ++
      whenGiven retirement
        (retirementIssues resyncs retirement (pointer path (units "boundaryRetirement"))))))))))

def policiesIssues (shapes : List (Text × SourceShape)) (quarantine sources : Input)
    (path root : Text) : List Issue :=
  match sources with
  | .undefined | .hole => [⟨path, .required, units "\"sources\" is required."⟩]
  | .object true fields =>
      (ownKeys fields).flatMap fun sourceId =>
        let source := shapes.lookup sourceId
        issueIf source.isNone (pointer path sourceId) .unknownReference
            (quotedIn [] sourceId (units " is not a configured source.")) ++
          sourcePolicyIssues (source.any fun shape => shape.kafka) quarantine sourceId
            (property fields sourceId) (pointer path sourceId) root
  | _ => [⟨path, .invalidType, units "sources must be an object keyed by source ID."⟩]

def validateFailureHandling (shapes : List (Text × SourceShape)) (input : Input) (path : Text) :
    List Issue :=
  whenGiven input
    (ofObject "failureHandling" input path fun fields =>
      let quarantine := property fields (units "quarantine")
      unknownKeyIssues [units "quarantine", units "sources"] fields path ++
        (whenGiven quarantine
          (quarantineIssues shapes quarantine (pointer path (units "quarantine"))) ++
        policiesIssues shapes quarantine (property fields (units "sources"))
          (pointer path (units "sources")) path))

/-! ## The configuration -/

def requiredKeys : List Text :=
  [units "configVersion", units "projectId", units "gateway", units "connections",
    units "sources", units "schemas", units "channels"]

/-- `validateProjectConfig`: the issues that it finds. -/
def validateProjectConfig (parseUrl : Text → Option Url) (input : Input) : List Issue :=
  ofObject "The configuration" input [] fun fields =>
    let configVersion := property fields (units "configVersion")
    let projectId := property fields (units "projectId")
    let gateway := property fields (units "gateway")
    let connections := property fields (units "connections")
    let sources := property fields (units "sources")
    let schemas := property fields (units "schemas")
    let channels := property fields (units "channels")
    keyIssues requiredKeys [units "limits", units "failureHandling"] fields [] ++
      (issueIf (!configVersion.isUndefined && !isNumber (fun x => x = 1) configVersion)
        (units "/configVersion") .unsupportedFeature
        (units "Only configVersion 1 is supported.") ++
      (whenGiven projectId (identifierIssues "projectId" projectId (units "/projectId")) ++
      (whenGiven gateway (gatewayIssues parseUrl gateway (units "/gateway")) ++
      (whenGiven connections
        (entryIssues "connections" "Connection profile IDs" connections (units "/connections")
          fun _ => connectionIssues) ++
      (whenGiven sources
        (entryIssues "sources" "Source IDs" sources (units "/sources")
          (sourceIssues connections sources)) ++
      (issueIf (1 < (kafkaProfiles connections sources).length) (units "/sources")
        .multipleConnections
        (units ("V1 supports one Kafka connection profile per project; list multiple brokers of " ++
          "one cluster in that profile instead.")) ++
      (whenGiven schemas
        (entryIssues "schemas" "Schema IDs" schemas (units "/schemas")
          fun _ => validateSchemaDefinition) ++
      (whenGiven channels
        (entryIssues "channels" "Channel names" channels (units "/channels")
          (channelIssues sources schemas)) ++
      (validateLimits (property fields (units "limits")) (units "/limits") ++
      validateFailureHandling (sourceShapes sources) (property fields (units "failureHandling"))
        (units "/failureHandling"))))))))))

/-- A configuration that `validateProjectConfig` accepts. -/
def Accepted (parseUrl : Text → Option Url) (input : Input) : Prop :=
  validateProjectConfig parseUrl input = []

end StreamOtter.Configuration
