import StreamOtter.IncidentSteps
import StreamOtter.Quarantine
import StreamOtter.MemoryIncidentStore
import StreamOtter.IsoTime

/-!
# How the failure service uses its store

The settings of a gateway process, what the failure service reads off a delivered record, and
the store as the service calls it: any call may throw instead of being served, and each reading
of the clock is the next one given.  A process that dies between two calls is one whose later
calls all throw.
-/

namespace StreamOtter

open FailureStore ByteCodec

/-! ### Settings -/

/-- `automaticAdvanceLimit`, as the configuration is validated. -/
structure AdvanceLimit where
  incidents : ℕ
  windowMs : ℕ
  incidents_range : 1 ≤ incidents ∧ incidents ≤ 20
  windowMs_range : 1000 ≤ windowMs ∧ windowMs ≤ 3600000

/-- `DEFAULT_AUTOMATIC_ADVANCE_LIMIT`. -/
def defaultAdvanceLimit : AdvanceLimit where
  incidents := 5
  windowMs := 60000
  incidents_range := by decide
  windowMs_range := by decide

inductive BoundaryRetirement
  | generation | application | operator
  deriving DecidableEq, Repr

/-- `ResolvedSourcePolicy`. -/
structure SourcePolicy where
  invalidJson : FailurePolicy
  invalidPublicPayload : FailurePolicy
  replaySafeMapping : Bool
  automaticAdvanceLimit : AdvanceLimit
  boundaryRetirement : BoundaryRetirement

def policyFor (policy : SourcePolicy) : FailureClass → FailurePolicy
  | .invalidJson => policy.invalidJson
  | .payloadSchema => policy.invalidPublicPayload
  | _ => .pause

/-- A configured source: `guarded` and `retires` say which recovery handlers it has. -/
structure SourceSettings where
  kind : SourceKind
  generation : String
  policy : SourcePolicy
  guarded : Bool
  retires : Bool

/-- What a gateway process is started with. -/
structure ServiceSettings where
  sources : List String
  source : String → SourceSettings
  clusterIds : String → Option String
  quarantine : Bool
  maxSourceRecordBytes : ℕ
  fingerprints : Fingerprints

/-- The texts that the service derives from data.  `sourceRecordId` is a hash of the canonical
JSON of its arguments, of which no two have the same one. -/
structure RecordTexts where
  sha256Hex : Bytes → String
  canonicalJson : JsValue → String
  envelope : IncidentRecord → String
  sourceRecordId : String → String → Position → String
  sourceRecordId_inj : ∀ {sourceId sourceId' generation generation' : String}
    {position position' : Position},
    sourceRecordId sourceId generation position = sourceRecordId sourceId' generation' position' →
      sourceId = sourceId' ∧ generation = generation' ∧ position = position'

def RecordTexts.failureId (texts : RecordTexts) (sourceId generation : String)
    (position : Position) : String :=
  "f1:" ++ texts.sourceRecordId sourceId generation position

/-- Each character is marked, and the end of the text. -/
def markedText (text : List Char) : List Char := text.flatMap (fun c => ['.', c]) ++ ['!']

theorem markedText_append_inj {text text' rest rest' : List Char}
    (h : markedText text ++ rest = markedText text' ++ rest') : text = text' ∧ rest = rest' := by
  induction text generalizing text' with
  | nil =>
      cases text' with
      | nil => simpa [markedText] using h
      | cons c' text' => simp [markedText] at h
  | cons c text ih =>
      cases text' with
      | nil => simp [markedText] at h
      | cons c' text' =>
          have hsplit : c = c' ∧ markedText text ++ rest = markedText text' ++ rest' := by
            simpa [markedText] using h
          obtain ⟨rfl, htail⟩ := hsplit
          obtain ⟨rfl, hrest⟩ := ih htail
          exact ⟨rfl, hrest⟩

def markedPosition : Position → List Char
  | .kafka topic partition offset =>
      'k' :: (markedText topic.toList ++
        (markedText (List.replicate partition 'x') ++ markedText (List.replicate offset 'x')))
  | .fixture index => 'f' :: markedText (List.replicate index 'x')

theorem markedPosition_inj {position position' : Position}
    (h : markedPosition position = markedPosition position') : position = position' := by
  cases position with
  | kafka topic partition offset =>
      cases position' with
      | fixture index => simp [markedPosition] at h
      | kafka topic' partition' offset' =>
          obtain ⟨htopic, hrest⟩ := markedText_append_inj (List.cons.inj h).2
          obtain ⟨hpartition, hrest⟩ := markedText_append_inj hrest
          obtain ⟨hoffset, -⟩ := @markedText_append_inj _ _ [] [] (by simpa using hrest)
          have hpartitions := congrArg List.length hpartition
          have hoffsets := congrArg List.length hoffset
          simp only [List.length_replicate] at hpartitions hoffsets
          rw [String.toList_inj.mp htopic, hpartitions, hoffsets]
  | fixture index =>
      cases position' with
      | kafka => simp [markedPosition] at h
      | fixture index' =>
          obtain ⟨hindex, -⟩ :=
            @markedText_append_inj _ _ [] [] (by simpa [markedPosition] using h)
          have hindexes := congrArg List.length hindex
          simp only [List.length_replicate] at hindexes
          rw [hindexes]

/-- Texts that hash nothing: they are told apart by what they are made of. -/
def plainTexts : RecordTexts where
  sha256Hex bytes := String.ofList (bytes.map fun byte => Char.ofNat byte.toNat)
  canonicalJson _ := "\x7b\x7d"
  envelope _ := "\x7b\x7d"
  sourceRecordId sourceId generation position :=
    String.ofList
      (markedText sourceId.toList ++ (markedText generation.toList ++ markedPosition position))
  sourceRecordId_inj := by
    intro sourceId sourceId' generation generation' position position' h
    obtain ⟨hsource, hrest⟩ := markedText_append_inj (String.ofList_injective h)
    obtain ⟨hgeneration, hposition⟩ := markedText_append_inj hrest
    exact ⟨String.toList_inj.mp hsource, String.toList_inj.mp hgeneration,
      markedPosition_inj hposition⟩

/-! ### Delivered records -/

/-- `SourceInput`: a fixture's value is its JSON text, and `none` is an absent field. -/
structure Delivery where
  key : Option String
  keyBytes : Option (Option Bytes)
  value : Option String
  bytes : Option (Option Bytes)
  headers : List HeaderBytes
  timestamp : Option String
  position : Position
  deriving DecidableEq

def rawEvidence (input : Delivery) : Option RawEvidence :=
  let key := match input.keyBytes with
    | some keyBytes => keyBytes
    | none => input.key.map utf8
  match input.bytes, input.value with
  | some bytes, _ => some ⟨key, bytes, input.headers⟩
  | none, some value => some ⟨key, some (utf8 value), input.headers⟩
  | none, none => none

def maxCapturedKeyAndHeaderBytes : ℕ := 64 * 1024

def keyAndHeaderBytes (evidence : RawEvidence) : ℕ :=
  (evidence.key.map (·.length)).getD 0 +
    (evidence.headers.map fun header => (utf8 header.name).length + header.value.length).sum

/-- `ProcessOutcome` of kind `pause`. -/
structure Pause where
  code : ErrorCode
  failureClass : FailureClass
  stage : Option Stage
  channel : Option String
  diagnosis : Option String

/-! ### Texts -/

def positionMovedDiagnosis : String := "Source progress moved"

def clusterMismatchPhrase : String := "Kafka cluster mismatch"

def pausedAgainAt : String := "the source paused again at "

def evidenceConflictDiagnosis : String :=
  "The redelivered record's bytes differ from the evidence captured for the same position."

def evidenceConflictMessage : String :=
  evidenceConflictDiagnosis ++
    " This is an integrity failure: the source stays held and is never quarantined or skipped."

def correctedRecordResolution : String := "a corrected record at the same position processed"

def clusterMismatchDiagnosis (captured : String) : Option String → String
  | none =>
      clusterMismatchPhrase ++ ": the incident was captured on cluster " ++ captured ++
        ", but the source now reads a cluster whose ID is unknown. The gateway reads the cluster ID only while some class on the source uses a quarantine policy, so it can't confirm the source still reads the same cluster: the source stays held and is never advanced. If it does, restore a quarantining policy and restart; if it moved to another cluster, change its generation and rebaseline."
  | some current =>
      clusterMismatchPhrase ++ ": the incident was captured on cluster " ++ captured ++
        ", but the source now reads cluster " ++ current ++
        ". The same position may name a different record, so this is an integrity failure: the source stays held and is never advanced. If the source moved to another cluster, change its generation and rebaseline."

def describePosition : Position → String
  | .kafka topic partition offset =>
      topic ++ "/" ++ toString partition ++ " offset " ++ toString offset
  | .fixture index => "fixture record " ++ toString index

def errorCodeText : ErrorCode → String
  | .unauthenticated => "UNAUTHENTICATED"
  | .forbidden => "FORBIDDEN"
  | .invalidParams => "INVALID_PARAMS"
  | .channelNotFound => "CHANNEL_NOT_FOUND"
  | .channelVersionUnsupported => "CHANNEL_VERSION_UNSUPPORTED"
  | .sourceUnavailable => "SOURCE_UNAVAILABLE"
  | .invalidPayload => "INVALID_PAYLOAD"
  | .overloaded => "OVERLOADED"
  | .resyncRequired => "RESYNC_REQUIRED"
  | .unsupportedCapability => "UNSUPPORTED_CAPABILITY"
  | .invalidRequest => "INVALID_REQUEST"
  | .configInvalid => "CONFIG_INVALID"
  | .timeout => "TIMEOUT"
  | .cancelled => "CANCELLED"
  | .clientClosed => "CLIENT_CLOSED"
  | .handlerFailed => "HANDLER_FAILED"
  | .revisionConflict => "REVISION_CONFLICT"
  | .traceCursorExpired => "TRACE_CURSOR_EXPIRED"
  | .internal => "INTERNAL"

def defaultDiagnosis (failureClass : FailureClass) (code : ErrorCode) : String :=
  failureClassText failureClass ++ " (" ++ errorCodeText code ++ ")"

def isValidateClass (failureClass : FailureClass) : Bool :=
  failureClass = .invalidJson || failureClass = .tombstone || failureClass = .oversize

/-! ### What the service asks of an incident -/

/-- `WATCHED_PROGRESS`. -/
def watchedProgress (progress : ProgressState) : Bool :=
  match progress with
  | .held | .retrying | .advancePending | .uncertain => true
  | .advanced | .processed => false

/-- Whether the record is still at its position, with no advance begun. -/
def atPosition (progress : ProgressState) : Bool :=
  match progress with
  | .held | .retrying => true
  | _ => false

namespace ServiceSettings

variable (settings : ServiceSettings)

/-- `#clusterMismatch`. -/
def clusterMismatch (sourceId : String) (incident : IncidentRecord) : Option String :=
  match (settings.source sourceId).kind, incident.clusterId with
  | .kafka, some captured =>
      if settings.clusterIds sourceId = some captured then none
      else some (clusterMismatchDiagnosis captured (settings.clusterIds sourceId))
  | _, _ => none

/-- `#knownClusterMismatch`. -/
def knownClusterMismatch (sourceId : String) (incident : IncidentRecord) : Option String :=
  match incident.position, incident.clusterId, settings.clusterIds sourceId with
  | .kafka _ _ _, some captured, some current =>
      if current = captured then none else some (clusterMismatchDiagnosis captured (some current))
  | _, _, _ => none

/-- `#summarize`. -/
def summarize (texts : RecordTexts) (sourceId : String) (raw : Option RawEvidence)
    (policy : FailurePolicy) : EvidenceSummary :=
  match raw with
  | none => ⟨.none, .unavailable, none, none, 0, ""⟩
  | some evidence =>
      { location :=
          if policy = .pause then .none
          else if (settings.source sourceId).kind = .fixture then .local else .kafka
        completeness :=
          if (evidence.value.map (·.length)).getD 0 ≤ settings.maxSourceRecordBytes ∧
              keyAndHeaderBytes evidence ≤ maxCapturedKeyAndHeaderBytes then .complete
          else .incomplete
        valueBytes := evidence.value.map (·.length)
        keyBytes := evidence.key.map (·.length)
        headerCount := evidence.headers.length
        hash := evidence.evidenceHash texts.sha256Hex }

end ServiceSettings

/-! ### The store, call by call -/

structure StoreAccess where
  journal : Journal
  /-- The local evidence spool. -/
  evidence : String → Option RawEvidence
  /-- What the coming calls throw, if anything. -/
  faults : List (Option String)
  readings : List ℕ
  now : ℕ
  journalError : Option String

namespace StoreAccess

/-- `Date.now()`. -/
def dateNow (s : StoreAccess) : ℕ × StoreAccess :=
  match s.readings with
  | [] => (s.now, s)
  | reading :: rest => (reading, { s with readings := rest, now := reading })

def nowIso (s : StoreAccess) : String × StoreAccess :=
  (IsoTime.toISOString s.dateNow.1, s.dateNow.2)

def fault (s : StoreAccess) : Option String × StoreAccess :=
  match s.faults with
  | [] => (none, s)
  | fault :: rest => (fault, { s with faults := rest })

/-- A query of the store. -/
def read {α : Type} (query : Journal → α) (s : StoreAccess) : Except String α × StoreAccess :=
  match s.fault with
  | (some message, s) => (.error message, s)
  | (none, s) => (.ok (query s.journal), s)

def thrown (message : String) : Refusal := ⟨none, message, none, none, []⟩

/-- A call that changes the store. -/
def call (c : StoreCall) (s : StoreAccess) : Except Refusal StoreReply × StoreAccess :=
  match s.fault with
  | (some message, s) => (.error (thrown message), s)
  | (none, s) =>
      match s.journal.call MemoryIncidentStore.codeUnitLe maxOperations c with
      | .error refusal => (.error refusal, s)
      | .ok (reply, journal) => (.ok reply, { s with journal := journal })

/-- `instanceof StaleRevisionError`. -/
def isStale (refusal : Refusal) : Bool := refusal.reason = some "stale-revision"

/-- `#update`: the incident as it is after the change, or the one given when it was not made. -/
def update (record : IncidentRecord) (patch : IncidentPatch) (event : IncidentEventName)
    (detail : String) (s : StoreAccess) : IncidentRecord × StoreAccess :=
  let (time, s) := s.nowIso
  match s.call (.update record.failureId record.revision patch ⟨time, event, some detail, none⟩) with
  | (.ok (.updated updated), s) => (updated, s)
  | (.ok _, s) => (record, s)
  | (.error refusal, s) =>
      (record, if isStale refusal then s else { s with journalError := some refusal.message })

end StoreAccess

end StreamOtter
