import StreamOtter.FailureVocabulary
import StreamOtter.JsValue
import StreamOtter.ServerSubscription
import Mathlib.Logic.Function.Basic

/-!
# Preparing and admitting one source record

A translation of `#prepare`, `#buildOutput` and `#admit` of the gateway: a record is
decoded, mapped for every channel of its source and validated, its outputs are compared
with each other and with the subscribers' states, and only then is any of them admitted.

What Node and the schemas compute is a parameter: parsing, JSON text sizes, hashes, the
canonical form of parameters and the verdict on a payload.  Record and event IDs, receive
times, traces and log lines decide nothing and are left out.
-/

namespace StreamOtter

structure ValueIssue where
  path : String
  message : String
  deriving DecidableEq, Repr

/-- A channel of the source, with its two schemas as what they decide. -/
structure Channel where
  name : String
  version : ℕ
  canonicalizeParams : JsValue → Except ValueIssue String
  validatePayload : JsValue → Option ValueIssue

/-- `routingKey` encodes these four without loss. -/
structure RoutingKey where
  channel : String
  version : ℕ
  tenantId : String
  params : String
  deriving DecidableEq, Repr

structure RoutedOutput where
  channel : Channel
  key : RoutingKey
  frame : UpdateFrame

namespace RoutedOutput

def revision (output : RoutedOutput) : Revision := output.frame.revision

def dataHash (output : RoutedOutput) : String := output.frame.dataHash

end RoutedOutput

structure OutputProblem where
  failureClass : FailureClass
  message : String
  deriving DecidableEq, Repr

structure Problem where
  stage : Stage
  code : ErrorCode
  failureClass : FailureClass
  reason : String
  channel : Option String
  deriving DecidableEq, Repr

inductive Prepared
  | ok (outputs : List RoutedOutput)
  | problem (problem : Problem)
  | abandon

structure RecordLimits where
  maxSourceRecordBytes : ℕ
  maxDataFrameBytes : ℕ
  maxMapOutputs : ℕ

/-- What the pipeline takes from Node. -/
structure Encoding where
  /-- Strict UTF-8 decoding and `JSON.parse`. -/
  parse : List UInt8 → Option JsValue
  /-- The UTF-8 length of `JSON.stringify`. -/
  jsonBytes : JsValue → ℕ
  /-- The same for an event with this data, and `FRAME_OVERHEAD_BYTES`. -/
  frameBytes : StreamEvent → JsValue → ℕ
  sha256Hex : JsValue → String

/-- The gateway's side of one source: its limits, whether `failureHandling` is configured,
and the source's channels, which the configuration names by distinct keys. -/
structure Pipeline where
  limits : RecordLimits
  encoding : Encoding
  failureHandling : Bool
  channels : List Channel
  distinct : (channels.map Channel.name).Nodup

/-- A record as an adapter hands it over: a fixture's value, or a broker's bytes. -/
structure SourceInput where
  value : Option JsValue
  bytes : Option (List UInt8)

/-- How a map handler call ended; `aborted` is also a call that the gateway's stop overtook. -/
inductive MapOutcome
  | ok (mapped : JsValue) | timeout | error (transient : Bool) (summary : String) | aborted

/-- What the environment answers while a record is mapped: each call, by attempt and
channel, and whether the delay after an attempt ended before the gateway stopped. -/
structure Mapping where
  invoke : ℕ → Channel → MapOutcome
  rested : ℕ → Bool

/-- The accumulators of one attempt. -/
structure Batch where
  outputs : List RoutedOutput
  eligible : Option Problem

/-- How one attempt ended. -/
inductive Attempted
  | mapped (batch : Batch) | problem (problem : Problem) | retry | abandon

/-- The gateway's subscriptions, each under the routing key it was made for. -/
structure Subscriber where
  key : RoutingKey
  subscription : ServerSubscription

/-- `router.get`: the index holds the subscriptions that capture. -/
def routerGet (subscribers : List Subscriber) (key : RoutingKey) : List ServerSubscription :=
  (subscribers.filter fun s => s.key = key && s.subscription.routed).map Subscriber.subscription

def issueDiagnosis (label : String) (issue : ValueIssue) : String :=
  if issue.message = "Property is not allowed." then
    label ++ ": a property is not allowed by the schema"
  else label ++ " " ++ issue.path ++ ": " ++ issue.message

namespace Pipeline

variable (p : Pipeline)

def decode (input : SourceInput) : Except Problem JsValue :=
  let invalid (failureClass : FailureClass) (reason : String) : Except Problem JsValue :=
    .error ⟨.validate, .invalidPayload, failureClass, reason, none⟩
  match input.value with
  | some value =>
      if !value.isJsonValue then invalid .invalidJson "fixture value is not JSON data"
      else if p.limits.maxSourceRecordBytes < p.encoding.jsonBytes value then
        invalid .oversize "record exceeds maxSourceRecordBytes"
      else .ok value
  | none =>
      match input.bytes with
      | none =>
          invalid .tombstone
            "tombstone records have no V1 meaning; represent deletion as explicit state"
      | some bytes =>
          if p.limits.maxSourceRecordBytes < bytes.length then
            invalid .oversize "record exceeds maxSourceRecordBytes"
          else
            match p.encoding.parse bytes with
            | none => invalid .invalidJson "record value is not valid UTF-8 JSON"
            | some value =>
                if !value.isJsonValue then
                  invalid .invalidJson "record value exceeds the nesting limit"
                else .ok value

def outputFields : List String := ["tenantId", "params", "revision", "data"]

/-- `#buildOutput`.  The routing checks come before the payload schema. -/
def buildOutput (channel : Channel) (item : JsValue) : Except OutputProblem RoutedOutput :=
  let routing (message : String) : Except OutputProblem RoutedOutput :=
    .error ⟨.routingInvalid, message⟩
  match item with
  | .object fields =>
      if fields.any fun field => !outputFields.contains field.1 then routing "unexpected field"
      else
        let data := (JsValue.property fields "data").withoutUndefinedProperties
        match JsValue.property fields "tenantId" with
        | .string tenantId =>
            if tenantId = "" || 512 < utf16Length tenantId then
              routing "tenantId must be a non-empty string"
            else
              match channel.canonicalizeParams (JsValue.property fields "params") with
              | .error issue => routing (issueDiagnosis "params" issue)
              | .ok params =>
                  match (JsValue.property fields "revision").revision? with
                  | none => routing "revision must be a canonical unsigned decimal string"
                  | some revision =>
                      if !data.isJsonValue then routing "data must be JSON"
                      else
                        let event : StreamEvent := ⟨channel.name, channel.version, .update, revision⟩
                        let bytes := p.encoding.frameBytes event data
                        if p.limits.maxDataFrameBytes < bytes then
                          routing "the data frame exceeds maxDataFrameBytes"
                        else
                          match channel.validatePayload data with
                          | some issue => .error ⟨.payloadSchema, issueDiagnosis "data" issue⟩
                          | none =>
                              .ok ⟨channel, ⟨channel.name, channel.version, tenantId, params⟩,
                                ⟨⟨event, bytes, p.encoding.sha256Hex data⟩, rfl⟩⟩
        | _ => routing "tenantId must be a non-empty string"
  | _ => routing "must be an object"

/-- The outputs of one channel.  With failure handling an eligible problem does not end the
evaluation, and the first of them is kept. -/
def mapOutputs (channel : Channel) : ℕ → List JsValue → Batch → Except Problem Batch
  | _, [], batch => .ok batch
  | index, item :: items, batch =>
      match p.buildOutput channel item with
      | .error problem =>
          let found : Problem := ⟨.map, .invalidPayload, problem.failureClass,
            "output " ++ toString index ++ ": " ++ problem.message, some channel.name⟩
          if !p.failureHandling || decide (¬problem.failureClass.Eligible) then .error found
          else
            mapOutputs channel (index + 1) items
              { batch with eligible := batch.eligible.or (some found) }
      | .ok output =>
          mapOutputs channel (index + 1) items { batch with outputs := batch.outputs ++ [output] }

/-- One attempt over the source's channels; `again` says whether the retry budget allows
another one. -/
def mapChannels (invoke : Channel → MapOutcome) (again : Bool) :
    List Channel → Batch → Attempted
  | [], batch => .mapped batch
  | channel :: rest, batch =>
      match invoke channel with
      | .aborted => .abandon
      | .timeout =>
          .problem ⟨.map, .timeout, .mapperTimeout, "map handler timed out", some channel.name⟩
      | .error transient summary =>
          if transient && again then .retry
          else
            .problem ⟨.map, .handlerFailed,
              if transient then .mapperTransient else .mapperError,
              "map handler threw " ++ summary, some channel.name⟩
      | .ok (.array items) =>
          if p.limits.maxMapOutputs < items.length then
            .problem ⟨.map, .invalidPayload, .routingInvalid,
              "map returned more than " ++ toString p.limits.maxMapOutputs ++ " outputs",
              some channel.name⟩
          else
            match p.mapOutputs channel 0 items batch with
            | .error problem => .problem problem
            | .ok batch => mapChannels invoke again rest batch
      | .ok _ =>
          .problem ⟨.map, .invalidPayload, .routingInvalid, "map must return an array",
            some channel.name⟩

/-- The attempts: how the last one ended, and which one that was. -/
def mapRecord (mapping : Mapping) : ℕ → ℕ → Attempted × ℕ
  | retries, attempt =>
      match p.mapChannels (mapping.invoke attempt) (0 < retries) p.channels ⟨[], none⟩ with
      | .retry =>
          match retries with
          | 0 => (.abandon, attempt)
          | retries + 1 =>
              if mapping.rested attempt then mapRecord mapping retries (attempt + 1)
              else (.abandon, attempt)
      | attempted => (attempted, attempt)

def conflictProblem (output : RoutedOutput) : Problem :=
  ⟨.queue, .revisionConflict, .revisionConflict, "the same revision was mapped to different data",
    some output.channel.name⟩

/-- The scan's table keeps the first output of each key's highest revision. -/
def remember (seen : RoutingKey → Option Tail) (output : RoutedOutput) :
    RoutingKey → Option Tail :=
  if (seen output.key).all (fun e => e.revision < output.revision) then
    Function.update seen output.key (some ⟨output.revision, output.dataHash⟩)
  else seen

/-- The conflict scan; `seen` holds one revision of each routing key. -/
def findConflict (router : RoutingKey → List ServerSubscription) :
    (RoutingKey → Option Tail) → List RoutedOutput → Option Problem
  | _, [] => none
  | seen, output :: rest =>
      let earlier := seen output.key
      if earlier.any (fun e => e.revision = output.revision && e.dataHash != output.dataHash) ||
          (router output.key).any (ServerSubscription.conflicts output.revision output.dataHash)
      then some (conflictProblem output)
      else
        findConflict router (remember seen output) rest

/-- What follows the mapping. -/
def conclude (router : RoutingKey → List ServerSubscription) (batch : Batch) : Prepared :=
  match findConflict router (fun _ => none) batch.outputs with
  | some problem => .problem problem
  | none =>
      match batch.eligible with
      | some problem => .problem problem
      | none => .ok batch.outputs

/-- The rest of `#prepare`, after the attempts. -/
def afterAttempts (router : RoutingKey → List ServerSubscription) : Attempted → Prepared
  | .mapped batch => conclude router batch
  | .problem problem => .problem problem
  | .retry | .abandon => .abandon

/-- `#prepare`. -/
def prepare (input : SourceInput) (retries : ℕ) (mapping : Mapping)
    (router : RoutingKey → List ServerSubscription) : Prepared :=
  match p.decode input with
  | .error problem => .problem problem
  | .ok _ => afterAttempts router (p.mapRecord mapping retries 0).1

theorem prepare_decoded
    {input : SourceInput} {value : JsValue} (hdecoded : p.decode input = .ok value)
    (retries : ℕ) (mapping : Mapping) (router : RoutingKey → List ServerSubscription) :
    p.prepare input retries mapping router =
      afterAttempts router (p.mapRecord mapping retries 0).1 := by
  unfold prepare
  simp only [hdecoded]

end Pipeline

section Admission

variable (limits : Limits) (readings : ℕ → Subscriber → Readings)

/-- One round of `#admit`: every subscription routed under the output's key is offered its
frame. -/
def admitOutput (index : ℕ) (output : RoutedOutput) (subscribers : List Subscriber) :
    List Subscriber :=
  subscribers.map fun s =>
    if s.key = output.key && s.subscription.routed then
      { s with subscription :=
          (s.subscription.admitFrame limits (readings index s) output.frame.toPendingFrame).1 }
    else s

/-- `#admit`, whose outputs are numbered for the transport's answers. -/
def admitOutputs : ℕ → List RoutedOutput → List Subscriber → List Subscriber
  | _, [], subscribers => subscribers
  | index, output :: rest, subscribers =>
      admitOutputs (index + 1) rest (admitOutput limits readings index output subscribers)

/-- The end of `#process`: the outputs it admits, and the subscribers after that. -/
def processPrepared (prepared : Prepared) (subscribers : List Subscriber) :
    List RoutedOutput × List Subscriber :=
  match prepared with
  | .ok outputs => (outputs, admitOutputs limits readings 0 outputs subscribers)
  | .problem _ | .abandon => ([], subscribers)

end Admission

end StreamOtter
