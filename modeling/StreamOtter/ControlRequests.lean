import StreamOtter.ExpiringCache
import StreamOtter.RoutingKeys
import StreamOtter.TraceBuffer

/-!
# Control requests

A translation of `ClientSession.#control` and `#remember` of the gateway, and of the
operations behind them: `handleSubscribe`, `handleUnsubscribe` and `handleResync`.  A request
that is repeated while its result is remembered changes nothing and has the first answer.
-/

namespace StreamOtter.Control

open Ecma Value Contracts Routing

/-! ## Texts and identifiers -/

def isLetter (u : UInt16) : Bool :=
  (0x41 ≤ u.toNat && u.toNat ≤ 0x5a) || (0x61 ≤ u.toNat && u.toNat ≤ 0x7a)

def isHexUnit (u : UInt16) : Bool :=
  isDigit u || (0x41 ≤ u.toNat && u.toNat ≤ 0x46) || (0x61 ≤ u.toNat && u.toNat ≤ 0x66)

/-- `IDENTIFIER_PATTERN`. -/
def isIdentifier : Text → Bool
  | [] => false
  | first :: rest =>
      isLetter first && rest.length ≤ 63 &&
        rest.all fun u => isLetter u || isDigit u || u = 0x5f || u = 0x2d

/-- `UUID_PATTERN`. -/
def isUuid (text : Text) : Bool :=
  text.length = 36 && text.zipIdx.all fun unit =>
    if [8, 13, 18, 23].contains unit.2 then unit.1 = 0x2d else isHexUnit unit.1

/-- A property that is a UUID. -/
def uuidField (fields : Fields) (name : String) : Option Text :=
  match property fields (units name) with
  | .string text => if isUuid text then some text else none
  | _ => none

inductive ControlEvent
  | subscribe | unsubscribe | resync
  deriving DecidableEq, Repr

def ControlEvent.name : ControlEvent → Text
  | .subscribe => units "so:subscribe"
  | .unsubscribe => units "so:unsubscribe"
  | .resync => units "so:resync"

/-- `SUBSCRIBE_KEYS` and `CONTROL_KEYS`. -/
def ControlEvent.allowedKeys : ControlEvent → List Text
  | .subscribe =>
      [units "requestId", units "subscriptionId", units "channel", units "channelVersion",
        units "params"]
  | .unsubscribe | .resync => [units "requestId", units "subscriptionId"]

def requestCacheEntries : ℕ := 256

def requestCacheTtlMs : ℕ := 60000

/-! ## Sessions -/

/-- The answer to a control request; without a message, an error has the one of its code. -/
inductive Result
  | ok (requestId : Text) (subscriptionId : Option Text)
  | error (requestId : Text) (code : ErrorCode) (message : Option Text)

def Result.isError : Result → Bool
  | .ok _ _ => false
  | .error _ _ _ => true

/-- `#err`. -/
def err (code : ErrorCode) (requestId : Text) (message : Text) : Result :=
  .error requestId code (some message)

structure HeldSubscription where
  id : Text
  channel : ChannelRuntime
  params : Value
  canonicalParams : Text

abbrev Subscriptions := InsertionMap HeldSubscription.id

/-- `JSON.stringify([channel.name, channel.version, canonical])`. -/
def contractKey (channel : ChannelRuntime) (canonicalParams : Text) : Text :=
  (Json.array [.string channel.name, .number channel.version, .string canonicalParams]).stringify
    PlainNumber.numeral

structure CachedResult where
  fingerprint : Text
  result : Result

structure Session where
  closed : Bool
  subscriptions : Subscriptions
  requests : ExpiringCache Text CachedResult

def Session.opened : Session := ⟨false, InsertionMap.empty, InsertionMap.empty⟩

/-- What a session reads of the gateway that owns it. -/
structure Gateway where
  channel : Text → Option ChannelRuntime
  production : Bool
  maxParamsBytes : ℕ
  maxSubscriptionsPerConnection : ℕ

inductive Effect
  | trace (input : TraceInput)
  | start (subscriptionId requestId : Text)
  | requestResync (subscriptionId requestId : Text)
  | dispose (subscriptionId : Text)

/-! ## Operations -/

/-- What an operation leaves. -/
structure Operated where
  result : Result
  subscriptions : Subscriptions
  effects : List Effect

section Operations

variable (g : Gateway) (subscriptions : Subscriptions) (fields : Fields) (requestId : Text)

def refused (code : ErrorCode) (message : Option Text) (effects : List Effect) : Option Operated :=
  some ⟨.error requestId code message, subscriptions, effects⟩

/-- A version that is a safe integer from 1. -/
def versionField : Option FiniteNumber :=
  match property fields (units "channelVersion") with
  | .number (.finite x) => if isSafeInteger (.finite x) && 1 ≤ x.toRat then some x else none
  | _ => none

def rejectedTrace (code : String) (channel : Option Text) (subscriptionId : Text) : Effect :=
  .trace ⟨requestId, .authorize, .rejected, none, channel, some subscriptionId, some (units code)⟩

/-- The end of `handleSubscribe`, of a channel that exists in the version. -/
def subscribeTo (channel : ChannelRuntime) (subscriptionId : Text) (params : Value) :
    Option Operated :=
  match canonicalizeParams channel.paramsSchema.schema params with
  | .thrown _ => none
  | .issue issue =>
      let trace := rejectedTrace requestId "INVALID_PARAMS" (some channel.name) subscriptionId
      if g.production then refused subscriptions requestId .forbidden none [trace]
      else
        refused subscriptions requestId .invalidParams
          (some (units "The channel parameters are invalid at " ++ issue.path ++ units "."))
          [trace]
  | .ok normalized canonical =>
      match subscriptions.get subscriptionId with
      | some held =>
          if contractKey held.channel held.canonicalParams ≠ contractKey channel canonical then
            refused subscriptions requestId .invalidRequest
              (some (units "This subscription ID is already used for a different contract.")) []
          else some ⟨.ok requestId (some subscriptionId), subscriptions, []⟩
      | none =>
          some ⟨.ok requestId (some subscriptionId),
            subscriptions.set ⟨subscriptionId, channel, normalized, canonical⟩,
            [.start subscriptionId requestId]⟩

/-- The lookup of the channel in `handleSubscribe`. -/
def subscribeNamed (channelName : Text) (version : FiniteNumber) (subscriptionId : Text)
    (params : Value) : Option Operated :=
  match if isIdentifier channelName then g.channel channelName else none with
  | none =>
      refused subscriptions requestId .forbidden none
        [rejectedTrace requestId "CHANNEL_NOT_FOUND" none subscriptionId]
  | some channel =>
      if channel.version.number ≠ version then
        refused subscriptions requestId .forbidden none
          [rejectedTrace requestId "CHANNEL_VERSION_UNSUPPORTED" (some channel.name) subscriptionId]
      else subscribeTo g subscriptions requestId channel subscriptionId params

/-- The checks of `handleSubscribe` that do not depend on the channel. -/
def subscribeWith (channelName : Text) (version : FiniteNumber) (subscriptionId : Text)
    (params : Value) : Option Operated :=
  match canonicalJson params maxNestingDepth with
  | .error _ => refused subscriptions requestId .invalidParams none []
  | .ok encoded =>
      let existing := subscriptions.get subscriptionId
      if g.maxParamsBytes < utf8ByteLength encoded then
        refused subscriptions requestId .invalidParams
          (some (units "The channel parameters are too large.")) []
      else if existing.any fun held =>
          held.channel.name ≠ channelName || held.channel.version.number ≠ version then
        refused subscriptions requestId .invalidRequest
          (some (units "This subscription ID is already used for a different contract.")) []
      else if existing.isNone &&
          g.maxSubscriptionsPerConnection ≤ subscriptions.values.length then
        refused subscriptions requestId .overloaded
          (some (units "This connection has reached its subscription limit.")) []
      else subscribeNamed g subscriptions requestId channelName version subscriptionId params

/-- The operation of `handleSubscribe`. -/
def subscribe : Option Operated :=
  match uuidField fields "subscriptionId" with
  | none =>
      refused subscriptions requestId .invalidRequest
        (some (units "subscriptionId must be a UUID.")) []
  | some subscriptionId =>
      match property fields (units "channel"), versionField fields with
      | .string channelName, some version =>
          match property fields (units "params") with
          | .object params =>
              subscribeWith g subscriptions requestId channelName version subscriptionId
                (.object params)
          | _ => refused subscriptions requestId .invalidParams none []
      | _, _ =>
          refused subscriptions requestId .invalidRequest
            (some (units "channel and channelVersion are required.")) []

/-- The operation of `handleUnsubscribe`. -/
def unsubscribe : Option Operated :=
  match uuidField fields "subscriptionId" with
  | none =>
      refused subscriptions requestId .invalidRequest
        (some (units "subscriptionId must be a UUID.")) []
  | some subscriptionId =>
      if (subscriptions.get subscriptionId).isSome then
        some ⟨.ok requestId none, subscriptions.filter fun held => held.id ≠ subscriptionId,
          [.dispose subscriptionId]⟩
      else some ⟨.ok requestId none, subscriptions, []⟩

/-- The operation of `handleResync`. -/
def resync : Option Operated :=
  match uuidField fields "subscriptionId" with
  | none =>
      refused subscriptions requestId .invalidRequest
        (some (units "subscriptionId must be a UUID.")) []
  | some subscriptionId =>
      if (subscriptions.get subscriptionId).isSome then
        some ⟨.ok requestId none, subscriptions, [.requestResync subscriptionId requestId]⟩
      else
        refused subscriptions requestId .invalidRequest
          (some (units "The subscription does not exist on this connection.")) []

/-- The operation of an event; without a result, it threw. -/
def operation : ControlEvent → Option Operated
  | .subscribe => subscribe g subscriptions fields requestId
  | .unsubscribe => unsubscribe subscriptions fields requestId
  | .resync => resync subscriptions fields requestId

end Operations

/-- Parameters that their channel accepted can be encoded, so no operation throws. -/
theorem subscribeTo_isSome (g : Gateway) (subscriptions : Subscriptions) (requestId : Text)
    (channel : ChannelRuntime) (subscriptionId : Text) (params : Value) :
    (subscribeTo g subscriptions requestId channel subscriptionId params).isSome := by
  unfold subscribeTo
  split
  · rename_i message hthrown
    cases haccepted : validateValue channel.paramsSchema.schema params with
    | some issue =>
        unfold canonicalizeParams at hthrown
        rw [haccepted] at hthrown
        cases hthrown
    | none =>
        obtain ⟨_, _, hok, -, -⟩ := canonicalizeParams_accepted channel.paramsSchema haccepted
        rw [hthrown] at hok
        cases hok
  · dsimp only
    split <;> rfl
  · split
    · split <;> rfl
    · rfl

theorem subscribeWith_isSome (g : Gateway) (subscriptions : Subscriptions)
    (requestId channelName : Text) (version : FiniteNumber) (subscriptionId : Text)
    (params : Value) :
    (subscribeWith g subscriptions requestId channelName version subscriptionId params).isSome := by
  unfold subscribeWith
  split
  · rfl
  · dsimp only
    split
    · rfl
    · split
      · rfl
      · split
        · rfl
        · unfold subscribeNamed
          split
          · rfl
          · split
            · rfl
            · exact subscribeTo_isSome _ _ _ _ _ _

theorem operation_isSome (g : Gateway) (subscriptions : Subscriptions) (fields : Fields)
    (requestId : Text) (event : ControlEvent) :
    (operation g subscriptions fields requestId event).isSome := by
  cases event with
  | subscribe =>
      rw [operation, subscribe]
      split
      · rfl
      · split
        · split
          · exact subscribeWith_isSome _ _ _ _ _ _ _
          · rfl
        · rfl
  | unsubscribe =>
      rw [operation, unsubscribe]
      split
      · rfl
      · split <;> rfl
  | resync =>
      rw [operation, resync]
      split
      · rfl
      · split <;> rfl

/-! ## Requests -/

/-- A control request with an acknowledgement callback, as the session finds it: whether output
is stalled, whether the rate allows it, the time and a fresh ID. -/
structure ControlRequest where
  event : ControlEvent
  payload : Value
  stalled : Bool
  allowed : Bool
  now : ℕ
  generatedId : Text

/-- The request ID of a payload that has one. -/
def requestIdOf : Value → Option Text
  | .object fields => uuidField fields "requestId"
  | _ => none

inductive Decision
  | answered (result : Result)
  | performed (requestId fingerprint : Text) (operated : Operated)
  | thrown

namespace ControlRequest

variable (r : ControlRequest)

/-- The unsubscribing of a subscription that is held is never limited. -/
def exemptFromRate (s : Session) : Bool :=
  match r.event, r.payload with
  | .unsubscribe, .object fields =>
      match property fields (units "subscriptionId") with
      | .string subscriptionId => (s.subscriptions.get subscriptionId).isSome
      | _ => false
  | _, _ => false

def rateRefusal (requestId : Text) : Result :=
  err .overloaded requestId (units "Too many control requests; slow down.")

/-- `canonicalJson([event, payload])`. -/
def fingerprint : Except String Text :=
  canonicalJson (.array [.string r.event.name, r.payload]) maxNestingDepth

/-- The cached result of a request, or its operation. -/
def cachedOrPerformed (g : Gateway) (s : Session) (fields : Fields) (requestId text : Text) :
    Decision :=
  match s.requests.fresh r.now requestId with
  | some cached =>
      .answered (if cached.fingerprint = text then cached.result
        else err .invalidRequest requestId
          (units "This requestId was already used for a different request."))
  | none =>
      match operation g s.subscriptions fields requestId r.event with
      | some operated => .performed requestId text operated
      | none => .thrown

/-- The checks of a request with an ID. -/
def checked (g : Gateway) (s : Session) (fields : Fields) (requestId : Text) : Decision :=
  match (ownKeys fields).find? fun key => !r.event.allowedKeys.contains key with
  | some key =>
      .answered (err .unsupportedCapability requestId
        (units "\"" ++ key.take 64 ++ units "\" is not supported by protocol version 1."))
  | none =>
      match r.fingerprint with
      | .error _ =>
          .answered (err .invalidRequest requestId (units "The request is not JSON data."))
      | .ok text => r.cachedOrPerformed g s fields requestId text

/-- `#control`, up to its answer. -/
def decision (g : Gateway) (s : Session) : Decision :=
  let answerId := (requestIdOf r.payload).getD r.generatedId
  if !r.exemptFromRate s && !r.allowed then .answered (rateRefusal answerId)
  else
    match r.payload, requestIdOf r.payload with
    | .object fields, some requestId => r.checked g s fields requestId
    | _, _ =>
        .answered (err .invalidRequest answerId (units "requestId must be a UUID."))

end ControlRequest

/-- What a message leaves: the session, the acknowledgement and what was done besides. -/
structure Reaction where
  session : Session
  reply : Option Result
  effects : List Effect

/-- `#teardown`. -/
def Session.teardown (s : Session) : Reaction :=
  ⟨⟨true, InsertionMap.empty, InsertionMap.empty⟩, none,
    s.subscriptions.values.map fun held => .dispose held.id⟩

/-- `#remember`. -/
def Session.remember (s : Session) (requestId fingerprint : Text) (result : Result) (now : ℕ) :
    ExpiringCache Text CachedResult :=
  s.requests.remember requestCacheEntries requestCacheTtlMs now requestId ⟨fingerprint, result⟩

/-- `#control`. -/
def ControlRequest.control (r : ControlRequest) (g : Gateway) (s : Session) : Reaction :=
  match r.decision g s with
  | .answered result => ⟨s, some result, []⟩
  | .performed requestId fingerprint operated =>
      ⟨{ s with
          subscriptions := operated.subscriptions
          requests := s.remember requestId fingerprint operated.result r.now },
        some operated.result, operated.effects⟩
  | .thrown => ⟨s, none, []⟩

/-- `handleSubscribe`, `handleUnsubscribe` and `handleResync`. -/
def ControlRequest.handle (r : ControlRequest) (g : Gateway) (s : Session) : Reaction :=
  if s.closed then ⟨s, none, []⟩
  else if r.stalled then s.teardown
  else r.control g s

/-! ## Runs -/

/-- What happens to a session: control requests, a subscription that ended itself, and the
closing, for which there are many reasons. -/
inductive SessionEvent
  | request (r : ControlRequest)
  | removeSubscription (subscriptionId : Text)
  | close

def Session.step (g : Gateway) (s : Session) : SessionEvent → Session
  | .request r => (r.handle g s).session
  | .removeSubscription subscriptionId =>
      { s with subscriptions := s.subscriptions.filter fun held => held.id ≠ subscriptionId }
  | .close => if s.closed then s else s.teardown.session

def Session.run (g : Gateway) (s : Session) (events : List SessionEvent) : Session :=
  events.foldl (Session.step g) s

def SessionEvent.time : SessionEvent → Option ℕ
  | .request r => some r.now
  | _ => none

/-- The clock as it was read. -/
def readings (events : List SessionEvent) : List ℕ := events.filterMap SessionEvent.time

/-- The ID whose result an event makes the session remember. -/
def Session.remembers (g : Gateway) (s : Session) : SessionEvent → Option Text
  | .request r =>
      match r.decision g s with
      | .performed requestId _ _ => if s.closed || r.stalled then none else some requestId
      | _ => none
  | _ => none

/-- The IDs whose results were remembered in a run, each as often as that happened. -/
def Session.remembered (g : Gateway) : Session → List SessionEvent → List Text
  | _, [] => []
  | s, event :: rest => (s.remembers g event).toList ++ Session.remembered g (s.step g event) rest

/-! ## What is remembered -/

theorem step_request (g : Gateway) (s : Session) (r : ControlRequest) :
    s.step g (.request r) = (r.handle g s).session := rfl

theorem step_close (g : Gateway) (s : Session) :
    s.step g .close = if s.closed then s else s.teardown.session := rfl

theorem closed_step (g : Gateway) {s : Session} (event : SessionEvent) (h : s.closed) :
    (s.step g event).closed := by
  cases event with
  | request r =>
      rw [step_request, ControlRequest.handle, if_pos h]
      exact h
  | removeSubscription subscriptionId => exact h
  | close =>
      rw [step_close, if_pos h]
      exact h

theorem closed_run (g : Gateway) {s : Session} (events : List SessionEvent) (h : s.closed) :
    (s.run g events).closed := by
  induction events generalizing s with
  | nil => exact h
  | cons event rest ih => exact ih (closed_step g event h)

/-- What a request is whose operation runs. -/
structure Performed (s : Session) (r : ControlRequest) (id text : Text) : Prop where
  requestId : requestIdOf r.payload = some id
  fingerprint : r.fingerprint = .ok text
  fresh : s.requests.fresh r.now id = none

theorem performed_of_decision {g : Gateway} {s : Session} {r : ControlRequest}
    {requestId text : Text} {operated : Operated}
    (h : r.decision g s = .performed requestId text operated) :
    Performed s r requestId text := by
  unfold ControlRequest.decision at h
  dsimp only at h
  split at h
  · cases h
  · split at h
    · rename_i fields id hpayload hid
      unfold ControlRequest.checked at h
      split at h
      · cases h
      · split at h
        · cases h
        · rename_i found hfound
          unfold ControlRequest.cachedOrPerformed at h
          split at h
          · cases h
          · rename_i hfresh
            split at h
            · cases h
              exact ⟨hid, hfound, hfresh⟩
            · cases h
    · cases h

theorem control_of_performed {g : Gateway} {s : Session} {r : ControlRequest}
    {requestId text : Text} {operated : Operated}
    (h : r.decision g s = .performed requestId text operated) :
    r.control g s =
      ⟨{ s with
          subscriptions := operated.subscriptions
          requests := s.remember requestId text operated.result r.now },
        some operated.result, operated.effects⟩ := by
  unfold ControlRequest.control
  rw [h]

/-- A session that stays open ran the request. -/
theorem handle_of_open {g : Gateway} {s : Session} {r : ControlRequest}
    (h : (r.handle g s).session.closed = false) : r.handle g s = r.control g s := by
  unfold ControlRequest.handle at h ⊢
  split at h
  · rename_i hclosed
    rw [hclosed] at h
    cases h
  · rename_i hopen
    split at h
    · cases h
    · rename_i hstalled
      rw [if_neg hopen, if_neg hstalled]

/-- The requests that a session remembers change by a performed request only, or go with it. -/
theorem requests_handle (g : Gateway) (s : Session) (r : ControlRequest) :
    (r.handle g s).session.closed ∨ (r.handle g s).session.requests = s.requests ∨
      ∃ (requestId text : Text) (operated : Operated), Performed s r requestId text ∧
        s.remembers g (.request r) = some requestId ∧
        (r.handle g s).session.requests = s.remember requestId text operated.result r.now := by
  unfold ControlRequest.handle
  by_cases hclosed : s.closed
  · rw [if_pos hclosed]
    exact .inl hclosed
  · rw [if_neg hclosed]
    by_cases hstalled : r.stalled
    · rw [if_pos hstalled]
      exact .inl rfl
    · rw [if_neg hstalled]
      cases hdecision : r.decision g s with
      | answered result =>
          unfold ControlRequest.control
          rw [hdecision]
          exact .inr (.inl rfl)
      | thrown =>
          unfold ControlRequest.control
          rw [hdecision]
          exact .inr (.inl rfl)
      | performed requestId text operated =>
          rw [control_of_performed hdecision]
          refine .inr (.inr ⟨requestId, text, operated, performed_of_decision hdecision, ?_, rfl⟩)
          unfold Session.remembers
          dsimp only
          rw [hdecision]
          simp [hclosed, hstalled]

/-- The cache stays within its bound. -/
theorem length_step (g : Gateway) {s : Session} (event : SessionEvent)
    (h : s.requests.values.length ≤ requestCacheEntries) :
    (s.step g event).requests.values.length ≤ requestCacheEntries := by
  cases event with
  | request r =>
      rw [step_request, ControlRequest.handle]
      split
      · exact h
      · split
        · exact Nat.zero_le _
        · cases hdecision : r.decision g s with
          | answered result =>
              unfold ControlRequest.control
              rw [hdecision]
              exact h
          | thrown =>
              unfold ControlRequest.control
              rw [hdecision]
              exact h
          | performed requestId text operated =>
              rw [control_of_performed hdecision]
              exact ExpiringCache.length_remember _ _ _ _ _ _
  | removeSubscription subscriptionId => exact h
  | close =>
      rw [step_close]
      split
      · exact h
      · exact Nat.zero_le _

theorem length_run (g : Gateway) {s : Session} (events : List SessionEvent)
    (h : s.requests.values.length ≤ requestCacheEntries) :
    (s.run g events).requests.values.length ≤ requestCacheEntries := by
  induction events generalizing s with
  | nil => exact h
  | cons event rest ih => exact ih (length_step g event h)

/-- A closed session aside, a result is remembered, and since then only those of some IDs. -/
def Remembers (s : Session) (entry : CacheEntry Text CachedResult) (since : List Text) : Prop :=
  s.closed ∨ s.requests.Holds entry since

section Remembering

variable {g : Gateway} {entry : CacheEntry Text CachedResult} {since : List Text}

theorem Remembers.step {s : Session} (h : Remembers s entry since) {event : SessionEvent}
    (htime : ∀ now ∈ event.time, now < entry.expiresAt)
    (hsince : ∀ requestId ∈ s.remembers g event, requestId ∈ since)
    (hroom : (since.filter (· ≠ entry.key)).dedup.length < requestCacheEntries) :
    Remembers (s.step g event) entry since := by
  rcases h with hclosed | hholds
  · exact .inl (closed_step g event hclosed)
  · cases event with
    | request r =>
        have hnow : r.now < entry.expiresAt := htime _ rfl
        rcases requests_handle g s r with hclosed | hsame | ⟨requestId, text, operated, hperformed,
          hremembers, hrequests⟩
        · exact .inl hclosed
        · right
          rwa [step_request, hsame]
        · right
          rw [step_request, hrequests]
          -- The ID is another one, since this one has a fresh result.
          have hkey : entry.key ≠ requestId := by
            intro heq
            have hfresh := hperformed.fresh
            rw [← heq, hholds.fresh hnow] at hfresh
            cases hfresh
          exact hholds.remember hnow hkey (hsince _ hremembers) hroom
    | removeSubscription subscriptionId => exact .inr hholds
    | close =>
        left
        rw [step_close]
        split
        · assumption
        · rfl

theorem Remembers.run {s : Session} (h : Remembers s entry since) {events : List SessionEvent}
    (htime : ∀ now ∈ readings events, now < entry.expiresAt)
    (hsince : ∀ requestId ∈ s.remembered g events, requestId ∈ since)
    (hroom : (since.filter (· ≠ entry.key)).dedup.length < requestCacheEntries) :
    Remembers (s.run g events) entry since := by
  induction events generalizing s with
  | nil => exact h
  | cons event rest ih =>
      refine ih (h.step ?_ ?_ hroom) ?_ ?_
      · intro now hnow
        exact htime now (List.mem_filterMap.mpr ⟨event, List.mem_cons_self, hnow⟩)
      · intro requestId hmem
        apply hsince
        rw [Session.remembered, List.mem_append, Option.mem_toList]
        exact .inl hmem
      · intro now hnow
        obtain ⟨other, hother, htimeOf⟩ := List.mem_filterMap.mp hnow
        exact htime now (List.mem_filterMap.mpr ⟨other, List.mem_cons_of_mem _ hother, htimeOf⟩)
      · intro requestId hmem
        apply hsince
        rw [Session.remembered, List.mem_append]
        exact .inr hmem

end Remembering

/-! ## Repeats -/

theorem ControlEvent.name_injective {event event' : ControlEvent} (h : event.name = event'.name) :
    event = event' := by
  cases event <;> cases event' <;> first | rfl | exact absurd h (by decide)

/-- Two requests with one event and one body. -/
structure SameRequest (r r' : ControlRequest) : Prop where
  event : r.event = r'.event
  body : r.payload.data = r'.payload.data

theorem pair_data {r r' : ControlRequest} :
    (Value.array [.string r.event.name, r.payload]).data =
        (Value.array [.string r'.event.name, r'.payload]).data ↔ SameRequest r r' := by
  rw [data, data, Data.array.injEq, itemsData_eq_map, itemsData_eq_map]
  simp only [List.map_cons, List.map_nil, List.cons.injEq, and_true, data, Data.string.injEq]
  exact ⟨fun h => ⟨ControlEvent.name_injective h.1, h.2⟩, fun h => ⟨by rw [h.event], h.body⟩⟩

/-- Fingerprints agree just where the requests do. -/
theorem fingerprint_eq_iff {r r' : ControlRequest} {text text' : Text}
    (h : r.fingerprint = .ok text) (h' : r'.fingerprint = .ok text') :
    text = text' ↔ SameRequest r r' :=
  (canonicalJson_eq_iff h h').trans pair_data

theorem fingerprint_of_same {r r' : ControlRequest} {text : Text} (h : r.fingerprint = .ok text)
    (hsame : SameRequest r' r) : r'.fingerprint = .ok text := by
  obtain ⟨form, hform, -⟩ := map_eq_ok.mp h
  obtain ⟨form', hform'⟩ := canonicalize_ok_of_data hform (pair_data.mpr hsame)
  have htext := canonicalJson_of_canonicalize hform'
  rw [(fingerprint_eq_iff htext h).mpr hsame] at htext
  exact htext

/-- A request whose ID has a fresh result is answered, by that result just if it is the same. -/
structure AnsweredAgain (first r : ControlRequest) (id : Text) (result answer : Result) :
    Prop where
  same : SameRequest r first → isJsonValue r.payload →
    answer = ControlRequest.rateRefusal id ∨ answer = result
  different : ¬SameRequest r first → answer.isError

theorem answeredAgain_of_error {first r : ControlRequest} {id : Text} {result answer : Result}
    (herror : answer.isError)
    (hdifferent : SameRequest r first → isJsonValue r.payload → answer = result) :
    AnsweredAgain first r id result answer :=
  ⟨fun hsame hjson => .inr (hdifferent hsame hjson), fun _ => herror⟩

/-- The own properties of a body are those of the same body, if both have no undefined ones. -/
theorem ownKeys_of_data {fields fields' : Fields} (hjson : isJsonValue (.object fields))
    (hdata : (Value.object fields).data = (Value.object fields').data) {name : Text}
    (h : name ∈ ownKeys fields) : name ∈ ownKeys fields' := by
  rw [mem_ownKeys] at h ⊢
  have hdefined := (property_of_isJsonAt hjson).mp h
  rw [isUndefined_eq (Data.object.inj hdata) name] at hdefined
  exact hasOwn_of_defined hdefined

theorem allowed_of_decision {g : Gateway} {s : Session} {r : ControlRequest}
    {id text : Text} {operated : Operated} (h : r.decision g s = .performed id text operated) :
    ∃ fields, r.payload = .object fields ∧
      ∀ key ∈ ownKeys fields, key ∈ r.event.allowedKeys := by
  unfold ControlRequest.decision at h
  dsimp only at h
  split at h
  · cases h
  · split at h
    · rename_i fields id hpayload hid
      unfold ControlRequest.checked at h
      split at h
      · cases h
      · rename_i hkeys
        refine ⟨fields, hpayload, ?_⟩
        intro key hkey
        simpa using List.find?_eq_none.mp hkeys key hkey
    · cases h

/-- A request with the ID of a result that is remembered and has not expired. -/
theorem control_again {g g' : Gateway} {s opened : Session} {first r : ControlRequest}
    {id text : Text} {operated : Operated}
    (hfirst : first.decision g' opened = .performed id text operated)
    (hid : requestIdOf r.payload = some id)
    (hfresh : s.requests.fresh r.now id = some ⟨text, operated.result⟩) :
    ∃ answer, r.control g s = ⟨s, some answer, []⟩ ∧
      AnsweredAgain first r id operated.result answer := by
  have hperformed := performed_of_decision hfirst
  suffices hanswer : ∃ answer, r.decision g s = .answered answer ∧
      AnsweredAgain first r id operated.result answer by
    obtain ⟨answer, hdecision, hagain⟩ := hanswer
    refine ⟨answer, ?_, hagain⟩
    unfold ControlRequest.control
    rw [hdecision]
  unfold ControlRequest.decision
  dsimp only
  split
  · refine ⟨_, rfl, fun _ _ => .inl ?_, fun _ => rfl⟩
    rw [hid, Option.getD_some]
  · cases hpayload : r.payload with
    | object fields =>
        rw [hpayload] at hid
        rw [hid]
        dsimp only
        unfold ControlRequest.checked
        split
        · -- A key that is not allowed is none of the first request's.
          rename_i key hkey
          refine ⟨_, rfl, answeredAgain_of_error rfl ?_⟩
          intro hsame hjson
          obtain ⟨fields', hpayload', hallowed⟩ := allowed_of_decision hfirst
          have hbody := hsame.body
          rw [hpayload] at hjson hbody
          rw [hpayload'] at hbody
          have hmem := hallowed key (ownKeys_of_data hjson hbody (List.mem_of_find?_eq_some hkey))
          rw [← hsame.event] at hmem
          exact absurd (List.find?_some hkey) (by simpa using hmem)
        · split
          · rename_i message hfingerprint
            refine ⟨_, rfl, answeredAgain_of_error rfl ?_⟩
            intro hsame hjson
            rw [fingerprint_of_same hperformed.fingerprint hsame] at hfingerprint
            cases hfingerprint
          · rename_i found hfingerprint
            unfold ControlRequest.cachedOrPerformed
            rw [hfresh]
            dsimp only
            have hiff := fingerprint_eq_iff hfingerprint hperformed.fingerprint
            by_cases htext : text = found
            · refine ⟨_, rfl, fun _ _ => .inr (if_pos htext), ?_⟩
              intro hdifferent
              exact absurd (hiff.mp htext.symm) hdifferent
            · refine ⟨_, rfl, ?_, fun _ => by rw [if_neg htext]; rfl⟩
              intro hsame hjson
              exact absurd (hiff.mpr hsame).symm htext
    | _ => rw [hpayload] at hid; cases hid

theorem run_append (g : Gateway) (s : Session) (events later : List SessionEvent) :
    s.run g (events ++ later) = (s.run g events).run g later :=
  List.foldl_append

/-- While a result is remembered, its ID has it as the answer to the same request, and an error
to another one, without effect; and no more than so many results are remembered. -/
theorem control_idempotency (g : Gateway) :
    (∀ events, (Session.opened.run g events).requests.values.length ≤ requestCacheEntries) ∧
    ∀ (before since : List SessionEvent) (first r : ControlRequest) (id text : Text)
      (operated : Operated),
      first.decision g (Session.opened.run g before) = .performed id text operated →
      requestIdOf r.payload = some id →
      (readings (before ++ .request first :: (since ++ [.request r]))).Pairwise (· ≤ ·) →
      r.now < first.now + requestCacheTtlMs →
      (((Session.opened.run g (before ++ [.request first])).remembered g since).filter
        (· ≠ id)).dedup.length < requestCacheEntries →
      let s := Session.opened.run g (before ++ .request first :: since)
      s.closed = false → r.stalled = false →
      first.handle g (Session.opened.run g before) =
          ⟨Session.opened.run g (before ++ [.request first]), some operated.result,
            operated.effects⟩ ∧
        ∃ answer, r.handle g s = ⟨s, some answer, []⟩ ∧
          AnsweredAgain first r id operated.result answer := by
  refine ⟨fun events => length_run g events (Nat.zero_le _), ?_⟩
  intro before since first r id text operated hfirst hid hclock hyoung hroom s hopen hstalled
  set start := Session.opened.run g before with hstart
  have hs : s = (start.step g (.request first)).run g since := run_append g _ _ _
  have hafter : Session.opened.run g (before ++ [.request first]) =
      start.step g (.request first) := run_append g _ _ _
  rw [hafter] at hroom ⊢
  -- The session was open when the first request came.
  have hfirstOpen : (start.step g (.request first)).closed = false := by
    cases hclosed : (start.step g (.request first)).closed with
    | false => rfl
    | true =>
        rw [hs, closed_run g since hclosed] at hopen
        cases hopen
  have hhandle : first.handle g start =
      ⟨start.step g (.request first), some operated.result, operated.effects⟩ := by
    rw [step_request, handle_of_open hfirstOpen, control_of_performed hfirst]
  refine ⟨hhandle, ?_⟩
  set entry : CacheEntry Text CachedResult :=
    ⟨id, ⟨text, operated.result⟩, first.now + requestCacheTtlMs⟩ with hentry
  set others := (start.step g (.request first)).remembered g since
  have hremembered : Remembers (start.step g (.request first)) entry others := by
    right
    rw [step_request, handle_of_open hfirstOpen, control_of_performed hfirst]
    exact ExpiringCache.holds_remember (by decide) _ _ _ _ _ _
  have htimes : ∀ now ∈ readings since, now < entry.expiresAt := by
    intro now hnow
    have hsplit : readings (before ++ .request first :: (since ++ [.request r])) =
        readings before ++ first.now :: (readings since ++ [r.now]) := by
      unfold readings
      rw [List.filterMap_append, List.filterMap_cons_some (by rfl), List.filterMap_append]
      rfl
    rw [hsplit, List.pairwise_append, List.pairwise_cons, List.pairwise_append] at hclock
    have hle := hclock.2.1.2.2.2 now hnow r.now (List.mem_singleton_self _)
    exact Nat.lt_of_le_of_lt hle hyoung
  have hlater := hremembered.run htimes (fun _ hmem => hmem) hroom
  rw [← hs] at hlater
  rcases hlater with hclosed | hholds
  · rw [hclosed] at hopen
    cases hopen
  · have hfresh : s.requests.fresh r.now id = some ⟨text, operated.result⟩ :=
      hholds.fresh hyoung
    obtain ⟨answer, hcontrol, hagain⟩ := control_again hfirst hid hfresh
    refine ⟨answer, ?_, hagain⟩
    unfold ControlRequest.handle
    rw [if_neg (by rw [hopen]; decide), if_neg (by rw [hstalled]; decide), hcontrol]

def sampleUuid : String := "00000000-0000-4000-8000-000000000000"

/-- An unsubscribing, of a subscription that may not be held. -/
def unsubscribing : ControlRequest where
  event := .unsubscribe
  payload := .object [(units "requestId", .string (units sampleUuid)),
    (units "subscriptionId", .string (units sampleUuid))]
  stalled := false
  allowed := true
  now := 0
  generatedId := []

def closedGateway : Gateway := ⟨fun _ => none, true, 0, 0⟩

theorem unsubscribing_performed :
    ∃ text, unsubscribing.decision closedGateway Session.opened =
      .performed (units sampleUuid) text ⟨.ok (units sampleUuid) none, InsertionMap.empty, []⟩ :=
  ⟨_, rfl⟩

theorem control_idempotency_unsubscribing :
    ∃ answer,
      unsubscribing.handle closedGateway
          (Session.opened.run closedGateway ([] ++ .request unsubscribing :: [])) =
        ⟨Session.opened.run closedGateway ([] ++ .request unsubscribing :: []), some answer, []⟩ ∧
      AnsweredAgain unsubscribing unsubscribing (units sampleUuid) (.ok (units sampleUuid) none)
        answer := by
  obtain ⟨text, hperformed⟩ := unsubscribing_performed
  exact ((control_idempotency closedGateway).2 [] [] unsubscribing unsubscribing (units sampleUuid)
    text _ hperformed (by rfl) (by decide) (by decide) (by decide) (by rfl) rfl).2

end StreamOtter.Control
