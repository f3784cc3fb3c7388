import StreamOtter.ServerRun
import StreamOtter.ClientSubscription

/-!
# One subscription and its two ends

The SDK's subscription, the gateway's session for it and the ordered connection between
them.  Messages in each direction arrive in the order they were sent; the SDK's
acknowledgement callbacks and frames share one socket.  A connection may be lost or
replaced at any time, with everything still on it.
-/

namespace StreamOtter

/-- What the gateway puts on a connection. -/
inductive GatewayMessage
  | state (frame : SubscriptionFrame)
  | data (frame : DataFrame)
  | error
  | answer (requestId : ℕ) (answer : Answer)
  deriving DecidableEq, Repr

/-- A frame, as opposed to an acknowledgement. -/
def GatewayMessage.isFrame : GatewayMessage → Bool
  | .answer _ _ => false
  | _ => true

/-- The frame a recorded send handed to the transport. -/
def Observation.message : Observation → Option GatewayMessage
  | .state frame => some (.state frame)
  | .data frame => some (.data frame)
  | .error _ _ => some .error
  | _ => none

/-- The frames that a recorded run handed to the transport, in order. -/
def wire (trace : List Observation) : List GatewayMessage := trace.filterMap Observation.message

structure Link where
  client : ClientSubscription
  server : ServerSubscription
  connection : ConnectionId
  up : List ClientMessage
  down : List GatewayMessage
  deriving DecidableEq, Repr

/-- How `#control` and the checks of `handleSubscribe` on a new subscription go: over the
control-request rate, and refused for another reason. -/
structure Verdict where
  overloaded : Bool
  denied : Option ErrorCode
  deriving DecidableEq, Repr

inductive LinkStep
  /-- Anything at the gateway but a message of this client. -/
  | gateway (step : ServerStep)
  /-- The oldest message of the SDK reaches the session. -/
  | receive (verdict : Verdict)
  /-- The oldest message of the gateway reaches the SDK. -/
  | deliver
  /-- Anything at the SDK but a message of the gateway. -/
  | client (step : ClientStep)
  /-- The SDK's end of the connection closes. -/
  | disconnect
  /-- The client adopts a new connection. -/
  | connect

structure LinkInput where
  step : LinkStep
  readings : Readings
  script : List (List Reaction)

namespace ServerSubscription

/-- A session that does not hold the subscription. -/
def absent (budget : SubscriptionBudget) (source : SourceRuntime) (nextId : ℕ) :
    ServerSubscription :=
  { initial budget source with phase := .terminated, held := false, nextId := nextId }

/-- The subscription that a session builds for an ID it does not hold.  What a disposed one
still has suspended resumes to a superseded generation, so it is dropped here; the record
of what the session sent goes on. -/
def renewed (s : ServerSubscription) : ServerSubscription :=
  { initial s.budget s.source with
    expiring := s.expiring, nextId := s.nextId, trace := s.trace }

end ServerSubscription

/-- The gateway's steps that no message of this client causes. -/
def ServerStep.internal : ServerStep → Bool
  | .start | .receipt _ _ | .resync | .unsubscribe => false
  | _ => true

/-- The SDK's steps that neither the gateway nor a change of connection causes; a request
may time out. -/
def ClientStep.local : ClientStep → Bool
  | .terminateLocally | .connectionError _ | .acknowledge _ (.rejected .timeout) | .settle _
  | .retry | .strayRetry _ | .retryUnsubscribe _ | .unsubscribeDeadline _ | .call _
  | .listenerRejected => true
  | _ => false

namespace Link

variable (config : ServerConfig)

/-- The gateway's side becomes `server`, and the frames it sent go on the connection. -/
def withServer (server : ServerSubscription) (link : Link) : Link :=
  { link with
    server := server
    down := link.down ++ wire (server.trace.drop link.server.trace.length) }

/-- The SDK's side becomes `client`, and the messages it sent go on the connection. -/
def withClient (client : ClientSubscription) (link : Link) : Link :=
  { link with
    client := client
    up := link.up ++
      ((client.outbox.drop link.client.outbox.length).filter (·.1 = link.connection)).map
        Prod.snd }

/-- The session answers a request. -/
def respond (requestId : ℕ) (answer : Answer) (link : Link) : Link :=
  { link with down := link.down ++ [.answer requestId answer] }

/-- `handleSubscribe`, for a request of the shape the SDK sends. -/
def handleSubscribe (readings : Readings) (verdict : Verdict) (requestId : ℕ) (link : Link) :
    Link :=
  if verdict.overloaded then link.respond requestId (.refused .overloaded)
  else if link.server.held then link.respond requestId .ok
  else
    match verdict.denied with
    | some code => link.respond requestId (.refused code)
    | none =>
        (link.respond requestId .ok).withServer
          (link.server.renewed.step config ⟨.start, readings⟩)

/-- `handleResync`. -/
def handleResync (readings : Readings) (verdict : Verdict) (requestId : ℕ) (link : Link) : Link :=
  if verdict.overloaded then link.respond requestId (.refused .overloaded)
  else if !link.server.held then link.respond requestId (.refused .invalidRequest)
  else
    (link.respond requestId .ok).withServer (link.server.step config ⟨.resync, readings⟩)

/-- `handleUnsubscribe`; releasing a held subscription is exempt from the rate. -/
def handleUnsubscribe (readings : Readings) (verdict : Verdict) (requestId : ℕ) (link : Link) :
    Link :=
  if verdict.overloaded && !link.server.held then link.respond requestId (.refused .overloaded)
  else
    (link.withServer (link.server.step config ⟨.unsubscribe, readings⟩)).respond requestId .ok

/-- A message reaches the session, which drops it when it is closed or the client stalled. -/
def receive (readings : Readings) (verdict : Verdict) (message : ClientMessage) (link : Link) :
    Link :=
  let checked := link.server.checkStalled config.limits readings .inbound
  if checked.sessionClosed then link.withServer checked
  else
    match message with
    | .subscribe requestId => link.handleSubscribe config readings verdict requestId
    | .resync requestId => link.handleResync config readings verdict requestId
    | .unsubscribe requestId => link.handleUnsubscribe config readings verdict requestId
    | .receipt epoch sequence =>
        link.withServer (link.server.step config ⟨.receipt epoch sequence, readings⟩)

/-- What a message of the gateway is to the subscription. -/
def arrival (connection : ConnectionId) : GatewayMessage → ClientStep
  | .state frame => .state connection frame
  | .data frame => .data connection frame
  | .error => .error connection
  | .answer requestId answer => .acknowledge requestId answer

/-- `#adopt`: the previous connection is closed and the subscription attached to the new
one, on which the gateway holds nothing yet. -/
def connect (script : List (List Reaction)) (link : Link) : Link :=
  let client := link.client.step ⟨.supersede link.connection, []⟩
  let link := { link with
    client := client
    server := .absent { link.server.budget with
      connection := { link.server.budget.connection with used := 0 } } link.server.source
        link.server.nextId
    connection := link.connection + 1
    up := []
    down := [] }
  link.withClient (client.step ⟨.attach link.connection, script⟩)

def step (link : Link) (input : LinkInput) : Link :=
  match input.step with
  | .gateway step => link.withServer (link.server.step config ⟨step, input.readings⟩)
  | .receive verdict =>
      match link.up with
      | [] => link
      | message :: rest => { link with up := rest }.receive config input.readings verdict message
  | .deliver =>
      match link.down with
      | [] => link
      | message :: rest =>
          { link with down := rest }.withClient
            (link.client.step ⟨arrival link.connection message, input.script⟩)
  | .client step => link.withClient (link.client.step ⟨step, input.script⟩)
  | .disconnect => link.withClient (link.client.step ⟨.disconnect link.connection, input.script⟩)
  | .connect => link.connect input.script

/-- The gateway takes its events one at a time, each with the continuations it directly
resumes, and the SDK listens to a connection until it closes. -/
def Enabled (link : Link) (input : LinkInput) : Prop :=
  match input.step with
  | .gateway step => step.internal = true ∧
      (ServerSubscription.atomicMachine config).allowed link.server ⟨step, input.readings⟩
  | .receive _ => link.server.Settled
  | .deliver => link.client.connected link.connection = true
  | .client .authRequired => link.client.connected link.connection = false
  | .client step => step.local = true
  | .disconnect | .connect => True

/-- Every interleaving of the two ends and of what is on its way between them. -/
def machine : Machine Link LinkInput where
  step := step config
  allowed := Enabled config

/-- An SDK subscription just constructed, before its client has a connection. -/
def initial (channel : String) (channelVersion : ℕ) (budget : SubscriptionBudget)
    (source : SourceRuntime) : Link where
  client := ClientSubscription.initial channel channelVersion
  server := .absent budget source 1
  connection := 0
  up := []
  down := []

end Link

end StreamOtter
