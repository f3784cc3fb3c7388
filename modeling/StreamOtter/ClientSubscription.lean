import StreamOtter.Protocol
import StreamOtter.Machine
import Mathlib.Data.List.Basic

/-!
# The SDK's side of one subscription

A translation of `ClientSubscription`, with the parts of its client and connection that
it reads and changes.  A listener runs in the middle of the stretch that notifies it and
may call back into the subscription, so each definition takes the listeners as a
parameter; `listeners` ties the knot, with what they do supplied by a script.

Waiters, logged failures and the stored last error decide nothing and are left out.
-/

namespace StreamOtter

/-- One `Connection` object. -/
abbrev ConnectionId := ℕ

inductive ClientMessage
  | subscribe (requestId : ℕ)
  | resync (requestId : ℕ)
  | unsubscribe (requestId : ℕ)
  | receipt (epoch : Epoch) (sequence : ℕ)
  deriving DecidableEq, Repr

/-- A control request whose acknowledgement or continuation is due. -/
inductive Request
  | subscribe (connection : ConnectionId)
  | resync (connection : ConnectionId) (replacing : Option Epoch)
  | unsubscribe (connection : ConnectionId) (attempt id : ℕ)
  deriving DecidableEq, Repr

def Request.connection : Request → ConnectionId
  | .subscribe connection | .resync connection _ | .unsubscribe connection _ _ => connection

def Request.message (requestId : ℕ) : Request → ClientMessage
  | .subscribe _ => .subscribe requestId
  | .resync _ _ => .resync requestId
  | .unsubscribe _ _ _ => .unsubscribe requestId

/-- How a control request ended: with a result, or with a rejected promise. -/
inductive Answer
  | ok
  | refused (code : ErrorCode)
  | rejected (code : ErrorCode)
  deriving DecidableEq, Repr

/-- What an armed retry timer does. -/
inductive Retry
  | attach (connection : ConnectionId)
  | resync (connection : ConnectionId)
  deriving DecidableEq, Repr

/-- An unsubscribe request that waits to be sent again. -/
structure Leaving where
  connection : ConnectionId
  attempt : ℕ
  id : ℕ
  deriving DecidableEq, Repr

inductive UserCall
  | resync | unsubscribe
  /-- `close()` and `reconnect()` of the client. -/
  | close | reconnect
  deriving DecidableEq, Repr

/-- What one listener does when it is notified. -/
structure Reaction where
  calls : List UserCall
  throws : Bool
  deriving DecidableEq, Repr

/-- The recorded events of a run. -/
inductive ClientObservation
  | attached (connection : ConnectionId)
  | detached
  /-- A `synchronizing` frame was accepted. -/
  | synchronizing (epoch : Epoch)
  /-- The subscription asks for its epoch to be replaced. -/
  | replacing (epoch : Option Epoch)
  /-- The `live` frame of the current epoch was accepted. -/
  | live (epoch : Epoch)
  /-- A data frame came from the attached connection. -/
  | heard (frame : DataFrame)
  /-- A frame goes to the data listeners. -/
  | delivered (connection : ConnectionId) (frame : DataFrame)
  | receipted (epoch : Epoch) (sequence : ℕ)
  deriving DecidableEq, Repr

/-- `LOCAL_SYNC_ATTEMPTS`. -/
def localSyncAttempts : ℕ := 3

structure ClientSubscription where
  channel : String
  channelVersion : ℕ
  state : SubscriptionState
  reason : Option ErrorCode
  terminal : Bool
  attached : Option ConnectionId
  serverKnows : Bool
  subscribeInFlight : Bool
  epoch : Option Epoch
  replacing : Option Epoch
  resyncPending : Bool
  awaitingEpoch : Bool
  expectedSequence : ℕ
  epochRevision : Option Revision
  lastRevision : Option Revision
  localFailures : ℕ
  unsubscribing : Bool
  retryTimer : Option Retry
  /-- Armed retry timers that `#retryTimer` no longer refers to. -/
  strays : List Retry
  /-- The listener sets were cleared. -/
  cleared : Bool
  /-- The client's `closed`, `authRequired` and last connection error. -/
  ownerClosed : Bool
  ownerAuthRequired : Bool
  connectionError : Option ErrorCode
  /-- The connections that closed or dropped. -/
  dropped : List ConnectionId
  /-- The requests not yet acknowledged, under their request IDs. -/
  outstanding : List (ℕ × Request)
  nextRequest : ℕ
  answered : List (Request × Answer)
  leaving : List Leaving
  /-- The unsubscribe requests past their deadline, and the next one's number. -/
  finished : List ℕ
  nextLeaving : ℕ
  /-- What was handed to the connections, in order. -/
  outbox : List (ConnectionId × ClientMessage)
  /-- What the listeners of the coming notifications do. -/
  script : List (List Reaction)
  trace : List ClientObservation
  deriving DecidableEq, Repr

/-- The effect of notifying the data or state listeners, with whether all of them
returned, and of notifying the error listeners. -/
structure Listeners where
  notify : ClientSubscription → ClientSubscription × Bool
  report : ClientSubscription → ClientSubscription

namespace ClientSubscription

def emit (o : ClientObservation) (s : ClientSubscription) : ClientSubscription :=
  { s with trace := s.trace ++ [o] }

def connected (s : ClientSubscription) (connection : ConnectionId) : Bool :=
  connection ∉ s.dropped

def clearRetry (s : ClientSubscription) : ClientSubscription := { s with retryTimer := none }

/-- `this.#retryTimer = setTimeout(…)`, which leaves a timer already armed running. -/
def arm (retry : Retry) (s : ClientSubscription) : ClientSubscription :=
  { s with retryTimer := some retry, strays := s.retryTimer.toList ++ s.strays }

/-- `Connection.request`. -/
def request (request : Request) (s : ClientSubscription) : ClientSubscription :=
  if s.connected request.connection then
    { s with
      nextRequest := s.nextRequest + 1
      outstanding := s.outstanding ++ [(s.nextRequest, request)]
      outbox := s.outbox ++ [(request.connection, request.message s.nextRequest)] }
  else { s with answered := s.answered ++ [(request, .rejected .sourceUnavailable)] }

/-- `Connection.receipt`. -/
def receipt (connection : ConnectionId) (epoch : Epoch) (sequence : ℕ) (s : ClientSubscription) :
    ClientSubscription :=
  if s.connected connection then
    emit (.receipted epoch sequence)
      { s with outbox := s.outbox ++ [(connection, .receipt epoch sequence)] }
  else s

/-- `Connection.close`, which fails the requests still pending on it. -/
def closeConnection (connection : ConnectionId) (s : ClientSubscription) : ClientSubscription :=
  { s with
    dropped := connection :: s.dropped
    outstanding := s.outstanding.filter (·.2.connection ≠ connection)
    answered := s.answered ++ (s.outstanding.filter (·.2.connection = connection)).map
      (·.2, .rejected .sourceUnavailable) }

/-- The first request of `#sendUnsubscribe`. -/
def sendUnsubscribe (connection : ConnectionId) (s : ClientSubscription) : ClientSubscription :=
  { s with nextLeaving := s.nextLeaving + 1 }.request (.unsubscribe connection 0 s.nextLeaving)

/-- `#subscribe` up to its `await`. -/
def subscribe (connection : ConnectionId) (s : ClientSubscription) : ClientSubscription :=
  { s with subscribeInFlight := true }.request (.subscribe connection)

/-- The subscription has a new connection, or none. -/
def rebind (connection : Option ConnectionId) (s : ClientSubscription) : ClientSubscription :=
  { s with attached := connection }.emit (connection.elim .detached .attached)

/-- What `#setState` changes before it notifies anyone; a `resync-required` state ends a
pending request. -/
def withState (state : SubscriptionState) (reason : Option ErrorCode) (s : ClientSubscription) :
    ClientSubscription :=
  { s with
    resyncPending := s.resyncPending && state ≠ .resyncRequired
    state := state
    reason := reason }

/-- What `#terminate` changes before the state. -/
def ending (s : ClientSubscription) : ClientSubscription :=
  ({ s with terminal := true }.clearRetry).rebind none

/-- What `attach` changes before the state. -/
def attaching (connection : ConnectionId) (s : ClientSubscription) : ClientSubscription :=
  { s.clearRetry with
    serverKnows := false
    subscribeInFlight := false
    epoch := none
    replacing := none
    resyncPending := false
    awaitingEpoch := true }.rebind (some connection)

/-- What `detach` changes before the state. -/
def detaching (s : ClientSubscription) : ClientSubscription :=
  { s.clearRetry with
    serverKnows := false
    subscribeInFlight := false
    awaitingEpoch := true
    replacing := none
    resyncPending := false }.rebind none

/-- What `#requestFreshSynchronization` changes before the state. -/
def asking (s : ClientSubscription) : ClientSubscription :=
  { s.clearRetry with
    replacing := s.epoch
    resyncPending := true
    awaitingEpoch := true }.emit (.replacing s.epoch)

def countFailure (s : ClientSubscription) : ClientSubscription :=
  { s with localFailures := s.localFailures + 1 }

/-- The SDK gives up on the gateway's subscription. -/
def abandoning (s : ClientSubscription) : ClientSubscription :=
  { s with serverKnows := false, awaitingEpoch := true }

/-- The gateway refused a resync request and kept its epoch, whose frames are receipted
but no longer delivered. -/
def refusing (s : ClientSubscription) : ClientSubscription :=
  { s with replacing := none, resyncPending := false, awaitingEpoch := true }

section Notifying

variable (l : Listeners)

def setState (state : SubscriptionState) (reason : Option ErrorCode) (force : Bool)
    (s : ClientSubscription) : ClientSubscription :=
  if s.terminal && !force then s
  else if s.state = state ∧ s.reason = reason then s.withState state reason
  else (l.notify (s.withState state reason)).1

def terminate (state : SubscriptionState) (reason : Option ErrorCode) (s : ClientSubscription) :
    ClientSubscription :=
  if s.terminal then s
  else { s.ending.setState l state reason true with cleared := true }

/-- `if (serverKnows && connection !== null && connection.connected) …`. -/
def leave (serverKnows : Bool) (connection : Option ConnectionId) (s : ClientSubscription) :
    ClientSubscription :=
  match connection with
  | none => s
  | some connection =>
      if serverKnows && s.connected connection then s.sendUnsubscribe connection else s

def listenerFailed (s : ClientSubscription) : ClientSubscription :=
  if s.terminal then s
  else
    let connection := s.attached
    let serverKnows := s.serverKnows || s.subscribeInFlight
    ((l.report s).terminate l .failed (some .handlerFailed)).leave serverKnows connection

def attach (connection : ConnectionId) (s : ClientSubscription) : ClientSubscription :=
  if s.terminal then s
  else ((s.attaching connection).setState l .authorizing none false).subscribe connection

def detach (reason : Option ErrorCode) (s : ClientSubscription) : ClientSubscription :=
  let s := s.detaching
  if s.terminal || s.state = .resyncRequired then s else s.setState l .stale reason false

/-- The connection dropped: the client detaches its subscriptions. -/
def disconnect (connection : ConnectionId) (s : ClientSubscription) : ClientSubscription :=
  let s := s.closeConnection connection
  if s.attached = some connection then s.detach l s.connectionError else s

def authRequired (s : ClientSubscription) : ClientSubscription :=
  { s with ownerAuthRequired := true }.detach l (some .unauthenticated)

def terminateLocally (state : SubscriptionState) (code : ErrorCode) (report : Bool)
    (s : ClientSubscription) : ClientSubscription :=
  if s.terminal then s
  else (if report then l.report s else s).terminate l state (some code)

def requestFreshSynchronization (s : ClientSubscription) : ClientSubscription :=
  match s.attached with
  | none => s
  | some connection =>
      if !s.connected connection then s
      else if !s.serverKnows then
        if s.state = .authorizing then s else s.attach l connection
      else if s.state = .authorizing || s.state = .synchronizing || s.resyncPending then s
      else
        let s := s.asking
        let s := if s.state ≠ .stale then s.setState l .authorizing none false else s
        s.request (.resync connection s.epoch)

def localSyncFailure (code : ErrorCode) (s : ClientSubscription) : ClientSubscription :=
  let s := l.report s
  if s.terminal then s
  else
    let s := s.countFailure
    if s.localFailures ≥ localSyncAttempts then
      (s.leave s.serverKnows s.attached).abandoning.setState l .resyncRequired
        (some .resyncRequired) false
    else (s.setState l .stale (some code) false).requestFreshSynchronization l

/-- `handleState` accepting the start of an epoch. -/
def acceptEpoch (epoch : Epoch) (s : ClientSubscription) : ClientSubscription :=
  { s with
    epoch := some epoch
    replacing := none
    resyncPending := false
    awaitingEpoch := false
    expectedSequence := 1
    epochRevision := none }.emit (.synchronizing epoch)

def handleState (connection : ConnectionId) (frame : SubscriptionFrame) (s : ClientSubscription) :
    ClientSubscription :=
  if s.terminal || s.attached ≠ some connection then s
  else
    let s := { s with serverKnows := true }
    if frame.state = .synchronizing then
      if s.epoch = some frame.epoch ∧ !s.awaitingEpoch then s
      else (s.acceptEpoch frame.epoch).setState l .synchronizing none false
    else if frame.epoch ≠ s.epoch.getD 0 then s
    else if s.replacing = some frame.epoch ∧
        (frame.state = .live ∨ frame.state = .resyncRequired) then s
    else if frame.state = .live ∧ s.awaitingEpoch then s
    else
      match frame.state with
      | .failed => { s with serverKnows := false }.terminate l .failed frame.reason
      | .closed => { s with serverKnows := false }.terminate l .closed frame.reason
      | .resyncRequired =>
          s.setState l .resyncRequired (some (frame.reason.getD .resyncRequired)) false
      | .live => ({ s with localFailures := 0 }.emit (.live frame.epoch)).setState l .live none false
      | .stale | .authorizing => s.setState l frame.state frame.reason false
      | _ => s

/-- The checks of `handleData` on a frame of the current epoch. -/
def frameProblem (frame : DataFrame) (s : ClientSubscription) : Option ErrorCode :=
  if frame.sequence ≠ s.expectedSequence then some .invalidRequest
  else if frame.event.channel ≠ s.channel ∨ frame.event.channelVersion ≠ s.channelVersion then
    some .invalidPayload
  else if frame.sequence = 1 then
    if frame.event.kind ≠ .snapshot then some .invalidRequest
    else if s.lastRevision.any (frame.event.revision < ·) then some .invalidPayload
    else none
  else if frame.event.kind ≠ .update ∨ s.epochRevision.any (frame.event.revision ≤ ·) then
    some .invalidRequest
  else none

/-- The frame becomes the latest one and goes to the data listeners. -/
def acceptFrame (connection : ConnectionId) (frame : DataFrame) (s : ClientSubscription) :
    ClientSubscription :=
  { s with
    expectedSequence := s.expectedSequence + 1
    epochRevision := some frame.event.revision
    lastRevision :=
      if s.lastRevision.all (· < frame.event.revision) then some frame.event.revision
      else s.lastRevision }.emit (.delivered connection frame)

def handleData (connection : ConnectionId) (frame : DataFrame) (s : ClientSubscription) :
    ClientSubscription :=
  if s.terminal || s.attached ≠ some connection then s
  else
    let s := { s with serverKnows := true }.emit (.heard frame)
    if s.awaitingEpoch ∨ s.epoch ≠ some frame.epoch then
      if s.epoch = some frame.epoch then s.receipt connection frame.epoch frame.sequence else s
    else
      match s.frameProblem frame with
      | some code => s.localSyncFailure l code
      | none =>
          match l.notify (s.acceptFrame connection frame) with
          | (s, false) => s
          | (s, true) => s.receipt connection frame.epoch frame.sequence

def handleError (connection : ConnectionId) (s : ClientSubscription) : ClientSubscription :=
  if s.terminal || s.attached ≠ some connection then s else l.report s

/-- The `finally` block of `#subscribe`. -/
def landed (connection : ConnectionId) (s : ClientSubscription) : ClientSubscription :=
  if s.attached = some connection ∨ s.attached = none then { s with subscribeInFlight := false }
  else s

/-- The continuation of `#subscribe`. -/
def subscribed (connection : ConnectionId) (answer : Answer) (s : ClientSubscription) :
    ClientSubscription :=
  match answer with
  | .rejected code =>
      landed connection
        (if s.attached ≠ some connection ∨ s.terminal then s
        else if code = .timeout then s.disconnect l connection
        else s)
  | .ok =>
      let s := s.landed connection
      if s.attached ≠ some connection ∨ s.terminal then s else { s with serverKnows := true }
  | .refused code =>
      let s := s.landed connection
      if s.attached ≠ some connection ∨ s.terminal then s
      else
        let s := l.report s
        if code = .overloaded then
          let s := s.countFailure
          if s.localFailures ≥ localSyncAttempts then
            s.setState l .resyncRequired (some .overloaded) false
          else (s.setState l .stale (some .overloaded) false).arm (.attach connection)
        else s.terminate l .failed (some code)

/-- The callback that runs with the acknowledgement of a resync request. -/
def acknowledged (connection : ConnectionId) (replacing : Option Epoch) (s : ClientSubscription) :
    ClientSubscription :=
  if s.attached = some connection ∧ s.replacing = replacing then { s with replacing := none }
  else s

/-- The continuation of a resync request. -/
def resynced (connection : ConnectionId) (replacing : Option Epoch) (answer : Answer)
    (s : ClientSubscription) : ClientSubscription :=
  if s.attached ≠ some connection ∨ s.terminal then s
  else
    match answer with
    | .ok => s
    | .rejected code => if code = .timeout then s.disconnect l connection else s
    | .refused code =>
        let s := l.report s
        if code = .invalidRequest then s.attach l connection
        else if s.replacing ≠ replacing ∨ s.epoch ≠ replacing then s
        else
          let s := s.refusing.countFailure
          if s.localFailures ≥ localSyncAttempts then
            s.setState l .resyncRequired (some code) false
          else (s.setState l .stale (some code) false).arm (.resync connection)

/-- The continuation of an unsubscribe request. -/
def unsubscribed (connection : ConnectionId) (attempt id : ℕ) (answer : Answer)
    (s : ClientSubscription) : ClientSubscription :=
  if answer = .refused .overloaded ∧ s.connected connection ∧ id ∉ s.finished then
    { s with leaving := s.leaving ++ [⟨connection, attempt, id⟩] }
  else { s with finished := id :: s.finished }

def settle (request : Request) (answer : Answer) (s : ClientSubscription) : ClientSubscription :=
  match request with
  | .subscribe connection => s.subscribed l connection answer
  | .resync connection replacing => s.resynced l connection replacing answer
  | .unsubscribe connection attempt id => s.unsubscribed connection attempt id answer

/-- The acknowledgement of a request, up to the promise it settles. -/
def acknowledge (requestId : ℕ) (answer : Answer) (s : ClientSubscription) : ClientSubscription :=
  match s.outstanding.find? (·.1 = requestId) with
  | none => s
  | some (_, request) =>
      let s := { s with
        outstanding := s.outstanding.filter (·.1 ≠ requestId)
        answered := s.answered ++ [(request, answer)] }
      match request, answer with
      | .resync connection replacing, .ok => s.acknowledged connection replacing
      | _, _ => s

/-- What a retry timer does when it fires. -/
def retried (retry : Retry) (s : ClientSubscription) : ClientSubscription :=
  match retry with
  | .attach connection =>
      if s.attached = some connection ∧ s.connected connection ∧ !s.terminal then
        s.attach l connection
      else s
  | .resync connection =>
      if s.attached = some connection ∧ s.connected connection ∧ !s.terminal then
        s.requestFreshSynchronization l
      else s

/-- `#blockedError(true) !== null`. -/
def resyncBlocked (s : ClientSubscription) : Bool :=
  (s.ownerClosed && s.state = .closed) || s.terminal || s.ownerAuthRequired

def resync (s : ClientSubscription) : ClientSubscription :=
  if s.resyncBlocked then s
  else if s.resyncPending then s
  else { s with localFailures := 0 }.requestFreshSynchronization l

def unsubscribe (s : ClientSubscription) : ClientSubscription :=
  if s.unsubscribing then s
  else
    let connection := s.attached
    let serverKnows := s.serverKnows || s.subscribeInFlight
    { s.terminate l .closed none with unsubscribing := true }.leave serverKnows connection

/-- `close()` of the client. -/
def close (s : ClientSubscription) : ClientSubscription :=
  let connection := s.attached
  let s := { s with ownerClosed := true }.terminateLocally l .closed .clientClosed false
  connection.elim s s.closeConnection

/-- `reconnect()` of the client, up to the new connection. -/
def reconnect (s : ClientSubscription) : ClientSubscription :=
  if s.ownerClosed then s
  else
    let s := { s with ownerAuthRequired := false, connectionError := none }
    match s.attached with
    | none => s
    | some connection => (s.closeConnection connection).detach l none

def perform (call : UserCall) (s : ClientSubscription) : ClientSubscription :=
  match call with
  | .resync => s.resync l
  | .unsubscribe => s.unsubscribe l
  | .close => s.close l
  | .reconnect => s.reconnect l

/-- Runs the data or state listeners in turn.  One that throws fails the subscription and
ends the round; the end of the subscription clears the listener sets. -/
def react : List Reaction → ClientSubscription → ClientSubscription × Bool
  | [], s => (s, true)
  | reaction :: reactions, s =>
      if s.cleared then (s, true)
      else
        let s := reaction.calls.foldl (fun s call => s.perform l call) s
        if reaction.throws then (s.listenerFailed l, false) else react reactions s

/-- Runs the error listeners in turn, whose failures are only logged. -/
def reactQuietly : List Reaction → ClientSubscription → ClientSubscription
  | [], s => s
  | reaction :: reactions, s =>
      if s.cleared then s
      else reactQuietly reactions (reaction.calls.foldl (fun s call => s.perform l call) s)

end Notifying

/-- Listeners that follow the script, nested notifications included. -/
def listeners : ℕ → Listeners
  | 0 => ⟨fun s => (s, true), id⟩
  | depth + 1 =>
      { notify := fun s =>
          match s.script with
          | [] => (s, true)
          | reactions :: rest => react (listeners depth) reactions { s with script := rest }
        report := fun s =>
          match s.script with
          | [] => s
          | reactions :: rest => reactQuietly (listeners depth) reactions { s with script := rest } }

end ClientSubscription

/-- What reaches the subscription from outside. -/
inductive ClientStep
  | attach (connection : ConnectionId)
  | detach (reason : Option ErrorCode)
  | authRequired
  /-- The authenticated identity changed. -/
  | terminateLocally
  | disconnect (connection : ConnectionId)
  /-- The client closes a connection it has replaced. -/
  | supersede (connection : ConnectionId)
  /-- A connection-level error frame, or none after a new connection. -/
  | connectionError (code : Option ErrorCode)
  | state (connection : ConnectionId) (frame : SubscriptionFrame)
  | data (connection : ConnectionId) (frame : DataFrame)
  | error (connection : ConnectionId)
  | acknowledge (requestId : ℕ) (answer : Answer)
  /-- The continuation of an answered request. -/
  | settle (index : ℕ)
  | retry
  | strayRetry (index : ℕ)
  | retryUnsubscribe (index : ℕ)
  | unsubscribeDeadline (id : ℕ)
  | call (call : UserCall)
  /-- A promise returned by a listener was rejected. -/
  | listenerRejected
  deriving DecidableEq, Repr

structure ClientInput where
  step : ClientStep
  script : List (List Reaction)
  deriving DecidableEq, Repr

namespace ClientSubscription

/-- One event, with the listeners `l` in place. -/
def handle (l : Listeners) (step : ClientStep) (s : ClientSubscription) : ClientSubscription :=
  match step with
  | .attach connection => s.attach l connection
  | .detach reason => s.detach l reason
  | .authRequired => s.authRequired l
  | .terminateLocally => s.terminateLocally l .closed .unauthenticated true
  | .disconnect connection => s.disconnect l connection
  | .connectionError code => { s with connectionError := code }
  | .state connection frame => s.handleState l connection frame
  | .data connection frame => s.handleData l connection frame
  | .error connection => s.handleError l connection
  | .acknowledge requestId answer => s.acknowledge requestId answer
  | .supersede connection => s.closeConnection connection
  | .settle index =>
      match s.answered[index]? with
      | none => s
      | some (request, answer) =>
          { s with answered := s.answered.eraseIdx index }.settle l request answer
  | .retry =>
      match s.retryTimer with
      | none => s
      | some retry => { s with retryTimer := none }.retried l retry
  | .strayRetry index =>
      match s.strays[index]? with
      | none => s
      | some retry =>
          { s with
            retryTimer := none
            strays := s.retryTimer.toList ++ s.strays.eraseIdx index }.retried l retry
  | .retryUnsubscribe index =>
      match s.leaving[index]? with
      | none => s
      | some leaving =>
          { s with leaving := s.leaving.eraseIdx index }.request
            (.unsubscribe leaving.connection (leaving.attempt + 1) leaving.id)
  | .unsubscribeDeadline id =>
      { s with
        finished := id :: s.finished
        leaving := s.leaving.filter (·.id ≠ id) }
  | .call call => s.perform l call
  | .listenerRejected => s.listenerFailed l

/-- One event, with listeners that follow the event's script. -/
def step (s : ClientSubscription) (input : ClientInput) : ClientSubscription :=
  { s with script := input.script }.handle (listeners input.script.length) input.step

/-- A subscription just constructed. -/
def initial (channel : String) (channelVersion : ℕ) : ClientSubscription where
  channel := channel
  channelVersion := channelVersion
  state := .idle
  reason := none
  terminal := false
  attached := none
  serverKnows := false
  subscribeInFlight := false
  epoch := none
  replacing := none
  resyncPending := false
  awaitingEpoch := true
  expectedSequence := 1
  epochRevision := none
  lastRevision := none
  localFailures := 0
  unsubscribing := false
  retryTimer := none
  strays := []
  cleared := false
  ownerClosed := false
  ownerAuthRequired := false
  connectionError := none
  dropped := []
  outstanding := []
  nextRequest := 0
  answered := []
  leaving := []
  finished := []
  nextLeaving := 0
  outbox := []
  script := []
  trace := []

/-- Every sequence of events, from an unconstrained peer. -/
def machine : Machine ClientSubscription ClientInput where
  step := step
  allowed := fun _ _ => True

end ClientSubscription

end StreamOtter
