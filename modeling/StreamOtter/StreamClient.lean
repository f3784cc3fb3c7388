import StreamOtter.ClientSubscription
import Mathlib.Logic.Function.Basic

/-!
# The SDK client

A translation of `StreamClient` and of what it reads of `Connection` and of its
subscriptions.  An asynchronous function is cut at its awaits; the stretches between two
awaits run to the end, but for the application's listeners, which may call back into the
client at every notification.  Of a subscription only what the client decides about it is
kept: `ClientSubscription` says what its own checks of a frame or an acknowledgement
lead to, so here the outcome of those checks is an input.

Backoff delays, waiters and error texts decide nothing and are left out.
-/

namespace StreamOtter

abbrev SubscriptionId := ℕ

abbrev AttemptId := ℕ

abbrev TimerId := ℕ

inductive ConnectionState
  | idle | connecting | connected | reconnecting | authRequired | closed
  deriving DecidableEq, Repr

structure StreamError where
  code : ErrorCode
  retryable : Bool
  deriving DecidableEq, Repr

/-- The parts of `so:hello` the client reads; the expiry is none when it is not a
timestamp. -/
structure Hello where
  identityKey : String
  authExpiresAt : Option ℤ
  deriving DecidableEq, Repr

/-- The `ready` promise of a connection. -/
inductive Ready
  | pending
  | resolved (hello : Hello)
  | rejected (error : StreamError)
  deriving DecidableEq, Repr

structure Connection where
  ready : Ready
  closed : Bool
  deriving DecidableEq, Repr

def Connection.connected (connection : Connection) : Bool :=
  match connection.ready with
  | .resolved _ => !connection.closed
  | _ => false

inductive AttemptKind
  | connect
  | refresh (expiresAt : ℤ)
  deriving DecidableEq, Repr

/-- A call of `#connect` or `#refresh` that waits for its token, or for the handshake of
the connection it has opened. -/
structure ConnectAttempt where
  kind : AttemptKind
  generation : ℕ
  awaits : Option ConnectionId
  deriving DecidableEq, Repr

inductive ClientTimer
  | reconnect
  | refresh (expiresAt : ℤ)
  deriving DecidableEq, Repr

/-- The client's view of one subscription. -/
structure ManagedSubscription where
  state : SubscriptionState
  reason : Option ErrorCode
  terminal : Bool
  attached : Option ConnectionId
  /-- The listener sets were cleared. -/
  cleared : Bool
  deriving DecidableEq, Repr

/-- A subscription just constructed. -/
def ManagedSubscription.fresh : ManagedSubscription where
  state := .idle
  reason := none
  terminal := false
  attached := none
  cleared := false

/-- What the checks of a subscription lead to, one after another. -/
inductive Effect
  | changed (state : SubscriptionState) (reason : Option ErrorCode)
  | reported
  | ended (state : SubscriptionState) (reason : Option ErrorCode)
  /-- `this.attach(connection)` on the connection the subscription is attached to. -/
  | reattached
  deriving DecidableEq, Repr

inductive ClientCall
  | close | reconnect | subscribe
  | unsubscribe (id : SubscriptionId)
  | resync (id : SubscriptionId) (effects : List Effect)
  deriving DecidableEq, Repr

/-- What one listener does when it is notified. -/
structure ClientReaction where
  calls : List ClientCall
  throws : Bool
  deriving DecidableEq, Repr

/-- A notification that the client answers for: what it does next was decided before the
listeners ran. -/
inductive Site
  /-- The subscriptions of the previous identity end. -/
  | switching
  /-- The state becomes `connected`; does the refresh timer get armed next? -/
  | connected (arms : Bool)
  /-- A connect attempt failed; does the client suspend next? -/
  | refused (suspends : Bool)
  /-- The state becomes `reconnecting`, and the reconnect timer is armed next. -/
  | reconnecting
  /-- A refresh failed; does the refresh timer get armed again? -/
  | refreshFailed (rearms : Bool)
  deriving DecidableEq, Repr

/-- Whether the statements after the notification change what `close()` left behind. -/
def Site.undoes : Site → Bool
  | .switching | .reconnecting => true
  | .connected acts | .refused acts | .refreshFailed acts => acts

inductive Cause
  | retry | explicit | refresh
  deriving DecidableEq, Repr

/-- The recorded events of a run. -/
inductive ClientRecord
  | registered (id : SubscriptionId)
  | attached (id : SubscriptionId) (connection : ConnectionId)
  | ended (id : SubscriptionId)
  /-- A state or data frame goes to a subscription. -/
  | dispatched (connection : ConnectionId) (id : SubscriptionId)
  /-- A data event goes to the listeners of a subscription. -/
  | delivered (id : SubscriptionId) (connection : ConnectionId)
  | state (state : ConnectionState)
  /-- An attempt starts, with or without a working connection beside it. -/
  | started (cause : Cause) (beside : Bool)
  | adopted (connection : ConnectionId) (identityKey : String)
  /-- A timer is armed, with or without another one that its handle still refers to. -/
  | armed (timer : ClientTimer) (forgets : Bool)
  /-- `close()` is done; it was called while the client answered for a notification, or
  not. -/
  | closed (site : Option Site)
  deriving DecidableEq, Repr

structure StreamClient where
  state : ConnectionState
  connection : Option ConnectionId
  identityKey : Option String
  generation : ℕ
  connecting : Bool
  suspended : Bool
  closed : Bool
  everConnected : Bool
  lastConnectionError : Option StreamError
  reconnectTimer : Option TimerId
  refreshTimer : Option TimerId
  /-- `#closing !== null`. -/
  closing : Bool
  /-- The client's listener sets were cleared. -/
  cleared : Bool
  /-- The tracked subscriptions, in the order they were registered. -/
  subscriptions : List SubscriptionId
  /-- Every subscription, connection and attempt there is or will be. -/
  managed : SubscriptionId → ManagedSubscription
  nextSubscription : SubscriptionId
  connections : ConnectionId → Connection
  nextConnection : ConnectionId
  attempts : AttemptId → Option ConnectAttempt
  nextAttempt : AttemptId
  /-- The armed timeouts. -/
  timers : List (TimerId × ClientTimer)
  nextTimer : TimerId
  /-- The microtasks that register a new subscription. -/
  queued : List SubscriptionId
  /-- The notification the client answers for. -/
  site : Option Site
  /-- What the listeners of the coming notifications do. -/
  script : List (List ClientReaction)
  trace : List ClientRecord

/-- The effect of notifying the data or state listeners of a subscription, with whether
all of them returned, of notifying its error listeners, and of notifying the listeners of
the client. -/
structure Application where
  notify : SubscriptionId → StreamClient → StreamClient × Bool
  report : SubscriptionId → StreamClient → StreamClient
  announce : StreamClient → StreamClient

/-- `TOKEN_REFRESH_LEAD_MS`. -/
def tokenRefreshLead : ℤ := 30000

/-- The longest delay a refresh is scheduled for. -/
def refreshHorizon : ℤ := 2147000000

/-- The pause before a failed refresh is repeated. -/
def refreshRetry : ℤ := 5000

/-- Whether `#scheduleRefresh` arms the timer. -/
def refreshArms (now : ℤ) : Option ℤ → Bool
  | none => false
  | some expiresAt =>
      0 < expiresAt - tokenRefreshLead - now ∧ expiresAt - tokenRefreshLead - now ≤ refreshHorizon

/-- Whether a failed refresh is repeated. -/
def refreshRearms (now expiresAt : ℤ) : Bool := now + refreshRetry < expiresAt

/-- The codes of a failed connect attempt after which the client waits for `reconnect()`. -/
def ErrorCode.suspends : ErrorCode → Bool
  | .unauthenticated | .forbidden | .invalidRequest | .unsupportedCapability => true
  | _ => false

/-- The error of a connection that closes during its handshake. -/
def handshakeClosed : StreamError := ⟨.sourceUnavailable, true⟩

namespace StreamClient

def emit (o : ClientRecord) (s : StreamClient) : StreamClient := { s with trace := s.trace ++ [o] }

def manage (id : SubscriptionId) (subscription : ManagedSubscription) (s : StreamClient) :
    StreamClient :=
  { s with managed := Function.update s.managed id subscription }

/-- The adopted connection while it is connected. -/
def liveConnection (s : StreamClient) : Option ConnectionId :=
  s.connection.filter fun connection => (s.connections connection).connected

/-- Runs `f` as a notification the client answers for. -/
def answering (site : Site) (f : StreamClient → StreamClient) (s : StreamClient) : StreamClient :=
  { f { s with site := some site } with site := none }

/-- `clearTimeout`. -/
def clearTimer (timer : Option TimerId) (s : StreamClient) : StreamClient :=
  { s with timers := s.timers.filter (some ·.1 ≠ timer) }

def clearReconnectTimer (s : StreamClient) : StreamClient :=
  { s.clearTimer s.reconnectTimer with reconnectTimer := none }

def clearRefreshTimer (s : StreamClient) : StreamClient :=
  { s.clearTimer s.refreshTimer with refreshTimer := none }

/-- The handle that refers to an armed timer. -/
def handleOf (s : StreamClient) : ClientTimer → Option TimerId
  | .reconnect => s.reconnectTimer
  | .refresh _ => s.refreshTimer

/-- `setTimeout`. -/
def arm (timer : ClientTimer) (s : StreamClient) : StreamClient :=
  let armed := { s with
    timers := s.timers ++ [(s.nextTimer, timer)]
    nextTimer := s.nextTimer + 1 }.emit (.armed timer (s.handleOf timer).isSome)
  match timer with
  | .reconnect => { armed with reconnectTimer := some s.nextTimer }
  | .refresh _ => { armed with refreshTimer := some s.nextTimer }

/-- The call of `#open()` in an attempt. -/
def start (kind : AttemptKind) (generation : ℕ) (s : StreamClient) : StreamClient :=
  { s with
    attempts := Function.update s.attempts s.nextAttempt (some ⟨kind, generation, none⟩)
    nextAttempt := s.nextAttempt + 1 }

section Notifying

variable (a : Application)

/-! ## Subscriptions -/

/-- `#setState` of a subscription. -/
def change (id : SubscriptionId) (state : SubscriptionState) (reason : Option ErrorCode)
    (force : Bool) (s : StreamClient) : StreamClient :=
  let subscription := s.managed id
  if subscription.terminal && !force then s
  else if subscription.state = state ∧ subscription.reason = reason then s
  else (a.notify id (s.manage id { subscription with state := state, reason := reason })).1

/-- What `#terminate` changes before the state. -/
def retire (id : SubscriptionId) (s : StreamClient) : StreamClient :=
  { s.manage id { s.managed id with terminal := true, attached := none } with
    subscriptions := s.subscriptions.filter (· ≠ id) }.emit (.ended id)

/-- `#terminate`. -/
def terminate (id : SubscriptionId) (state : SubscriptionState) (reason : Option ErrorCode)
    (s : StreamClient) : StreamClient :=
  if (s.managed id).terminal then s
  else
    let s := (s.retire id).change a id state reason true
    s.manage id { s.managed id with cleared := true }

def terminateLocally (id : SubscriptionId) (state : SubscriptionState) (code : ErrorCode)
    (report : Bool) (s : StreamClient) : StreamClient :=
  if (s.managed id).terminal then s
  else (if report then a.report id s else s).terminate a id state (some code)

def listenerFailed (id : SubscriptionId) (s : StreamClient) : StreamClient :=
  if (s.managed id).terminal then s
  else (a.report id s).terminate a id .failed (some .handlerFailed)

def attach (id : SubscriptionId) (connection : ConnectionId) (s : StreamClient) : StreamClient :=
  if (s.managed id).terminal then s
  else
    ((s.manage id { s.managed id with attached := some connection }).emit
      (.attached id connection)).change a id .authorizing none false

def detach (id : SubscriptionId) (reason : Option ErrorCode) (s : StreamClient) : StreamClient :=
  let s := s.manage id { s.managed id with attached := none }
  if (s.managed id).terminal ∨ (s.managed id).state = .resyncRequired then s
  else s.change a id .stale reason false

/-- `authRequired` of a subscription. -/
def requireAuth (id : SubscriptionId) (s : StreamClient) : StreamClient :=
  s.detach a id (some .unauthenticated)

def unsubscribe (id : SubscriptionId) (s : StreamClient) : StreamClient :=
  s.terminate a id .closed none

def perform (id : SubscriptionId) (effect : Effect) (s : StreamClient) : StreamClient :=
  if (s.managed id).terminal then s
  else
    match effect with
    | .changed state reason => s.change a id state reason false
    | .reported => a.report id s
    | .ended state reason => s.terminate a id state reason
    | .reattached =>
        match (s.managed id).attached with
        | none => s
        | some connection =>
            if (s.connections connection).connected then s.attach a id connection else s

def performAll (id : SubscriptionId) (effects : List Effect) (s : StreamClient) : StreamClient :=
  effects.foldl (fun s effect => s.perform a id effect) s

/-- `for (const subscription of this.#subscriptions) subscription.detach(reason)`, which
visits no subscription that has been removed meanwhile. -/
def detachAll (reason : Option ErrorCode) (s : StreamClient) : StreamClient :=
  s.subscriptions.foldl (fun s id => if id ∈ s.subscriptions then s.detach a id reason else s) s

/-- `for (const subscription of [...this.#subscriptions]) subscription.terminateLocally(…)`. -/
def terminateAll (code : ErrorCode) (report : Bool) (s : StreamClient) : StreamClient :=
  s.subscriptions.foldl (fun s id => s.terminateLocally a id .closed code report) s

def attachAll (connection : ConnectionId) (s : StreamClient) : StreamClient :=
  s.subscriptions.foldl (fun s id => s.attach a id connection) s

def requireAuthAll (s : StreamClient) : StreamClient :=
  s.subscriptions.foldl (fun s id => s.requireAuth a id) s

/-! ## Connections -/

def setState (state : ConnectionState) (s : StreamClient) : StreamClient :=
  if s.state = state then s else a.announce ({ s with state := state }.emit (.state state))

def emitError (s : StreamClient) : StreamClient := a.announce s

def suspend (s : StreamClient) : StreamClient :=
  ({ s with suspended := true }.clearReconnectTimer.setState a .authRequired).requireAuthAll a

def scheduleReconnect (s : StreamClient) : StreamClient :=
  if s.closed || s.suspended then s
  else
    let s := s.clearReconnectTimer
    if s.subscriptions = [] then s.setState a .idle
    else (s.answering .reconnecting (setState a .reconnecting)).arm .reconnect

def handleDisconnect (connection : ConnectionId) (s : StreamClient) : StreamClient :=
  if s.connection ≠ some connection then s
  else
    let s := { s with connection := none }.clearRefreshTimer
    let error := s.lastConnectionError
    let s := s.detachAll a (error.map StreamError.code)
    if s.closed then s
    else if error.any fun error => error.code = .unauthenticated ∧ !error.retryable then s.suspend a
    else s.scheduleReconnect a

def markClosed (connection : ConnectionId) (s : StreamClient) : StreamClient :=
  { s with
    connections := Function.update s.connections connection
      { s.connections connection with closed := true } }

/-- `Connection.close`, whose disconnect callback fires only after the hello. -/
def closeConnection (connection : ConnectionId) (s : StreamClient) : StreamClient :=
  if (s.connections connection).closed then s
  else
    let greeted := (s.connections connection).connected
    let s := s.markClosed connection
    if greeted then s.handleDisconnect a connection else s

/-- `#connect` once it has begun, up to the token. -/
def dial (explicit : Bool) (s : StreamClient) : StreamClient :=
  let generation := s.generation + 1
  let s := { s with generation := generation, connecting := true }
  let s := s.setState a (if s.everConnected && !explicit then .reconnecting else .connecting)
  s.start .connect generation

def connect (explicit : Bool) (s : StreamClient) : StreamClient :=
  if s.closed then s
  else
    let cause := if explicit then .explicit else .retry
    (s.emit (.started cause s.liveConnection.isSome)).dial a explicit

def ensureConnection (s : StreamClient) : StreamClient :=
  if s.closed || s.suspended || s.connecting || s.reconnectTimer.isSome then s
  else if s.connection.isSome then s
  else s.connect a false

/-- `register` adds the subscription to the tracked ones. -/
def track (id : SubscriptionId) (s : StreamClient) : StreamClient :=
  let tracked := if id ∈ s.subscriptions then s.subscriptions else s.subscriptions ++ [id]
  { s with subscriptions := tracked }.emit (.registered id)

def register (id : SubscriptionId) (s : StreamClient) : StreamClient :=
  if s.closed then s
  else
    let s := s.track id
    if s.suspended then s.requireAuth a id
    else
      match s.liveConnection with
      | some connection => s.attach a id connection
      | none => s.ensureConnection a

def controlTimedOut (connection : ConnectionId) (s : StreamClient) : StreamClient :=
  if s.connection ≠ some connection then s else s.closeConnection a connection

/-! ## The public calls -/

/-- `subscribe`, which constructs a subscription. -/
def subscribe (s : StreamClient) : StreamClient :=
  if s.closed then s
  else
    { s with
      nextSubscription := s.nextSubscription + 1
      queued := s.queued ++ [s.nextSubscription] }

/-- What `reconnect()` changes before it closes the previous connection. -/
def renewing (s : StreamClient) : StreamClient :=
  { { s with suspended := false, lastConnectionError := none }.clearReconnectTimer with
    connection := none
    connecting := false
    generation := s.generation + 1 }

def reconnect (s : StreamClient) : StreamClient :=
  if s.closed then s
  else
    let previous := s.connection
    let s := s.renewing
    let s :=
      match previous with
      | none => s
      | some connection => (s.closeConnection a connection).detachAll a none
    s.connect a true

/-- What `close()` changes before it ends the subscriptions. -/
def shutting (s : StreamClient) : StreamClient :=
  { s with closed := true, generation := s.generation + 1 }.clearReconnectTimer.clearRefreshTimer

/-- `close()` lets go of the subscriptions and of the connection. -/
def sever (s : StreamClient) : StreamClient :=
  let s := { s with subscriptions := [] }
  match s.connection with
  | none => s
  | some connection => { s.closeConnection a connection with connection := none }

def close (s : StreamClient) : StreamClient :=
  if s.closing then s
  else
    let s := ((s.shutting.terminateAll a .clientClosed false).sever a).setState a .closed
    { s with cleared := true, closing := true }.emit (.closed s.site)

def call (request : ClientCall) (s : StreamClient) : StreamClient :=
  match request with
  | .close => s.close a
  | .reconnect => s.reconnect a
  | .subscribe => s.subscribe
  | .unsubscribe id => s.unsubscribe a id
  | .resync id effects => s.performAll a id effects

def calls (requests : List ClientCall) (s : StreamClient) : StreamClient :=
  requests.foldl (fun s request => s.call a request) s

/-! ## Attempts -/

def scheduleRefresh (now : ℤ) (authExpiresAt : Option ℤ) (s : StreamClient) : StreamClient :=
  let s := s.clearRefreshTimer
  match authExpiresAt with
  | none => s
  | some expiresAt => if refreshArms now (some expiresAt) then s.arm (.refresh expiresAt) else s

/-- The account switch of `#adopt`. -/
def switchIdentity (s : StreamClient) : StreamClient :=
  s.answering .switching fun s =>
    { s.terminateAll a .unauthenticated true with subscriptions := [] }.emitError a

/-- `#adopt` puts the connection in the place of the previous one. -/
def plug (connection : ConnectionId) (identityKey : String) (s : StreamClient) : StreamClient :=
  let previous := s.connection
  let s := { s with connection := some connection }.emit (.adopted connection identityKey)
  match previous with
  | none => s
  | some previous => if previous = connection then s else s.closeConnection a previous

/-- `#adopt`, from the comparison of identities up to the new state. -/
def identify (hello : Hello) (s : StreamClient) : StreamClient :=
  let s := if s.identityKey.any (· ≠ hello.identityKey) then s.switchIdentity a else s
  { s with
    identityKey := some hello.identityKey
    everConnected := true
    lastConnectionError := none }

def adopt (connection : ConnectionId) (hello : Hello) (now : ℤ) (s : StreamClient) : StreamClient :=
  if s.closed then s.closeConnection a connection
  else
    let s := (s.plug a connection hello.identityKey).identify a hello
    let s := s.answering (.connected (refreshArms now hello.authExpiresAt)) (setState a .connected)
    (s.scheduleRefresh now hello.authExpiresAt).attachAll a connection

def handleConnectFailure (error : StreamError) (s : StreamClient) : StreamClient :=
  let s := { s with lastConnectionError := some error }
  let s := s.answering (.refused error.code.suspends) (emitError a)
  if error.code.suspends then s.suspend a else s.scheduleReconnect a

/-- `#refresh`, up to the token. -/
def refresh (expiresAt : ℤ) (s : StreamClient) : StreamClient :=
  if s.closed || s.suspended || s.connection.isNone then s
  else (s.emit (.started .refresh s.liveConnection.isSome)).start (.refresh expiresAt) s.generation

/-- What an attempt does with the connection `#open()` resolves to. -/
def opened (attempt : ConnectAttempt) (connection : ConnectionId) (hello : Hello) (now : ℤ)
    (s : StreamClient) : StreamClient :=
  match attempt.kind with
  | .connect =>
      if attempt.generation ≠ s.generation then s.closeConnection a connection
      else { s with connecting := false }.adopt a connection hello now
  | .refresh _ =>
      if attempt.generation ≠ s.generation ∨ s.closed ∨ s.suspended then
        s.closeConnection a connection
      else { s with generation := s.generation + 1 }.adopt a connection hello now

/-- What an attempt does when `#open()` rejects. -/
def rejected (attempt : ConnectAttempt) (error : StreamError) (now : ℤ) (s : StreamClient) : StreamClient :=
  if attempt.generation ≠ s.generation then s
  else
    match attempt.kind with
    | .connect => { s with connecting := false }.handleConnectFailure a error
    | .refresh expiresAt =>
        let s := s.answering (.refreshFailed (refreshRearms now expiresAt)) (emitError a)
        if refreshRearms now expiresAt then s.arm (.refresh expiresAt) else s

/-- The token of an attempt, with which it opens a connection. -/
def openConnection (id : AttemptId) (attempt : ConnectAttempt) (s : StreamClient) : StreamClient :=
  { s with
    nextConnection := s.nextConnection + 1
    attempts := Function.update s.attempts id
      (some { attempt with awaits := some s.nextConnection }) }

/-- An attempt is over. -/
def finish (id : AttemptId) (s : StreamClient) : StreamClient :=
  { s with attempts := Function.update s.attempts id none }

/-- The continuation of an attempt whose connection is ready, or never will be. -/
def resume (id : AttemptId) (attempt : ConnectAttempt) (connection : ConnectionId) (now : ℤ)
    (s : StreamClient) : StreamClient :=
  match (s.connections connection).ready with
  | .pending => s
  | .rejected error => (s.finish id).rejected a attempt error now
  | .resolved hello =>
      if (s.connections connection).connected then
        (s.finish id).opened a attempt connection hello now
      else (s.finish id).rejected a attempt handshakeClosed now

/-- The transport of a connection settles its handshake. -/
def settle (connection : ConnectionId) (ready : Ready) (closed : Bool) (s : StreamClient) :
    StreamClient :=
  if connection < s.nextConnection ∧ (s.connections connection).ready = .pending ∧
      !(s.connections connection).closed then
    { s with connections := Function.update s.connections connection ⟨ready, closed⟩ }
  else s

/-- The transport of a connection is lost. -/
def drop (connection : ConnectionId) (s : StreamClient) : StreamClient :=
  if s.nextConnection ≤ connection then s
  else (s.settle connection (.rejected handshakeClosed) true).closeConnection a connection

/-- A timeout that fires is not armed any more. -/
def expire (timer : TimerId × ClientTimer) (s : StreamClient) : StreamClient :=
  let s := s.clearTimer (some timer.1)
  match timer.2 with
  | .reconnect => { s with reconnectTimer := none }
  | .refresh _ => { s with refreshTimer := none }

def fire (timer : TimerId × ClientTimer) (s : StreamClient) : StreamClient :=
  let s := s.expire timer
  match timer.2 with
  | .reconnect => if s.subscriptions = [] then s.setState a .idle else s.connect a false
  | .refresh expiresAt => s.refresh expiresAt

/-- `#route` for a state or data frame; `delivers` says whether the subscription takes it
for a data event. -/
def route (connection : ConnectionId) (id : SubscriptionId) (delivers : Bool)
    (effects : List Effect) (s : StreamClient) : StreamClient :=
  if s.connection ≠ some connection ∨ !(s.connections connection).connected then s
  else if id ∉ s.subscriptions then s
  else
    let s := s.emit (.dispatched connection id)
    if (s.managed id).terminal ∨ (s.managed id).attached ≠ some connection then s
    else if delivers then
      match a.notify id (s.emit (.delivered id connection)) with
      | (s, false) => s
      | (s, true) => s.performAll a id effects
    else s.performAll a id effects

/-- A connection-level error frame. -/
def handleErrorFrame (connection : ConnectionId) (error : StreamError) (s : StreamClient) :
    StreamClient :=
  if s.connection ≠ some connection then s
  else { s with lastConnectionError := some error }.emitError a

/-! ## Listeners -/

/-- Runs the data or state listeners of a subscription in turn.  One that throws fails the
subscription and ends the round; the end of the subscription clears the listener sets. -/
def react (id : SubscriptionId) : List ClientReaction → StreamClient → StreamClient × Bool
  | [], s => (s, true)
  | reaction :: reactions, s =>
      if (s.managed id).cleared then (s, true)
      else
        let s := s.calls a reaction.calls
        if reaction.throws then (s.listenerFailed a id, false) else react id reactions s

/-- Runs listeners in turn, whose failures are only logged. -/
def reactQuietly (cleared : StreamClient → Bool) : List ClientReaction → StreamClient → StreamClient
  | [], s => s
  | reaction :: reactions, s =>
      if cleared s then s else reactQuietly cleared reactions (s.calls a reaction.calls)

end Notifying

/-- An application that follows the script, nested notifications included. -/
def application : ℕ → Application
  | 0 => ⟨fun _ s => (s, true), fun _ s => s, id⟩
  | depth + 1 =>
      { notify := fun id s =>
          match s.script with
          | [] => (s, true)
          | reactions :: rest => react (application depth) id reactions { s with script := rest }
        report := fun id s =>
          match s.script with
          | [] => s
          | reactions :: rest =>
              reactQuietly (application depth) (fun s => (s.managed id).cleared) reactions
                { s with script := rest }
        announce := fun s =>
          match s.script with
          | [] => s
          | reactions :: rest =>
              reactQuietly (application depth) StreamClient.cleared reactions
                { s with script := rest } }

end StreamClient

/-- What happens to the client. -/
inductive ClientEvent
  /-- The microtask of a new subscription. -/
  | register (id : SubscriptionId)
  /-- `getToken` gives an attempt its token, or fails it. -/
  | token (id : AttemptId) (failure : Option StreamError) (now : ℤ)
  | hello (connection : ConnectionId) (hello : Hello)
  /-- A connect error, the handshake deadline or an unsupported hello. -/
  | refuse (connection : ConnectionId) (error : StreamError)
  | drop (connection : ConnectionId)
  | resume (id : AttemptId) (now : ℤ)
  | timer (id : TimerId)
  | frame (connection : ConnectionId) (id : SubscriptionId) (delivers : Bool)
      (effects : List Effect)
  /-- An error frame for a subscription. -/
  | error (connection : ConnectionId) (id : SubscriptionId)
  | errorFrame (connection : ConnectionId) (error : StreamError)
  /-- A continuation or timer of an attached subscription. -/
  | settled (id : SubscriptionId) (effects : List Effect)
  | controlTimedOut (connection : ConnectionId)
  | call (request : ClientCall)
  /-- A promise returned by a listener was rejected. -/
  | listenerRejected (id : SubscriptionId)
  deriving DecidableEq, Repr

structure StreamClientInput where
  event : ClientEvent
  script : List (List ClientReaction)
  deriving DecidableEq, Repr

namespace StreamClient

/-- One event, with the application `a` in place. -/
def handle (a : Application) (event : ClientEvent) (s : StreamClient) : StreamClient :=
  match event with
  | .register id =>
      if id ∉ s.queued then s
      else
        let s := { s with queued := s.queued.filter (· ≠ id) }
        if (s.managed id).terminal then s else s.register a id
  | .token id failure now =>
      match s.attempts id with
      | none => s
      | some attempt =>
          if attempt.awaits.isSome then s
          else
            match failure with
            | none => s.openConnection id attempt
            | some error => (s.finish id).rejected a attempt error now
  | .hello connection hello => s.settle connection (.resolved hello) false
  | .refuse connection error => s.settle connection (.rejected error) true
  | .drop connection => s.drop a connection
  | .resume id now =>
      match s.attempts id with
      | none => s
      | some attempt =>
          match attempt.awaits with
          | none => s
          | some connection => s.resume a id attempt connection now
  | .timer id =>
      match s.timers.find? (·.1 = id) with
      | none => s
      | some timer => s.fire a timer
  | .frame connection id delivers effects => s.route a connection id delivers effects
  | .error connection id =>
      if s.connection ≠ some connection ∨ id ∉ s.subscriptions then s
      else if (s.managed id).terminal ∨ (s.managed id).attached ≠ some connection then s
      else a.report id s
  | .errorFrame connection error => s.handleErrorFrame a connection error
  | .settled id effects => if (s.managed id).attached.isNone then s else s.performAll a id effects
  | .controlTimedOut connection => s.controlTimedOut a connection
  | .call request => s.call a request
  | .listenerRejected id => s.listenerFailed a id

/-- One event, with listeners that follow the event's script. -/
def step (s : StreamClient) (input : StreamClientInput) : StreamClient :=
  { s with script := input.script }.handle (application input.script.length) input.event

/-- A client just created. -/
def initial : StreamClient where
  state := .idle
  connection := none
  identityKey := none
  generation := 0
  connecting := false
  suspended := false
  closed := false
  everConnected := false
  lastConnectionError := none
  reconnectTimer := none
  refreshTimer := none
  closing := false
  cleared := false
  subscriptions := []
  managed := fun _ => .fresh
  nextSubscription := 0
  connections := fun _ => ⟨.pending, false⟩
  nextConnection := 0
  attempts := fun _ => none
  nextAttempt := 0
  timers := []
  nextTimer := 0
  queued := []
  site := none
  script := []
  trace := []

/-- Every order of events. -/
def machine : Machine StreamClient StreamClientInput where
  step := step
  allowed := fun _ _ => True

end StreamClient

end StreamOtter
