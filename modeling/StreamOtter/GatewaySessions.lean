import StreamOtter.ServerRun

/-!
# The sessions of a gateway

Any number of sessions, each with any number of subscriptions, that share the budget of the
gateway.  A session that closes disposes the subscriptions it holds, also in the middle of a
send of one of them; what follows the send in the same stretch reserves nothing and reads no
level, so the others are disposed right after the stretch.
-/

namespace StreamOtter

/-- What the subscriptions of a gateway are built with. -/
structure GatewayLimits where
  subscription : Limits
  maxPendingFramesPerSubscription : ℕ
  maxPendingBytesPerSubscription : ℕ
  maxPendingBytesGateway : ℕ
  deriving DecidableEq, Repr

/-- A subscription with its channel. -/
structure Member where
  channel : String
  channelVersion : ℕ
  subscription : ServerSubscription
  deriving DecidableEq, Repr

/-- A session, with every subscription it ever had. -/
structure SessionState where
  closed : Bool
  level : ByteBudget
  members : List Member
  deriving DecidableEq, Repr

structure GatewayState where
  level : ByteBudget
  sessions : List SessionState
  deriving DecidableEq, Repr

def Member.config (limits : GatewayLimits) (m : Member) : ServerConfig :=
  ⟨limits.subscription, m.channel, m.channelVersion⟩

/-- The subscription as it finds its session and the levels it shares. -/
def Member.loaded (closed : Bool) (connection gateway : ByteBudget) (m : Member) :
    ServerSubscription :=
  { m.subscription with
    sessionClosed := closed
    budget := { m.subscription.budget with connection := connection, gateway := gateway } }

namespace GatewayState

def initial (limits : GatewayLimits) : GatewayState := ⟨⟨limits.maxPendingBytesGateway, 0⟩, []⟩

def session (g : GatewayState) (i : ℕ) : Option SessionState := g.sessions[i]?

/-- The subscription at `j` of session `i` as a stretch of it begins. -/
def loaded (g : GatewayState) (i j : ℕ) : Option ServerSubscription :=
  (g.sessions[i]?).bind fun session =>
    (session.members[j]?).map (Member.loaded session.closed session.level g.level)

/-- The state in which session `i` is `session`. -/
def setSession (g : GatewayState) (i : ℕ) (session : SessionState) : GatewayState :=
  { g with sessions := g.sessions.set i session }

/-- A subscription, and the levels it shares, as a stretch of it left them. -/
def stored (g : GatewayState) (i j : ℕ) (session : SessionState) (m : Member)
    (s : ServerSubscription) : GatewayState :=
  { level := s.budget.gateway
    sessions := g.sessions.set i
      { closed := s.sessionClosed
        level := s.budget.connection
        members := session.members.set j { m with subscription := s } } }

/-- Runs a stretch of the subscription at `j` of session `i`. -/
def update (i j : ℕ) (stretch : Member → ServerSubscription → ServerSubscription)
    (g : GatewayState) : GatewayState :=
  match g.sessions[i]? with
  | none => g
  | some session =>
      match session.members[j]? with
      | none => g
      | some m => g.stored i j session m (stretch m (m.loaded session.closed session.level g.level))

/-- What `#teardown` does to a subscription in the session's map. -/
def disposeHeld (s : ServerSubscription) : ServerSubscription :=
  if s.held then s.dispose.remove else s

/-- `for (const subscription of this.#subscriptions.values()) subscription.dispose()`. -/
def disposeAll (i : ℕ) (g : GatewayState) : GatewayState :=
  match g.sessions[i]? with
  | none => g
  | some session =>
      (List.range session.members.length).foldl (fun g j => g.update i j fun _ => disposeHeld) g

def isClosed (g : GatewayState) (i : ℕ) : Bool := (g.sessions[i]?).any SessionState.closed

end GatewayState

inductive GatewayInput
  /-- A connection is authenticated. -/
  | connect
  /-- A subscribe request of session `i` is accepted. -/
  | subscribe (i : ℕ) (channel : String) (channelVersion : ℕ) (source : SourceRuntime)
  | stretch (i j : ℕ) (input : ServerInput)
  /-- The transport closed, or the session was closed for a reason of its own. -/
  | close (i : ℕ)

namespace GatewayState

/-- A stretch of a subscription is one of its own: others reserve and release in theirs. -/
def ownStep : ServerStep → Bool
  | .elsewhere _ _ => false
  | _ => true

def stretched (limits : GatewayLimits) (i j : ℕ) (input : ServerInput) (g : GatewayState) :
    GatewayState :=
  if !ownStep input.step then g
  else
    let after := g.update i j fun m s => s.step (m.config limits) input
    if !g.isClosed i && after.isClosed i then after.disposeAll i else after

def subscribed (limits : GatewayLimits) (i : ℕ) (channel : String) (channelVersion : ℕ)
    (source : SourceRuntime) (g : GatewayState) : GatewayState :=
  match g.sessions[i]? with
  | none => g
  | some session =>
      if session.closed then g
      else
        let budget : SubscriptionBudget :=
          ⟨limits.maxPendingFramesPerSubscription, 0, ⟨limits.maxPendingBytesPerSubscription, 0⟩,
            session.level, g.level, []⟩
        g.setSession i { session with
          members := session.members ++
            [⟨channel, channelVersion, ServerSubscription.initial budget source⟩] }

def closed (i : ℕ) (g : GatewayState) : GatewayState :=
  match g.sessions[i]? with
  | none => g
  | some session =>
      if session.closed then g else (g.setSession i { session with closed := true }).disposeAll i

def step (limits : GatewayLimits) (g : GatewayState) : GatewayInput → GatewayState
  | .connect =>
      { g with
        sessions := g.sessions ++
          [⟨false, ⟨limits.subscription.maxPendingBytesPerConnection, 0⟩, []⟩] }
  | .subscribe i channel channelVersion source =>
      g.subscribed limits i channel channelVersion source
  | .stretch i j input => g.stretched limits i j input
  | .close i => g.closed i

/-- Every interleaving of the stretches of all subscriptions. -/
def machine (limits : GatewayLimits) : Machine GatewayState GatewayInput where
  step := step limits
  allowed := fun _ _ => True

end GatewayState

end StreamOtter
