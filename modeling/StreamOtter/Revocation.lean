import StreamOtter.JsValue
import StreamOtter.RecordPreparation
import StreamOtter.Machine

/-!
# Handshakes, sessions and revocations

A translation of the revocation log and of what the gateway does with it: a handshake
notes the log's position and suspends on the application's `authenticate` handler, the
transport opens a session for its result some time later, and a revocation is recorded and
ends the sessions it matches.  Each step is one synchronous stretch, with the microtasks it
queues.

The parsing of times and the canonical text of parameters are parameters.  Traces, log lines
and request IDs are left out, and so is what a session's subscriptions do but for the frames
they send.  `history`, `sent` and the two positions a session carries are not in the source:
they record what the results talk about.
-/

namespace StreamOtter

/-- `Principal`; the expiry is the time its text denotes. -/
structure Principal where
  subject : String
  tenantId : String
  sessionId : String
  expiresAt : ℕ

inductive Revocation
  | session (tenantId sessionId : String)
  | subject (tenantId subject : String)
  | channel (tenantId subject channel : String) (channelVersion : ℕ) (params : Option JsValue)

namespace Revocation

def isChannel : Revocation → Bool
  | .channel .. => true
  | _ => false

/-- `matchesPrincipal`. -/
def matchesPrincipal (selector : Revocation) (principal : Principal) : Bool :=
  match selector with
  | .session tenantId sessionId =>
      tenantId = principal.tenantId && sessionId = principal.sessionId
  | .subject tenantId name | .channel tenantId name _ _ _ =>
      tenantId = principal.tenantId && name = principal.subject

/-- A session or subject selector that names this principal. -/
def Ends (selector : Revocation) (principal : Principal) : Prop :=
  selector.isChannel = false ∧ selector.matchesPrincipal principal = true

end Revocation

/-- The channel contract that an authorization check names. -/
structure Contract where
  channel : String
  channelVersion : ℕ
  canonicalParams : String
  deriving DecidableEq, Repr

structure RevocationEntry where
  seq : ℕ
  time : ℕ
  selector : Revocation
  canonicalParams : Option String

structure RevocationLog where
  entries : List RevocationEntry
  sequence : ℕ

def maxRevocationEntries : ℕ := 10000

namespace RevocationLog

def empty : RevocationLog := ⟨[], 0⟩

/-- Expired entries are pruned, and the oldest is dropped once 10,000 are held. -/
def pruned (retentionMs now : ℕ) (log : RevocationLog) : List RevocationEntry :=
  let fresh := log.entries.filter fun entry => now - entry.time ≤ retentionMs
  if maxRevocationEntries ≤ fresh.length then fresh.tail else fresh

def add (retentionMs now : ℕ) (selector : Revocation) (canonicalParams : Option String)
    (log : RevocationLog) : RevocationLog :=
  ⟨log.pruned retentionMs now ++ [⟨log.sequence + 1, now, selector, canonicalParams⟩],
    log.sequence + 1⟩

/-- A channel entry narrowed to the parameters it was recorded with. -/
def revokes (entry : RevocationEntry) (principal : Principal) (contract : Option Contract) :
    Bool :=
  entry.selector.matchesPrincipal principal &&
    match entry.selector, contract with
    | .channel _ _ name version _, some contract =>
        name = contract.channel && version = contract.channelVersion &&
          entry.canonicalParams.all (fun params => params = contract.canonicalParams)
    | .channel .., none => false
    | _, _ => true

def revokedSince (sinceSeq : ℕ) (principal : Principal) (contract : Option Contract)
    (log : RevocationLog) : Bool :=
  log.entries.any fun entry => !(entry.seq ≤ sinceSeq) && revokes entry principal contract

end RevocationLog

structure PreviewSession where
  principal : Principal
  expiresAtMs : ℕ

/-- `HandshakeResult`. -/
structure HandshakeResult where
  principal : Principal
  previewSessionId : Option ℕ
  revocationSeq : ℕ

/-- An open `ClientSession`. -/
structure ClientSession where
  id : ℕ
  principal : Principal
  previewSessionId : Option ℕ
  subscriptions : List Contract
  /-- The log's position when the handshake began. -/
  beganSeq : ℕ
  /-- The log's position when the session was opened. -/
  openedSeq : ℕ

structure HandshakeInput where
  origin : Option String
  auth : JsValue

/-- How the `authenticate` call ended.  An aborted call may still be running, and the abort
is the client's or the gateway's. -/
inductive AuthenticateOutcome
  | ok (value : JsValue) | timeout | error | aborted (running byClient : Bool)

structure HandshakeRefusal where
  code : ErrorCode
  message : Option String
  retryable : Option Bool
  deriving DecidableEq, Repr

structure GatewayConfig where
  production : Bool
  allowedOrigins : List String
  maxConnections : ℕ
  retentionMs : ℕ
  channel : String → Option Channel
  canonicalJson : JsValue → String
  /-- `parseUtcTimestamp`, `none` for `NaN`. -/
  parseUtcTimestamp : JsValue → Option ℕ

structure Gateway where
  running : Bool
  log : RevocationLog
  sessions : List ClientSession
  /-- Handshakes at the `authenticate` call, with the log's position when they began. -/
  pending : List (ℕ × ℕ)
  abandonedAuthenticates : ℕ
  /-- Handshakes that succeeded and whose connection has not opened. -/
  authenticated : List (ℕ × HandshakeResult)
  previewTokens : String → Option ℕ
  previews : ℕ → Option PreviewSession
  nextId : ℕ
  /-- Every revocation recorded so far. -/
  history : List RevocationEntry
  /-- The data frames sent so far: the session, and the log's position at the time. -/
  sent : List (ClientSession × ℕ)

namespace Gateway

def initial : Gateway where
  running := true
  log := .empty
  sessions := []
  pending := []
  abandonedAuthenticates := 0
  authenticated := []
  previewTokens := fun _ => none
  previews := fun _ => none
  nextId := 0
  history := []
  sent := []

def maxTokenBytes : ℕ := 8192

def maxIdentityField : ℕ := 512

section Handshake

variable (c : GatewayConfig)

def identityField (fields : List (String × JsValue)) (name : String) :
    Except String String :=
  match JsValue.property fields name with
  | .string text =>
      if text = "" || maxIdentityField < utf16Length text then
        .error ("principal." ++ name ++ " must be a non-empty string")
      else .ok text
  | _ => .error ("principal." ++ name ++ " must be a non-empty string")

/-- `principalProblem` and, without a problem, `freezePrincipal`. -/
def checkedPrincipal (now : ℕ) (value : JsValue) : Except String Principal :=
  match value with
  | .object fields => do
      let subject ← identityField fields "subject"
      let tenantId ← identityField fields "tenantId"
      let sessionId ← identityField fields "sessionId"
      match c.parseUtcTimestamp (JsValue.property fields "expiresAt") with
      | none => .error "principal.expiresAt must be a UTC RFC3339 timestamp"
      | some expiresAt =>
          if expiresAt ≤ now then .error "principal.expiresAt must be in the future"
          else
            match JsValue.property fields "claims" with
            | .object claims =>
                if (JsValue.object claims).isJsonValue then
                  .ok ⟨subject, tenantId, sessionId, expiresAt⟩
                else .error "principal.claims must be a JSON object"
            | _ => .error "principal.claims must be a JSON object"
  | _ => .error "principal must be an object"

/-- The refusals of a handshake before anything is looked up, or its token. -/
def handshakeToken (input : HandshakeInput) (g : Gateway) : Except HandshakeRefusal String :=
  if !g.running then
    .error ⟨.overloaded, some "The gateway is not accepting connections.", none⟩
  else if input.origin.all (· = "") && c.production then
    .error ⟨.forbidden, some "An Origin header is required.", none⟩
  else if input.origin.any (fun origin => origin ≠ "" && !c.allowedOrigins.contains origin) then
    .error ⟨.forbidden, some "This origin is not allowed.", none⟩
  else
    match input.auth with
    | .object fields =>
        if fields.any (fun field => field.1 ≠ "token" && field.1 ≠ "protocolVersion") then
          .error ⟨.invalidRequest,
            some "Only token and protocolVersion are accepted in the authentication payload.", none⟩
        else
          match JsValue.property fields "protocolVersion", JsValue.property fields "token" with
          | .number _ "1", .string token =>
              if token = "" || maxTokenBytes < token.utf8ByteSize then
                .error ⟨.unauthenticated,
                  some "A non-empty token of at most 8 KiB is required.", some false⟩
              else if c.maxConnections ≤
                  g.sessions.length + g.pending.length + g.abandonedAuthenticates then
                .error ⟨.overloaded, some "The gateway has reached its connection limit.", none⟩
              else .ok token
          | .number _ "1", _ =>
              .error ⟨.unauthenticated,
                some "A non-empty token of at most 8 KiB is required.", some false⟩
          | _, _ =>
              .error ⟨.unsupportedCapability,
                some "This gateway requires protocol version 1.", none⟩
    | _ => .error ⟨.unauthenticated, none, some false⟩

/-- The end of `authenticateHandshake`: the recheck and the result. -/
def conclude (id : ℕ) (result : HandshakeResult) (g : Gateway) :
    Gateway × Except HandshakeRefusal Unit :=
  if g.log.revokedSince result.revocationSeq result.principal none then
    (g, .error ⟨.unauthenticated, some "Access was revoked.", some false⟩)
  else if !g.running then
    (g, .error ⟨.overloaded, some "The gateway is not accepting connections.", none⟩)
  else ({ g with authenticated := g.authenticated ++ [(id, result)] }, .ok ())

/-- `authenticateHandshake` up to the `authenticate` call.  A preview token needs none. -/
def authenticateHandshake (now : ℕ) (input : HandshakeInput) (g : Gateway) :
    Gateway × Except HandshakeRefusal Unit :=
  match g.handshakeToken c input with
  | .error refusal => (g, .error refusal)
  | .ok token =>
      let id := g.nextId
      let g := { g with nextId := id + 1 }
      match if c.production then none else g.previewTokens token with
      | some previewId =>
          match g.previews previewId with
          | some preview =>
              if preview.expiresAtMs ≤ now then
                (g, .error ⟨.unauthenticated, some "The preview token has expired.", some false⟩)
              else g.conclude id ⟨preview.principal, some previewId, g.log.sequence⟩
          | none =>
              (g, .error ⟨.unauthenticated, some "The preview token has expired.", some false⟩)
      | none => ({ g with pending := g.pending ++ [(id, g.log.sequence)] }, .ok ())

/-- `authenticateHandshake` once its `authenticate` call has ended. -/
def settle (now : ℕ) (id : ℕ) (outcome : AuthenticateOutcome) (g : Gateway) :
    Gateway × Except HandshakeRefusal Unit :=
  match g.pending.find? (·.1 = id) with
  | none => (g, .ok ())
  | some (_, revocationSeq) =>
      let g := { g with pending := g.pending.filter (·.1 ≠ id) }
      let failed : Except HandshakeRefusal Unit :=
        .error ⟨.handlerFailed, some "Authentication could not be completed; try again.", none⟩
      match outcome with
      | .aborted running byClient =>
          ({ g with abandonedAuthenticates := g.abandonedAuthenticates + if running then 1 else 0 },
            .error (if byClient then ⟨.cancelled, some "The client disconnected.", none⟩
              else ⟨.overloaded, some "The gateway is shutting down.", none⟩))
      | .timeout | .error => (g, failed)
      | .ok .null => (g, .error ⟨.unauthenticated, none, some false⟩)
      | .ok value =>
          match checkedPrincipal c now value with
          | .error problem =>
              (g, .error
                (if problem = "principal.expiresAt must be in the future" then
                  ⟨.unauthenticated, some "The token has expired.", some false⟩
                else
                  ⟨.handlerFailed, some "Authentication could not be completed; try again.",
                    some true⟩))
          | .ok principal => g.conclude id ⟨principal, none, revocationSeq⟩

end Handshake

/-- `openSession`, with the microtask that closes the session again when the gateway is no
longer running or the principal was revoked since its handshake began. -/
def openSession (id : ℕ) (g : Gateway) : Gateway :=
  match g.authenticated.find? (·.1 = id) with
  | none => g
  | some (_, result) =>
      let g := { g with authenticated := g.authenticated.filter (·.1 ≠ id) }
      if !g.running || g.log.revokedSince result.revocationSeq result.principal none then g
      else
        { g with sessions := g.sessions ++
            [⟨id, result.principal, result.previewSessionId, [], result.revocationSeq,
              g.log.sequence⟩] }

/-- Whether a channel revocation ends this subscription of a matching session. -/
def endsContract (selector : Revocation) (canonicalParams : Option String)
    (contract : Contract) : Bool :=
  match selector with
  | .channel _ _ channel channelVersion _ =>
      contract.channel = channel && contract.channelVersion = channelVersion &&
        canonicalParams.all (fun params => contract.canonicalParams = params)
  | _ => false

/-- What a revocation leaves of a session. -/
def revokeSession (selector : Revocation) (canonicalParams : Option String)
    (session : ClientSession) : Option ClientSession :=
  if !selector.matchesPrincipal session.principal then some session
  else if selector.isChannel then
    some { session with subscriptions :=
      session.subscriptions.filter fun contract => !endsContract selector canonicalParams contract }
  else none

def revocationParams (c : GatewayConfig) : Revocation → Option String
  | .channel _ _ channel _ (some params) =>
      match c.channel channel with
      | none => some (c.canonicalJson params)
      | some found =>
          match found.canonicalizeParams params with
          | .ok canonical => some canonical
          | .error _ => some (c.canonicalJson params)
  | _ => none

/-- `revoke`, once the request has been validated. -/
def revoke (c : GatewayConfig) (now : ℕ) (selector : Revocation) (g : Gateway) : Gateway :=
  let canonicalParams := revocationParams c selector
  { g with
    log := g.log.add c.retentionMs now selector canonicalParams
    history := g.history ++ [⟨g.log.sequence + 1, now, selector, canonicalParams⟩]
    sessions := g.sessions.filterMap (revokeSession selector canonicalParams) }

end Gateway

inductive GatewayEvent
  | handshake (now : ℕ) (input : HandshakeInput)
  | settled (now id : ℕ) (outcome : AuthenticateOutcome)
  /-- An abandoned `authenticate` call settled, or its timeout passed. -/
  | released
  | opened (id : ℕ)
  /-- The connection of a successful handshake closed before it opened. -/
  | dropped (id : ℕ)
  | revoked (now : ℕ) (selector : Revocation)
  | subscribed (session : ℕ) (contract : Contract)
  /-- A subscription of an open session sends a data frame. -/
  | data (session : ℕ)
  /-- A session tears down: expiry, a closed transport, a stalled client. -/
  | ended (session : ℕ)
  /-- Preview sessions were created or pruned. -/
  | previews (tokens : String → Option ℕ) (sessions : ℕ → Option PreviewSession)
  | stop

namespace Gateway

def step (c : GatewayConfig) (g : Gateway) : GatewayEvent → Gateway
  | .handshake now input => (g.authenticateHandshake c now input).1
  | .settled now id outcome => (g.settle c now id outcome).1
  | .released => { g with abandonedAuthenticates := g.abandonedAuthenticates - 1 }
  | .opened id => g.openSession id
  | .dropped id => { g with authenticated := g.authenticated.filter (·.1 ≠ id) }
  | .revoked now selector => g.revoke c now selector
  | .subscribed id contract =>
      { g with sessions := g.sessions.map fun session =>
          if session.id = id then
            { session with subscriptions := session.subscriptions ++ [contract] }
          else session }
  | .data id =>
      { g with sent := g.sent ++
          (g.sessions.filter (·.id = id)).map fun session => (session, g.log.sequence) }
  | .ended id => { g with sessions := g.sessions.filter (·.id ≠ id) }
  | .previews tokens sessions => { g with previewTokens := tokens, previews := sessions }
  | .stop => { g with running := false, sessions := [] }

def machine (c : GatewayConfig) : Machine Gateway GatewayEvent where
  step := step c
  allowed := fun _ _ => True

end Gateway

end StreamOtter
