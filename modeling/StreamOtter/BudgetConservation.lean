import StreamOtter.ServerCharges
import StreamOtter.GatewaySessions
import StreamOtter.SyncProtocol

/-!
# Conservation of the outbound budget

Between any two stretches of any subscriptions, what each level has used is what the
subscriptions below it hold, within its limit; what was reserved and is no longer held was
released once.  The exception is a snapshot that is sent over a frame in flight.
-/

namespace StreamOtter

open ServerSubscription SubscriptionBudget

/-- The sizes of the frames queued or in flight on a subscription that has not terminated. -/
def Member.pendingSizes (m : Member) : List ℕ :=
  if m.subscription.terminated then [] else m.subscription.heldSizes

def Member.pendingBytes (m : Member) : ℕ := m.pendingSizes.sum

def SessionState.pendingBytes (session : SessionState) : ℕ :=
  (session.members.map Member.pendingBytes).sum

def GatewayState.pendingBytes (g : GatewayState) : ℕ :=
  (g.sessions.map SessionState.pendingBytes).sum

/-- The level of a subscription: its frames and bytes are those it holds, within its limits.
Every reservation is of a frame it holds, or was released once; no release was clamped. -/
structure Member.Conserved (limits : GatewayLimits) (m : Member) : Prop where
  maxFrames : m.subscription.budget.maxFrames = limits.maxPendingFramesPerSubscription
  limit : m.subscription.budget.bytes.limit = limits.maxPendingBytesPerSubscription
  frames : m.subscription.budget.frames = m.pendingSizes.length
  used : m.subscription.budget.bytes.used = m.pendingBytes
  framesWithin : m.pendingSizes.length ≤ limits.maxPendingFramesPerSubscription
  usedWithin : m.pendingBytes ≤ limits.maxPendingBytesPerSubscription
  accounted :
    (reservedSizes m.subscription.budget.calls).Perm
      (releasedSizes m.subscription.budget.calls ++ m.pendingSizes)
  unclamped : Unclamped m.subscription.budget.calls
  quiet : m.subscription.terminated → m.subscription.heldSizes = []

/-- The level of a session. -/
structure SessionState.Conserved (limits : GatewayLimits) (session : SessionState) : Prop where
  level : session.level = ⟨limits.subscription.maxPendingBytesPerConnection, session.pendingBytes⟩
  within : session.pendingBytes ≤ limits.subscription.maxPendingBytesPerConnection
  members : ∀ m ∈ session.members, m.Conserved limits

/-- Every level. -/
structure GatewayState.Conserved (limits : GatewayLimits) (g : GatewayState) : Prop where
  level : g.level = ⟨limits.maxPendingBytesGateway, g.pendingBytes⟩
  within : g.pendingBytes ≤ limits.maxPendingBytesGateway
  sessions : ∀ session ∈ g.sessions, session.Conserved limits

/-- One summand apart from the others, which stay when it is replaced. -/
theorem sum_map_split {α : Type*} (f : α → ℕ) {l : List α} {i : ℕ} {a : α} (h : l[i]? = some a) :
    ∃ rest, (l.map f).sum = f a + rest ∧ ∀ b, ((l.set i b).map f).sum = f b + rest := by
  induction l generalizing i with
  | nil => cases h
  | cons first l ih =>
      cases i with
      | zero =>
          obtain rfl : first = a := by simpa using h
          exact ⟨(l.map f).sum, by simp, fun b => by simp⟩
      | succ i =>
          obtain ⟨rest, hsum, hset⟩ := ih h
          refine ⟨f first + rest, ?_, ?_⟩
          · rw [List.map_cons, List.sum_cons, hsum]
            omega
          · intro b
            rw [List.set_cons_succ, List.map_cons, List.sum_cons, hset]
            omega

theorem pendingSizes_eq {m : Member}
    (hquiet : m.subscription.terminated → m.subscription.heldSizes = []) :
    m.pendingSizes = m.subscription.heldSizes := by
  unfold Member.pendingSizes
  split
  · case isTrue hterminated => rw [hquiet hterminated]
  · rfl

section Update

variable {limits : GatewayLimits} {g : GatewayState} {i j : ℕ} {session : SessionState}
  {m : Member}

/-- What the other subscriptions of a session, and the other sessions, hold. -/
structure Apart (g : GatewayState) (i j : ℕ) (session : SessionState) (m : Member)
    (others elsewhere : ℕ) : Prop where
  sessionAt : g.sessions[i]? = some session
  memberAt : session.members[j]? = some m
  inSession : session.pendingBytes = m.pendingBytes + others
  inGateway : g.pendingBytes = session.pendingBytes + elsewhere
  replaced : ∀ m', ((session.members.set j m').map Member.pendingBytes).sum =
    m'.pendingBytes + others
  sessionReplaced : ∀ session', ((g.sessions.set i session').map SessionState.pendingBytes).sum =
    session'.pendingBytes + elsewhere

theorem exists_apart (hsession : g.sessions[i]? = some session)
    (hm : session.members[j]? = some m) :
    ∃ others elsewhere, Apart g i j session m others elsewhere := by
  obtain ⟨others, hothers, hset⟩ := sum_map_split Member.pendingBytes hm
  obtain ⟨elsewhere, helsewhere, hsessions⟩ := sum_map_split SessionState.pendingBytes hsession
  exact ⟨others, elsewhere, hsession, hm, hothers, helsewhere, hset, hsessions⟩

/-- The levels without one subscription's frames. -/
def levelsApart (limits : GatewayLimits) (others elsewhere : ℕ) : SubscriptionBudget :=
  ⟨limits.maxPendingFramesPerSubscription, 0, ⟨limits.maxPendingBytesPerSubscription, 0⟩,
    ⟨limits.subscription.maxPendingBytesPerConnection, others⟩,
    ⟨limits.maxPendingBytesGateway, others + elsewhere⟩, []⟩

/-- What is charged to a subscription as its stretch begins. -/
theorem charges_loaded (h : g.Conserved limits) {others elsewhere : ℕ}
    (hapart : Apart g i j session m others elsewhere) :
    (m.loaded session.closed session.level g.level).Charges (levelsApart limits others elsewhere)
      [] := by
  have hsession := h.sessions session (List.mem_of_getElem? hapart.sessionAt)
  have hm := hsession.members m (List.mem_of_getElem? hapart.memberAt)
  have hheld := pendingSizes_eq hm.quiet
  have hused : m.pendingBytes = m.subscription.heldSizes.sum := by
    rw [Member.pendingBytes, hheld]
  have hconnection := hapart.inSession
  have hgateway := hapart.inGateway
  refine ⟨?_, fun hterminated => hm.quiet (decide_eq_true hterminated)⟩
  rw [List.nil_append]
  constructor
  · exact hm.maxFrames
  · show m.subscription.budget.frames = 0 + m.subscription.heldSizes.length
    rw [hm.frames, hheld, Nat.zero_add]
  · show m.subscription.budget.bytes =
      ⟨limits.maxPendingBytesPerSubscription, 0 + m.subscription.heldSizes.sum⟩
    rw [← hused, Nat.zero_add, ← hm.limit, ← hm.used]
  · show session.level = ⟨limits.subscription.maxPendingBytesPerConnection,
      others + m.subscription.heldSizes.sum⟩
    rw [hsession.level, ← hused, hconnection, Nat.add_comm]
  · show g.level = ⟨limits.maxPendingBytesGateway,
      others + elsewhere + m.subscription.heldSizes.sum⟩
    rw [h.level, ← hused, hgateway, hconnection]
    congr 1
    omega
  · show m.subscription.budget.frames ≤ m.subscription.budget.maxFrames
    rw [hm.frames, hm.maxFrames]
    exact hm.framesWithin
  · show m.subscription.budget.bytes.used ≤ m.subscription.budget.bytes.limit
    rw [hm.used, hm.limit]
    exact hm.usedWithin
  · show session.level.used ≤ session.level.limit
    rw [hsession.level]
    exact hsession.within
  · show g.level.used ≤ g.level.limit
    rw [h.level]
    exact h.within
  · show (reservedSizes m.subscription.budget.calls).Perm
      (releasedSizes m.subscription.budget.calls ++ m.subscription.heldSizes)
    rw [← hheld]
    exact hm.accounted
  · exact hm.unclamped

/-- A subscription that charges what it holds has its own level conserved. -/
theorem conserved_of_charges {others elsewhere : ℕ} {s : ServerSubscription} (channel : String)
    (channelVersion : ℕ) (hs : s.Charges (levelsApart limits others elsewhere) []) :
    Member.Conserved limits ⟨channel, channelVersion, s⟩ := by
  have hcharged := hs.charged
  rw [List.nil_append] at hcharged
  have hquiet : s.terminated → s.heldSizes = [] :=
    fun hterminated => hs.quiet (of_decide_eq_true hterminated)
  have hheld : Member.pendingSizes ⟨channel, channelVersion, s⟩ = s.heldSizes :=
    pendingSizes_eq hquiet
  have hframes : s.budget.frames = s.heldSizes.length := by
    rw [hcharged.frames]
    exact Nat.zero_add _
  have hbytes : s.budget.bytes = ⟨limits.maxPendingBytesPerSubscription, s.heldSizes.sum⟩ := by
    rw [hcharged.bytes, ByteBudget.charge]
    congr 1
    exact Nat.zero_add _
  constructor
  · exact hcharged.maxFrames
  · show s.budget.bytes.limit = _
    rw [hbytes]
  · rw [hheld]
    exact hframes
  · show s.budget.bytes.used = _
    rw [hbytes, Member.pendingBytes, hheld]
  · rw [hheld, ← hframes]
    exact hcharged.framesWithin.trans_eq hcharged.maxFrames
  · have hwithin := hcharged.bytesWithin
    rw [hbytes] at hwithin
    rw [Member.pendingBytes, hheld]
    exact hwithin
  · rw [hheld]
    exact hcharged.accounted
  · exact hcharged.unclamped
  · exact hquiet

/-- A subscription that charges what it holds on top of what others do, when its stretch is
over. -/
theorem conserved_stored (h : g.Conserved limits) {others elsewhere : ℕ}
    (hapart : Apart g i j session m others elsewhere) {s : ServerSubscription}
    (hs : s.Charges (levelsApart limits others elsewhere) []) :
    (g.stored i j session m s).Conserved limits := by
  have hcharged := hs.charged
  rw [List.nil_append] at hcharged
  set m' : Member := { m with subscription := s }
  have hmember : m'.Conserved limits := conserved_of_charges _ _ hs
  have hused : m'.pendingBytes = s.heldSizes.sum := by
    rw [Member.pendingBytes, pendingSizes_eq hmember.quiet]
  set session' : SessionState :=
    ⟨s.sessionClosed, s.budget.connection, session.members.set j m'⟩
  have hpending : session'.pendingBytes = m'.pendingBytes + others := hapart.replaced m'
  have hstored : (g.stored i j session m s).pendingBytes = session'.pendingBytes + elsewhere :=
    hapart.sessionReplaced session'
  have hconnection : s.budget.connection =
      ⟨limits.subscription.maxPendingBytesPerConnection, session'.pendingBytes⟩ := by
    rw [hcharged.connection, hpending, hused, Nat.add_comm]
    rfl
  have hgateway : s.budget.gateway =
      ⟨limits.maxPendingBytesGateway, session'.pendingBytes + elsewhere⟩ := by
    have hsum : session'.pendingBytes + elsewhere = others + elsewhere + s.heldSizes.sum := by
      omega
    rw [hcharged.gateway, hsum]
    rfl
  constructor
  · show s.budget.gateway = _
    rw [hgateway, hstored]
  · rw [hstored]
    have hwithin := hcharged.gatewayWithin
    rw [hgateway] at hwithin
    exact hwithin
  · intro other hother
    rcases List.mem_or_eq_of_mem_set hother with hold | rfl
    · exact h.sessions other hold
    · constructor
      · exact hconnection
      · have hwithin := hcharged.connectionWithin
        rw [hconnection] at hwithin
        exact hwithin
      · intro n hn
        have hsession := h.sessions session (List.mem_of_getElem? hapart.sessionAt)
        rcases List.mem_or_eq_of_mem_set hn with hold | rfl
        · exact hsession.members n hold
        · exact hmember

/-- A stretch that keeps the charges of its subscription keeps every level. -/
theorem conserved_update (h : g.Conserved limits)
    {stretch : Member → ServerSubscription → ServerSubscription}
    (hkeeps : ∀ session m base, g.sessions[i]? = some session → session.members[j]? = some m →
      (m.loaded session.closed session.level g.level).Charges base [] →
      (stretch m (m.loaded session.closed session.level g.level)).Charges base []) :
    (g.update i j stretch).Conserved limits := by
  unfold GatewayState.update
  split
  · exact h
  · case h_2 session hsession =>
      split
      · exact h
      · case h_2 m hm =>
          obtain ⟨others, elsewhere, hapart⟩ := exists_apart hsession hm
          have hcharges := charges_loaded h hapart
          exact conserved_stored h hapart (hkeeps session m _ hsession hm hcharges)

theorem charges_disposeHeld {s : ServerSubscription} {base : SubscriptionBudget} {extra : List ℕ}
    (h : s.Charges base extra) : (GatewayState.disposeHeld s).Charges base extra := by
  unfold GatewayState.disposeHeld
  split
  · exact (stable_charges base extra).remove _ h.dispose
  · exact h

theorem conserved_disposeAll (h : g.Conserved limits) : (g.disposeAll i).Conserved limits := by
  unfold GatewayState.disposeAll
  split
  · exact h
  · case h_2 session hsession =>
      clear hsession
      generalize List.range session.members.length = indices
      induction indices generalizing g with
      | nil => exact h
      | cons j rest ih =>
          exact ih (conserved_update h fun _ _ _ _ _ hcharges => charges_disposeHeld hcharges)

theorem conserved_stretched {input : ServerInput} (h : g.Conserved limits)
    (hkeeps : ∀ session m, g.sessions[i]? = some session → session.members[j]? = some m →
      ¬(m.loaded session.closed session.level g.level).Overwrites (m.config limits) input) :
    (g.stretched limits i j input).Conserved limits := by
  unfold GatewayState.stretched
  split
  · exact h
  · case isFalse hown =>
      have hafter : (g.update i j fun m s => s.step (m.config limits) input).Conserved limits := by
        apply conserved_update h
        intro session m base hsession hm hcharges
        obtain ⟨action, readings⟩ := input
        apply hcharges.step action _ (hkeeps session m hsession hm)
        rintro connection gateway rfl
        exact hown rfl
      dsimp only
      split
      · exact conserved_disposeAll hafter
      · exact hafter

/-- A session in which only the flag differs, or which has a new subscription besides. -/
theorem conserved_setSession {session' : SessionState} (h : g.Conserved limits)
    (hsession : g.sessions[i]? = some session) (hlevel : session'.level = session.level)
    (hpending : session'.pendingBytes = session.pendingBytes)
    (hmembers : ∀ m ∈ session'.members, m ∈ session.members ∨ m.Conserved limits) :
    (g.setSession i session').Conserved limits := by
  have hconserved := h.sessions session (List.mem_of_getElem? hsession)
  obtain ⟨elsewhere, hsum, hset⟩ := sum_map_split SessionState.pendingBytes hsession
  have htotal : (g.setSession i session').pendingBytes = g.pendingBytes := by
    unfold GatewayState.pendingBytes GatewayState.setSession
    rw [hset, hsum, hpending]
  constructor
  · rw [htotal]
    exact h.level
  · rw [htotal]
    exact h.within
  · intro other hother
    rcases List.mem_or_eq_of_mem_set hother with hold | rfl
    · exact h.sessions other hold
    · constructor
      · rw [hlevel, hpending]
        exact hconserved.level
      · rw [hpending]
        exact hconserved.within
      · intro m hm
        rcases hmembers m hm with hold | hnew
        · exact hconserved.members m hold
        · exact hnew

theorem conserved_subscribed {channel : String} {channelVersion : ℕ} {source : SourceRuntime}
    (h : g.Conserved limits) :
    (g.subscribed limits i channel channelVersion source).Conserved limits := by
  unfold GatewayState.subscribed
  split
  · exact h
  · case h_2 session hsession =>
      split
      · exact h
      · dsimp only
        refine conserved_setSession h hsession ?_ ?_ ?_
        · rfl
        · unfold SessionState.pendingBytes
          rw [List.map_append, List.sum_append]
          rfl
        · intro m hm
          rcases List.mem_append.mp hm with hold | hnew
          · exact .inl hold
          · right
            obtain rfl := List.mem_singleton.mp hnew
            refine ⟨rfl, rfl, rfl, rfl, Nat.zero_le _, Nat.zero_le _, List.Perm.refl _, ?_, ?_⟩
            · intro bytes hmem
              cases hmem
            · intro _
              rfl

theorem conserved_closed (h : g.Conserved limits) : (g.closed i).Conserved limits := by
  unfold GatewayState.closed
  split
  · exact h
  · case h_2 session hsession =>
      split
      · exact h
      · apply conserved_disposeAll
        exact conserved_setSession h hsession rfl rfl fun m hm => .inl hm

end Update

/-- No stretch sends a snapshot over a frame that is in flight. -/
def GatewayState.Keeps (limits : GatewayLimits) (g : GatewayState) : GatewayInput → Prop
  | .stretch i j input =>
      ∀ session ∈ g.sessions[i]?, ∀ m ∈ session.members[j]?,
        ¬(m.loaded session.closed session.level g.level).Overwrites (m.config limits) input
  | _ => True

theorem conserved_step {limits : GatewayLimits} {g : GatewayState} (input : GatewayInput)
    (h : g.Conserved limits) (hkeeps : g.Keeps limits input) :
    (g.step limits input).Conserved limits := by
  cases input with
  | connect =>
      have hpending : (g.step limits .connect).pendingBytes = g.pendingBytes := by
        unfold GatewayState.step GatewayState.pendingBytes
        rw [List.map_append, List.sum_append]
        rfl
      constructor
      · rw [hpending]
        exact h.level
      · rw [hpending]
        exact h.within
      · intro session hsession
        rcases List.mem_append.mp hsession with hold | hnew
        · exact h.sessions session hold
        · obtain rfl := List.mem_singleton.mp hnew
          exact ⟨rfl, Nat.zero_le _, fun m hm => by cases hm⟩
  | subscribe i channel channelVersion source => exact conserved_subscribed h
  | stretch i j input =>
      apply conserved_stretched h
      intro session m hsession hm
      exact hkeeps session hsession m hm
  | close i => exact conserved_closed h

/-- The runs in which no snapshot is sent over a frame in flight. -/
def keepingMachine (limits : GatewayLimits) : Machine GatewayState GatewayInput where
  step := GatewayState.step limits
  allowed := fun g input => g.Keeps limits input

/-- Between the stretches of a run that sends no snapshot over a frame in flight, every level
has used what is queued or in flight below it, within its limit, and everything reserved is
released once. -/
theorem budgetConserved_after (limits : GatewayLimits) (inputs : List GatewayInput)
    (hrun : (keepingMachine limits).Admits (GatewayState.initial limits) inputs) :
    ((keepingMachine limits).after (GatewayState.initial limits) inputs).Conserved limits := by
  have hinitial : (GatewayState.initial limits).Conserved limits :=
    ⟨rfl, Nat.zero_le _, fun session hsession => by cases hsession⟩
  exact Machine.invariant (P := GatewayState.Conserved limits)
    (fun g input h hallowed => conserved_step input h hallowed) hinitial hrun

instance decidableKeeps (limits : GatewayLimits) (g : GatewayState) :
    (input : GatewayInput) → Decidable (g.Keeps limits input)
  | .stretch i j input =>
      inferInstanceAs (Decidable (∀ session ∈ g.sessions[i]?, ∀ m ∈ session.members[j]?,
        ¬(m.loaded session.closed session.level g.level).Overwrites (m.config limits) input))
  | .connect | .subscribe _ _ _ _ | .close _ => .isTrue trivial

instance (limits : GatewayLimits) (g : GatewayState) (input : GatewayInput) :
    Decidable ((keepingMachine limits).allowed g input) :=
  decidableKeeps limits g input

section Sample

def sampleGatewayLimits : GatewayLimits := ⟨sampleConfig.limits, 10, 1000, 1000⟩

/-- A synchronization up to the return of its last `#authorize`. -/
def recheckedActions : List ServerStep :=
  [.callHandler 0, .resumeAuthorize 0 .allowed false, .resumeAuthorized 0, .resumePermit 0 true,
    .callHandler 0, .resumeSnapshot 0 (.ok ⟨10, none, 20, "snapshot"⟩), .callHandler 0,
    .resumeAuthorize 0 .allowed false]

/-- A session with one subscription of which these stretches run. -/
def sampleSession (actions : List ServerStep) : List GatewayInput :=
  .connect :: .subscribe 0 "orders" 1 sampleSource ::
    actions.map fun action => .stretch 0 0 ⟨action, prompt⟩

/-- The snapshot is sent, and the session closes with it in flight. -/
theorem budgetConserved_closedSession :
    ((keepingMachine sampleGatewayLimits).after (GatewayState.initial sampleGatewayLimits)
      (sampleSession (.start :: recheckedActions ++ [.resumeAuthorized 0, .closeSession]))).Conserved
        sampleGatewayLimits :=
  budgetConserved_after sampleGatewayLimits _ (by decide)

/-- The source fails and recovers between the return of `#authorize` and the resumption of its
caller.  The superseded attempt sends its snapshot, the new one sends another over it, and the
first reservation stays when the session is gone. -/
theorem superseded_snapshot_leaks :
    ¬ ∀ (limits : GatewayLimits) (inputs : List GatewayInput),
      ((GatewayState.machine limits).after (GatewayState.initial limits) inputs).Conserved
        limits := by
  intro hclaim
  have hlevel := (hclaim sampleGatewayLimits (sampleSession (.start :: recheckedActions ++
    [.setSourceStatus .degraded none, .setSourceStatus .healthy none, .resumeAuthorized 0] ++
    recheckedActions ++ [.resumeAuthorized 0, .closeSession]))).level
  revert hlevel
  decide +kernel

end Sample

end StreamOtter
