import StreamOtter.ClientTracking
import StreamOtter.ServerWire
import StreamOtter.SyncProtocol

/-!
# A live SDK subscription has delivered its epoch

The gateway announces `live` only once the snapshot and every update up to the drain
boundary were handed over, the connection keeps their order, and the SDK accepts `live`
only while it has delivered all that arrived of the epoch.
-/

namespace StreamOtter

theorem announced_eq_heardEpochs (trace : List Observation) :
    announced trace = heardEpochs (wire trace) := by
  unfold announced heardEpochs wire
  rw [List.filterMap_filterMap]
  congr 1
  funext o
  rcases o with ⟨epoch, state, reason⟩ | _ | _ | _ | _ | _ | _ | _ | _ | _
  · cases state <;> rfl
  all_goals rfl

theorem epochData_eq_heardData (epoch : Epoch) (trace : List Observation) :
    epochData epoch trace = heardData epoch (wire trace) := by
  unfold epochData heardData wire
  rw [List.filterMap_filterMap]
  congr 1
  funext o
  cases o <;> rfl

/-- A message on the wire was recorded, after what is on the wire before it. -/
theorem wire_eq_append {trace : List Observation} {seen rest : List GatewayMessage}
    {message : GatewayMessage} (hwire : wire trace = seen ++ message :: rest) :
    ∃ before o, before ++ [o] <+: trace ∧ wire before = seen ∧ o.message = some message := by
  unfold wire at hwire
  obtain ⟨before, after, rfl, hbefore, hafter⟩ := List.filterMap_eq_append_iff.mp hwire
  obtain ⟨skipped, o, last, rfl, hskipped, ho, -⟩ := List.filterMap_eq_cons_iff.mp hafter
  refine ⟨before ++ skipped, o, ⟨last, by simp⟩, ?_, ho⟩
  unfold wire
  rw [List.filterMap_append, hbefore, List.filterMap_eq_nil_iff.mpr hskipped, List.append_nil]

theorem wire_append (trace rest : List Observation) :
    wire (trace ++ rest) = wire trace ++ wire rest := List.filterMap_append

theorem filter_isFrame_wire (trace : List Observation) :
    (wire trace).filter GatewayMessage.isFrame = wire trace := by
  apply List.filter_eq_self.mpr
  intro message hmem
  obtain ⟨o, -, ho⟩ := List.mem_filterMap.mp hmem
  cases o <;> simp [Observation.message] at ho
  all_goals
    subst ho
    rfl

namespace ServerSubscription

variable {s : ServerSubscription}

/-- A subscription that is over may be built anew in the same session. -/
theorem Open.renewed (h : s.Open) (hphase : s.phase = .terminated) (hnext : 0 < s.nextId) :
    s.renewed.Open := by
  have hquiet : s.Quiet := h.quiet (by rw [hphase]; rfl)
  have hover : ∀ epoch ∈ announced s.trace, Over epoch s.trace := by
    intro epoch hmem
    by_cases hcurrent : epoch = s.epoch
    · exact hcurrent ▸ hquiet.epochOver (hcurrent ▸ hmem)
    · exact h.bookkeeping.earlierOver epoch hmem hcurrent
  refine ⟨?_, ?_, ?_⟩
  · constructor
    · rfl
    · exact h.bookkeeping.unexpired
    · exact h.bookkeeping.disciplined
    · exact h.bookkeeping.announcedFresh
    · exact hnext
    · exact h.bookkeeping.admittedAnnounced
    · simp [ServerSubscription.renewed, initial]
    · simp [ServerSubscription.renewed, initial]
    · exact fun epoch hmem _ => hover epoch hmem
    · exact h.bookkeeping.ordered
    · exact h.bookkeeping.calledRouted
  · have hfresh : s.renewed.Quiet := ⟨rfl, rfl, rfl, rfl, hover 0⟩
    exact hfresh.phased rfl
  · constructor <;> simp [ServerSubscription.renewed, initial]

theorem absent_open (budget : SubscriptionBudget) (source : SourceRuntime) {nextId : ℕ}
    (hnext : 0 < nextId) : (absent budget source nextId).Open := by
  refine ⟨?_, ?_, ?_⟩
  · constructor <;> simp [absent, initial, disciplined_nil, announced, epochData, hnext]
  · have hquiet : (absent budget source nextId).Quiet := by
      constructor <;> simp [absent, initial, announced]
    exact hquiet.phased rfl
  · constructor <;> simp [absent, initial]

end ServerSubscription

namespace Link

/-- The two ends and what is on its way fit together: `seen` has arrived at the SDK on the
current connection, whose epochs are numbered from `first` on. -/
structure Tied (first : Epoch) (seen : List GatewayMessage) (link : Link) : Prop where
  client : link.client.Tracks first link.connection seen
  coherent : link.client.Coherent
  server : link.server.Sound
  positive : 0 < first
  wired : ∃ before released,
    link.server.Wired first before link.server.trace released
  carried : wire link.server.trace = seen ++ link.down.filter GatewayMessage.isFrame

variable {config : ServerConfig} {link : Link} {first : Epoch} {seen : List GatewayMessage}

theorem Tied.withServer {server : ServerSubscription} {before : List Observation}
    {released : Bool} (h : link.Tied first seen) (hsound : server.Sound)
    (hwired : server.Wired first before link.server.trace released) :
    (link.withServer server).Tied first seen where
  client := h.client
  coherent := h.coherent
  server := hsound
  positive := h.positive
  wired := ⟨before, released, hwired.store⟩
  carried := by
    obtain ⟨rest, hrest⟩ := hwired.grown
    show wire server.trace = seen ++ (link.down ++
      wire (server.trace.drop link.server.trace.length)).filter GatewayMessage.isFrame
    rw [← hrest, List.drop_left, wire_append, h.carried, List.filter_append, filter_isFrame_wire,
      List.append_assoc]

theorem Tied.respond (h : link.Tied first seen) (requestId : ℕ) (answer : Answer) :
    (link.respond requestId answer).Tied first seen where
  client := h.client
  coherent := h.coherent
  server := h.server
  positive := h.positive
  wired := h.wired
  carried := by
    show wire link.server.trace =
      seen ++ (link.down ++ [GatewayMessage.answer requestId answer]).filter GatewayMessage.isFrame
    rw [List.filter_append, h.carried]
    simp [GatewayMessage.isFrame]

theorem Tied.withClient {client : ClientSubscription} (h : link.Tied first seen)
    (hclient : client.Tracks first link.connection seen) (hcoherent : client.Coherent) :
    (link.withClient client).Tied first seen :=
  ⟨hclient, hcoherent, h.server, h.positive, h.wired, h.carried⟩

/-- The gateway's side takes a step of the atomic machine. -/
theorem Tied.serverStep {input : ServerInput} (h : link.Tied first seen)
    (hallowed : (ServerSubscription.atomicMachine config).allowed link.server input) :
    (link.withServer (link.server.step config input)).Tied first seen := by
  obtain ⟨before, released, hwired⟩ := h.wired
  have hsound : (link.server.step config input).Sound := h.server.step input hallowed
  by_cases hrelease : input.step = .unsubscribe
  · obtain ⟨action, readings⟩ := input
    cases hrelease
    exact h.withServer hsound hwired.unsubscribe
  · exact h.withServer hsound (hwired.step h.server hallowed hrelease)

/-- The session starts the subscription it did not hold. -/
theorem Tied.starts {readings : Readings} (h : link.Tied first seen)
    (hsettled : link.server.Settled) (hopen : link.server.sessionClosed = false)
    (hheld : link.server.held = false) :
    (link.withServer (link.server.renewed.step config ⟨.start, readings⟩)).Tied first seen := by
  obtain ⟨before, released, hwired⟩ := h.wired
  have hopened : link.server.Open := by
    cases h.server with
    | closed hclosed _ =>
        rw [hopen] at hclosed
        cases hclosed
    | expired hexpiring _ _ =>
        rw [hsettled.2.2] at hexpiring
        cases hexpiring
    | opened hopened => exact hopened
  have hnext : 0 < link.server.nextId := h.positive.trans_le hwired.next
  have hrenewed : link.server.renewed.Sound :=
    .opened (hopened.renewed (hwired.kept hopen hheld) hnext)
  have hallowed : (ServerSubscription.atomicMachine config).allowed link.server.renewed
      ⟨.start, readings⟩ := by
    right
    refine ⟨?_, rfl, hsettled.2.2⟩
    intro attempt hmem
    simp [ServerSubscription.renewed, ServerSubscription.initial] at hmem
  exact h.withServer (hrenewed.step _ hallowed)
    (hwired.renewed.step hrenewed hallowed (by simp))

theorem Tied.receive {readings : Readings} {verdict : Verdict} {message : ClientMessage}
    (h : link.Tied first seen) (hsettled : link.server.Settled) :
    (link.receive config readings verdict message).Tied first seen := by
  have hstep : ∀ {link : Link}, link.Tied first seen → link.server.Settled → ∀ action,
      (link.withServer (link.server.step config ⟨action, readings⟩)).Tied first seen :=
    fun htied hsettled action => htied.serverStep (.inr hsettled)
  obtain ⟨before, released, hwired⟩ := h.wired
  unfold Link.receive
  dsimp only
  split
  · case isTrue hclosed =>
      apply h.withServer _ hwired.checkStalled
      apply ServerSubscription.Sound.closed hclosed
      have htrace := h.server.disciplined
      rcases ServerSubscription.checkStalled_cases config.limits readings .inbound htrace with
        hshut | hsame
      · exact hshut.trace
      · rw [hsame]
        exact htrace
  · case isFalse hnot =>
      have hnotClosed := Bool.eq_false_iff.mpr hnot
      have hopen : link.server.sessionClosed = false := by
        rw [ServerSubscription.checkStalled_open hnotClosed] at hnotClosed
        exact hnotClosed
      cases message with
      | receipt epoch sequence => exact hstep h hsettled _
      | subscribe requestId =>
          dsimp only
          unfold Link.handleSubscribe
          split
          · exact h.respond _ _
          · split
            · exact h.respond _ _
            · case isFalse hheld =>
                split
                · exact h.respond _ _
                · exact (h.respond requestId .ok).starts hsettled hopen
                    (Bool.eq_false_iff.mpr hheld)
      | resync requestId =>
          dsimp only
          unfold Link.handleResync
          split
          · exact h.respond _ _
          · split
            · exact h.respond _ _
            · exact hstep (h.respond _ _) hsettled _
      | unsubscribe requestId =>
          dsimp only
          unfold Link.handleUnsubscribe
          split
          · exact h.respond _ _
          · exact (hstep h hsettled _).respond _ _

/-- The oldest message of the gateway reaches the SDK. -/
theorem Tied.deliver {message : GatewayMessage} {rest : List GatewayMessage}
    {script : List (List Reaction)} (h : link.Tied first seen) (hdown : link.down = message :: rest)
    (hconnected : link.client.connected link.connection = true) :
    ∃ seen', ({ link with down := rest }.withClient (link.client.step
      ⟨arrival link.connection message, script⟩)).Tied first seen' := by
  have hcoherent := h.coherent.step ⟨arrival link.connection message, script⟩
  by_cases hframe : message.isFrame = true
  · have hcarried : wire link.server.trace =
        seen ++ message :: rest.filter GatewayMessage.isFrame := by
      rw [h.carried, hdown, List.filter_cons, if_pos hframe]
    have hannounces : ClientSubscription.Announces first seen message := by
      obtain ⟨earlier, o, hpre, hseen, ho⟩ := wire_eq_append hcarried
      have hallowed := h.server.disciplined earlier o hpre
      obtain ⟨before, released, hwired⟩ := h.wired
      rcases message with ⟨epoch, state, reason⟩ | _ | _ | _
      · cases state with
        | synchronizing =>
            cases o with
            | state frame =>
                cases Option.some.inj ho
                refine ⟨?_, ?_, ?_⟩
                · apply hwired.lower
                  apply mem_announced.mpr
                  exact ⟨reason, hpre.subset (List.mem_append_right _ (List.mem_singleton.mpr rfl))⟩
                · rw [← hseen, ← announced_eq_heardEpochs]
                  exact hallowed.1
                · rw [← hseen, ← epochData_eq_heardData]
                  exact hallowed.2
            | _ => simp [Observation.message] at ho
        | _ => trivial
      all_goals trivial
    refine ⟨seen ++ [message], ?_⟩
    refine ⟨h.client.arrives hconnected hframe hannounces, hcoherent, h.server, h.positive, h.wired,
      ?_⟩
    rw [List.append_assoc]
    exact hcarried
  · refine ⟨seen, ?_⟩
    have hcarried : wire link.server.trace = seen ++ rest.filter GatewayMessage.isFrame := by
      rw [h.carried, hdown, List.filter_cons, if_neg hframe]
    refine ⟨?_, hcoherent, h.server, h.positive, h.wired, hcarried⟩
    rcases message with frame | frame | _ | ⟨requestId, answer⟩
    · exact absurd rfl hframe
    · exact absurd rfl hframe
    · exact absurd rfl hframe
    · show (link.client.step ⟨.acknowledge requestId answer, script⟩).Tracks _ _ _
      apply h.client.steps <;> simp

theorem Tied.connect {script : List (List Reaction)} (h : link.Tied first seen) :
    ∃ first, (link.connect script).Tied first [] := by
  obtain ⟨before, released, hwired⟩ := h.wired
  have hsuperseded : (link.client.step ⟨.supersede link.connection, []⟩).Tracks first
      link.connection seen := h.client.steps (by simp) (by simp) (by simp)
  have hheard : ∀ epoch ∈ heardEpochs seen, epoch < link.server.nextId := by
    intro epoch hmem
    apply hwired.upper
    rw [announced_eq_heardEpochs, h.carried, heardEpochs_append]
    exact List.mem_append_left _ hmem
  have hattached : ((link.client.step ⟨.supersede link.connection, []⟩).step
      ⟨.attach (link.connection + 1), script⟩).Tracks link.server.nextId (link.connection + 1) [] :=
    hsuperseded.attaches (Nat.le_succ link.connection) hwired.next hheard
  have hcoherent := (h.coherent.step ⟨.supersede link.connection, []⟩).step
    ⟨.attach (link.connection + 1), script⟩
  have hnext : 0 < link.server.nextId := h.positive.trans_le hwired.next
  refine ⟨link.server.nextId, hattached, hcoherent, ?_, hnext, ?_, rfl⟩
  · exact .opened (ServerSubscription.absent_open _ _ hnext)
  · exact ⟨[], true, ServerSubscription.wired_absent _ _ _⟩

theorem Tied.step {input : LinkInput} (h : link.Tied first seen)
    (henabled : link.Enabled config input) :
    ∃ first seen, (link.step config input).Tied first seen := by
  obtain ⟨action, readings, script⟩ := input
  unfold Link.step
  cases action with
  | gateway step => exact ⟨first, seen, h.serverStep henabled.2⟩
  | receive verdict =>
      dsimp only
      split
      · exact ⟨first, seen, h⟩
      · case h_2 message rest _ =>
          have hrest : Tied first seen { link with up := rest } :=
            ⟨h.client, h.coherent, h.server, h.positive, h.wired, h.carried⟩
          exact ⟨first, seen, hrest.receive henabled⟩
  | deliver =>
      dsimp only
      split
      · exact ⟨first, seen, h⟩
      · case h_2 message rest hdown =>
          have hdelivered : ∃ seen', ({ link with down := rest }.withClient (link.client.step
              ⟨arrival link.connection message, script⟩)).Tied first seen' :=
            h.deliver hdown henabled
          obtain ⟨seen', htied⟩ := hdelivered
          exact ⟨first, seen', htied⟩
  | client step =>
      have hlocal : ∀ other frame message, step ≠ .attach other ∧
          step ≠ .state other frame ∧ step ≠ .data other message := by
        intro other frame message
        refine ⟨?_, ?_, ?_⟩ <;>
          · rintro rfl
            cases henabled
      refine ⟨first, seen, h.withClient ?_ (h.coherent.step ⟨step, script⟩)⟩
      apply h.client.steps
      · exact fun other => (hlocal other ⟨0, .idle, none⟩ ⟨0, 0, ⟨"", 0, .snapshot, 0⟩⟩).1
      · exact fun other frame => (hlocal other frame ⟨0, 0, ⟨"", 0, .snapshot, 0⟩⟩).2.1
      · exact fun other frame => (hlocal other ⟨0, .idle, none⟩ frame).2.2
  | disconnect =>
      refine ⟨first, seen, h.withClient ?_ (h.coherent.step ⟨.disconnect link.connection, script⟩)⟩
      exact h.client.steps (by simp) (by simp) (by simp)
  | connect =>
      have hconnected : ∃ first, (link.connect script).Tied first [] := h.connect
      obtain ⟨start, htied⟩ := hconnected
      exact ⟨start, [], htied⟩

/-- While the SDK reports `live` on its connection it has dispatched, under the epoch it is
live in, the gateway's snapshot of that epoch and every update up to the drain boundary, in
increasing order of revision; and every receipt of an epoch reported `live` confirmed a
dispatched frame. -/
structure LiveSound (link : Link) : Prop where
  boundary : link.client.state = .live → link.client.connected link.connection = true →
    link.client.attached = some link.connection ∧
    ∃ epoch snapshot kept, link.client.epoch = some epoch ∧
      Observation.data ⟨epoch, 1, snapshot⟩ ∈ link.server.trace ∧ snapshot.kind = .snapshot ∧
      Observation.drain epoch kept ∈ link.server.trace ∧
      snapshot :: kept.map PendingFrame.event <+:
        (deliveriesSince link.client.trace).map DataFrame.event ∧
      (∀ frame ∈ deliveriesSince link.client.trace, frame.epoch = epoch) ∧
      (revisions (deliveriesSince link.client.trace)).Pairwise (· < ·)
  receipted : link.client.state = .live → link.client.connected link.connection = true →
    ∀ epoch, link.client.epoch = some epoch → ReceiptsDelivered epoch link.client.trace
  reported : ∀ before epoch, before ++ [.live epoch] <+: link.client.trace →
    ReceiptsDelivered epoch before

theorem Tied.liveSound (h : link.Tied first seen) : link.LiveSound := by
  have hfollowing : link.client.state = .live → link.client.connected link.connection = true →
      link.client.Following seen := by
    intro hstate hconnected
    obtain ⟨hterminal, hready, hattached⟩ := h.client.live hstate
    exact h.client.following ⟨hterminal, hattached, hconnected, hready⟩
  refine ⟨?_, ?_, h.client.recorded.reported⟩
  · intro hstate hconnected
    refine ⟨(h.client.live hstate).2.2, ?_⟩
    obtain ⟨epoch, hepoch, -, hdata, -, hlive⟩ := hfollowing hstate hconnected
    obtain ⟨reason, hmem⟩ := hlive hstate
    obtain ⟨earlier, later, hseen⟩ := List.append_of_mem hmem
    have hcarried : wire link.server.trace = earlier ++
        .state ⟨epoch, .live, reason⟩ :: (later ++ link.down.filter GatewayMessage.isFrame) := by
      rw [h.carried, hseen]
      simp
    obtain ⟨before, o, hpre, hearlier, ho⟩ := wire_eq_append hcarried
    have hallowed := h.server.disciplined before o hpre
    cases o with
    | state frame =>
        cases Option.some.inj ho
        obtain ⟨-, -, snapshot, kept, hdrain, hevents⟩ := hallowed
        have hbefore : before <+: link.server.trace := (List.prefix_append _ _).trans hpre
        have hsplit : deliveriesSince link.client.trace =
            epochData epoch before ++ heardData epoch (.state ⟨epoch, .live, reason⟩ :: later) := by
          rw [hdata, hseen, heardData_append, epochData_eq_heardData, hearlier]
        obtain ⟨first, rest, hfirst⟩ : ∃ first rest, epochData epoch before = first :: rest := by
          cases hframes : epochData epoch before with
          | nil =>
              rw [hframes] at hevents
              cases hevents
          | cons first rest => exact ⟨first, rest, rfl⟩
        have hmem : first ∈ epochData epoch before := hfirst ▸ List.mem_cons_self
        obtain ⟨hsent, hfirstEpoch⟩ := mem_epochData.mp hmem
        have hkind : first.event.kind = .snapshot := by
          apply h.coherent.ordered.snapshotFirst link.client.trace (List.prefix_refl _)
          rw [hsplit, hfirst]
          rfl
        have hnumber : first.sequence = 1 :=
          ((h.server.disciplined.of_prefix hbefore).snapshot_iff_first hmem).mp hkind
        have hevent : first.event = snapshot := by
          rw [hfirst] at hevents
          exact (List.cons.inj hevents).1
        refine ⟨epoch, snapshot, kept, hepoch, ?_, hevent ▸ hkind, hbefore.subset hdrain, ?_, ?_, ?_⟩
        · have hsame : first = ⟨epoch, 1, snapshot⟩ := by
            rw [← hfirstEpoch, ← hnumber, ← hevent]
          exact hbefore.subset (hsame ▸ hsent)
        · rw [hsplit, List.map_append, hevents]
          exact List.prefix_append _ _
        · intro frame hframe
          rw [hdata] at hframe
          obtain ⟨message, -, hmessage⟩ := List.mem_filterMap.mp hframe
          cases message <;> simp at hmessage
          obtain ⟨hsame, rfl⟩ := hmessage
          exact hsame
        · exact h.coherent.ordered.increasing link.client.trace (List.prefix_refl _)
    | _ => simp [Observation.message] at ho
  · intro hstate hconnected epoch hepoch
    obtain ⟨followed, hfollowed, -, -, hreceipts, -⟩ := hfollowing hstate hconnected
    rw [hfollowed] at hepoch
    cases hepoch
    exact hreceipts

theorem initial_tied (channel : String) (channelVersion : ℕ) (budget : SubscriptionBudget)
    (source : SourceRuntime) : (initial channel channelVersion budget source).Tied 1 [] where
  client := by
    refine ⟨⟨⟨?_, ?_, ?_⟩, ?_, ?_, ?_, ?_, ?_⟩, ?_⟩
    · simp [initial, ClientSubscription.initial]
    · simp [initial, ClientSubscription.initial]
    · simp [initial, ClientSubscription.initial]
    · simp [initial, ClientSubscription.initial]
    · simp [initial, ClientSubscription.initial]
    · exact fun _ => rfl
    · exact fun hattuned => absurd hattuned (ClientSubscription.not_attuned_of_awaiting rfl)
    · intro hlive
      cases hlive
    · exact fun hattuned => absurd hattuned (ClientSubscription.not_attuned_of_awaiting rfl)
  coherent := ClientSubscription.initial_coherent channel channelVersion
  server := .opened (ServerSubscription.absent_open budget source Nat.one_pos)
  positive := Nat.one_pos
  wired := ⟨[], true, ServerSubscription.wired_absent budget source 1⟩
  carried := rfl

/-- In every run of the two ends and the connections between them, a live SDK subscription
has delivered its epoch. -/
theorem liveSound_after (config : ServerConfig) (channel : String) (channelVersion : ℕ)
    (budget : SubscriptionBudget) (source : SourceRuntime) (inputs : List LinkInput)
    (hrun : (machine config).Admits (initial channel channelVersion budget source) inputs) :
    ((machine config).after (initial channel channelVersion budget source) inputs).LiveSound := by
  have htied : ∃ first seen,
      ((machine config).after (initial channel channelVersion budget source) inputs).Tied first
        seen := by
    apply Machine.invariant (m := machine config) (P := fun link => ∃ first seen, link.Tied first seen)
    · rintro link input ⟨first, seen, htied⟩ henabled
      exact htied.step henabled
    · exact ⟨1, [], initial_tied channel channelVersion budget source⟩
    · exact hrun
  obtain ⟨first, seen, htied⟩ := htied
  exact htied.liveSound

section Sample

instance (config : ServerConfig) (link : Link) (input : LinkInput) :
    Decidable ((machine config).allowed link input) := by
  show Decidable (link.Enabled config input)
  unfold Enabled
  split <;> infer_instance

open ServerSubscription in
/-- From the first connection over the subscribe request and the snapshot to live. -/
def liveRun : List LinkInput :=
  [.connect, .receive ⟨false, none⟩, .deliver, .client (.settle 0), .gateway (.callHandler 0),
    .gateway (.resumeAuthorize 0 .allowed false), .gateway (.resumeAuthorized 0),
    .gateway (.resumePermit 0 true), .gateway (.callHandler 0),
    .gateway (.resumeSnapshot 0 (.ok ⟨10, none, 20, "snapshot"⟩)), .gateway (.callHandler 0),
    .gateway (.resumeAuthorize 0 .allowed false), .gateway (.resumeAuthorized 0), .deliver,
    .deliver, .receive ⟨false, none⟩, .deliver].map (⟨·, prompt, []⟩)

open ServerSubscription in
theorem liveSound_liveRun :
    let link := (machine sampleConfig).after (initial "orders" 1 sampleBudget sampleSource) liveRun
    link.client.state = .live ∧ link.LiveSound :=
  ⟨by decide, liveSound_after sampleConfig "orders" 1 sampleBudget sampleSource liveRun (by decide)⟩

end Sample

end Link

end StreamOtter
