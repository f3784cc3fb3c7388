import StreamOtter.Link
import StreamOtter.ServerSends
import StreamOtter.ServerClosed

/-!
# What a step adds to the wire

Every operation of the gateway's side only appends to what was recorded, announces only
fresh epochs and tags what it sends with the epoch announced last.  While the session is
open, a subscription it no longer holds is over.
-/

namespace StreamOtter

/-- The epoch a client that heard the whole trace is in: the one announced last. -/
def wireEpoch (trace : List Observation) : Epoch := (announced trace).getLast?.getD 0

theorem wireEpoch_append_silent {trace : List Observation} {o : Observation} (ho : o.Silent) :
    wireEpoch (trace ++ [o]) = wireEpoch trace := by
  unfold wireEpoch
  rw [announced_append_silent trace ho]

theorem wireEpoch_append_synchronizing (trace : List Observation) (epoch : Epoch)
    (reason : Option ErrorCode) :
    wireEpoch (trace ++ [.state ⟨epoch, .synchronizing, reason⟩]) = epoch := by
  simp [wireEpoch]

/-- Every state frame but an announcement carries the epoch announced last. -/
def Tagged (trace : List Observation) : Prop :=
  ∀ before frame, before ++ [.state frame] <+: trace → frame.state ≠ .synchronizing →
    frame.epoch = wireEpoch before

namespace ServerSubscription

/-- What the wire tells about a subscription that began with `before` recorded and grew from
`stored`, announces epochs from `first` on and was or was not released by its client. -/
structure Wired (first : Epoch) (before stored : List Observation) (released : Bool)
    (s : ServerSubscription) : Prop where
  began : before <+: s.trace
  grown : stored <+: s.trace
  lower : ∀ epoch ∈ announced s.trace, first ≤ epoch
  upper : ∀ epoch ∈ announced s.trace, epoch < s.nextId
  next : first ≤ s.nextId
  tagged : Tagged (s.trace.drop before.length)
  epoch : s.sessionClosed = false → s.epoch = wireEpoch (s.trace.drop before.length)
  kept : s.sessionClosed = false → s.held = false → s.phase = .terminated
  ended : s.sessionClosed = false → s.phase = .terminated → released = false →
    ∃ reason, Observation.state ⟨s.epoch, .failed, reason⟩ ∈ s.trace.drop before.length

variable {s : ServerSubscription} {first : Epoch} {before stored : List Observation}
  {released : Bool}

/-- The fields that `Wired` reads. -/
def wiring (s : ServerSubscription) :=
  (s.trace, s.nextId, s.sessionClosed, s.epoch, s.held, s.phase)

theorem Wired.of_eq {s' : ServerSubscription} (h : s.Wired first before stored released)
    (hsame : s'.wiring = s.wiring) : s'.Wired first before stored released := by
  simp only [wiring, Prod.mk.injEq] at hsame
  obtain ⟨htrace, hnext, hclosed, hepoch, hheld, hphase⟩ := hsame
  constructor
  · rw [htrace]; exact h.began
  · rw [htrace]; exact h.grown
  · rw [htrace]; exact h.lower
  · rw [htrace, hnext]; exact h.upper
  · rw [hnext]; exact h.next
  · rw [htrace]; exact h.tagged
  · rw [hclosed, hepoch, htrace]; exact h.epoch
  · rw [hclosed, hheld, hphase]; exact h.kept
  · rw [hclosed, hphase, hepoch, htrace]; exact h.ended

theorem Wired.held (h : s.Wired first before stored released) (hopen : s.sessionClosed = false)
    (hphase : s.phase ≠ .terminated) : s.held = true := by
  by_contra hdropped
  exact hphase (h.kept hopen (Bool.eq_false_iff.mpr hdropped))

theorem Wired.enter {phase : Phase} (h : s.Wired first before stored released)
    (hfrom : s.sessionClosed = false → s.phase ≠ .terminated) (hto : phase ≠ .terminated) :
    (s.enter phase).Wired first before stored released := by
  refine ⟨h.began, h.grown, h.lower, h.upper, h.next, h.tagged, h.epoch, ?_, ?_⟩
  · intro hopen hdropped
    have hheld := h.held hopen (hfrom hopen)
    have hdropped' : s.held = false := hdropped
    rw [hheld] at hdropped'
    cases hdropped'
  · intro _ hphase
    exact absurd hphase hto

/-- What is recorded now was recorded by this subscription. -/
theorem Wired.drop_append (h : s.Wired first before stored released) (rest : List Observation) :
    (s.trace ++ rest).drop before.length = s.trace.drop before.length ++ rest :=
  List.drop_append_of_le_length h.began.length_le

/-- A record that is no state frame. -/
theorem Wired.emit {o : Observation} (h : s.Wired first before stored released)
    (ho : ∀ frame, o ≠ .state frame) : (s.emit o).Wired first before stored released := by
  have hannounced : announced (s.trace ++ [o]) = announced s.trace := by
    rw [announced_append]
    cases o with
    | state frame => exact absurd rfl (ho frame)
    | _ => simp [announced]
  have hown := h.drop_append [o]
  constructor
  · exact h.began.trans (List.prefix_append _ _)
  · exact h.grown.trans (List.prefix_append _ _)
  · intro epoch hmem
    exact h.lower epoch (hannounced ▸ hmem)
  · intro epoch hmem
    exact h.upper epoch (hannounced ▸ hmem)
  · exact h.next
  · intro earlier frame hpre hstate
    rw [trace_emit, hown] at hpre
    rcases List.prefix_concat_iff.mp hpre with hsame | hpre
    · have hlast := List.singleton_inj.mp (List.append_inj_right' hsame rfl)
      exact absurd hlast.symm (ho frame)
    · exact h.tagged earlier frame hpre hstate
  · intro hopen
    have hsilent : announced [o] = [] := by
      rw [announced_append] at hannounced
      simpa using hannounced
    rw [trace_emit, hown]
    unfold wireEpoch
    rw [announced_append, hsilent, List.append_nil]
    exact h.epoch hopen
  · exact h.kept
  · intro hopen hphase hkept
    obtain ⟨reason, hmem⟩ := h.ended hopen hphase hkept
    refine ⟨reason, ?_⟩
    rw [trace_emit, hown]
    exact List.mem_append_left _ hmem

/-- A state frame other than an announcement, sent in an open session. -/
theorem Wired.emitState {state : SubscriptionState} {reason : Option ErrorCode}
    (h : s.Wired first before stored released) (hopen : s.sessionClosed = false)
    (hstate : state ≠ .synchronizing) :
    (s.emit (.state ⟨s.epoch, state, reason⟩)).Wired first before stored released := by
  have hannounced : announced (s.trace ++ [.state ⟨s.epoch, state, reason⟩]) =
      announced s.trace := by
    rw [announced_append]
    cases state with
    | synchronizing => exact absurd rfl hstate
    | _ => simp [announced]
  have hown := h.drop_append [.state ⟨s.epoch, state, reason⟩]
  have hsilent : announced [Observation.state ⟨s.epoch, state, reason⟩] = [] := by
    rw [announced_append] at hannounced
    simpa using hannounced
  constructor
  · exact h.began.trans (List.prefix_append _ _)
  · exact h.grown.trans (List.prefix_append _ _)
  · intro epoch hmem
    exact h.lower epoch (hannounced ▸ hmem)
  · intro epoch hmem
    exact h.upper epoch (hannounced ▸ hmem)
  · exact h.next
  · intro earlier frame hpre hother
    rw [trace_emit, hown] at hpre
    rcases List.prefix_concat_iff.mp hpre with hsame | hpre
    · have hearlier := List.append_inj_left' hsame rfl
      have hlast := List.singleton_inj.mp (List.append_inj_right' hsame rfl)
      obtain rfl : frame = ⟨s.epoch, state, reason⟩ := by simpa using hlast
      rw [hearlier]
      exact h.epoch hopen
    · exact h.tagged earlier frame hpre hother
  · intro _
    rw [trace_emit, hown]
    unfold wireEpoch
    rw [announced_append, hsilent, List.append_nil]
    exact h.epoch hopen
  · exact h.kept
  · intro hopen hphase hkept
    obtain ⟨reason', hmem⟩ := h.ended hopen hphase hkept
    refine ⟨reason', ?_⟩
    rw [trace_emit, hown]
    exact List.mem_append_left _ hmem

/-- Once the session is closed only what was recorded matters. -/
theorem Wired.shut {s' : ServerSubscription} (h : s.Wired first before stored released)
    (htrace : s'.trace = s.trace) (hnext : s.nextId ≤ s'.nextId)
    (hclosed : s'.sessionClosed = true) : s'.Wired first before stored released := by
  have hnot : ∀ {p : Prop}, s'.sessionClosed = false → p := by
    intro p hopen
    rw [hclosed] at hopen
    cases hopen
  constructor
  · rw [htrace]; exact h.began
  · rw [htrace]; exact h.grown
  · rw [htrace]; exact h.lower
  · rw [htrace]
    intro epoch hmem
    exact (h.upper epoch hmem).trans_le hnext
  · exact h.next.trans hnext
  · rw [htrace]; exact h.tagged
  · exact hnot
  · exact hnot
  · exact hnot

theorem Wired.teardown_shut (hclosed : Wired first before stored released { s with sessionClosed := true })
    (hopen : s.sessionClosed = false) : s.teardown.Wired first before stored released := by
  unfold ServerSubscription.teardown
  rw [if_neg (Bool.eq_false_iff.mp hopen)]
  dsimp only
  split
  · unfold ServerSubscription.dispose
    split
    · exact hclosed.shut rfl (Nat.le_refl _) rfl
    · have hended := hclosed.emit (o := .terminated s.epoch) (by simp)
      exact hended.shut rfl (Nat.le_refl _) rfl
  · exact hclosed

theorem Wired.teardown (h : s.Wired first before stored released) :
    s.teardown.Wired first before stored released := by
  by_cases hopen : s.sessionClosed = false
  · have hshut : ({ s with sessionClosed := true } : ServerSubscription).Wired first before stored
        released := h.shut rfl (Nat.le_refl _) rfl
    exact hshut.teardown_shut hopen
  · unfold ServerSubscription.teardown
    rw [if_pos (by simpa using hopen)]
    exact h

section Sending

variable {limits : Limits} {readings : Readings} {site : SendSite}

theorem Wired.checkStalled (h : s.Wired first before stored released) :
    (s.checkStalled limits readings site).Wired first before stored released := by
  unfold ServerSubscription.checkStalled
  split
  · exact h
  · split
    · exact h
    · exact h.teardown

theorem Wired.sendState {state : SubscriptionState} {reason : Option ErrorCode}
    (h : s.Wired first before stored released) (hstate : state ≠ .synchronizing) :
    (s.sendState limits readings site state reason).Wired first before stored released := by
  have hpublished : (s.publish state).Wired first before stored released := h.of_eq rfl
  have hchecked : ((s.publish state).checkStalled limits readings site).Wired first before stored
      released := hpublished.checkStalled
  unfold ServerSubscription.sendState
  dsimp only
  split
  · exact hchecked
  · case isFalse hopen => exact hchecked.emitState (Bool.eq_false_iff.mpr hopen) hstate

theorem Wired.sendError {code : ErrorCode} (h : s.Wired first before stored released) :
    (s.sendError limits readings site code).Wired first before stored released := by
  have hchecked : (s.checkStalled limits readings site).Wired first before stored released :=
    h.checkStalled
  unfold ServerSubscription.sendError
  dsimp only
  split
  · exact hchecked
  · exact hchecked.emit (by simp)

theorem Wired.canDeliver (h : s.Wired first before stored released) :
    (s.canDeliver limits readings site).1.Wired first before stored released := by
  have hchecked : (s.checkStalled limits readings site).Wired first before stored released :=
    h.checkStalled
  unfold ServerSubscription.canDeliver
  dsimp only
  split
  · exact hchecked
  · split
    · exact hchecked.of_eq rfl
    · exact hchecked

/-- A send leaves a session open only without changing anything but what it records. -/
theorem sendState_open {state : SubscriptionState} {reason : Option ErrorCode}
    (hopen : (s.sendState limits readings site state reason).sessionClosed = false) :
    s.sendState limits readings site state reason =
      (s.publish state).emit (.state ⟨s.epoch, state, reason⟩) := by
  unfold ServerSubscription.sendState at hopen ⊢
  dsimp only at hopen ⊢
  split
  · case isTrue hclosed =>
      rw [if_pos hclosed, hclosed] at hopen
      cases hopen
  · case isFalse hnot =>
      rw [checkStalled_open (Bool.eq_false_iff.mpr hnot)]
      rfl

theorem sendError_open {code : ErrorCode}
    (hopen : (s.sendError limits readings site code).sessionClosed = false) :
    s.sendError limits readings site code = s.emit (.error s.epoch code) := by
  unfold ServerSubscription.sendError at hopen ⊢
  dsimp only at hopen ⊢
  split
  · case isTrue hclosed =>
      rw [if_pos hclosed, hclosed] at hopen
      cases hopen
  · case isFalse hnot => rw [checkStalled_open (Bool.eq_false_iff.mpr hnot)]

theorem canDeliver_open
    (hopen : (s.canDeliver limits readings site).1.sessionClosed = false) :
    (s.canDeliver limits readings site).1.wiring = s.wiring := by
  unfold ServerSubscription.canDeliver at hopen ⊢
  dsimp only at hopen ⊢
  split
  · case isTrue hclosed =>
      rw [if_pos hclosed, hclosed] at hopen
      cases hopen
  · case isFalse hnot =>
      rw [checkStalled_open (Bool.eq_false_iff.mpr hnot)]
      split
      · rfl
      · rfl

/-- In an open session the subscription is not over. -/
def Running (s : ServerSubscription) : Prop := s.sessionClosed = false → s.phase ≠ .terminated

theorem Running.sendState {state : SubscriptionState} {reason : Option ErrorCode}
    (h : s.Running) : (s.sendState limits readings site state reason).Running := by
  intro hopen
  have heq := sendState_open hopen
  rw [heq] at hopen ⊢
  exact h hopen

theorem Running.sendError {code : ErrorCode} (h : s.Running) :
    (s.sendError limits readings site code).Running := by
  intro hopen
  have heq := sendError_open hopen
  rw [heq] at hopen ⊢
  exact h hopen

theorem running_of_phase (hphase : s.phase ≠ .terminated) : s.Running := fun _ => hphase

section Operations

theorem Wired.attemptFailed {code : ErrorCode} (h : s.Wired first before stored released)
    (hrunning : s.Running) :
    (s.attemptFailed limits readings code).Wired first before stored released := by
  have hentered : (s.invalidate.enter .backoff).Wired first before stored released :=
    Wired.enter (s := s.invalidate) (h.of_eq rfl) hrunning (by simp)
  have hsent : ((s.invalidate.enter .backoff).sendState limits readings .attemptStale .stale
      (some code)).Wired first before stored released := hentered.sendState (by simp)
  have hstill : ((s.invalidate.enter .backoff).sendState limits readings .attemptStale .stale
      (some code)).Running := Running.sendState (running_of_phase (by simp [ServerSubscription.enter]))
  unfold ServerSubscription.attemptFailed
  dsimp only
  split
  · apply Wired.sendState
    · apply Wired.sendError
      exact hsent.enter hstill (by simp)
    · simp
  · exact hsent.of_eq rfl

theorem Wired.protocolViolation (h : s.Wired first before stored released) (hrunning : s.Running) :
    (s.protocolViolation limits readings).Wired first before stored released := by
  unfold ServerSubscription.protocolViolation
  exact h.sendError.attemptFailed hrunning.sendError

/-- Whatever the client did, a subscription whose end it was told of may be over. -/
theorem Wired.settle {told : Bool} (h : s.Wired first before stored told)
    (hended : s.sessionClosed = false → s.phase = .terminated → released = false →
      ∃ reason, Observation.state ⟨s.epoch, .failed, reason⟩ ∈ s.trace.drop before.length) :
    s.Wired first before stored released :=
  ⟨h.began, h.grown, h.lower, h.upper, h.next, h.tagged, h.epoch, h.kept, hended⟩

theorem Wired.release (h : s.Wired first before stored released) : s.Wired first before stored true :=
  h.settle (by simp)

/-- The client gives the subscription up, or its session has closed. -/
theorem Wired.dispose (h : s.Wired first before stored true) : s.dispose.Wired first before stored true := by
  unfold ServerSubscription.dispose
  split
  · exact h
  · have hended := h.emit (o := .terminated s.epoch) (by simp)
    refine ⟨hended.began, hended.grown, hended.lower, hended.upper, hended.next, hended.tagged, hended.epoch,
      ?_, by simp⟩
    exact fun _ _ => rfl

theorem Wired.fail {code : ErrorCode} (h : s.Wired first before stored released) :
    (s.fail limits readings code).Wired first before stored released := by
  unfold ServerSubscription.fail
  split
  · exact h
  · have hover : ((s.invalidate.enter .terminated).unregister.emit
        (.terminated s.epoch)).Wired first before stored true := by
      have hended := h.release.emit (o := .terminated s.epoch) (by simp)
      exact ⟨hended.began, hended.grown, hended.lower, hended.upper, hended.next, hended.tagged, hended.epoch,
        fun _ _ => rfl, by simp⟩
    have herror : (((s.invalidate.enter .terminated).unregister.emit
        (.terminated s.epoch)).sendError limits readings .failError code).Wired first before stored true :=
      hover.sendError
    have hfailed : ((((s.invalidate.enter .terminated).unregister.emit
        (.terminated s.epoch)).sendError limits readings .failError code).sendState limits readings
          .failState .failed (some code)).Wired first before stored true := herror.sendState (by simp)
    refine ⟨hfailed.began, hfailed.grown, hfailed.lower, hfailed.upper, hfailed.next, hfailed.tagged,
      hfailed.epoch, ?_, ?_⟩
    · intro hopen _
      have hsent := sendState_open hopen
      have hopen' := hopen
      dsimp only [ServerSubscription.remove] at hopen' ⊢
      rw [hsent] at hopen' ⊢
      have herrored := sendError_open hopen'
      show ServerSubscription.phase (ServerSubscription.sendError _ _ _ _ _) = _
      rw [herrored]
      rfl
    · intro hopen _ _
      have hsent := sendState_open hopen
      have hpublished : ((((s.invalidate.enter .terminated).unregister.emit
          (.terminated s.epoch)).sendError limits readings .failError code).publish .failed).Wired
            first before stored true := herror.of_eq rfl
      refine ⟨some code, ?_⟩
      dsimp only [ServerSubscription.remove]
      rw [hsent, trace_emit, hpublished.drop_append]
      exact List.mem_append_right _ (List.mem_singleton.mpr rfl)

/-- A data frame is no state frame, and what else changes is not read. -/
theorem Wired.handOver {frame : PendingFrame} (h : s.Wired first before stored released) :
    (s.handOver frame).Wired first before stored released := by
  have hnumbered : Wired first before stored released { s with
      sequence := s.sequence + 1
      inFlight := some ⟨frame, s.sequence + 1⟩ } := h.of_eq rfl
  unfold ServerSubscription.handOver ServerSubscription.sendData
  dsimp only
  split
  · exact hnumbered.of_eq rfl
  · have hsent := hnumbered.emit (o := .data ⟨s.epoch, s.sequence + 1, frame.event⟩) (by simp)
    exact hsent.of_eq rfl

theorem Wired.transmit {frame : PendingFrame} (h : s.Wired first before stored released)
    (hrunning : s.Running) : (s.transmit limits readings frame).Wired first before stored released := by
  unfold ServerSubscription.transmit
  split
  · case h_1 s' hdenied =>
      have hchecked : (s.canDeliver limits readings .transmit).1.Wired first before stored released :=
        h.canDeliver
      rw [hdenied] at hchecked
      exact hchecked.of_eq rfl
  · case h_2 s' hgranted =>
      obtain ⟨rfl, -⟩ := canDeliver_granted hgranted
      split
      · exact Wired.attemptFailed (h.of_eq rfl) hrunning
      · exact h.handOver

theorem Wired.pump (h : s.Wired first before stored released) :
    (s.pump limits readings).Wired first before stored released := by
  unfold ServerSubscription.pump
  split
  · exact h
  · split
    · exact h
    · case isFalse hphase =>
        split
        · exact h
        · apply Wired.transmit
          · exact h.of_eq rfl
          · apply running_of_phase
            intro hover
            apply hphase
            constructor <;> simp_all

theorem Wired.goLive (h : s.Wired first before stored released) (hrunning : s.Running) :
    (s.goLive limits readings).Wired first before stored released := by
  have hlive : (s.enter .live).Wired first before stored released := h.enter hrunning (by simp)
  unfold ServerSubscription.goLive
  apply Wired.pump
  apply Wired.sendState
  · exact hlive.of_eq rfl
  · simp

theorem running_of_capturing (hcapturing : s.capturing = true) : s.Running := by
  apply running_of_phase
  intro hphase
  simp [ServerSubscription.capturing, hphase] at hcapturing

theorem Wired.admitFrame {frame : PendingFrame} (h : s.Wired first before stored released) :
    (s.admitFrame limits readings frame).1.Wired first before stored released := by
  unfold ServerSubscription.admitFrame
  split
  · exact h.emit (by simp)
  · case isFalse hcapturing =>
      split
      · exact h.emit (by simp)
      · split
        · apply Wired.attemptFailed
          · exact h.emit (by simp)
          · exact running_of_capturing (s := s) (by simpa using hcapturing)
        · apply Wired.pump
          apply Wired.emit
          · exact h.of_eq rfl
          · simp

theorem Wired.onReceipt {epoch : Epoch} {sequence : ℕ} (h : s.Wired first before stored released) :
    (s.onReceipt limits readings epoch sequence).Wired first before stored released := by
  unfold ServerSubscription.onReceipt
  split
  · exact h
  · case isFalse hheeded =>
      have hrunning : s.Running := by
        apply running_of_capturing
        simp only [not_or, Bool.not_eq_true', Bool.not_eq_false] at hheeded
        exact hheeded.2
      split
      · split
        · exact h
        · exact h.protocolViolation hrunning
      · case h_2 inFlight _ =>
          split
          · split
            · exact h
            · exact h.protocolViolation hrunning
          · split
            · exact h.protocolViolation hrunning
            · have hreceipted : (s.receipted inFlight).Wired first before stored released := h.of_eq rfl
              have hstill : (s.receipted inFlight).Running := hrunning
              dsimp only
              split
              · have hdraining : (s.receipted inFlight).beginDrain.Wired first before stored released := by
                  unfold ServerSubscription.beginDrain
                  apply Wired.emit
                  · apply Wired.enter
                    · exact hreceipted.of_eq rfl
                    · exact hrunning
                    · simp
                  · simp
                split
                · exact hdraining.goLive (running_of_phase (by simp [ServerSubscription.beginDrain,
                    ServerSubscription.enter, ServerSubscription.emit]))
                · exact hdraining.pump
              · have hcounted : (s.receipted inFlight).countDown.Wired first before stored released :=
                  hreceipted.of_eq rfl
                split
                · split
                  · exact hcounted.goLive hrunning
                  · exact hcounted.pump
                · exact hreceipted.pump

theorem Wired.beginAttempt {announce : Bool} (h : s.Wired first before stored released)
    (hrunning : s.Running) :
    (s.beginAttempt limits readings announce).Wired first before stored released := by
  have hentered : ((s.invalidate.countAttempt 1).enter .authorizing).Wired first before stored released :=
    Wired.enter (s := s.invalidate.countAttempt 1) (h.of_eq rfl) hrunning (by simp)
  have hannounced : (((s.invalidate.countAttempt 1).enter .authorizing).announceAttempt limits
      readings announce).Wired first before stored released := by
    unfold ServerSubscription.announceAttempt
    split
    · exact hentered.sendState (by simp)
    · exact hentered.of_eq rfl
  unfold ServerSubscription.beginAttempt
  unfold ServerSubscription.callAuthorize
  dsimp only
  split
  · exact hannounced.of_eq rfl
  · exact hannounced.of_eq rfl

theorem Wired.afterAuthorizeHandler {generation : ℕ} {outcome : AuthorizeOutcome} {revoked : Bool}
    (h : s.Wired first before stored released) (hrunning : generation = s.generation → s.Running) :
    (s.afterAuthorizeHandler limits readings generation outcome revoked).1.Wired first before stored
      released := by
  unfold ServerSubscription.afterAuthorizeHandler
  split
  · exact h
  · case isFalse hcurrent =>
      split
      · exact h
      · exact h.attemptFailed (hrunning (not_not.mp hcurrent))
      · exact h.fail
      · exact h.fail
      · have hchecked : (s.canDeliver limits readings .authorize).1.Wired first before stored released :=
          h.canDeliver
        split
        · case h_1 s' hdenied =>
            rw [hdenied] at hchecked
            exact hchecked
        · case h_2 s' hgranted =>
            rw [hgranted] at hchecked
            split
            · exact hchecked.fail
            · exact hchecked

theorem Wired.awaitAuthorized {generation : ℕ} {waiting : Await}
    {result : ServerSubscription × Bool} (h : result.1.Wired first before stored released) :
    (ServerSubscription.awaitAuthorized generation waiting result).Wired first before stored released := by
  unfold ServerSubscription.awaitAuthorized
  split
  · exact h.of_eq rfl
  · exact h

/-- A state is sent, unless the session is closed or the send closes it. -/
theorem Wired.sent {state : SubscriptionState} {reason : Option ErrorCode}
    (hclosed : Wired first before stored released { s with sessionClosed := true })
    (hsent : s.sessionClosed = false →
      ((s.publish state).emit (.state ⟨s.epoch, state, reason⟩)).Wired first before stored released) :
    (s.sendState limits readings site state reason).Wired first before stored released := by
  have hshut : s.sessionClosed = true → (s.publish state).Wired first before stored released :=
    fun hs => hclosed.shut rfl (Nat.le_refl _) hs
  unfold ServerSubscription.sendState ServerSubscription.checkStalled
  dsimp only
  by_cases hopen : (s.publish state).sessionClosed = true
  · rw [if_pos hopen, if_pos hopen]
    exact hshut hopen
  · rw [if_neg hopen]
    split
    · exact hsent (Bool.eq_false_iff.mpr hopen)
    · rw [if_pos (teardown_closed _)]
      apply Wired.teardown_shut
      · exact hclosed.of_eq rfl
      · exact Bool.eq_false_iff.mpr hopen

/-- A fresh epoch is announced. -/
theorem Wired.announce (h : s.Wired first before stored released) (hrunning : s.Running) :
    ({ s with epoch := s.nextId, nextId := s.nextId + 1, sequence := 0 }.sendState limits readings
      .synchronizing .synchronizing none).Wired first before stored released := by
  apply Wired.sent
  · exact h.shut rfl (Nat.le_succ _) rfl
  · intro hopen
    have hown := h.drop_append [.state ⟨s.nextId, .synchronizing, none⟩]
    constructor
    · exact h.began.trans (List.prefix_append _ _)
    · exact h.grown.trans (List.prefix_append _ _)
    · intro epoch hmem
      rw [trace_emit, announced_append_synchronizing] at hmem
      rcases List.mem_append.mp hmem with hmem | hmem
      · exact h.lower epoch hmem
      · rw [List.mem_singleton.mp hmem]
        exact h.next
    · intro epoch hmem
      show epoch < s.nextId + 1
      rw [trace_emit, announced_append_synchronizing] at hmem
      rcases List.mem_append.mp hmem with hmem | hmem
      · exact (h.upper epoch hmem).trans (Nat.lt_succ_self _)
      · rw [List.mem_singleton.mp hmem]
        exact Nat.lt_succ_self _
    · exact h.next.trans (Nat.le_succ _)
    · intro earlier frame hpre hother
      rw [trace_emit] at hpre
      rcases List.prefix_concat_iff.mp (hown ▸ hpre) with hsame | hpre
      · have hlast := List.singleton_inj.mp (List.append_inj_right' hsame rfl)
        simp only [Observation.state.injEq] at hlast
        rw [hlast] at hother
        exact absurd rfl hother
      · exact h.tagged earlier frame hpre hother
    · intro _
      rw [trace_emit]
      exact (hown ▸ (wireEpoch_append_synchronizing _ _ _)).symm
    · exact h.kept
    · intro _ hphase
      exact absurd hphase (hrunning hopen)

theorem Wired.afterAuthorized {generation : ℕ} (h : s.Wired first before stored released)
    (hrunning : s.Running) :
    (s.afterAuthorized limits readings generation).Wired first before stored released := by
  unfold ServerSubscription.afterAuthorized
  split
  · apply Wired.sendState
    · exact Wired.enter (s := s.countAttempt (-1)) (h.of_eq rfl) hrunning (by simp)
    · simp
  · have hannounced : ({ s with epoch := s.nextId, nextId := s.nextId + 1, sequence := 0 }.sendState
        limits readings .synchronizing .synchronizing none).Wired first before stored released :=
      h.announce hrunning
    have hstill : ({ s with epoch := s.nextId, nextId := s.nextId + 1, sequence := 0 }.sendState
        limits readings .synchronizing .synchronizing none).Running := Running.sendState hrunning
    have hcapturing : Phase.capturing ≠ .terminated := by simp
    have hcaptured := hannounced.enter hstill hcapturing
    exact hcaptured.of_eq rfl

theorem Wired.afterPermit {generation : ℕ} {acquired : Bool} (h : s.Wired first before stored released)
    (hrunning : generation = s.generation → s.Running) :
    (s.afterPermit limits readings generation acquired).Wired first before stored released := by
  unfold ServerSubscription.afterPermit
  split
  · exact h
  · case isFalse hcurrent =>
      split
      · exact h.attemptFailed (hrunning (not_not.mp hcurrent))
      · exact h.of_eq rfl

theorem Wired.afterSnapshotHandler {generation : ℕ} {boundary : Option BoundaryId}
    {outcome : SnapshotOutcome} (h : s.Wired first before stored released)
    (hrunning : generation = s.generation → s.Running) :
    (s.afterSnapshotHandler limits readings generation boundary outcome).Wired first before stored
      released := by
  unfold ServerSubscription.afterSnapshotHandler
  split
  · exact h
  · case isFalse hcurrent =>
      have hstill : s.Running := hrunning (not_not.mp hcurrent)
      split
      · exact h
      · exact h.attemptFailed hstill
      · exact h.fail
      · exact h.fail
      · split
        · exact h.fail
        · split
          · exact h.attemptFailed hstill
          · split
            · exact h.attemptFailed hstill
            · exact h.of_eq rfl

theorem Wired.afterRechecked {channel : String} {channelVersion : ℕ} {boundary : Option BoundaryId}
    {snapshot : Snapshot} (h : s.Wired first before stored released) (hrunning : s.Running) :
    (s.afterRechecked limits readings channel channelVersion boundary snapshot).Wired first before stored
      released := by
  unfold ServerSubscription.afterRechecked
  split
  · exact h.attemptFailed hrunning
  · split
    · exact h.fail
    · split
      · exact h.attemptFailed hrunning
      · apply Wired.transmit
        · apply Wired.emit
          · apply Wired.enter
            · exact h.of_eq rfl
            · exact hrunning
            · simp
          · simp
        · apply running_of_phase
          simp [ServerSubscription.enter, ServerSubscription.emit]

theorem Wired.onSourceUnavailable {reason : ErrorCode} (h : s.Wired first before stored released) :
    (s.onSourceUnavailable limits readings reason).Wired first before stored released := by
  have hinterrupted : s.phase ≠ .terminated →
      ((s.invalidate.enter .waitingSource).sendState limits readings .unavailable .stale
        (some reason)).Wired first before stored released := by
    intro hphase
    apply Wired.sendState
    · exact Wired.enter (s := s.invalidate) (h.of_eq rfl) (fun _ => hphase) (by simp)
    · simp
  unfold ServerSubscription.onSourceUnavailable
  split <;> first
    | exact h
    | (apply hinterrupted; simp_all)

theorem Wired.onSourceReady (h : s.Wired first before stored released) :
    (s.onSourceReady limits readings).Wired first before stored released := by
  unfold ServerSubscription.onSourceReady
  split
  · apply h.beginAttempt
    apply running_of_phase
    simp_all
  · exact h

theorem Wired.setSourceStatus {status : SourceStatus} {reason : Option ErrorCode}
    (h : s.Wired first before stored released) :
    (s.setSourceStatus limits readings status reason).Wired first before stored released := by
  have hset : Wired first before stored released { s with source := s.source.setStatus status reason } :=
    h.of_eq rfl
  unfold ServerSubscription.setSourceStatus
  split
  · exact h
  · unfold ServerSubscription.sourceChanged
    split
    · exact hset
    · split
      · exact hset.onSourceUnavailable
      · split
        · exact hset.onSourceReady
        · exact hset

theorem Wired.requestResync (h : s.Wired first before stored released) :
    (s.requestResync limits readings).Wired first before stored released := by
  unfold ServerSubscription.requestResync
  split <;> first
    | exact h
    | (apply Wired.beginAttempt
       · exact h.of_eq rfl
       · apply running_of_phase
         simp_all)

end Operations

end Sending

section Stepping

variable {config : ServerConfig} {readings : Readings}

theorem Wired.inbound {handle : ServerSubscription → ServerSubscription}
    (h : s.Wired first before stored released) (hhandle : (handle s).Wired first before stored released) :
    (s.inbound config readings handle).Wired first before stored released := by
  have hchecked : (s.checkStalled config.limits readings .inbound).Wired first before stored released :=
    h.checkStalled
  unfold ServerSubscription.inbound
  dsimp only
  split
  · exact hchecked
  · case isFalse hreached =>
      simp only [Bool.or_eq_true, not_or, Bool.not_eq_true] at hreached
      rw [checkStalled_open hreached.1]
      exact hhandle

/-- An attempt of the current generation belongs to a subscription that is not over. -/
theorem Fits.running {waiting : Await} (hfits : s.Fits waiting) : s.Running := by
  apply running_of_phase
  intro hphase
  unfold Fits at hfits
  split at hfits <;> simp_all

/-- In the atomic machine an attempt that may go on belongs to a subscription that is not
over, or its session is closed. -/
theorem Sound.running {input : ServerInput} (hsound : s.Sound)
    (hallowed : (atomicMachine config).allowed s input) {attempt : Attempt}
    (hmem : attempt ∈ s.pending)
    (hcurrent : attempt.generation = s.generation ∨ attempt.waiting.afterAuthorize = true)
    (hevent : s.IsJob input.step = true → attempt.waiting.afterAuthorize = true) : s.Running := by
  cases hsound with
  | closed hclosed _ =>
      intro hopen
      rw [hclosed] at hopen
      cases hopen
  | expired hexpiring _ huntrusting =>
      rcases hallowed with hjob | hsettled
      · have htrust := hevent hjob
        rw [huntrusting attempt hmem] at htrust
        cases htrust
      · have hunexpired := hsettled.2.2
        rw [hexpiring] at hunexpired
        cases hunexpired
  | opened hopen =>
      have hgeneration : attempt.generation = s.generation := by
        rcases hcurrent with hcurrent | htrust
        · exact hcurrent
        · exact (hopen.attempts.trusting attempt hmem htrust).1
      exact Fits.running (hopen.attempts.current attempt hmem hgeneration)

/-- Every step of the atomic machine but the client's own release. -/
theorem Wired.step (h : s.Wired first before stored released) (hsound : s.Sound) {input : ServerInput}
    (hallowed : (atomicMachine config).allowed s input) (hkept : input.step ≠ .unsubscribe) :
    (s.step config input).Wired first before stored released := by
  rcases input with ⟨action, readings⟩
  unfold ServerSubscription.step
  cases action with
  | start =>
      dsimp only
      split
      · case isTrue hphase =>
          have hregistered : Wired first before stored released { s with registered := true } := h.of_eq rfl
          apply hregistered.beginAttempt
          apply running_of_phase
          simp [hphase]
      · exact h
  | admitFrame frame =>
      dsimp only
      split
      · exact h.admitFrame
      · exact h
  | receipt epoch sequence =>
      apply h.inbound
      apply Wired.onReceipt
      exact h.emit (by simp)
  | resync =>
      apply h.inbound
      apply Wired.requestResync
      exact h.emit (by simp)
  | unsubscribe => exact absurd rfl hkept
  | setSourceStatus status reason => exact h.setSourceStatus
  | setBoundary boundary => exact h.of_eq rfl
  | revoke =>
      dsimp only
      split
      · exact h.fail
      · exact h
  | closeSession => exact h.teardown
  | expire =>
      have hclosed := h.teardown
      exact hclosed.of_eq rfl
  | receiptTimeout =>
      dsimp only
      split
      · apply Wired.teardown
        exact h.of_eq rfl
      · exact h
  | retry =>
      dsimp only
      split
      · exact h
      · split
        · case isTrue hcurrent =>
            apply Wired.beginAttempt
            · exact h.of_eq rfl
            · apply running_of_phase
              rw [hcurrent.2]
              simp
        · exact h.of_eq rfl
  | elsewhere connection gateway => exact h.of_eq rfl
  | callHandler index =>
      show (s.callHandler index).Wired first before stored released
      unfold ServerSubscription.callHandler
      split
      · exact h
      · apply Wired.emit
        · exact h.of_eq rfl
        · simp
  | resumeAuthorize index outcome revoked =>
      apply resume_induction h
      intro attempt proceed hindex hproceed
      obtain ⟨next, -, rfl⟩ := resumeAuthorize_eq_some hproceed
      have htaken : (s.taken index).Wired first before stored released := h.of_eq rfl
      apply Wired.awaitAuthorized
      apply htaken.afterAuthorizeHandler
      intro hcurrent
      exact hsound.running hallowed (List.mem_of_getElem? hindex) (.inl hcurrent) (by simp [IsJob])
  | resumeAuthorized index =>
      apply resume_induction h
      intro attempt proceed hindex hproceed
      have htaken : (s.taken index).Wired first before stored released := h.of_eq rfl
      have hrunning : attempt.waiting.afterAuthorize = true → (s.taken index).Running := by
        intro htrust
        exact hsound.running hallowed (List.mem_of_getElem? hindex) (.inr htrust) (fun _ => htrust)
      rcases resumeAuthorized_eq_some hproceed with ⟨hwaiting, rfl⟩ | ⟨_, _, hwaiting, rfl⟩
      · apply htaken.afterAuthorized
        apply hrunning
        simp [hwaiting, Await.afterAuthorize]
      · apply htaken.afterRechecked
        apply hrunning
        simp [hwaiting, Await.afterAuthorize]
  | resumePermit index acquired =>
      apply resume_induction h
      intro attempt proceed hindex hproceed
      obtain ⟨-, rfl⟩ := resumePermit_eq_some hproceed
      have htaken : (s.taken index).Wired first before stored released := h.of_eq rfl
      apply htaken.afterPermit
      intro hcurrent
      exact hsound.running hallowed (List.mem_of_getElem? hindex) (.inl hcurrent) (by simp [IsJob])
  | resumeSnapshot index outcome =>
      apply resume_induction h
      intro attempt proceed hindex hproceed
      obtain ⟨boundary, -, rfl⟩ := resumeSnapshot_eq_some hproceed
      have htaken : (s.taken index).Wired first before stored released := h.of_eq rfl
      apply htaken.afterSnapshotHandler
      intro hcurrent
      exact hsound.running hallowed (List.mem_of_getElem? hindex) (.inl hcurrent) (by simp [IsJob])

/-- The client's own release. -/
theorem Wired.unsubscribe (h : s.Wired first before stored released) :
    (s.step config ⟨.unsubscribe, readings⟩).Wired first before stored true := by
  have hdropped : s.dispose.remove.Wired first before stored true := by
    have hdisposed := h.release.dispose
    refine ⟨hdisposed.began, hdisposed.grown, hdisposed.lower, hdisposed.upper, hdisposed.next,
      hdisposed.tagged, hdisposed.epoch, ?_, by simp⟩
    intro _ _
    show s.dispose.phase = .terminated
    unfold ServerSubscription.dispose
    split
    · assumption
    · rfl
  show (s.inbound config readings fun s => s.dispose.remove).Wired first before stored true
  exact h.release.inbound hdropped

end Stepping

theorem wired_absent (budget : SubscriptionBudget) (source : SourceRuntime) (nextId : ℕ) :
    (absent budget source nextId).Wired nextId [] [] true := by
  constructor
  · exact List.nil_prefix
  · exact List.nil_prefix
  · simp [absent, initial, announced]
  · simp [absent, initial, announced]
  · simp [absent]
  · intro earlier frame hpre
    simp [absent, initial] at hpre
  · intro _
    rfl
  · intro _ _
    rfl
  · simp

/-- A subscription built anew in the session starts its own record. -/
theorem Wired.renewed (h : s.Wired first before stored released) :
    s.renewed.Wired first s.trace s.trace false := by
  have hown : s.renewed.trace.drop s.trace.length = [] := List.drop_length
  constructor
  · exact List.prefix_refl _
  · exact List.prefix_refl _
  · exact h.lower
  · exact h.upper
  · exact h.next
  · rw [hown]
    intro earlier frame hpre
    simp at hpre
  · intro _
    rw [hown]
    rfl
  · intro _ hdropped
    cases hdropped
  · intro _ hphase
    cases hphase

/-- Everything recorded so far was stored. -/
theorem Wired.store (h : s.Wired first before stored released) :
    s.Wired first before s.trace released :=
  ⟨h.began, List.prefix_refl _, h.lower, h.upper, h.next, h.tagged, h.epoch, h.kept, h.ended⟩

end ServerSubscription

end StreamOtter
