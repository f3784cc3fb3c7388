import StreamOtter.ServerInvariant

/-!
# A closed session sends nothing

Every operation on a subscription whose session is closed leaves it closed and adds
at most entries that put nothing on the wire.
-/

namespace StreamOtter

namespace ServerSubscription

/-- The session is closed and what was sent before was disciplined. -/
structure Shut (s : ServerSubscription) : Prop where
  closed : s.sessionClosed = true
  trace : Disciplined s.trace

theorem Shut.sound {s : ServerSubscription} (hshut : s.Shut) : s.Sound :=
  .closed hshut.closed hshut.trace

theorem Shut.emit {s : ServerSubscription} {o : Observation} (hshut : s.Shut) (ho : o.Silent) :
    (s.emit o).Shut :=
  ⟨hshut.closed, disciplined_append.mpr ⟨hshut.trace, ho.allowed s.trace⟩⟩

theorem Shut.invalidate {s : ServerSubscription} (hshut : s.Shut) : s.invalidate.Shut :=
  ⟨hshut.closed, hshut.trace⟩

theorem Shut.dispose {s : ServerSubscription} (hshut : s.Shut) : s.dispose.Shut := by
  unfold ServerSubscription.dispose
  split
  · exact hshut
  · exact Shut.emit ⟨hshut.closed, hshut.trace⟩ trivial

/-- Tearing the session down shuts it. -/
theorem shut_teardown {s : ServerSubscription} (htrace : Disciplined s.trace) :
    s.teardown.Shut := by
  unfold teardown
  split
  case isTrue hclosed => exact ⟨hclosed, htrace⟩
  case isFalse =>
    have hshut : Shut { s with sessionClosed := true } := ⟨rfl, htrace⟩
    dsimp only
    split
    · exact ⟨hshut.dispose.closed, hshut.dispose.trace⟩
    · exact hshut

section Sending

variable {limits : Limits} {readings : Readings} {s : ServerSubscription}

theorem checkStalled_closed {site : SendSite} (hclosed : s.sessionClosed = true) :
    s.checkStalled limits readings site = s := by
  simp [checkStalled, hclosed]

theorem Shut.sendState {site : SendSite} {state : SubscriptionState} {reason : Option ErrorCode}
    (hshut : s.Shut) : (s.sendState limits readings site state reason).Shut := by
  unfold ServerSubscription.sendState
  have hset : (s.publish state).Shut := ⟨hshut.closed, hshut.trace⟩
  rw [checkStalled_closed hset.closed]
  exact (if_pos hset.closed).symm ▸ hset

theorem Shut.sendError {site : SendSite} {code : ErrorCode} (hshut : s.Shut) :
    (s.sendError limits readings site code).Shut := by
  unfold ServerSubscription.sendError
  rw [checkStalled_closed hshut.closed]
  simpa only [hshut.closed, if_true] using hshut

theorem canDeliver_closed {site : SendSite} (hclosed : s.sessionClosed = true) :
    s.canDeliver limits readings site = (s, false) := by
  unfold canDeliver
  rw [checkStalled_closed hclosed]
  simp [hclosed]

theorem Shut.fail {code : ErrorCode} (hshut : s.Shut) : (s.fail limits readings code).Shut := by
  unfold ServerSubscription.fail
  split
  · exact hshut
  · have hended : Shut (s.invalidate.enter .terminated).unregister := ⟨hshut.closed, hshut.trace⟩
    have hsent : ((((s.invalidate.enter .terminated).unregister.emit
        (.terminated s.epoch)).sendError limits readings .failError code).sendState limits readings
          .failState .failed (some code)).Shut :=
      Shut.sendState (Shut.sendError (hended.emit trivial))
    exact ⟨hsent.closed, hsent.trace⟩

theorem Shut.attemptFailed {code : ErrorCode} (hshut : s.Shut) :
    (s.attemptFailed limits readings code).Shut := by
  have hstale : Shut ((s.invalidate.enter .backoff).sendState limits readings
      .attemptStale .stale (some code)) :=
    Shut.sendState ⟨hshut.closed, hshut.trace⟩
  unfold ServerSubscription.attemptFailed
  dsimp only
  split
  · exact Shut.sendState (Shut.sendError ⟨hstale.closed, hstale.trace⟩)
  · exact ⟨hstale.closed, hstale.trace⟩

theorem Shut.protocolViolation (hshut : s.Shut) :
    (s.protocolViolation limits readings).Shut :=
  hshut.sendError.attemptFailed

theorem Shut.transmit {frame : PendingFrame} (hshut : s.Shut) :
    (s.transmit limits readings frame).Shut := by
  unfold ServerSubscription.transmit
  rw [canDeliver_closed hshut.closed]
  exact ⟨hshut.closed, hshut.trace⟩

theorem Shut.pump (hshut : s.Shut) : (s.pump limits readings).Shut := by
  unfold ServerSubscription.pump
  split
  · exact hshut
  · split
    · exact hshut
    · split
      · exact hshut
      · exact Shut.transmit ⟨hshut.closed, hshut.trace⟩

theorem Shut.goLive (hshut : s.Shut) : (s.goLive limits readings).Shut :=
  Shut.pump (Shut.sendState ⟨hshut.closed, hshut.trace⟩)

theorem Shut.admitFrame {frame : PendingFrame} (hshut : s.Shut) :
    (s.admitFrame limits readings frame).1.Shut := by
  unfold ServerSubscription.admitFrame
  split
  · exact hshut.emit trivial
  · split
    · exact hshut.emit trivial
    · split
      · exact (hshut.emit (o := .admitted s.epoch frame .overflow) trivial).attemptFailed
      · exact Shut.pump (Shut.emit ⟨hshut.closed, hshut.trace⟩ trivial)

theorem Shut.beginAttempt {announce : Bool} (hshut : s.Shut) :
    (s.beginAttempt limits readings announce).Shut := by
  have hbegun : Shut ((s.invalidate.countAttempt 1).enter .authorizing) :=
    ⟨hshut.closed, hshut.trace⟩
  have hannounced : (((s.invalidate.countAttempt 1).enter .authorizing).announceAttempt limits
      readings announce).Shut := by
    unfold announceAttempt
    split
    · exact hbegun.sendState
    · exact ⟨hbegun.closed, hbegun.trace⟩
  unfold ServerSubscription.beginAttempt callAuthorize
  dsimp only
  split <;> exact ⟨hannounced.closed, hannounced.trace⟩

theorem Shut.afterAuthorizeHandler {generation : ℕ} {outcome : AuthorizeOutcome}
    {revoked : Bool} (hshut : s.Shut) :
    (s.afterAuthorizeHandler limits readings generation outcome revoked).1.Shut := by
  unfold ServerSubscription.afterAuthorizeHandler
  split
  · exact hshut
  · cases outcome with
    | aborted => exact hshut
    | timeout => exact hshut.attemptFailed
    | error => exact hshut.fail
    | denied => exact hshut.fail
    | allowed =>
        rw [canDeliver_closed hshut.closed]
        exact hshut

theorem Shut.afterAuthorized {generation : ℕ} (hshut : s.Shut) :
    (s.afterAuthorized limits readings generation).Shut := by
  unfold ServerSubscription.afterAuthorized
  split
  · exact Shut.sendState ⟨hshut.closed, hshut.trace⟩
  · have hsent : Shut ({ s with
        epoch := s.nextId, nextId := s.nextId + 1, sequence := 0 }.sendState limits readings
          .synchronizing .synchronizing none) :=
      Shut.sendState ⟨hshut.closed, hshut.trace⟩
    exact ⟨hsent.closed, hsent.trace⟩

theorem Shut.afterPermit {generation : ℕ} {acquired : Bool} (hshut : s.Shut) :
    (s.afterPermit limits readings generation acquired).Shut := by
  unfold ServerSubscription.afterPermit
  split
  · exact hshut
  · split
    · exact hshut.attemptFailed
    · exact ⟨hshut.closed, hshut.trace⟩

theorem Shut.afterSnapshotHandler {generation : ℕ} {boundary : Option BoundaryId}
    {outcome : SnapshotOutcome} (hshut : s.Shut) :
    (s.afterSnapshotHandler limits readings generation boundary outcome).Shut := by
  unfold ServerSubscription.afterSnapshotHandler
  split
  · exact hshut
  · cases outcome with
    | aborted => exact hshut
    | timeout => exact hshut.attemptFailed
    | error => exact hshut.fail
    | malformed => exact hshut.fail
    | ok snapshot =>
        dsimp only
        split
        · exact hshut.fail
        · split
          · exact hshut.attemptFailed
          · split
            · exact hshut.attemptFailed
            · exact ⟨hshut.closed, hshut.trace⟩

theorem Shut.afterRechecked {channel : String} {channelVersion : ℕ}
    {boundary : Option BoundaryId} {snapshot : Snapshot} (hshut : s.Shut) :
    (s.afterRechecked limits readings channel channelVersion boundary snapshot).Shut := by
  unfold ServerSubscription.afterRechecked
  split
  · exact hshut.attemptFailed
  · split
    · exact hshut.fail
    · split
      · exact hshut.attemptFailed
      · exact Shut.transmit (Shut.emit ⟨hshut.closed, hshut.trace⟩ trivial)

theorem Shut.onSourceUnavailable {reason : ErrorCode} (hshut : s.Shut) :
    (s.onSourceUnavailable limits readings reason).Shut := by
  unfold ServerSubscription.onSourceUnavailable
  split <;> first | exact hshut | exact Shut.sendState ⟨hshut.closed, hshut.trace⟩

theorem Shut.onSourceReady (hshut : s.Shut) : (s.onSourceReady limits readings).Shut := by
  unfold ServerSubscription.onSourceReady
  split
  · exact hshut.beginAttempt
  · exact hshut

theorem Shut.sourceChanged {wasReady : Bool} (hshut : s.Shut) :
    (s.sourceChanged limits readings wasReady).Shut := by
  unfold ServerSubscription.sourceChanged
  split
  · exact hshut
  · split
    · exact hshut.onSourceUnavailable
    · split
      · exact hshut.onSourceReady
      · exact hshut

theorem Shut.setSourceStatus {status : SourceStatus} {reason : Option ErrorCode}
    (hshut : s.Shut) : (s.setSourceStatus limits readings status reason).Shut := by
  unfold ServerSubscription.setSourceStatus
  split
  · exact hshut
  · exact Shut.sourceChanged ⟨hshut.closed, hshut.trace⟩

/-- A stall check shuts the session or changes nothing. -/
theorem checkStalled_cases (limits : Limits) (readings : Readings) (site : SendSite)
    (htrace : Disciplined s.trace) :
    (s.checkStalled limits readings site).Shut ∨ s.checkStalled limits readings site = s := by
  unfold checkStalled
  split
  · exact .inr rfl
  · split
    · exact .inr rfl
    · exact .inl (shut_teardown htrace)

theorem sendState_cases (limits : Limits) (readings : Readings) (site : SendSite)
    (state : SubscriptionState) (reason : Option ErrorCode) (htrace : Disciplined s.trace) :
    (s.sendState limits readings site state reason).Shut ∨
      s.sendState limits readings site state reason =
        (s.publish state).emit (.state ⟨s.epoch, state, reason⟩) := by
  have hset : Disciplined (s.publish state).trace := htrace
  rcases checkStalled_cases limits readings site hset with h | h
  · left
    unfold sendState
    exact (if_pos h.closed).symm ▸ h
  · by_cases hclosed : s.sessionClosed = true
    · exact .inl (Shut.sendState ⟨hclosed, htrace⟩)
    · right
      unfold sendState
      rw [h]
      exact if_neg hclosed

theorem sendError_cases (limits : Limits) (readings : Readings) (site : SendSite)
    (code : ErrorCode) (htrace : Disciplined s.trace) :
    (s.sendError limits readings site code).Shut ∨
      s.sendError limits readings site code = s.emit (.error s.epoch code) := by
  rcases checkStalled_cases limits readings site htrace with h | h
  · left
    unfold sendError
    exact (if_pos h.closed).symm ▸ h
  · by_cases hclosed : s.sessionClosed = true
    · exact .inl (Shut.sendError ⟨hclosed, htrace⟩)
    · right
      unfold sendError
      rw [h]
      exact if_neg hclosed

/-- A delivery is refused because the session is shut or was found expired, or it is
granted and nothing changes. -/
theorem canDeliver_cases (limits : Limits) (readings : Readings) (site : SendSite)
    (htrace : Disciplined s.trace) :
    (∃ torn : ServerSubscription, torn.Shut ∧ s.canDeliver limits readings site = (torn, false)) ∨
      s.canDeliver limits readings site = ({ s with expiring := true }, false) ∨
      s.sessionClosed = false ∧ s.canDeliver limits readings site = (s, true) := by
  rcases checkStalled_cases limits readings site htrace with h | h
  · left
    refine ⟨_, h, ?_⟩
    unfold canDeliver
    simp only [h.closed, if_true]
  · by_cases hclosed : s.sessionClosed = true
    · exact .inl ⟨s, ⟨hclosed, htrace⟩, canDeliver_closed hclosed⟩
    · right
      unfold canDeliver
      rw [h]
      by_cases hexpired : readings.expired site = true
      · exact .inl (by simp [hclosed, hexpired])
      · exact .inr (by simp [hclosed, hexpired])

end Sending

/-- No step reopens a closed session or sends in it. -/
theorem Shut.step {config : ServerConfig} {s : ServerSubscription} (hshut : s.Shut)
    (input : ServerInput) : (s.step config input).Shut := by
  have hinbound : ∀ handle : ServerSubscription → ServerSubscription,
      (s.inbound config input.readings handle).Shut := by
    intro handle
    unfold inbound
    rw [checkStalled_closed hshut.closed]
    simpa [hshut.closed] using hshut
  have htaken : ∀ index, (s.taken index).Shut := fun _ => ⟨hshut.closed, hshut.trace⟩
  rcases input with ⟨action, readings⟩
  unfold ServerSubscription.step
  cases action with
  | start =>
      dsimp only
      split
      · exact Shut.beginAttempt ⟨hshut.closed, hshut.trace⟩
      · exact hshut
  | admitFrame frame =>
      dsimp only
      split
      · exact hshut.admitFrame
      · exact hshut
  | receipt epoch sequence => exact hinbound _
  | resync => exact hinbound _
  | unsubscribe => exact hinbound _
  | setSourceStatus status reason => exact hshut.setSourceStatus
  | setBoundary boundary => exact ⟨hshut.closed, hshut.trace⟩
  | revoke =>
      dsimp only
      split
      · exact hshut.fail
      · exact hshut
  | closeSession => exact shut_teardown hshut.trace
  | expire => exact ⟨(shut_teardown hshut.trace).closed, (shut_teardown hshut.trace).trace⟩
  | receiptTimeout =>
      dsimp only
      split
      · exact shut_teardown hshut.trace
      · exact hshut
  | retry =>
      dsimp only
      split
      · exact hshut
      · split
        · exact Shut.beginAttempt ⟨hshut.closed, hshut.trace⟩
        · exact ⟨hshut.closed, hshut.trace⟩
  | elsewhere connection gateway => exact ⟨hshut.closed, hshut.trace⟩
  | callHandler index =>
      dsimp only
      unfold callHandler
      split
      · exact hshut
      · exact Shut.emit ⟨hshut.closed, hshut.trace⟩ trivial
  | resumeAuthorize index outcome revoked =>
      refine resume_induction hshut fun attempt proceed _ hproceed => ?_
      obtain ⟨next, -, rfl⟩ := resumeAuthorize_eq_some hproceed
      have hreturned : ((s.taken index).afterAuthorizeHandler config.limits readings
          attempt.generation outcome revoked).1.Shut := (htaken index).afterAuthorizeHandler
      dsimp only [awaitAuthorized]
      split
      · exact ⟨hreturned.closed, hreturned.trace⟩
      · exact hreturned
  | resumeAuthorized index =>
      refine resume_induction hshut fun attempt proceed _ hproceed => ?_
      rcases resumeAuthorized_eq_some hproceed with ⟨-, rfl⟩ | ⟨boundary, snapshot, -, rfl⟩
      · exact (htaken _).afterAuthorized
      · exact (htaken _).afterRechecked
  | resumePermit index acquired =>
      refine resume_induction hshut fun attempt proceed _ hproceed => ?_
      obtain ⟨-, rfl⟩ := resumePermit_eq_some hproceed
      exact (htaken _).afterPermit
  | resumeSnapshot index outcome =>
      refine resume_induction hshut fun attempt proceed _ hproceed => ?_
      obtain ⟨boundary, -, rfl⟩ := resumeSnapshot_eq_some hproceed
      exact (htaken _).afterSnapshotHandler

end ServerSubscription

end StreamOtter
