import StreamOtter.SupersededAttempts

/-!
# Ended subscriptions

`fail` and `dispose` end a subscription, and a send may dispose it in the middle of the
stretch that makes the send.  Four places go on as if the subscription were still there:
the announcement of a new epoch, the two sends of a failed attempt and of a protocol
violation, and the resumptions and handler calls that no longer belong to the current
generation.  In runs that avoid them an ended subscription stays ended.
-/

namespace StreamOtter

def Observation.isCall : Observation → Bool
  | .called _ _ => true
  | _ => false

namespace ServerSubscription

/-- The handler calls so far. -/
def calls (s : ServerSubscription) : List Observation := s.trace.filter Observation.isCall

/-- Not failed and not disposed so far. -/
structure Alive (s : ServerSubscription) : Prop where
  phase : s.phase ≠ .terminated
  unended : ∀ epoch, Observation.terminated epoch ∉ s.trace

/-- Failed or disposed, with nothing left that could act, after these handler calls. -/
structure Ended (calls : List Observation) (s : ServerSubscription) : Prop where
  phase : s.phase = .terminated
  unrouted : s.routed = false
  unregistered : s.registered = false
  unarmed : s.retryTimer = none
  calls : s.calls = calls

def Standing (s : ServerSubscription) : Prop := s.Alive ∨ s.Ended s.calls

/-- The fields that `Standing` reads. -/
def standing (s : ServerSubscription) :=
  (s.phase, s.routed, s.registered, s.retryTimer, s.trace)

/-- The client reads on wherever the code does not look at the phase again after a send. -/
def Patient (limits : Limits) (readings : Readings) : Prop :=
  ∀ site ∈ [SendSite.synchronizing, .attemptStale, .violation],
    readings.bufferedBytes site ≤ limits.maxPendingBytesPerConnection

instance (limits : Limits) (readings : Readings) : Decidable (Patient limits readings) :=
  inferInstanceAs (Decidable (∀ site ∈ _, _))

/-- A due handler call belongs to the current generation. -/
def Due (s : ServerSubscription) : ServerStep → Prop
  | .callHandler index => ∀ job ∈ s.jobs[index]?, job.generation = s.generation
  | _ => True

instance decidableDue (s : ServerSubscription) : (action : ServerStep) → Decidable (s.Due action)
  | .callHandler index => inferInstanceAs (Decidable (∀ job ∈ s.jobs[index]?, _))
  | .resumeAuthorize _ _ _ | .resumeAuthorized _ | .resumePermit _ _ | .resumeSnapshot _ _ | .start
  | .admitFrame _ | .receipt _ _ | .resync | .unsubscribe | .setSourceStatus _ _ | .setBoundary _
  | .revoke | .closeSession | .expire | .receiptTimeout | .retry | .elsewhere _ _ => .isTrue trivial

/-- The runs in which neither a stalled client is found at those sends nor an attempt or
handler call of an earlier generation goes on. -/
def carefulMachine (config : ServerConfig) : Machine ServerSubscription ServerInput where
  step := step config
  allowed := fun s input =>
    s.Fresh input.step ∧ s.Due input.step ∧ Patient config.limits input.readings

instance (config : ServerConfig) (s : ServerSubscription) (input : ServerInput) :
    Decidable ((carefulMachine config).allowed s input) :=
  inferInstanceAs (Decidable (_ ∧ _ ∧ _))

variable {s : ServerSubscription} {calls : List Observation}

theorem Alive.of_eq {s' : ServerSubscription} (h : s.Alive)
    (hphase : s'.phase ≠ .terminated) (htrace : s'.trace = s.trace) : s'.Alive :=
  ⟨hphase, htrace ▸ h.unended⟩

theorem Ended.of_eq {s' : ServerSubscription} (h : s.Ended calls)
    (hsame : s'.standing = s.standing) : s'.Ended calls := by
  simp only [standing, Prod.mk.injEq] at hsame
  obtain ⟨hphase, hrouted, hregistered, htimer, htrace⟩ := hsame
  constructor
  · exact hphase.trans h.phase
  · exact hrouted.trans h.unrouted
  · exact hregistered.trans h.unregistered
  · exact htimer.trans h.unarmed
  · rw [ServerSubscription.calls, htrace]
    exact h.calls

theorem Standing.of_eq {s' : ServerSubscription} (h : s.Standing)
    (hsame : s'.standing = s.standing) : s'.Standing := by
  have hfields := hsame
  simp only [standing, Prod.mk.injEq] at hfields
  obtain ⟨hphase, -, -, -, htrace⟩ := hfields
  rcases h with halive | hended
  · exact .inl (halive.of_eq (hphase ▸ halive.phase) htrace)
  · have hcalls : s'.calls = s.calls := congrArg (List.filter Observation.isCall) htrace
    exact .inr (hcalls ▸ hended.of_eq hsame)

theorem Standing.alive (h : s.Standing) (hphase : s.phase ≠ .terminated) : s.Alive := by
  rcases h with halive | hended
  · exact halive
  · exact absurd hended.phase hphase

theorem Alive.emit {o : Observation} (h : s.Alive) (ho : ∀ epoch, o ≠ .terminated epoch) :
    (s.emit o).Alive := by
  refine ⟨h.phase, fun epoch hmem => ?_⟩
  rcases List.mem_append.mp hmem with hearlier | hlast
  · exact h.unended epoch hearlier
  · exact ho epoch (List.mem_singleton.mp hlast).symm

theorem Ended.emit {o : Observation} (h : s.Ended calls) (ho : o.isCall = false) :
    (s.emit o).Ended calls := by
  refine ⟨h.phase, h.unrouted, h.unregistered, h.unarmed, ?_⟩
  simp only [ServerSubscription.calls, trace_emit, List.filter_append]
  rw [List.filter_cons_of_neg (by simp [ho]), List.filter_nil, List.append_nil]
  exact h.calls

theorem Ended.dispose (h : s.Ended calls) : s.dispose.Ended calls := by
  unfold ServerSubscription.dispose
  rw [if_pos h.phase]
  exact h

/-- An ended subscription ignores receipts. -/
theorem Ended.onReceipt {limits : Limits} {readings : Readings} {epoch : Epoch} {sequence : ℕ}
    (h : s.Ended calls) : s.onReceipt limits readings epoch sequence = s := by
  simp [ServerSubscription.onReceipt, capturing, h.phase]

theorem Standing.dispose (h : s.Standing) : s.dispose.Standing := by
  unfold ServerSubscription.dispose
  split
  · exact h
  · exact .inr ⟨rfl, rfl, rfl, rfl, rfl⟩

theorem Standing.emit {o : Observation} (h : s.Standing) (ho : o.isSend = true) :
    (s.emit o).Standing := by
  have hother : ∀ epoch, o ≠ .terminated epoch := by
    rintro epoch rfl
    cases ho
  rcases h with halive | hended
  · exact .inl (halive.emit hother)
  · exact .inr ⟨hended.phase, hended.unrouted, hended.unregistered, hended.unarmed, rfl⟩

theorem stable_standing : Stable Standing where
  publish := fun _ _ h => h.of_eq rfl
  emit := fun _ _ hsend h => h.emit hsend
  expire := fun _ _ h => h.of_eq rfl
  close := fun _ h => h.of_eq rfl
  dispose := fun _ h => h.dispose
  remove := fun _ h => h.of_eq rfl

theorem stable_ended (calls : List Observation) : Stable (Ended calls) where
  publish := fun _ _ h => h.of_eq rfl
  emit := by
    intro s o hsend h
    apply h.emit
    cases o <;> first | rfl | cases hsend
  expire := fun _ _ h => h.of_eq rfl
  close := fun _ h => h.of_eq rfl
  dispose := fun _ h => h.dispose
  remove := fun _ h => h.of_eq rfl

section Operations

variable {limits : Limits} {readings : Readings}

theorem Alive.attemptFailed {code : ErrorCode} (h : s.Alive) (hpatient : Patient limits readings) :
    (s.attemptFailed limits readings code).Standing := by
  have hroom : ∀ s : ServerSubscription, s.checkStalled limits readings .attemptStale = s :=
    fun _ => checkStalled_room (hpatient _ (by simp))
  have hbackoff : (s.invalidate.enter .backoff).Alive := h.of_eq (by simp [enter]) rfl
  have hstale : ((s.invalidate.enter .backoff).sendState limits readings .attemptStale .stale
      (some code)).Alive := by
    unfold ServerSubscription.sendState
    rw [hroom]
    dsimp only
    split
    · exact hbackoff.of_eq hbackoff.phase rfl
    · apply Alive.emit
      · exact hbackoff.of_eq hbackoff.phase rfl
      · simp
  unfold ServerSubscription.attemptFailed
  dsimp only
  split
  · apply stable_standing.sendState
    apply stable_standing.sendError
    exact .inl (hstale.of_eq (by simp [enter]) rfl)
  · exact .inl (hstale.of_eq hstale.phase rfl)

theorem Alive.protocolViolation (h : s.Alive) (hpatient : Patient limits readings) :
    (s.protocolViolation limits readings).Standing := by
  have hroom : s.checkStalled limits readings .violation = s :=
    checkStalled_room (hpatient _ (by simp))
  unfold ServerSubscription.protocolViolation
  apply Alive.attemptFailed _ hpatient
  unfold ServerSubscription.sendError
  rw [hroom]
  dsimp only
  split
  · exact h
  · exact h.emit (by simp)

theorem Standing.fail {code : ErrorCode} (h : s.Standing) :
    (s.fail limits readings code).Standing := by
  unfold ServerSubscription.fail
  split
  · exact h
  · apply stable_standing.remove
    apply stable_standing.sendState
    apply stable_standing.sendError
    exact .inr ⟨rfl, rfl, rfl, rfl, rfl⟩

theorem Alive.transmit {frame : PendingFrame} (h : s.Alive) (hpatient : Patient limits readings) :
    (s.transmit limits readings frame).Standing := by
  have hchecked : (s.canDeliver limits readings .transmit).1.Standing :=
    stable_standing.canDeliver (.inl h)
  unfold ServerSubscription.transmit
  split
  · case h_1 s' heq =>
      rw [heq] at hchecked
      exact hchecked.of_eq rfl
  · case h_2 s' heq =>
      obtain ⟨hsame, hopen⟩ := canDeliver_granted heq
      rw [hsame]
      split
      · apply Alive.attemptFailed _ hpatient
        exact h.of_eq h.phase rfl
      · rw [handOver_eq frame hopen]
        have hsent : (s.emit (.data ⟨s.epoch, s.sequence + 1, frame.event⟩)).Alive :=
          h.emit (by simp)
        exact .inl (hsent.of_eq h.phase rfl)

theorem Standing.pump (h : s.Standing) (hpatient : Patient limits readings) :
    (s.pump limits readings).Standing := by
  unfold ServerSubscription.pump
  split
  · exact h
  · split
    · exact h
    · case isFalse hsending =>
        have halive : s.Alive := by
          apply h.alive
          intro hphase
          rw [hphase] at hsending
          simp at hsending
        split
        · exact h
        · case h_2 next rest hqueue =>
            have hloaded : Alive { s with queue := rest } := halive.of_eq halive.phase rfl
            exact hloaded.transmit hpatient

theorem Alive.goLive (h : s.Alive) (hpatient : Patient limits readings) :
    (s.goLive limits readings).Standing := by
  unfold ServerSubscription.goLive
  apply Standing.pump _ hpatient
  apply stable_standing.sendState
  exact .inl (h.of_eq (by simp [enter]) rfl)

theorem Standing.admitFrame {frame : PendingFrame} (h : s.Standing)
    (hpatient : Patient limits readings) :
    (s.admitFrame limits readings frame).1.Standing := by
  have hrecorded : ∀ result, (s.emit (.admitted s.epoch frame result)).Standing := by
    intro result
    rcases h with halive | hended
    · exact .inl (halive.emit (by simp))
    · exact .inr ⟨hended.phase, hended.unrouted, hended.unregistered, hended.unarmed, rfl⟩
  unfold ServerSubscription.admitFrame
  split
  · exact hrecorded .inactive
  · case isFalse hcapturing =>
      have halive : s.Alive := by
        apply h.alive
        intro hphase
        simp [capturing, hphase] at hcapturing
      have hadmitted : ∀ result, (s.emit (.admitted s.epoch frame result)).Alive :=
        fun result => halive.emit (by simp)
      split
      · exact hrecorded .filtered
      · split
        · exact (hadmitted .overflow).attemptFailed hpatient
        · apply Standing.pump _ hpatient
          exact .inl ((hadmitted .queued).of_eq halive.phase rfl)

theorem Alive.onReceipt {epoch : Epoch} {sequence : ℕ} (h : s.Alive)
    (hpatient : Patient limits readings) :
    (s.onReceipt limits readings epoch sequence).Standing := by
  have hviolation : (s.protocolViolation limits readings).Standing := h.protocolViolation hpatient
  unfold ServerSubscription.onReceipt
  split
  · exact .inl h
  · split
    · split
      · exact .inl h
      · exact hviolation
    · case h_2 inFlight hinFlight =>
        have hfreed : (s.receipted inFlight).Alive := h.of_eq h.phase rfl
        split
        · split
          · exact .inl h
          · exact hviolation
        · split
          · exact hviolation
          · dsimp only
            split
            · have hdrain : (s.receipted inFlight).beginDrain.Alive := by
                have hentered : ((s.receipted inFlight).enter .draining).Alive :=
                  hfreed.of_eq (by simp [enter]) rfl
                apply Alive.of_eq (hentered.emit (o := .drain s.epoch _) (by simp))
                · simp [beginDrain, enter, ServerSubscription.emit]
                · rfl
              split
              · exact hdrain.goLive hpatient
              · exact Standing.pump (.inl hdrain) hpatient
            · split
              · have hcount : (s.receipted inFlight).countDown.Alive :=
                  hfreed.of_eq hfreed.phase rfl
                split
                · exact hcount.goLive hpatient
                · exact Standing.pump (.inl hcount) hpatient
              · exact Standing.pump (.inl hfreed) hpatient

theorem Alive.beginAttempt {announce : Bool} (h : s.Alive) :
    (s.beginAttempt limits readings announce).Standing := by
  have hbegun : ((s.invalidate.countAttempt 1).enter .authorizing).Standing :=
    .inl (h.of_eq (by simp [enter]) rfl)
  have hannounced : (((s.invalidate.countAttempt 1).enter .authorizing).announceAttempt limits
      readings announce).Standing := by
    unfold announceAttempt
    split
    · exact stable_standing.sendState hbegun
    · exact stable_standing.publish _ _ hbegun
  unfold ServerSubscription.beginAttempt callAuthorize
  dsimp only
  split
  · exact hannounced.of_eq rfl
  · exact hannounced.of_eq rfl

theorem Standing.awaitAuthorized {generation : ℕ} {outcome : AuthorizeOutcome} {revoked : Bool}
    {next : Await} (h : s.Standing) (hpatient : Patient limits readings)
    (hphase : generation = s.generation → s.phase ≠ .terminated) :
    (awaitAuthorized generation next
      (s.afterAuthorizeHandler limits readings generation outcome revoked)).Standing := by
  have hrefused : ∀ s' : ServerSubscription, s'.Standing →
      (ServerSubscription.awaitAuthorized generation next (s', false)).Standing :=
    fun s' h => h
  unfold ServerSubscription.afterAuthorizeHandler
  split
  · exact hrefused s h
  · case isFalse hcurrent =>
      have halive : s.Alive := h.alive (hphase (not_not.mp hcurrent))
      cases outcome with
      | aborted => exact hrefused s h
      | timeout => exact hrefused _ (halive.attemptFailed hpatient)
      | error => exact hrefused _ h.fail
      | denied => exact hrefused _ h.fail
      | allowed =>
          have hchecked : (s.canDeliver limits readings .authorize).1.Standing :=
            stable_standing.canDeliver h
          dsimp only
          split
          · case h_1 s' heq =>
              rw [heq] at hchecked
              exact hrefused s' hchecked
          · case h_2 s' heq =>
              rw [(canDeliver_granted heq).1]
              cases revoked with
              | true => exact hrefused _ h.fail
              | false => exact .inl (halive.of_eq halive.phase rfl)

theorem Alive.afterAuthorized {generation : ℕ} (h : s.Alive) (hpatient : Patient limits readings) :
    (s.afterAuthorized limits readings generation).Standing := by
  have hroom : ∀ s : ServerSubscription, s.checkStalled limits readings .synchronizing = s :=
    fun _ => checkStalled_room (hpatient _ (by simp))
  unfold ServerSubscription.afterAuthorized
  split
  · apply stable_standing.sendState
    exact .inl (h.of_eq (by simp [enter]) rfl)
  · have hepoch : Alive { s with epoch := s.nextId, nextId := s.nextId + 1, sequence := 0 } :=
      h.of_eq h.phase rfl
    have hsent : (sendState limits readings .synchronizing .synchronizing none { s with
        epoch := s.nextId, nextId := s.nextId + 1, sequence := 0 }).Alive := by
      unfold ServerSubscription.sendState
      rw [hroom]
      dsimp only
      split
      · exact hepoch.of_eq hepoch.phase rfl
      · apply Alive.emit
        · exact hepoch.of_eq hepoch.phase rfl
        · simp
    exact .inl (hsent.of_eq (by simp [enter, ServerSubscription.suspend]) rfl)

theorem Standing.afterPermit {generation : ℕ} {acquired : Bool} (h : s.Standing)
    (hpatient : Patient limits readings)
    (hphase : generation = s.generation → s.phase ≠ .terminated) :
    (s.afterPermit limits readings generation acquired).Standing := by
  unfold ServerSubscription.afterPermit
  split
  · exact h
  · case isFalse hcurrent =>
      have halive : s.Alive := h.alive (hphase (not_not.mp hcurrent))
      split
      · exact halive.attemptFailed hpatient
      · exact .inl (halive.of_eq halive.phase rfl)

theorem Standing.afterSnapshotHandler {generation : ℕ} {boundary : Option BoundaryId}
    {outcome : SnapshotOutcome} (h : s.Standing) (hpatient : Patient limits readings)
    (hphase : generation = s.generation → s.phase ≠ .terminated) :
    (s.afterSnapshotHandler limits readings generation boundary outcome).Standing := by
  unfold ServerSubscription.afterSnapshotHandler
  split
  · exact h
  · case isFalse hcurrent =>
      have halive : s.Alive := h.alive (hphase (not_not.mp hcurrent))
      have hretried : ∀ code, (s.attemptFailed limits readings code).Standing :=
        fun _ => halive.attemptFailed hpatient
      cases outcome with
      | aborted => exact h
      | timeout => exact hretried _
      | error => exact h.fail
      | malformed => exact h.fail
      | ok snapshot =>
          dsimp only
          split
          · exact h.fail
          · split
            · exact hretried _
            · split
              · exact hretried _
              · exact .inl (halive.of_eq halive.phase rfl)

theorem Alive.afterRechecked {channel : String} {channelVersion : ℕ}
    {boundary : Option BoundaryId} {snapshot : Snapshot} (h : s.Alive)
    (hpatient : Patient limits readings) :
    (s.afterRechecked limits readings channel channelVersion boundary snapshot).Standing := by
  unfold ServerSubscription.afterRechecked
  split
  · exact h.attemptFailed hpatient
  · split
    · exact Standing.fail (.inl h)
    · split
      · exact h.attemptFailed hpatient
      · apply Alive.transmit _ hpatient
        apply Alive.emit
        · exact h.of_eq (by simp [enter]) rfl
        · simp

end Operations

section Steps

variable {config : ServerConfig} {readings : Readings} {extra : List ℕ} {floor : ℕ}

theorem Standing.inbound {handle : ServerSubscription → ServerSubscription} (h : s.Standing)
    (hhandle : ∀ s : ServerSubscription, s.Standing → (handle s).Standing) :
    (s.inbound config readings handle).Standing := by
  have hchecked : (s.checkStalled config.limits readings .inbound).Standing :=
    stable_standing.checkStalled h
  unfold ServerSubscription.inbound
  dsimp only
  split
  · exact hchecked
  · exact hhandle _ hchecked

theorem Standing.received {o : Observation} (h : s.Standing)
    (hother : ∀ epoch, o ≠ .terminated epoch) : (s.emit o).Standing := by
  rcases h with halive | hended
  · exact .inl (halive.emit hother)
  · exact .inr ⟨hended.phase, hended.unrouted, hended.unregistered, hended.unarmed, rfl⟩

theorem Standing.requestResync (h : s.Standing) :
    (s.requestResync config.limits readings).Standing := by
  unfold ServerSubscription.requestResync
  split
  case h_1 hphase => exact (h.alive (by simp [hphase])).beginAttempt
  case h_2 hphase => exact (h.alive (by simp [hphase])).beginAttempt
  case h_3 hphase => exact (h.alive (by simp [hphase])).beginAttempt
  case h_4 hphase =>
    have hforgiven : Standing { s with attempts := 0 } := h.of_eq rfl
    exact (hforgiven.alive (by simp [hphase])).beginAttempt
  case h_5 hphase =>
    have hforgiven : Standing { s with attempts := 0 } := h.of_eq rfl
    exact (hforgiven.alive (by simp [hphase])).beginAttempt
  case h_6 => exact h

theorem Standing.onSourceUnavailable {reason : ErrorCode} (h : s.Standing) :
    (s.onSourceUnavailable config.limits readings reason).Standing := by
  have hwaiting : s.phase ≠ .terminated →
      ((s.invalidate.enter .waitingSource).sendState config.limits readings .unavailable .stale
        (some reason)).Standing := by
    intro hphase
    apply stable_standing.sendState
    exact .inl ((h.alive hphase).of_eq (by simp [enter]) rfl)
  unfold ServerSubscription.onSourceUnavailable
  split
  case h_7 => exact h
  all_goals exact hwaiting (by simp [*])

theorem Standing.onSourceReady (h : s.Standing) :
    (s.onSourceReady config.limits readings).Standing := by
  unfold ServerSubscription.onSourceReady
  split
  case h_1 hphase => exact (h.alive (by simp [hphase])).beginAttempt
  case h_2 => exact h

theorem Standing.setSourceStatus {status : SourceStatus} {reason : Option ErrorCode}
    (h : s.Standing) : (s.setSourceStatus config.limits readings status reason).Standing := by
  have hchanged : Standing { s with source := s.source.setStatus status reason } := h.of_eq rfl
  unfold ServerSubscription.setSourceStatus sourceChanged
  split
  · exact h
  · split
    · exact hchanged
    · split
      · exact hchanged.onSourceUnavailable
      · split
        · exact hchanged.onSourceReady
        · exact hchanged

/-- Every careful step leaves the subscription alive or ended. -/
theorem Standing.step (h : s.Standing) (hsteady : s.Steady extra floor) (action : ServerStep)
    (hfresh : s.Fresh action) (hdue : s.Due action) (hpatient : Patient config.limits readings) :
    (s.step config ⟨action, readings⟩).Standing := by
  have hattempt : ∀ attempt ∈ s.pending, attempt.generation = s.generation → s.Alive := by
    intro attempt hmem hcurrent
    apply h.alive
    rw [hsteady.fits attempt hmem hcurrent]
    cases attempt.waiting <;> simp [Await.phase]
  have htaken : ∀ index, s.Alive → (s.taken index).Alive := fun _ h => h.of_eq h.phase rfl
  have hwithout : ∀ index, (s.taken index).Standing := fun _ => h.of_eq rfl
  unfold ServerSubscription.step
  cases action with
  | start =>
      dsimp only
      split
      · case isTrue hphase =>
          have hregistered : Alive { s with registered := true } :=
            (h.alive (by simp [hphase])).of_eq (by simp [hphase]) rfl
          exact hregistered.beginAttempt
      · exact h
  | admitFrame frame =>
      dsimp only
      split
      · exact h.admitFrame hpatient
      · exact h
  | receipt epoch sequence =>
      apply h.inbound
      intro s h
      have hreceived : (s.emit (.receipt epoch sequence)).Standing := h.received (by simp)
      rcases hreceived with halive | hended
      · exact halive.onReceipt hpatient
      · rw [hended.onReceipt]
        exact .inr hended
  | resync =>
      apply h.inbound
      intro s h
      apply Standing.requestResync
      exact h.received (by simp)
  | unsubscribe =>
      apply h.inbound
      intro s h
      exact stable_standing.remove _ h.dispose
  | setSourceStatus status reason => exact h.setSourceStatus
  | setBoundary boundary => exact h.of_eq rfl
  | revoke =>
      dsimp only
      split
      · exact h.fail
      · exact h
  | closeSession => exact stable_standing.teardown h
  | expire => exact stable_standing.expire _ false (stable_standing.teardown h)
  | receiptTimeout =>
      dsimp only
      split
      · apply stable_standing.teardown
        exact h.of_eq rfl
      · exact h
  | retry =>
      dsimp only
      split
      · exact h
      · case h_2 generation harmed =>
          have halive : s.Alive := by
            rcases h with halive | hended
            · exact halive
            · rw [hended.unarmed] at harmed
              cases harmed
          have hfired : Alive { s with retryTimer := none } := halive.of_eq halive.phase rfl
          split
          · exact hfired.beginAttempt
          · exact .inl hfired
  | elsewhere connection gateway => exact h.of_eq rfl
  | callHandler index =>
      show (s.callHandler index).Standing
      unfold ServerSubscription.callHandler
      split
      · exact h
      · case h_2 job hjob =>
          have hcurrent : job.generation = s.generation := hdue job hjob
          have halive : s.Alive := h.alive (hsteady.jobsFit job (List.mem_of_getElem? hjob) hcurrent)
          have hcalled : (s.emit (.called job.handler s.routed)).Alive := halive.emit (by simp)
          exact .inl (hcalled.of_eq halive.phase rfl)
  | resumeAuthorize index outcome revoked =>
      apply resume_induction h
      intro attempt proceed hindex hproceed
      obtain ⟨next, hnext, rfl⟩ := resumeAuthorize_eq_some hproceed
      apply (hwithout index).awaitAuthorized hpatient
      intro hcurrent
      exact (hattempt attempt (List.mem_of_getElem? hindex) hcurrent).phase
  | resumeAuthorized index =>
      apply resume_induction h
      intro attempt proceed hindex hproceed
      have hmem : attempt ∈ s.pending := List.mem_of_getElem? hindex
      rcases resumeAuthorized_eq_some hproceed with
        ⟨hwaiting, rfl⟩ | ⟨boundary, snapshot, hwaiting, rfl⟩
      · have hcurrent := hfresh attempt hindex (by rw [hwaiting]; rfl)
        exact (htaken index (hattempt attempt hmem hcurrent)).afterAuthorized hpatient
      · have hcurrent := hfresh attempt hindex (by rw [hwaiting]; rfl)
        exact (htaken index (hattempt attempt hmem hcurrent)).afterRechecked hpatient
  | resumePermit index acquired =>
      apply resume_induction h
      intro attempt proceed hindex hproceed
      obtain ⟨hwaiting, rfl⟩ := resumePermit_eq_some hproceed
      apply (hwithout index).afterPermit hpatient
      intro hcurrent
      exact (hattempt attempt (List.mem_of_getElem? hindex) hcurrent).phase
  | resumeSnapshot index outcome =>
      apply resume_induction h
      intro attempt proceed hindex hproceed
      obtain ⟨boundary, hwaiting, rfl⟩ := resumeSnapshot_eq_some hproceed
      apply (hwithout index).afterSnapshotHandler hpatient
      intro hcurrent
      exact (hattempt attempt (List.mem_of_getElem? hindex) hcurrent).phase

theorem Ended.inbound {handle : ServerSubscription → ServerSubscription} (h : s.Ended calls)
    (hhandle : ∀ s : ServerSubscription, s.Ended calls → (handle s).Ended calls) :
    (s.inbound config readings handle).Ended calls := by
  have hchecked : (s.checkStalled config.limits readings .inbound).Ended calls :=
    (stable_ended calls).checkStalled h
  unfold ServerSubscription.inbound
  dsimp only
  split
  · exact hchecked
  · exact hhandle _ hchecked

/-- A careful step changes nothing of an ended subscription and calls no handler. -/
theorem Ended.step (h : s.Ended calls) (hsteady : s.Steady extra floor) (action : ServerStep)
    (hfresh : s.Fresh action) (hdue : s.Due action) :
    (s.step config ⟨action, readings⟩).Ended calls := by
  have hstable := stable_ended calls
  have hstale : ∀ attempt ∈ s.pending, attempt.generation ≠ s.generation := by
    intro attempt hmem
    exact Nat.ne_of_lt (hsteady.interrupted (.inl h.phase) attempt hmem)
  have hresumption : ∀ index : ℕ, s.resumed action = s.pending[index]? →
      (s.pending[index]? = none → s.step config ⟨action, readings⟩ = s) →
      (s.step config ⟨action, readings⟩).Ended calls := by
    intro index hindex hnone
    rcases hfound : s.pending[index]? with _ | attempt
    · rw [hnone hfound]
      exact h
    · have hunmoved : s.Unmoved (s.step config ⟨action, readings⟩) := by
        apply superseded_step hfresh (hindex.trans hfound)
        exact hstale attempt (List.mem_of_getElem? hfound)
      rcases hunmoved with heq | ⟨taken, heq⟩
      · rw [heq]
        exact h
      · rw [heq]
        exact h.of_eq rfl
  cases action with
  | start =>
      have hstarted : s.phase ≠ .idle := by simp [h.phase]
      show (if s.phase = .idle then _ else s).Ended calls
      rw [if_neg hstarted]
      exact h
  | admitFrame frame =>
      show (if s.routed then _ else s).Ended calls
      simp only [h.unrouted]
      exact h
  | receipt epoch sequence =>
      unfold ServerSubscription.step
      apply h.inbound
      intro s h
      have hreceived : (s.emit (.receipt epoch sequence)).Ended calls := h.emit rfl
      rw [hreceived.onReceipt]
      exact hreceived
  | resync =>
      unfold ServerSubscription.step
      apply h.inbound
      intro s h
      have hasked : (s.emit (.resync s.epoch)).Ended calls := h.emit rfl
      show ((s.emit (.resync s.epoch)).requestResync config.limits readings).Ended calls
      unfold requestResync
      rw [hasked.phase]
      exact hasked
  | unsubscribe =>
      unfold ServerSubscription.step
      apply h.inbound
      intro s h
      exact hstable.remove _ h.dispose
  | setSourceStatus status reason =>
      show (s.setSourceStatus config.limits readings status reason).Ended calls
      unfold ServerSubscription.setSourceStatus sourceChanged
      split
      · exact h
      · rw [if_pos (by simp [h.unregistered])]
        exact h.of_eq rfl
  | setBoundary boundary => exact h.of_eq rfl
  | revoke =>
      show (if s.held then s.fail config.limits readings .forbidden else s).Ended calls
      unfold ServerSubscription.fail
      rw [if_pos h.phase, ite_self]
      exact h
  | closeSession => exact hstable.teardown h
  | expire => exact hstable.expire _ false (hstable.teardown h)
  | receiptTimeout =>
      show (if s.receiptTimer then _ else s).Ended calls
      split
      · apply hstable.teardown
        exact h.of_eq rfl
      · exact h
  | retry =>
      unfold ServerSubscription.step
      rw [h.unarmed]
      exact h
  | elsewhere connection gateway => exact h.of_eq rfl
  | callHandler index =>
      show (s.callHandler index).Ended calls
      unfold ServerSubscription.callHandler
      split
      · exact h
      · case h_2 job hjob =>
          have hmem : job ∈ s.jobs := List.mem_of_getElem? hjob
          exact absurd h.phase (hsteady.jobsFit job hmem (hdue job hjob))
  | resumeAuthorize index outcome revoked =>
      apply hresumption index rfl
      intro hnone
      show s.resume index _ = s
      simp [resume, hnone]
  | resumeAuthorized index =>
      apply hresumption index rfl
      intro hnone
      show s.resume index _ = s
      simp [resume, hnone]
  | resumePermit index acquired =>
      apply hresumption index rfl
      intro hnone
      show s.resume index _ = s
      simp [resume, hnone]
  | resumeSnapshot index outcome =>
      apply hresumption index rfl
      intro hnone
      show s.resume index _ = s
      simp [resume, hnone]

end Steps

/-- What a subscription that had ended when it was `earlier` is afterwards. -/
structure Absorbed (earlier s : ServerSubscription) : Prop where
  phase : s.phase = .terminated
  unrouted : s.routed = false
  unregistered : s.registered = false
  unarmed : s.retryTimer = none
  frames : s.budget.frames = 0
  bytes : s.budget.bytes.used = 0
  uncalled : s.calls = earlier.calls

/-- An ended subscription holds no budget. -/
theorem Steady.unreserved {floor : ℕ} (h : s.Steady [] floor) (hphase : s.phase = .terminated) :
    s.budget.Holds [] := by
  have hqueue : s.queue = [] := by
    by_contra hnonempty
    have hcapturing := h.queued hnonempty
    simp [capturing, hphase] at hcapturing
  have hnone : s.inFlight = none := by
    by_contra hsome
    have hsending := h.flying hsome
    rw [hphase] at hsending
    cases hsending
  simpa [heldSizes, hqueue, hnone] using h.holds

variable {config : ServerConfig} {inputs : List ServerInput}

theorem steady_careful (h : s.Steady [] 0) (hrun : (carefulMachine config).Admits s inputs) :
    ((carefulMachine config).after s inputs).Steady [] 0 :=
  Machine.invariant (fun _ input h hallowed => h.step input.step hallowed.1) h hrun

theorem standing_careful (h : s.Steady [] 0 ∧ s.Standing)
    (hrun : (carefulMachine config).Admits s inputs) :
    ((carefulMachine config).after s inputs).Standing := by
  have hboth : ((carefulMachine config).after s inputs).Steady [] 0 ∧
      ((carefulMachine config).after s inputs).Standing := by
    apply Machine.invariant (P := fun s => s.Steady [] 0 ∧ s.Standing) _ h hrun
    rintro s input ⟨hsteady, hstanding⟩ ⟨hfresh, hdue, hpatient⟩
    exact ⟨hsteady.step input.step hfresh, hstanding.step hsteady input.step hfresh hdue hpatient⟩
  exact hboth.2

theorem ended_careful (h : s.Steady [] 0 ∧ s.Ended calls)
    (hrun : (carefulMachine config).Admits s inputs) :
    ((carefulMachine config).after s inputs).Ended calls := by
  have hboth : ((carefulMachine config).after s inputs).Steady [] 0 ∧
      ((carefulMachine config).after s inputs).Ended calls := by
    apply Machine.invariant (P := fun s => s.Steady [] 0 ∧ s.Ended calls) _ h hrun
    rintro s input ⟨hsteady, hended⟩ ⟨hfresh, hdue, -⟩
    exact ⟨hsteady.step input.step hfresh, hended.step hsteady input.step hfresh hdue⟩
  exact hboth.2

/-- In every careful run, a subscription that was failed or disposed stays so. -/
theorem absorbed_after (config : ServerConfig) (budget : SubscriptionBudget)
    (source : SourceRuntime) (earlier later : List ServerInput)
    (hrun : (carefulMachine config).Admits (initial budget source) (earlier ++ later))
    (epoch : Epoch)
    (hterminated : .terminated epoch ∈
      ((carefulMachine config).after (initial budget source) earlier).trace) :
    ((carefulMachine config).after (initial budget source) earlier).Absorbed
      ((carefulMachine config).after (initial budget source) (earlier ++ later)) := by
  obtain ⟨hearlier, hlater⟩ := ((carefulMachine config).admits_append _ _ _).mp hrun
  have hinitial : (initial budget source).Standing := .inl ⟨by simp [initial], by simp [initial]⟩
  have hsteady := steady_careful (initial_steady budget source) hearlier
  rcases standing_careful ⟨initial_steady budget source, hinitial⟩ hearlier with halive | hended
  · exact absurd hterminated (halive.unended epoch)
  · have hlast := ended_careful ⟨hsteady, hended⟩ hlater
    have hstill := steady_careful hsteady hlater
    have hholds := hstill.unreserved hlast.phase
    rw [Machine.after_append]
    exact ⟨hlast.phase, hlast.unrouted, hlast.unregistered, hlast.unarmed, hholds.frames,
      hholds.used, hlast.calls⟩

section Sample

theorem absorbed_revokedRun :
    ((carefulMachine sampleConfig).after (initial sampleBudget sampleSource) revokedRun).Absorbed
      ((carefulMachine sampleConfig).after (initial sampleBudget sampleSource) (revokedRun ++
        [⟨.resumeAuthorize 0 .allowed false, prompt⟩])) :=
  absorbed_after sampleConfig sampleBudget sampleSource revokedRun _ (by decide) 0 (by decide)

/-- A client that is found stalled when its new epoch is announced. -/
def stalledAnnouncement : Readings :=
  ⟨fun site => if site = .synchronizing then 1001 else 0, fun _ => false⟩

/-- The session is torn down inside the announcement; the attempt then enters the
routing index and the capture phase. -/
theorem stalled_announcement_revives :
    ¬ ∀ (config : ServerConfig) (budget : SubscriptionBudget) (source : SourceRuntime)
      (earlier later : List ServerInput),
      (machine config).Admits (initial budget source) (earlier ++ later) →
      ∀ epoch, .terminated epoch ∈ ((machine config).after (initial budget source) earlier).trace →
        ((machine config).after (initial budget source) earlier).Absorbed
          ((machine config).after (initial budget source) (earlier ++ later)) := by
  intro hclaim
  have habsorbed := hclaim sampleConfig sampleBudget sampleSource
    ([.start, .callHandler 0, .resumeAuthorize 0 .allowed false].map (⟨·, prompt⟩) ++
      [⟨.resumeAuthorized 0, stalledAnnouncement⟩]) [] (by decide) 1 (by decide)
  have hphase := habsorbed.phase
  revert hphase
  decide

end Sample

end ServerSubscription

end StreamOtter
