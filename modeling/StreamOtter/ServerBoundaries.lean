import StreamOtter.History
import StreamOtter.ServerSteady

/-!
# Recovery boundaries of a subscription

A snapshot handler is called with the recovery boundary in force, and its answer names the
boundary that it took into account.  Whatever the order of attempts, receipts, pauses and
boundaries set meanwhile, stale attempts included, a snapshot is sent only with an answer that
names the boundary in force when it is sent, and its epoch streams only after that.
-/

namespace StreamOtter

/-- The snapshot of the epoch was answered under this boundary while it was in force. -/
def acknowledgment (epoch : Epoch) (boundary : Option BoundaryId) : Observation :=
  .answered epoch boundary boundary boundary

def AcknowledgedIn (epoch : Epoch) (history : List Observation) : Prop :=
  ∃ boundary, acknowledgment epoch boundary ∈ history

theorem AcknowledgedIn.append {epoch : Epoch} {history : List Observation}
    (h : AcknowledgedIn epoch history) (o : Observation) :
    AcknowledgedIn epoch (history ++ [o]) := by
  obtain ⟨boundary, hmem⟩ := h
  exact ⟨boundary, List.mem_append_left _ hmem⟩

/-- An answer names the boundary asked for and in force, if any.  A snapshot is sent right after
such an answer of its epoch; updates and the `live` state come after it. -/
def BoundaryKept (past : List Observation) : Observation → Prop
  | .answered _ asked answer inForce => answer = asked ∧ inForce = asked
  | .data frame =>
      AcknowledgedIn frame.epoch past ∧
        (frame.event.kind = .snapshot →
          ∃ boundary, past.getLast? = some (acknowledgment frame.epoch boundary))
  | .state frame => frame.state = .live → AcknowledgedIn frame.epoch past
  | _ => True

/-- A snapshot kept while `#authorize` is called again answers what it was asked. -/
def Await.Answers : Await → Prop
  | .recheckHandler boundary snapshot | .rechecked boundary snapshot =>
      snapshot.recoveryBoundaryId = boundary
  | _ => True

namespace ServerSubscription

theorem ReturnsTo.answers {waiting next : Await} (h : ReturnsTo waiting next)
    (hwaiting : waiting.Answers) : next.Answers := by
  cases h with
  | first => trivial
  | recheck boundary snapshot => exact hwaiting

/-- The epoch that streams, if any, is acknowledged; within `#beginAttempt`, an epoch just begun
(`exempt`) is not yet. -/
structure Backed (exempt : Prop) (s : ServerSubscription) : Prop where
  awaits : ∀ attempt ∈ s.pending, attempt.waiting.Answers
  updates : ∀ frame ∈ s.queue, frame.event.kind = .update
  streams : s.phase.sending = true → exempt ∨ AcknowledgedIn s.epoch s.trace
  kept : Historic BoundaryKept s.trace

variable {s : ServerSubscription} {exempt : Prop}

namespace Backed

theorem of_eq {s' : ServerSubscription} (h : s.Backed exempt)
    (hsame : (s'.pending, s'.queue, s'.phase, s'.epoch, s'.trace) =
      (s.pending, s.queue, s.phase, s.epoch, s.trace)) : s'.Backed exempt := by
  simp only [Prod.mk.injEq] at hsame
  obtain ⟨hpending, hqueue, hphase, hepoch, htrace⟩ := hsame
  constructor
  · rw [hpending]; exact h.awaits
  · rw [hqueue]; exact h.updates
  · rw [hphase, hepoch, htrace]; exact h.streams
  · rw [htrace]; exact h.kept

theorem emit {o : Observation} (h : s.Backed exempt) (ho : BoundaryKept s.trace o) :
    (s.emit o).Backed exempt where
  awaits := h.awaits
  updates := h.updates
  streams := fun hsending => (h.streams hsending).imp_right (AcknowledgedIn.append · o)
  kept := h.kept.concat ho

theorem invalidate (h : s.Backed exempt) : s.invalidate.Backed exempt where
  awaits := h.awaits
  updates := fun _ hmem => absurd hmem List.not_mem_nil
  streams := h.streams
  kept := h.kept

/-- A phase in which nothing streams. -/
theorem enter (h : s.Backed exempt) {phase : Phase} (hphase : phase.sending = false)
    (exempt' : Prop) : (s.enter phase).Backed exempt' where
  awaits := h.awaits
  updates := h.updates
  streams := fun hsending => by
    have hsame : phase.sending = true := hsending
    rw [hphase] at hsame
    cases hsame
  kept := h.kept

theorem suspend (h : s.Backed exempt) {waiting : Await} (hwaiting : waiting.Answers)
    (generation : ℕ) : (s.suspend generation waiting).Backed exempt where
  awaits := by
    intro attempt hmem
    rcases List.mem_append.mp hmem with hmem | hmem
    · exact h.awaits attempt hmem
    · rw [List.mem_singleton.mp hmem]
      exact hwaiting
  updates := h.updates
  streams := h.streams
  kept := h.kept

theorem remove (h : s.Backed exempt) : s.remove.Backed exempt := h.of_eq rfl

/-! ## Sends -/

theorem dispose (h : s.Backed exempt) : s.dispose.Backed exempt := by
  unfold ServerSubscription.dispose
  split
  · exact h
  · have hended : ((s.invalidate.enter .terminated).publish .closed).unregister.Backed exempt :=
      (h.invalidate.enter rfl exempt).of_eq rfl
    exact @emit _ _ (.terminated s.epoch) hended trivial

theorem teardown (h : s.Backed exempt) : s.teardown.Backed exempt := by
  have hclosed : Backed exempt { s with sessionClosed := true } := h.of_eq rfl
  unfold ServerSubscription.teardown
  split
  · exact h
  · dsimp only
    split
    · exact hclosed.dispose.of_eq rfl
    · exact hclosed

section Sends

variable {limits : Limits} {readings : Readings} {site : SendSite}

theorem checkStalled (h : s.Backed exempt) :
    (s.checkStalled limits readings site).Backed exempt := by
  unfold ServerSubscription.checkStalled
  split
  · exact h
  · split
    · exact h
    · exact h.teardown

theorem sendState {state : SubscriptionState} {reason : Option ErrorCode} (h : s.Backed exempt)
    (hlive : state ≠ .live) : (s.sendState limits readings site state reason).Backed exempt := by
  have hchecked : ((s.publish state).checkStalled limits readings site).Backed exempt :=
    checkStalled (h.of_eq rfl)
  unfold ServerSubscription.sendState
  dsimp only
  split
  · exact hchecked
  · exact hchecked.emit fun hstate => absurd hstate hlive

theorem sendError {code : ErrorCode} (h : s.Backed exempt) :
    (s.sendError limits readings site code).Backed exempt := by
  have hchecked : (s.checkStalled limits readings site).Backed exempt := h.checkStalled
  unfold ServerSubscription.sendError
  dsimp only
  split
  · exact hchecked
  · exact hchecked.emit trivial

theorem canDeliver (h : s.Backed exempt) :
    (s.canDeliver limits readings site).1.Backed exempt := by
  have hchecked : (s.checkStalled limits readings site).Backed exempt := h.checkStalled
  unfold ServerSubscription.canDeliver
  dsimp only
  split
  · exact hchecked
  · split
    · exact hchecked.of_eq rfl
    · exact hchecked

/-! ## Frames -/

theorem attemptFailed {code : ErrorCode} (h : s.Backed exempt) (exempt' : Prop) :
    (s.attemptFailed limits readings code).Backed exempt' := by
  have hstale : ((s.invalidate.enter .backoff).sendState limits readings .attemptStale .stale
      (some code)).Backed exempt' := (h.invalidate.enter rfl exempt').sendState (by simp)
  unfold ServerSubscription.attemptFailed
  dsimp only
  split
  · exact (hstale.enter rfl exempt').sendError.sendState (by simp)
  · exact hstale.of_eq rfl

theorem protocolViolation (h : s.Backed exempt) :
    (s.protocolViolation limits readings).Backed exempt :=
  h.sendError.attemptFailed exempt

theorem fail {code : ErrorCode} (h : s.Backed exempt) :
    (s.fail limits readings code).Backed exempt := by
  unfold ServerSubscription.fail
  split
  · exact h
  · have hended : ((s.invalidate.enter .terminated).unregister.emit
        (.terminated s.epoch)).Backed exempt :=
      emit ((h.invalidate.enter rfl exempt).of_eq rfl) trivial
    dsimp only
    apply remove
    apply sendState
    · apply sendError
      exact hended
    · simp

/-- A frame is handed over while its epoch streams. -/
theorem transmit {frame : PendingFrame} (h : s.Backed False) (hphase : s.phase.sending = true)
    (hframe : frame.event.kind = .snapshot →
      ∃ boundary, s.trace.getLast? = some (acknowledgment s.epoch boundary)) :
    (s.transmit limits readings frame).Backed False := by
  have hchecked : (s.canDeliver limits readings .transmit).1.Backed False := h.canDeliver
  unfold ServerSubscription.transmit
  split
  · case h_1 s' heq =>
      rw [heq] at hchecked
      exact hchecked.of_eq rfl
  · case h_2 s' heq =>
      obtain ⟨rfl, hopen⟩ := canDeliver_granted heq
      split
      · apply @attemptFailed _ False
        exact h.of_eq rfl
      · rw [handOver_eq frame hopen]
        have hepoch := (h.streams hphase).resolve_left id
        have hsent := @emit _ _ (.data ⟨s'.epoch, s'.sequence + 1, frame.event⟩) h ⟨hepoch, hframe⟩
        exact hsent.of_eq rfl

theorem pump (h : s.Backed False) : (s.pump limits readings).Backed False := by
  unfold ServerSubscription.pump
  split
  · exact h
  · split
    · exact h
    · case isFalse hphase =>
        split
        · exact h
        · case h_2 next rest hqueue =>
            have hnext : next.event.kind = .update := h.updates next (by rw [hqueue]; simp)
            have hloaded : Backed False { s with queue := rest } :=
              ⟨h.awaits, fun frame hmem => h.updates frame (by rw [hqueue]; simp [hmem]), h.streams,
                h.kept⟩
            apply hloaded.transmit
            · have hcase : s.phase = .draining ∨ s.phase = .live := by tauto
              rcases hcase with hcase | hcase <;> exact congrArg Phase.sending hcase
            · intro hsnapshot
              rw [hnext] at hsnapshot
              cases hsnapshot

theorem goLive (h : s.Backed False) (hphase : s.phase.sending = true) :
    (s.goLive limits readings).Backed False := by
  have hepoch := h.streams hphase
  have hlive : Backed False { s.enter .live with attempts := 0 } :=
    ⟨h.awaits, h.updates, fun _ => hepoch, h.kept⟩
  have hchecked : (({ s.enter .live with attempts := 0 }.publish .live).checkStalled limits
      readings .live).Backed False := checkStalled (hlive.of_eq rfl)
  unfold ServerSubscription.goLive
  apply pump
  unfold ServerSubscription.sendState
  dsimp only
  split
  · exact hchecked
  · case isFalse hopen =>
      have hsame := checkStalled_open (Bool.eq_false_iff.mpr hopen)
      apply hchecked.emit
      intro _
      rw [hsame]
      exact hepoch.resolve_left id

theorem admitFrame {frame : PendingFrame} (h : s.Backed False)
    (hframe : frame.event.kind = .update) :
    (s.admitFrame limits readings frame).1.Backed False := by
  have hrecorded : ∀ result, (s.emit (.admitted s.epoch frame result)).Backed False :=
    fun result => h.emit trivial
  unfold ServerSubscription.admitFrame
  split
  · exact hrecorded .inactive
  · split
    · exact hrecorded .filtered
    · split
      · exact (hrecorded .overflow).attemptFailed False
      · apply pump
        apply emit
        · refine ⟨h.awaits, fun other hmem => ?_, h.streams, h.kept⟩
          rcases List.mem_append.mp hmem with hmem | hmem
          · exact h.updates other hmem
          · rw [List.mem_singleton.mp hmem]
            exact hframe
        · trivial

theorem beginDrain (h : s.Backed False) (hphase : s.phase.sending = true) :
    s.beginDrain.Backed False := by
  unfold ServerSubscription.beginDrain
  apply emit
  · exact ⟨h.awaits, fun frame hmem => h.updates frame (List.mem_of_mem_filter hmem),
      fun _ => h.streams hphase, h.kept⟩
  · trivial

theorem onReceipt {epoch : Epoch} {sequence : ℕ} (h : s.Backed False) :
    (s.onReceipt limits readings epoch sequence).Backed False := by
  have hviolation : (s.protocolViolation limits readings).Backed False := h.protocolViolation
  unfold ServerSubscription.onReceipt
  split
  · exact h
  · split
    · split
      · exact h
      · exact hviolation
    · case h_2 inFlight _ =>
        have hfreed : (s.receipted inFlight).Backed False := h.of_eq rfl
        split
        · split
          · exact h
          · exact hviolation
        · split
          · exact hviolation
          · dsimp only
            split
            · case isTrue hphase =>
                have hdrain := hfreed.beginDrain (congrArg Phase.sending hphase)
                split
                · exact hdrain.goLive rfl
                · exact hdrain.pump
            · split
              · case isTrue hphase =>
                  have hcount : (s.receipted inFlight).countDown.Backed False := h.of_eq rfl
                  split
                  · exact hcount.goLive (congrArg Phase.sending hphase)
                  · exact hcount.pump
              · exact hfreed.pump

/-! ## Attempts -/

theorem beginAttempt {announce : Bool} (h : s.Backed False) :
    (s.beginAttempt limits readings announce).Backed False := by
  have hcounted : (s.invalidate.countAttempt 1).Backed False := h.invalidate.of_eq rfl
  have hbegun := @enter _ _ hcounted .authorizing rfl False
  have hannounced : (((s.invalidate.countAttempt 1).enter .authorizing).announceAttempt limits
      readings announce).Backed False := by
    unfold announceAttempt
    split
    · exact hbegun.sendState (by simp)
    · exact hbegun.of_eq rfl
  unfold ServerSubscription.beginAttempt callAuthorize
  dsimp only
  apply suspend
  · split
    · exact hannounced.of_eq rfl
    · exact hannounced
  · trivial

theorem awaitAuthorized {generation : ℕ} {outcome : AuthorizeOutcome} {revoked : Bool}
    {next : Await} (h : s.Backed False) (hnext : next.Answers) :
    (awaitAuthorized generation next
      (s.afterAuthorizeHandler limits readings generation outcome revoked)).Backed False := by
  have hrefused : ∀ s' : ServerSubscription, s'.Backed False →
      (ServerSubscription.awaitAuthorized generation next (s', false)).Backed False :=
    fun s' h => h
  unfold ServerSubscription.afterAuthorizeHandler
  split
  · exact hrefused s h
  · cases outcome with
    | aborted => exact hrefused s h
    | timeout => exact hrefused _ (h.attemptFailed False)
    | error => exact hrefused _ h.fail
    | denied => exact hrefused _ h.fail
    | allowed =>
        have hchecked : (s.canDeliver limits readings .authorize).1.Backed False := h.canDeliver
        dsimp only
        split
        · case h_1 s' heq =>
            rw [heq] at hchecked
            exact hrefused s' hchecked
        · case h_2 s' heq =>
            rw [(canDeliver_granted heq).1]
            cases revoked with
            | true => exact hrefused _ h.fail
            | false => exact h.suspend hnext generation

/-- A stale attempt may begin an epoch while another one streams; the phase it enters ends that. -/
theorem afterAuthorized {generation : ℕ} (h : s.Backed False) :
    (s.afterAuthorized limits readings generation).Backed False := by
  unfold ServerSubscription.afterAuthorized
  split
  · have hcounted : (s.countAttempt (-1)).Backed False := h.of_eq rfl
    exact (hcounted.enter rfl False).sendState (by simp)
  · have hbegun : Backed True { s with epoch := s.nextId, nextId := s.nextId + 1, sequence := 0 } :=
      ⟨h.awaits, h.updates, fun _ => .inl trivial, h.kept⟩
    dsimp only
    apply suspend
    · have hsent := @sendState _ _ limits readings .synchronizing .synchronizing none hbegun
        (by simp)
      exact (hsent.enter rfl False).of_eq rfl
    · trivial

theorem afterPermit {generation : ℕ} {acquired : Bool} (h : s.Backed False) :
    (s.afterPermit limits readings generation acquired).Backed False := by
  unfold ServerSubscription.afterPermit
  split
  · exact h
  · split
    · exact h.attemptFailed False
    · apply suspend
      · exact h.of_eq rfl
      · trivial

/-- The answer that is kept names the boundary that was asked for. -/
theorem afterSnapshotHandler {generation : ℕ} {boundary : Option BoundaryId}
    {outcome : SnapshotOutcome} (h : s.Backed False) :
    (s.afterSnapshotHandler limits readings generation boundary outcome).Backed False := by
  unfold ServerSubscription.afterSnapshotHandler
  split
  · exact h
  · cases outcome with
    | aborted => exact h
    | timeout => exact h.attemptFailed False
    | error => exact h.fail
    | malformed => exact h.fail
    | ok snapshot =>
        dsimp only
        split
        · exact h.fail
        · case isFalse hexpected =>
            split
            · exact h.attemptFailed False
            · case isFalse hacknowledged =>
                split
                · exact h.attemptFailed False
                · have hanswer : snapshot.recoveryBoundaryId = boundary := by
                    cases boundary with
                    | none => simpa [unexpectedAcknowledgment] using hexpected
                    | some id =>
                        have hboth : snapshot.recoveryBoundaryId = some id ∧
                            s.source.boundary = some id := by
                          simpa [acknowledges] using hacknowledged
                        exact hboth.1
                  apply suspend
                  · exact h.of_eq rfl
                  · exact hanswer

/-- The snapshot is sent while the boundary it was asked under is still in force. -/
theorem afterRechecked {channel : String} {channelVersion : ℕ} {boundary : Option BoundaryId}
    {snapshot : Snapshot} (h : s.Backed False) (hanswer : snapshot.recoveryBoundaryId = boundary) :
    (s.afterRechecked limits readings channel channelVersion boundary snapshot).Backed False := by
  unfold ServerSubscription.afterRechecked
  split
  · exact h.attemptFailed False
  · case isFalse hinForce =>
      have hinForce : s.source.boundary = boundary := not_not.mp hinForce
      split
      · exact h.fail
      · split
        · exact h.attemptFailed False
        · have hsame : Observation.answered s.epoch boundary snapshot.recoveryBoundaryId
              s.source.boundary = acknowledgment s.epoch boundary := by
            rw [acknowledgment, hanswer, hinForce]
          have hlast : (s.trace ++ [Observation.answered s.epoch boundary
              snapshot.recoveryBoundaryId s.source.boundary]).getLast? =
                some (acknowledgment s.epoch boundary) := by
            rw [hsame, List.getLast?_append, List.getLast?_singleton, Option.some_or]
          apply transmit
          · constructor
            · exact h.awaits
            · exact h.updates
            · exact fun _ => .inr ⟨boundary, List.mem_of_getLast? hlast⟩
            · exact h.kept.concat ⟨hanswer, hinForce⟩
          · rfl
          · exact fun _ => ⟨boundary, hlast⟩

theorem requestResync (h : s.Backed False) : (s.requestResync limits readings).Backed False := by
  have hforgiven : Backed False { s with attempts := 0 } := h.of_eq rfl
  unfold ServerSubscription.requestResync
  split
  · exact h.beginAttempt
  · exact h.beginAttempt
  · exact h.beginAttempt
  · exact hforgiven.beginAttempt
  · exact hforgiven.beginAttempt
  · exact h

theorem onSourceUnavailable {reason : ErrorCode} (h : s.Backed False) :
    (s.onSourceUnavailable limits readings reason).Backed False := by
  have hentered := @enter _ _ h.invalidate .waitingSource rfl False
  have hwaiting := @sendState _ _ limits readings .unavailable .stale (some reason) hentered
    (by simp)
  unfold ServerSubscription.onSourceUnavailable
  split
  all_goals first
    | exact hwaiting
    | exact h

theorem setSourceStatus {status : SourceStatus} {reason : Option ErrorCode} (h : s.Backed False) :
    (s.setSourceStatus limits readings status reason).Backed False := by
  have hchanged : Backed False { s with source := s.source.setStatus status reason } := h.of_eq rfl
  unfold ServerSubscription.setSourceStatus sourceChanged onSourceReady
  split
  · exact h
  · split
    · exact hchanged
    · split
      · exact hchanged.onSourceUnavailable
      · split
        · split
          · exact hchanged.beginAttempt
          · exact hchanged
        · exact hchanged

theorem taken (h : s.Backed False) (index : ℕ) : (s.taken index).Backed False where
  awaits := fun attempt hmem => h.awaits attempt (List.mem_of_mem_eraseIdx hmem)
  updates := h.updates
  streams := h.streams
  kept := h.kept

end Sends

/-! ## Runs -/

variable {config : ServerConfig} {readings : Readings}

theorem inbound {handle : ServerSubscription → ServerSubscription} (h : s.Backed False)
    (hhandle : ∀ s : ServerSubscription, s.Backed False → (handle s).Backed False) :
    (s.inbound config readings handle).Backed False := by
  have hchecked : (s.checkStalled config.limits readings .inbound).Backed False := h.checkStalled
  unfold ServerSubscription.inbound
  dsimp only
  split
  · exact hchecked
  · exact hhandle _ hchecked

theorem step (h : s.Backed False) (action : ServerStep) :
    (s.step config ⟨action, readings⟩).Backed False := by
  unfold ServerSubscription.step
  cases action with
  | start =>
      dsimp only
      split
      · have hregistered : Backed False { s with registered := true } := h.of_eq rfl
        exact hregistered.beginAttempt
      · exact h
  | admitFrame frame =>
      dsimp only
      split
      · exact h.admitFrame frame.isUpdate
      · exact h
  | receipt epoch sequence =>
      apply h.inbound
      intro s h
      apply onReceipt
      exact h.emit trivial
  | resync =>
      apply h.inbound
      intro s h
      apply requestResync
      exact h.emit trivial
  | unsubscribe =>
      apply h.inbound
      intro s h
      exact h.dispose.remove
  | setSourceStatus status reason => exact h.setSourceStatus
  | setBoundary boundary => exact h.of_eq rfl
  | revoke =>
      dsimp only
      split
      · exact h.fail
      · exact h
  | closeSession => exact h.teardown
  | expire => exact h.teardown.of_eq rfl
  | receiptTimeout =>
      dsimp only
      split
      · have hfired : Backed False { s with receiptTimer := false } := h.of_eq rfl
        exact hfired.teardown
      · exact h
  | retry =>
      dsimp only
      split
      · exact h
      · have hfired : Backed False { s with retryTimer := none } := h.of_eq rfl
        split
        · exact hfired.beginAttempt
        · exact hfired
  | elsewhere connection gateway => exact h.of_eq rfl
  | callHandler index =>
      dsimp only
      unfold ServerSubscription.callHandler
      split
      · exact h
      · case h_2 job _ =>
          have hcalled : Backed False { s with jobs := s.jobs.eraseIdx index } := h.of_eq rfl
          exact hcalled.emit trivial
  | resumeAuthorize index outcome revoked =>
      apply resume_induction h
      intro attempt proceed hindex hproceed
      obtain ⟨next, hnext, rfl⟩ := resumeAuthorize_eq_some hproceed
      have hwaiting := h.awaits attempt (List.mem_of_getElem? hindex)
      exact (h.taken index).awaitAuthorized (hnext.answers hwaiting)
  | resumeAuthorized index =>
      apply resume_induction h
      intro attempt proceed hindex hproceed
      have hanswers := h.awaits attempt (List.mem_of_getElem? hindex)
      rcases resumeAuthorized_eq_some hproceed with
        ⟨hwaiting, rfl⟩ | ⟨boundary, snapshot, hwaiting, rfl⟩
      · exact (h.taken index).afterAuthorized
      · rw [hwaiting] at hanswers
        exact (h.taken index).afterRechecked hanswers
  | resumePermit index acquired =>
      apply resume_induction h
      intro attempt proceed hindex hproceed
      obtain ⟨hwaiting, rfl⟩ := resumePermit_eq_some hproceed
      exact (h.taken index).afterPermit
  | resumeSnapshot index outcome =>
      apply resume_induction h
      intro attempt proceed hindex hproceed
      obtain ⟨boundary, hwaiting, rfl⟩ := resumeSnapshot_eq_some hproceed
      exact (h.taken index).afterSnapshotHandler

end Backed

theorem backed_initial (budget : SubscriptionBudget) (source : SourceRuntime) :
    (initial budget source).Backed False where
  awaits := fun _ hmem => absurd hmem List.not_mem_nil
  updates := fun _ hmem => absurd hmem List.not_mem_nil
  streams := fun hsending => by cases hsending
  kept := .nil

theorem backed_after (config : ServerConfig) (budget : SubscriptionBudget) (source : SourceRuntime)
    (inputs : List ServerInput) :
    ((machine config).after (initial budget source) inputs).Backed False :=
  (machine config).invariant (fun _ input h _ => h.step input.step)
    (backed_initial budget source) ((machine config).admits_of_allowed (fun _ _ => trivial) _ _)

/-- In every run no snapshot is sent that answers another boundary than the one in force, and no
epoch streams before its snapshot was sent so. -/
theorem boundariesKept_after (config : ServerConfig) (budget : SubscriptionBudget)
    (source : SourceRuntime) (inputs : List ServerInput) :
    Historic BoundaryKept ((machine config).after (initial budget source) inputs).trace :=
  (backed_after config budget source inputs).kept

end ServerSubscription

end StreamOtter
