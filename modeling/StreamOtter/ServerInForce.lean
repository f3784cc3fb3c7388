import StreamOtter.ServerBoundaries
import StreamOtter.ServerWire
import StreamOtter.SupersededAttempts

/-!
# The boundary in force while a subscription streams

A recovery boundary is set for a source that does not deliver.  While that is kept to, and every
resumption on the word of `#authorize` is fresh, an open session's subscription streams an epoch
only as long as the boundary in force, if any, is the one that its snapshot acknowledged.
-/

namespace StreamOtter

namespace ServerSubscription

structure Watching (s : ServerSubscription) : Prop where
  registered : s.phase = .idle ∨ s.phase = .terminated ∨ s.registered = true
  ready : s.capturing = true → s.source.ready = true
  acknowledged : s.phase.sending = true →
    s.source.boundary = none ∨ acknowledgment s.epoch s.source.boundary ∈ s.trace

/-- A closed session sends nothing, so that nothing is asked of its subscriptions. -/
def Guarded (s : ServerSubscription) : Prop := s.sessionClosed = false → s.Watching

variable {s : ServerSubscription}

theorem Watching.of_eq {s' : ServerSubscription} (h : s.Watching)
    (hsame : (s'.phase, s'.registered, s'.source, s'.epoch, s'.trace) =
      (s.phase, s.registered, s.source, s.epoch, s.trace)) : s'.Watching := by
  simp only [Prod.mk.injEq] at hsame
  obtain ⟨hphase, hregistered, hsource, hepoch, htrace⟩ := hsame
  constructor
  · rw [hphase, hregistered]; exact h.registered
  · unfold capturing
    rw [hphase, hsource]
    exact h.ready
  · rw [hphase, hsource, hepoch, htrace]; exact h.acknowledged

theorem Watching.emit (h : s.Watching) (o : Observation) : (s.emit o).Watching where
  registered := h.registered
  ready := h.ready
  acknowledged := fun hsending => (h.acknowledged hsending).imp_right (List.mem_append_left _)

/-- A phase in which nothing is captured or streams. -/
theorem watching_enter {phase : Phase} (hphase : phase.sending = false)
    (hcapturing : phase ≠ .capturing)
    (hregistered : phase = .terminated ∨ s.registered = true) : (s.enter phase).Watching where
  registered := .inr hregistered
  ready := by
    intro hcaptures
    cases phase <;> simp_all [ServerSubscription.enter, capturing, Phase.sending]
  acknowledged := by
    intro hsending
    have hsame : phase.sending = true := hsending
    rw [hphase] at hsame
    cases hsame

theorem Guarded.of_eq {s' : ServerSubscription} (h : s.Guarded)
    (hsame : (s'.phase, s'.registered, s'.source, s'.epoch, s'.trace) =
      (s.phase, s.registered, s.source, s.epoch, s.trace))
    (hclosed : s'.sessionClosed = s.sessionClosed) : s'.Guarded :=
  fun hopen => (h (hclosed ▸ hopen)).of_eq hsame

theorem Guarded.emit (h : s.Guarded) (o : Observation) : (s.emit o).Guarded :=
  fun hopen => (h hopen).emit o

theorem Guarded.dispose (h : s.Guarded) : s.dispose.Guarded := by
  unfold ServerSubscription.dispose
  split
  · exact h
  · intro _
    have hended := @watching_enter s.invalidate .terminated rfl (by simp) (.inl rfl)
    have hgone : ((s.invalidate.enter .terminated).publish .closed).unregister.Watching :=
      ⟨.inr (.inl rfl), hended.ready, hended.acknowledged⟩
    exact hgone.emit _

theorem stable_guarded : Stable Guarded where
  publish := fun _ _ h => h.of_eq rfl rfl
  emit := fun _ o _ h => h.emit o
  expire := fun _ _ h => h.of_eq rfl rfl
  close := fun _ _ hopen => by cases hopen
  dispose := fun _ h => h.dispose
  remove := fun _ h => h.of_eq rfl rfl

section Operations

variable {limits : Limits} {readings : Readings}

/-- What `#attemptFailed` needs of a subscription. -/
def Enlisted (s : ServerSubscription) : Prop := s.sessionClosed = false → s.registered = true

theorem capturing_of_sending (hphase : s.phase.sending = true) : s.capturing = true := by
  unfold capturing
  cases hcase : s.phase <;> simp_all [Phase.sending]

theorem Guarded.enlisted (h : s.Guarded) (hidle : s.phase ≠ .idle)
    (hterminated : s.phase ≠ .terminated) : s.Enlisted :=
  fun hopen => ((h hopen).registered.resolve_left hidle).resolve_left hterminated

theorem Guarded.enlisted_capturing (h : s.Guarded) (hcapturing : s.capturing = true) :
    s.Enlisted := by
  apply h.enlisted
  · intro hcase
    simp [capturing, hcase] at hcapturing
  · intro hcase
    simp [capturing, hcase] at hcapturing

theorem Guarded.enlisted_sending (h : s.Guarded) (hphase : s.phase.sending = true) :
    s.Enlisted :=
  h.enlisted_capturing (capturing_of_sending hphase)

theorem Enlisted.sendState {site : SendSite} {state : SubscriptionState}
    {reason : Option ErrorCode} (h : s.Enlisted) :
    (s.sendState limits readings site state reason).Enlisted := by
  intro hopen
  have hsent := sendState_open hopen
  rw [hsent] at hopen ⊢
  exact h hopen

theorem Enlisted.sendError {site : SendSite} {code : ErrorCode} (h : s.Enlisted) :
    (s.sendError limits readings site code).Enlisted := by
  intro hopen
  have hsent := sendError_open hopen
  rw [hsent] at hopen ⊢
  exact h hopen

theorem attemptFailed_guarded {code : ErrorCode} (henlisted : s.Enlisted) :
    (s.attemptFailed limits readings code).Guarded := by
  have hbackoff : (s.invalidate.enter .backoff).Guarded := fun hopen =>
    watching_enter rfl (by simp) (.inr (henlisted hopen))
  have hstale := @Stable.sendState _ stable_guarded _ limits readings .attemptStale .stale
    (some code) hbackoff
  unfold ServerSubscription.attemptFailed
  dsimp only
  split
  · have hwaiting : (s.invalidate.enter .backoff).Enlisted := henlisted
    apply stable_guarded.sendState
    apply stable_guarded.sendError
    intro hopen
    apply watching_enter rfl (by simp)
    exact .inr (hwaiting.sendState hopen)
  · exact hstale.of_eq rfl rfl

theorem protocolViolation_guarded (henlisted : s.Enlisted) :
    (s.protocolViolation limits readings).Guarded := by
  apply attemptFailed_guarded
  exact henlisted.sendError

theorem Guarded.fail {code : ErrorCode} (h : s.Guarded) :
    (s.fail limits readings code).Guarded := by
  unfold ServerSubscription.fail
  split
  · exact h
  · have hended := @watching_enter s.invalidate .terminated rfl (by simp) (.inl rfl)
    have hgone : (s.invalidate.enter .terminated).unregister.Watching :=
      ⟨.inr (.inl rfl), hended.ready, hended.acknowledged⟩
    dsimp only
    apply stable_guarded.remove
    apply stable_guarded.sendState
    apply stable_guarded.sendError
    exact fun _ => hgone.emit _

theorem Guarded.transmit {frame : PendingFrame} (h : s.Guarded)
    (hphase : s.phase.sending = true) :
    (s.transmit limits readings frame).Guarded := by
  have hchecked : (s.canDeliver limits readings .transmit).1.Guarded := stable_guarded.canDeliver h
  unfold ServerSubscription.transmit
  split
  · case h_1 s' heq =>
      rw [heq] at hchecked
      exact hchecked.of_eq rfl rfl
  · case h_2 s' heq =>
      obtain ⟨rfl, hopen⟩ := canDeliver_granted heq
      split
      · exact attemptFailed_guarded (h.enlisted_sending hphase)
      · rw [handOver_eq frame hopen]
        have hsent := h.emit (.data ⟨s'.epoch, s'.sequence + 1, frame.event⟩)
        exact hsent.of_eq rfl rfl

theorem Guarded.pump (h : s.Guarded) : (s.pump limits readings).Guarded := by
  unfold ServerSubscription.pump
  split
  · exact h
  · split
    · exact h
    · case isFalse hphase =>
        split
        · exact h
        · case h_2 next rest _ =>
            have hloaded : Guarded { s with queue := rest } := h.of_eq rfl rfl
            apply hloaded.transmit
            have hcase : s.phase = .draining ∨ s.phase = .live := by tauto
            rcases hcase with hcase | hcase <;> exact congrArg Phase.sending hcase

/-- A subscription that streams goes on to another phase. -/
theorem Guarded.enter (h : s.Guarded) (hphase : s.phase.sending = true) (phase : Phase) :
    (s.enter phase).Guarded := by
  intro hopen
  have hwatching := h hopen
  exact ⟨.inr (.inr (h.enlisted_sending hphase hopen)),
    fun _ => hwatching.ready (capturing_of_sending hphase),
    fun _ => hwatching.acknowledged hphase⟩

theorem Guarded.goLive (h : s.Guarded) (hphase : s.phase.sending = true) :
    (s.goLive limits readings).Guarded := by
  unfold ServerSubscription.goLive
  apply Guarded.pump
  apply stable_guarded.sendState
  exact (h.enter hphase _).of_eq rfl rfl

theorem Guarded.admitFrame {frame : PendingFrame} (h : s.Guarded) :
    (s.admitFrame limits readings frame).1.Guarded := by
  unfold ServerSubscription.admitFrame
  split
  · exact h.emit _
  · case isFalse hcapturing =>
      split
      · exact h.emit _
      · split
        · exact attemptFailed_guarded (h.enlisted_capturing (by simpa using hcapturing))
        · apply Guarded.pump
          apply Guarded.emit
          exact h.of_eq rfl rfl

theorem Guarded.beginDrain (h : s.Guarded) (hphase : s.phase.sending = true) :
    s.beginDrain.Guarded := by
  unfold ServerSubscription.beginDrain
  apply Guarded.emit
  exact (h.enter hphase _).of_eq rfl rfl

theorem Guarded.onReceipt {epoch : Epoch} {sequence : ℕ} (h : s.Guarded) :
    (s.onReceipt limits readings epoch sequence).Guarded := by
  unfold ServerSubscription.onReceipt
  split
  · exact h
  · case isFalse hreceived =>
      have hcapturing : s.capturing = true := by
        by_contra hnot
        exact hreceived (.inr (by simpa using hnot))
      have hviolation := @protocolViolation_guarded _ limits readings
        (h.enlisted_capturing hcapturing)
      split
      · split
        · exact h
        · exact hviolation
      · case h_2 inFlight _ =>
          have hfreed : (s.receipted inFlight).Guarded := h.of_eq rfl rfl
          split
          · split
            · exact h
            · exact hviolation
          · split
            · exact hviolation
            · dsimp only
              split
              · case isTrue hphase =>
                  have hdrain := hfreed.beginDrain (congrArg Phase.sending hphase)
                  split
                  · exact hdrain.goLive rfl
                  · exact hdrain.pump
              · split
                · case isTrue hphase =>
                    have hcount : (s.receipted inFlight).countDown.Guarded := h.of_eq rfl rfl
                    split
                    · exact hcount.goLive (congrArg Phase.sending hphase)
                    · exact hcount.pump
                · exact hfreed.pump

/-! ## Attempts -/

theorem beginAttempt_guarded {announce : Bool} (henlisted : s.Enlisted) :
    (s.beginAttempt limits readings announce).Guarded := by
  have hbegun : ((s.invalidate.countAttempt 1).enter .authorizing).Guarded := fun hopen =>
    watching_enter rfl (by simp) (.inr (henlisted hopen))
  have hannounced : (((s.invalidate.countAttempt 1).enter .authorizing).announceAttempt limits
      readings announce).Guarded := by
    unfold announceAttempt
    split
    · exact stable_guarded.sendState hbegun
    · exact hbegun.of_eq rfl rfl
  unfold ServerSubscription.beginAttempt callAuthorize
  dsimp only
  split
  · exact hannounced.of_eq rfl rfl
  · exact hannounced.of_eq rfl rfl

theorem Guarded.awaitAuthorized {generation : ℕ} {outcome : AuthorizeOutcome} {revoked : Bool}
    {next : Await} (h : s.Guarded) (hcurrent : generation = s.generation → s.Enlisted) :
    (awaitAuthorized generation next
      (s.afterAuthorizeHandler limits readings generation outcome revoked)).Guarded := by
  have hrefused : ∀ s' : ServerSubscription, s'.Guarded →
      (ServerSubscription.awaitAuthorized generation next (s', false)).Guarded := fun s' h => h
  unfold ServerSubscription.afterAuthorizeHandler
  split
  · exact hrefused s h
  · case isFalse hgeneration =>
      cases outcome with
      | aborted => exact hrefused s h
      | timeout => exact hrefused _ (attemptFailed_guarded (hcurrent (not_not.mp hgeneration)))
      | error => exact hrefused _ h.fail
      | denied => exact hrefused _ h.fail
      | allowed =>
          have hchecked : (s.canDeliver limits readings .authorize).1.Guarded :=
            stable_guarded.canDeliver h
          dsimp only
          split
          · case h_1 s' heq =>
              rw [heq] at hchecked
              exact hrefused s' hchecked
          · case h_2 s' heq =>
              rw [(canDeliver_granted heq).1]
              cases revoked with
              | true => exact hrefused _ h.fail
              | false => exact h.of_eq rfl rfl

theorem afterAuthorized_guarded {generation : ℕ} (henlisted : s.Enlisted) :
    (s.afterAuthorized limits readings generation).Guarded := by
  unfold ServerSubscription.afterAuthorized
  split
  · apply stable_guarded.sendState
    intro hopen
    exact watching_enter rfl (by simp) (.inr (henlisted hopen))
  · case isFalse hready =>
      dsimp only
      intro hopen
      have hsent := sendState_open hopen
      have hsource : s.source.ready = true := by simpa using hready
      rw [hsent] at hopen ⊢
      exact ⟨.inr (.inr (henlisted hopen)), fun _ => hsource, fun hsending => by cases hsending⟩

theorem Guarded.afterPermit {generation : ℕ} {acquired : Bool} (h : s.Guarded)
    (hcurrent : generation = s.generation → s.Enlisted) :
    (s.afterPermit limits readings generation acquired).Guarded := by
  unfold ServerSubscription.afterPermit
  split
  · exact h
  · case isFalse hgeneration =>
      split
      · exact attemptFailed_guarded (hcurrent (not_not.mp hgeneration))
      · exact h.of_eq rfl rfl

theorem Guarded.afterSnapshotHandler {generation : ℕ} {boundary : Option BoundaryId}
    {outcome : SnapshotOutcome} (h : s.Guarded)
    (hcurrent : generation = s.generation → s.Enlisted) :
    (s.afterSnapshotHandler limits readings generation boundary outcome).Guarded := by
  unfold ServerSubscription.afterSnapshotHandler
  split
  · exact h
  · case isFalse hgeneration =>
      have henlisted := hcurrent (not_not.mp hgeneration)
      cases outcome with
      | aborted => exact h
      | timeout => exact attemptFailed_guarded henlisted
      | error => exact h.fail
      | malformed => exact h.fail
      | ok snapshot =>
          dsimp only
          split
          · exact h.fail
          · split
            · exact attemptFailed_guarded henlisted
            · split
              · exact attemptFailed_guarded henlisted
              · exact h.of_eq rfl rfl

theorem Guarded.afterRechecked {channel : String} {channelVersion : ℕ}
    {boundary : Option BoundaryId} {snapshot : Snapshot} (h : s.Guarded)
    (hphase : s.phase = .capturing) (hanswer : snapshot.recoveryBoundaryId = boundary) :
    (s.afterRechecked limits readings channel channelVersion boundary snapshot).Guarded := by
  have hcapturing : s.capturing = true := by simp [capturing, hphase]
  have henlisted := h.enlisted_capturing hcapturing
  unfold ServerSubscription.afterRechecked
  split
  · exact attemptFailed_guarded henlisted
  · case isFalse hinForce =>
      have hinForce : s.source.boundary = boundary := not_not.mp hinForce
      split
      · exact h.fail
      · split
        · exact attemptFailed_guarded henlisted
        · have hsame : Observation.answered s.epoch boundary snapshot.recoveryBoundaryId
              s.source.boundary = acknowledgment s.epoch s.source.boundary := by
            rw [acknowledgment, hanswer, hinForce]
          apply Guarded.transmit
          · intro hopen
            refine ⟨.inr (.inr (henlisted hopen)), fun _ => (h hopen).ready hcapturing,
              fun _ => .inr ?_⟩
            apply List.mem_append_right
            rw [hsame]
            exact List.mem_singleton_self _
          · rfl

theorem Guarded.requestResync (h : s.Guarded) : (s.requestResync limits readings).Guarded := by
  unfold ServerSubscription.requestResync
  split
  all_goals first
    | exact h
    | (apply beginAttempt_guarded
       apply h.enlisted <;> simp [*])

theorem onSourceUnavailable_guarded {reason : ErrorCode}
    (hregistered : s.sessionClosed = false →
      s.phase = .idle ∨ s.phase = .terminated ∨ s.registered = true) :
    (s.onSourceUnavailable limits readings reason).Guarded := by
  have hwaiting : ∀ (_ : s.phase ≠ .idle) (_ : s.phase ≠ .terminated),
      ((s.invalidate.enter .waitingSource).sendState limits readings .unavailable .stale
        (some reason)).Guarded := by
    intro hidle hterminated
    apply stable_guarded.sendState
    intro hopen
    apply watching_enter rfl (by simp)
    exact .inr (((hregistered hopen).resolve_left hidle).resolve_left hterminated)
  unfold ServerSubscription.onSourceUnavailable
  split
  case h_7 =>
    intro hopen
    refine ⟨hregistered hopen, fun hcapturing => ?_, fun hsending => ?_⟩
    · cases hphase : s.phase <;> simp_all [capturing]
    · cases hphase : s.phase <;> simp_all [Phase.sending]
  all_goals
    apply hwaiting <;> simp [*]

theorem Guarded.setSourceStatus {status : SourceStatus} {reason : Option ErrorCode}
    (h : s.Guarded) : (s.setSourceStatus limits readings status reason).Guarded := by
  unfold ServerSubscription.setSourceStatus sourceChanged
  split
  · exact h
  · dsimp only
    split
    · case isTrue hregistered =>
        have hgone : s.sessionClosed = false → s.phase = .idle ∨ s.phase = .terminated := by
          intro hopen
          rcases (h hopen).registered with hcase | hcase | hcase
          · exact .inl hcase
          · exact .inr hcase
          · rw [hcase] at hregistered
            cases hregistered
        intro hopen
        refine ⟨(hgone hopen).imp_right .inl, fun hcapturing => ?_, (h hopen).acknowledged⟩
        rcases hgone hopen with hcase | hcase
        · simp [capturing, hcase] at hcapturing
        · simp [capturing, hcase] at hcapturing
    · split
      · apply onSourceUnavailable_guarded
        exact fun hopen => (h hopen).registered
      · case isFalse hnotLost =>
          have hkept : Guarded { s with source := s.source.setStatus status reason } := by
            intro hopen
            refine ⟨(h hopen).registered, fun hcapturing => ?_, (h hopen).acknowledged⟩
            have hready := (h hopen).ready hcapturing
            by_contra hnot
            exact hnotLost (by simpa [hready] using hnot)
          split
          · unfold ServerSubscription.onSourceReady
            split
            · case h_1 hphase =>
                apply beginAttempt_guarded
                apply hkept.enlisted
                · rw [hphase]; simp
                · rw [hphase]; simp
            · exact hkept
          · exact hkept

end Operations

/-! ## Runs -/

section Runs

variable {config : ServerConfig} {readings : Readings} {extra : List ℕ} {floor : ℕ}

theorem Guarded.inbound {handle : ServerSubscription → ServerSubscription} (h : s.Guarded)
    (hhandle : ∀ s : ServerSubscription, s.Guarded → (handle s).Guarded) :
    (s.inbound config readings handle).Guarded := by
  have hchecked : (s.checkStalled config.limits readings .inbound).Guarded :=
    stable_guarded.checkStalled h
  unfold ServerSubscription.inbound
  dsimp only
  split
  · exact hchecked
  · exact hhandle _ hchecked

/-- A recovery boundary is set while the source does not deliver, or none is in force after. -/
def SetsCalmly (s : ServerSubscription) : ServerStep → Prop
  | .setBoundary boundary =>
      s.source.ready = false ∨ boundary = none ∨ boundary = s.source.boundary
  | _ => True

instance decidableSetsCalmly (s : ServerSubscription) :
    (action : ServerStep) → Decidable (s.SetsCalmly action)
  | .setBoundary _ => inferInstanceAs (Decidable (_ ∨ _ ∨ _))
  | .start | .admitFrame _ | .receipt _ _ | .resync | .unsubscribe | .setSourceStatus _ _
  | .revoke | .closeSession | .expire | .receiptTimeout | .retry | .elsewhere _ _
  | .callHandler _ | .resumeAuthorize _ _ _ | .resumeAuthorized _ | .resumePermit _ _
  | .resumeSnapshot _ _ => .isTrue trivial

/-- The attempt that continues waited in the phase of its place. -/
theorem enlisted_taken {attempt : Attempt} {index : ℕ} (h : s.Guarded) (hs : s.Steady extra floor)
    (hindex : s.pending[index]? = some attempt) :
    attempt.generation = (s.taken index).generation → (s.taken index).Enlisted := by
  intro hcurrent
  have hphase := hs.fits attempt (List.mem_of_getElem? hindex) hcurrent
  have henlisted : s.Enlisted := by
    apply h.enlisted
    · rw [hphase]
      cases attempt.waiting <;> simp [Await.phase]
    · rw [hphase]
      cases attempt.waiting <;> simp [Await.phase]
  exact henlisted

theorem Guarded.taken (h : s.Guarded) (index : ℕ) : (s.taken index).Guarded := h.of_eq rfl rfl

theorem Guarded.step (h : s.Guarded) (hbacked : s.Backed False) (hs : s.Steady extra floor)
    (action : ServerStep) (hfresh : s.Fresh action) (hcalm : s.SetsCalmly action) :
    (s.step config ⟨action, readings⟩).Guarded := by
  unfold ServerSubscription.step
  cases action with
  | start =>
      dsimp only
      split
      · apply beginAttempt_guarded
        exact fun _ => rfl
      · exact h
  | admitFrame frame =>
      dsimp only
      split
      · exact h.admitFrame
      · exact h
  | receipt epoch sequence =>
      apply h.inbound
      intro s h
      exact (h.emit _).onReceipt
  | resync =>
      apply h.inbound
      intro s h
      exact (h.emit _).requestResync
  | unsubscribe =>
      apply h.inbound
      intro s h
      exact stable_guarded.remove _ h.dispose
  | setSourceStatus status reason => exact h.setSourceStatus
  | setBoundary boundary =>
      intro hopen
      have hwatching := h hopen
      refine ⟨hwatching.registered, hwatching.ready, fun hsending => ?_⟩
      have hphase : s.phase.sending = true := hsending
      rcases hcalm with hnotReady | hnone | hsame
      · rw [hwatching.ready (capturing_of_sending hphase)] at hnotReady
        cases hnotReady
      · exact .inl hnone
      · rw [show boundary = s.source.boundary from hsame]
        exact hwatching.acknowledged hphase
  | revoke =>
      dsimp only
      split
      · exact h.fail
      · exact h
  | closeSession => exact stable_guarded.teardown h
  | expire => exact stable_guarded.expire _ false (stable_guarded.teardown h)
  | receiptTimeout =>
      dsimp only
      split
      · apply stable_guarded.teardown
        exact h.of_eq rfl rfl
      · exact h
  | retry =>
      dsimp only
      split
      · exact h
      · have hfired : Guarded { s with retryTimer := none } := h.of_eq rfl rfl
        split
        · case isTrue hboth =>
            have hphase : s.phase = .backoff := hboth.2
            apply beginAttempt_guarded
            apply hfired.enlisted
            · show s.phase ≠ _
              rw [hphase]; simp
            · show s.phase ≠ _
              rw [hphase]; simp
        · exact hfired
  | elsewhere connection gateway => exact h.of_eq rfl rfl
  | callHandler index =>
      dsimp only
      unfold ServerSubscription.callHandler
      split
      · exact h
      · apply Guarded.emit
        exact h.of_eq rfl rfl
  | resumeAuthorize index outcome revoked =>
      apply resume_induction h
      intro attempt proceed hindex hproceed
      obtain ⟨next, -, rfl⟩ := resumeAuthorize_eq_some hproceed
      exact (h.taken index).awaitAuthorized (enlisted_taken h hs hindex)
  | resumeAuthorized index =>
      apply resume_induction h
      intro attempt proceed hindex hproceed
      have hmem := List.mem_of_getElem? hindex
      have hanswers := hbacked.awaits attempt hmem
      rcases resumeAuthorized_eq_some hproceed with
        ⟨hwaiting, rfl⟩ | ⟨boundary, snapshot, hwaiting, rfl⟩
      · have hcurrent := hfresh attempt hindex (by rw [hwaiting]; rfl)
        exact afterAuthorized_guarded (enlisted_taken h hs hindex hcurrent)
      · have hcurrent := hfresh attempt hindex (by rw [hwaiting]; rfl)
        have hphase := hs.fits attempt hmem hcurrent
        rw [hwaiting] at hphase hanswers
        exact (h.taken index).afterRechecked hphase hanswers
  | resumePermit index acquired =>
      apply resume_induction h
      intro attempt proceed hindex hproceed
      obtain ⟨-, rfl⟩ := resumePermit_eq_some hproceed
      exact (h.taken index).afterPermit (enlisted_taken h hs hindex)
  | resumeSnapshot index outcome =>
      apply resume_induction h
      intro attempt proceed hindex hproceed
      obtain ⟨boundary, -, rfl⟩ := resumeSnapshot_eq_some hproceed
      exact (h.taken index).afterSnapshotHandler (enlisted_taken h hs hindex)

/-- The interleavings of fresh resumptions in which boundaries are set calmly. -/
def calmMachine (config : ServerConfig) : Machine ServerSubscription ServerInput where
  step := step config
  allowed := fun s input => s.Fresh input.step ∧ s.SetsCalmly input.step

instance (config : ServerConfig) (s : ServerSubscription) (input : ServerInput) :
    Decidable ((calmMachine config).allowed s input) :=
  inferInstanceAs (Decidable (_ ∧ _))

theorem guarded_after {inputs : List ServerInput} (h : s.Guarded) (hbacked : s.Backed False)
    (hs : s.Steady extra floor) (hrun : (calmMachine config).Admits s inputs) :
    ((calmMachine config).after s inputs).Guarded := by
  have hall : ∀ s input,
      s.Guarded ∧ s.Backed False ∧ s.Steady extra floor → (calmMachine config).allowed s input →
        (s.step config input).Guarded ∧ (s.step config input).Backed False ∧
          (s.step config input).Steady extra floor := by
    rintro s input ⟨h, hbacked, hs⟩ ⟨hfresh, hcalm⟩
    exact ⟨h.step hbacked hs input.step hfresh hcalm, hbacked.step input.step,
      hs.step input.step hfresh⟩
  exact (Machine.invariant hall ⟨h, hbacked, hs⟩ hrun).1

theorem guarded_initial (budget : SubscriptionBudget) (source : SourceRuntime) :
    (initial budget source).Guarded :=
  fun _ => ⟨.inl rfl, nofun, nofun⟩

/-- After every calm run, a subscription of an open session that streams an epoch has a source
that delivers, and the boundary in force, if any, is the one that the epoch's snapshot
acknowledged. -/
theorem boundaryInForce_after (config : ServerConfig) (budget : SubscriptionBudget)
    (source : SourceRuntime) (inputs : List ServerInput)
    (hrun : (calmMachine config).Admits (initial budget source) inputs)
    (hopen : ((calmMachine config).after (initial budget source) inputs).sessionClosed = false)
    (hsending : ((calmMachine config).after (initial budget source) inputs).phase.sending = true) :
    ((calmMachine config).after (initial budget source) inputs).source.ready = true ∧
      (((calmMachine config).after (initial budget source) inputs).source.boundary = none ∨
        acknowledgment ((calmMachine config).after (initial budget source) inputs).epoch
            ((calmMachine config).after (initial budget source) inputs).source.boundary ∈
          ((calmMachine config).after (initial budget source) inputs).trace) := by
  have hguarded := guarded_after (guarded_initial budget source) (backed_initial budget source)
    (initial_steady budget source) hrun
  have hwatching := hguarded hopen
  exact ⟨hwatching.ready (capturing_of_sending hsending), hwatching.acknowledged hsending⟩

/-- An attempt of which nothing fails. -/
def attemptWith (snapshot : Snapshot) : List ServerStep :=
  [.callHandler 0, .resumeAuthorize 0 .allowed false, .resumeAuthorized 0, .resumePermit 0 true,
    .callHandler 0, .resumeSnapshot 0 (.ok snapshot), .callHandler 0,
    .resumeAuthorize 0 .allowed false, .resumeAuthorized 0]

def boundarySteps : List ServerStep :=
  [.start] ++ attemptWith ⟨10, none, 20, "before"⟩ ++
    [.receipt 1 1, .setSourceStatus .paused none, .setBoundary (some 7),
      .setSourceStatus .healthy none] ++
    attemptWith ⟨12, some 7, 20, "after"⟩ ++ [.receipt 2 1]

/-- A pause during which a boundary is set, with a snapshot before it and one after. -/
def boundaryRun : List ServerInput := boundarySteps.map (⟨·, prompt⟩)

theorem boundaryInForce_boundaryRun :
    ((calmMachine sampleConfig).after (initial sampleBudget sampleSource)
        boundaryRun).source.ready = true ∧
      (((calmMachine sampleConfig).after (initial sampleBudget sampleSource)
          boundaryRun).source.boundary = none ∨
        acknowledgment ((calmMachine sampleConfig).after (initial sampleBudget sampleSource)
            boundaryRun).epoch
            ((calmMachine sampleConfig).after (initial sampleBudget sampleSource)
              boundaryRun).source.boundary ∈
          ((calmMachine sampleConfig).after (initial sampleBudget sampleSource)
            boundaryRun).trace) :=
  boundaryInForce_after sampleConfig sampleBudget sampleSource boundaryRun (by decide) (by decide)
    (by decide)

example : ((calmMachine sampleConfig).after (initial sampleBudget sampleSource)
    boundaryRun).phase = .live := by
  decide

end Runs

end ServerSubscription

end StreamOtter
