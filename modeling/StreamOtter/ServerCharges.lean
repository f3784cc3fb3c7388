import StreamOtter.ServerSends
import Mathlib.Data.List.Perm.Basic

/-!
# What a subscription charges

The frames a subscription holds are what it has reserved at every level.  A stretch takes
that from one state to the next, whatever is reserved by others, except when a snapshot is
handed over while another frame is in flight: that frame's reservation is then lost.
-/

namespace StreamOtter

namespace ServerSubscription

/-- The frames held, and `extra` ones in hand, are charged on top of `base`; a terminated
subscription holds none. -/
structure Charges (base : SubscriptionBudget) (extra : List ℕ) (s : ServerSubscription) : Prop where
  charged : s.budget.Charged base (extra ++ s.heldSizes)
  quiet : s.phase = .terminated → s.heldSizes = []

/-- Only the frames in hand are charged. -/
structure Discharged (base : SubscriptionBudget) (extra : List ℕ) (s : ServerSubscription) :
    Prop where
  charged : s.budget.Charged base extra
  heldSizes : s.heldSizes = []

variable {s : ServerSubscription} {base : SubscriptionBudget} {extra : List ℕ}

theorem Discharged.charges (h : s.Discharged base extra) : s.Charges base extra where
  charged := by
    rw [h.heldSizes, List.append_nil]
    exact h.charged
  quiet := fun _ => h.heldSizes

theorem Charges.invalidate (h : s.Charges base extra) : s.invalidate.Discharged base extra where
  charged := (h.charged.perm List.perm_append_comm).releaseAll_append
  heldSizes := rfl

/-- The fields that `Charges` and `Discharged` read besides the phase. -/
def funds (s : ServerSubscription) := (s.budget, s.queue, s.inFlight)

theorem heldSizes_of_funds {s' : ServerSubscription} (hsame : s'.funds = s.funds) :
    s'.heldSizes = s.heldSizes := by
  simp only [funds, Prod.mk.injEq] at hsame
  unfold heldSizes
  rw [hsame.2.1, hsame.2.2]

theorem Discharged.of_eq {s' : ServerSubscription} (h : s.Discharged base extra)
    (hsame : s'.funds = s.funds) : s'.Discharged base extra := by
  have hheld := heldSizes_of_funds hsame
  simp only [funds, Prod.mk.injEq] at hsame
  exact ⟨hsame.1 ▸ h.charged, hheld.trans h.heldSizes⟩

/-- Any phase but the last may be entered with frames. -/
theorem Charges.of_eq {s' : ServerSubscription} (h : s.Charges base extra)
    (hsame : s'.funds = s.funds) (hphase : s'.phase = .terminated → s.phase = .terminated) :
    s'.Charges base extra := by
  have hheld := heldSizes_of_funds hsame
  simp only [funds, Prod.mk.injEq] at hsame
  constructor
  · rw [hsame.1, hheld]
    exact h.charged
  · intro hterminated
    rw [hheld]
    exact h.quiet (hphase hterminated)

theorem Discharged.dispose (h : s.Discharged base extra) : s.dispose.Discharged base extra := by
  unfold ServerSubscription.dispose
  split
  · exact h
  · exact h.charges.invalidate.of_eq rfl

theorem Charges.dispose (h : s.Charges base extra) : s.dispose.Charges base extra := by
  unfold ServerSubscription.dispose
  split
  · exact h
  · apply Discharged.charges
    exact h.invalidate.of_eq rfl

theorem stable_discharged (base : SubscriptionBudget) (extra : List ℕ) :
    Stable (Discharged base extra) where
  publish := fun _ _ h => h.of_eq rfl
  emit := fun _ _ _ h => h.of_eq rfl
  expire := fun _ _ h => h.of_eq rfl
  close := fun _ h => h.of_eq rfl
  dispose := fun _ h => h.dispose
  remove := fun _ h => h.of_eq rfl

theorem stable_charges (base : SubscriptionBudget) (extra : List ℕ) :
    Stable (Charges base extra) where
  publish := fun _ _ h => h.of_eq rfl id
  emit := fun _ _ _ h => h.of_eq rfl id
  expire := fun _ _ h => h.of_eq rfl id
  close := fun _ h => h.of_eq rfl id
  dispose := fun _ h => h.dispose
  remove := fun _ h => h.of_eq rfl id

section Operations

variable {limits : Limits} {readings : Readings}

theorem Charges.attemptFailed {code : ErrorCode} (h : s.Charges base extra) :
    (s.attemptFailed limits readings code).Discharged base extra := by
  have hstable := stable_discharged base extra
  have hbackoff : (s.invalidate.enter .backoff).Discharged base extra := h.invalidate.of_eq rfl
  unfold ServerSubscription.attemptFailed
  dsimp only
  split
  · apply hstable.sendState
    apply hstable.sendError
    exact (hstable.sendState hbackoff).of_eq rfl
  · exact (hstable.sendState hbackoff).of_eq rfl

theorem Charges.protocolViolation (h : s.Charges base extra) :
    (s.protocolViolation limits readings).Discharged base extra :=
  Charges.attemptFailed ((stable_charges base extra).sendError h)

theorem Charges.fail {code : ErrorCode} (h : s.Charges base extra) :
    (s.fail limits readings code).Charges base extra := by
  have hstable := stable_discharged base extra
  unfold ServerSubscription.fail
  split
  · exact h
  · have hended : ((s.invalidate.enter .terminated).unregister.emit
        (.terminated s.epoch)).Discharged base extra := h.invalidate.of_eq rfl
    dsimp only
    apply Discharged.charges
    apply hstable.remove
    apply hstable.sendState
    apply hstable.sendError
    exact hended

/-- Whether `#transmit` gets as far as handing its frame over. -/
def HandsOver (limits : Limits) (readings : Readings) (s : ServerSubscription) : Prop :=
  s.sessionClosed = false ∧
    readings.bufferedBytes .transmit ≤ limits.maxPendingBytesPerConnection ∧
    readings.expired .transmit = false ∧ s.sequence < maxSafeInteger - 1

instance : Decidable (s.HandsOver limits readings) :=
  inferInstanceAs (Decidable (_ ∧ _ ∧ _ ∧ _))

/-- What the client and the clock answered when a delivery was granted. -/
theorem readings_of_granted {site : SendSite} {s' : ServerSubscription}
    (hgranted : s.canDeliver limits readings site = (s', true)) :
    readings.bufferedBytes site ≤ limits.maxPendingBytesPerConnection ∧
      readings.expired site = false := by
  obtain ⟨-, hopen⟩ := canDeliver_granted hgranted
  by_cases hroom : readings.bufferedBytes site ≤ limits.maxPendingBytesPerConnection
  · refine ⟨hroom, ?_⟩
    by_contra hexpired
    rw [Bool.not_eq_false] at hexpired
    simp [ServerSubscription.canDeliver, checkStalled_room hroom, hopen, hexpired] at hgranted
  · have htorn : s.checkStalled limits readings site = s.teardown := by
      simp [ServerSubscription.checkStalled, hopen, hroom]
    simp [ServerSubscription.canDeliver, htorn, teardown_closed] at hgranted

/-- A frame in hand is transmitted: it is in flight then, or its reservation is released. -/
theorem Charges.transmit {frame : PendingFrame} (h : s.Charges base (frame.bytes :: extra))
    (hnone : s.HandsOver limits readings → s.inFlight = none) (hphase : s.phase ≠ .terminated) :
    (s.transmit limits readings frame).Charges base extra := by
  have hrelease : ∀ s : ServerSubscription, s.Charges base (frame.bytes :: extra) →
      Charges base extra { s with budget := s.budget.release frame.bytes } :=
    fun s h => ⟨h.charged.release, h.quiet⟩
  have hchecked : (s.canDeliver limits readings .transmit).1.Charges base (frame.bytes :: extra) :=
    (stable_charges base (frame.bytes :: extra)).canDeliver h
  unfold ServerSubscription.transmit
  split
  · case h_1 s' heq =>
      rw [heq] at hchecked
      exact hrelease s' hchecked
  · case h_2 s' heq =>
      obtain ⟨hsame, hopen⟩ := canDeliver_granted heq
      rw [hsame]
      split
      · exact (hrelease s h).attemptFailed.charges
      · case isFalse hsequence =>
          obtain ⟨hroom, hunexpired⟩ := readings_of_granted heq
          have hidle := hnone ⟨hopen, hroom, hunexpired, Nat.lt_of_not_le hsequence⟩
          rw [handOver_eq frame hopen]
          refine ⟨?_, fun hterminated => absurd hterminated hphase⟩
          apply h.charged.perm
          have hmove : (frame.bytes :: (extra ++ s.queue.map PendingFrame.bytes)).Perm
              (extra ++ s.queue.map PendingFrame.bytes ++ [frame.bytes]) :=
            (List.perm_append_singleton _ _).symm
          simpa [ServerSubscription.heldSizes, hidle] using hmove

theorem Charges.pump (h : s.Charges base extra) :
    (s.pump limits readings).Charges base extra := by
  unfold ServerSubscription.pump
  split
  · exact h
  · case isFalse hidle =>
      have hnone : s.inFlight = none := by simpa using hidle
      split
      · exact h
      · case isFalse hsending =>
          split
          · exact h
          · case h_2 next rest hqueue =>
              have hphase : s.phase ≠ .terminated := by
                intro hterminated
                apply hsending
                rw [hterminated]
                simp
              have hloaded : Charges base (next.bytes :: extra) { s with queue := rest } := by
                refine ⟨?_, fun hterminated => absurd hterminated hphase⟩
                apply h.charged.perm
                simp [ServerSubscription.heldSizes, hqueue, hnone, List.perm_middle]
              exact hloaded.transmit (fun _ => hnone) hphase

theorem Charges.goLive (h : s.Charges base extra) :
    (s.goLive limits readings).Charges base extra := by
  unfold ServerSubscription.goLive
  apply Charges.pump
  apply (stable_charges base extra).sendState
  exact h.of_eq rfl fun hterminated => by cases hterminated

theorem capturing_running (h : s.capturing = true) : s.phase ≠ .terminated := by
  intro hterminated
  simp [ServerSubscription.capturing, hterminated] at h

theorem Charges.admitFrame {frame : PendingFrame} (h : s.Charges base extra) :
    (s.admitFrame limits readings frame).1.Charges base extra := by
  have hrecorded : ∀ result, (s.emit (.admitted s.epoch frame result)).Charges base extra :=
    fun result => h.of_eq rfl id
  unfold ServerSubscription.admitFrame
  split
  · exact hrecorded .inactive
  · case isFalse hcapturing =>
      split
      · exact hrecorded .filtered
      · split
        · exact (hrecorded .overflow).attemptFailed.charges
        · case h_2 budget hreserve =>
            have hkept : s.capturing = true := by simpa using hcapturing
            apply Charges.pump
            refine ⟨?_, fun hterminated => absurd hterminated (capturing_running hkept)⟩
            have hcharged := h.charged.tryReserve hreserve
            apply hcharged.perm
            rw [List.perm_iff_count]
            intro size
            simp only [ServerSubscription.heldSizes, ServerSubscription.emit, List.map_append,
              List.map_cons, List.map_nil, List.count_cons, List.count_append, List.count_nil]
            omega

/-- The receipted frame's reservation is released. -/
theorem Charges.receipted {inFlight : InFlight} (h : s.Charges base extra)
    (hinFlight : s.inFlight = some inFlight) :
    (s.receipted inFlight).Charges base extra := by
  constructor
  · apply SubscriptionBudget.Charged.release
    apply h.charged.perm
    have hmove : (extra ++ s.queue.map PendingFrame.bytes ++ [inFlight.frame.bytes]).Perm
        (inFlight.frame.bytes :: (extra ++ s.queue.map PendingFrame.bytes)) :=
      List.perm_append_singleton _ _
    simpa [ServerSubscription.heldSizes, ServerSubscription.receipted, hinFlight] using hmove
  · intro hterminated
    have hheld := h.quiet hterminated
    simp [ServerSubscription.heldSizes, hinFlight] at hheld

theorem Charges.beginDrain (h : s.Charges base extra) : s.beginDrain.Charges base extra := by
  have hboundary : ∀ frame : PendingFrame, (!decide (s.snapshotRevision.getD 0 < frame.revision)) =
      decide (frame.revision ≤ s.snapshotRevision.getD 0) := by
    intro frame
    rw [← decide_not, decide_eq_decide]
    exact not_lt
  have hsplit : (s.queue.filter (s.snapshotRevision.getD 0 < ·.revision) ++
      s.queue.filter (·.revision ≤ s.snapshotRevision.getD 0)).Perm s.queue := by
    have hperm := List.filter_append_perm
      (fun frame : PendingFrame => s.snapshotRevision.getD 0 < frame.revision) s.queue
    simpa only [hboundary] using hperm
  refine ⟨?_, fun hterminated => by cases hterminated⟩
  apply SubscriptionBudget.Charged.releaseAll_append
  apply h.charged.perm
  have hsizes := hsplit.symm.map PendingFrame.bytes
  rw [List.map_append] at hsizes
  refine ((hsizes.append_right _).append_left extra).trans ?_
  rw [List.perm_iff_count]
  intro size
  simp only [ServerSubscription.heldSizes, ServerSubscription.beginDrain, ServerSubscription.enter,
    ServerSubscription.emit, List.count_append]
  omega

theorem Charges.onReceipt {epoch : Epoch} {sequence : ℕ} (h : s.Charges base extra) :
    (s.onReceipt limits readings epoch sequence).Charges base extra := by
  have hviolation : (s.protocolViolation limits readings).Charges base extra :=
    h.protocolViolation.charges
  unfold ServerSubscription.onReceipt
  split
  · exact h
  · split
    · split
      · exact h
      · exact hviolation
    · case h_2 inFlight hinFlight =>
        have hfreed := h.receipted hinFlight
        split
        · split
          · exact h
          · exact hviolation
        · split
          · exact hviolation
          · dsimp only
            split
            · have hdrain := hfreed.beginDrain
              split
              · exact hdrain.goLive
              · exact hdrain.pump
            · split
              · have hcount : (s.receipted inFlight).countDown.Charges base extra :=
                  hfreed.of_eq rfl id
                split
                · exact hcount.goLive
                · exact hcount.pump
              · exact hfreed.pump

theorem Charges.beginAttempt {announce : Bool} (h : s.Charges base extra) :
    (s.beginAttempt limits readings announce).Charges base extra := by
  have hstable := stable_discharged base extra
  have hbegun : ((s.invalidate.countAttempt 1).enter .authorizing).Discharged base extra :=
    h.invalidate.of_eq rfl
  have hannounced : (((s.invalidate.countAttempt 1).enter .authorizing).announceAttempt limits
      readings announce).Discharged base extra := by
    unfold announceAttempt
    split
    · exact hstable.sendState hbegun
    · exact hstable.publish _ _ hbegun
  unfold ServerSubscription.beginAttempt callAuthorize
  dsimp only
  apply Discharged.charges
  split
  · exact hannounced.of_eq rfl
  · exact hannounced.of_eq rfl

theorem Charges.awaitAuthorized {generation : ℕ} {waiting : Await} {outcome : AuthorizeOutcome}
    {revoked : Bool} (h : s.Charges base extra) :
    (ServerSubscription.awaitAuthorized generation waiting
      (s.afterAuthorizeHandler limits readings generation outcome revoked)).Charges base extra := by
  suffices hafter :
      (s.afterAuthorizeHandler limits readings generation outcome revoked).1.Charges base extra by
    unfold ServerSubscription.awaitAuthorized
    split
    · exact hafter.of_eq rfl id
    · exact hafter
  unfold ServerSubscription.afterAuthorizeHandler
  split
  · exact h
  · cases outcome with
    | aborted => exact h
    | timeout => exact h.attemptFailed.charges
    | error => exact h.fail
    | denied => exact h.fail
    | allowed =>
        have hchecked : (s.canDeliver limits readings .authorize).1.Charges base extra :=
          (stable_charges base extra).canDeliver h
        dsimp only
        split
        · case h_1 s' heq =>
            rw [heq] at hchecked
            exact hchecked
        · case h_2 s' heq =>
            rw [heq] at hchecked
            split
            · exact hchecked.fail
            · exact hchecked

theorem Charges.afterAuthorized {generation : ℕ} (h : s.Charges base extra) :
    (s.afterAuthorized limits readings generation).Charges base extra := by
  have hstable := stable_charges base extra
  unfold ServerSubscription.afterAuthorized
  split
  · apply hstable.sendState
    exact h.of_eq rfl fun hterminated => by cases hterminated
  · have hsent : (sendState limits readings .synchronizing .synchronizing none { s with
        epoch := s.nextId, nextId := s.nextId + 1, sequence := 0 }).Charges base extra := by
      apply hstable.sendState
      exact h.of_eq rfl id
    exact hsent.of_eq rfl fun hterminated => by cases hterminated

theorem Charges.afterPermit {generation : ℕ} {acquired : Bool} (h : s.Charges base extra) :
    (s.afterPermit limits readings generation acquired).Charges base extra := by
  unfold ServerSubscription.afterPermit
  split
  · exact h
  · split
    · exact h.attemptFailed.charges
    · exact h.of_eq rfl id

theorem Charges.afterSnapshotHandler {generation : ℕ} {boundary : Option BoundaryId}
    {outcome : SnapshotOutcome} (h : s.Charges base extra) :
    (s.afterSnapshotHandler limits readings generation boundary outcome).Charges base extra := by
  unfold ServerSubscription.afterSnapshotHandler
  split
  · exact h
  · cases outcome with
    | aborted => exact h
    | timeout => exact h.attemptFailed.charges
    | error => exact h.fail
    | malformed => exact h.fail
    | ok snapshot =>
        dsimp only
        split
        · exact h.fail
        · split
          · exact h.attemptFailed.charges
          · split
            · exact h.attemptFailed.charges
            · exact h.of_eq rfl id

/-- Whether `#beginAttempt` gets, after its last check, as far as handing its snapshot over. -/
def SendsSnapshot (limits : Limits) (readings : Readings) (boundary : Option BoundaryId)
    (snapshot : Snapshot) (s : ServerSubscription) : Prop :=
  s.source.boundary = boundary ∧ snapshot.bytes ≤ limits.maxDataFrameBytes ∧
    (s.budget.tryReserve snapshot.bytes).isSome ∧ s.HandsOver limits readings

instance {boundary : Option BoundaryId} {snapshot : Snapshot} :
    Decidable (s.SendsSnapshot limits readings boundary snapshot) :=
  inferInstanceAs (Decidable (_ ∧ _ ∧ _ ∧ _))

theorem Charges.afterRechecked {channel : String} {channelVersion : ℕ}
    {boundary : Option BoundaryId} {snapshot : Snapshot} (h : s.Charges base extra)
    (hnone : s.SendsSnapshot limits readings boundary snapshot → s.inFlight = none) :
    (s.afterRechecked limits readings channel channelVersion boundary snapshot).Charges base
      extra := by
  unfold ServerSubscription.afterRechecked
  split
  · exact h.attemptFailed.charges
  · case isFalse hboundary =>
      split
      · exact h.fail
      · case isFalse hbytes =>
          split
          · exact h.attemptFailed.charges
          · case h_2 budget hreserve =>
              dsimp only
              apply Charges.transmit
              · exact ⟨h.charged.tryReserve hreserve, fun hterminated => by cases hterminated⟩
              · intro hover
                apply hnone
                refine ⟨not_not.mp hboundary, Nat.le_of_not_lt hbytes, ?_, hover⟩
                rw [hreserve]
                rfl
              · intro hterminated
                cases hterminated

end Operations

section Steps

variable {config : ServerConfig} {readings : Readings}

theorem Charges.onSourceUnavailable {reason : ErrorCode} (h : s.Charges base extra) :
    (s.onSourceUnavailable config.limits readings reason).Charges base extra := by
  have hwaiting : (s.invalidate.enter .waitingSource).Discharged base extra := h.invalidate.of_eq rfl
  have hsent : ((s.invalidate.enter .waitingSource).sendState config.limits readings .unavailable
      .stale (some reason)).Discharged base extra :=
    (stable_discharged base extra).sendState hwaiting
  have hleft := hsent.charges
  unfold ServerSubscription.onSourceUnavailable
  split
  all_goals first
    | exact hleft
    | exact h

theorem Charges.onSourceReady (h : s.Charges base extra) :
    (s.onSourceReady config.limits readings).Charges base extra := by
  unfold ServerSubscription.onSourceReady
  split
  · exact h.beginAttempt
  · exact h

theorem Charges.setSourceStatus {status : SourceStatus} {reason : Option ErrorCode}
    (h : s.Charges base extra) :
    (s.setSourceStatus config.limits readings status reason).Charges base extra := by
  have hchanged : Charges base extra { s with source := s.source.setStatus status reason } :=
    h.of_eq rfl id
  unfold ServerSubscription.setSourceStatus sourceChanged
  split
  · exact h
  · split
    · exact hchanged
    · split
      · exact hchanged.onSourceUnavailable
      · split
        · exact hchanged.onSourceReady
        · exact hchanged

theorem Charges.requestResync (h : s.Charges base extra) :
    (s.requestResync config.limits readings).Charges base extra := by
  have hforgiven : Charges base extra { s with attempts := 0 } := h.of_eq rfl id
  unfold ServerSubscription.requestResync
  split
  · exact h.beginAttempt
  · exact h.beginAttempt
  · exact h.beginAttempt
  · exact hforgiven.beginAttempt
  · exact hforgiven.beginAttempt
  · exact h

theorem Charges.inbound {handle : ServerSubscription → ServerSubscription}
    (h : s.Charges base extra)
    (hhandle : ∀ s : ServerSubscription, s.Charges base extra → (handle s).Charges base extra) :
    (s.inbound config readings handle).Charges base extra := by
  have hchecked : (s.checkStalled config.limits readings .inbound).Charges base extra :=
    (stable_charges base extra).checkStalled h
  unfold ServerSubscription.inbound
  dsimp only
  split
  · exact hchecked
  · exact hhandle _ hchecked

/-- The snapshot of an attempt that waits there is handed over while a frame is in flight. -/
def OverwritesAt (limits : Limits) (readings : Readings) (s : ServerSubscription) :
    Option Await → Prop
  | some (.rechecked boundary snapshot) =>
      s.inFlight.isSome ∧ s.SendsSnapshot limits readings boundary snapshot
  | _ => False

instance decidableOverwritesAt {limits : Limits} : (waiting : Option Await) →
    Decidable (s.OverwritesAt limits readings waiting)
  | some (.rechecked _ _) => inferInstanceAs (Decidable (_ ∧ _))
  | none | some .authorizeHandler | some .authorized | some .permit | some (.snapshotHandler _)
  | some (.recheckHandler _ _) => .isFalse id

/-- Where the attempt waits that resumes on the word of an earlier `#authorize`. -/
def trusting (s : ServerSubscription) : ServerStep → Option Await
  | .resumeAuthorized index => s.pending[index]?.map Attempt.waiting
  | _ => none

/-- A resumption that hands a snapshot over while another frame is in flight; its attempt was
superseded after its last `#authorize`. -/
def Overwrites (config : ServerConfig) (s : ServerSubscription) (input : ServerInput) : Prop :=
  s.OverwritesAt config.limits input.readings (s.trusting input.step)

instance (input : ServerInput) : Decidable (s.Overwrites config input) :=
  inferInstanceAs (Decidable (s.OverwritesAt _ _ _))

theorem Charges.taken (h : s.Charges base extra) (index : ℕ) :
    (s.taken index).Charges base extra := h.of_eq rfl id

theorem Charges.resumeAuthorized {index : ℕ} (h : s.Charges base extra)
    (hkeeps : ¬s.Overwrites config ⟨.resumeAuthorized index, readings⟩) :
    (s.resume index (ServerSubscription.resumeAuthorized config readings)).Charges base extra := by
  apply resume_induction h
  intro attempt proceed hindex hproceed
  rcases resumeAuthorized_eq_some hproceed with ⟨hwaiting, rfl⟩ | ⟨boundary, snapshot, hwaiting, rfl⟩
  · exact (h.taken index).afterAuthorized
  · apply (h.taken index).afterRechecked
    intro hsends
    by_contra hflying
    apply hkeeps
    unfold Overwrites trusting
    dsimp only
    rw [hindex, Option.map_some, hwaiting]
    exact ⟨Option.isSome_iff_ne_none.mpr hflying, hsends⟩

/-- Every step of a subscription on its own that overwrites no frame in flight. -/
theorem Charges.step (h : s.Charges base extra) (action : ServerStep)
    (hown : ∀ connection gateway, action ≠ .elsewhere connection gateway)
    (hkeeps : ¬s.Overwrites config ⟨action, readings⟩) :
    (s.step config ⟨action, readings⟩).Charges base extra := by
  have hstable := stable_charges base extra
  unfold ServerSubscription.step
  cases action with
  | start =>
      dsimp only
      split
      · have hregistered : Charges base extra { s with registered := true } := h.of_eq rfl id
        exact hregistered.beginAttempt
      · exact h
  | admitFrame frame =>
      dsimp only
      split
      · exact h.admitFrame
      · exact h
  | receipt epoch sequence =>
      apply h.inbound
      intro s h
      apply Charges.onReceipt
      exact h.of_eq rfl id
  | resync =>
      apply h.inbound
      intro s h
      apply Charges.requestResync
      exact h.of_eq rfl id
  | unsubscribe =>
      apply h.inbound
      intro s h
      exact hstable.remove _ h.dispose
  | setSourceStatus status reason => exact h.setSourceStatus
  | setBoundary boundary => exact h.of_eq rfl id
  | revoke =>
      dsimp only
      split
      · exact h.fail
      · exact h
  | closeSession => exact hstable.teardown h
  | expire => exact hstable.expire _ false (hstable.teardown h)
  | receiptTimeout =>
      dsimp only
      split
      · apply hstable.teardown
        exact h.of_eq rfl id
      · exact h
  | retry =>
      dsimp only
      split
      · exact h
      · have hfired : Charges base extra { s with retryTimer := none } := h.of_eq rfl id
        split
        · exact hfired.beginAttempt
        · exact hfired
  | elsewhere connection gateway => exact absurd rfl (hown connection gateway)
  | callHandler index =>
      dsimp only
      unfold ServerSubscription.callHandler
      split
      · exact h
      · exact h.of_eq rfl id
  | resumeAuthorize index outcome revoked =>
      apply resume_induction h
      intro attempt proceed hindex hproceed
      obtain ⟨next, -, rfl⟩ := resumeAuthorize_eq_some hproceed
      exact (h.taken index).awaitAuthorized
  | resumeAuthorized index => exact h.resumeAuthorized hkeeps
  | resumePermit index acquired =>
      apply resume_induction h
      intro attempt proceed hindex hproceed
      obtain ⟨-, rfl⟩ := resumePermit_eq_some hproceed
      exact (h.taken index).afterPermit
  | resumeSnapshot index outcome =>
      apply resume_induction h
      intro attempt proceed hindex hproceed
      obtain ⟨boundary, -, rfl⟩ := resumeSnapshot_eq_some hproceed
      exact (h.taken index).afterSnapshotHandler

/-- A delivery is granted where a frame is handed over. -/
theorem canDeliver_of_handsOver {limits : Limits} (h : s.HandsOver limits readings) :
    s.canDeliver limits readings .transmit = (s, true) := by
  obtain ⟨hopen, hroom, hunexpired, -⟩ := h
  simp [ServerSubscription.canDeliver, checkStalled_room hroom, hopen, hunexpired]

theorem transmit_of_handsOver {limits : Limits} {frame : PendingFrame}
    (h : s.HandsOver limits readings) : s.transmit limits readings frame = s.handOver frame := by
  unfold ServerSubscription.transmit
  rw [canDeliver_of_handsOver h]
  dsimp only
  rw [if_neg (Nat.not_le.mpr h.2.2.2)]

/-- Where a snapshot is handed over while a frame is in flight, that frame's reservation is lost:
one frame more is charged than is held. -/
theorem frames_of_overwrites {input : ServerInput} (h : s.Charges base [])
    (hover : s.Overwrites config input) :
    (s.step config input).budget.frames =
      base.frames + (s.step config input).heldSizes.length + 1 := by
  obtain ⟨action, readings⟩ := input
  unfold Overwrites trusting at hover
  cases action with
  | resumeAuthorized index =>
      dsimp only at hover
      cases hindex : s.pending[index]? with
      | none =>
          rw [hindex] at hover
          exact hover.elim
      | some attempt =>
          rw [hindex, Option.map_some] at hover
          cases hwaiting : attempt.waiting with
          | rechecked boundary snapshot =>
              rw [hwaiting] at hover
              obtain ⟨hflying, hboundary, hbytes, hreserve, hover⟩ := hover
              obtain ⟨reserved, hreserve⟩ := Option.isSome_iff_exists.mp hreserve
              obtain ⟨flying, hflying⟩ := Option.isSome_iff_exists.mp hflying
              have hframes := h.charged.frames
              rw [List.nil_append] at hframes
              have hstep : s.step config ⟨.resumeAuthorized index, readings⟩ =
                  afterRechecked config.limits readings config.channel config.channelVersion
                    boundary snapshot (s.taken index) := by
                simp [ServerSubscription.step, resume, hindex, ServerSubscription.resumeAuthorized,
                  hwaiting]
              obtain ⟨-, -, -, -, hreserved⟩ := SubscriptionBudget.tryReserve_eq_some hreserve
              have htaken : (s.taken index).budget.tryReserve snapshot.bytes = some reserved :=
                hreserve
              have hboundaryTaken : (s.taken index).source.boundary = boundary := hboundary
              rw [hstep, ServerSubscription.afterRechecked, if_neg (not_not.mpr hboundaryTaken),
                if_neg (Nat.not_lt.mpr hbytes), htaken]
              dsimp only
              rw [transmit_of_handsOver, handOver_eq]
              · simp [ServerSubscription.heldSizes, hflying, hreserved, hframes, taken, enter, emit]
              · exact hover.1
              · exact hover
          | _ => rw [hwaiting] at hover; exact hover.elim
  | _ => exact hover.elim

end Steps

end ServerSubscription

end StreamOtter
