import StreamOtter.ServerSteady

/-!
# Stale and fresh resumptions

`#beginAttempt` compares the generation again after its handler calls and its permit,
but not when `await this.#authorize(…)` resumes it.  A resumption there is fresh while
the attempt still has the current generation.
-/

namespace StreamOtter

namespace ServerSubscription

variable {s : ServerSubscription} {extra : List ℕ} {floor : ℕ}

section Resumptions

variable {limits : Limits} {readings : Readings} {generation : ℕ}

theorem Steady.taken (h : s.Steady extra floor) (index : ℕ) : (s.taken index).Steady extra floor where
  attempts := fun attempt hmem => h.attempts attempt (List.mem_of_mem_eraseIdx hmem)
  jobs := h.jobs
  distinct := h.distinct.sublist ((List.eraseIdx_sublist s.pending index).map _)
  fits := fun attempt hmem => h.fits attempt (List.mem_of_mem_eraseIdx hmem)
  jobsFit := h.jobsFit
  flying := h.flying
  queued := h.queued
  holds := h.holds
  reached := h.reached

theorem taken_distinct {attempt : Attempt} {index : ℕ}
    (hdistinct : (s.pending.map Attempt.generation).Nodup)
    (hindex : s.pending[index]? = some attempt) :
    ∀ other ∈ (s.taken index).pending, other.generation ≠ attempt.generation := by
  obtain ⟨hlt, hget⟩ := List.getElem?_eq_some_iff.mp hindex
  have hperm := List.getElem_cons_eraseIdx_perm hlt
  rw [hget] at hperm
  have hnodup : ((attempt :: s.pending.eraseIdx index).map Attempt.generation).Nodup :=
    (hperm.map Attempt.generation).nodup_iff.mpr hdistinct
  rw [List.map_cons, List.nodup_cons] at hnodup
  intro other hmem hsame
  exact hnodup.1 (List.mem_map.mpr ⟨other, hmem, hsame⟩)

theorem Steady.awaitAuthorized {outcome : AuthorizeOutcome} {revoked : Bool} {next : Await}
    (h : s.Steady extra floor) (hnew : ∀ other ∈ s.pending, other.generation ≠ generation)
    (hfits : generation = s.generation → s.phase = next.phase) :
    (awaitAuthorized generation next
      (s.afterAuthorizeHandler limits readings generation outcome revoked)).Steady extra floor := by
  have hrefused : ∀ s' : ServerSubscription, s'.Steady extra floor →
      (ServerSubscription.awaitAuthorized generation next (s', false)).Steady extra floor :=
    fun s' h => h
  unfold ServerSubscription.afterAuthorizeHandler
  split
  · exact hrefused s h
  · case isFalse hcurrent =>
      have hgeneration : generation = s.generation := not_not.mp hcurrent
      cases outcome with
      | aborted => exact hrefused s h
      | timeout => exact hrefused _ h.attemptFailed.steady
      | error => exact hrefused _ h.fail
      | denied => exact hrefused _ h.fail
      | allowed =>
          have hchecked : (s.canDeliver limits readings .authorize).1.Steady extra floor :=
            (stable_steady extra floor).canDeliver h
          dsimp only
          split
          · case h_1 s' heq =>
              rw [heq] at hchecked
              exact hrefused s' hchecked
          · case h_2 s' heq =>
              rw [(canDeliver_granted heq).1]
              cases revoked with
              | true => exact hrefused _ h.fail
              | false => exact h.suspend (Nat.le_of_eq hgeneration) hnew hfits

theorem Steady.afterPermit {acquired : Bool} (h : s.Steady extra floor)
    (hnew : ∀ other ∈ s.pending, other.generation ≠ generation)
    (hfits : generation = s.generation → s.phase = .capturing) :
    (s.afterPermit limits readings generation acquired).Steady extra floor := by
  unfold ServerSubscription.afterPermit
  split
  · exact h
  · case isFalse hcurrent =>
      have hgeneration : generation = s.generation := not_not.mp hcurrent
      have hphase := hfits hgeneration
      split
      · exact h.attemptFailed.steady
      · apply Steady.suspend
        · exact h.invoke (Nat.le_of_eq hgeneration) fun _ => by rw [hphase]; simp
        · exact Nat.le_of_eq hgeneration
        · exact hnew
        · exact fun _ => hphase

theorem Steady.afterSnapshotHandler {boundary : Option BoundaryId} {outcome : SnapshotOutcome}
    (h : s.Steady extra floor) (hnew : ∀ other ∈ s.pending, other.generation ≠ generation)
    (hfits : generation = s.generation → s.phase = .capturing) :
    (s.afterSnapshotHandler limits readings generation boundary outcome).Steady extra floor := by
  unfold ServerSubscription.afterSnapshotHandler
  split
  · exact h
  · case isFalse hcurrent =>
      have hgeneration : generation = s.generation := not_not.mp hcurrent
      have hphase := hfits hgeneration
      cases outcome with
      | aborted => exact h
      | timeout => exact h.attemptFailed.steady
      | error => exact h.fail
      | malformed => exact h.fail
      | ok snapshot =>
          dsimp only
          split
          · exact h.fail
          · split
            · exact h.attemptFailed.steady
            · split
              · exact h.attemptFailed.steady
              · apply Steady.suspend
                · exact h.invoke (Nat.le_of_eq hgeneration) fun _ => by rw [hphase]; simp
                · exact Nat.le_of_eq hgeneration
                · exact hnew
                · exact fun _ => hphase

/-- A subscription whose attempt of this generation is announcing its epoch. -/
structure Announcing (extra : List ℕ) (floor generation : ℕ) (s : ServerSubscription) : Prop where
  newest : ∀ attempt ∈ s.pending, attempt.generation < generation
  bound : generation ≤ s.generation
  jobs : ∀ job ∈ s.jobs, job.generation ≤ s.generation
  distinct : (s.pending.map Attempt.generation).Nodup
  queue : s.queue = []
  inFlight : s.inFlight = none
  holds : s.budget.Holds extra
  reached : floor ≤ s.generation

theorem Announcing.dispose (h : s.Announcing extra floor generation) :
    s.dispose.Announcing extra floor generation := by
  unfold ServerSubscription.dispose
  split
  · exact h
  · refine ⟨h.newest, Nat.le_succ_of_le h.bound, ?_, h.distinct, rfl, rfl, ?_,
      Nat.le_succ_of_le h.reached⟩
    · intro job hmem
      exact Nat.le_succ_of_le (h.jobs job hmem)
    · have hheld : s.heldSizes = [] := by simp [heldSizes, h.queue, h.inFlight]
      show (s.budget.releaseAll s.heldSizes).Holds extra
      rw [hheld]
      exact h.holds

theorem stable_announcing (extra : List ℕ) (floor generation : ℕ) :
    Stable (Announcing extra floor generation) where
  publish := fun _ _ h => ⟨h.newest, h.bound, h.jobs, h.distinct, h.queue, h.inFlight, h.holds,
    h.reached⟩
  emit := fun _ _ _ h => ⟨h.newest, h.bound, h.jobs, h.distinct, h.queue, h.inFlight, h.holds,
    h.reached⟩
  expire := fun _ _ h => ⟨h.newest, h.bound, h.jobs, h.distinct, h.queue, h.inFlight, h.holds,
    h.reached⟩
  close := fun _ h => ⟨h.newest, h.bound, h.jobs, h.distinct, h.queue, h.inFlight, h.holds,
    h.reached⟩
  remove := fun _ h => ⟨h.newest, h.bound, h.jobs, h.distinct, h.queue, h.inFlight, h.holds,
    h.reached⟩
  dispose := fun _ h => h.dispose

/-- An announced epoch may enter any phase that is not the last. -/
theorem Announcing.steady (h : s.Announcing extra floor generation) (hphase : s.phase ≠ .terminated) :
    s.Steady extra floor where
  attempts := fun attempt hmem =>
    Nat.le_of_lt (Nat.lt_of_lt_of_le (h.newest attempt hmem) h.bound)
  jobs := h.jobs
  distinct := h.distinct
  fits := fun attempt hmem hcurrent =>
    absurd hcurrent (Nat.ne_of_lt (Nat.lt_of_lt_of_le (h.newest attempt hmem) h.bound))
  jobsFit := fun _ _ _ => hphase
  flying := fun hsome => absurd h.inFlight hsome
  queued := fun hnonempty => absurd h.queue hnonempty
  holds := by simpa [heldSizes, h.queue, h.inFlight] using h.holds
  reached := h.reached

/-- The epoch's announcement may find the client stalled; the capture then goes on with an
attempt that was superseded meanwhile. -/
theorem Steady.afterAuthorized (h : s.Steady extra floor) (hcurrent : generation = s.generation)
    (hnew : ∀ other ∈ s.pending, other.generation ≠ generation) (hphase : s.phase = .authorizing) :
    (s.afterAuthorized limits readings generation).Steady extra floor := by
  have hspent : ∀ attempt ∈ s.pending, attempt.generation < generation := by
    intro attempt hmem
    apply Nat.lt_of_le_of_ne _ (hnew attempt hmem)
    rw [hcurrent]
    exact h.attempts attempt hmem
  have hqueue : s.queue = [] := by
    by_contra hnonempty
    have hcapturing := h.queued hnonempty
    simp [capturing, hphase] at hcapturing
  have hnone : s.inFlight = none := by
    by_contra hsome
    have hsending := h.flying hsome
    rw [hphase] at hsending
    cases hsending
  have hholds : s.budget.Holds extra := by
    simpa [heldSizes, hqueue, hnone] using h.holds
  have hannouncing : s.Announcing extra floor generation :=
    ⟨hspent, Nat.le_of_eq hcurrent, h.jobs, h.distinct, hqueue, hnone, hholds, h.reached⟩
  unfold ServerSubscription.afterAuthorized
  split
  · apply (stable_steady extra floor).sendState
    have hwaiting : ((s.countAttempt (-1)).enter .waitingSource).Announcing extra floor generation :=
      ⟨hspent, Nat.le_of_eq hcurrent, h.jobs, h.distinct, hqueue, hnone, hholds, h.reached⟩
    exact hwaiting.steady (by simp [ServerSubscription.enter])
  · have hepoch : Announcing extra floor generation { s with
        epoch := s.nextId, nextId := s.nextId + 1, sequence := 0 } :=
      ⟨hspent, Nat.le_of_eq hcurrent, h.jobs, h.distinct, hqueue, hnone, hholds, h.reached⟩
    have hsent : (sendState limits readings .synchronizing .synchronizing none { s with
        epoch := s.nextId, nextId := s.nextId + 1, sequence := 0 }).Announcing extra floor generation :=
      (stable_announcing extra floor generation).sendState hepoch
    apply Steady.suspend
    · have hcapturing : Announcing extra floor generation { ServerSubscription.enter .capturing
          (sendState limits readings .synchronizing .synchronizing none { s with
            epoch := s.nextId, nextId := s.nextId + 1, sequence := 0 }) with routed := true } :=
        ⟨hsent.newest, hsent.bound, hsent.jobs, hsent.distinct, hsent.queue, hsent.inFlight,
          hsent.holds, hsent.reached⟩
      exact hcapturing.steady (by simp [ServerSubscription.enter])
    · exact hsent.bound
    · intro other hmem
      exact Nat.ne_of_lt (hsent.newest other hmem)
    · exact fun _ => rfl

theorem Steady.afterRechecked {channel : String} {channelVersion : ℕ}
    {boundary : Option BoundaryId} {snapshot : Snapshot} (h : s.Steady extra floor)
    (hspent : ∀ attempt ∈ s.pending, attempt.generation ≠ s.generation)
    (hphase : s.phase = .capturing) :
    (s.afterRechecked limits readings channel channelVersion boundary snapshot).Steady extra floor := by
  have hnone : s.inFlight = none := by
    by_contra hsome
    have hsending := h.flying hsome
    rw [hphase] at hsending
    cases hsending
  unfold ServerSubscription.afterRechecked
  split
  · exact h.attemptFailed.steady
  · split
    · exact h.fail
    · split
      · exact h.attemptFailed.steady
      · case h_2 budget hreserve =>
          apply Steady.transmit
          · constructor
            · exact h.attempts
            · exact h.jobs
            · exact h.distinct
            · intro attempt hmem hcurrent
              exact absurd hcurrent (hspent attempt hmem)
            · intro job _ _ hterminated
              have hne : Phase.snapshotSent ≠ .terminated := by simp
              exact hne hterminated
            · intro _
              rfl
            · intro _
              rfl
            · have hholds := h.holds.tryReserve hreserve
              apply hholds.perm
              exact List.perm_append_singleton _ _
            · exact h.reached
          · exact hnone
          · rfl

end Resumptions

/-- The attempt that an input resumes. -/
def resumed (s : ServerSubscription) : ServerStep → Option Attempt
  | .resumeAuthorize index _ _ | .resumeAuthorized index | .resumePermit index _
  | .resumeSnapshot index _ => s.pending[index]?
  | _ => none

/-- An attempt resumed on the word of an `#authorize` that returned earlier has the
current generation. -/
def Fresh (s : ServerSubscription) : ServerStep → Prop
  | .resumeAuthorized index =>
      ∀ attempt ∈ s.pending[index]?, attempt.waiting.afterAuthorize = true →
        attempt.generation = s.generation
  | _ => True

instance decidableFresh (s : ServerSubscription) :
    (action : ServerStep) → Decidable (s.Fresh action)
  | .resumeAuthorized index =>
      inferInstanceAs (Decidable (∀ attempt ∈ s.pending[index]?, _))
  | .resumeAuthorize _ _ _ | .resumePermit _ _ | .resumeSnapshot _ _ | .start | .admitFrame _
  | .receipt _ _ | .resync | .unsubscribe | .setSourceStatus _ _ | .setBoundary _ | .revoke
  | .closeSession | .expire | .receiptTimeout | .retry | .elsewhere _ _ | .callHandler _ =>
      .isTrue trivial

section Steps

variable {config : ServerConfig} {readings : Readings}

theorem Steady.callHandler (h : s.Steady extra floor) (index : ℕ) :
    (s.callHandler index).Steady extra floor := by
  unfold ServerSubscription.callHandler
  split
  · exact h
  · constructor
    · exact h.attempts
    · intro job hmem
      exact h.jobs job (List.mem_of_mem_eraseIdx hmem)
    · exact h.distinct
    · exact h.fits
    · intro job hmem
      exact h.jobsFit job (List.mem_of_mem_eraseIdx hmem)
    · exact h.flying
    · exact h.queued
    · exact h.holds
    · exact h.reached

theorem Steady.onSourceUnavailable {reason : ErrorCode} (h : s.Steady extra floor) :
    (s.onSourceUnavailable config.limits readings reason).Steady extra floor := by
  have hwaiting : (s.invalidate.enter .waitingSource).Steady extra floor := by
    apply Dormant.steady
    exact h.invalidate.of_eq rfl
  unfold ServerSubscription.onSourceUnavailable
  split
  all_goals first
    | exact (stable_steady extra floor).sendState hwaiting
    | exact h

theorem Steady.onSourceReady (h : s.Steady extra floor) :
    (s.onSourceReady config.limits readings).Steady extra floor := by
  unfold ServerSubscription.onSourceReady
  split
  · exact h.beginAttempt
  · exact h

theorem Steady.setSourceStatus {status : SourceStatus} {reason : Option ErrorCode}
    (h : s.Steady extra floor) :
    (s.setSourceStatus config.limits readings status reason).Steady extra floor := by
  have hchanged : Steady extra floor { s with source := s.source.setStatus status reason } :=
    h.of_eq rfl rfl
  unfold ServerSubscription.setSourceStatus sourceChanged
  split
  · exact h
  · split
    · exact hchanged
    · split
      · exact hchanged.onSourceUnavailable
      · split
        · exact hchanged.onSourceReady
        · exact hchanged

theorem Steady.requestResync (h : s.Steady extra floor) :
    (s.requestResync config.limits readings).Steady extra floor := by
  have hforgiven : Steady extra floor { s with attempts := 0 } := h.of_eq rfl rfl
  unfold ServerSubscription.requestResync
  split
  · exact h.beginAttempt
  · exact h.beginAttempt
  · exact h.beginAttempt
  · exact hforgiven.beginAttempt
  · exact hforgiven.beginAttempt
  · exact h

theorem Steady.inbound {handle : ServerSubscription → ServerSubscription}
    (h : s.Steady extra floor)
    (hhandle : ∀ s : ServerSubscription, s.Steady extra floor → (handle s).Steady extra floor) :
    (s.inbound config readings handle).Steady extra floor := by
  have hchecked : (s.checkStalled config.limits readings .inbound).Steady extra floor :=
    (stable_steady extra floor).checkStalled h
  unfold ServerSubscription.inbound
  dsimp only
  split
  · exact hchecked
  · exact hhandle _ hchecked

/-- A fresh resumption on the word of `#authorize`. -/
theorem Steady.resumeAuthorized {index : ℕ} (h : s.Steady extra floor)
    (hfresh : s.Fresh (.resumeAuthorized index)) :
    (s.resume index (ServerSubscription.resumeAuthorized config readings)).Steady extra floor := by
  apply resume_induction h
  intro attempt proceed hindex hproceed
  have hmem : attempt ∈ s.pending := List.mem_of_getElem? hindex
  have hnew := taken_distinct h.distinct hindex
  rcases resumeAuthorized_eq_some hproceed with ⟨hwaiting, rfl⟩ | ⟨boundary, snapshot, hwaiting, rfl⟩
  · have hcurrent := hfresh attempt hindex (by rw [hwaiting]; rfl)
    apply (h.taken index).afterAuthorized hcurrent hnew
    have hphase := h.fits attempt hmem hcurrent
    rw [hwaiting] at hphase
    exact hphase
  · have hcurrent := hfresh attempt hindex (by rw [hwaiting]; rfl)
    apply (h.taken index).afterRechecked
    · intro other hother
      exact fun hsame => hnew other hother (hsame.trans hcurrent.symm)
    · have hphase := h.fits attempt hmem hcurrent
      rw [hwaiting] at hphase
      exact hphase

/-- Every step whose resumption, if any, is fresh. -/
theorem Steady.step (h : s.Steady extra floor) (action : ServerStep) (hfresh : s.Fresh action) :
    (s.step config ⟨action, readings⟩).Steady extra floor := by
  have hstable := stable_steady extra floor
  unfold ServerSubscription.step
  cases action with
  | start =>
      dsimp only
      split
      · have hregistered : Steady extra floor { s with registered := true } := h.of_eq rfl rfl
        exact hregistered.beginAttempt
      · exact h
  | admitFrame frame =>
      dsimp only
      split
      · exact h.admitFrame
      · exact h
  | receipt epoch sequence =>
      apply h.inbound
      intro s h
      apply Steady.onReceipt
      exact h.of_eq rfl rfl
  | resync =>
      apply h.inbound
      intro s h
      apply Steady.requestResync
      exact h.of_eq rfl rfl
  | unsubscribe =>
      apply h.inbound
      intro s h
      exact hstable.remove _ h.dispose
  | setSourceStatus status reason => exact h.setSourceStatus
  | setBoundary boundary => exact h.of_eq rfl rfl
  | revoke =>
      dsimp only
      split
      · exact h.fail
      · exact h
  | closeSession => exact hstable.teardown h
  | expire => exact hstable.expire _ false (hstable.teardown h)
  | receiptTimeout =>
      dsimp only
      split
      · apply hstable.teardown
        exact h.of_eq rfl rfl
      · exact h
  | retry =>
      dsimp only
      split
      · exact h
      · have hfired : Steady extra floor { s with retryTimer := none } := h.of_eq rfl rfl
        split
        · exact hfired.beginAttempt
        · exact hfired
  | elsewhere connection gateway =>
      exact ⟨h.attempts, h.jobs, h.distinct, h.fits, h.jobsFit, h.flying, h.queued,
        ⟨h.holds.frames, h.holds.used⟩, h.reached⟩
  | callHandler index => exact h.callHandler index
  | resumeAuthorize index outcome revoked =>
      apply resume_induction h
      intro attempt proceed hindex hproceed
      obtain ⟨next, hnext, rfl⟩ := resumeAuthorize_eq_some hproceed
      apply (h.taken index).awaitAuthorized (taken_distinct h.distinct hindex)
      intro hcurrent
      have hphase := h.fits attempt (List.mem_of_getElem? hindex) hcurrent
      generalize attempt.waiting = waiting at hnext hphase
      cases hnext <;> exact hphase
  | resumeAuthorized index => exact h.resumeAuthorized hfresh
  | resumePermit index acquired =>
      apply resume_induction h
      intro attempt proceed hindex hproceed
      obtain ⟨hwaiting, rfl⟩ := resumePermit_eq_some hproceed
      apply (h.taken index).afterPermit (taken_distinct h.distinct hindex)
      intro hcurrent
      have hphase := h.fits attempt (List.mem_of_getElem? hindex) hcurrent
      rw [hwaiting] at hphase
      exact hphase
  | resumeSnapshot index outcome =>
      apply resume_induction h
      intro attempt proceed hindex hproceed
      obtain ⟨boundary, hwaiting, rfl⟩ := resumeSnapshot_eq_some hproceed
      apply (h.taken index).afterSnapshotHandler (taken_distinct h.distinct hindex)
      intro hcurrent
      have hphase := h.fits attempt (List.mem_of_getElem? hindex) hcurrent
      rw [hwaiting] at hphase
      exact hphase

theorem initial_steady (budget : SubscriptionBudget) (source : SourceRuntime) :
    (initial budget source).Steady [] 0 := by
  constructor <;> simp [initial, heldSizes]
  exact ⟨rfl, rfl⟩

end Steps

end ServerSubscription

end StreamOtter
