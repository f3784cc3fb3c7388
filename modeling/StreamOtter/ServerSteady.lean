import StreamOtter.ServerSends
import Mathlib.Data.List.Perm.Basic
import Mathlib.Data.List.Nodup

/-!
# The standing of a subscription between any two stretches

What every interleaving of stretches keeps, provided that an attempt resumed on the
word of an earlier `#authorize` still has the current generation: generations only
grow, an attempt or handler call of the current generation belongs to its phase, and
the reserved budget is that of the frames held.
-/

namespace StreamOtter

/-- The phases in which a frame may be in flight. -/
def Phase.sending : Phase → Bool
  | .snapshotSent | .draining | .live => true
  | _ => false

/-- The phase in which an attempt of the current generation waits at each place. -/
def Await.phase : Await → Phase
  | .authorizeHandler | .authorized => .authorizing
  | _ => .capturing

namespace ServerSubscription

/-- Every suspended attempt and due handler call has been superseded, no frame is held
and the budget holds only `extra`. -/
structure Dormant (extra : List ℕ) (floor : ℕ) (s : ServerSubscription) : Prop where
  attempts : ∀ attempt ∈ s.pending, attempt.generation < s.generation
  jobs : ∀ job ∈ s.jobs, job.generation < s.generation
  distinct : (s.pending.map Attempt.generation).Nodup
  queue : s.queue = []
  inFlight : s.inFlight = none
  holds : s.budget.Holds extra
  reached : floor ≤ s.generation

structure Steady (extra : List ℕ) (floor : ℕ) (s : ServerSubscription) : Prop where
  attempts : ∀ attempt ∈ s.pending, attempt.generation ≤ s.generation
  jobs : ∀ job ∈ s.jobs, job.generation ≤ s.generation
  distinct : (s.pending.map Attempt.generation).Nodup
  fits : ∀ attempt ∈ s.pending, attempt.generation = s.generation → s.phase = attempt.waiting.phase
  jobsFit : ∀ job ∈ s.jobs, job.generation = s.generation → s.phase ≠ .terminated
  flying : s.inFlight ≠ none → Phase.sending s.phase = true
  queued : s.queue ≠ [] → s.capturing = true
  holds : s.budget.Holds (extra ++ s.heldSizes)
  reached : floor ≤ s.generation

variable {s : ServerSubscription} {extra : List ℕ} {floor : ℕ}

theorem Dormant.steady (h : s.Dormant extra floor) : s.Steady extra floor where
  attempts := fun attempt hmem => Nat.le_of_lt (h.attempts attempt hmem)
  jobs := fun job hmem => Nat.le_of_lt (h.jobs job hmem)
  distinct := h.distinct
  fits := fun attempt hmem hcurrent => absurd hcurrent (Nat.ne_of_lt (h.attempts attempt hmem))
  jobsFit := fun job hmem hcurrent => absurd hcurrent (Nat.ne_of_lt (h.jobs job hmem))
  flying := fun hsome => absurd h.inFlight hsome
  queued := fun hnonempty => absurd h.queue hnonempty
  holds := by simpa [heldSizes, h.queue, h.inFlight] using h.holds
  reached := h.reached

theorem Steady.invalidate (h : s.Steady extra floor) : s.invalidate.Dormant extra floor where
  attempts := fun attempt hmem => Nat.lt_succ_of_le (h.attempts attempt hmem)
  jobs := fun job hmem => Nat.lt_succ_of_le (h.jobs job hmem)
  distinct := h.distinct
  queue := rfl
  inFlight := rfl
  holds := by
    have hperm : (s.heldSizes ++ extra).Perm (extra ++ s.heldSizes) := List.perm_append_comm
    exact (h.holds.perm hperm.symm).releaseAll_append
  reached := Nat.le_succ_of_le h.reached

/-- The fields that `Dormant` reads. -/
def reserves (s : ServerSubscription) :=
  (s.pending, s.jobs, s.generation, s.queue, s.inFlight, s.budget)

theorem Dormant.of_eq {s' : ServerSubscription} (h : s.Dormant extra floor)
    (hsame : s'.reserves = s.reserves) : s'.Dormant extra floor := by
  simp only [reserves, Prod.mk.injEq] at hsame
  obtain ⟨hpending, hjobs, hgeneration, hqueue, hinFlight, hbudget⟩ := hsame
  constructor
  · rw [hpending, hgeneration]; exact h.attempts
  · rw [hjobs, hgeneration]; exact h.jobs
  · rw [hpending]; exact h.distinct
  · rw [hqueue]; exact h.queue
  · rw [hinFlight]; exact h.inFlight
  · rw [hbudget]; exact h.holds
  · rw [hgeneration]; exact h.reached

theorem Steady.of_eq {s' : ServerSubscription} (h : s.Steady extra floor)
    (hsame : s'.reserves = s.reserves) (hphase : s'.phase = s.phase) : s'.Steady extra floor := by
  simp only [reserves, Prod.mk.injEq] at hsame
  obtain ⟨hpending, hjobs, hgeneration, hqueue, hinFlight, hbudget⟩ := hsame
  constructor
  · rw [hpending, hgeneration]; exact h.attempts
  · rw [hjobs, hgeneration]; exact h.jobs
  · rw [hpending]; exact h.distinct
  · rw [hpending, hgeneration, hphase]; exact h.fits
  · rw [hjobs, hgeneration, hphase]; exact h.jobsFit
  · rw [hinFlight, hphase]; exact h.flying
  · unfold capturing
    rw [hqueue, hphase]
    exact h.queued
  · unfold heldSizes
    rw [hbudget, hqueue, hinFlight]
    exact h.holds
  · rw [hgeneration]; exact h.reached

theorem Dormant.dispose (h : s.Dormant extra floor) : s.dispose.Dormant extra floor := by
  unfold ServerSubscription.dispose
  split
  · exact h
  · exact h.steady.invalidate.of_eq rfl

theorem Steady.dispose (h : s.Steady extra floor) : s.dispose.Steady extra floor := by
  unfold ServerSubscription.dispose
  split
  · exact h
  · apply Dormant.steady
    exact h.invalidate.of_eq rfl

theorem stable_dormant (extra : List ℕ) (floor : ℕ) : Stable (Dormant extra floor) where
  publish := fun _ _ h => h.of_eq rfl
  emit := fun _ _ _ h => h.of_eq rfl
  expire := fun _ _ h => h.of_eq rfl
  close := fun _ h => h.of_eq rfl
  dispose := fun _ h => h.dispose
  remove := fun _ h => h.of_eq rfl

theorem stable_steady (extra : List ℕ) (floor : ℕ) : Stable (Steady extra floor) where
  publish := fun _ _ h => h.of_eq rfl rfl
  emit := fun _ _ _ h => h.of_eq rfl rfl
  expire := fun _ _ h => h.of_eq rfl rfl
  close := fun _ h => h.of_eq rfl rfl
  dispose := fun _ h => h.dispose
  remove := fun _ h => h.of_eq rfl rfl

section Operations

variable {limits : Limits} {readings : Readings}

theorem Steady.attemptFailed {code : ErrorCode} (h : s.Steady extra floor) :
    (s.attemptFailed limits readings code).Dormant extra floor := by
  have hstable := stable_dormant extra floor
  have hbackoff : (s.invalidate.enter .backoff).Dormant extra floor := h.invalidate.of_eq rfl
  unfold ServerSubscription.attemptFailed
  dsimp only
  split
  · apply hstable.sendState
    apply hstable.sendError
    exact (hstable.sendState hbackoff).of_eq rfl
  · exact (hstable.sendState hbackoff).of_eq rfl

theorem Steady.protocolViolation (h : s.Steady extra floor) :
    (s.protocolViolation limits readings).Dormant extra floor :=
  Steady.attemptFailed ((stable_steady extra floor).sendError h)

theorem Steady.fail {code : ErrorCode} (h : s.Steady extra floor) :
    (s.fail limits readings code).Steady extra floor := by
  have hstable := stable_dormant extra floor
  unfold ServerSubscription.fail
  split
  · exact h
  · have hended : ((s.invalidate.enter .terminated).unregister.emit
        (.terminated s.epoch)).Dormant extra floor := h.invalidate.of_eq rfl
    dsimp only
    apply Dormant.steady
    apply hstable.remove
    apply hstable.sendState
    apply hstable.sendError
    exact hended

/-- Outside the authorization and capture phases no attempt is current. -/
theorem Steady.spent (h : s.Steady extra floor) (hauthorizing : s.phase ≠ .authorizing)
    (hcapturing : s.phase ≠ .capturing) :
    ∀ attempt ∈ s.pending, attempt.generation < s.generation := by
  intro attempt hmem
  apply Nat.lt_of_le_of_ne (h.attempts attempt hmem)
  intro hcurrent
  have hphase := h.fits attempt hmem hcurrent
  cases hwaiting : attempt.waiting <;> simp_all [Await.phase]

/-- A frame taken out of the queue, or reserved for a snapshot, is transmitted. -/
theorem Steady.transmit {frame : PendingFrame} (h : s.Steady (frame.bytes :: extra) floor)
    (hnone : s.inFlight = none) (hphase : Phase.sending s.phase = true) :
    (s.transmit limits readings frame).Steady extra floor := by
  have hrelease : ∀ s : ServerSubscription, s.Steady (frame.bytes :: extra) floor →
      Steady extra floor { s with budget := s.budget.release frame.bytes } := by
    intro s h
    exact ⟨h.attempts, h.jobs, h.distinct, h.fits, h.jobsFit, h.flying, h.queued, h.holds.release,
      h.reached⟩
  have hchecked : (s.canDeliver limits readings .transmit).1.Steady (frame.bytes :: extra) floor :=
    (stable_steady (frame.bytes :: extra) floor).canDeliver h
  unfold ServerSubscription.transmit
  split
  · case h_1 s' heq =>
      rw [heq] at hchecked
      exact hrelease s' hchecked
  · case h_2 s' heq =>
      obtain ⟨hsame, hopen⟩ := canDeliver_granted heq
      rw [hsame]
      split
      · exact (hrelease s h).attemptFailed.steady
      · rw [handOver_eq frame hopen]
        refine ⟨h.attempts, h.jobs, h.distinct, h.fits, h.jobsFit, fun _ => hphase, h.queued, ?_,
          h.reached⟩
        have hholds := h.holds
        simp only [heldSizes, hnone, Option.toList_none, List.map_nil, List.append_nil] at hholds
        apply hholds.perm
        have hmove : (frame.bytes :: (extra ++ s.queue.map PendingFrame.bytes)).Perm
            (extra ++ s.queue.map PendingFrame.bytes ++ [frame.bytes]) :=
          (List.perm_append_singleton _ _).symm
        simpa [heldSizes] using hmove

theorem Steady.pump (h : s.Steady extra floor) : (s.pump limits readings).Steady extra floor := by
  unfold ServerSubscription.pump
  split
  · exact h
  · case isFalse hidle =>
      split
      · exact h
      · case isFalse hsending =>
          have hnone : s.inFlight = none := by simpa using hidle
          have hphase : Phase.sending s.phase = true := by
            have hcase : s.phase = .draining ∨ s.phase = .live := by tauto
            rcases hcase with hcase | hcase <;> rw [hcase] <;> rfl
          split
          · exact h
          · case h_2 next rest hqueue =>
              have hloaded : Steady (next.bytes :: extra) floor { s with queue := rest } := by
                refine ⟨h.attempts, h.jobs, h.distinct, h.fits, h.jobsFit, h.flying, ?_, ?_, h.reached⟩
                · intro _
                  exact h.queued (by simp [hqueue])
                · apply h.holds.perm
                  simp [heldSizes, hqueue, hnone, List.perm_middle]
              exact hloaded.transmit hnone hphase

/-- A subscription leaves a phase of its own without a current attempt. -/
theorem Steady.enter (h : s.Steady extra floor) {phase : Phase} (hauthorizing : s.phase ≠ .authorizing)
    (hcapturing : s.phase ≠ .capturing) (hsending : Phase.sending phase = true) :
    (s.enter phase).Steady extra floor := by
  have hattempts := h.spent hauthorizing hcapturing
  constructor
  · exact h.attempts
  · exact h.jobs
  · exact h.distinct
  · intro attempt hmem hcurrent
    exact absurd hcurrent (Nat.ne_of_lt (hattempts attempt hmem))
  · intro job _ _ hterminated
    have hphase : phase = .terminated := hterminated
    rw [hphase] at hsending
    cases hsending
  · intro _
    exact hsending
  · intro _
    cases phase <;> simp_all [Phase.sending, ServerSubscription.enter, capturing]
  · exact h.holds
  · exact h.reached

theorem Steady.goLive (h : s.Steady extra floor) (hauthorizing : s.phase ≠ .authorizing)
    (hcapturing : s.phase ≠ .capturing) : (s.goLive limits readings).Steady extra floor := by
  have hlive : (s.enter .live).Steady extra floor := h.enter hauthorizing hcapturing rfl
  unfold ServerSubscription.goLive
  apply Steady.pump
  apply (stable_steady extra floor).sendState
  exact hlive.of_eq rfl rfl

theorem Steady.admitFrame {frame : PendingFrame} (h : s.Steady extra floor) :
    (s.admitFrame limits readings frame).1.Steady extra floor := by
  have hrecorded : ∀ result, (s.emit (.admitted s.epoch frame result)).Steady extra floor :=
    fun result => h.of_eq rfl rfl
  unfold ServerSubscription.admitFrame
  split
  · exact hrecorded .inactive
  · case isFalse hcapturing =>
      split
      · exact hrecorded .filtered
      · split
        · exact (hrecorded .overflow).attemptFailed.steady
        · case h_2 budget hreserve =>
            apply Steady.pump
            refine ⟨h.attempts, h.jobs, h.distinct, h.fits, h.jobsFit, h.flying, ?_, ?_, h.reached⟩
            · have hkept : s.capturing = true := by simpa using hcapturing
              exact fun _ => hkept
            · have hholds := h.holds.tryReserve hreserve
              apply hholds.perm
              have hmove : (extra ++ s.heldSizes ++ [frame.bytes]).Perm
                  (extra ++ (s.queue.map PendingFrame.bytes ++ [frame.bytes] ++
                    s.inFlight.toList.map (·.frame.bytes))) := by
                rw [List.append_assoc]
                apply List.Perm.append_left
                rw [heldSizes, List.append_assoc, List.append_assoc]
                apply List.Perm.append_left
                exact List.perm_append_comm
              simpa [heldSizes, ServerSubscription.emit] using hmove

/-- The receipted frame's reservation is released. -/
theorem Steady.receipted {inFlight : InFlight} (h : s.Steady extra floor)
    (hinFlight : s.inFlight = some inFlight) : (s.receipted inFlight).Steady extra floor := by
  have hholds : (s.budget.release inFlight.frame.bytes).Holds
      (extra ++ s.queue.map PendingFrame.bytes) := by
    apply SubscriptionBudget.Holds.release
    apply h.holds.perm
    have hmove : (extra ++ s.queue.map PendingFrame.bytes ++ [inFlight.frame.bytes]).Perm
        (inFlight.frame.bytes :: (extra ++ s.queue.map PendingFrame.bytes)) :=
      List.perm_append_singleton _ _
    simpa [heldSizes, hinFlight] using hmove
  refine ⟨h.attempts, h.jobs, h.distinct, h.fits, h.jobsFit, fun hsome => absurd rfl hsome,
    h.queued, ?_, h.reached⟩
  simpa [heldSizes, ServerSubscription.receipted] using hholds

theorem Steady.beginDrain (h : s.Steady extra floor) (hauthorizing : s.phase ≠ .authorizing)
    (hcapturing : s.phase ≠ .capturing) : s.beginDrain.Steady extra floor := by
  have hdraining : (s.enter .draining).Steady extra floor := h.enter hauthorizing hcapturing rfl
  refine ⟨hdraining.attempts, hdraining.jobs, hdraining.distinct, hdraining.fits,
    hdraining.jobsFit, hdraining.flying, fun _ => rfl, ?_, h.reached⟩
  have hboundary : ∀ frame : PendingFrame, (!decide (s.snapshotRevision.getD 0 < frame.revision)) =
      decide (frame.revision ≤ s.snapshotRevision.getD 0) := by
    intro frame
    rw [← decide_not, decide_eq_decide]
    exact not_lt
  have hsplit : (s.queue.filter (s.snapshotRevision.getD 0 < ·.revision) ++
      s.queue.filter (·.revision ≤ s.snapshotRevision.getD 0)).Perm s.queue := by
    have hperm := List.filter_append_perm
      (fun frame : PendingFrame => s.snapshotRevision.getD 0 < frame.revision) s.queue
    simpa only [hboundary] using hperm
  apply SubscriptionBudget.Holds.releaseAll_append
  apply h.holds.perm
  have hsizes := hsplit.symm.map PendingFrame.bytes
  rw [List.map_append] at hsizes
  refine ((hsizes.append_right _).append_left extra).trans ?_
  rw [List.perm_iff_count]
  intro size
  simp only [heldSizes, ServerSubscription.beginDrain, ServerSubscription.enter,
    ServerSubscription.emit, List.count_append]
  omega

theorem Steady.onReceipt {epoch : Epoch} {sequence : ℕ} (h : s.Steady extra floor) :
    (s.onReceipt limits readings epoch sequence).Steady extra floor := by
  have hviolation : (s.protocolViolation limits readings).Steady extra floor :=
    h.protocolViolation.steady
  unfold ServerSubscription.onReceipt
  split
  · exact h
  · split
    · split
      · exact h
      · exact hviolation
    · case h_2 inFlight hinFlight =>
        have hphase : Phase.sending s.phase = true := h.flying (by simp [hinFlight])
        have hauthorizing : s.phase ≠ .authorizing := by
          intro hcase
          rw [hcase] at hphase
          cases hphase
        have hcapturing : s.phase ≠ .capturing := by
          intro hcase
          rw [hcase] at hphase
          cases hphase
        have hfreed := h.receipted hinFlight
        split
        · split
          · exact h
          · exact hviolation
        · split
          · exact hviolation
          · dsimp only
            split
            · have hdrain := hfreed.beginDrain hauthorizing hcapturing
              have hdraining : (s.receipted inFlight).beginDrain.phase = .draining := rfl
              split
              · apply hdrain.goLive
                · rw [hdraining]; simp
                · rw [hdraining]; simp
              · exact hdrain.pump
            · split
              · have hcount : (s.receipted inFlight).countDown.Steady extra floor := hfreed.of_eq rfl rfl
                split
                · exact hcount.goLive hauthorizing hcapturing
                · exact hcount.pump
              · exact hfreed.pump

theorem Steady.suspend {generation : ℕ} {waiting : Await} (h : s.Steady extra floor)
    (hbound : generation ≤ s.generation)
    (hnew : ∀ other ∈ s.pending, other.generation ≠ generation)
    (hfits : generation = s.generation → s.phase = waiting.phase) :
    (s.suspend generation waiting).Steady extra floor := by
  have hmem : ∀ attempt ∈ (s.suspend generation waiting).pending,
      attempt ∈ s.pending ∨ attempt = ⟨generation, waiting⟩ := by
    intro attempt hattempt
    simpa [ServerSubscription.suspend] using hattempt
  constructor
  · intro attempt hattempt
    rcases hmem attempt hattempt with hattempt | rfl
    · exact h.attempts attempt hattempt
    · exact hbound
  · exact h.jobs
  · have hfresh : generation ∉ s.pending.map Attempt.generation := by
      intro hin
      obtain ⟨attempt, hattempt, hsame⟩ := List.mem_map.mp hin
      exact hnew attempt hattempt hsame
    show (List.map Attempt.generation (s.pending ++ [⟨generation, waiting⟩])).Nodup
    rw [List.map_append]
    exact List.Nodup.append h.distinct (by simp) (by simpa using hfresh)
  · intro attempt hattempt hcurrent
    rcases hmem attempt hattempt with hattempt | rfl
    · exact h.fits attempt hattempt hcurrent
    · exact hfits hcurrent
  · exact h.jobsFit
  · exact h.flying
  · exact h.queued
  · exact h.holds
  · exact h.reached

theorem Steady.invoke {generation : ℕ} {handler : Handler} (h : s.Steady extra floor)
    (hbound : generation ≤ s.generation)
    (hfits : generation = s.generation → s.phase ≠ .terminated) :
    (s.invoke generation handler).Steady extra floor := by
  have hmem : ∀ job ∈ (s.invoke generation handler).jobs,
      job ∈ s.jobs ∨ job = ⟨generation, handler⟩ := by
    intro job hjob
    simpa [ServerSubscription.invoke] using hjob
  constructor
  · exact h.attempts
  · intro job hjob
    rcases hmem job hjob with hjob | rfl
    · exact h.jobs job hjob
    · exact hbound
  · exact h.distinct
  · exact h.fits
  · intro job hjob hcurrent
    rcases hmem job hjob with hjob | rfl
    · exact h.jobsFit job hjob hcurrent
    · exact hfits hcurrent
  · exact h.flying
  · exact h.queued
  · exact h.holds
  · exact h.reached

/-- A subscription whose attempt of this generation is about to call `#authorize`. -/
structure Announced (extra : List ℕ) (floor generation : ℕ) (s : ServerSubscription) : Prop where
  dormant : s.Dormant extra floor
  newest : ∀ attempt ∈ s.pending, attempt.generation < generation
  bound : generation ≤ s.generation
  phase : s.generation = generation → s.phase = .authorizing

theorem stable_announced (extra : List ℕ) (floor generation : ℕ) :
    Stable (Announced extra floor generation) where
  publish := fun _ _ h => ⟨h.dormant.of_eq rfl, h.newest, h.bound, h.phase⟩
  emit := fun _ _ _ h => ⟨h.dormant.of_eq rfl, h.newest, h.bound, h.phase⟩
  expire := fun _ _ h => ⟨h.dormant.of_eq rfl, h.newest, h.bound, h.phase⟩
  close := fun _ h => ⟨h.dormant.of_eq rfl, h.newest, h.bound, h.phase⟩
  remove := fun _ h => ⟨h.dormant.of_eq rfl, h.newest, h.bound, h.phase⟩
  dispose := by
    intro s h
    have hdormant := h.dormant.dispose
    unfold ServerSubscription.dispose at hdormant ⊢
    split
    · exact h
    · case isFalse halive =>
        rw [if_neg halive] at hdormant
        refine ⟨hdormant, h.newest, Nat.le_succ_of_le h.bound, fun hsame => ?_⟩
        have hnext : s.generation + 1 = generation := hsame
        have hbound := h.bound
        omega

theorem Steady.beginAttempt {announce : Bool} (h : s.Steady extra floor) :
    (s.beginAttempt limits readings announce).Steady extra floor := by
  have hbegun : Announced extra floor s.invalidate.generation
      ((s.invalidate.countAttempt 1).enter .authorizing) :=
    ⟨h.invalidate.of_eq rfl, h.invalidate.attempts, Nat.le_refl _, fun _ => rfl⟩
  have hannounced : Announced extra floor s.invalidate.generation
      (((s.invalidate.countAttempt 1).enter .authorizing).announceAttempt limits readings
        announce) := by
    unfold announceAttempt
    split
    · exact (stable_announced extra floor _).sendState hbegun
    · exact (stable_announced extra floor _).publish _ _ hbegun
  unfold ServerSubscription.beginAttempt callAuthorize
  dsimp only
  split
  · case isTrue hcurrent =>
      have hphase := hannounced.phase hcurrent
      apply Steady.suspend
      · apply hannounced.dormant.steady.invoke hannounced.bound
        intro _
        rw [hphase]
        simp
      · exact hannounced.bound
      · intro other hmem
        exact Nat.ne_of_lt (hannounced.newest other hmem)
      · exact fun _ => hphase
  · case isFalse hstale =>
      apply hannounced.dormant.steady.suspend hannounced.bound
      · intro other hmem
        exact Nat.ne_of_lt (hannounced.newest other hmem)
      · exact fun hsame => absurd hsame.symm hstale

end Operations

end ServerSubscription

end StreamOtter
