import StreamOtter.ServerSends

/-!
# What one stretch does to the attempts

An operation that begins no attempt leaves the suspended ones alone, raises the generation or
leaves it, and only adds to the trace.  It leaves the counter of attempts, unless the
subscription goes live and the counter goes back to zero; it gives up only when the counter has
reached its maximum.
-/

namespace StreamOtter

def Observation.isLive : Observation → Bool
  | .state frame => frame.state = .live
  | _ => false

/-- The two frames by which a subscription gives up. -/
def Observation.givesUp : Observation → Bool
  | .state frame => frame.state = .resyncRequired
  | .error _ code => code = .resyncRequired
  | _ => false

namespace ServerSubscription

/-- Attempts and counter stay, and every new entry of the trace is one of `A`. -/
structure Calmly (A : Observation → Prop) (s s' : ServerSubscription) : Prop where
  pending : s'.pending = s.pending
  generation : s.generation ≤ s'.generation
  attempts : s'.attempts = s.attempts
  trace : ∃ new, s'.trace = s.trace ++ new ∧ ∀ o ∈ new, A o

variable {A B : Observation → Prop} {s s' s'' : ServerSubscription}

theorem Calmly.refl (s : ServerSubscription) : Calmly A s s :=
  ⟨rfl, Nat.le_refl _, rfl, [], (List.append_nil _).symm, fun _ h => by cases h⟩

theorem Calmly.trans (h : Calmly A s s') (h' : Calmly A s' s'') : Calmly A s s'' := by
  obtain ⟨new, htrace, hnew⟩ := h.trace
  obtain ⟨new', htrace', hnew'⟩ := h'.trace
  refine ⟨h'.pending.trans h.pending, Nat.le_trans h.generation h'.generation,
    h'.attempts.trans h.attempts, new ++ new', ?_, ?_⟩
  · rw [htrace', htrace, List.append_assoc]
  · intro o ho
    rcases List.mem_append.mp ho with hfirst | hsecond
    · exact hnew o hfirst
    · exact hnew' o hsecond

/-- A change of no other fields than those that are not read here. -/
theorem Calmly.of_eq {t t' : ServerSubscription} (h : Calmly A s t)
    (hpending : t'.pending = t.pending) (hgeneration : t.generation ≤ t'.generation)
    (hattempts : t'.attempts = t.attempts) (htrace : t'.trace = t.trace) : Calmly A s t' :=
  h.trans ⟨hpending, hgeneration, hattempts, [], by rw [htrace, List.append_nil],
    fun _ h => by cases h⟩

theorem Calmly.emit {t : ServerSubscription} (h : Calmly A s t) {o : Observation} (ho : A o) :
    Calmly A s (t.emit o) :=
  h.trans ⟨rfl, Nat.le_refl _, rfl, [o], rfl, fun _ hmem => List.mem_singleton.mp hmem ▸ ho⟩

section Sends

variable {t : ServerSubscription} {limits : Limits} {readings : Readings} {site : SendSite}
  (hended : ∀ epoch, A (.terminated epoch))

include hended

theorem Calmly.dispose (h : Calmly A s t) : Calmly A s t.dispose := by
  unfold ServerSubscription.dispose
  split
  · exact h
  · have hinvalidated : Calmly A s t.invalidate := h.of_eq rfl (Nat.le_succ _) rfl rfl
    have hclosed : Calmly A s ((t.invalidate.enter .terminated).publish .closed).unregister :=
      hinvalidated.of_eq rfl (Nat.le_refl _) rfl rfl
    exact hclosed.emit (hended _)

theorem Calmly.teardown (h : Calmly A s t) : Calmly A s t.teardown := by
  unfold ServerSubscription.teardown
  split
  · exact h
  · have hclosed : Calmly A s { t with sessionClosed := true } :=
      h.of_eq rfl (Nat.le_refl _) rfl rfl
    dsimp only
    split
    · exact (hclosed.dispose hended).of_eq rfl (Nat.le_refl _) rfl rfl
    · exact hclosed

theorem Calmly.checkStalled (h : Calmly A s t) :
    Calmly A s (t.checkStalled limits readings site) := by
  unfold ServerSubscription.checkStalled
  split
  · exact h
  · split
    · exact h
    · exact h.teardown hended

theorem Calmly.sendState {state : SubscriptionState} {reason : Option ErrorCode}
    (h : Calmly A s t) (hsent : ∀ epoch, A (.state ⟨epoch, state, reason⟩)) :
    Calmly A s (t.sendState limits readings site state reason) := by
  have hpublished : Calmly A s (t.publish state) := h.of_eq rfl (Nat.le_refl _) rfl rfl
  have hchecked : Calmly A s ((t.publish state).checkStalled limits readings site) :=
    hpublished.checkStalled hended
  unfold ServerSubscription.sendState
  dsimp only
  split
  · exact hchecked
  · exact hchecked.emit (hsent _)

theorem Calmly.sendError {code : ErrorCode} (h : Calmly A s t) (hsent : ∀ epoch, A (.error epoch code)) :
    Calmly A s (t.sendError limits readings site code) := by
  have hchecked : Calmly A s (t.checkStalled limits readings site) := h.checkStalled hended
  unfold ServerSubscription.sendError
  dsimp only
  split
  · exact hchecked
  · exact hchecked.emit (hsent _)

theorem Calmly.canDeliver (h : Calmly A s t) :
    Calmly A s (t.canDeliver limits readings site).1 := by
  have hchecked : Calmly A s (t.checkStalled limits readings site) := h.checkStalled hended
  unfold ServerSubscription.canDeliver
  dsimp only
  split
  · exact hchecked
  · split
    · exact hchecked.of_eq rfl (Nat.le_refl _) rfl rfl
    · exact hchecked

end Sends

/-- Entries other than that the subscription is live, or gives up before its counter allows. -/
def Ordinary (maximum attempts : ℤ) (o : Observation) : Prop :=
  o.isLive = false ∧ (o.givesUp = true → maximum ≤ attempts)

section Operations

variable {limits : Limits} {readings : Readings} {t : ServerSubscription} {maximum attempts : ℤ}

theorem Ordinary.plain {o : Observation} (hlive : o.isLive = false) (hkept : o.givesUp = false) :
    Ordinary maximum attempts o :=
  ⟨hlive, fun h => by rw [hkept] at h; cases h⟩

theorem ordinary_terminated (epoch : Epoch) : Ordinary maximum attempts (.terminated epoch) :=
  .plain rfl rfl

theorem Calmly.attemptFailed {code : ErrorCode}
    (h : Calmly (Ordinary limits.maxSyncAttempts attempts) s t) (hcounter : s.attempts = attempts) :
    Calmly (Ordinary limits.maxSyncAttempts attempts) s
      (t.attemptFailed limits readings code) := by
  have hinvalidated : Calmly (Ordinary limits.maxSyncAttempts attempts) s
      (t.invalidate.enter .backoff) := h.of_eq rfl (Nat.le_succ _) rfl rfl
  have hstale : Calmly (Ordinary limits.maxSyncAttempts attempts) s
      ((t.invalidate.enter .backoff).sendState limits readings .attemptStale .stale (some code)) :=
    hinvalidated.sendState ordinary_terminated fun _ => .plain rfl rfl
  unfold ServerSubscription.attemptFailed
  dsimp only
  split
  · case isTrue hexhausted =>
      have hgiven : limits.maxSyncAttempts ≤ attempts := by
        rw [← hcounter, ← hstale.attempts]
        exact hexhausted
      apply Calmly.sendState ordinary_terminated
      · apply Calmly.sendError ordinary_terminated
        · exact hstale.of_eq rfl (Nat.le_refl _) rfl rfl
        · exact fun _ => ⟨rfl, fun _ => hgiven⟩
      · exact fun _ => ⟨rfl, fun _ => hgiven⟩
  · exact hstale.of_eq rfl (Nat.le_refl _) rfl rfl

theorem Calmly.protocolViolation
    (h : Calmly (Ordinary limits.maxSyncAttempts attempts) s t) (hcounter : s.attempts = attempts) :
    Calmly (Ordinary limits.maxSyncAttempts attempts) s (t.protocolViolation limits readings) := by
  apply Calmly.attemptFailed _ hcounter
  exact h.sendError ordinary_terminated fun _ => .plain rfl rfl

theorem Calmly.fail {code : ErrorCode} (h : Calmly (Ordinary maximum attempts) s t)
    (hcode : code ≠ .resyncRequired) :
    Calmly (Ordinary maximum attempts) s (t.fail limits readings code) := by
  unfold ServerSubscription.fail
  split
  · exact h
  · have hinvalidated : Calmly (Ordinary maximum attempts) s
        (t.invalidate.enter .terminated).unregister := h.of_eq rfl (Nat.le_succ _) rfl rfl
    have hended : Calmly (Ordinary maximum attempts) s
        ((t.invalidate.enter .terminated).unregister.emit (.terminated t.epoch)) :=
      hinvalidated.emit (ordinary_terminated t.epoch)
    have herror : Calmly (Ordinary maximum attempts) s
        (((t.invalidate.enter .terminated).unregister.emit (.terminated t.epoch)).sendError limits
          readings .failError code) :=
      hended.sendError ordinary_terminated fun _ =>
        .plain rfl (by simp [Observation.givesUp, hcode])
    have hfailed : Calmly (Ordinary maximum attempts) s
        ((((t.invalidate.enter .terminated).unregister.emit (.terminated t.epoch)).sendError limits
          readings .failError code).sendState limits readings .failState .failed (some code)) :=
      herror.sendState ordinary_terminated fun _ => .plain rfl rfl
    exact hfailed.of_eq rfl (Nat.le_refl _) rfl rfl

theorem Calmly.transmit {frame : PendingFrame}
    (h : Calmly (Ordinary limits.maxSyncAttempts attempts) s t) (hcounter : s.attempts = attempts) :
    Calmly (Ordinary limits.maxSyncAttempts attempts) s (t.transmit limits readings frame) := by
  have hchecked : Calmly (Ordinary limits.maxSyncAttempts attempts) s
      (t.canDeliver limits readings .transmit).1 := h.canDeliver ordinary_terminated
  unfold ServerSubscription.transmit
  split
  · case h_1 t' heq =>
      rw [heq] at hchecked
      exact hchecked.of_eq rfl (Nat.le_refl _) rfl rfl
  · case h_2 t' heq =>
      rw [heq] at hchecked
      split
      · apply Calmly.attemptFailed _ hcounter
        exact hchecked.of_eq rfl (Nat.le_refl _) rfl rfl
      · obtain ⟨rfl, hopen⟩ := canDeliver_granted heq
        rw [handOver_eq frame hopen]
        exact hchecked.trans ⟨rfl, Nat.le_refl _, rfl, _, rfl, fun o ho =>
          List.mem_singleton.mp ho ▸ .plain rfl rfl⟩

theorem Calmly.pump (h : Calmly (Ordinary limits.maxSyncAttempts attempts) s t)
    (hcounter : s.attempts = attempts) :
    Calmly (Ordinary limits.maxSyncAttempts attempts) s (t.pump limits readings) := by
  unfold ServerSubscription.pump
  split
  · exact h
  · split
    · exact h
    · split
      · exact h
      · apply Calmly.transmit _ hcounter
        exact h.of_eq rfl (Nat.le_refl _) rfl rfl

theorem Calmly.admitFrame {frame : PendingFrame}
    (h : Calmly (Ordinary limits.maxSyncAttempts attempts) s t) (hcounter : s.attempts = attempts) :
    Calmly (Ordinary limits.maxSyncAttempts attempts) s
      (t.admitFrame limits readings frame).1 := by
  have hrecorded : ∀ result, Calmly (Ordinary limits.maxSyncAttempts attempts) s
      (t.emit (.admitted t.epoch frame result)) := fun result => h.emit (.plain rfl rfl)
  unfold ServerSubscription.admitFrame
  split
  · exact hrecorded .inactive
  · split
    · exact hrecorded .filtered
    · split
      · exact (hrecorded .overflow).attemptFailed hcounter
      · apply Calmly.pump _ hcounter
        apply Calmly.emit
        · exact h.of_eq rfl (Nat.le_refl _) rfl rfl
        · exact .plain rfl rfl

/-- What an operation does that begins no attempt. -/
structure Stretch (maximum : ℤ) (s s' : ServerSubscription) : Prop where
  pending : s'.pending = s.pending
  generation : s.generation ≤ s'.generation
  trace : ∃ new, s'.trace = s.trace ++ new ∧
    ((s'.attempts = s.attempts ∧ ∀ o ∈ new, o.isLive = false) ∨ s'.attempts = 0) ∧
    ∀ o ∈ new, o.givesUp = true → maximum ≤ s'.attempts

theorem Calmly.stretch (h : Calmly (Ordinary maximum s.attempts) s s') : Stretch maximum s s' := by
  obtain ⟨new, htrace, hnew⟩ := h.trace
  refine ⟨h.pending, h.generation, new, htrace, .inl ⟨h.attempts, fun o ho => (hnew o ho).1⟩, ?_⟩
  intro o ho hgives
  rw [h.attempts]
  exact (hnew o ho).2 hgives

/-- Going live forgives the attempts before. -/
theorem Calmly.goLive (h : Calmly (fun o => o.givesUp = false) s t) :
    Stretch limits.maxSyncAttempts s (t.goLive limits readings) := by
  set live : ServerSubscription := { t.enter .live with attempts := 0 }
  -- From the forgiven state on, the counter is zero.
  have hsent : Calmly (fun o => o.givesUp = true → limits.maxSyncAttempts ≤ 0) live
      (live.sendState limits readings .live .live none) :=
    (Calmly.refl live).sendState (fun _ h => by cases h) fun _ h => by cases h
  have hpumped : Calmly (Ordinary limits.maxSyncAttempts 0)
      (live.sendState limits readings .live .live none) (t.goLive limits readings) :=
    (Calmly.refl _).pump hsent.attempts
  obtain ⟨new, htrace, hnew⟩ := h.trace
  obtain ⟨new', htrace', hnew'⟩ := hsent.trace
  obtain ⟨new'', htrace'', hnew''⟩ := hpumped.trace
  have hcounter : (t.goLive limits readings).attempts = 0 := hpumped.attempts.trans hsent.attempts
  refine ⟨(hpumped.pending.trans hsent.pending).trans h.pending,
    Nat.le_trans h.generation (Nat.le_trans hsent.generation hpumped.generation), new ++ (new' ++ new''), ?_,
    .inr hcounter, ?_⟩
  · rw [htrace'', htrace', ← List.append_assoc, ← List.append_assoc, ← htrace]
    rfl
  · intro o ho hgives
    rw [hcounter]
    rcases List.mem_append.mp ho with hfirst | hrest
    · rw [hnew o hfirst] at hgives
      cases hgives
    · rcases List.mem_append.mp hrest with hsecond | hthird
      · exact hnew' o hsecond hgives
      · exact (hnew'' o hthird).2 hgives

theorem Calmly.onReceipt {epoch : Epoch} {sequence : ℕ} (h : Calmly (fun o => o.isLive = false ∧
      o.givesUp = false) s t) :
    Stretch limits.maxSyncAttempts s (t.onReceipt limits readings epoch sequence) := by
  have hordinary : ∀ {t : ServerSubscription},
      Calmly (fun o => o.isLive = false ∧ o.givesUp = false) s t →
      Calmly (Ordinary limits.maxSyncAttempts s.attempts) s t := by
    intro t h
    obtain ⟨new, htrace, hnew⟩ := h.trace
    exact ⟨h.pending, h.generation, h.attempts, new, htrace,
      fun o ho => .plain (hnew o ho).1 (hnew o ho).2⟩
  have hlively : ∀ {t : ServerSubscription},
      Calmly (fun o => o.isLive = false ∧ o.givesUp = false) s t →
      Calmly (fun o => o.givesUp = false) s t := by
    intro t h
    obtain ⟨new, htrace, hnew⟩ := h.trace
    exact ⟨h.pending, h.generation, h.attempts, new, htrace, fun o ho => (hnew o ho).2⟩
  have hviolation : Stretch limits.maxSyncAttempts s (t.protocolViolation limits readings) :=
    ((hordinary h).protocolViolation rfl).stretch
  unfold ServerSubscription.onReceipt
  split
  · exact (hordinary h).stretch
  · split
    · split
      · exact (hordinary h).stretch
      · exact hviolation
    · case h_2 inFlight hinFlight =>
        have hfreed : Calmly (fun o => o.isLive = false ∧ o.givesUp = false) s
            (t.receipted inFlight) := h.of_eq rfl (Nat.le_refl _) rfl rfl
        split
        · split
          · exact (hordinary h).stretch
          · exact hviolation
        · split
          · exact hviolation
          · dsimp only
            split
            · have hdrain : Calmly (fun o => o.isLive = false ∧ o.givesUp = false) s
                  (t.receipted inFlight).beginDrain :=
                hfreed.trans ⟨rfl, Nat.le_refl _, rfl, _, rfl,
                  fun _ hmem => List.mem_singleton.mp hmem ▸ ⟨rfl, rfl⟩⟩
              split
              · exact (hlively hdrain).goLive
              · exact ((hordinary hdrain).pump rfl).stretch
            · split
              · have hcount : Calmly (fun o => o.isLive = false ∧ o.givesUp = false) s
                    (t.receipted inFlight).countDown := hfreed.of_eq rfl (Nat.le_refl _) rfl rfl
                split
                · exact (hlively hcount).goLive
                · exact ((hordinary hcount).pump rfl).stretch
              · exact ((hordinary hfreed).pump rfl).stretch

/-- An attempt that is begun has a new generation and is counted. -/
structure Begins (s s' : ServerSubscription) : Prop where
  pending : s'.pending = s.pending ++ [⟨s.generation + 1, .authorizeHandler⟩]
  generation : s.generation + 1 ≤ s'.generation
  attempts : s'.attempts = s.attempts + 1
  trace : ∃ new, s'.trace = s.trace ++ new ∧ ∀ o ∈ new, o.isLive = false ∧ o.givesUp = false

theorem begins_beginAttempt {announce : Bool} :
    Begins s (s.beginAttempt limits readings announce) := by
  set begun := (s.invalidate.countAttempt 1).enter .authorizing
  have hannounced : Calmly (fun o => o.isLive = false ∧ o.givesUp = false) begun
      (begun.announceAttempt limits readings announce) := by
    unfold announceAttempt
    split
    · exact (Calmly.refl begun).sendState (fun _ => ⟨rfl, rfl⟩) fun _ => ⟨rfl, rfl⟩
    · exact (Calmly.refl begun).of_eq rfl (Nat.le_refl _) rfl rfl
  have hcalled : s.beginAttempt limits readings announce =
      (begun.announceAttempt limits readings announce).callAuthorize (s.generation + 1) := rfl
  rw [hcalled]
  unfold callAuthorize
  have hpending : (begun.announceAttempt limits readings announce).pending = s.pending :=
    hannounced.pending
  have hattempts : (begun.announceAttempt limits readings announce).attempts = s.attempts + 1 :=
    hannounced.attempts
  split
  · exact ⟨by rw [← hpending]; rfl, hannounced.generation, hattempts, hannounced.trace⟩
  · exact ⟨by rw [← hpending]; rfl, hannounced.generation, hattempts, hannounced.trace⟩

/-- What an attempt of this generation does when it resumes: it may be suspended again, and the
counter may change by some number. -/
structure Proceeds (A : Observation → Prop) (change : ℤ) (generation : ℕ) (next : Await → Prop)
    (s s' : ServerSubscription) : Prop where
  pending : ∃ suspended : Option Await, s'.pending =
    s.pending ++ suspended.toList.map (Attempt.mk generation) ∧ ∀ w ∈ suspended, next w
  generation : s.generation ≤ s'.generation
  attempts : s'.attempts = s.attempts + change
  trace : ∃ new, s'.trace = s.trace ++ new ∧ ∀ o ∈ new, A o

variable {generation : ℕ} {next : Await → Prop}

theorem Calmly.proceeds (h : Calmly A s s') : Proceeds A 0 generation next s s' where
  pending := ⟨none, by rw [h.pending]; exact (List.append_nil _).symm, fun _ h => by cases h⟩
  generation := h.generation
  attempts := by rw [h.attempts, Int.add_zero]
  trace := h.trace

/-- An attempt that is suspended again after some calm operation. -/
theorem Calmly.suspend (h : Calmly A s s') {waiting : Await} (hnext : next waiting) :
    Proceeds A 0 generation next s (s'.suspend generation waiting) where
  pending := by
    refine ⟨some waiting, ?_, ?_⟩
    · show s'.pending ++ [_] = _
      rw [h.pending]
      rfl
    · intro w hw
      obtain rfl := Option.some.inj hw
      exact hnext
  generation := h.generation
  attempts := by
    show s'.attempts = s.attempts + 0
    rw [h.attempts, Int.add_zero]
  trace := h.trace

theorem proceeds_awaitAuthorized {waiting : Await} {outcome : AuthorizeOutcome} {revoked : Bool} :
    Proceeds (Ordinary limits.maxSyncAttempts s.attempts) 0 generation (· = waiting) s
      (awaitAuthorized generation waiting
        (s.afterAuthorizeHandler limits readings generation outcome revoked)) := by
  have hrefl : Calmly (Ordinary limits.maxSyncAttempts s.attempts) s s := Calmly.refl s
  unfold ServerSubscription.afterAuthorizeHandler
  split
  · exact hrefl.proceeds
  · cases outcome with
    | aborted => exact hrefl.proceeds
    | timeout => exact (hrefl.attemptFailed rfl).proceeds
    | error => exact (hrefl.fail (by decide)).proceeds
    | denied => exact (hrefl.fail (by decide)).proceeds
    | allowed =>
        have hchecked : Calmly (Ordinary limits.maxSyncAttempts s.attempts) s
            (s.canDeliver limits readings .authorize).1 := hrefl.canDeliver ordinary_terminated
        dsimp only
        split
        · case h_1 s' heq =>
            rw [heq] at hchecked
            exact hchecked.proceeds
        · case h_2 s' heq =>
            rw [heq] at hchecked
            split
            · exact (hchecked.fail (by decide)).proceeds
            · exact hchecked.suspend rfl

theorem proceeds_afterPermit {acquired : Bool} :
    Proceeds (Ordinary limits.maxSyncAttempts s.attempts) 0 generation
      (fun w => generation = s.generation ∧ acquired = true ∧ ∃ boundary, w = .snapshotHandler boundary)
      s (s.afterPermit limits readings generation acquired) := by
  have hrefl : Calmly (Ordinary limits.maxSyncAttempts s.attempts) s s := Calmly.refl s
  unfold ServerSubscription.afterPermit
  split
  · exact hrefl.proceeds
  · case isFalse hcurrent =>
      split
      · exact (hrefl.attemptFailed rfl).proceeds
      · case isFalse hacquired =>
          have hinvoked : Calmly (Ordinary limits.maxSyncAttempts s.attempts) s
              (s.invoke generation .snapshot) := hrefl.of_eq rfl (Nat.le_refl _) rfl rfl
          exact hinvoked.suspend ⟨not_not.mp hcurrent, by simpa using hacquired, _, rfl⟩

theorem proceeds_afterSnapshotHandler {boundary : Option BoundaryId} {outcome : SnapshotOutcome} :
    Proceeds (Ordinary limits.maxSyncAttempts s.attempts) 0 generation
      (fun w => ∃ snapshot, w = .recheckHandler boundary snapshot) s
      (s.afterSnapshotHandler limits readings generation boundary outcome) := by
  have hrefl : Calmly (Ordinary limits.maxSyncAttempts s.attempts) s s := Calmly.refl s
  unfold ServerSubscription.afterSnapshotHandler
  split
  · exact hrefl.proceeds
  · cases outcome with
    | aborted => exact hrefl.proceeds
    | timeout => exact (hrefl.attemptFailed rfl).proceeds
    | error => exact (hrefl.fail (by decide)).proceeds
    | malformed => exact (hrefl.fail (by decide)).proceeds
    | ok snapshot =>
        dsimp only
        split
        · exact (hrefl.fail (by decide)).proceeds
        · split
          · exact (hrefl.attemptFailed rfl).proceeds
          · split
            · exact (hrefl.attemptFailed rfl).proceeds
            · have hinvoked : Calmly (Ordinary limits.maxSyncAttempts s.attempts) s
                  (s.invoke generation .authorize) := hrefl.of_eq rfl (Nat.le_refl _) rfl rfl
              exact hinvoked.suspend ⟨snapshot, rfl⟩

theorem calmly_afterRechecked {channel : String} {channelVersion : ℕ}
    {boundary : Option BoundaryId} {snapshot : Snapshot} :
    Calmly (Ordinary limits.maxSyncAttempts s.attempts) s
      (s.afterRechecked limits readings channel channelVersion boundary snapshot) := by
  have hrefl : Calmly (Ordinary limits.maxSyncAttempts s.attempts) s s := Calmly.refl s
  unfold ServerSubscription.afterRechecked
  split
  · exact hrefl.attemptFailed rfl
  · split
    · exact hrefl.fail (by decide)
    · split
      · exact hrefl.attemptFailed rfl
      · apply Calmly.transmit _ rfl
        apply Calmly.emit
        · exact hrefl.of_eq rfl (Nat.le_refl _) rfl rfl
        · exact .plain rfl rfl

/-- What an attempt does that resumes to find the source unavailable: it is taken back. -/
theorem proceeds_postponed (hunready : s.source.ready = false) :
    Proceeds (fun o => o.isLive = false ∧ o.givesUp = false) (-1) generation next s
      (s.afterAuthorized limits readings generation) := by
  have hcounted : Calmly (fun o => o.isLive = false ∧ o.givesUp = false)
      ((s.countAttempt (-1)).enter .waitingSource)
      (s.afterAuthorized limits readings generation) := by
    unfold ServerSubscription.afterAuthorized
    rw [if_pos (by rw [hunready]; rfl)]
    exact (Calmly.refl _).sendState (fun _ => ⟨rfl, rfl⟩) fun _ => ⟨rfl, rfl⟩
  exact ⟨⟨none, by rw [hcounted.pending]; exact (List.append_nil _).symm, fun _ h => by cases h⟩,
    hcounted.generation, hcounted.attempts, hcounted.trace⟩

theorem proceeds_afterAuthorized (hready : s.source.ready = true) :
    Proceeds (Ordinary limits.maxSyncAttempts s.attempts) 0 generation (· = .permit) s
      (s.afterAuthorized limits readings generation) := by
  unfold ServerSubscription.afterAuthorized
  rw [if_neg (by rw [hready]; decide)]
  dsimp only
  set announced : ServerSubscription :=
    { s with epoch := s.nextId, nextId := s.nextId + 1, sequence := 0 }
  have hannounced : Calmly (Ordinary limits.maxSyncAttempts s.attempts) s announced :=
    (Calmly.refl s).of_eq rfl (Nat.le_refl _) rfl rfl
  have hsent : Calmly (Ordinary limits.maxSyncAttempts s.attempts) s
      (announced.sendState limits readings .synchronizing .synchronizing none) :=
    hannounced.sendState ordinary_terminated fun _ => .plain rfl rfl
  refine Calmly.suspend ?_ rfl
  exact hsent.of_eq rfl (Nat.le_refl _) rfl rfl

end Operations

end ServerSubscription

end StreamOtter
