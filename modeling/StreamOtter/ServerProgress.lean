import StreamOtter.ServerInterruption

/-!
# Sending, receipts and the drain

How the frames of one epoch move from the queue into flight and on to the client,
from the snapshot over the drain boundary to live.
-/

namespace StreamOtter

namespace ServerSubscription

variable {s : ServerSubscription}

section Inert

variable {publicState : SubscriptionState} {attempts : ℤ} {retryTimer : Option ℕ}
  {receiptTimer : Bool} {budget : SubscriptionBudget} {held registered : Bool}
  {source : SourceRuntime} {pending : List Attempt} {jobs : List HandlerJob}

/-- The fields that no phase's condition reads. -/
def withInert (s : ServerSubscription) (publicState : SubscriptionState) (attempts : ℤ)
    (retryTimer : Option ℕ) (receiptTimer : Bool) (budget : SubscriptionBudget)
    (held registered : Bool) (source : SourceRuntime) (pending : List Attempt)
    (jobs : List HandlerJob) : ServerSubscription :=
  { s with
    publicState, attempts, retryTimer, receiptTimer, budget, held, registered, source, pending,
    jobs }

theorem Streaming.inert {sent : List PendingFrame} (h : s.Streaming sent) :
    (s.withInert publicState attempts retryTimer receiptTimer budget held registered source
      pending jobs).Streaming sent :=
  ⟨h.announced, h.data, h.sequence, h.inFlight, h.unreceipted, h.updates, h.sorted, h.tailBound,
    h.tailHeld, h.covered, h.routed, h.delivering, h.delivered⟩

theorem Progress.inert {snapshot : PendingFrame} {updates : List PendingFrame}
    (h : s.Progress snapshot updates) :
    (s.withInert publicState attempts retryTimer receiptTimer budget held registered source
      pending jobs).Progress snapshot updates :=
  ⟨h.streaming.inert, h.increasing, h.queued⟩

theorem Phased.inert (h : s.Phased) :
    (s.withInert publicState attempts retryTimer receiptTimer budget held registered source
      pending jobs).Phased := by
  have hphase : (s.withInert publicState attempts retryTimer receiptTimer budget held registered
      source pending jobs).phase = s.phase := rfl
  have hquiet : s.Quiet → (s.withInert publicState attempts retryTimer receiptTimer budget held
      registered source pending jobs).Quiet :=
    fun h => ⟨h.queue, h.inFlight, h.tail, h.unrouted, h.epochOver⟩
  unfold Phased at h ⊢
  rw [hphase]
  cases hcase : s.phase <;> simp only [hcase] at h ⊢
  case capturing => exact ⟨h.streaming.inert, h.inFlight, h.queued⟩
  case snapshotSent =>
    obtain ⟨snapshot, h⟩ := h
    exact ⟨snapshot, h.streaming.inert, h.inFlight, h.queued, h.revision⟩
  case draining =>
    obtain ⟨snapshot, updates, kept, h⟩ := h
    exact ⟨snapshot, updates, kept, h.progress.inert, h.inFlight, h.boundary, h.keptPrefix,
      h.remaining⟩
  case live =>
    obtain ⟨snapshot, updates, h⟩ := h
    exact ⟨snapshot, updates, h.progress.inert, h.flowing⟩
  all_goals exact hquiet h

theorem Open.inert (hopen : s.Open) :
    (s.withInert publicState attempts retryTimer receiptTimer budget held registered source
      s.pending s.jobs).Open where
  bookkeeping := hopen.bookkeeping.of_ledger rfl
  phased := hopen.phased.inert
  attempts := ⟨hopen.attempts.current, hopen.attempts.trusting, hopen.attempts.snapshotJobs⟩

end Inert

/-- `frame` is about to be handed over: it counts among the frames still held. -/
structure Sending (s : ServerSubscription) (sent : List PendingFrame) (frame : PendingFrame) :
    Prop where
  announced : (announced s.trace).getLast? = some s.epoch
  data : epochData s.epoch s.trace = numbered s.epoch sent
  sequence : s.sequence = sent.length
  unreceipted : unreceipted s.epoch s.trace = []
  updates : ∀ frame ∈ s.queue, frame.event.kind = .update
  sorted : s.queue.Pairwise (·.revision < ·.revision)
  tailBound :
    ∀ held ∈ sent ++ frame :: s.queue, ∃ tail, s.tail = some tail ∧ held.revision ≤ tail.revision
  tailHeld :
    ∀ tail, s.tail = some tail → ∃ held ∈ sent ++ frame :: s.queue, tail.revision = held.revision
  covered :
    ∀ admitted result, Observation.admitted s.epoch admitted result ∈ s.trace →
      ∃ held ∈ sent ++ frame :: s.queue, admitted.revision ≤ held.revision
  routed : s.routed = true
  delivering : ∀ revision, s.lastDelivered = some revision → revision ≤ frame.revision

variable {sent : List PendingFrame} {frame : PendingFrame}

theorem Sending.handOver (h : s.Sending sent frame) (hopen : s.sessionClosed = false) :
    (s.handOver frame).Streaming (sent ++ [frame]) := by
  rw [handOver_eq frame hopen]
  have hsame : ∀ queue : List PendingFrame,
      sent ++ [frame] ++ queue = sent ++ frame :: queue := by simp
  constructor
  · simpa using h.announced
  · simp only [epochData_append_data, if_true, numbered_concat, h.data, h.sequence]
  · simp [h.sequence]
  · intro inFlight hinFlight
    simp only [Option.some.injEq] at hinFlight
    subst hinFlight
    simp [h.sequence]
  · simp [unreceipted_append, unreceiptedStep, h.unreceipted]
  · exact h.updates
  · exact h.sorted
  · rw [hsame]; exact h.tailBound
  · rw [hsame]; exact h.tailHeld
  · intro admitted result hmem
    have hearlier : Observation.admitted s.epoch admitted result ∈ s.trace := by simpa using hmem
    rw [hsame]
    exact h.covered admitted result hearlier
  · exact h.routed
  · intro inFlight hinFlight revision hrevision
    simp only [Option.some.injEq] at hinFlight
    subst hinFlight
    exact h.delivering revision hrevision
  · intro hnone
    cases hnone

theorem Bookkeeping.handOver (hbook : s.Bookkeeping) (h : s.Sending sent frame)
    (hkind : frame.event.kind = .snapshot ↔ sent = [])
    (hnewer : ∀ earlier ∈ sent, earlier.revision < frame.revision)
    (hordered : ((sent ++ [frame]).tail.map PendingFrame.event).Sublist
      ((queuedFrames s.epoch s.trace).map PendingFrame.event)) :
    (s.handOver frame).Bookkeeping := by
  rw [handOver_eq frame hbook.sessionOpen]
  constructor
  · exact hbook.sessionOpen
  · exact hbook.unexpired
  · refine disciplined_append.mpr ⟨hbook.disciplined, h.announced, ?_, ?_, h.unreceipted, ?_⟩
    · simp [h.data, h.sequence]
    · rw [h.data]
      simpa [numbered] using hkind
    · intro earlier hearlier
      rw [h.data] at hearlier
      obtain ⟨held, hheld, hevent⟩ := mem_numbered hearlier
      rw [← hevent]
      exact hnewer held hheld
  · simpa using hbook.announcedFresh
  · exact hbook.epochFresh
  · intro epoch admitted result hmem
    have hearlier : Observation.admitted epoch admitted result ∈ s.trace := by simpa using hmem
    simpa using hbook.admittedAnnounced epoch admitted result hearlier
  · exact hbook.generations
  · exact hbook.distinct
  · intro epoch hmem hne
    exact (hbook.earlierOver epoch (by simpa using hmem) hne).append _
  · intro epoch
    dsimp only
    rw [queuedFrames_append_data, epochData_append_data]
    by_cases hepoch : s.epoch = epoch
    · subst hepoch
      have hevents : List.map DataFrame.event
          (numbered s.epoch sent ++ [⟨s.epoch, s.sequence + 1, frame.event⟩]) =
            (sent ++ [frame]).map PendingFrame.event := by simp
      rw [if_pos rfl, h.data, List.map_tail, hevents, ← List.map_tail]
      exact hordered
    · rw [if_neg hepoch, List.append_nil]
      exact hbook.ordered epoch
  · intro routed hmem
    exact hbook.calledRouted routed (by simpa using hmem)

section Sends

variable {limits : Limits} {readings : Readings}

/-- A transmission is refused, fails the attempt or hands the frame over. -/
theorem Bookkeeping.transmit (hbook : s.Bookkeeping) (hcalm : s.Calm)
    (hsent : (s.handOver frame).Open) : (s.transmit limits readings frame).Sound := by
  unfold ServerSubscription.transmit
  rcases canDeliver_cases limits readings .transmit hbook.disciplined
    with ⟨torn, htorn, heq⟩ | heq | ⟨-, heq⟩
  · rw [heq]
    exact .closed htorn.closed htorn.trace
  · rw [heq]
    exact .expired rfl hbook.disciplined hcalm.untrusting
  · rw [heq]
    dsimp only
    have hreleased : ServerSubscription.Bookkeeping
        { s with budget := s.budget.release frame.bytes } := hbook.of_ledger rfl
    split
    · exact hreleased.attemptFailed ⟨hcalm.untrusting, hcalm.jobs⟩
    · exact .opened hsent

/-- Once the snapshot was receipted, the front of the queue is the next frame to send. -/
theorem Progress.sending {snapshot next : PendingFrame} {updates rest : List PendingFrame}
    (h : s.Progress snapshot updates) (hqueue : s.queue = next :: rest)
    (hnone : s.inFlight = none) :
    Sending { s with queue := rest } (snapshot :: updates) next := by
  have hstream := h.streaming
  have hsent : ∀ earlier ∈ snapshot :: updates, earlier.revision < next.revision := by
    intro earlier hearlier
    have hincreasing := h.increasing
    rw [hqueue] at hincreasing
    exact (List.pairwise_append.mp hincreasing).2.2 earlier hearlier next List.mem_cons_self
  constructor
  · exact hstream.announced
  · exact hstream.data
  · exact hstream.sequence
  · simpa [hnone] using hstream.unreceipted
  · intro frame hmem
    exact hstream.updates frame (hqueue ▸ List.mem_cons_of_mem next hmem)
  · have hsorted := hstream.sorted
    rw [hqueue] at hsorted
    exact hsorted.tail
  · simpa only [hqueue] using hstream.tailBound
  · simpa only [hqueue] using hstream.tailHeld
  · simpa only [hqueue] using hstream.covered
  · exact hstream.routed
  · intro revision hrevision
    obtain ⟨last, hlast⟩ : ∃ last, (snapshot :: updates).getLast? = some last :=
      Option.isSome_iff_exists.mp (by simp)
    have hdelivered := hstream.delivered hnone last hlast
    have hsame : last.revision = revision := Option.some.inj (hdelivered.symm.trans hrevision)
    have hnewer := hsent last (List.mem_of_getLast? hlast)
    exact hsame ▸ hnewer.le

theorem Progress.handOver {snapshot next : PendingFrame} {updates rest : List PendingFrame}
    (h : s.Progress snapshot updates) (hqueue : s.queue = next :: rest)
    (hnone : s.inFlight = none) (hopen : s.sessionClosed = false) :
    ServerSubscription.Progress ({ s with queue := rest }.handOver next) snapshot
      (updates ++ [next]) := by
  have hstream := (h.sending hqueue hnone).handOver hopen
  rw [handOver_eq (s := { s with queue := rest }) next hopen] at hstream ⊢
  constructor
  · exact hstream
  · simpa [hqueue] using h.increasing
  · dsimp only
    rw [queuedFrames_append_data, h.queued, hqueue]
    simp

theorem Progress.bookkeeping_handOver {snapshot next : PendingFrame}
    {updates rest : List PendingFrame} (hbook : s.Bookkeeping) (h : s.Progress snapshot updates)
    (hqueue : s.queue = next :: rest) (hnone : s.inFlight = none) :
    ServerSubscription.Bookkeeping ({ s with queue := rest }.handOver next) := by
  have hrest : ServerSubscription.Bookkeeping { s with queue := rest } := hbook.of_ledger rfl
  refine hrest.handOver (h.sending hqueue hnone) ?_ ?_ ?_
  · have hkind := h.streaming.updates next (by simp [hqueue])
    simp [hkind]
  · have hincreasing := h.increasing
    rw [hqueue] at hincreasing
    intro earlier hearlier
    exact (List.pairwise_append.mp hincreasing).2.2 earlier hearlier next List.mem_cons_self
  · have hsub : (updates ++ [next]).Sublist (queuedFrames s.epoch s.trace) := by
      have hfilter : (updates ++ next :: rest).Sublist (queuedFrames s.epoch s.trace) := by
        rw [← hqueue, ← h.queued]
        exact List.filter_sublist
      refine List.Sublist.trans ?_ hfilter
      exact List.Sublist.append_left (List.singleton_sublist.mpr List.mem_cons_self) updates
    exact hsub.map PendingFrame.event

end Sends

section Emit

variable {o : Observation}

/-- An entry that no projection onto the current epoch reads. -/
structure Passive (s : ServerSubscription) (o : Observation) : Prop where
  announced : announced (s.trace ++ [o]) = announced s.trace
  data : epochData s.epoch (s.trace ++ [o]) = epochData s.epoch s.trace
  queued : queuedFrames s.epoch (s.trace ++ [o]) = queuedFrames s.epoch s.trace
  unreceipted : unreceipted s.epoch (s.trace ++ [o]) = unreceipted s.epoch s.trace
  admitted : ∀ epoch frame result, o ≠ .admitted epoch frame result

theorem passive_of_plain (ho : o.Plain)
    (hunreceipted : unreceipted s.epoch (s.trace ++ [o]) = unreceipted s.epoch s.trace) :
    s.Passive o where
  announced := announced_append_silent _ ho.silent
  data := epochData_append_silent _ _ ho.silent
  queued := queuedFrames_append_plain _ _ ho
  unreceipted := hunreceipted
  admitted := ho.ne_admitted

theorem Streaming.emit (h : s.Streaming sent) (ho : s.Passive o) : (s.emit o).Streaming sent where
  announced := ho.announced ▸ h.announced
  data := ho.data ▸ h.data
  sequence := h.sequence
  inFlight := h.inFlight
  unreceipted := ho.unreceipted ▸ h.unreceipted
  updates := h.updates
  sorted := h.sorted
  tailBound := h.tailBound
  tailHeld := h.tailHeld
  covered := by
    intro admitted result hmem
    rcases List.mem_append.mp hmem with hmem | hmem
    · exact h.covered admitted result hmem
    · exact absurd (List.mem_singleton.mp hmem).symm (ho.admitted _ admitted result)
  routed := h.routed
  delivering := h.delivering
  delivered := h.delivered

theorem Progress.emit {snapshot : PendingFrame} {updates : List PendingFrame}
    (h : s.Progress snapshot updates) (ho : s.Passive o) :
    (s.emit o).Progress snapshot updates where
  streaming := h.streaming.emit ho
  increasing := h.increasing
  queued := ho.queued ▸ h.queued

theorem Phased.emit (h : s.Phased) (hannounced : announced (s.trace ++ [o]) = announced s.trace)
    (hpassive : ∀ sent, s.Streaming sent → s.Passive o) : (s.emit o).Phased := by
  have hquiet : s.Quiet → (s.emit o).Quiet := by
    intro h
    refine ⟨h.queue, h.inFlight, h.tail, h.unrouted, fun hmem => ?_⟩
    exact (h.epochOver (hannounced ▸ hmem)).append [o]
  have hphase : (s.emit o).phase = s.phase := rfl
  unfold Phased at h ⊢
  rw [hphase]
  cases hcase : s.phase <;> simp only [hcase] at h ⊢
  case capturing =>
    have hpass := hpassive _ h.streaming
    exact ⟨h.streaming.emit hpass, h.inFlight, hpass.queued ▸ h.queued⟩
  case snapshotSent =>
    obtain ⟨snapshot, h⟩ := h
    have hpass := hpassive _ h.streaming
    exact ⟨snapshot, h.streaming.emit hpass, h.inFlight, hpass.queued ▸ h.queued, h.revision⟩
  case draining =>
    obtain ⟨snapshot, updates, kept, h⟩ := h
    have hpass := hpassive _ h.progress.streaming
    exact ⟨snapshot, updates, kept, h.progress.emit hpass, h.inFlight,
      List.mem_append_left _ h.boundary, h.keptPrefix, h.remaining⟩
  case live =>
    obtain ⟨snapshot, updates, h⟩ := h
    exact ⟨snapshot, updates, h.progress.emit (hpassive _ h.progress.streaming), h.flowing⟩
  all_goals exact hquiet h

theorem Open.emit (hopen : s.Open) (ho : o.Plain)
    (hunreceipted : ∀ sent, s.Streaming sent →
      unreceipted s.epoch (s.trace ++ [o]) = unreceipted s.epoch s.trace) : (s.emit o).Open where
  bookkeeping := hopen.bookkeeping.emit ho
  phased := hopen.phased.emit (announced_append_silent s.trace ho.silent)
    fun sent hstream => passive_of_plain ho (hunreceipted sent hstream)
  attempts := ⟨hopen.attempts.current, hopen.attempts.trusting, hopen.attempts.snapshotJobs⟩

end Emit

section Drain

variable {limits : Limits} {readings : Readings} {snapshot : PendingFrame}
  {updates kept : List PendingFrame}

/-- The snapshot was receipted and no frame is in flight. -/
structure Ready (s : ServerSubscription) (snapshot : PendingFrame)
    (updates : List PendingFrame) : Prop where
  bookkeeping : s.Bookkeeping
  calm : s.Calm
  spent : ∀ attempt ∈ s.pending, attempt.generation ≠ s.generation
  progress : s.Progress snapshot updates
  inFlight : s.inFlight = none

theorem pump_nil (hqueue : s.queue = []) : s.pump limits readings = s := by
  unfold ServerSubscription.pump
  rw [hqueue]
  simp

theorem pump_cons {next : PendingFrame} {rest : List PendingFrame} (hnone : s.inFlight = none)
    (hphase : s.phase = .draining ∨ s.phase = .live) (hqueue : s.queue = next :: rest) :
    s.pump limits readings = { s with queue := rest }.transmit limits readings next := by
  unfold ServerSubscription.pump
  have hidle : ¬ s.inFlight.isSome = true := by simp [hnone]
  have hsending : ¬ (s.phase ≠ .draining ∧ s.phase ≠ .live) := by tauto
  rw [if_neg hidle, if_neg hsending, hqueue]

theorem Ready.pump_live (h : s.Ready snapshot updates) (hphase : s.phase = .live) :
    (s.pump limits readings).Sound := by
  cases hqueue : s.queue with
  | nil =>
      rw [pump_nil hqueue]
      have hlive : s.Live snapshot updates := ⟨h.progress, fun _ => hqueue⟩
      exact .opened ⟨h.bookkeeping, hlive.phased hphase, h.calm.attempts h.spent⟩
  | cons next rest =>
      have hrest : ServerSubscription.Bookkeeping { s with queue := rest } :=
        h.bookkeeping.of_ledger rfl
      have hopen := h.bookkeeping.sessionOpen
      rw [pump_cons h.inFlight (.inr hphase) hqueue]
      refine hrest.transmit ⟨h.calm.untrusting, h.calm.jobs⟩ ?_
      have hprogress := h.progress.handOver hqueue h.inFlight hopen
      have hbook := h.progress.bookkeeping_handOver h.bookkeeping hqueue h.inFlight
      rw [handOver_eq (s := { s with queue := rest }) next hopen] at hprogress hbook ⊢
      refine ⟨hbook, ?_, Calm.attempts ⟨h.calm.untrusting, h.calm.jobs⟩ h.spent⟩
      exact Live.phased ⟨hprogress, by simp⟩ hphase

/-- While the drain boundary is not reached, the queue is not empty. -/
theorem Ready.pump_draining (h : s.Ready snapshot updates) (hphase : s.phase = .draining)
    (hboundary : Observation.drain s.epoch kept ∈ s.trace)
    (hkept : kept <+: updates ++ s.queue)
    (hremaining : s.drainRemaining + updates.length = kept.length)
    (hmore : s.drainRemaining ≠ 0) : (s.pump limits readings).Sound := by
  cases hqueue : s.queue with
  | nil =>
      have hlength := hkept.length_le
      rw [hqueue, List.append_nil] at hlength
      omega
  | cons next rest =>
      have hrest : ServerSubscription.Bookkeeping { s with queue := rest } :=
        h.bookkeeping.of_ledger rfl
      have hopen := h.bookkeeping.sessionOpen
      rw [pump_cons h.inFlight (.inl hphase) hqueue]
      refine hrest.transmit ⟨h.calm.untrusting, h.calm.jobs⟩ ?_
      have hprogress := h.progress.handOver hqueue h.inFlight hopen
      have hbook := h.progress.bookkeeping_handOver h.bookkeeping hqueue h.inFlight
      rw [handOver_eq (s := { s with queue := rest }) next hopen] at hprogress hbook ⊢
      refine ⟨hbook, ?_, Calm.attempts ⟨h.calm.untrusting, h.calm.jobs⟩ h.spent⟩
      have hdraining : ServerSubscription.Draining _ snapshot (updates ++ [next]) kept :=
        ⟨hprogress, by simp, by simp [hboundary], by simpa [hqueue] using hkept, by
          simp only [List.length_append, List.length_singleton]
          exact ⟨by omega, Nat.pos_of_ne_zero hmore⟩⟩
      exact hdraining.phased hphase

/-- Live is announced once the sent updates are exactly the drain boundary. -/
theorem Ready.goLive (h : s.Ready snapshot updates)
    (hboundary : Observation.drain s.epoch updates ∈ s.trace) :
    (s.goLive limits readings).Sound := by
  have hstream := h.progress.streaming
  unfold ServerSubscription.goLive
  rcases sendState_cases limits readings (s := { s.enter .live with
    attempts := 0 }) .live .live none h.bookkeeping.disciplined with hshut | heq
  · exact hshut.pump.sound
  · rw [heq]
    have hallowed : Allowed s.trace (.state ⟨s.epoch, .live, none⟩) := by
      refine ⟨hstream.announced, ?_, snapshot.event, updates, hboundary, ?_⟩
      · simpa [h.inFlight] using hstream.unreceipted
      · rw [hstream.data]
        simp
    have hbook := h.bookkeeping.emit_allowed hallowed (by simp) (by simp)
      (by simp) (by simp) (by simp)
    have hpassive : s.Passive (.state ⟨s.epoch, .live, none⟩) :=
      ⟨by simp, by simp, by simp, by simp [unreceipted_append, unreceiptedStep],
        by simp⟩
    have hprogress := h.progress.emit hpassive
    have hready : Ready (({ s.enter .live with attempts := 0 }.publish .live).emit
        (.state ⟨s.epoch, .live, none⟩)) snapshot updates :=
      ⟨hbook.of_ledger rfl, ⟨h.calm.untrusting, h.calm.jobs⟩, h.spent,
        ⟨⟨hprogress.streaming.announced, hprogress.streaming.data, hprogress.streaming.sequence,
          hprogress.streaming.inFlight, hprogress.streaming.unreceipted,
          hprogress.streaming.updates, hprogress.streaming.sorted, hprogress.streaming.tailBound,
          hprogress.streaming.tailHeld, hprogress.streaming.covered, hprogress.streaming.routed,
          hprogress.streaming.delivering, hprogress.streaming.delivered⟩,
          hprogress.increasing, hprogress.queued⟩, h.inFlight⟩
    exact hready.pump_live rfl

end Drain

end ServerSubscription

end StreamOtter
