import StreamOtter.ServerProgress

/-!
# Admitted frames and receipts

The two events that move frames: a routed update, and the client's confirmation of
the frame in flight.
-/

namespace StreamOtter

namespace ServerSubscription

variable {s : ServerSubscription} {limits : Limits} {readings : Readings}
  {sent : List PendingFrame} {frame : PendingFrame}

/-- Outside the authorization and capture phases no attempt is current. -/
theorem Open.spent (hopen : s.Open) (hauthorizing : s.phase ≠ .authorizing)
    (hcapturing : s.phase ≠ .capturing) :
    ∀ attempt ∈ s.pending, attempt.generation ≠ s.generation := by
  intro attempt hmem hcurrent
  have hfits := hopen.attempts.current attempt hmem hcurrent
  unfold Fits at hfits
  split at hfits
  · exact hauthorizing hfits
  · exact hauthorizing hfits
  · exact hcapturing hfits
  · exact hcapturing hfits
  · exact hcapturing hfits.1
  · exact hcapturing hfits.1

section Admission

theorem Bookkeeping.admitted (hbook : s.Bookkeeping)
    (hannounced : s.epoch ∈ StreamOtter.announced s.trace) (frame : PendingFrame)
    (result : AdmitResult) : (s.emit (.admitted s.epoch frame result)).Bookkeeping where
  sessionOpen := hbook.sessionOpen
  unexpired := hbook.unexpired
  disciplined := disciplined_append.mpr ⟨hbook.disciplined, trivial⟩
  announcedFresh := by simpa [ServerSubscription.emit] using hbook.announcedFresh
  epochFresh := hbook.epochFresh
  admittedAnnounced := by
    intro epoch admitted result' hmem
    rw [trace_emit, announced_append_admitted]
    rcases List.mem_append.mp hmem with h | h
    · exact hbook.admittedAnnounced epoch admitted result' h
    · simp only [List.mem_singleton, Observation.admitted.injEq] at h
      exact h.1 ▸ hannounced
  generations := hbook.generations
  distinct := hbook.distinct
  earlierOver := by
    intro epoch hepoch hne
    exact (hbook.earlierOver epoch (by simpa using hepoch) hne).append _
  ordered := by
    intro epoch
    rw [trace_emit, epochData_append_admitted, queuedFrames_append, List.map_append]
    exact (hbook.ordered epoch).trans (List.sublist_append_left _ _)
  calledRouted := by
    intro routed hmem
    exact hbook.calledRouted routed (by simpa using hmem)

theorem Streaming.epoch_announced (h : s.Streaming sent) :
    s.epoch ∈ StreamOtter.announced s.trace :=
  List.mem_of_getLast? h.announced

/-- A frame that something held or sent is at least as new as changes nothing. -/
theorem Streaming.filtered (h : s.Streaming sent) {result : AdmitResult}
    (hold : ∃ held ∈ sent ++ s.queue, frame.revision ≤ held.revision) :
    (s.emit (.admitted s.epoch frame result)).Streaming sent where
  announced := by simpa [ServerSubscription.emit] using h.announced
  data := by simpa [ServerSubscription.emit] using h.data
  sequence := h.sequence
  inFlight := h.inFlight
  unreceipted := by simpa [ServerSubscription.emit] using h.unreceipted
  updates := h.updates
  sorted := h.sorted
  tailBound := h.tailBound
  tailHeld := h.tailHeld
  covered := by
    intro admitted result' hmem
    rcases List.mem_append.mp hmem with hmem | hmem
    · exact h.covered admitted result' hmem
    · simp only [List.mem_singleton, Observation.admitted.injEq] at hmem
      rw [hmem.2.1]
      exact hold
  routed := h.routed
  delivering := h.delivering
  delivered := h.delivered

/-- The state in which an admitted frame is at the end of the queue. -/
def enqueued (s : ServerSubscription) (frame : PendingFrame) (budget : SubscriptionBudget) :
    ServerSubscription :=
  { s with
    budget := budget
    queue := s.queue ++ [frame]
    tail := some ⟨frame.revision, frame.dataHash⟩ }.emit (.admitted s.epoch frame .queued)

theorem Streaming.enqueued (h : s.Streaming sent) (hkind : frame.event.kind = .update)
    (hnewer : ∀ tail, s.tail = some tail → tail.revision < frame.revision)
    (budget : SubscriptionBudget) : (s.enqueued frame budget).Streaming sent := by
  have hlater : ∀ held ∈ sent ++ s.queue, held.revision < frame.revision := by
    intro held hheld
    obtain ⟨tail, htail, hle⟩ := h.tailBound held hheld
    exact lt_of_le_of_lt hle (hnewer tail htail)
  have hmem : ∀ held, held ∈ sent ++ (s.queue ++ [frame]) →
      held ∈ sent ++ s.queue ∨ held = frame := by
    intro held hheld
    simpa [or_assoc] using hheld
  constructor
  · simpa [ServerSubscription.enqueued, ServerSubscription.emit] using h.announced
  · simpa [ServerSubscription.enqueued, ServerSubscription.emit] using h.data
  · exact h.sequence
  · exact h.inFlight
  · simpa [ServerSubscription.enqueued, ServerSubscription.emit] using h.unreceipted
  · intro held hheld
    rcases List.mem_append.mp hheld with hheld | hheld
    · exact h.updates held hheld
    · rw [List.mem_singleton.mp hheld]
      exact hkind
  · show (s.queue ++ [frame]).Pairwise (·.revision < ·.revision)
    refine List.pairwise_append.mpr ⟨h.sorted, List.pairwise_singleton _ _, ?_⟩
    intro held hheld last hlast
    rw [List.mem_singleton.mp hlast]
    exact hlater held (List.mem_append_right sent hheld)
  · intro held hheld
    refine ⟨_, rfl, ?_⟩
    rcases hmem held hheld with hheld | rfl
    · exact (hlater held hheld).le
    · exact le_rfl
  · intro tail htail
    have hsame : (⟨frame.revision, frame.dataHash⟩ : Tail) = tail := Option.some.inj htail
    refine ⟨frame, ?_, by rw [← hsame]⟩
    show frame ∈ sent ++ (s.queue ++ [frame])
    simp
  · intro admitted result hadmitted
    show ∃ held ∈ sent ++ (s.queue ++ [frame]), _
    rcases List.mem_append.mp hadmitted with hadmitted | hadmitted
    · obtain ⟨held, hheld, hle⟩ := h.covered admitted result hadmitted
      refine ⟨held, ?_, hle⟩
      rw [← List.append_assoc]
      exact List.mem_append_left [frame] hheld
    · simp only [List.mem_singleton, Observation.admitted.injEq] at hadmitted
      exact ⟨frame, by simp, by rw [hadmitted.2.1]⟩
  · exact h.routed
  · exact h.delivering
  · exact h.delivered

/-- A frame newer than the snapshot joins the frames that follow it. -/
theorem Progress.enqueued {snapshot : PendingFrame} {updates : List PendingFrame}
    (h : s.Progress snapshot updates) (hkind : frame.event.kind = .update)
    (hnewer : ∀ tail, s.tail = some tail → tail.revision < frame.revision)
    (budget : SubscriptionBudget) : (s.enqueued frame budget).Progress snapshot updates := by
  have hlater : ∀ held ∈ snapshot :: updates ++ s.queue, held.revision < frame.revision := by
    intro held hheld
    obtain ⟨tail, htail, hle⟩ := h.streaming.tailBound held hheld
    exact lt_of_le_of_lt hle (hnewer tail htail)
  constructor
  · exact h.streaming.enqueued hkind hnewer budget
  · show (snapshot :: updates ++ (s.queue ++ [frame])).Pairwise (·.revision < ·.revision)
    rw [← List.append_assoc]
    refine List.pairwise_append.mpr ⟨h.increasing, List.pairwise_singleton _ _, ?_⟩
    intro held hheld last hlast
    rw [List.mem_singleton.mp hlast]
    exact hlater held hheld
  · have hsnapshot : snapshot.revision < frame.revision := hlater snapshot (by simp)
    show (queuedFrames s.epoch (s.trace ++ [.admitted s.epoch frame .queued])).filter
      (snapshot.revision < ·.revision) = updates ++ (s.queue ++ [frame])
    rw [queuedFrames_append, List.filter_append, h.queued]
    simp [queuedFrames, hsnapshot]

theorem queuedFrames_enqueued (budget : SubscriptionBudget) :
    queuedFrames s.epoch (s.enqueued frame budget).trace =
      queuedFrames s.epoch s.trace ++ [frame] := by
  simp [enqueued, queuedFrames]

/-- The pump leaves a subscription alone that waits for a receipt or a snapshot. -/
theorem pump_waiting (hwaiting : s.inFlight ≠ none ∨ s.phase ≠ .draining ∧ s.phase ≠ .live) :
    s.pump limits readings = s := by
  unfold ServerSubscription.pump
  rcases hwaiting with hsome | hphase
  · rw [if_pos (Option.isSome_iff_ne_none.mpr hsome)]
  · split
    · rfl
    · rfl

theorem Open.admitQueued (hopen : s.Open) (hcalm : s.Calm) (hcapturing : s.capturing = true)
    (hkind : frame.event.kind = .update)
    (hnewer : ∀ tail, s.tail = some tail → tail.revision < frame.revision)
    (budget : SubscriptionBudget) :
    ((s.enqueued frame budget).pump limits readings).Sound := by
  have hcalm' : (s.enqueued frame budget).Calm := ⟨hcalm.untrusting, hcalm.jobs⟩
  have hattempts : (s.enqueued frame budget).Attempts :=
    ⟨hopen.attempts.current, hopen.attempts.trusting, hopen.attempts.snapshotJobs⟩
  have hbook : s.epoch ∈ announced s.trace → (s.enqueued frame budget).Bookkeeping := by
    intro hannounced
    exact (hopen.bookkeeping.admitted hannounced frame .queued).of_ledger rfl
  have hphased := hopen.phased
  unfold Phased at hphased
  cases hphase : s.phase <;> simp only [hphase] at hphased
  case capturing =>
    rw [pump_waiting (s := s.enqueued frame budget) (.inr (show s.phase ≠ _ ∧ s.phase ≠ _ by
      simp [hphase]))]
    have hcapture : (s.enqueued frame budget).Capturing :=
      ⟨hphased.streaming.enqueued hkind hnewer budget, hphased.inFlight,
        (queuedFrames_enqueued budget).trans (by rw [hphased.queued])⟩
    exact .opened ⟨hbook hphased.streaming.epoch_announced, hcapture.phased hphase, hattempts⟩
  case snapshotSent =>
    obtain ⟨snapshot, hsent⟩ := hphased
    rw [pump_waiting (s := s.enqueued frame budget) (.inl hsent.inFlight)]
    have hsent' : (s.enqueued frame budget).SnapshotSent snapshot :=
      ⟨hsent.streaming.enqueued hkind hnewer budget, hsent.inFlight,
        (queuedFrames_enqueued budget).trans (by rw [hsent.queued]), hsent.revision⟩
    exact .opened ⟨hbook hsent.streaming.epoch_announced, hsent'.phased hphase, hattempts⟩
  case draining =>
    obtain ⟨snapshot, updates, kept, hdraining⟩ := hphased
    rw [pump_waiting (s := s.enqueued frame budget) (.inl hdraining.inFlight)]
    have hdraining' : (s.enqueued frame budget).Draining snapshot updates kept := by
      refine ⟨hdraining.progress.enqueued hkind hnewer budget, hdraining.inFlight,
        List.mem_append_left _ hdraining.boundary, ?_, hdraining.remaining⟩
      show kept <+: updates ++ (s.queue ++ [frame])
      rw [← List.append_assoc]
      exact hdraining.keptPrefix.trans (List.prefix_append _ _)
    exact .opened ⟨hbook hdraining.progress.streaming.epoch_announced,
      hdraining'.phased hphase, hattempts⟩
  case live =>
    obtain ⟨snapshot, updates, hlive⟩ := hphased
    have hprogress := hlive.progress.enqueued hkind hnewer budget
    have hbook' := hbook hlive.progress.streaming.epoch_announced
    by_cases hnone : s.inFlight = none
    · have hspent := hopen.spent (by simp [hphase]) (by simp [hphase])
      have hready : (s.enqueued frame budget).Ready snapshot updates :=
        ⟨hbook', hcalm', hspent, hprogress, hnone⟩
      exact hready.pump_live hphase
    · rw [pump_waiting (s := s.enqueued frame budget) (.inl hnone)]
      have hlive' : (s.enqueued frame budget).Live snapshot updates :=
        ⟨hprogress, fun h => absurd h hnone⟩
      exact .opened ⟨hbook', hlive'.phased hphase, hattempts⟩
  all_goals simp [capturing, hphase] at hcapturing

/-- A subscription holds no frame, or it is streaming an epoch. -/
theorem Phased.cases (h : s.Phased) :
    Phase.resting s.phase = true ∧ s.Quiet ∨ s.capturing = true ∧ ∃ sent, s.Streaming sent := by
  unfold Phased at h
  cases hphase : s.phase <;> simp only [hphase] at h
  case capturing => exact .inr ⟨by simp [capturing, hphase], [], h.streaming⟩
  case snapshotSent =>
    obtain ⟨snapshot, hsent⟩ := h
    exact .inr ⟨by simp [capturing, hphase], _, hsent.streaming⟩
  case draining =>
    obtain ⟨snapshot, updates, kept, hdraining⟩ := h
    exact .inr ⟨by simp [capturing, hphase], _, hdraining.progress.streaming⟩
  case live =>
    obtain ⟨snapshot, updates, hlive⟩ := h
    exact .inr ⟨by simp [capturing, hphase], _, hlive.progress.streaming⟩
  all_goals exact .inl ⟨rfl, h⟩

/-- A subscription in the routing index is streaming an epoch. -/
theorem Open.streaming_of_routed (hopen : s.Open) (hrouted : s.routed = true) :
    s.capturing = true ∧ ∃ sent, s.Streaming sent := by
  rcases hopen.phased.cases with ⟨-, hquiet⟩ | hstreaming
  · rw [hquiet.unrouted] at hrouted
    cases hrouted
  · exact hstreaming

/-- A frame the tail is at least as new as is only recorded. -/
theorem Open.admitFiltered (hopen : s.Open) (hrouted : s.routed = true) {tail : Tail}
    (htail : s.tail = some tail) (hold : frame.revision ≤ tail.revision) :
    (s.emit (.admitted s.epoch frame .filtered)).Open := by
  have hheld : ∀ sent, s.Streaming sent → ∃ held ∈ sent ++ s.queue,
      frame.revision ≤ held.revision := by
    intro sent hstream
    obtain ⟨held, hmem, hsame⟩ := hstream.tailHeld tail htail
    exact ⟨held, hmem, hsame ▸ hold⟩
  have hqueued : queuedFrames s.epoch (s.trace ++ [.admitted s.epoch frame .filtered]) =
      queuedFrames s.epoch s.trace := by
    simp [queuedFrames]
  obtain ⟨-, sent, hstream⟩ := hopen.streaming_of_routed hrouted
  refine ⟨hopen.bookkeeping.admitted hstream.epoch_announced frame .filtered, ?_,
    ⟨hopen.attempts.current, hopen.attempts.trusting, hopen.attempts.snapshotJobs⟩⟩
  have hphased := hopen.phased
  unfold Phased at hphased
  cases hphase : s.phase <;> simp only [hphase] at hphased
  case capturing =>
    have hcapture : (s.emit (.admitted s.epoch frame .filtered)).Capturing :=
      ⟨hphased.streaming.filtered (hheld _ hphased.streaming), hphased.inFlight,
        hqueued.trans hphased.queued⟩
    exact hcapture.phased hphase
  case snapshotSent =>
    obtain ⟨snapshot, hsent⟩ := hphased
    have hsent' : (s.emit (.admitted s.epoch frame .filtered)).SnapshotSent snapshot :=
      ⟨hsent.streaming.filtered (hheld _ hsent.streaming), hsent.inFlight,
        hqueued.trans hsent.queued, hsent.revision⟩
    exact hsent'.phased hphase
  case draining =>
    obtain ⟨snapshot, updates, kept, h⟩ := hphased
    have hprogress : (s.emit (.admitted s.epoch frame .filtered)).Progress snapshot updates :=
      ⟨h.progress.streaming.filtered (hheld _ h.progress.streaming), h.progress.increasing,
        hqueued ▸ h.progress.queued⟩
    have hdraining : (s.emit (.admitted s.epoch frame .filtered)).Draining snapshot updates kept :=
      ⟨hprogress, h.inFlight, List.mem_append_left _ h.boundary, h.keptPrefix, h.remaining⟩
    exact hdraining.phased hphase
  case live =>
    obtain ⟨snapshot, updates, h⟩ := hphased
    have hprogress : (s.emit (.admitted s.epoch frame .filtered)).Progress snapshot updates :=
      ⟨h.progress.streaming.filtered (hheld _ h.progress.streaming), h.progress.increasing,
        hqueued ▸ h.progress.queued⟩
    have hlive : (s.emit (.admitted s.epoch frame .filtered)).Live snapshot updates :=
      ⟨hprogress, h.flowing⟩
    exact hlive.phased hphase
  all_goals
    have hunrouted := hphased.unrouted
    rw [hunrouted] at hrouted
    cases hrouted

theorem Open.admitFrame (hopen : s.Open) (hcalm : s.Calm) (hrouted : s.routed = true)
    (hkind : frame.event.kind = .update) :
    (s.admitFrame limits readings frame).1.Sound := by
  obtain ⟨hcapturing, sent, hstream⟩ := hopen.streaming_of_routed hrouted
  unfold ServerSubscription.admitFrame
  rw [if_neg (by simp [hcapturing])]
  split
  case isTrue hold =>
    cases htail : s.tail with
    | none => simp [htail] at hold
    | some tail =>
        have hle : frame.revision ≤ tail.revision := by simpa [htail] using hold
        exact .opened (hopen.admitFiltered hrouted htail hle)
  case isFalse hnew =>
    have hnewer : ∀ tail, s.tail = some tail → tail.revision < frame.revision := by
      intro tail htail
      simp only [htail, Option.any_some, decide_eq_true_eq, not_le] at hnew
      exact hnew
    split
    · have hbook := hopen.bookkeeping.admitted hstream.epoch_announced frame .overflow
      exact hbook.attemptFailed ⟨hcalm.untrusting, hcalm.jobs⟩
    · exact hopen.admitQueued hcalm hcapturing hkind hnewer _

end Admission

section Receipts

variable {inFlight : InFlight} {snapshot : PendingFrame} {updates kept : List PendingFrame}

/-- A receipt that does not name the frame in flight changes nothing that is waited for. -/
theorem Streaming.unreceipted_other (h : s.Streaming sent) {epoch : Epoch} {sequence : ℕ}
    (hother : epoch = s.epoch → ∀ inFlight, s.inFlight = some inFlight →
      inFlight.sequence ≠ sequence) :
    StreamOtter.unreceipted s.epoch (s.trace ++ [.receipt epoch sequence]) =
      StreamOtter.unreceipted s.epoch s.trace := by
  rw [unreceipted_append]
  simp only [unreceiptedStep]
  by_cases hepoch : epoch = s.epoch
  · rw [if_pos hepoch, h.unreceipted]
    cases hinFlight : s.inFlight with
    | none => rfl
    | some inFlight =>
        have hne := hother hepoch inFlight hinFlight
        simp [hne]
  · rw [if_neg hepoch]

/-- The state in which the client's receipt freed the frame in flight. -/
def confirmed (s : ServerSubscription) (inFlight : InFlight) : ServerSubscription :=
  (s.emit (.receipt s.epoch inFlight.sequence)).receipted inFlight

theorem Streaming.confirmed (h : s.Streaming sent) (hinFlight : s.inFlight = some inFlight) :
    (s.confirmed inFlight).Streaming sent := by
  have hplain : Observation.Plain (.receipt s.epoch inFlight.sequence) := trivial
  constructor
  · exact (announced_append_silent s.trace hplain.silent).symm ▸ h.announced
  · exact (epochData_append_silent s.epoch s.trace hplain.silent).symm ▸ h.data
  · exact h.sequence
  · intro _ hnone
    cases hnone
  · show StreamOtter.unreceipted s.epoch (s.trace ++ [.receipt s.epoch inFlight.sequence]) = []
    rw [unreceipted_append, h.unreceipted, hinFlight]
    simp [unreceiptedStep]
  · exact h.updates
  · exact h.sorted
  · exact h.tailBound
  · exact h.tailHeld
  · intro admitted result hmem
    refine h.covered admitted result ?_
    rcases List.mem_append.mp hmem with hmem | hmem
    · exact hmem
    · simp at hmem
  · exact h.routed
  · intro _ hnone
    cases hnone
  · intro _ last hlast
    obtain ⟨hsame, -⟩ := h.inFlight inFlight hinFlight
    have hlast' : last = inFlight.frame := Option.some.inj (hlast.symm.trans hsame)
    have hdelivering := h.delivering inFlight hinFlight
    rw [hlast']
    show (if s.lastDelivered.all (· < inFlight.frame.revision) then some inFlight.frame.revision
      else s.lastDelivered) = some inFlight.frame.revision
    cases hdelivered : s.lastDelivered with
    | none => simp
    | some revision =>
        have hle := hdelivering revision hdelivered
        rcases hle.lt_or_eq with hlt | heq
        · simp [hlt]
        · simp [heq]

theorem Bookkeeping.confirmed (hbook : s.Bookkeeping) (inFlight : InFlight) :
    (s.confirmed inFlight).Bookkeeping :=
  (hbook.emit (o := .receipt s.epoch inFlight.sequence) trivial).of_ledger rfl

theorem Progress.confirmed (h : s.Progress snapshot updates)
    (hinFlight : s.inFlight = some inFlight) :
    (s.confirmed inFlight).Progress snapshot updates where
  streaming := h.streaming.confirmed hinFlight
  increasing := h.increasing
  queued := by
    have hsame : queuedFrames s.epoch (s.trace ++ [.receipt s.epoch inFlight.sequence]) =
        queuedFrames s.epoch s.trace := queuedFrames_append_plain _ _ trivial
    show (queuedFrames s.epoch (s.trace ++ [.receipt s.epoch inFlight.sequence])).filter _ = _
    rw [hsame]
    exact h.queued

/-- The receipted snapshot stands for every buffered state that is not newer. -/
theorem Streaming.beginDrain (h : s.Streaming [snapshot])
    (hrevision : s.snapshotRevision = some snapshot.revision)
    (hqueued : queuedFrames s.epoch s.trace = s.queue) :
    s.beginDrain.Progress snapshot [] := by
  have hboundary : s.snapshotRevision.getD 0 = snapshot.revision := by rw [hrevision]; rfl
  have hkept : s.beginDrain.queue = s.queue.filter (snapshot.revision < ·.revision) := by
    simp [ServerSubscription.beginDrain, ServerSubscription.enter, ServerSubscription.emit,
      hboundary]
  have htrace : s.beginDrain.trace =
      s.trace ++ [.drain s.epoch (s.queue.filter (snapshot.revision < ·.revision))] := by
    simp [ServerSubscription.beginDrain, ServerSubscription.enter, hboundary]
  have hplain : Observation.Plain
      (.drain s.epoch (s.queue.filter (snapshot.revision < ·.revision))) := trivial
  have hmem : ∀ frame, frame ∈ [snapshot] ++ s.beginDrain.queue →
      frame ∈ [snapshot] ++ s.queue := by
    intro frame hframe
    rw [hkept] at hframe
    rcases List.mem_append.mp hframe with hframe | hframe
    · exact List.mem_append_left _ hframe
    · exact List.mem_append_right _ (List.mem_filter.mp hframe).1
  -- a frame that the filter drops is not newer than the snapshot
  have hheld : ∀ frame ∈ [snapshot] ++ s.queue, frame ∈ [snapshot] ++ s.beginDrain.queue ∨
      frame.revision ≤ snapshot.revision := by
    intro frame hframe
    rw [hkept]
    by_cases hnewer : snapshot.revision < frame.revision
    · left
      rcases List.mem_append.mp hframe with hframe | hframe
      · exact List.mem_append_left _ hframe
      · exact List.mem_append_right _ (List.mem_filter.mpr ⟨hframe, by simpa using hnewer⟩)
    · exact .inr (not_lt.mp hnewer)
  have hsorted : (s.queue.filter (snapshot.revision < ·.revision)).Pairwise
      (·.revision < ·.revision) := h.sorted.filter _
  refine ⟨?_, ?_, ?_⟩
  · constructor
    · rw [htrace, announced_append_silent s.trace hplain.silent]
      exact h.announced
    · rw [htrace]
      exact (epochData_append_silent s.epoch s.trace hplain.silent).trans h.data
    · exact h.sequence
    · exact h.inFlight
    · rw [htrace]
      exact (unreceipted_append _ _ _).trans h.unreceipted
    · intro frame hframe
      rw [hkept] at hframe
      exact h.updates frame (List.mem_filter.mp hframe).1
    · rw [hkept]
      exact hsorted
    · exact fun frame hframe => h.tailBound frame (hmem frame hframe)
    · intro tail htail
      obtain ⟨frame, hframe, hsame⟩ := h.tailHeld tail htail
      rcases hheld frame hframe with hstill | hold
      · exact ⟨frame, hstill, hsame⟩
      · obtain ⟨tail', htail', hle⟩ := h.tailBound snapshot (by simp)
        have heq : tail' = tail := Option.some.inj (htail'.symm.trans htail)
        rw [heq] at hle
        exact ⟨snapshot, by simp, le_antisymm (hsame.trans_le hold) hle⟩
    · intro admitted result hadmitted
      have hearlier : Observation.admitted s.epoch admitted result ∈ s.trace := by
        rw [htrace] at hadmitted
        rcases List.mem_append.mp hadmitted with hadmitted | hadmitted
        · exact hadmitted
        · simp at hadmitted
      obtain ⟨frame, hframe, hle⟩ := h.covered admitted result hearlier
      rcases hheld frame hframe with hstill | hold
      · exact ⟨frame, hstill, hle⟩
      · exact ⟨snapshot, by simp, hle.trans hold⟩
    · exact h.routed
    · exact h.delivering
    · exact h.delivered
  · rw [hkept]
    refine List.pairwise_append.mpr ⟨List.pairwise_singleton _ _, hsorted, ?_⟩
    intro first hfirst frame hframe
    rw [List.mem_singleton.mp hfirst]
    simpa using (List.mem_filter.mp hframe).2
  · rw [htrace, hkept]
    show (queuedFrames s.epoch (s.trace ++ [_])).filter _ = _
    rw [queuedFrames_append_plain _ _ hplain, hqueued, List.nil_append]

theorem SnapshotSent.confirm (h : s.SnapshotSent snapshot) (hbook : s.Bookkeeping)
    (hcalm : s.Calm) (hspent : ∀ attempt ∈ s.pending, attempt.generation ≠ s.generation)
    (hinFlight : s.inFlight = some inFlight) :
    (if (s.confirmed inFlight).beginDrain.drainRemaining = 0 then
      (s.confirmed inFlight).beginDrain.goLive limits readings
    else (s.confirmed inFlight).beginDrain.pump limits readings).Sound := by
  have hqueued : queuedFrames s.epoch (s.confirmed inFlight).trace = s.queue :=
    (queuedFrames_append_plain (o := .receipt s.epoch inFlight.sequence) _ _ trivial).trans
      h.queued
  have hprogress : (s.confirmed inFlight).beginDrain.Progress snapshot [] :=
    (h.streaming.confirmed hinFlight).beginDrain h.revision hqueued
  have hplain : Observation.Plain (.drain s.epoch (s.confirmed inFlight).beginDrain.queue) :=
    trivial
  have hready : (s.confirmed inFlight).beginDrain.Ready snapshot [] :=
    ⟨((hbook.confirmed inFlight).emit hplain).of_ledger rfl, ⟨hcalm.untrusting, hcalm.jobs⟩,
      hspent, hprogress, rfl⟩
  have hboundary : Observation.drain s.epoch (s.confirmed inFlight).beginDrain.queue ∈
      (s.confirmed inFlight).beginDrain.trace :=
    List.mem_append_right _ (List.mem_singleton_self _)
  have hremaining : (s.confirmed inFlight).beginDrain.drainRemaining =
      (s.confirmed inFlight).beginDrain.queue.length := rfl
  split
  case isTrue hzero =>
    have hempty : (s.confirmed inFlight).beginDrain.queue = [] :=
      List.length_eq_zero_iff.mp (hremaining.symm.trans hzero)
    rw [hempty] at hboundary
    exact hready.goLive hboundary
  case isFalse hmore =>
    exact hready.pump_draining rfl hboundary (List.prefix_refl _) hremaining hmore

theorem Draining.confirm (h : s.Draining snapshot updates kept) (hbook : s.Bookkeeping)
    (hcalm : s.Calm) (hspent : ∀ attempt ∈ s.pending, attempt.generation ≠ s.generation)
    (hphase : s.phase = .draining) (hinFlight : s.inFlight = some inFlight) :
    (if (s.confirmed inFlight).countDown.drainRemaining = 0 then
      (s.confirmed inFlight).countDown.goLive limits readings
    else (s.confirmed inFlight).countDown.pump limits readings).Sound := by
  have hprogress := h.progress.confirmed hinFlight
  have hstream := hprogress.streaming
  obtain ⟨hremaining, hpositive⟩ := h.remaining
  have hready : (s.confirmed inFlight).countDown.Ready snapshot updates :=
    ⟨(hbook.confirmed inFlight).of_ledger rfl, ⟨hcalm.untrusting, hcalm.jobs⟩, hspent,
      ⟨⟨hstream.announced, hstream.data, hstream.sequence, hstream.inFlight, hstream.unreceipted,
        hstream.updates, hstream.sorted, hstream.tailBound, hstream.tailHeld, hstream.covered,
        hstream.routed, hstream.delivering, hstream.delivered⟩,
        hprogress.increasing, hprogress.queued⟩, rfl⟩
  have hboundary : Observation.drain s.epoch kept ∈ (s.confirmed inFlight).trace :=
    List.mem_append_left _ h.boundary
  have hcount : (s.confirmed inFlight).countDown.drainRemaining = s.drainRemaining - 1 := rfl
  rw [hcount]
  split
  case isTrue hzero =>
    -- every frame of the boundary was sent: the prefix is the sent updates themselves
    have hsent : kept = updates := by
      have hle : kept.length ≤ updates.length := by omega
      have hpre : kept <+: updates :=
        List.prefix_of_prefix_length_le h.keptPrefix (List.prefix_append _ _) hle
      exact hpre.eq_of_length (by omega)
    rw [hsent] at hboundary
    exact hready.goLive hboundary
  case isFalse hmore =>
    refine hready.pump_draining hphase hboundary h.keptPrefix ?_ hmore
    show s.drainRemaining - 1 + updates.length = kept.length
    omega

theorem Live.confirm (h : s.Live snapshot updates) (hbook : s.Bookkeeping) (hcalm : s.Calm)
    (hspent : ∀ attempt ∈ s.pending, attempt.generation ≠ s.generation)
    (hphase : s.phase = .live) (hinFlight : s.inFlight = some inFlight) :
    ((s.confirmed inFlight).pump limits readings).Sound := by
  have hready : (s.confirmed inFlight).Ready snapshot updates :=
    ⟨hbook.confirmed inFlight, ⟨hcalm.untrusting, hcalm.jobs⟩, hspent,
      h.progress.confirmed hinFlight, rfl⟩
  exact hready.pump_live hphase

/-- The receipt of the frame in flight, in each phase that has one. -/
theorem Open.confirm (hopen : s.Open) (hcalm : s.Calm) (hinFlight : s.inFlight = some inFlight) :
    (let s := s.confirmed inFlight
     if s.phase = .snapshotSent then
       let s := s.beginDrain
       if s.drainRemaining = 0 then s.goLive limits readings else s.pump limits readings
     else if s.phase = .draining then
       let s := s.countDown
       if s.drainRemaining = 0 then s.goLive limits readings else s.pump limits readings
     else s.pump limits readings).Sound := by
  have hbook := hopen.bookkeeping
  have hsame : (s.confirmed inFlight).phase = s.phase := rfl
  have hphased := hopen.phased
  unfold Phased at hphased
  dsimp only
  rw [hsame]
  cases hphase : s.phase <;> simp only [hphase] at hphased
  case snapshotSent =>
    obtain ⟨snapshot, h⟩ := hphased
    have hspent := hopen.spent (by simp [hphase]) (by simp [hphase])
    exact h.confirm hbook hcalm hspent hinFlight
  case draining =>
    obtain ⟨snapshot, updates, kept, h⟩ := hphased
    have hspent := hopen.spent (by simp [hphase]) (by simp [hphase])
    exact h.confirm hbook hcalm hspent hphase hinFlight
  case live =>
    obtain ⟨snapshot, updates, h⟩ := hphased
    have hspent := hopen.spent (by simp [hphase]) (by simp [hphase])
    exact h.confirm hbook hcalm hspent hphase hinFlight
  case capturing => rw [hphased.inFlight] at hinFlight; cases hinFlight
  all_goals rw [hphased.inFlight] at hinFlight; cases hinFlight

theorem Open.onReceipt (hopen : s.Open) (hcalm : s.Calm) (epoch : Epoch) (sequence : ℕ) :
    ((s.emit (.receipt epoch sequence)).onReceipt limits readings epoch sequence).Sound := by
  have hviolation : ((s.emit (.receipt epoch sequence)).protocolViolation limits readings).Sound :=
    (hopen.bookkeeping.emit (o := .receipt epoch sequence) trivial).protocolViolation
      ⟨hcalm.untrusting, hcalm.jobs⟩
  have hother : (epoch = s.epoch → ∀ inFlight, s.inFlight = some inFlight →
      inFlight.sequence ≠ sequence) → (s.emit (.receipt epoch sequence)).Sound := by
    intro hne
    exact .opened (hopen.emit trivial fun sent hstream => hstream.unreceipted_other hne)
  unfold ServerSubscription.onReceipt
  split
  case isTrue hignored =>
    rcases hignored with hepoch | hcapturing
    · exact hother fun heq => absurd heq hepoch
    · have hunrouted : s.routed = true → False := by
        intro hrouted
        have hcapt : s.capturing = true := (hopen.streaming_of_routed hrouted).1
        simp only [Bool.not_eq_true'] at hcapturing
        exact absurd hcapt (Bool.eq_false_iff.mp hcapturing)
      exact .opened (hopen.emit trivial fun sent hstream => (hunrouted hstream.routed).elim)
  case isFalse hcurrent =>
    have hepoch : epoch = s.epoch := by
      by_contra hne
      exact hcurrent (.inl hne)
    have hsame : (s.emit (.receipt epoch sequence)).inFlight = s.inFlight := rfl
    rw [hsame]
    cases hinFlight : s.inFlight with
    | none =>
        dsimp only
        split
        · exact hother fun _ inFlight h => by rw [hinFlight] at h; cases h
        · exact hviolation
    | some inFlight =>
        have hnamed : inFlight.sequence ≠ sequence → (s.emit (.receipt epoch sequence)).Sound := by
          intro hne
          refine hother fun _ other h => ?_
          rw [hinFlight] at h
          exact Option.some.inj h ▸ hne
        dsimp only
        split
        case isTrue hearlier =>
          split
          · exact hnamed (by omega)
          · exact hviolation
        case isFalse hnotEarlier =>
          split
          case isTrue => exact hviolation
          case isFalse hnotLater =>
            have hsequence : sequence = inFlight.sequence := by omega
            rw [hsequence, hepoch]
            exact hopen.confirm hcalm hinFlight

end Receipts

end ServerSubscription

end StreamOtter
