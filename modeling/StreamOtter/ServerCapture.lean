import StreamOtter.ServerAttempts

/-!
# The stretches of an attempt

Where an epoch is announced, where its snapshot is sent, and the notices that begin
or end an attempt.
-/

namespace StreamOtter

namespace ServerSubscription

variable {s : ServerSubscription} {limits : Limits} {readings : Readings}

/-- The state in which a fresh epoch was announced to the client. -/
def captured (s : ServerSubscription) : ServerSubscription :=
  { { s with
      epoch := s.nextId
      nextId := s.nextId + 1
      sequence := 0
      publicState := .synchronizing }.emit (.state ⟨s.nextId, .synchronizing, none⟩) with
    phase := .capturing
    routed := true }

theorem Quiet.captured_open (hquiet : s.Quiet) (hbook : s.Bookkeeping) (hcalm : s.Calm)
    (hspent : ∀ attempt ∈ s.pending, attempt.generation ≠ s.generation) :
    s.captured.Open := by
  have hnew : s.nextId ∉ announced s.trace :=
    fun hmem => lt_irrefl _ (hbook.announcedFresh s.nextId hmem)
  have hadmitted : ∀ frame result, Observation.admitted s.nextId frame result ∉ s.trace :=
    fun frame result hmem => hnew (hbook.admittedAnnounced _ frame result hmem)
  have hdata := hbook.disciplined.epochData_eq_nil hnew
  have hannounced : announced s.captured.trace = announced s.trace ++ [s.nextId] := by
    simp [captured]
  have hsame : ∀ epoch, epochData epoch s.captured.trace = epochData epoch s.trace := by
    intro epoch
    simp [captured]
  have hqueued : ∀ epoch, queuedFrames epoch s.captured.trace = queuedFrames epoch s.trace := by
    intro epoch
    simp [captured]
  have hearlier : ∀ epoch frame result,
      Observation.admitted epoch frame result ∈ s.captured.trace →
        Observation.admitted epoch frame result ∈ s.trace := by
    intro epoch frame result hmem
    simpa [captured] using hmem
  have hnone : queuedFrames s.nextId s.trace = [] := by
    refine List.eq_nil_iff_forall_not_mem.mpr fun frame hmem => ?_
    exact hadmitted frame .queued (mem_queuedFrames.mp hmem)
  have hbook' : s.captured.Bookkeeping := by
    constructor
    · exact hbook.sessionOpen
    · exact hbook.unexpired
    · exact disciplined_append.mpr ⟨hbook.disciplined, hnew, hdata⟩
    · intro epoch hmem
      rw [hannounced] at hmem
      show epoch < s.nextId + 1
      rcases List.mem_append.mp hmem with hmem | hmem
      · exact Nat.lt_succ_of_lt (hbook.announcedFresh epoch hmem)
      · rw [List.mem_singleton.mp hmem]
        exact Nat.lt_succ_self _
    · exact Nat.lt_succ_self _
    · intro epoch frame result hmem
      rw [hannounced]
      exact List.mem_append_left _
        (hbook.admittedAnnounced epoch frame result (hearlier epoch frame result hmem))
    · exact hbook.generations
    · exact hbook.distinct
    · intro epoch hmem hne
      rw [hannounced] at hmem
      rcases List.mem_append.mp hmem with hmem | hmem
      · by_cases hepoch : epoch = s.epoch
        · exact (hepoch ▸ hquiet.epochOver (hepoch ▸ hmem)).append _
        · exact (hbook.earlierOver epoch hmem hepoch).append _
      · exact absurd (List.mem_singleton.mp hmem) hne
    · intro epoch
      rw [hsame, hqueued]
      exact hbook.ordered epoch
    · intro routed hmem
      exact hbook.calledRouted routed (by simpa [captured] using hmem)
  have hstream : s.captured.Streaming [] := by
    constructor
    · rw [hannounced]
      simp [captured, ServerSubscription.emit]
    · rw [hsame]
      exact hdata
    · rfl
    · intro inFlight hinFlight
      rw [show s.captured.inFlight = s.inFlight from rfl, hquiet.inFlight] at hinFlight
      cases hinFlight
    · show unreceipted s.nextId (s.trace ++ [_]) = s.inFlight.toList.map _
      rw [unreceipted_append, hbook.disciplined.unreceipted_eq_nil hnew, hquiet.inFlight]
      rfl
    · intro frame hmem
      rw [show s.captured.queue = s.queue from rfl, hquiet.queue] at hmem
      cases hmem
    · rw [show s.captured.queue = s.queue from rfl, hquiet.queue]
      exact List.Pairwise.nil
    · intro frame hmem
      rw [show s.captured.queue = s.queue from rfl, hquiet.queue] at hmem
      cases hmem
    · intro tail htail
      rw [show s.captured.tail = s.tail from rfl, hquiet.tail] at htail
      cases htail
    · intro frame result hmem
      exact absurd (hearlier _ frame result hmem) (hadmitted frame result)
    · rfl
    · intro inFlight hinFlight
      rw [show s.captured.inFlight = s.inFlight from rfl, hquiet.inFlight] at hinFlight
      cases hinFlight
    · intro _ frame hlast
      cases hlast
  have hcapturing : s.captured.Capturing := by
    refine ⟨hstream, hquiet.inFlight, ?_⟩
    rw [hqueued]
    exact hnone.trans hquiet.queue.symm
  refine ⟨hbook', hcapturing.phased rfl, ?_⟩
  exact Calm.attempts ⟨hcalm.untrusting, hcalm.jobs⟩ hspent

theorem Open.quiet_of_authorizing (hopen : s.Open) (hphase : s.phase = .authorizing) :
    s.Quiet := by
  have hphased := hopen.phased
  unfold Phased at hphased
  rw [hphase] at hphased
  exact hphased

theorem Open.afterAuthorized {generation : ℕ} (hopen : s.Open) (hcalm : s.Calm)
    (hgeneration : generation = s.generation)
    (hnew : ∀ other ∈ s.pending, other.generation ≠ generation)
    (hphase : s.phase = .authorizing) : (s.afterAuthorized limits readings generation).Sound := by
  have hbook := hopen.bookkeeping
  have hquiet := hopen.quiet_of_authorizing hphase
  have hspent : ∀ attempt ∈ s.pending, attempt.generation ≠ s.generation := hgeneration ▸ hnew
  unfold ServerSubscription.afterAuthorized
  split
  · have hresting : s.Resting :=
      ⟨⟨hbook, hcalm, hquiet.queue, hquiet.inFlight, hquiet.tail, hquiet.unrouted, hspent⟩,
        hquiet.epochOver⟩
    have hwaiting : ((s.countAttempt (-1)).enter .waitingSource).Resting :=
      hresting.of_eq rfl rfl
    rcases hwaiting.sendState limits readings .waiting .stale
      (some (s.source.reason.getD .sourceUnavailable)) (by simp)
      with hshut | ⟨heq, hstill⟩
    · exact hshut.sound
    · refine .opened (hstill.isOpen ?_)
      rw [heq]
      rfl
  · dsimp only
    rcases sendState_cases limits readings (s := { s with
      epoch := s.nextId, nextId := s.nextId + 1, sequence := 0 }) .synchronizing .synchronizing
      none hbook.disciplined with hshut | heq
    · exact Shut.sound ⟨hshut.closed, hshut.trace⟩
    · rw [heq]
      have hcaptured := hquiet.captured_open hbook hcalm hspent
      exact .opened (hcaptured.suspend hgeneration hnew rfl (by simp [Await.afterAuthorize]))

section Snapshot

variable {channel : String} {channelVersion : ℕ} {snapshot : Snapshot}
  {boundary answer inForce : Option BoundaryId}

/-- The tail once the snapshot's revision is known. -/
def tailAfter (s : ServerSubscription) (snapshot : Snapshot) : Option Tail :=
  if s.tail.all (fun (tail : Tail) => tail.revision ≤ snapshot.revision) then
    some ⟨snapshot.revision, snapshot.dataHash⟩
  else s.tail

theorem tailAfter_eq_some (s : ServerSubscription) (snapshot : Snapshot) :
    ∃ tail, s.tailAfter snapshot = some tail ∧ snapshot.revision ≤ tail.revision ∧
      (∀ old, s.tail = some old → old.revision ≤ tail.revision) ∧
      (tail.revision = snapshot.revision ∨ s.tail = some tail) := by
  unfold tailAfter
  cases htail : s.tail with
  | none =>
      refine ⟨⟨snapshot.revision, snapshot.dataHash⟩, by simp, le_rfl, ?_, .inl rfl⟩
      intro old hold
      cases hold
  | some old =>
      by_cases hle : old.revision ≤ snapshot.revision
      · refine ⟨⟨snapshot.revision, snapshot.dataHash⟩, by simp [hle], le_rfl, ?_, .inl rfl⟩
        intro old' hold
        exact Option.some.inj hold ▸ hle
      · refine ⟨old, by simp [hle], (not_le.mp hle).le, ?_, .inr rfl⟩
        intro old' hold
        exact Option.some.inj hold ▸ le_rfl

/-- The state in which the snapshot frame is handed to `transmit`. -/
def prepared (s : ServerSubscription) (budget : SubscriptionBudget) (snapshot : Snapshot)
    (boundary : Option BoundaryId) : ServerSubscription :=
  ({ s with
    budget := budget
    snapshotRevision := some snapshot.revision
    tail := s.tailAfter snapshot }.enter .snapshotSent).emit
      (.answered s.epoch boundary snapshot.recoveryBoundaryId s.source.boundary)

def snapshotFrame (channel : String) (channelVersion : ℕ) (snapshot : Snapshot) : PendingFrame :=
  ⟨⟨channel, channelVersion, .snapshot, snapshot.revision⟩, snapshot.bytes, snapshot.dataHash⟩

theorem Capturing.sending (h : s.Capturing) (channel : String) (channelVersion : ℕ)
    (boundary : Option BoundaryId) (budget : SubscriptionBudget)
    (hfresh : ∀ revision, s.lastDelivered = some revision → revision ≤ snapshot.revision) :
    (s.prepared budget snapshot boundary).Sending []
      (snapshotFrame channel channelVersion snapshot) := by
  have hstream := h.streaming
  have hplain : Observation.Plain
      (.answered s.epoch boundary snapshot.recoveryBoundaryId s.source.boundary) := trivial
  obtain ⟨tail, htail, hsnapshot, hold, hheld⟩ := s.tailAfter_eq_some snapshot
  constructor
  · exact (announced_append_silent s.trace hplain.silent).symm ▸ hstream.announced
  · exact (epochData_append_silent s.epoch s.trace hplain.silent).trans hstream.data
  · exact hstream.sequence
  · have hnone : unreceipted s.epoch s.trace = [] := by
      simpa [h.inFlight] using hstream.unreceipted
    exact (unreceipted_append _ _ _).trans hnone
  · exact hstream.updates
  · exact hstream.sorted
  · intro frame hmem
    refine ⟨tail, htail, ?_⟩
    rcases List.mem_cons.mp hmem with rfl | hmem
    · exact hsnapshot
    · obtain ⟨old, hold', hle⟩ := hstream.tailBound frame hmem
      exact hle.trans (hold old hold')
  · intro tail' htail'
    have hsame : tail = tail' := Option.some.inj (htail.symm.trans htail')
    rw [← hsame]
    rcases hheld with hrevision | hkept
    · exact ⟨_, List.mem_cons_self, hrevision⟩
    · obtain ⟨frame, hframe, hrevision⟩ := hstream.tailHeld tail hkept
      exact ⟨frame, List.mem_cons_of_mem _ hframe, hrevision⟩
  · intro frame result hmem
    have hearlier : Observation.admitted s.epoch frame result ∈ s.trace := by
      simpa [prepared] using hmem
    obtain ⟨held, hheld', hle⟩ := hstream.covered frame result hearlier
    exact ⟨held, List.mem_cons_of_mem _ hheld', hle⟩
  · exact hstream.routed
  · exact hfresh

theorem Open.afterRechecked (hopen : s.Open) (hcalm : s.Calm) (hphase : s.phase = .capturing)
    (hspent : ∀ attempt ∈ s.pending, attempt.generation ≠ s.generation)
    (hfresh : ∀ revision, s.lastDelivered = some revision → revision ≤ snapshot.revision) :
    (s.afterRechecked limits readings channel channelVersion boundary snapshot).Sound := by
  have hbook := hopen.bookkeeping
  have hcapturing : s.Capturing := by
    have hphased := hopen.phased
    unfold Phased at hphased
    rw [hphase] at hphased
    exact hphased
  unfold ServerSubscription.afterRechecked
  split
  · exact hbook.attemptFailed hcalm
  · split
    · exact hopen.fail hcalm
    · split
      · exact hbook.attemptFailed hcalm
      · case h_2 budget _ =>
          have hsending := hcapturing.sending channel channelVersion boundary budget hfresh
          have hprepared : (s.prepared budget snapshot boundary).Bookkeeping :=
            (hbook.emit (o := .answered s.epoch boundary snapshot.recoveryBoundaryId
              s.source.boundary) trivial).of_ledger rfl
          have hstream := hsending.handOver hbook.sessionOpen
          have hbook' := hprepared.handOver hsending (by simp [snapshotFrame]) (by simp) (by simp)
          have hhanded := handOver_eq (s := s.prepared budget snapshot boundary)
            (snapshotFrame channel channelVersion snapshot) hbook.sessionOpen
          have hsent : ((s.prepared budget snapshot boundary).handOver
              (snapshotFrame channel channelVersion snapshot)).SnapshotSent
                (snapshotFrame channel channelVersion snapshot) := by
            refine ⟨hstream, ?_, ?_, ?_⟩
            · rw [hhanded]
              simp
            · rw [hhanded, queuedFrames_append_data]
              exact (queuedFrames_append_plain (o := .answered s.epoch boundary
                snapshot.recoveryBoundaryId s.source.boundary) _ _ trivial).trans
                  hcapturing.queued
            · rw [hhanded]
              rfl
          have hattempts : ((s.prepared budget snapshot boundary).handOver
              (snapshotFrame channel channelVersion snapshot)).Attempts := by
            rw [hhanded]
            exact Calm.attempts ⟨hcalm.untrusting, hcalm.jobs⟩ hspent
          have hphase' : ((s.prepared budget snapshot boundary).handOver
              (snapshotFrame channel channelVersion snapshot)).phase = .snapshotSent := by
            rw [hhanded]
            rfl
          exact hprepared.transmit ⟨hcalm.untrusting, hcalm.jobs⟩
            ⟨hbook', hsent.phased hphase', hattempts⟩

end Snapshot

section Notices

theorem Open.onSourceUnavailable {reason : ErrorCode} (hopen : s.Open) (hcalm : s.Calm) :
    (s.onSourceUnavailable limits readings reason).Sound := by
  have hstale : ((s.invalidate.enter .waitingSource).sendState limits readings .unavailable .stale
      (some reason)).Sound := by
    have hdropped : (s.invalidate.enter .waitingSource).Dropped :=
      (hopen.bookkeeping.dropped hcalm).of_eq rfl rfl
    rcases hdropped.sendState limits readings .unavailable .stale (some reason) (by simp)
      fun _ => over_of_invalidates _ _ (by simp [Observation.invalidates]) with hshut | ⟨heq, hr⟩
    · exact hshut.sound
    · refine .opened (hr.isOpen ?_)
      rw [heq]
      rfl
  unfold ServerSubscription.onSourceUnavailable
  split <;> first | exact hstale | exact .opened hopen

/-- In a phase that holds no frame, the next attempt needs no announcement to end its
epoch. -/
theorem Open.beginAttempt_quiet {announce : Bool} (hopen : s.Open) (hcalm : s.Calm)
    (hquiet : s.Quiet) : (s.beginAttempt limits readings announce).Sound :=
  hopen.bookkeeping.beginAttempt hcalm fun hmem => (hquiet.epochOver hmem).append _

theorem Open.quiet (hopen : s.Open) (hphase : Phase.resting s.phase = true) : s.Quiet := by
  rcases hopen.phased.cases with ⟨-, hquiet⟩ | ⟨hcapturing, -⟩
  · exact hquiet
  · cases hcase : s.phase <;> simp_all [capturing, Phase.resting]

theorem Open.onSourceReady (hopen : s.Open) (hcalm : s.Calm) :
    (s.onSourceReady limits readings).Sound := by
  unfold ServerSubscription.onSourceReady
  split
  · case h_1 hphase =>
      exact hopen.beginAttempt_quiet hcalm (hopen.quiet (by rw [hphase]; rfl))
  · exact .opened hopen

theorem Open.sourceChanged {wasReady : Bool} (hopen : s.Open) (hcalm : s.Calm) :
    (s.sourceChanged limits readings wasReady).Sound := by
  unfold ServerSubscription.sourceChanged
  split
  · exact .opened hopen
  · split
    · exact hopen.onSourceUnavailable hcalm
    · split
      · exact hopen.onSourceReady hcalm
      · exact .opened hopen

theorem Open.setSourceStatus {status : SourceStatus} {reason : Option ErrorCode}
    (hopen : s.Open) (hcalm : s.Calm) :
    (s.setSourceStatus limits readings status reason).Sound := by
  unfold ServerSubscription.setSourceStatus
  split
  · exact .opened hopen
  · have hset : Open { s with source := s.source.setStatus status reason } := hopen.inert
    exact hset.sourceChanged ⟨hcalm.untrusting, hcalm.jobs⟩

/-- A resync request in a phase whose frames the client has seen replaces the epoch. -/
theorem Open.requestResync (hopen : s.Open) (hcalm : s.Calm) :
    ((s.emit (.resync s.epoch)).requestResync limits readings).Sound := by
  have hplain : Observation.Plain (.resync s.epoch) := trivial
  have hasked : (s.emit (.resync s.epoch)).Open :=
    hopen.emit hplain fun _ _ => unreceipted_append _ _ _
  have hover : ∀ attempts : ℤ, ({ s.emit (.resync s.epoch) with attempts := attempts }.beginAttempt
      limits readings true).Sound := by
    intro attempts
    have hbook : Bookkeeping { s.emit (.resync s.epoch) with attempts := attempts } :=
      hasked.bookkeeping.of_ledger rfl
    exact hbook.beginAttempt ⟨hcalm.untrusting, hcalm.jobs⟩ fun _ => over_of_resync s.trace
  unfold ServerSubscription.requestResync
  split
  all_goals first
    | exact hover _
    | exact .opened hasked

end Notices

end ServerSubscription

end StreamOtter
