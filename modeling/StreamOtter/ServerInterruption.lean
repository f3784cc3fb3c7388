import StreamOtter.ServerClosed

/-!
# Operations that end an epoch

An interruption drops every frame, starts a new generation and tells the client; it
needs only the bookkeeping of the state it starts from, and that no attempt is about
to resume.  What remains is a resting subscription, or a shut one when the client
turned out to be stalled.
-/

namespace StreamOtter

/-- An entry that neither the bookkeeping nor any projection of a trace reads. -/
def Observation.Plain : Observation → Prop
  | .state frame => frame.state ≠ .synchronizing ∧ frame.state ≠ .live
  | .data _ | .admitted _ _ _ | .called _ _ => False
  | _ => True

theorem Observation.Plain.silent {o : Observation} (ho : o.Plain) : o.Silent := by
  cases o <;> simp_all [Observation.Plain, Observation.Silent]

theorem Observation.Plain.ne_admitted {o : Observation} (ho : o.Plain) (epoch : Epoch)
    (frame : PendingFrame) (result : AdmitResult) : o ≠ .admitted epoch frame result := by
  rintro rfl
  exact ho

theorem queuedFrames_append_plain (epoch : Epoch) (trace : List Observation) {o : Observation}
    (ho : o.Plain) : queuedFrames epoch (trace ++ [o]) = queuedFrames epoch trace := by
  rw [queuedFrames_append]
  cases o <;> simp_all [queuedFrames, Observation.Plain]

namespace ServerSubscription

variable {s : ServerSubscription}

/-- An entry that changes no projection and is allowed keeps the books. -/
theorem Bookkeeping.emit_allowed {o : Observation} (hbook : s.Bookkeeping)
    (hallowed : Allowed s.trace o) (hannounced : announced (s.trace ++ [o]) = announced s.trace)
    (hdata : ∀ epoch, epochData epoch (s.trace ++ [o]) = epochData epoch s.trace)
    (hqueued : ∀ epoch, queuedFrames epoch (s.trace ++ [o]) = queuedFrames epoch s.trace)
    (hadmitted : ∀ epoch frame result, o ≠ .admitted epoch frame result)
    (hcalled : ∀ handler routed, o ≠ .called handler routed) : (s.emit o).Bookkeeping where
  sessionOpen := hbook.sessionOpen
  unexpired := hbook.unexpired
  disciplined := disciplined_append.mpr ⟨hbook.disciplined, hallowed⟩
  announcedFresh := by
    intro epoch hepoch
    exact hbook.announcedFresh epoch (hannounced ▸ hepoch)
  epochFresh := hbook.epochFresh
  admittedAnnounced := by
    intro epoch frame result hmem
    rcases List.mem_append.mp hmem with h | h
    · exact hannounced ▸ hbook.admittedAnnounced epoch frame result h
    · exact absurd (List.mem_singleton.mp h).symm (hadmitted epoch frame result)
  generations := hbook.generations
  distinct := hbook.distinct
  earlierOver := by
    intro epoch hepoch hne
    have hmem : epoch ∈ announced s.trace := hannounced ▸ hepoch
    exact (hbook.earlierOver epoch hmem hne).append [o]
  ordered := by
    intro epoch
    show ((epochData epoch (s.trace ++ [o])).tail.map DataFrame.event).Sublist
      ((queuedFrames epoch (s.trace ++ [o])).map PendingFrame.event)
    rw [hdata, hqueued]
    exact hbook.ordered epoch
  calledRouted := by
    intro routed hmem
    rcases List.mem_append.mp hmem with h | h
    · exact hbook.calledRouted routed h
    · exact absurd (List.mem_singleton.mp h).symm (hcalled .snapshot routed)

theorem Bookkeeping.emit {o : Observation} (hbook : s.Bookkeeping) (ho : o.Plain) :
    (s.emit o).Bookkeeping := by
  refine hbook.emit_allowed (ho.silent.allowed s.trace) (announced_append_silent _ ho.silent)
    (fun epoch => epochData_append_silent epoch _ ho.silent)
    (fun epoch => queuedFrames_append_plain epoch _ ho) ho.ne_admitted ?_
  rintro handler routed rfl
  exact ho

theorem Bookkeeping.invalidate (hbook : s.Bookkeeping) : s.invalidate.Bookkeeping where
  sessionOpen := hbook.sessionOpen
  unexpired := hbook.unexpired
  disciplined := hbook.disciplined
  announcedFresh := hbook.announcedFresh
  epochFresh := hbook.epochFresh
  admittedAnnounced := hbook.admittedAnnounced
  generations := fun attempt hmem => Nat.le_succ_of_le (hbook.generations attempt hmem)
  distinct := hbook.distinct
  earlierOver := hbook.earlierOver
  ordered := hbook.ordered
  calledRouted := hbook.calledRouted

/-- What `invalidate` leaves behind, whatever the phase is set to. -/
structure Dropped (s : ServerSubscription) : Prop where
  bookkeeping : s.Bookkeeping
  calm : s.Calm
  queue : s.queue = []
  inFlight : s.inFlight = none
  tail : s.tail = none
  unrouted : s.routed = false
  superseded : ∀ attempt ∈ s.pending, attempt.generation ≠ s.generation

/-- A dropped subscription whose last epoch is over. -/
structure Resting (s : ServerSubscription) : Prop extends Dropped s where
  epochOver : s.epoch ∈ announced s.trace → Over s.epoch s.trace

theorem Bookkeeping.dropped (hbook : s.Bookkeeping) (hcalm : s.Calm) : s.invalidate.Dropped where
  bookkeeping := hbook.invalidate
  calm := ⟨hcalm.untrusting, hcalm.jobs⟩
  queue := rfl
  inFlight := rfl
  tail := rfl
  unrouted := rfl
  superseded := by
    intro attempt hmem
    have hle := hbook.generations attempt hmem
    show attempt.generation ≠ s.generation + 1
    omega

/-- The fields that `Dropped` reads besides the bookkeeping's. -/
def holdings (s : ServerSubscription) := (s.queue, s.inFlight, s.tail, s.routed, s.jobs)

theorem Dropped.of_eq {s' : ServerSubscription} (hdropped : s.Dropped)
    (hledger : s'.ledger = s.ledger) (hholdings : s'.holdings = s.holdings) : s'.Dropped := by
  have hbook := hdropped.bookkeeping.of_ledger hledger
  simp only [ledger, holdings, Prod.mk.injEq] at hledger hholdings
  obtain ⟨-, -, -, -, -, hpending, hgeneration⟩ := hledger
  obtain ⟨hqueue, hinFlight, htail, hrouted, hjobs⟩ := hholdings
  constructor
  · exact hbook
  · exact ⟨hpending ▸ hdropped.calm.untrusting, hjobs.trans hdropped.calm.jobs⟩
  · exact hqueue.trans hdropped.queue
  · exact hinFlight.trans hdropped.inFlight
  · exact htail.trans hdropped.tail
  · exact hrouted.trans hdropped.unrouted
  · rw [hpending, hgeneration]; exact hdropped.superseded

theorem Dropped.emit {o : Observation} (hdropped : s.Dropped) (ho : o.Plain) :
    (s.emit o).Dropped where
  bookkeeping := hdropped.bookkeeping.emit ho
  calm := ⟨hdropped.calm.untrusting, hdropped.calm.jobs⟩
  queue := hdropped.queue
  inFlight := hdropped.inFlight
  tail := hdropped.tail
  unrouted := hdropped.unrouted
  superseded := hdropped.superseded

theorem Resting.emit {o : Observation} (hresting : s.Resting) (ho : o.Plain) :
    (s.emit o).Resting where
  toDropped := hresting.toDropped.emit ho
  epochOver := by
    intro hmem
    have hmem' : s.epoch ∈ announced s.trace := announced_append_silent s.trace ho.silent ▸ hmem
    exact (hresting.epochOver hmem').append [o]

/-- The phases of a subscription that holds no frame. -/
def Phase.resting : Phase → Bool
  | .capturing | .snapshotSent | .draining | .live => false
  | _ => true

theorem Resting.quiet (hresting : s.Resting) : s.Quiet :=
  ⟨hresting.queue, hresting.inFlight, hresting.tail, hresting.unrouted, hresting.epochOver⟩

theorem Quiet.phased (hquiet : s.Quiet) (hphase : Phase.resting s.phase = true) : s.Phased := by
  unfold Phased
  split
  all_goals first
    | exact hquiet
    | simp_all [Phase.resting]

/-- Attempts that were all superseded, none of them about to resume, fit any phase. -/
theorem Calm.attempts (hcalm : s.Calm)
    (hspent : ∀ attempt ∈ s.pending, attempt.generation ≠ s.generation) : s.Attempts := by
  constructor
  · intro attempt hmem hcurrent
    exact absurd hcurrent (hspent attempt hmem)
  · intro attempt hmem htrust
    rw [hcalm.untrusting attempt hmem] at htrust
    cases htrust
  · intro job hmem
    rw [hcalm.jobs] at hmem
    cases hmem

theorem Resting.isOpen (hresting : s.Resting) (hphase : Phase.resting s.phase = true) : s.Open where
  bookkeeping := hresting.bookkeeping
  phased := hresting.quiet.phased hphase
  attempts := hresting.calm.attempts hresting.superseded

section Operations

variable {limits : Limits} {readings : Readings}

/-- The frame that ends an epoch leaves the subscription resting, unless the client
is stalled. -/
theorem Dropped.sendState (hdropped : s.Dropped) (limits : Limits) (readings : Readings)
    (site : SendSite) (state : SubscriptionState) (reason : Option ErrorCode)
    (hplain : state ≠ .synchronizing ∧ state ≠ .live)
    (hover : s.epoch ∈ announced s.trace →
      Over s.epoch (s.trace ++ [.state ⟨s.epoch, state, reason⟩])) :
    (s.sendState limits readings site state reason).Shut ∨
      s.sendState limits readings site state reason =
          (s.publish state).emit (.state ⟨s.epoch, state, reason⟩) ∧
        (s.sendState limits readings site state reason).Resting := by
  rcases sendState_cases limits readings site state reason
    hdropped.bookkeeping.disciplined with h | h
  · exact .inl h
  · right
    refine ⟨h, ?_⟩
    rw [h]
    have hset : (s.publish state).Dropped := hdropped.of_eq rfl rfl
    have hplain' : Observation.Plain (.state ⟨s.epoch, state, reason⟩) := hplain
    constructor
    · exact hset.emit hplain'
    · intro hmem
      exact hover (announced_append_silent s.trace hplain'.silent ▸ hmem)

theorem Resting.of_eq {s' : ServerSubscription} (hresting : s.Resting)
    (hledger : s'.ledger = s.ledger) (hholdings : s'.holdings = s.holdings) : s'.Resting where
  toDropped := hresting.toDropped.of_eq hledger hholdings
  epochOver := by
    simp only [ledger, Prod.mk.injEq] at hledger
    obtain ⟨-, -, htrace, -, hepoch, -, -⟩ := hledger
    rw [htrace, hepoch]
    exact hresting.epochOver

theorem Resting.enter (hresting : s.Resting) (phase : Phase) : (s.enter phase).Resting :=
  hresting.of_eq rfl rfl

theorem Resting.publish (hresting : s.Resting) (state : SubscriptionState) :
    (s.publish state).Resting :=
  hresting.of_eq rfl rfl

theorem Resting.remove (hresting : s.Resting) : s.remove.Resting := hresting.of_eq rfl rfl

theorem Resting.sendState (hresting : s.Resting) (limits : Limits) (readings : Readings)
    (site : SendSite) (state : SubscriptionState) (reason : Option ErrorCode)
    (hplain : state ≠ .synchronizing ∧ state ≠ .live) :
    (s.sendState limits readings site state reason).Shut ∨
      s.sendState limits readings site state reason =
          (s.publish state).emit (.state ⟨s.epoch, state, reason⟩) ∧
        (s.sendState limits readings site state reason).Resting :=
  hresting.toDropped.sendState limits readings site state reason hplain
    fun hmem => (hresting.epochOver hmem).append _

theorem Bookkeeping.attemptFailed {code : ErrorCode} (hbook : s.Bookkeeping) (hcalm : s.Calm) :
    (s.attemptFailed limits readings code).Sound := by
  have hdropped : (s.invalidate.enter .backoff).Dropped := (hbook.dropped hcalm).of_eq rfl rfl
  have hstale := hdropped.sendState limits readings .attemptStale .stale (some code) (by simp)
    fun _ => over_of_invalidates _ _ (by simp [Observation.invalidates])
  unfold ServerSubscription.attemptFailed
  dsimp only
  rcases hstale with hshut | ⟨heq, hresting⟩
  · split
    · exact Shut.sound (Shut.sendState (Shut.sendError ⟨hshut.closed, hshut.trace⟩))
    · exact Shut.sound ⟨hshut.closed, hshut.trace⟩
  · rw [heq] at hresting ⊢
    split
    · -- the attempts are used up: an error and a resync-required state follow
      have hphase := hresting.enter .resyncRequired
      rcases sendError_cases limits readings .attemptError .resyncRequired
        hphase.bookkeeping.disciplined with h | h
      · exact Shut.sound (Shut.sendState h)
      · rw [h]
        have herror := hphase.emit (o := .error s.epoch .resyncRequired) trivial
        rcases herror.sendState limits readings .attemptResync .resyncRequired
          (some .resyncRequired) (by simp) with h' | ⟨h', hr⟩
        · exact h'.sound
        · refine .opened (hr.isOpen ?_)
          rw [h']
          rfl
    · exact .opened (Resting.isOpen (hresting.of_eq rfl rfl) rfl)

theorem Bookkeeping.protocolViolation (hbook : s.Bookkeeping) (hcalm : s.Calm) :
    (s.protocolViolation limits readings).Sound := by
  unfold ServerSubscription.protocolViolation
  rcases sendError_cases limits readings .violation .invalidRequest
    hbook.disciplined with h | h
  · exact h.attemptFailed.sound
  · rw [h]
    have herror := hbook.emit (o := .error s.epoch .invalidRequest) trivial
    exact herror.attemptFailed ⟨hcalm.untrusting, hcalm.jobs⟩

theorem Open.fail {code : ErrorCode} (hopen : s.Open) (hcalm : s.Calm) :
    (s.fail limits readings code).Sound := by
  unfold ServerSubscription.fail
  split
  · exact .opened hopen
  · have hdropped : (s.invalidate.enter .terminated).unregister.Dropped :=
      (hopen.bookkeeping.dropped hcalm).of_eq rfl rfl
    have hended : Resting ((s.invalidate.enter .terminated).unregister.emit
        (.terminated s.epoch)) :=
      ⟨hdropped.emit trivial, fun _ => over_of_invalidates s.epoch _
        (by simp [Observation.invalidates])⟩
    dsimp only
    rcases sendError_cases limits readings .failError code
      hended.bookkeeping.disciplined with h | h
    · have hsent : (sendState limits readings .failState .failed (some code) _).Shut :=
        h.sendState
      exact Shut.sound ⟨hsent.closed, hsent.trace⟩
    · change _ = ServerSubscription.emit (.error s.epoch code) _ at h
      rw [h]
      have herror := hended.emit (o := .error s.epoch code) trivial
      rcases herror.sendState limits readings .failState .failed (some code) (by simp) with h' | ⟨h', hr⟩
      · exact Shut.sound ⟨h'.closed, h'.trace⟩
      · rw [h'] at hr ⊢
        exact .opened (hr.remove.isOpen rfl)

/-- The attempt that a resting subscription begins is the only one of its generation. -/
theorem Resting.callAuthorize (hresting : s.Resting) (hphase : s.phase = .authorizing) :
    (s.callAuthorize s.generation).Open := by
  have hbegun : s.callAuthorize s.generation =
      (s.invoke s.generation .authorize).suspend s.generation .authorizeHandler := by
    simp [ServerSubscription.callAuthorize]
  rw [hbegun]
  have hbook := hresting.bookkeeping
  have hmem : ∀ attempt ∈ s.pending ++ [⟨s.generation, .authorizeHandler⟩],
      attempt ∈ s.pending ∨ attempt = ⟨s.generation, .authorizeHandler⟩ := by
    intro attempt h
    simpa using h
  constructor
  · constructor
    · exact hbook.sessionOpen
    · exact hbook.unexpired
    · exact hbook.disciplined
    · exact hbook.announcedFresh
    · exact hbook.epochFresh
    · exact hbook.admittedAnnounced
    · intro attempt h
      rcases hmem attempt h with h | rfl
      · exact hbook.generations attempt h
      · exact le_rfl
    · have hnew : s.generation ∉ s.pending.map Attempt.generation := by
        intro h
        obtain ⟨attempt, hattempt, hsame⟩ := List.mem_map.mp h
        exact hresting.superseded attempt hattempt hsame
      show (List.map Attempt.generation (s.pending ++ [⟨s.generation, .authorizeHandler⟩])).Nodup
      rw [List.map_append]
      exact List.Nodup.append hbook.distinct (by simp) (by simpa using hnew)
    · exact hbook.earlierOver
    · exact hbook.ordered
    · exact hbook.calledRouted
  · have hquiet : Quiet ((s.invoke s.generation .authorize).suspend s.generation
        .authorizeHandler) :=
      ⟨hresting.queue, hresting.inFlight, hresting.tail, hresting.unrouted, hresting.epochOver⟩
    refine hquiet.phased ?_
    show Phase.resting s.phase = true
    rw [hphase]
    rfl
  · constructor
    · intro attempt h hcurrent
      rcases hmem attempt h with h | rfl
      · exact absurd hcurrent (hresting.superseded attempt h)
      · exact hphase
    · intro attempt h htrust
      rcases hmem attempt h with h | rfl
      · rw [hresting.calm.untrusting attempt h] at htrust
        cases htrust
      · cases htrust
    · intro job h hsnapshot
      have hjobs : job ∈ s.jobs ++ [⟨s.generation, .authorize⟩] := h
      rw [hresting.calm.jobs] at hjobs
      simp only [List.nil_append, List.mem_singleton] at hjobs
      rw [hjobs] at hsnapshot
      cases hsnapshot

/-- An attempt may begin once its epoch is over, or with the announcement that ends it. -/
theorem Bookkeeping.beginAttempt {announce : Bool} (hbook : s.Bookkeeping) (hcalm : s.Calm)
    (hover : s.epoch ∈ announced s.trace →
      Over s.epoch (s.trace ++ if announce then [.state ⟨s.epoch, .authorizing, none⟩] else [])) :
    (s.beginAttempt limits readings announce).Sound := by
  have hdropped : ((s.invalidate.countAttempt 1).enter .authorizing).Dropped :=
    (hbook.dropped hcalm).of_eq rfl rfl
  unfold ServerSubscription.beginAttempt
  dsimp only
  unfold announceAttempt
  cases announce with
  | false =>
      have hresting : Resting ((s.invalidate.countAttempt 1).enter .authorizing) :=
        ⟨hdropped, fun h => List.append_nil s.trace ▸ hover h⟩
      exact .opened ((hresting.publish .authorizing).callAuthorize rfl)
  | true =>
      rcases hdropped.sendState limits readings .announce .authorizing none (by simp) hover with h | ⟨heq, hresting⟩
      · have hcalled : ∀ generation : ℕ, ((((s.invalidate.countAttempt 1).enter
            .authorizing).sendState limits readings .announce .authorizing none).callAuthorize
              generation).Shut := by
          intro generation
          unfold ServerSubscription.callAuthorize
          split <;> exact ⟨h.closed, h.trace⟩
        exact (hcalled _).sound
      · rw [heq] at hresting
        simp only [if_true]
        rw [heq]
        exact .opened (hresting.callAuthorize rfl)

end Operations

end ServerSubscription

end StreamOtter
