import StreamOtter.ServerCapture

/-!
# Safety of the gateway's side of a subscription

Every step of the atomic machine keeps the invariant.
-/

namespace StreamOtter

namespace ServerSubscription

variable {s : ServerSubscription} {config : ServerConfig} {readings : Readings}

theorem Settled.calm (hsettled : s.Settled) : s.Calm := ⟨hsettled.1, hsettled.2.1⟩

/-- The snapshot handler is called while the subscription is in the routing index. -/
theorem Open.callHandler (hopen : s.Open) (index : ℕ) : (s.callHandler index).Open := by
  unfold ServerSubscription.callHandler
  split
  · exact hopen
  · case h_2 job hjob =>
      have hbook := hopen.bookkeeping
      have hsilent : Observation.Silent (.called job.handler s.routed) := trivial
      have hannounced := announced_append_silent s.trace hsilent
      have hqueued : ∀ epoch, queuedFrames epoch (s.trace ++ [.called job.handler s.routed]) =
          queuedFrames epoch s.trace := by
        intro epoch
        simp [queuedFrames]
      have hjobs : (withInert s s.publicState s.attempts s.retryTimer s.receiptTimer s.budget s.held
          s.registered s.source s.pending (s.jobs.eraseIdx index)).Phased := hopen.phased.inert
      refine ⟨?_, hjobs.emit hannounced fun sent hstream => ?_, ?_⟩
      · constructor
        · exact hbook.sessionOpen
        · exact hbook.unexpired
        · exact disciplined_append.mpr ⟨hbook.disciplined, trivial⟩
        · intro epoch hmem
          exact hbook.announcedFresh epoch (hannounced ▸ hmem)
        · exact hbook.epochFresh
        · intro epoch frame result hmem
          have hearlier : Observation.admitted epoch frame result ∈ s.trace := by
            simpa using hmem
          exact hannounced.symm ▸ hbook.admittedAnnounced epoch frame result hearlier
        · exact hbook.generations
        · exact hbook.distinct
        · intro epoch hmem hne
          exact (hbook.earlierOver epoch (hannounced ▸ hmem) hne).append _
        · intro epoch
          rw [trace_emit, epochData_append_silent epoch _ hsilent, hqueued]
          exact hbook.ordered epoch
        · intro routed hmem
          rcases List.mem_append.mp hmem with hmem | hmem
          · exact hbook.calledRouted routed hmem
          · simp only [List.mem_singleton, Observation.called.injEq] at hmem
            rw [hmem.2]
            exact hopen.attempts.snapshotJobs job (List.mem_of_getElem? hjob) hmem.1.symm
      · exact ⟨hannounced, epochData_append_silent _ _ hsilent, hqueued _,
          unreceipted_append _ _ _, by simp⟩
      · refine ⟨hopen.attempts.current, fun attempt hmem htrust => ?_, fun other hmem => ?_⟩
        · have hnone := (hopen.attempts.trusting attempt hmem htrust).2
          rw [hnone] at hjob
          cases hjob
        · exact hopen.attempts.snapshotJobs other (List.mem_of_mem_eraseIdx hmem)

/-- An attempt that trusts an earlier `#authorize` resumes. -/
theorem Open.resumeAuthorized (hopen : s.Open) (index : ℕ) :
    (s.resume index (ServerSubscription.resumeAuthorized config readings)).Sound := by
  refine resume_induction (.opened hopen) fun attempt proceed hindex hproceed => ?_
  have hmem : attempt ∈ s.pending := List.mem_of_getElem? hindex
  have hnew := hopen.bookkeeping.taken_distinct hindex
  have htaken := hopen.taken index
  rcases resumeAuthorized_eq_some hproceed with ⟨hwaiting, rfl⟩ | ⟨boundary, snapshot, hwaiting, rfl⟩
  · have htrust : attempt.waiting.afterAuthorize = true := by rw [hwaiting]; rfl
    have hcurrent := (hopen.attempts.trusting attempt hmem htrust).1
    have hfits := hopen.attempts.current attempt hmem hcurrent
    rw [hwaiting] at hfits
    exact htaken.afterAuthorized (hopen.calm_taken hindex htrust) hcurrent hnew hfits
  · have htrust : attempt.waiting.afterAuthorize = true := by rw [hwaiting]; rfl
    have hcurrent := (hopen.attempts.trusting attempt hmem htrust).1
    have hfits := hopen.attempts.current attempt hmem hcurrent
    rw [hwaiting] at hfits
    exact htaken.afterRechecked (hopen.calm_taken hindex htrust) hfits.1 (hcurrent ▸ hnew) hfits.2

/-- A message of the client reaches a calm subscription or finds the session shut. -/
theorem Open.inbound (hopen : s.Open) {handle : ServerSubscription → ServerSubscription}
    (hhandle : (handle s).Sound) : (s.inbound config readings handle).Sound := by
  unfold ServerSubscription.inbound
  rcases checkStalled_cases config.limits readings .inbound
    hopen.bookkeeping.disciplined with hshut | heq
  · dsimp only
    rw [if_pos (by simp [hshut.closed])]
    exact hshut.sound
  · rw [heq]
    dsimp only
    split
    · exact .opened hopen
    · exact hhandle

/-- An event from outside, taken while no promise job is queued. -/
theorem Open.step (hopen : s.Open) (hcalm : s.Calm) (action : ServerStep) :
    (s.step config ⟨action, readings⟩).Sound := by
  have htrace := hopen.bookkeeping.disciplined
  unfold ServerSubscription.step
  cases action with
  | start =>
      dsimp only
      split
      · case isTrue hphase =>
          have hquiet := hopen.quiet (by rw [hphase]; rfl)
          have hregistered : Open { s with registered := true } := hopen.inert
          exact hregistered.beginAttempt_quiet ⟨hcalm.untrusting, hcalm.jobs⟩
            ⟨hquiet.queue, hquiet.inFlight, hquiet.tail, hquiet.unrouted, hquiet.epochOver⟩
      · exact .opened hopen
  | admitFrame frame =>
      dsimp only
      split
      · case isTrue hrouted => exact hopen.admitFrame hcalm hrouted frame.isUpdate
      · exact .opened hopen
  | receipt epoch sequence => exact hopen.inbound (hopen.onReceipt hcalm epoch sequence)
  | resync => exact hopen.inbound (hopen.requestResync hcalm)
  | unsubscribe =>
      refine hopen.inbound ?_
      unfold ServerSubscription.dispose
      split
      · exact .opened hopen.inert
      · have hdropped : ((s.invalidate.enter .terminated).publish .closed).unregister.Dropped :=
          (hopen.bookkeeping.dropped hcalm).of_eq rfl rfl
        have hended : Resting (((s.invalidate.enter .terminated).publish .closed).unregister.emit
            (.terminated s.epoch)) :=
          ⟨hdropped.emit trivial, fun _ => over_of_invalidates s.epoch _
            (by simp [Observation.invalidates])⟩
        exact .opened (hended.remove.isOpen rfl)
  | setSourceStatus status reason => exact hopen.setSourceStatus hcalm
  | setBoundary boundary => exact .opened hopen.inert
  | revoke =>
      dsimp only
      split
      · exact hopen.fail hcalm
      · exact .opened hopen
  | closeSession => exact (shut_teardown htrace).sound
  | expire => exact Shut.sound ⟨(shut_teardown htrace).closed, (shut_teardown htrace).trace⟩
  | receiptTimeout =>
      dsimp only
      split
      · exact (shut_teardown (s := { s with receiptTimer := false }) htrace).sound
      · exact .opened hopen
  | retry =>
      dsimp only
      split
      · exact .opened hopen
      · have hfired : Open { s with retryTimer := none } := hopen.inert
        split
        · case isTrue hcurrent =>
            have hquiet := hopen.quiet (by rw [hcurrent.2]; rfl)
            exact hfired.beginAttempt_quiet ⟨hcalm.untrusting, hcalm.jobs⟩
              ⟨hquiet.queue, hquiet.inFlight, hquiet.tail, hquiet.unrouted, hquiet.epochOver⟩
        · exact .opened hfired
  | elsewhere connection gateway => exact .opened hopen.inert
  | callHandler index => exact .opened (hopen.callHandler index)
  | resumeAuthorized index => exact hopen.resumeAuthorized index
  | resumeAuthorize index outcome revoked =>
      refine resume_induction (.opened hopen) fun attempt proceed hindex hproceed => ?_
      obtain ⟨next, hnext, rfl⟩ := resumeAuthorize_eq_some hproceed
      have hmem : attempt ∈ s.pending := List.mem_of_getElem? hindex
      refine (hopen.taken index).resumeAuthorize (hcalm.taken index)
        (hopen.bookkeeping.taken_distinct hindex) fun hcurrent => ?_
      have hfits := hopen.attempts.current attempt hmem hcurrent
      generalize attempt.waiting = waiting at hnext hfits
      cases hnext with
      | first => exact hfits
      | recheck boundary snapshot => exact hfits
  | resumePermit index acquired =>
      refine resume_induction (.opened hopen) fun attempt proceed hindex hproceed => ?_
      obtain ⟨hwaiting, rfl⟩ := resumePermit_eq_some hproceed
      have hmem : attempt ∈ s.pending := List.mem_of_getElem? hindex
      refine (hopen.taken index).afterPermit (hcalm.taken index)
        (hopen.bookkeeping.taken_distinct hindex) fun hcurrent => ?_
      have hfits := hopen.attempts.current attempt hmem hcurrent
      rw [hwaiting] at hfits
      exact hfits
  | resumeSnapshot index outcome =>
      refine resume_induction (.opened hopen) fun attempt proceed hindex hproceed => ?_
      obtain ⟨boundary, hwaiting, rfl⟩ := resumeSnapshot_eq_some hproceed
      have hmem : attempt ∈ s.pending := List.mem_of_getElem? hindex
      refine (hopen.taken index).afterSnapshotHandler (hcalm.taken index)
        (hopen.bookkeeping.taken_distinct hindex) fun hcurrent => ?_
      have hfits := hopen.attempts.current attempt hmem hcurrent
      rw [hwaiting] at hfits
      exact hfits

/-- Every step of the atomic machine keeps the invariant. -/
theorem Sound.step (hsound : s.Sound) (input : ServerInput)
    (hallowed : (atomicMachine config).allowed s input) : (s.step config input).Sound := by
  rcases input with ⟨action, readings⟩
  cases hsound with
  | closed hclosed htrace =>
      have hshut : s.Shut := ⟨hclosed, htrace⟩
      exact (hshut.step ⟨action, readings⟩).sound
  | expired hexpiring htrace huntrusting =>
      have hjob : s.IsJob action = true := by
        rcases hallowed with hjob | hsettled
        · exact hjob
        · rw [hsettled.2.2] at hexpiring
          cases hexpiring
      cases action with
      | callHandler index =>
          show (s.callHandler index).Sound
          unfold ServerSubscription.callHandler
          split
          · exact .expired hexpiring htrace huntrusting
          · exact .expired hexpiring (disciplined_append.mpr ⟨htrace, trivial⟩) huntrusting
      | resumeAuthorized index =>
          refine resume_induction (.expired hexpiring htrace huntrusting)
            fun attempt proceed hindex hproceed => ?_
          have hnone := huntrusting attempt (List.mem_of_getElem? hindex)
          rcases resumeAuthorized_eq_some hproceed with ⟨hwaiting, -⟩ | ⟨_, _, hwaiting, -⟩ <;>
            · rw [hwaiting] at hnone
              cases hnone
      | expire => exact Shut.sound ⟨(shut_teardown htrace).closed, (shut_teardown htrace).trace⟩
      | _ => simp [IsJob] at hjob
  | opened hopen =>
      rcases hallowed with hjob | hsettled
      · cases action with
        | callHandler index => exact .opened (hopen.callHandler index)
        | resumeAuthorized index => exact hopen.resumeAuthorized index
        | expire =>
            have htrace := hopen.bookkeeping.disciplined
            exact Shut.sound ⟨(shut_teardown htrace).closed, (shut_teardown htrace).trace⟩
        | _ => simp [IsJob] at hjob
      · exact hopen.step hsettled.calm action

theorem initial_open (budget : SubscriptionBudget) (source : SourceRuntime) :
    (initial budget source).Open where
  bookkeeping := by
    constructor <;> simp [initial, disciplined_nil, announced, epochData]
  phased := by
    have hquiet : (initial budget source).Quiet := by
      constructor <;> simp [initial, announced]
    exact hquiet.phased rfl
  attempts := by
    constructor <;> simp [initial]

/-- Every run of the atomic machine keeps the invariant. -/
theorem sound_after (config : ServerConfig) (budget : SubscriptionBudget)
    (source : SourceRuntime) {inputs : List ServerInput}
    (hrun : (atomicMachine config).Admits (initial budget source) inputs) :
    ((atomicMachine config).after (initial budget source) inputs).Sound :=
  Machine.invariant (fun _ input hsound hallowed => hsound.step input hallowed)
    (.opened (initial_open budget source)) hrun

end ServerSubscription

end StreamOtter
