import StreamOtter.ServerStretches
import StreamOtter.ServerResumptions

/-!
# What one step does

Every step of a subscription is one of three: a stretch that begins and resumes no attempt, the
beginning of an attempt, or the resumption of one, which may be suspended again.
-/

namespace StreamOtter

/-- The phases in which a client's resync request starts afresh. -/
def Phase.renewable : Phase → Bool
  | .live | .resyncRequired => true
  | _ => false

def Observation.isResync : Observation → Bool
  | .resync _ => true
  | _ => false

/-- The steps that resume an attempt where it waits. -/
def ServerStep.resumes : ServerStep → Await → Bool
  | .resumeAuthorize _ _ _, .authorizeHandler | .resumeAuthorize _ _ _, .recheckHandler _ _
  | .resumeAuthorized _, .authorized | .resumeAuthorized _, .rechecked _ _
  | .resumePermit _ _, .permit | .resumeSnapshot _ _, .snapshotHandler _ => true
  | _, _ => false

namespace ServerSubscription

/-- The attempt that a step resumes. -/
def proceeding (s : ServerSubscription) (action : ServerStep) : Option Attempt :=
  (s.resumed action).filter fun attempt => action.resumes attempt.waiting

/-- What a step added to the trace. -/
def added (s s' : ServerSubscription) : List Observation := s'.trace.drop s.trace.length

/-- The attempts that resume to find the source unavailable. -/
def postponedBy (s : ServerSubscription) (action : ServerStep) : List ℕ :=
  match s.proceeding action with
  | some ⟨generation, .authorized⟩ => if s.source.ready then [] else [generation]
  | _ => []

/-- A resync request reached the subscription when it was live or had given up. -/
def resynced (s s' : ServerSubscription) : ServerStep → Bool
  | .resync => s.phase.renewable && (s.added s').any Observation.isResync
  | _ => false

/-- Where a resumed attempt may be suspended again. -/
inductive Follows : Await → Await → Prop
  | authorized : Follows .authorizeHandler .authorized
  | rechecked (boundary : Option BoundaryId) (snapshot : Snapshot) :
      Follows (.recheckHandler boundary snapshot) (.rechecked boundary snapshot)
  | permit : Follows .authorized .permit
  | snapshotHandler (boundary : Option BoundaryId) : Follows .permit (.snapshotHandler boundary)
  | recheckHandler (asked boundary : Option BoundaryId) (snapshot : Snapshot) :
      Follows (.snapshotHandler asked) (.recheckHandler boundary snapshot)

/-- What a step does. -/
inductive Course (maximum : ℤ) (s : ServerSubscription) (action : ServerStep)
    (s' : ServerSubscription) : Prop
  | stretch (h : Stretch maximum s s') (hstill : s.proceeding action = none)
      (hresynced : s.resynced s' action = false)
  /-- An attempt begins, perhaps after a resync request or a change of the source. -/
  | begins (t : ServerSubscription) (h : Begins t s') (hstill : s.proceeding action = none)
      (hpending : t.pending = s.pending) (hgeneration : t.generation = s.generation)
      (htrace : ∃ new, t.trace = s.trace ++ new ∧
        ∀ o ∈ new, o.isLive = false ∧ o.givesUp = false)
      (hattempts : t.attempts = 0 ∨ t.attempts = s.attempts ∧ s.resynced s' action = false)
  | proceeds (attempt : Attempt) (index : ℕ) (hproceeding : s.proceeding action = some attempt)
      (hindex : s.pending[index]? = some attempt) (hpostponed : s.postponedBy action = [])
      (hresynced : s.resynced s' action = false)
      (h : Proceeds (Ordinary maximum s.attempts) 0 attempt.generation (Follows attempt.waiting)
        (s.taken index) s')
  | postponed (attempt : Attempt) (index : ℕ) (hproceeding : s.proceeding action = some attempt)
      (hindex : s.pending[index]? = some attempt)
      (hpostponed : s.postponedBy action = [attempt.generation])
      (hresynced : s.resynced s' action = false)
      (h : Proceeds (fun o => o.isLive = false ∧ o.givesUp = false) (-1) attempt.generation
        (Follows attempt.waiting) (s.taken index) s')

variable {s s' t : ServerSubscription} {maximum : ℤ} {action : ServerStep}

theorem added_eq {new : List Observation} (htrace : s'.trace = s.trace ++ new) :
    s.added s' = new := by
  rw [added, htrace, List.drop_left]

theorem mem_pending_of_proceeding {attempt : Attempt}
    (hproceeding : s.proceeding action = some attempt) : attempt ∈ s.pending := by
  obtain ⟨hresumed, -⟩ := Option.filter_eq_some_iff.mp hproceeding
  revert hresumed
  cases action <;> first
    | exact List.mem_of_getElem?
    | exact fun h => nomatch h

theorem postponedBy_still (hstill : s.proceeding action = none) : s.postponedBy action = [] := by
  unfold postponedBy
  rw [hstill]

theorem Proceeds.mono {A : Observation → Prop} {change : ℤ} {generation : ℕ} {next next' : Await → Prop}
    (h : Proceeds A change generation next s s') (hnext : ∀ w, next w → next' w) :
    Proceeds A change generation next' s s' := by
  obtain ⟨suspended, hpending, hsuspended⟩ := h.pending
  exact ⟨⟨suspended, hpending, fun w hw => hnext w (hsuspended w hw)⟩, h.generation, h.attempts,
    h.trace⟩

theorem Calmly.course (h : Calmly (Ordinary maximum s.attempts) s s')
    (hstill : s.proceeding action = none) (hresynced : s.resynced s' action = false) :
    Course maximum s action s' :=
  .stretch h.stretch hstill hresynced

section Steps

variable {config : ServerConfig} {readings : Readings}

/-- A message is handled by the subscription as it stands, or nothing but its end follows. -/
theorem inbound_cases (config : ServerConfig) (readings : Readings)
    (handle : ServerSubscription → ServerSubscription) (s : ServerSubscription) :
    s.inbound config readings handle = handle s ∨
      Calmly (fun o => ∃ epoch, o = .terminated epoch) s (s.inbound config readings handle) := by
  have hchecked : Calmly (fun o => ∃ epoch, o = .terminated epoch) s
      (s.checkStalled config.limits readings .inbound) :=
    (Calmly.refl s).checkStalled fun epoch => ⟨epoch, rfl⟩
  unfold inbound
  dsimp only
  split
  · exact .inr hchecked
  · case isFalse hreached =>
      left
      have hopen : (s.checkStalled config.limits readings .inbound).sessionClosed = false := by
        revert hreached
        cases (s.checkStalled config.limits readings .inbound).sessionClosed <;> simp
      rw [checkStalled_open hopen]

theorem Calmly.ended (h : Calmly (fun o => ∃ epoch, o = .terminated epoch) s s')
    (hstill : s.proceeding action = none) : Course maximum s action s' := by
  obtain ⟨new, htrace, hnew⟩ := h.trace
  have hordinary : Calmly (Ordinary maximum s.attempts) s s' := by
    refine ⟨h.pending, h.generation, h.attempts, new, htrace, fun o ho => ?_⟩
    obtain ⟨epoch, rfl⟩ := hnew o ho
    exact ordinary_terminated epoch
  apply hordinary.course hstill
  unfold resynced
  split
  · rw [added_eq htrace]
    have hnone : new.any Observation.isResync = false := by
      apply List.any_eq_false.mpr
      intro o ho
      obtain ⟨epoch, rfl⟩ := hnew o ho
      exact Bool.false_ne_true
    rw [hnone, Bool.and_false]
  · rfl

theorem course_requestResync :
    Course config.limits.maxSyncAttempts s .resync
      ((s.emit (.resync s.epoch)).requestResync config.limits readings) := by
  have htrace : ∃ new, (s.emit (.resync s.epoch)).trace = s.trace ++ new ∧
      ∀ o ∈ new, o.isLive = false ∧ o.givesUp = false :=
    ⟨_, rfl, fun o ho => List.mem_singleton.mp ho ▸ ⟨rfl, rfl⟩⟩
  have hagain : s.phase.renewable = false → Course config.limits.maxSyncAttempts s .resync
      ((s.emit (.resync s.epoch)).beginAttempt config.limits readings true) := by
    intro hphase
    have hbegins : Begins (s.emit (.resync s.epoch))
        ((s.emit (.resync s.epoch)).beginAttempt config.limits readings true) := begins_beginAttempt
    refine .begins _ hbegins rfl rfl rfl htrace ?_
    exact .inr ⟨rfl, by rw [resynced, hphase, Bool.false_and]⟩
  have hafresh : Course config.limits.maxSyncAttempts s .resync
      (ServerSubscription.beginAttempt config.limits readings true
        { s.emit (.resync s.epoch) with attempts := 0 }) := by
    have hbegins : Begins { s.emit (.resync s.epoch) with attempts := 0 }
        (ServerSubscription.beginAttempt config.limits readings true
          { s.emit (.resync s.epoch) with attempts := 0 }) := begins_beginAttempt
    exact .begins _ hbegins rfl rfl rfl htrace (.inl rfl)
  have hphased : (s.emit (.resync s.epoch)).phase = s.phase := rfl
  unfold ServerSubscription.requestResync
  split
  · case h_1 hphase => exact hagain (by rw [← hphased, hphase]; rfl)
  · case h_2 hphase => exact hagain (by rw [← hphased, hphase]; rfl)
  · case h_3 hphase => exact hagain (by rw [← hphased, hphase]; rfl)
  · exact hafresh
  · exact hafresh
  · case h_6 hlive hresync =>
      have hphase : s.phase.renewable = false := by
        rw [← hphased]
        revert hlive hresync
        cases (s.emit (.resync s.epoch)).phase <;> simp [Phase.renewable]
      have hemitted : Calmly (Ordinary config.limits.maxSyncAttempts s.attempts) s
          (s.emit (.resync s.epoch)) := (Calmly.refl s).emit (.plain rfl rfl)
      exact hemitted.course rfl (by rw [resynced, hphase, Bool.false_and])

theorem course_setSourceStatus {status : SourceStatus} {reason : Option ErrorCode} :
    Course config.limits.maxSyncAttempts s (.setSourceStatus status reason)
      (s.setSourceStatus config.limits readings status reason) := by
  set changed : ServerSubscription := { s with source := s.source.setStatus status reason }
  have hchanged : Calmly (Ordinary config.limits.maxSyncAttempts s.attempts) s changed :=
    (Calmly.refl s).of_eq rfl (Nat.le_refl _) rfl rfl
  have hcalm : ∀ {s' : ServerSubscription},
      Calmly (Ordinary config.limits.maxSyncAttempts s.attempts) s s' →
      Course config.limits.maxSyncAttempts s (.setSourceStatus status reason) s' :=
    fun h => h.course rfl rfl
  have hleft : ∀ reason', Calmly (Ordinary config.limits.maxSyncAttempts s.attempts) s
      (changed.onSourceUnavailable config.limits readings reason') := by
    intro reason'
    have hwaiting : Calmly (Ordinary config.limits.maxSyncAttempts s.attempts) s
        (changed.invalidate.enter .waitingSource) := hchanged.of_eq rfl (Nat.le_succ _) rfl rfl
    have hsent : Calmly (Ordinary config.limits.maxSyncAttempts s.attempts) s
        ((changed.invalidate.enter .waitingSource).sendState config.limits readings .unavailable
          .stale (some reason')) :=
      hwaiting.sendState ordinary_terminated fun _ => .plain rfl rfl
    unfold ServerSubscription.onSourceUnavailable
    split
    all_goals first
      | exact hsent
      | exact hchanged
  unfold ServerSubscription.setSourceStatus
  split
  · exact hcalm (Calmly.refl s)
  · unfold ServerSubscription.sourceChanged
    split
    · exact hcalm hchanged
    · split
      · exact hcalm (hleft _)
      · split
        · unfold ServerSubscription.onSourceReady
          split
          · have hbegins : Begins changed (changed.beginAttempt config.limits readings true) :=
              begins_beginAttempt
            refine .begins changed hbegins rfl rfl rfl ?_ (.inr ⟨rfl, rfl⟩)
            exact ⟨[], (List.append_nil _).symm, fun _ h => by cases h⟩
          · exact hcalm hchanged
        · exact hcalm hchanged

/-- A resumption finds its attempt, or nothing happens. -/
theorem course_resume {index : ℕ}
    {continuation : Attempt → Option (ServerSubscription → ServerSubscription)}
    (hresumed : s.resumed action = s.pending[index]?)
    (hresumes : ∀ attempt, (continuation attempt).isSome = action.resumes attempt.waiting)
    (hresynced : ∀ s', s.resynced s' action = false)
    (hproceeds : ∀ attempt proceed, s.proceeding action = some attempt →
      s.pending[index]? = some attempt → continuation attempt = some proceed →
      Course maximum s action (proceed (s.taken index))) :
    Course maximum s action (s.resume index continuation) := by
  unfold resume
  split
  · case h_1 hnone =>
      refine (Calmly.refl s).course ?_ (hresynced s)
      unfold proceeding
      rw [hresumed]
      cases hindex : s.pending[index]? with
      | none => rfl
      | some attempt =>
          rw [hindex] at hnone
          have hunresumed : action.resumes attempt.waiting = false := by
            rw [← hresumes, show continuation attempt = none from hnone]
            rfl
          exact Option.filter_some_neg (by rw [hunresumed])
  · case h_2 proceed hfound =>
      obtain ⟨attempt, hindex, hattempt⟩ := Option.bind_eq_some_iff.mp hfound
      have hproceeding : s.proceeding action = some attempt := by
        unfold proceeding
        rw [hresumed, hindex]
        apply Option.filter_some_pos
        rw [← hresumes, hattempt]
        rfl
      exact hproceeds attempt proceed hproceeding hindex hattempt

/-- An attempt resumed on the word of `#authorize`: an unavailable source takes it back. -/
theorem course_resumeAuthorized {index : ℕ} :
    Course config.limits.maxSyncAttempts s (.resumeAuthorized index)
      (s.resume index (ServerSubscription.resumeAuthorized config readings)) := by
  apply course_resume rfl _ fun _ => rfl
  · rintro ⟨generation, waiting⟩ proceed hproceeding hindex hproceed
    rcases resumeAuthorized_eq_some hproceed with ⟨hwaiting, rfl⟩ | ⟨boundary, snapshot, hwaiting, rfl⟩
    · obtain rfl : waiting = .authorized := hwaiting
      cases hready : s.source.ready with
      | true =>
          have hproceeds : Proceeds (Ordinary config.limits.maxSyncAttempts s.attempts) 0
              generation (· = .permit) (s.taken index)
              ((s.taken index).afterAuthorized config.limits readings generation) :=
            proceeds_afterAuthorized (s := s.taken index) hready
          refine .proceeds _ index hproceeding hindex ?_ rfl (hproceeds.mono ?_)
          · simp [postponedBy, hproceeding, hready]
          · rintro w rfl
            exact .permit
      | false =>
          refine .postponed _ index hproceeding hindex ?_ rfl (proceeds_postponed hready)
          simp [postponedBy, hproceeding, hready]
    · obtain rfl : waiting = .rechecked boundary snapshot := hwaiting
      refine .proceeds _ index hproceeding hindex ?_ rfl ?_
      · simp [postponedBy, hproceeding]
      · exact (calmly_afterRechecked (s := s.taken index)).proceeds
  · rintro ⟨generation, waiting⟩
    cases waiting <;> rfl

/-- Every step has its course. -/
theorem course_step (action : ServerStep) :
    Course config.limits.maxSyncAttempts s action (s.step config ⟨action, readings⟩) := by
  have hrefl : Calmly (Ordinary config.limits.maxSyncAttempts s.attempts) s s := Calmly.refl s
  have hquiet : ∃ new, s.trace = s.trace ++ new ∧
      ∀ o ∈ new, o.isLive = false ∧ o.givesUp = false :=
    ⟨[], (List.append_nil _).symm, fun _ h => by cases h⟩
  unfold ServerSubscription.step
  cases action with
  | start =>
      dsimp only
      split
      · have hbegins : Begins { s with registered := true }
            (s.start config.limits readings) := begins_beginAttempt
        exact .begins _ hbegins rfl rfl rfl hquiet (.inr ⟨rfl, rfl⟩)
      · exact hrefl.course rfl rfl
  | admitFrame frame =>
      dsimp only
      split
      · exact (hrefl.admitFrame rfl).course rfl rfl
      · exact hrefl.course rfl rfl
  | receipt epoch sequence =>
      rcases inbound_cases config readings (fun s =>
        (s.emit (.receipt epoch sequence)).onReceipt config.limits readings epoch sequence) s with
        hhandled | hended
      · dsimp only
        rw [hhandled]
        refine .stretch ?_ rfl rfl
        apply Calmly.onReceipt
        exact (Calmly.refl s).emit ⟨rfl, rfl⟩
      · exact hended.ended rfl
  | resync =>
      rcases inbound_cases config readings (fun s =>
        (s.emit (.resync s.epoch)).requestResync config.limits readings) s with hhandled | hended
      · dsimp only
        rw [hhandled]
        exact course_requestResync
      · exact hended.ended rfl
  | unsubscribe =>
      rcases inbound_cases config readings (fun s => s.dispose.remove) s with hhandled | hended
      · dsimp only
        rw [hhandled]
        have hdisposed := hrefl.dispose ordinary_terminated
        have hremoved : Calmly (Ordinary config.limits.maxSyncAttempts s.attempts) s
            s.dispose.remove := hdisposed.of_eq rfl (Nat.le_refl _) rfl rfl
        exact hremoved.course rfl rfl
      · exact hended.ended rfl
  | setSourceStatus status reason => exact course_setSourceStatus
  | setBoundary boundary =>
      refine Calmly.course ?_ rfl rfl
      exact hrefl.of_eq rfl (Nat.le_refl _) rfl rfl
  | revoke =>
      dsimp only
      split
      · exact (hrefl.fail (by decide)).course rfl rfl
      · exact hrefl.course rfl rfl
  | closeSession => exact (hrefl.teardown ordinary_terminated).course rfl rfl
  | expire =>
      refine Calmly.course ?_ rfl rfl
      exact (hrefl.teardown ordinary_terminated).of_eq rfl (Nat.le_refl _) rfl rfl
  | receiptTimeout =>
      dsimp only
      split
      · have hfired : Calmly (Ordinary config.limits.maxSyncAttempts s.attempts) s
            { s with receiptTimer := false } := hrefl.of_eq rfl (Nat.le_refl _) rfl rfl
        exact (hfired.teardown ordinary_terminated).course rfl rfl
      · exact hrefl.course rfl rfl
  | retry =>
      dsimp only
      split
      · exact hrefl.course rfl rfl
      · split
        · have hbegins : Begins { s with retryTimer := none }
              (ServerSubscription.beginAttempt config.limits readings true
                { s with retryTimer := none }) := begins_beginAttempt
          exact .begins _ hbegins rfl rfl rfl hquiet (.inr ⟨rfl, rfl⟩)
        · refine Calmly.course ?_ rfl rfl
          exact hrefl.of_eq rfl (Nat.le_refl _) rfl rfl
  | elsewhere connection gateway =>
      refine Calmly.course ?_ rfl rfl
      exact hrefl.of_eq rfl (Nat.le_refl _) rfl rfl
  | callHandler index =>
      dsimp only
      unfold ServerSubscription.callHandler
      split
      · exact hrefl.course rfl rfl
      · case h_2 job hjob =>
          have hcalled : Calmly (Ordinary config.limits.maxSyncAttempts s.attempts) s
              { s with jobs := s.jobs.eraseIdx index } := hrefl.of_eq rfl (Nat.le_refl _) rfl rfl
          exact (hcalled.emit (.plain rfl rfl)).course rfl rfl
  | resumeAuthorize index outcome revoked =>
      apply course_resume rfl _ fun _ => rfl
      · intro attempt proceed hproceeding hindex hproceed
        obtain ⟨waiting, hreturns, rfl⟩ := resumeAuthorize_eq_some hproceed
        have hproceeds : Proceeds (Ordinary config.limits.maxSyncAttempts s.attempts) 0
            attempt.generation (· = waiting) (s.taken index) (awaitAuthorized attempt.generation
              waiting ((s.taken index).afterAuthorizeHandler config.limits readings
                attempt.generation outcome revoked)) :=
          proceeds_awaitAuthorized (s := s.taken index)
        refine .proceeds _ index hproceeding hindex ?_ rfl (hproceeds.mono ?_)
        · rcases attempt with ⟨generation, asked⟩
          cases hreturns <;> simp [postponedBy, hproceeding]
        · rintro w rfl
          rcases attempt with ⟨generation, asked⟩
          cases hreturns with
          | first => exact .authorized
          | recheck boundary snapshot => exact .rechecked boundary snapshot
      · rintro ⟨generation, waiting⟩
        cases waiting <;> rfl
  | resumeAuthorized index => exact course_resumeAuthorized
  | resumePermit index acquired =>
      apply course_resume rfl _ fun _ => rfl
      · rintro ⟨generation, waiting⟩ proceed hproceeding hindex hproceed
        obtain ⟨hwaiting, rfl⟩ := resumePermit_eq_some hproceed
        obtain rfl : waiting = .permit := hwaiting
        refine .proceeds _ index hproceeding hindex ?_ rfl
          ((proceeds_afterPermit (s := s.taken index)).mono ?_)
        · simp [postponedBy, hproceeding]
        · rintro w ⟨-, -, boundary, rfl⟩
          exact .snapshotHandler boundary
      · rintro ⟨generation, waiting⟩
        cases waiting <;> rfl
  | resumeSnapshot index outcome =>
      apply course_resume rfl _ fun _ => rfl
      · rintro ⟨generation, waiting⟩ proceed hproceeding hindex hproceed
        obtain ⟨boundary, hwaiting, rfl⟩ := resumeSnapshot_eq_some hproceed
        obtain rfl : waiting = .snapshotHandler boundary := hwaiting
        refine .proceeds _ index hproceeding hindex ?_ rfl
          ((proceeds_afterSnapshotHandler (s := s.taken index)).mono ?_)
        · simp [postponedBy, hproceeding]
        · rintro w ⟨snapshot, rfl⟩
          exact .recheckHandler boundary boundary snapshot
      · rintro ⟨generation, waiting⟩
        cases waiting <;> rfl

end Steps

end ServerSubscription

end StreamOtter
