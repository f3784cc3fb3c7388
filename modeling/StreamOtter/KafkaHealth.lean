import StreamOtter.KafkaSource

/-!
# When the Kafka adapter reports its source healthy

Subscriptions go live when a source is reported healthy, so the report has to come from a
consumer that belongs to its group.  `resume` and `advancePast` report on their own.
-/

namespace StreamOtter.KafkaSource

variable {options : KafkaOptions} {s s' : KafkaSource}

/-- Every report of a healthy source was made with the consumer in the group and not paused. -/
def ReportsAttached (s : KafkaSource) : Prop :=
  ∀ reason joined lost paused, .status .healthy reason joined lost paused ∈ s.told →
    joined = true ∧ lost = false ∧ paused = false

/-- What the reports say, whatever the status is now. -/
structure Reported (s : KafkaSource) : Prop where
  told : s.ReportsAttached
  paused : s.paused = true → s.status ≠ .healthy
  assignment : s.assignment ≠ none → s.joined = true
  advance : s.advance ≠ none → s.joined = true

/-- A source that counts as healthy has its assignment. -/
structure Attached (s : KafkaSource) : Prop extends Reported s where
  healthy : s.status = .healthy → s.stopping = false → s.joined = true ∧ s.lost = false

/-- Nothing that a report depends on has changed, and none was made. -/
structure Unreported (s s' : KafkaSource) : Prop where
  told : ∀ reason joined lost paused, .status .healthy reason joined lost paused ∈ s'.told →
    .status .healthy reason joined lost paused ∈ s.told
  status : s'.status = s.status
  paused : s'.paused = s.paused
  stopping : s'.stopping = s.stopping
  joined : s'.joined = s.joined
  lost : s'.lost = s.lost
  assignment : s'.assignment = s.assignment
  advance : s'.advance ≠ none → s.advance ≠ none ∨ s.assignment ≠ none

namespace Unreported

theorem refl (s : KafkaSource) : Unreported s s :=
  ⟨fun _ _ _ _ h => h, rfl, rfl, rfl, rfl, rfl, rfl, .inl⟩

theorem trans {t : KafkaSource} (h : Unreported s t) (h' : Unreported t s') : Unreported s s' where
  told reason joined lost paused hmem := h.told _ _ _ _ (h'.told _ _ _ _ hmem)
  status := h'.status.trans h.status
  paused := h'.paused.trans h.paused
  stopping := h'.stopping.trans h.stopping
  joined := h'.joined.trans h.joined
  lost := h'.lost.trans h.lost
  assignment := h'.assignment.trans h.assignment
  advance hadvance := by
    rcases h'.advance hadvance with hold | hassigned
    · exact h.advance hold
    · exact .inr (h.assignment ▸ hassigned)

/-- The fields that a report does not depend on are free. -/
theorem of_eq (htold : s'.told = s.told) (hstatus : s'.status = s.status)
    (hpaused : s'.paused = s.paused) (hstopping : s'.stopping = s.stopping)
    (hjoined : s'.joined = s.joined) (hlost : s'.lost = s.lost)
    (hassignment : s'.assignment = s.assignment) (hadvance : s'.advance = s.advance) :
    Unreported s s' :=
  ⟨fun _ _ _ _ h => htold ▸ h, hstatus, hpaused, hstopping, hjoined, hlost, hassignment,
    fun h => .inl (hadvance ▸ h)⟩

theorem tell {told : KafkaTold} (htold : ∀ status reason joined lost paused,
    told ≠ .status status reason joined lost paused) : Unreported s (s.tell told) := by
  refine ⟨?_, rfl, rfl, rfl, rfl, rfl, rfl, .inl⟩
  intro reason joined lost paused hmem
  rcases List.mem_append.mp hmem with hold | hnew
  · exact hold
  · exact absurd (List.mem_singleton.mp hnew).symm (htold _ _ _ _ _)

theorem retryNext (entries : List Uncommitted) (s : KafkaSource) :
    Unreported s (s.retryNext entries) := by
  induction entries generalizing s with
  | nil => exact .of_eq rfl rfl rfl rfl rfl rfl rfl rfl
  | cons pending rest ih =>
      unfold KafkaSource.retryNext
      split
      · split
        · have hforgot : Unreported s (s.forget pending.key) :=
            .of_eq rfl rfl rfl rfl rfl rfl rfl rfl
          exact hforgot.trans (ih _)
        · exact ih s
      · exact .of_eq rfl rfl rfl rfl rfl rfl rfl rfl

theorem answer (position : KafkaPosition) (result : AdvanceResult) (s : KafkaSource) :
    Unreported s (s.answer position result) := by
  have hended : Unreported s { s with advance := none } :=
    ⟨fun _ _ _ _ h => h, rfl, rfl, rfl, rfl, rfl, rfl, fun h => absurd rfl h⟩
  exact hended.trans (.tell (by simp))

theorem leave (position : KafkaPosition) (result : AdvanceResult) (s : KafkaSource) :
    Unreported s (s.leave position result) := by
  have hmarked : Unreported s { s with unreconciled := true } :=
    .of_eq rfl rfl rfl rfl rfl rfl rfl rfl
  exact hmarked.trans (answer position result _)

theorem batchAt (stage : BatchStage) (s : KafkaSource) : Unreported s (s.batchAt stage) :=
  .of_eq rfl rfl rfl rfl rfl rfl rfl rfl

theorem advanceAt (stage : AdvanceStage) (s : KafkaSource) : Unreported s (s.advanceAt stage) := by
  refine ⟨fun _ _ _ _ h => h, rfl, rfl, rfl, rfl, rfl, rfl, ?_⟩
  intro h
  exact .inl fun hnone => h (by simp [KafkaSource.advanceAt, hnone])

theorem settled (job : CommitJob) (call : ℕ) (took : Bool) (s : KafkaSource) :
    Unreported s (s.settled job call took) := by
  unfold KafkaSource.settled
  split
  · rename_i caller position
    cases took with
    | true =>
        simp only [if_true, commitSucceeded]
        set t : KafkaSource := { s with uncommitted := _ }
        have ht : Unreported s t := .of_eq rfl rfl rfl rfl rfl rfl rfl rfl
        cases caller with
        | record begun epoch => exact (ht.trans (.tell (by simp))).trans (.batchAt _ _)
        | retry pending => exact (ht.trans (.tell (by simp))).trans (.retryNext _ _)
        | advance begun =>
            dsimp only
            split
            · exact ht.trans (.leave _ _ _)
            · exact ht.trans (.advanceAt _ _)
    | false =>
        cases caller with
        | record begun epoch => exact .of_eq rfl rfl rfl rfl rfl rfl rfl rfl
        | retry pending => exact .retryNext _ _
        | advance begun => exact .leave _ _ _
  · exact .of_eq rfl rfl rfl rfl rfl rfl rfl rfl

theorem settle (resolved : Bool) (s : KafkaSource) : Unreported s (s.settle resolved) := by
  unfold KafkaSource.settle
  split
  · rename_i rest _ _
    have hpopped : Unreported s { s with inTurn := none, commits := rest } :=
      .of_eq rfl rfl rfl rfl rfl rfl rfl rfl
    exact hpopped.trans (.settled _ _ _ _)
  · exact .refl s

theorem turn (s : KafkaSource) : Unreported s s.turn := by
  unfold KafkaSource.turn
  split
  · rename_i job rest _ _
    split
    · exact .of_eq rfl rfl rfl rfl rfl rfl rfl rfl
    · have hpopped : Unreported s { s with commits := rest } :=
        .of_eq rfl rfl rfl rfl rfl rfl rfl rfl
      refine hpopped.trans ?_
      unfold passOver
      split
      · exact .retryNext _ _
      · exact .refl _
      · exact .of_eq rfl rfl rfl rfl rfl rfl rfl rfl
  · exact .refl s

theorem retryCommits (s : KafkaSource) : Unreported s s.retryCommits := by
  unfold KafkaSource.retryCommits
  split
  · exact .refl s
  · exact .retryNext _ _

theorem commitStartPositions (starts : Option (InsertionMap KafkaPosition.key))
    (assignment : List TopicPartition) (s : KafkaSource) :
    Unreported s (s.commitStartPositions starts assignment) := by
  unfold KafkaSource.commitStartPositions
  cases starts with
  | none => exact .of_eq rfl rfl rfl rfl rfl rfl rfl rfl
  | some starts =>
      dsimp only
      split <;> exact .of_eq rfl rfl rfl rfl rfl rfl rfl rfl

theorem advancePast (position : KafkaPosition) (s : KafkaSource) :
    Unreported s (s.advancePast position) := by
  unfold KafkaSource.advancePast
  split
  · exact .answer _ _ _
  · rename_i current hheld
    refine ⟨fun _ _ _ _ h => h, rfl, rfl, rfl, rfl, rfl, rfl, fun _ => .inr ?_⟩
    unfold heldAt at hheld
    split at hheld
    · rename_i hstate
      obtain ⟨assignment, hassignment, -⟩ := hstate.2.2.2
      simp [hassignment]
    · cases hheld

end Unreported

theorem Reported.unreported (h : Reported s) (hsame : Unreported s s') : Reported s' where
  told reason joined lost paused hmem := h.told _ _ _ _ (hsame.told _ _ _ _ hmem)
  paused hpaused := hsame.status ▸ h.paused (hsame.paused ▸ hpaused)
  assignment hassignment := hsame.joined ▸ h.assignment (hsame.assignment ▸ hassignment)
  advance hadvance := by
    rw [hsame.joined]
    rcases hsame.advance hadvance with hold | hassigned
    · exact h.advance hold
    · exact h.assignment hassigned

theorem Attached.unreported (h : Attached s) (hsame : Unreported s s') : Attached s' where
  toReported := h.toReported.unreported hsame
  healthy hstatus hstopping := by
    rw [hsame.joined, hsame.lost]
    exact h.healthy (hsame.status ▸ hstatus) (hsame.stopping ▸ hstopping)

/-- After a degrading event nothing has to be known of the assignment. -/
theorem Reported.degrade (h : Reported s) : Attached s.degrade := by
  unfold KafkaSource.degrade setStatus
  split
  · rename_i hquiet
    refine ⟨h, fun hstatus hstopping => ?_⟩
    simp only [hstopping, Bool.false_or] at hquiet
    exact absurd hstatus (h.paused hquiet)
  · split
    · rename_i hstatus
      exact ⟨h, fun hhealthy => by simp [hstatus] at hhealthy⟩
    · refine ⟨⟨?_, by simp [tell], h.assignment, h.advance⟩, by simp [tell]⟩
      intro reason joined lost paused hmem
      simp only [tell, List.mem_append, List.mem_singleton] at hmem
      rcases hmem with hold | hnew
      · exact h.told _ _ _ _ hold
      · cases hnew

/-- A healthy report needs the consumer in its group. -/
theorem Reported.setHealthy (h : Reported s) (hjoined : s.joined = true) (hlost : s.lost = false) :
    Attached (s.setStatus .healthy none) := by
  unfold setStatus
  split
  · exact ⟨h, fun _ _ => ⟨hjoined, hlost⟩⟩
  · rename_i hquiet
    have hpaused : s.paused = false := by
      cases hcase : s.paused
      · rfl
      · simp [hcase] at hquiet
    split
    · exact ⟨h, fun _ _ => ⟨hjoined, hlost⟩⟩
    · refine ⟨⟨?_, by simp [tell, hpaused], h.assignment, h.advance⟩, fun _ _ => ⟨hjoined, hlost⟩⟩
      intro reason joined lost paused hmem
      simp only [tell, List.mem_append, List.mem_singleton] at hmem
      rcases hmem with hold | hnew
      · exact h.told _ _ _ _ hold
      · cases hnew
        exact ⟨hjoined, hlost, hpaused⟩

theorem Attached.activity (h : Attached s) (hjoined : s.status = .degraded → s.joined = true) :
    Attached s.activity := by
  have hfound : Reported { s with lost := false } := ⟨h.told, h.paused, h.assignment, h.advance⟩
  unfold KafkaSource.activity
  dsimp only
  split
  · rename_i hdegraded
    exact hfound.setHealthy (hjoined hdegraded.1) rfl
  · exact ⟨hfound, fun hstatus hstopping => ⟨(h.healthy hstatus hstopping).1, rfl⟩⟩

/-- The consumer is in its group where the adapter is about to report a healthy source. -/
def KeepsAttached (s : KafkaSource) : KafkaStep → Prop
  | .resume => s.paused = true → s.joined = true ∧ s.lost = false
  | .confirmed recorded => recorded = true → s.lost = false
  | .fetch | .heartbeat | .commitOffsets => s.status = .degraded → s.joined = true
  | _ => True

instance (s : KafkaSource) : (step : KafkaStep) → Decidable (s.KeepsAttached step)
  | .resume => inferInstanceAs (Decidable (s.paused = true → s.joined = true ∧ s.lost = false))
  | .confirmed recorded => inferInstanceAs (Decidable (recorded = true → s.lost = false))
  | .fetch | .heartbeat | .commitOffsets =>
      inferInstanceAs (Decidable (s.status = .degraded → s.joined = true))
  | .start | .positionsRead _ | .groupJoin _ _ | .rebalancing | .fetchStart | .crash | .disconnect
  | .consumerStop | .eachBatch _ _ | .startCommitted | .message _ _ | .processed _
  | .beforeCommit _ | .beat _ | .turn | .settle _ | .land _ | .tick _ | .advancePast _
  | .connected _ | .fetched _ | .stop | .stopped => .isTrue trivial

theorem Attached.batchStep {f : KafkaBatch → KafkaPosition → List ℕ → KafkaSource → KafkaSource}
    (h : Attached s) (hf : ∀ batch position rest, Attached (f batch position rest s)) :
    Attached (s.batchStep f) := by
  unfold KafkaSource.batchStep
  split
  · split
    · exact hf _ _ _
    · exact h
  · exact h

theorem Attached.advanceStep {f : AdvanceCall → KafkaSource → KafkaSource}
    (h : Attached s) (hf : ∀ advance, s.advance = some advance → Attached (f advance s)) :
    Attached (s.advanceStep f) := by
  unfold KafkaSource.advanceStep
  split
  · exact hf _ ‹_›
  · exact h

theorem Attached.pauseAt (h : Attached s) (position : KafkaPosition) :
    Attached (s.pauseAt position) :=
  ⟨⟨h.told, fun _ => by simp [KafkaSource.pauseAt, seek], h.assignment, h.advance⟩,
    fun hstatus => by simp [KafkaSource.pauseAt, seek] at hstatus⟩

theorem Attached.processed (h : Attached s) (position : KafkaPosition)
    (outcome : Option ProcessOutcome) : Attached (s.processed position outcome) := by
  have hpaused := h.pauseAt position
  rcases outcome with _ | _ | _ | _ | _
  · exact h.unreported (.of_eq rfl rfl rfl rfl rfl rfl rfl rfl)
  · exact h.unreported (.of_eq rfl rfl rfl rfl rfl rfl rfl rfl)
  · refine hpaused.unreported (Unreported.trans ?_ (.tell (by simp)))
    exact .of_eq rfl rfl rfl rfl rfl rfl rfl rfl
  · exact hpaused.unreported (.of_eq rfl rfl rfl rfl rfl rfl rfl rfl)
  · exact h.unreported (.of_eq rfl rfl rfl rfl rfl rfl rfl rfl)

theorem Attached.resume (h : Attached s)
    (hkeeps : s.paused = true → s.joined = true ∧ s.lost = false) : Attached s.resume := by
  unfold KafkaSource.resume
  split
  · exact h
  · rename_i hpaused
    have hattached := hkeeps (by simpa using fun hf => hpaused (.inl hf))
    have hresumed : Reported { s with paused := false, held := none } :=
      ⟨h.told, by simp, h.assignment, h.advance⟩
    exact hresumed.setHealthy hattached.1 hattached.2

theorem Attached.confirmed {advance : AdvanceCall} {recorded : Bool} (h : Attached s)
    (hadvance : s.advance = some advance) (hlost : recorded = true → s.lost = false) :
    Attached (s.confirmed advance recorded) := by
  have hjoined := h.advance (by simp [hadvance])
  unfold KafkaSource.confirmed
  split
  · exact h.unreported (.leave _ _ _)
  · rename_i hrecorded
    split
    · exact h.unreported (.leave _ _ _)
    · set t : KafkaSource := ({ s with held := none, paused := false } : KafkaSource).seek _
      have hresumed : Reported t := ⟨h.told, by simp [t, seek], h.assignment, h.advance⟩
      have hkept := hlost (by simpa using hrecorded)
      exact (hresumed.setHealthy hjoined hkept).unreported (.answer _ _ _)

theorem Attached.groupJoin (h : Attached s) (assignment : List TopicPartition)
    (fetchFrom : TopicPartition → ℕ) : Attached (s.groupJoin assignment fetchFrom) := by
  unfold KafkaSource.groupJoin
  exact Reported.setHealthy ⟨h.told, h.paused, fun _ => rfl, fun _ => rfl⟩ rfl rfl

theorem Attached.lostAssignment (h : Attached s) : Reported s.lostAssignment :=
  ⟨h.told, h.paused, fun hnone => absurd rfl hnone, h.advance⟩

theorem attached_step {step : KafkaStep} (h : Attached s) (hkeeps : s.KeepsAttached step) :
    Attached (s.step options step) := by
  cases step with
  | start => exact h.unreported (.of_eq rfl rfl rfl rfl rfl rfl rfl rfl)
  | positionsRead starts =>
      simp only [KafkaSource.step, positionsRead]
      split
      · exact h.unreported (.of_eq rfl rfl rfl rfl rfl rfl rfl rfl)
      · exact h
  | groupJoin assignment fetchFrom => exact h.groupJoin assignment fetchFrom
  | rebalancing =>
      have hlost := h.lostAssignment
      exact Reported.degrade ⟨hlost.told, hlost.paused, hlost.assignment, hlost.advance⟩
  | fetchStart =>
      have hfetching : Unreported s { s with fetching := true } :=
        .of_eq rfl rfl rfl rfl rfl rfl rfl rfl
      simp only [KafkaSource.step, fetchStart]
      split
      · exact h.unreported (hfetching.trans (.commitStartPositions _ _ _))
      · exact h.unreported hfetching
  | fetch => exact h.activity hkeeps
  | heartbeat => exact h.activity hkeeps
  | commitOffsets =>
      have hcounted : Attached { s with commitEvents := s.commitEvents + 1 } :=
        h.unreported (.of_eq rfl rfl rfl rfl rfl rfl rfl rfl)
      exact hcounted.activity hkeeps
  | crash =>
      have hlost := h.lostAssignment
      exact Reported.degrade ⟨hlost.told, hlost.paused, hlost.assignment, hlost.advance⟩
  | consumerStop =>
      have hlost := h.lostAssignment
      exact Reported.degrade ⟨hlost.told, hlost.paused, hlost.assignment, hlost.advance⟩
  | disconnect => exact Reported.degrade ⟨h.told, h.paused, h.assignment, h.advance⟩
  | eachBatch key messages =>
      simp only [KafkaSource.step, eachBatch]
      split
      · exact h
      · exact h.unreported (.of_eq rfl rfl rfl rfl rfl rfl rfl rfl)
  | startCommitted => exact h.unreported (.batchAt _ _)
  | message running stale =>
      simp only [KafkaSource.step, message]
      split
      · exact h
      · split
        · exact h.unreported (.of_eq rfl rfl rfl rfl rfl rfl rfl rfl)
        · exact h.unreported (.batchAt _ _)
  | processed outcome => exact h.batchStep fun _ position _ => h.processed position outcome
  | beforeCommit resolved =>
      unfold KafkaSource.step
      apply h.batchStep
      intro batch position rest
      unfold beginCommit
      split <;> exact h.unreported (.of_eq rfl rfl rfl rfl rfl rfl rfl rfl)
  | beat resolved =>
      unfold KafkaSource.step
      apply h.batchStep
      intro batch position rest
      unfold beat
      split <;> exact h.unreported (.of_eq rfl rfl rfl rfl rfl rfl rfl rfl)
  | turn => exact h.unreported (.turn s)
  | settle resolved => exact h.unreported (.settle resolved s)
  | land offset => exact h.unreported (.of_eq rfl rfl rfl rfl rfl rfl rfl rfl)
  | tick silent =>
      have hwatched : Attached (s.checkWatchdog silent) := by
        unfold checkWatchdog
        split
        · exact h.toReported.degrade
        · exact h
      exact hwatched.unreported (.retryCommits _)
  | advancePast position => exact h.unreported (.advancePast position s)
  | connected resolved =>
      refine h.advanceStep fun advance _ => ?_
      unfold connected
      split
      · exact h.unreported (.leave _ _ _)
      · exact h.unreported (.advanceAt _ _)
  | fetched resolved =>
      refine h.advanceStep fun advance _ => ?_
      unfold fetched
      split
      · exact h.unreported (.leave _ _ _)
      · exact h.unreported (Unreported.trans (.tell (by simp)) (.advanceAt _ _))
  | confirmed recorded => exact h.advanceStep fun advance hadvance => h.confirmed hadvance hkeeps
  | resume => exact h.resume hkeeps
  | stop => exact ⟨⟨h.told, h.paused, h.assignment, h.advance⟩, by simp [KafkaSource.step]⟩
  | stopped =>
      exact ⟨⟨h.told, by simp [KafkaSource.step], h.assignment, h.advance⟩, by simp [KafkaSource.step]⟩

/-- The adapter between KafkaJS, the broker and its callers. -/
def machine (options : KafkaOptions) : Machine KafkaSource KafkaStep where
  step := KafkaSource.step options
  allowed := Enabled

instance (options : KafkaOptions) (s : KafkaSource) (step : KafkaStep) :
    Decidable ((machine options).allowed s step) :=
  inferInstanceAs (Decidable (s.Enabled step))

/-- Events in any order, as long as the adapter's own reports find the consumer in its group. -/
def attachedMachine (options : KafkaOptions) : Machine KafkaSource KafkaStep where
  step := KafkaSource.step options
  allowed := KeepsAttached

instance (options : KafkaOptions) (s : KafkaSource) (step : KafkaStep) :
    Decidable ((attachedMachine options).allowed s step) :=
  inferInstanceAs (Decidable (s.KeepsAttached step))

/-- A healthy source is reported, and stays the adapter's status, only while the consumer has
its assignment and is not paused. -/
def HealthyMeansAssigned (s : KafkaSource) : Prop :=
  s.ReportsAttached ∧
    (s.status = .healthy → s.stopping = false →
      s.joined = true ∧ s.lost = false ∧ s.paused = false)

theorem Attached.healthyMeansAssigned (h : Attached s) : s.HealthyMeansAssigned := by
  refine ⟨h.told, fun hstatus hstopping => ?_⟩
  obtain ⟨hjoined, hlost⟩ := h.healthy hstatus hstopping
  refine ⟨hjoined, hlost, ?_⟩
  cases hpaused : s.paused
  · rfl
  · exact absurd hstatus (h.paused hpaused)

theorem attached_create (options : KafkaOptions) (committed : TopicPartition → Option ℕ) :
    Attached (create options committed) := by
  refine ⟨⟨?_, ?_, by simp [create], by simp [create]⟩, ?_⟩
  · intro reason joined lost paused hmem
    cases hmem
  · intro hpaused
    simp only [create] at hpaused ⊢
    simp [hpaused]
  · intro hstatus
    simp only [create] at hstatus
    split at hstatus <;> cases hstatus

theorem healthyMeansAssigned_after (options : KafkaOptions) (committed : TopicPartition → Option ℕ)
    (steps : List KafkaStep)
    (hrun : (attachedMachine options).Admits (create options committed) steps) :
    ((attachedMachine options).after (create options committed) steps).HealthyMeansAssigned := by
  refine (Machine.invariant (P := Attached) ?_ (attached_create options committed)
    hrun).healthyMeansAssigned
  intro s step h hallowed
  exact attached_step h hallowed

section Sample

/-- A partition whose first record is poison. -/
def sampleKey : TopicPartition := ⟨"orders", 0⟩

/-- The adapter has paused at the first record. -/
def pausedRun : List KafkaStep :=
  [.start, .groupJoin [sampleKey] fun _ => 0, .fetchStart, .eachBatch sampleKey [0],
    .message true false, .processed (some .pause)]

/-- The group rebalances during the pause, and the retry comes after the new assignment. -/
def rejoinedRun : List KafkaStep :=
  pausedRun ++ [.rebalancing, .groupJoin [sampleKey] fun _ => 0, .resume]

theorem healthyMeansAssigned_rejoinedRun :
    ((attachedMachine ⟨false, false⟩).after (create ⟨false, false⟩ fun _ => none)
      rejoinedRun).HealthyMeansAssigned := by
  apply healthyMeansAssigned_after
  decide +kernel

/-- The retry comes while the group rebalances: the source is reported healthy without an
assignment, and the join that follows reports nothing. -/
def resumedRun : List KafkaStep := pausedRun ++ [.rebalancing, .resume]

theorem resume_reports_lost_source :
    ¬ ∀ (options : KafkaOptions) (committed : TopicPartition → Option ℕ) (steps : List KafkaStep),
      (machine options).Admits (create options committed) steps →
        ((machine options).after (create options committed) steps).HealthyMeansAssigned := by
  intro hclaim
  have hrun : (machine ⟨false, false⟩).Admits (create ⟨false, false⟩ fun _ => none) resumedRun := by
    decide +kernel
  have hreport := (hclaim _ _ _ hrun).1 none true true false (by decide)
  cases hreport.2.1

end Sample

end StreamOtter.KafkaSource
