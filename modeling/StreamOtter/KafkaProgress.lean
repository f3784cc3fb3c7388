import StreamOtter.KafkaHealth

/-!
# What the adapter commits past

Whatever the adapter passes to `commitOffsets`, and wherever it lets KafkaJS go on, every record
below is accounted for: it was processed, or an advance past it was allowed.
-/

namespace StreamOtter

/-- The records of a group's partitions, the group's offsets at first, and where it starts in a
partition without one. -/
structure KafkaLog where
  records : KafkaPosition → Bool
  committed : TopicPartition → Option ℕ
  first : TopicPartition → ℕ

/-- The starting position of a partition. -/
def KafkaLog.start (log : KafkaLog) (key : TopicPartition) : ℕ :=
  (log.committed key).getD (log.first key)

/-- Every record of the partition from the start up to the offset is accounted for. -/
def KafkaLog.Covered (log : KafkaLog) (done : KafkaPosition → Prop) (key : TopicPartition)
    (bound : ℕ) : Prop :=
  ∀ record : KafkaPosition, record.key = key → log.records record →
    log.start key ≤ record.offset → record.offset < bound → done record

def CommitJob.ofRecord : CommitJob → Bool
  | .commit (.record _ _) _ => true
  | _ => false

/-- The record of the batch has been processed. -/
def BatchStage.handled : BatchStage → Bool
  | .beforeCommit | .committing | .heartbeat => true
  | .starting | .loop | .processing => false

/-- KafkaJS delivers a partition from the group's committed offset, or from where a group without
one starts, and leaves no record out. -/
def KafkaLog.Delivers (log : KafkaLog) (s : KafkaSource) : KafkaStep → Prop
  | .groupJoin assignment fetchFrom =>
      ∀ key ∈ assignment, s.committed key = none → fetchFrom key = log.start key
  | .eachBatch key messages =>
      ∀ bound ∈ messages, ∀ offset < bound, log.records { key with offset } →
        s.fetchFrom key ≤ offset → offset ∈ messages
  | _ => True

instance (log : KafkaLog) (s : KafkaSource) : (step : KafkaStep) → Decidable (log.Delivers s step)
  | .groupJoin assignment fetchFrom =>
      inferInstanceAs (Decidable (∀ key ∈ assignment, s.committed key = none →
        fetchFrom key = log.start key))
  | .eachBatch key messages =>
      inferInstanceAs (Decidable (∀ bound ∈ messages, ∀ offset < bound,
        log.records { key with offset } → s.fetchFrom key ≤ offset → offset ∈ messages))
  | .start | .positionsRead _ | .rebalancing | .fetchStart | .fetch | .heartbeat | .commitOffsets
  | .crash | .disconnect | .consumerStop | .startCommitted | .message _ _ | .processed _
  | .beforeCommit _ | .beat _ | .turn | .settle _ | .land _ | .tick _ | .advancePast _
  | .connected _ | .fetched _ | .confirmed _ | .resume | .stop | .stopped => .isTrue trivial

/-- The record that a step finds processed with outcome commit. -/
def KafkaSource.processes (s : KafkaSource) : KafkaStep → Option KafkaPosition
  | .processed (some .commit) =>
      s.batch.bind fun batch => batch.messages.head?.map fun offset => { batch.key with offset }
  | _ => none

variable {options : KafkaOptions} {s s' : KafkaSource} {log : KafkaLog}
  {done done' : KafkaPosition → Prop} {key : TopicPartition}

namespace KafkaLog.Covered

theorem mono {bound : ℕ} (h : log.Covered done key bound)
    (hdone : ∀ record, done record → done' record) : log.Covered done' key bound :=
  fun record hkey hexists hstart hbound => hdone record (h record hkey hexists hstart hbound)

theorem mono_bound {bound bound' : ℕ} (h : log.Covered done key bound) (hle : bound' ≤ bound) :
    log.Covered done key bound' := fun record hkey hexists hstart hbound =>
  h record hkey hexists hstart (Nat.lt_of_lt_of_le hbound hle)

theorem of_le_start {bound : ℕ} (hle : bound ≤ log.start key) : log.Covered done key bound := by
  intro record hkey _ hstart hbound
  omega

/-- One record further. -/
theorem next {position : KafkaPosition} (h : log.Covered done position.key position.offset)
    (hdone : done position) : log.Covered done position.key (position.offset + 1) := by
  intro record hkey hexists hstart hbound
  rcases Nat.lt_or_eq_of_le (Nat.le_of_lt_succ hbound) with hbelow | hat
  · exact h record hkey hexists hstart hbelow
  · exact KafkaPosition.eq_of_key hkey hat ▸ hdone

end KafkaLog.Covered

namespace KafkaSource

/-- Nothing is passed over: all that the adapter holds lies behind records that are accounted
for. -/
structure Skipless (log : KafkaLog) (done : KafkaPosition → Prop) (s : KafkaSource) : Prop where
  committed : ∀ key offset, s.committed key = some offset → log.Covered done key offset
  calls : ∀ call ∈ s.calls, log.Covered done call.offset.key call.offset.offset
  commits : ∀ job ∈ s.commits, ∀ offset ∈ job.offsets, log.Covered done offset.key offset.offset
  uncommitted : ∀ pending ∈ s.uncommitted.values,
    log.Covered done pending.key (pending.position.offset + 1)
  retrying : ∀ entries ∈ s.retrying, ∀ pending ∈ entries,
    log.Covered done pending.key (pending.position.offset + 1)
  starts : ∀ assignment ∈ s.startJoin, ∀ starts ∈ s.startPositions,
    ∀ start ∈ startOffsets starts assignment, log.Covered done start.key start.offset
  unjoined : s.joined = false → s.startJoin = none
  fetch : ∀ key, s.assigned key → log.Covered done key (s.fetchFrom key)
  ascending : ∀ batch ∈ s.batch, batch.messages.Pairwise (· < ·)
  batch : ∀ batch ∈ s.batch, ∀ bound ∈ batch.messages, ∀ record : KafkaPosition,
    record.key = batch.key → log.records record → log.start batch.key ≤ record.offset →
      record.offset < bound → done record ∨ record.offset ∈ batch.messages
  handled : ∀ batch ∈ s.batch, batch.stage.handled → ∀ offset rest,
    batch.messages = offset :: rest → done { batch.key with offset }
  /-- One batch at most waits for the commit of its record. -/
  single : s.commits.Pairwise fun job other => ¬ (job.ofRecord = true ∧ other.ofRecord = true)
  awaited : ∀ job ∈ s.commits, job.ofRecord = true → s.batchIs .committing
  held : ∀ held ∈ s.held, log.Covered done held.position.key held.position.offset
  advance : ∀ advance ∈ s.advance, log.Covered done advance.position.key
    (advance.position.offset + 1)

theorem not_committing {batch : KafkaBatch} (hbatch : s.batch = some batch)
    (hstage : batch.stage ≠ .committing) : ¬ s.batchIs .committing := by
  rintro ⟨other, hother, hcommitting⟩
  obtain rfl := Option.some.inj (hbatch.symm.trans hother)
  exact hstage hcommitting

namespace Skipless

theorem mono (h : Skipless log done s) (hdone : ∀ record, done record → done' record) :
    Skipless log done' s where
  committed key offset hcommitted := (h.committed key offset hcommitted).mono hdone
  calls call hcall := (h.calls call hcall).mono hdone
  commits job hjob offset hoffset := (h.commits job hjob offset hoffset).mono hdone
  uncommitted pending hpending := (h.uncommitted pending hpending).mono hdone
  retrying entries hentries pending hpending :=
    (h.retrying entries hentries pending hpending).mono hdone
  starts assignment hjoin starts hstarts start hstart :=
    (h.starts assignment hjoin starts hstarts start hstart).mono hdone
  unjoined := h.unjoined
  fetch key hassigned := (h.fetch key hassigned).mono hdone
  ascending := h.ascending
  batch batch hbatch bound hbound record hkey hexists hstart hlt :=
    (h.batch batch hbatch bound hbound record hkey hexists hstart hlt).imp_left (hdone record)
  handled batch hbatch hstage offset rest hmessages :=
    hdone _ (h.handled batch hbatch hstage offset rest hmessages)
  single := h.single
  awaited := h.awaited
  held held hheld := (h.held held hheld).mono hdone
  advance advance hadvance := (h.advance advance hadvance).mono hdone

/-- The fields that are not about positions are free. -/
theorem of_eq (h : Skipless log done s) (hcommitted : s'.committed = s.committed)
    (hcalls : s'.calls = s.calls) (hcommits : s'.commits = s.commits)
    (huncommitted : s'.uncommitted = s.uncommitted) (hretrying : s'.retrying = s.retrying)
    (hstarts : s'.startPositions = s.startPositions) (hjoin : s'.startJoin = s.startJoin)
    (hassignment : s'.assignment = s.assignment) (hfetch : s'.fetchFrom = s.fetchFrom)
    (hbatch : s'.batch = s.batch) (hheld : s'.held = s.held) (hadvance : s'.advance = s.advance)
    (hjoined : s'.joined = s.joined) : Skipless log done s' where
  committed := hcommitted ▸ h.committed
  calls := hcalls ▸ h.calls
  commits := hcommits ▸ h.commits
  uncommitted := huncommitted ▸ h.uncommitted
  retrying := hretrying ▸ h.retrying
  starts := hjoin ▸ hstarts ▸ h.starts
  unjoined := hjoin ▸ hjoined ▸ h.unjoined
  fetch key hassigned := by
    unfold assigned at hassigned
    rw [hassignment] at hassigned
    rw [hfetch]
    exact h.fetch key hassigned
  ascending := hbatch ▸ h.ascending
  batch := hbatch ▸ h.batch
  handled := hbatch ▸ h.handled
  single := hcommits ▸ h.single
  awaited := by
    unfold batchIs
    rw [hcommits, hbatch]
    exact h.awaited
  held := hheld ▸ h.held
  advance := hadvance ▸ h.advance

/-- A batch that waits for something else has no commit in the chain. -/
theorem unrecorded (h : Skipless log done s) (hbatch : ¬ s.batchIs .committing) :
    ∀ job ∈ s.commits, job.ofRecord = false := by
  intro job hjob
  cases hrecord : job.ofRecord with
  | false => rfl
  | true => exact absurd (h.awaited job hjob hrecord) hbatch

theorem endBatch (h : Skipless log done s) (hunrecorded : ∀ job ∈ s.commits, job.ofRecord = false) :
    Skipless log done s.endBatch :=
  { h with
    ascending := fun _ hnone => by cases hnone
    batch := fun _ hnone => by cases hnone
    handled := fun _ hnone => by cases hnone
    awaited := fun job hjob hrecord => by
      rw [hunrecorded job hjob] at hrecord
      cases hrecord }

theorem answer (h : Skipless log done s) (position : KafkaPosition) (result : AdvanceResult) :
    Skipless log done (s.answer position result) :=
  { h with advance := fun _ hnone => by cases hnone }

theorem leave (h : Skipless log done s) (position : KafkaPosition) (result : AdvanceResult) :
    Skipless log done (s.leave position result) :=
  { h with advance := fun _ hnone => by cases hnone }

theorem advanceAt (h : Skipless log done s) (stage : AdvanceStage) :
    Skipless log done (s.advanceAt stage) := by
  refine { h with advance := ?_ }
  intro advance hadvance
  simp only [KafkaSource.advanceAt, Option.mem_def, Option.map_eq_some_iff] at hadvance
  obtain ⟨first, hfirst, rfl⟩ := hadvance
  exact h.advance first hfirst

/-- The batch goes on to another await. -/
theorem batchAt (h : Skipless log done s) (stage : BatchStage)
    (hunrecorded : stage = .committing ∨ ∀ job ∈ s.commits, job.ofRecord = false)
    (hhandled : stage.handled → ∀ batch ∈ s.batch, ∀ offset rest,
      batch.messages = offset :: rest → done { batch.key with offset }) :
    Skipless log done (s.batchAt stage) := by
  have hkept : ∀ batch' ∈ (s.batchAt stage).batch, ∃ batch ∈ s.batch,
      batch' = { batch with stage } := by
    intro batch' hbatch'
    simp only [KafkaSource.batchAt, Option.mem_def, Option.map_eq_some_iff] at hbatch'
    obtain ⟨batch, hfound, rfl⟩ := hbatch'
    exact ⟨batch, hfound, rfl⟩
  refine { h with ascending := ?_, batch := ?_, handled := ?_, awaited := ?_ }
  · intro batch' hbatch'
    obtain ⟨batch, hbatch, rfl⟩ := hkept batch' hbatch'
    exact h.ascending batch hbatch
  · intro batch' hbatch'
    obtain ⟨batch, hbatch, rfl⟩ := hkept batch' hbatch'
    exact h.batch batch hbatch
  · intro batch' hbatch' hstage
    obtain ⟨batch, hbatch, rfl⟩ := hkept batch' hbatch'
    exact hhandled hstage batch hbatch
  · intro job hjob hrecord
    rcases hunrecorded with rfl | hnone
    · obtain ⟨batch, hbatch, -⟩ := h.awaited job hjob hrecord
      exact ⟨{ batch with stage := .committing }, by simp_all [KafkaSource.batchAt], rfl⟩
    · rw [hnone job hjob] at hrecord
      cases hrecord

/-- A job joins the chain that is not a record's. -/
theorem enqueue (h : Skipless log done s) {job : CommitJob} (hjob : job.ofRecord = false)
    (hcovered : ∀ offset ∈ job.offsets, log.Covered done offset.key offset.offset) :
    Skipless log done { s with commits := s.commits ++ [job] } := by
  refine { h with commits := ?_, single := ?_, awaited := ?_ }
  · intro other hother
    rcases List.mem_append.mp hother with hold | hnew
    · exact h.commits other hold
    · rw [List.mem_singleton.mp hnew]
      exact hcovered
  · refine List.pairwise_append.mpr ⟨h.single, List.pairwise_singleton _ _, ?_⟩
    intro first _ other hother hrecords
    rw [List.mem_singleton.mp hother, hjob] at hrecords
    cases hrecords.2
  · intro other hother hrecord
    rcases List.mem_append.mp hother with hold | hnew
    · exact h.awaited other hold hrecord
    · rw [List.mem_singleton.mp hnew, hjob] at hrecord
      cases hrecord

theorem forget (h : Skipless log done s) (p : Uncommitted → Bool) :
    Skipless log done { s with uncommitted := s.uncommitted.filter p } := by
  refine { h with uncommitted := ?_ }
  exact fun pending hpending => h.uncommitted pending (List.mem_of_mem_filter hpending)

theorem retryNext (h : Skipless log done s) {entries : List Uncommitted}
    (hentries : ∀ pending ∈ entries, log.Covered done pending.key (pending.position.offset + 1)) :
    Skipless log done (s.retryNext entries) := by
  induction entries generalizing s with
  | nil => exact { h with retrying := fun _ hnone => by cases hnone }
  | cons pending rest ih =>
      have hrest := fun other hother => hentries other (List.mem_cons_of_mem _ hother)
      unfold KafkaSource.retryNext
      split
      · split
        · exact ih (h.forget _) hrest
        · exact ih h hrest
      · have hqueued : Skipless log done (s.commit (.retry pending) pending.position) := by
          apply h.enqueue rfl
          intro offset hoffset
          rw [List.mem_singleton.mp hoffset]
          exact hentries pending List.mem_cons_self
        refine { hqueued with retrying := ?_ }
        rintro entries ⟨⟩
        exact hrest

theorem waiting (h : Skipless log done s) : ∀ pending ∈ s.retrying.getD [],
    log.Covered done pending.key (pending.position.offset + 1) := by
  intro pending hpending
  cases hretrying : s.retrying with
  | none => simp [hretrying] at hpending
  | some entries => exact h.retrying entries hretrying pending (by simpa [hretrying] using hpending)

theorem pop {job : CommitJob} {rest : List CommitJob} (h : Skipless log done s)
    (hcommits : s.commits = job :: rest) (turn : Option CommitTurn) :
    Skipless log done { s with inTurn := turn, commits := rest } := by
  have hsub : ∀ other ∈ rest, other ∈ s.commits := fun other hother =>
    hcommits ▸ List.mem_cons_of_mem _ hother
  have hsingle := h.single
  rw [hcommits] at hsingle
  exact { h with
    commits := fun other hother => h.commits other (hsub other hother)
    single := hsingle.of_cons
    awaited := fun other hother => h.awaited other (hsub other hother) }

theorem call {job : CommitJob} (h : Skipless log done s) (hjob : job ∈ s.commits) :
    Skipless log done (s.call job) := by
  refine { h with calls := ?_ }
  intro call hcall
  rcases List.mem_append.mp hcall with hold | hadded
  · exact h.calls call hold
  · obtain ⟨offset, hoffset, rfl⟩ := List.mem_map.mp hadded
    exact h.commits job hjob offset hoffset

theorem turn (h : Skipless log done s) : Skipless log done s.turn := by
  unfold KafkaSource.turn
  split
  · rename_i job rest _ hcommits
    split
    · exact h.call (hcommits ▸ List.mem_cons_self)
    · have hpopped := h.pop hcommits s.inTurn
      unfold passOver
      split
      · exact hpopped.retryNext hpopped.waiting
      · exact hpopped
      · exact hpopped.of_eq rfl rfl rfl rfl rfl rfl rfl rfl rfl rfl rfl rfl rfl
  · exact h

/-- The commit in its turn ends, and its caller goes on. -/
theorem settle (h : Skipless log done s) (resolved : Bool) :
    Skipless log done (s.settle resolved) := by
  unfold KafkaSource.settle
  split
  · rename_i turn job rest _ hcommits
    have hpopped := h.pop hcommits none
    match job with
    | .start _ _ => exact hpopped.of_eq rfl rfl rfl rfl rfl rfl rfl rfl rfl rfl rfl rfl rfl
    | .commit caller position =>
        have hmem : CommitJob.commit caller position ∈ s.commits := hcommits ▸ List.mem_cons_self
        have hcovered : log.Covered done position.key (position.offset + 1) :=
          h.commits _ hmem _ (List.mem_singleton_self _)
        have hrecord : ∀ begun epoch, caller = .record begun epoch →
            s.batchIs .committing ∧ ∀ other ∈ rest, other.ofRecord = false := by
          rintro begun epoch rfl
          have hsingle := h.single
          rw [hcommits, List.pairwise_cons] at hsingle
          refine ⟨h.awaited _ hmem rfl, fun other hother => ?_⟩
          have hnot := hsingle.1 other hother
          cases hother' : other.ofRecord with
          | false => rfl
          | true => exact absurd ⟨rfl, hother'⟩ hnot
        simp only [settled]
        split
        · have hfiltered := hpopped.forget fun pending =>
            pending.key ≠ position.key || decide (position.offset < pending.position.offset)
          unfold commitSucceeded
          cases caller with
          | record begun epoch =>
              obtain ⟨⟨batch, hbatch, hstage⟩, hothers⟩ := hrecord begun epoch rfl
              refine Skipless.batchAt ?_ _ (.inr hothers) fun _ batch' hbatch' => ?_
              · exact hfiltered.of_eq rfl rfl rfl rfl rfl rfl rfl rfl rfl rfl rfl rfl rfl
              · obtain rfl := Option.some.inj (hbatch.symm.trans hbatch')
                exact h.handled batch hbatch (by simp [hstage, BatchStage.handled])
          | retry pending =>
              refine Skipless.retryNext ?_ hfiltered.waiting
              exact hfiltered.of_eq rfl rfl rfl rfl rfl rfl rfl rfl rfl rfl rfl rfl rfl
          | advance begun =>
              dsimp only
              split
              · exact hfiltered.leave _ _
              · exact hfiltered.advanceAt _
        · cases caller with
          | record begun epoch =>
              refine { hpopped.endBatch (hrecord begun epoch rfl).2 with uncommitted := ?_ }
              intro pending hpending
              rcases InsertionMap.mem_set.mp hpending with rfl | ⟨hold, -⟩
              · exact hcovered
              · exact h.uncommitted pending hold
          | retry pending => exact hpopped.retryNext hpopped.waiting
          | advance begun => exact hpopped.leave _ _
  · exact h

theorem setStatus (h : Skipless log done s) (status : KafkaStatus) (reason : Option ErrorCode) :
    Skipless log done (s.setStatus status reason) := by
  unfold KafkaSource.setStatus
  split
  · exact h
  · split
    · exact h
    · exact h.of_eq rfl rfl rfl rfl rfl rfl rfl rfl rfl rfl rfl rfl rfl

theorem activity (h : Skipless log done s) : Skipless log done s.activity := by
  have hheard : Skipless log done { s with lost := false } :=
    h.of_eq rfl rfl rfl rfl rfl rfl rfl rfl rfl rfl rfl rfl rfl
  unfold KafkaSource.activity
  dsimp only
  split
  · exact hheard.setStatus _ _
  · exact hheard

theorem tick (h : Skipless log done s) (silent : Bool) :
    Skipless log done (s.checkWatchdog silent).retryCommits := by
  have hchecked : Skipless log done (s.checkWatchdog silent) := by
    unfold checkWatchdog
    split
    · exact h.setStatus _ _
    · exact h
  unfold retryCommits
  split
  · exact hchecked
  · exact hchecked.retryNext hchecked.uncommitted

theorem lostAssignment (h : Skipless log done s) : Skipless log done s.lostAssignment := by
  refine { h with fetch := ?_ }
  rintro key ⟨assignment, hnone, -⟩
  cases hnone

theorem crash (h : Skipless log done s) : Skipless log done s.crash := by
  have hlost : Skipless log done { s.lostAssignment with lost := true } :=
    h.lostAssignment.of_eq rfl rfl rfl rfl rfl rfl rfl rfl rfl rfl rfl rfl rfl
  exact hlost.setStatus _ _

theorem rebalance (h : Skipless log done s) : Skipless log done s.rebalance := by
  have hlost : Skipless log done { s.lostAssignment with rebalancing := true, lost := true } :=
    h.lostAssignment.of_eq rfl rfl rfl rfl rfl rfl rfl rfl rfl rfl rfl rfl rfl
  exact hlost.setStatus _ _

/-- The group is delivered each partition from its committed offset, or from its start. -/
theorem groupJoin (h : Skipless log done s) {assignment : List TopicPartition}
    {fetchFrom : TopicPartition → ℕ}
    (hcommitted : ∀ key ∈ assignment,
      s.committed key = none ∨ s.committed key = some (fetchFrom key))
    (hstart : ∀ key ∈ assignment, s.committed key = none → fetchFrom key = log.start key)
    (hpositions : ∀ starts ∈ s.startPositions, ∀ start ∈ starts.values,
      start.offset ≤ fetchFrom start.key) :
    Skipless log done (s.groupJoin assignment fetchFrom) := by
  have hfetch : ∀ key ∈ assignment, log.Covered done key (fetchFrom key) := by
    intro key hkey
    rcases hcommitted key hkey with hnone | hsome
    · exact .of_le_start (Nat.le_of_eq (hstart key hkey hnone))
    · exact h.committed key _ hsome
  apply Skipless.setStatus
  refine { h with starts := ?_, unjoined := nofun, fetch := ?_ }
  · intro joined hjoin starts hstarts start hmem
    dsimp only at hjoin hstarts
    split at hstarts
    · rw [if_neg (by simp [Option.mem_def.mp hstarts]), if_pos ‹_›] at hjoin
      obtain rfl := Option.some.inj hjoin
      obtain ⟨key, hkey, hget⟩ := List.mem_filterMap.mp hmem
      obtain ⟨hvalue, rfl⟩ := InsertionMap.get_eq_some.mp hget
      exact (hfetch _ hkey).mono_bound (hpositions starts hstarts start hvalue)
    · cases hstarts
  · rintro key ⟨joined, hjoined, hkey⟩
    obtain rfl := Option.some.inj hjoined
    exact hfetch key hkey

theorem positionsRead (h : Skipless log done s) (hunjoined : s.joined = false)
    (starts : InsertionMap KafkaPosition.key) :
    Skipless log done (s.positionsRead options starts) := by
  unfold KafkaSource.positionsRead
  split
  · refine { h with starts := ?_ }
    intro assignment hassignment
    rw [Option.mem_def, h.unjoined hunjoined] at hassignment
    cases hassignment
  · exact h

/-- The start positions of the first assignment join the chain. -/
theorem fetchStart (h : Skipless log done s) : Skipless log done s.fetchStart := by
  have hfetching : Skipless log done { s with fetching := true } :=
    h.of_eq rfl rfl rfl rfl rfl rfl rfl rfl rfl rfl rfl rfl rfl
  unfold KafkaSource.fetchStart
  dsimp only
  split
  · rename_i assignment hjoin
    have hcleared : Skipless log done
        { s with fetching := true, startPositions := none, startJoin := none } :=
      { hfetching with
        starts := fun _ hnone => by cases hnone
        unjoined := fun _ => rfl }
    unfold commitStartPositions
    dsimp only
    split
    · exact hcleared
    · rename_i starts hstarts
      split
      · exact hcleared
      · have hjob : (CommitJob.start s.assignmentEpoch
            (startOffsets starts assignment)).ofRecord = false := rfl
        have hqueued := hcleared.enqueue hjob (h.starts assignment hjoin starts hstarts)
        exact hqueued.of_eq rfl rfl rfl rfl rfl rfl rfl rfl rfl rfl rfl rfl rfl
  · exact hfetching

/-- A batch holds every record from where KafkaJS is up to each of its messages. -/
theorem eachBatch (h : Skipless log done s) {messages : List ℕ} (hnone : s.batch = none)
    (hassigned : s.assigned key) (hascending : messages.Pairwise (· < ·))
    (hwhole : ∀ bound ∈ messages, ∀ offset < bound, log.records { key with offset } →
      s.fetchFrom key ≤ offset → offset ∈ messages) :
    Skipless log done (s.eachBatch key messages) := by
  unfold KafkaSource.eachBatch
  split
  · exact h
  · have hunrecorded := h.unrecorded (by simp [batchIs, hnone])
    refine { h with ascending := ?_, batch := ?_, handled := ?_, awaited := ?_ }
    · rintro batch ⟨⟩
      exact hascending
    · rintro batch ⟨⟩ bound hbound record rfl hexists hstart hlt
      rcases Nat.lt_or_ge record.offset (s.fetchFrom record.key) with hpassed | hfrom
      · exact .inl (h.fetch _ hassigned record rfl hexists hstart hpassed)
      · exact .inr (hwhole bound hbound record.offset hlt hexists hfrom)
    · rintro batch ⟨⟩ hstage
      dsimp only at hstage
      split at hstage <;> cases hstage
    · intro job hjob hrecord
      rw [hunrecorded job hjob] at hrecord
      cases hrecord

/-- The records before the one the batch is at are accounted for. -/
theorem at_head (h : Skipless log done s) {batch : KafkaBatch} {offset : ℕ} {rest : List ℕ}
    (hbatch : s.batch = some batch) (hmessages : batch.messages = offset :: rest) :
    log.Covered done batch.key offset := by
  intro record hkey hexists hstart hlt
  have hascending := h.ascending batch hbatch
  rw [hmessages, List.pairwise_cons] at hascending
  refine (h.batch batch hbatch offset (hmessages ▸ List.mem_cons_self) record hkey hexists hstart
    hlt).resolve_right ?_
  rw [hmessages, List.mem_cons]
  rintro (hat | hbehind)
  · exact Nat.lt_irrefl _ (hat ▸ hlt)
  · exact Nat.lt_asymm hlt (hascending.1 _ hbehind)

theorem message (h : Skipless log done s) (running stale : Bool) (hloop : s.batchIs .loop) :
    Skipless log done (s.message running stale) := by
  obtain ⟨batch, hbatch, hstage⟩ := hloop
  have hunrecorded := h.unrecorded (not_committing hbatch (by simp [hstage]))
  unfold KafkaSource.message
  split
  · exact h
  · split
    · exact h.endBatch hunrecorded
    · exact h.batchAt .processing (.inr hunrecorded) (by simp [BatchStage.handled])

theorem seek (h : Skipless log done s) {position : KafkaPosition}
    (hcovered : log.Covered done position.key position.offset) :
    Skipless log done (s.seek position) := by
  refine { h with fetch := ?_ }
  intro key hassigned
  by_cases hkey : key = position.key
  · subst hkey
    simpa [KafkaSource.seek] using hcovered
  · simpa [KafkaSource.seek, Function.update_of_ne hkey] using h.fetch key hassigned

theorem pauseAt (h : Skipless log done s) {position : KafkaPosition}
    (hcovered : log.Covered done position.key position.offset) :
    Skipless log done (s.pauseAt position) := by
  apply Skipless.seek ?_ hcovered
  exact h.of_eq rfl rfl rfl rfl rfl rfl rfl rfl rfl rfl rfl rfl rfl

theorem processed (h : Skipless log done s) {batch : KafkaBatch} {offset : ℕ} {rest : List ℕ}
    (hbatch : s.batch = some batch) (hmessages : batch.messages = offset :: rest)
    (hstage : batch.stage = .processing) (outcome : Option ProcessOutcome)
    (hdone : outcome = some .commit → done { batch.key with offset }) :
    Skipless log done (s.processed { batch.key with offset } outcome) := by
  have hunrecorded := h.unrecorded (not_committing hbatch (by simp [hstage]))
  have hhead := h.at_head hbatch hmessages
  unfold KafkaSource.processed
  split
  · exact h.endBatch hunrecorded
  · exact h.endBatch hunrecorded
  · exact (h.pauseAt hhead).endBatch hunrecorded
  · refine { (h.pauseAt hhead).endBatch hunrecorded with held := ?_ }
    rintro held ⟨⟩
    exact hhead
  · have hposition := hdone rfl
    refine Skipless.batchAt (h.seek (KafkaLog.Covered.next hhead hposition)) _ (.inr hunrecorded) ?_
    intro _ other hother offset' rest' hmessages'
    obtain rfl := Option.some.inj (hbatch.symm.trans hother)
    obtain ⟨rfl, rfl⟩ := List.cons.inj (hmessages.symm.trans hmessages')
    exact hposition

/-- The commit of the processed record joins the chain. -/
theorem beginCommit (h : Skipless log done s) {batch : KafkaBatch} {offset : ℕ} {rest : List ℕ}
    (hbatch : s.batch = some batch) (hmessages : batch.messages = offset :: rest)
    (hstage : batch.stage = .beforeCommit) (resolved : Bool) :
    Skipless log done (s.beginCommit { batch.key with offset } batch.begun resolved) := by
  have hunrecorded := h.unrecorded (not_committing hbatch (by simp [hstage]))
  have hdone := h.handled batch hbatch (by simp [hstage, BatchStage.handled]) offset rest hmessages
  have hcovered := KafkaLog.Covered.next (h.at_head hbatch hmessages) hdone
  unfold KafkaSource.beginCommit
  split
  · exact h.endBatch hunrecorded
  · have hmoved := h.batchAt .committing (.inl rfl) (by
      intro _ other hother offset' rest' hmessages'
      obtain rfl := Option.some.inj (hbatch.symm.trans hother)
      obtain ⟨rfl, rfl⟩ := List.cons.inj (hmessages.symm.trans hmessages')
      exact hdone)
    refine { hmoved with commits := ?_, single := ?_, awaited := ?_ }
    · intro job hjob
      rcases List.mem_append.mp hjob with hold | hnew
      · exact hmoved.commits job hold
      · rw [List.mem_singleton.mp hnew]
        intro next hnext
        rw [List.mem_singleton.mp hnext]
        exact hcovered
    · refine List.pairwise_append.mpr ⟨h.single, List.pairwise_singleton _ _, ?_⟩
      intro job hjob other _ hrecords
      rw [hunrecorded job hjob] at hrecords
      cases hrecords.1
    · intro job _ _
      exact ⟨{ batch with stage := .committing }, by simp [KafkaSource.batchAt, commit, hbatch], rfl⟩

/-- The batch goes on behind the record, which was processed. -/
theorem beat (h : Skipless log done s) {batch : KafkaBatch} {offset : ℕ} {rest : List ℕ}
    (hbatch : s.batch = some batch) (hmessages : batch.messages = offset :: rest)
    (hstage : batch.stage = .heartbeat) (resolved : Bool) :
    Skipless log done (s.beat rest resolved) := by
  have hunrecorded := h.unrecorded (not_committing hbatch (by simp [hstage]))
  have hdone := h.handled batch hbatch (by simp [hstage, BatchStage.handled]) offset rest hmessages
  unfold KafkaSource.beat
  split
  · have hascending := h.ascending batch hbatch
    rw [hmessages] at hascending
    rw [hbatch]
    refine { h with ascending := ?_, batch := ?_, handled := ?_, awaited := ?_ }
    · rintro other ⟨⟩
      exact hascending.of_cons
    · rintro other ⟨⟩ bound hbound record hkey hexists hstart hlt
      rcases h.batch batch hbatch bound (hmessages ▸ List.mem_cons_of_mem _ hbound) record hkey
        hexists hstart hlt with hdone' | hmem
      · exact .inl hdone'
      · rw [hmessages, List.mem_cons] at hmem
        rcases hmem with hat | hbehind
        · have hposition : record = { batch.key with offset } := KafkaPosition.eq_of_key hkey hat
          exact .inl (hposition ▸ hdone)
        · exact .inr hbehind
    · rintro other ⟨⟩ hhandled
      cases hhandled
    · intro job hjob hrecord
      rw [hunrecorded job hjob] at hrecord
      cases hrecord
  · exact h.endBatch hunrecorded

theorem resume (h : Skipless log done s) : Skipless log done s.resume := by
  unfold KafkaSource.resume
  split
  · exact h
  · have hreleased : Skipless log done { s with paused := false, held := none } :=
      { h with held := fun _ hnone => by cases hnone }
    exact hreleased.setStatus _ _

/-- The advance past the held record was allowed, and its commit joins the chain. -/
theorem advancePast (h : Skipless log done s) {position : KafkaPosition} (hdone : done position) :
    Skipless log done (s.advancePast position) := by
  unfold KafkaSource.advancePast
  split
  · exact h.answer _ _
  · rename_i current hcurrent
    unfold heldAt at hcurrent
    split at hcurrent
    · obtain ⟨hheld, hposition⟩ := Option.filter_eq_some_iff.mp hcurrent
      obtain rfl : current.position = position := by simpa using hposition
      have hcovered := (h.held current hheld).next hdone
      have hasked : Skipless log done { s with
          advance := some ⟨current.position, s.assignmentEpoch, current, .committing⟩ } := by
        refine { h with advance := ?_ }
        rintro advance ⟨⟩
        exact hcovered
      apply hasked.enqueue rfl
      intro offset hoffset
      rw [List.mem_singleton.mp hoffset]
      exact hcovered
    · cases hcurrent

theorem connected (h : Skipless log done s) (advance : AdvanceCall) (resolved : Bool) :
    Skipless log done (s.connected advance resolved) := by
  unfold KafkaSource.connected
  split
  · exact h.leave _ _
  · exact h.advanceAt _

theorem fetched (h : Skipless log done s) (advance : AdvanceCall) (resolved : Bool) :
    Skipless log done (s.fetched advance resolved) := by
  unfold KafkaSource.fetched
  split
  · exact h.leave _ _
  · apply Skipless.advanceAt
    exact h.of_eq rfl rfl rfl rfl rfl rfl rfl rfl rfl rfl rfl rfl rfl

/-- The source goes on behind the record it was advanced past. -/
theorem confirmed (h : Skipless log done s) {advance : AdvanceCall} (hadvance : s.advance = some advance)
    (recorded : Bool) : Skipless log done (s.confirmed advance recorded) := by
  unfold KafkaSource.confirmed
  split
  · exact h.leave _ _
  · split
    · exact h.leave _ _
    · have hreleased : Skipless log done { s with held := none, paused := false } :=
        { h with held := fun _ hnone => by cases hnone }
      exact ((hreleased.seek (h.advance advance hadvance)).setStatus _ _).answer _ _

/-- A commit that was called takes effect. -/
theorem land (h : Skipless log done s) {offset : KafkaPosition}
    (hcovered : log.Covered done offset.key offset.offset) :
    Skipless log done (s.land offset) := by
  refine { h with committed := ?_ }
  intro key found hfound
  by_cases hkey : key = offset.key
  · subst hkey
    simp only [KafkaSource.land, Function.update_self, Option.some.injEq] at hfound
    exact hfound ▸ hcovered
  · simp only [KafkaSource.land, Function.update_of_ne hkey] at hfound
    exact h.committed key found hfound

theorem batchStep (h : Skipless log done s)
    {f : KafkaBatch → KafkaPosition → List ℕ → KafkaSource → KafkaSource}
    (hf : ∀ batch offset rest, s.batch = some batch → batch.messages = offset :: rest →
      Skipless log done (f batch { batch.key with offset } rest s)) :
    Skipless log done (s.batchStep f) := by
  unfold KafkaSource.batchStep
  split
  · rename_i batch hbatch
    split
    · rename_i offset rest hmessages
      exact hf batch offset rest hbatch hmessages
    · exact h
  · exact h

theorem advanceStep (h : Skipless log done s) {f : AdvanceCall → KafkaSource → KafkaSource}
    (hf : ∀ advance, s.advance = some advance → Skipless log done (f advance s)) :
    Skipless log done (s.advanceStep f) := by
  unfold KafkaSource.advanceStep
  split
  · exact hf _ ‹_›
  · exact h

end Skipless

theorem skipless_step {step : KafkaStep} (h : Skipless log done s) (henabled : s.Enabled step)
    (hdelivers : log.Delivers s step) (hprocessed : ∀ position ∈ s.processes step, done position)
    (hadvanced : ∀ position, step = .advancePast position → done position) :
    Skipless log done (s.step options step) := by
  cases step with
  | start => exact h.of_eq rfl rfl rfl rfl rfl rfl rfl rfl rfl rfl rfl rfl rfl
  | positionsRead starts => exact h.positionsRead henabled.2.1 starts
  | groupJoin assignment fetchFrom => exact h.groupJoin henabled.2.1 hdelivers henabled.2.2
  | rebalancing => exact h.rebalance
  | fetchStart => exact h.fetchStart
  | fetch => exact h.activity
  | heartbeat => exact h.activity
  | commitOffsets =>
      have hcounted : Skipless log done { s with commitEvents := s.commitEvents + 1 } :=
        h.of_eq rfl rfl rfl rfl rfl rfl rfl rfl rfl rfl rfl rfl rfl
      exact hcounted.activity
  | crash => exact h.crash
  | consumerStop => exact h.crash
  | disconnect =>
      have hlost : Skipless log done { s with lost := true } :=
        h.of_eq rfl rfl rfl rfl rfl rfl rfl rfl rfl rfl rfl rfl rfl
      exact hlost.setStatus _ _
  | eachBatch key messages =>
      exact h.eachBatch henabled.1 henabled.2.2.1 henabled.2.2.2.1 hdelivers
  | startCommitted =>
      obtain ⟨⟨batch, hbatch, hstage⟩, -⟩ := henabled
      have hunrecorded := h.unrecorded (not_committing hbatch (by simp [hstage]))
      exact h.batchAt .loop (.inr hunrecorded) (by simp [BatchStage.handled])
  | message running stale => exact h.message running stale henabled
  | processed outcome =>
      obtain ⟨batch, hbatch, hstage⟩ := henabled
      refine h.batchStep (f := fun _ position _ s => s.processed position outcome)
        fun batch' offset rest hbatch' hmessages => ?_
      obtain rfl := Option.some.inj (hbatch.symm.trans hbatch')
      apply h.processed hbatch hmessages hstage
      rintro rfl
      exact hprocessed _ (by simp [processes, Option.mem_def.mp hbatch, hmessages])
  | beforeCommit resolved =>
      obtain ⟨batch, hbatch, hstage⟩ := henabled
      refine h.batchStep (f := fun batch position _ s => s.beginCommit position batch.begun resolved)
        fun batch' offset rest hbatch' hmessages => ?_
      obtain rfl := Option.some.inj (hbatch.symm.trans hbatch')
      exact h.beginCommit hbatch hmessages hstage resolved
  | beat resolved =>
      obtain ⟨batch, hbatch, hstage⟩ := henabled
      refine h.batchStep (f := fun _ _ rest s => s.beat rest resolved)
        fun batch' offset rest hbatch' hmessages => ?_
      obtain rfl := Option.some.inj (hbatch.symm.trans hbatch')
      exact h.beat hbatch hmessages hstage resolved
  | turn => exact h.turn
  | settle resolved => exact h.settle resolved
  | land offset =>
      obtain ⟨call, hcall, rfl⟩ := henabled
      exact h.land (h.calls call hcall)
  | tick silent => exact h.tick silent
  | advancePast position => exact h.advancePast (hadvanced position rfl)
  | connected resolved =>
      exact h.advanceStep (f := fun advance s => s.connected advance resolved)
        fun advance _ => h.connected advance resolved
  | fetched resolved =>
      exact h.advanceStep (f := fun advance s => s.fetched advance resolved)
        fun advance _ => h.fetched advance resolved
  | confirmed recorded =>
      exact h.advanceStep (f := fun advance s => s.confirmed advance recorded)
        fun _ hadvance => h.confirmed hadvance recorded
  | resume => exact h.resume
  | stop => exact h.of_eq rfl rfl rfl rfl rfl rfl rfl rfl rfl rfl rfl rfl rfl
  | stopped => exact h.of_eq rfl rfl rfl rfl rfl rfl rfl rfl rfl rfl rfl rfl rfl

/-- A new adapter relies on nothing but the group's committed offsets. -/
theorem skipless_create {committed : TopicPartition → Option ℕ}
    (h : ∀ key offset, committed key = some offset → log.Covered done key offset) :
    Skipless log done (create options committed) := by
  constructor
  · exact h
  all_goals simp [create, assigned, InsertionMap.empty]

end KafkaSource

end StreamOtter
