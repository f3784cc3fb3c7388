import StreamOtter.KafkaOrder

/-!
# Commit monotonicity

Every step keeps the chain of commits in order: the start positions are committed while nothing
else has been done, and from then on whatever is passed lies above what its assignment passed.
-/

namespace StreamOtter.KafkaSource

variable {options : KafkaOptions} {s s' : KafkaSource}

section Opening

/-- Nothing was delivered, passed or held yet. -/
structure Untouched (s : KafkaSource) : Prop where
  calls : s.calls = []
  commits : s.commits = []
  uncommitted : s.uncommitted.values = []
  batch : s.batch = none
  held : s.held = none
  advance : s.advance = none

/-- The start positions are the first thing committed. -/
structure Opening (s : KafkaSource) : Prop where
  untouched : s.joined = false ∨ s.startPositions ≠ none → Untouched s
  unjoined : s.joined = false → s.assignment = none ∧ s.startJoin = none
  unfetched : s.startPositions ≠ none → s.assignment = none ∨ s.fetching = false
  awaited : s.startPositions ≠ none → s.startJoin = none → s.joined = false
  ahead : ∀ starts assignment, s.startPositions = some starts → s.startJoin = some assignment →
    ∀ start ∈ starts.values, start.offset ≤ s.fetchFrom start.key
  starting : ∀ begun offsets, .start begun offsets ∈ s.commits →
    s.commits = [.start begun offsets] ∧ s.uncommitted.values = [] ∧ s.startCommit = true ∧
      s.held = none ∧ s.advance = none ∧ ∀ batch, s.batch = some batch → batch.stage = .starting

/-- No start positions wait in the chain of commits. -/
def Started (s : KafkaSource) : Prop :=
  ∀ begun offsets, .start begun offsets ∉ s.commits

theorem started_retryNext (hstarted : s.Started) (entries : List Uncommitted) :
    (s.retryNext entries).Started := by
  induction entries generalizing s with
  | nil => exact hstarted
  | cons pending rest ih =>
      unfold retryNext
      split
      · split
        · exact ih (s := s.forget pending.key) hstarted
        · exact ih hstarted
      · intro begun offsets hmem
        rcases List.mem_append.mp hmem with hold | hnew
        · exact hstarted begun offsets hold
        · simp at hnew

theorem Started.of_commits (hstarted : s.Started) (hcommits : ∀ job ∈ s'.commits, job ∈ s.commits) :
    s'.Started :=
  fun begun offsets hmem => hstarted begun offsets (hcommits _ hmem)

theorem started_turn (hstarted : s.Started) : s.turn.Started := by
  unfold turn
  split
  · rename_i job rest hidle hcommits
    have hpopped : ({ s with commits := rest } : KafkaSource).Started :=
      hstarted.of_commits fun _ hmem => hcommits ▸ List.mem_cons_of_mem _ hmem
    split
    · exact hstarted
    · unfold passOver
      split
      · exact started_retryNext hpopped _
      · exact hpopped
      · exact hpopped
  · exact hstarted

theorem started_settled (hstarted : s.Started) (job : CommitJob) (call : ℕ) (took : Bool) :
    (s.settled job call took).Started := by
  unfold settled
  split
  · rename_i caller position
    split
    · unfold commitSucceeded
      cases caller with
      | record begun epoch => exact hstarted
      | retry pending =>
          refine started_retryNext ?_ _
          exact hstarted
      | advance begun =>
          dsimp only
          split <;> exact hstarted
    · cases caller with
      | record begun epoch => exact hstarted
      | retry pending => exact started_retryNext hstarted _
      | advance begun => exact hstarted
  · exact hstarted

namespace Opening

/-- Past the opening only the chain of commits matters. -/
theorem of_started (hjoined : s.joined = true) (hstarts : s.startPositions = none)
    (hstarted : s.Started) : Opening s where
  untouched hopen := by simp [hjoined, hstarts] at hopen
  unjoined hnot := by simp [hjoined] at hnot
  unfetched hsome := absurd hstarts hsome
  awaited hsome := absurd hstarts hsome
  ahead starts _ hsome := by simp [hstarts] at hsome
  starting begun offsets hmem := absurd hmem (hstarted begun offsets)

/-- Until the start positions are committed nothing else is done. -/
theorem of_untouched (huntouched : Untouched s)
    (hunjoined : s.joined = false → s.assignment = none ∧ s.startJoin = none)
    (hunfetched : s.startPositions ≠ none → s.assignment = none ∨ s.fetching = false)
    (hawaited : s.startPositions ≠ none → s.startJoin = none → s.joined = false)
    (hahead : ∀ starts assignment, s.startPositions = some starts → s.startJoin = some assignment →
      ∀ start ∈ starts.values, start.offset ≤ s.fetchFrom start.key) : Opening s where
  untouched _ := huntouched
  unjoined := hunjoined
  unfetched := hunfetched
  awaited := hawaited
  ahead := hahead
  starting begun offsets hmem := by simp [huntouched.commits] at hmem

/-- The three stages of a source: untouched, committing its start positions, and past that. -/
theorem stages (h : Opening s) :
    Untouched s ∨ (∃ begun offsets, .start begun offsets ∈ s.commits ∧ s.joined = true ∧
      s.startPositions = none) ∨ (s.joined = true ∧ s.startPositions = none ∧ s.Started) := by
  by_cases hopen : s.joined = false ∨ s.startPositions ≠ none
  · exact .inl (h.untouched hopen)
  · obtain ⟨hjoined, hstarts⟩ := not_or.mp hopen
    have hjoined' : s.joined = true := by simpa using hjoined
    have hstarts' : s.startPositions = none := by simpa using hstarts
    by_cases hstart : ∃ begun offsets, .start begun offsets ∈ s.commits
    · obtain ⟨begun, offsets, hmem⟩ := hstart
      exact .inr (.inl ⟨begun, offsets, hmem, hjoined', hstarts'⟩)
    · exact .inr (.inr ⟨hjoined', hstarts', fun begun offsets hmem => hstart ⟨begun, offsets, hmem⟩⟩)

/-- The fields that the opening does not depend on are free. -/
theorem of_eq (h : Opening s) (hjoined : s'.joined = s.joined)
    (hstarts : s'.startPositions = s.startPositions) (hjoin : s'.startJoin = s.startJoin)
    (hassignment : s'.assignment = s.assignment) (hfetching : s'.fetching = s.fetching)
    (hfrom : s'.fetchFrom = s.fetchFrom) (hcalls : s'.calls = s.calls)
    (hcommits : s'.commits = s.commits) (huncommitted : s'.uncommitted = s.uncommitted)
    (hbatch : s'.batch = s.batch) (hheld : s'.held = s.held) (hadvance : s'.advance = s.advance)
    (hcommit : s'.startCommit = s.startCommit) : Opening s' where
  untouched := by
    rw [hjoined, hstarts]
    intro hopen
    obtain ⟨hcalls', hcommits', huncommitted', hbatch', hheld', hadvance'⟩ := h.untouched hopen
    exact ⟨hcalls.trans hcalls', hcommits.trans hcommits', huncommitted ▸ huncommitted',
      hbatch.trans hbatch', hheld.trans hheld', hadvance.trans hadvance'⟩
  unjoined := by
    rw [hjoined, hassignment, hjoin]
    exact h.unjoined
  unfetched := by
    rw [hstarts, hassignment, hfetching]
    exact h.unfetched
  awaited := by
    rw [hstarts, hjoin, hjoined]
    exact h.awaited
  ahead := by
    rw [hstarts, hjoin, hfrom]
    exact h.ahead
  starting := by
    rw [hcommits, huncommitted, hcommit, hheld, hadvance, hbatch]
    exact h.starting

/-- A batch under way is one of a source past its opening, unless it waits for it. -/
theorem running (h : Opening s) {batch : KafkaBatch} (hbatch : s.batch = some batch)
    (hstage : batch.stage ≠ .starting) :
    s.joined = true ∧ s.startPositions = none ∧ s.Started := by
  rcases h.stages with huntouched | ⟨begun, offsets, hmem, -, -⟩ | hpast
  · simp [huntouched.batch] at hbatch
  · exact absurd ((h.starting begun offsets hmem).2.2.2.2.2 batch hbatch) hstage
  · exact hpast

/-- So is a held record. -/
theorem holding (h : Opening s) (hheld : s.held ≠ none) :
    s.joined = true ∧ s.startPositions = none ∧ s.Started := by
  rcases h.stages with huntouched | ⟨begun, offsets, hmem, -, -⟩ | hpast
  · exact absurd huntouched.held hheld
  · exact absurd (h.starting begun offsets hmem).2.2.2.1 hheld
  · exact hpast

theorem turnTaken (h : Opening s) : Opening s.turn := by
  have hmoves := Moves.turn s
  rcases h.stages with huntouched | ⟨begun, offsets, hmem, hjoined, hstarts⟩ | ⟨hjoined, hstarts, hpast⟩
  · have hsame : s.turn = s := by
      unfold turn
      rw [huntouched.commits]
      split <;> simp_all
    rwa [hsame]
  · obtain ⟨hcommits, huncommitted, hcommit, hheld, hadvance, hbatch⟩ :=
      h.starting begun offsets hmem
    unfold turn
    split
    · rename_i job rest hidle hfirst
      obtain ⟨rfl, rfl⟩ := List.cons.inj (hcommits.symm.trans hfirst)
      split
      · refine ⟨fun hopen => by simp [KafkaSource.call, hjoined, hstarts] at hopen,
          fun hnot => by simp [KafkaSource.call, hjoined] at hnot, fun hsome => absurd hstarts hsome,
          fun hsome => absurd hstarts hsome, ?_, h.starting⟩
        intro starts _ hsome
        simp [KafkaSource.call, hstarts] at hsome
      · exact of_started hjoined hstarts fun _ _ hmem => by cases hmem
    · exact h
  · exact of_started (hmoves.joined.trans hjoined) (hmoves.startPositions.trans hstarts)
      (started_turn hpast)

theorem settle (h : Opening s) (resolved : Bool) : Opening (s.settle resolved) := by
  have hmoves := Moves.settle resolved s
  rcases h.stages with huntouched | ⟨begun, offsets, hmem, hjoined, hstarts⟩ | ⟨hjoined, hstarts, hpast⟩
  · have hsame : s.settle resolved = s := by
      unfold KafkaSource.settle
      rw [huntouched.commits]
      split <;> simp_all
    rwa [hsame]
  · have hcommits := (h.starting begun offsets hmem).1
    unfold KafkaSource.settle
    split
    · rename_i turn job rest _ hfirst
      obtain ⟨rfl, rfl⟩ := List.cons.inj (hcommits.symm.trans hfirst)
      exact of_started hjoined hstarts fun _ _ hmem => by cases hmem
    · exact h
  · refine of_started (hmoves.joined.trans hjoined) (hmoves.startPositions.trans hstarts) ?_
    unfold KafkaSource.settle
    split
    · rename_i turn job rest _ hfirst
      refine started_settled (s := { s with inTurn := none, commits := rest }) ?_ _ _ _
      exact hpast.of_commits fun _ hmem => hfirst ▸ List.mem_cons_of_mem _ hmem
    · exact hpast

end Opening

end Opening

/-- The chain of commits is in order, and whatever joins it next will be. -/
structure Steady (s : KafkaSource) : Prop where
  chained : Chained s
  placed : Placed s
  opening : Opening s

/-- Two states that differ in nothing the commits depend on. -/
def Alike (s s' : KafkaSource) : Prop :=
  ∃ consumer stopping status rebalancing commitEvents retrying committed pauses told lost,
    s' = { s with
      consumer := consumer
      stopping := stopping
      status := status
      rebalancing := rebalancing
      commitEvents := commitEvents
      retrying := retrying
      committed := committed
      pauses := pauses
      told := told
      lost := lost }

theorem Alike.refl (s : KafkaSource) : Alike s s := ⟨_, _, _, _, _, _, _, _, _, _, rfl⟩

theorem Alike.setStatus (status : KafkaStatus) (reason : Option ErrorCode) (s : KafkaSource) :
    Alike s (s.setStatus status reason) := by
  unfold KafkaSource.setStatus
  split
  · exact .refl s
  · split
    · exact .refl s
    · exact ⟨_, _, _, _, _, _, _, _, _, _, rfl⟩

namespace Steady

theorem alike (h : Steady s) (hsame : Alike s s') : Steady s' := by
  obtain ⟨_, _, _, _, _, _, _, _, _, _, rfl⟩ := hsame
  exact ⟨h.chained.of_eq rfl rfl rfl rfl rfl rfl,
    h.placed.of_eq rfl rfl rfl rfl rfl rfl rfl rfl rfl rfl,
    h.opening.of_eq rfl rfl rfl rfl rfl rfl rfl rfl rfl rfl rfl rfl rfl⟩

theorem activity (h : Steady s) : Steady s.activity := by
  have hfound : Steady { s with lost := false } := h.alike ⟨_, _, _, _, _, _, _, _, _, _, rfl⟩
  unfold KafkaSource.activity
  dsimp only
  split
  · exact hfound.alike (.setStatus _ _ _)
  · exact hfound

/-- A batch or an advance goes on or ends, and nothing joins the chain. -/
theorem moves (h : Steady s) (hmoves : Moves s s') (hcalls : s'.calls = s.calls)
    (hcount : s'.commitCalls = s.commitCalls) (hcommits : s'.commits = s.commits)
    (huncommitted : s'.uncommitted = s.uncommitted) (hturn : s'.inTurn = s.inTurn)
    (hpast : s.joined = true ∧ s.startPositions = none ∧ s.Started) : Steady s' where
  chained := h.chained.of_eq hcalls hcount hcommits huncommitted hmoves.epoch hturn
  placed := h.placed.moves hmoves fun _ _ _ hold =>
    hold.of_subset hcalls (fun _ hjob => .inl (hcommits ▸ hjob)) fun _ hmem => huncommitted ▸ hmem
  opening := .of_started (hmoves.joined.trans hpast.1) (hmoves.startPositions.trans hpast.2.1)
    (hpast.2.2.of_commits fun _ hmem => hcommits ▸ hmem)

theorem positionsRead (h : Steady s) {starts : InsertionMap KafkaPosition.key}
    (hjoined : s.joined = false) : Steady (s.positionsRead options starts) := by
  unfold KafkaSource.positionsRead
  split
  · obtain ⟨hassignment, hjoin⟩ := h.opening.unjoined hjoined
    obtain ⟨hcalls, hcommits, huncommitted, hbatch, hheld, hadvance⟩ :=
      h.opening.untouched (.inl hjoined)
    refine ⟨h.chained.of_eq rfl rfl rfl rfl rfl rfl,
      h.placed.of_eq rfl rfl rfl rfl rfl rfl rfl rfl rfl rfl, ?_⟩
    refine .of_untouched ⟨hcalls, hcommits, huncommitted, hbatch, hheld, hadvance⟩
      (fun _ => ⟨hassignment, hjoin⟩) (fun _ => .inl hassignment) (fun _ _ => hjoined) ?_
    intro _ _ _ hsome
    simp [hjoin] at hsome
  · exact h

theorem groupJoin (h : Steady s) {assignment : List TopicPartition} {fetchFrom : TopicPartition → ℕ}
    (hahead : ∀ starts, s.startPositions = some starts → ∀ start ∈ starts.values,
      start.offset ≤ fetchFrom start.key) : Steady (s.groupJoin assignment fetchFrom) := by
  unfold KafkaSource.groupJoin
  refine Steady.alike ?_ (.setStatus _ _ _)
  refine ⟨h.chained.reassigned rfl rfl rfl rfl rfl rfl, h.placed.reassigned rfl rfl rfl rfl rfl ?_, ?_⟩
  · exact fun _ _ _ hold => hold.of_subset rfl (fun _ => .inl) fun _ => id
  · by_cases hfirst : s.startPositions ≠ none ∧ s.startJoin = none
    · obtain ⟨hcalls, hcommits, huncommitted, hbatch, hheld, hadvance⟩ :=
        h.opening.untouched (.inr hfirst.1)
      refine .of_untouched ⟨hcalls, hcommits, huncommitted, hbatch, hheld, hadvance⟩
        (fun hnot => by cases hnot) (fun _ => .inr rfl) ?_ ?_
      · intro _ hnone
        simp [hfirst.1, hfirst.2] at hnone
      · intro starts joined hstarts _
        exact hahead starts (by simpa [hfirst.2] using hstarts)
    · have hnone : (if s.startJoin = none then s.startPositions else none) = none := by
        split
        · rename_i hjoin
          exact not_not.mp fun hstarts => hfirst ⟨hstarts, hjoin⟩
        · rfl
      rcases h.opening.stages with huntouched | ⟨begun, offsets, hmem, -, -⟩ | ⟨-, -, hpast⟩
      · exact .of_started rfl hnone fun _ _ hmem => by simp [huntouched.commits] at hmem
      · have hstarting := h.opening.starting begun offsets hmem
        refine
          { untouched := fun hopen => by simp [hnone] at hopen
            unjoined := fun hnot => by cases hnot
            unfetched := fun hsome => absurd hnone hsome
            awaited := fun hsome => absurd hnone hsome, ahead := ?_
            starting := h.opening.starting }
        intro starts _ hsome
        rw [hnone] at hsome
        cases hsome
      · exact .of_started rfl hnone hpast

theorem lostAssignment (h : Steady s) : Steady s.lostAssignment := by
  refine ⟨h.chained.reassigned rfl rfl rfl rfl rfl rfl, h.placed.reassigned rfl rfl rfl rfl rfl ?_, ?_⟩
  · exact fun _ _ _ hold => hold.of_subset rfl (fun _ => .inl) fun _ => id
  · refine ⟨fun hopen => ?_, fun hnot => ⟨rfl, (h.opening.unjoined hnot).2⟩, fun _ => .inl rfl,
      h.opening.awaited, h.opening.ahead, h.opening.starting⟩
    obtain ⟨hcalls, hcommits, huncommitted, hbatch, hheld, hadvance⟩ := h.opening.untouched hopen
    exact ⟨hcalls, hcommits, huncommitted, hbatch, hheld, hadvance⟩

/-- The start positions are queued as the first commit. -/
theorem startQueued (h : Steady s) (huntouched : Untouched s) {offsets : List KafkaPosition}
    (hcoherent : ∀ offset ∈ offsets, ∀ offset' ∈ offsets, offset.key = offset'.key →
      offset = offset')
    (hahead : ∀ offset ∈ offsets, offset.offset ≤ s.fetchFrom offset.key) :
    Chained { s with commits := s.commits ++ [.start s.assignmentEpoch offsets] } ∧
      Placed { s with commits := s.commits ++ [.start s.assignmentEpoch offsets] } := by
  obtain ⟨hcalls, hcommits, huncommitted, hbatch, hheld, hadvance⟩ := huntouched
  have hnothing : ∀ begun key bound, Within s begun key bound := by
    intro begun key bound
    exact ⟨by simp [hcalls], by simp [hcommits], by simp [huncommitted]⟩
  have hqueued : ∀ begun key bound, (begun = s.assignmentEpoch →
      ∀ offset ∈ offsets, offset.key = key → offset.offset ≤ bound) →
      Within { s with commits := s.commits ++ [.start s.assignmentEpoch offsets] } begun key
        bound := by
    intro begun key bound hbound
    refine ⟨(hnothing begun key bound).calls, ?_, (hnothing begun key bound).uncommitted⟩
    intro job hjob _ hwork offset hoffset hkey
    obtain rfl : job = .start s.assignmentEpoch offsets := by simpa [hcommits] using hjob
    exact hbound hwork.symm offset hoffset hkey
  constructor
  · apply h.chained.enqueue
    · exact hcoherent
    · simp
    · simp
    · exact fun _ _ _ => hnothing _ _ _
  · refine
      { unheld := h.placed.unheld, unasked := h.placed.unasked, quiet := h.placed.quiet
        advance := h.placed.advance, future := ?_, fetch := ?_, held := ?_
        begun := h.placed.begun, ascending := h.placed.ascending, batch := ?_, outlasting := ?_
        resolved := h.placed.resolved }
    · intro begun key hlater
      exact hqueued begun key 0 fun hsame => absurd hsame (Nat.ne_of_gt hlater)
    · intro key
      refine .inl (hqueued _ key _ fun _ offset hoffset hkey => ?_)
      exact Nat.le_succ_of_le (hkey ▸ hahead offset hoffset)
    · intro held hfound
      rw [show s.held = some held from hfound] at hheld
      cases hheld
    · intro batch hfound
      rw [show s.batch = some batch from hfound] at hbatch
      cases hbatch
    · intro batch hfound
      rw [show s.batch = some batch from hfound] at hbatch
      cases hbatch

/-- A fetch begins, and the start positions of the first assignment are committed. -/
theorem commitStartPositions (h : Steady s) {assignment : List TopicPartition}
    (hjoin : s.startJoin = some assignment) :
    Steady (({ s with fetching := true } : KafkaSource).commitStartPositions s.startPositions
      assignment) := by
  have hjoined : s.joined = true := by
    by_contra hnot
    have hnone := (h.opening.unjoined (by simpa using hnot)).2
    rw [hjoin] at hnone
    cases hnone
  have hopened : ∀ t : KafkaSource, t.joined = true → t.startPositions = none →
      (∀ begun offsets, .start begun offsets ∈ t.commits →
        t.commits = [.start begun offsets] ∧ t.uncommitted.values = [] ∧ t.startCommit = true ∧
          t.held = none ∧ t.advance = none ∧
            ∀ batch, t.batch = some batch → batch.stage = .starting) → Opening t := by
    intro t hjoined hstarts hstarting
    exact ⟨fun hopen => by simp [hjoined, hstarts] at hopen, fun hnot => by simp [hjoined] at hnot,
      fun hsome => absurd hstarts hsome, fun hsome => absurd hstarts hsome,
      fun _ _ hsome => by simp [hstarts] at hsome, hstarting⟩
  unfold KafkaSource.commitStartPositions
  dsimp only
  split
  · exact ⟨h.chained.of_eq rfl rfl rfl rfl rfl rfl,
      h.placed.of_eq rfl rfl rfl rfl rfl rfl rfl rfl rfl rfl, hopened _ hjoined rfl h.opening.starting⟩
  · rename_i starts hstarts
    have huntouched := h.opening.untouched (.inr (by simp [hstarts]))
    have hoffsets : ∀ offset ∈ startOffsets starts assignment, offset ∈ starts.values := by
      intro offset hoffset
      obtain ⟨key, -, hfound⟩ := List.mem_filterMap.mp hoffset
      exact InsertionMap.mem_of_get hfound
    split
    · exact ⟨h.chained.of_eq rfl rfl rfl rfl rfl rfl,
        h.placed.of_eq rfl rfl rfl rfl rfl rfl rfl rfl rfl rfl,
        hopened _ hjoined rfl h.opening.starting⟩
    · have hqueued := h.startQueued huntouched
        (fun offset hoffset offset' hoffset' hkey =>
          InsertionMap.eq_of_mem (hoffsets offset hoffset) (hoffsets offset' hoffset') hkey)
        (fun offset hoffset =>
          h.opening.ahead starts assignment hstarts hjoin offset (hoffsets offset hoffset))
      refine ⟨hqueued.1.of_eq rfl rfl rfl rfl rfl rfl,
        hqueued.2.of_eq rfl rfl rfl rfl rfl rfl rfl rfl rfl rfl, hopened _ hjoined rfl ?_⟩
      intro begun offsets hmem
      obtain ⟨-, hcommits, huncommitted, hbatch, hheld, hadvance⟩ := huntouched
      simp only [hcommits, List.nil_append, List.mem_singleton] at hmem
      rw [hmem]
      refine ⟨by simp [hcommits], huncommitted, rfl, hheld, hadvance, fun batch hfound => ?_⟩
      rw [show s.batch = some batch from hfound] at hbatch
      cases hbatch

theorem fetchStart (h : Steady s) : Steady s.fetchStart := by
  obtain ⟨huntouched, hunjoined, hunfetched, hawaited, hahead, hstarting⟩ := h.opening
  unfold KafkaSource.fetchStart
  dsimp only
  split
  · rename_i assignment hjoin
    exact h.commitStartPositions hjoin
  · rename_i hjoin
    refine ⟨h.chained.of_eq rfl rfl rfl rfl rfl rfl,
      h.placed.of_eq rfl rfl rfl rfl rfl rfl rfl rfl rfl rfl, ?_⟩
    refine ⟨fun hopen => ?_, hunjoined, fun hsome => ?_, hawaited, hahead, hstarting⟩
    · obtain ⟨hcalls, hcommits, huncommitted, hbatch, hheld, hadvance⟩ := huntouched hopen
      exact ⟨hcalls, hcommits, huncommitted, hbatch, hheld, hadvance⟩
    · exact .inl (hunjoined (hawaited hsome hjoin)).1

theorem eachBatch (h : Steady s) {key : TopicPartition} {messages : List ℕ}
    (henabled : s.Enabled (.eachBatch key messages)) : Steady (s.eachBatch key messages) := by
  obtain ⟨-, hfetching, ⟨assignment, hassignment, -⟩, hascending, hfrom⟩ := henabled
  have hjoined : s.joined = true := by
    by_contra hnot
    have hnone := (h.opening.unjoined (by simpa using hnot)).1
    rw [hassignment] at hnone
    cases hnone
  have hstarts : s.startPositions = none := by
    by_contra hsome
    rcases h.opening.unfetched hsome with hnone | hfalse
    · rw [hassignment] at hnone
      cases hnone
    · rw [hfetching] at hfalse
      cases hfalse
  refine ⟨?_, h.placed.eachBatch hascending hfrom, ?_⟩
  · unfold KafkaSource.eachBatch
    split
    · exact h.chained
    · exact h.chained.of_eq rfl rfl rfl rfl rfl rfl
  · unfold KafkaSource.eachBatch
    split
    · exact h.opening
    · refine
        { untouched := fun hopen => by simp [hjoined, hstarts] at hopen
          unjoined := fun hnot => by simp [hjoined] at hnot
          unfetched := fun hsome => absurd hstarts hsome
          awaited := fun hsome => absurd hstarts hsome
          ahead := fun _ _ hsome => by simp [hstarts] at hsome
          starting := fun begun offsets hmem => ?_ }
      obtain ⟨hcommits, huncommitted, hcommit, hheld, hadvance, -⟩ :=
        h.opening.starting begun offsets hmem
      refine ⟨hcommits, huncommitted, hcommit, hheld, hadvance, ?_⟩
      rintro batch ⟨⟩
      simp [hcommit]

theorem startCommitted (h : Steady s) (henabled : s.Enabled .startCommitted) :
    Steady (s.batchAt .loop) := by
  obtain ⟨⟨batch, hbatch, -⟩, hcommit⟩ := henabled
  refine h.moves (.batchAt (by simp) s) rfl rfl rfl rfl rfl ?_
  rcases h.opening.stages with huntouched | ⟨begun, offsets, hmem, -, -⟩ | hpast
  · simp [huntouched.batch] at hbatch
  · have hwaits := (h.opening.starting begun offsets hmem).2.2.1
    rw [hcommit] at hwaits
    cases hwaits
  · exact hpast

theorem message (h : Steady s) (henabled : s.batchIs .loop) (running stale : Bool) :
    Steady (s.message running stale) := by
  obtain ⟨batch, hbatch, hstage⟩ := henabled
  have hpast := h.opening.running hbatch (by simp [hstage])
  unfold KafkaSource.message
  split
  · exact h
  · split
    · exact h.moves (.endBatch s) rfl rfl rfl rfl rfl hpast
    · exact h.moves (.batchAt (by simp) s) rfl rfl rfl rfl rfl hpast

/-- The batch goes on from its await at a record, or there is no record left. -/
theorem batchStep (h : Steady s)
    {f : KafkaBatch → KafkaPosition → List ℕ → KafkaSource → KafkaSource}
    (hf : ∀ batch offset rest, AtRecord s batch offset rest →
      Steady (f batch { batch.key with offset } rest s)) : Steady (s.batchStep f) := by
  unfold KafkaSource.batchStep
  split
  · rename_i batch hbatch
    split
    · rename_i offset rest hmessages
      exact hf batch offset rest ⟨hbatch, hmessages⟩
    · exact h
  · exact h

theorem processed (h : Steady s) {batch : KafkaBatch} {offset : ℕ} {rest : List ℕ}
    (hat : AtRecord s batch offset rest)
    (hpast : s.joined = true ∧ s.startPositions = none ∧ s.Started)
    (outcome : Option ProcessOutcome) : Steady (s.processed { batch.key with offset } outcome) := by
  refine ⟨?_, h.placed.processed hat outcome, ?_⟩
  · rcases outcome with _ | _ | _ | _ | _ <;> exact h.chained.of_eq rfl rfl rfl rfl rfl rfl
  · rcases outcome with _ | _ | _ | _ | _ <;> exact .of_started hpast.1 hpast.2.1 hpast.2.2

theorem beginCommit (h : Steady s) {batch : KafkaBatch} {offset : ℕ} {rest : List ℕ}
    (hat : AtRecord s batch offset rest) (hstage : batch.stage = .beforeCommit)
    (resolved : Bool) :
    Steady (s.beginCommit { batch.key with offset } batch.begun resolved) := by
  have hpast := h.opening.running hat.found (by simp [hstage])
  refine ⟨?_, h.placed.beginCommit hat hstage resolved, ?_⟩
  · unfold KafkaSource.beginCommit
    split
    · exact h.chained.of_eq rfl rfl rfl rfl rfl rfl
    · have hqueued : Chained (s.commit (.record batch.begun s.assignmentEpoch)
          { batch.key with offset }) := by
        apply h.chained.enqueue
        · intro position hposition position' hposition' _
          rw [List.mem_singleton.mp hposition, List.mem_singleton.mp hposition']
        · rintro begun epoch position ⟨⟩
          exact Nat.le_refl _
        · rintro pending position ⟨⟩
        · intro _ position hposition
          obtain rfl := List.mem_singleton.mp hposition
          exact h.placed.batch batch hat.found offset (hat.messages ▸ List.mem_cons_self)
      exact hqueued.of_eq rfl rfl rfl rfl rfl rfl
  · unfold KafkaSource.beginCommit
    split
    · exact .of_started hpast.1 hpast.2.1 hpast.2.2
    · refine .of_started hpast.1 hpast.2.1 fun begun offsets hmem => ?_
      rcases List.mem_append.mp hmem with hold | hnew
      · exact hpast.2.2 begun offsets hold
      · simp at hnew

theorem beat (h : Steady s) {batch : KafkaBatch} {offset : ℕ} {rest : List ℕ}
    (hat : AtRecord s batch offset rest)
    (hpast : s.joined = true ∧ s.startPositions = none ∧ s.Started) (resolved : Bool) :
    Steady (s.beat rest resolved) := by
  unfold KafkaSource.beat
  split
  · refine h.moves ?_ rfl rfl rfl rfl rfl hpast
    have hbatch : ∀ batch', (s.batch.map fun batch => { batch with
        messages := rest, stage := BatchStage.loop }) = some batch' → ∃ batch, s.batch = some batch ∧
          batch'.key = batch.key ∧ batch'.begun = batch.begun ∧ batch'.messages <:+ batch.messages ∧
            (batch'.stage = .beforeCommit → batch' = batch) := by
      intro batch' hbatch'
      rw [hat.found] at hbatch'
      cases hbatch'
      refine ⟨batch, hat.found, rfl, rfl, ?_, fun hstage => by cases hstage⟩
      rw [hat.messages]
      exact List.suffix_cons offset rest
    exact ⟨rfl, rfl, rfl, rfl, rfl, rfl, rfl, rfl, rfl, hbatch,
      fun advance' hadvance' => ⟨advance', hadvance', rfl, rfl⟩, .inl, id⟩
  · exact h.moves (.endBatch s) rfl rfl rfl rfl rfl hpast

theorem turnTaken (h : Steady s) : Steady s.turn :=
  ⟨h.chained.turnTaken, h.placed.moves (.turn s) fun _ _ _ hold => hold.turnTaken h.chained,
    h.opening.turnTaken⟩

theorem retryCommits (h : Steady s) : Steady s.retryCommits := by
  unfold KafkaSource.retryCommits
  split
  · exact h
  · rename_i hpending
    have hsome : s.uncommitted.values ≠ [] := fun hnone =>
      hpending (.inr (.inr (.inr (.inr hnone))))
    have hmoves := Moves.retryNext s.uncommitted.values s
    refine ⟨h.chained.retryNext _, h.placed.moves hmoves fun _ _ _ hold => hold.retryNext _, ?_⟩
    rcases h.opening.stages with huntouched | ⟨begun, offsets, hmem, -, -⟩ | ⟨hjoined, hstarts, hpast⟩
    · exact absurd huntouched.uncommitted hsome
    · exact absurd (h.opening.starting begun offsets hmem).2.1 hsome
    · exact .of_started (hmoves.joined.trans hjoined) (hmoves.startPositions.trans hstarts)
        (started_retryNext hpast _)

theorem advancePast (h : Steady s) {position : KafkaPosition} (hnone : s.advance = none) :
    Steady (s.advancePast position) := by
  refine ⟨?_, h.placed.advancePast hnone, ?_⟩
  · unfold KafkaSource.advancePast
    split
    · exact h.chained.of_eq rfl rfl rfl rfl rfl rfl
    · rename_i current hcurrent
      unfold heldAt at hcurrent
      split at hcurrent
      · obtain ⟨hheld, hposition⟩ := Option.filter_eq_some_iff.mp hcurrent
        obtain rfl : current.position = position := by simpa using hposition
        have hreach := h.placed.held current hheld
        have hqueued : Chained { s with
            commits := s.commits ++ [.commit (.advance s.assignmentEpoch) current.position] } := by
          apply h.chained.enqueue
          · intro position hposition position' hposition' _
            rw [List.mem_singleton.mp hposition, List.mem_singleton.mp hposition']
          · rintro begun epoch position ⟨⟩
          · rintro pending position ⟨⟩
          · intro _ position hposition
            obtain rfl := List.mem_singleton.mp hposition
            exact hreach
        exact hqueued.of_eq rfl rfl rfl rfl rfl rfl
      · cases hcurrent
  · unfold KafkaSource.advancePast
    split
    · exact h.opening.of_eq rfl rfl rfl rfl rfl rfl rfl rfl rfl rfl rfl hnone.symm rfl
    · rename_i current hcurrent
      have hheld : s.held ≠ none := by
        intro hnone
        simp [heldAt, hnone] at hcurrent
      have hpast := h.opening.holding hheld
      refine .of_started hpast.1 hpast.2.1 fun begun offsets hmem => ?_
      rcases List.mem_append.mp hmem with hold | hnew
      · exact hpast.2.2 begun offsets hold
      · simp at hnew

/-- An advance goes on from its await. -/
theorem advanceStep (h : Steady s) {f : AdvanceCall → KafkaSource → KafkaSource}
    (hf : ∀ advance, s.advance = some advance →
      s.joined = true ∧ s.startPositions = none ∧ s.Started → Steady (f advance s)) :
    Steady (s.advanceStep f) := by
  unfold KafkaSource.advanceStep
  split
  · rename_i advance hadvance
    have hheld := (h.placed.advance advance hadvance).1
    exact hf advance hadvance (h.opening.holding (by simp [hheld]))
  · exact h

theorem confirmed (h : Steady s) {advance : AdvanceCall} (hadvance : s.advance = some advance)
    (hpast : s.joined = true ∧ s.startPositions = none ∧ s.Started) (recorded : Bool) :
    Steady (s.confirmed advance recorded) := by
  have hleft := h.moves (.leave advance.position .advanced s) rfl rfl rfl rfl rfl hpast
  refine ⟨?_, h.placed.confirmed hadvance recorded, ?_⟩
  · unfold KafkaSource.confirmed
    split
    · exact hleft.chained
    · split
      · exact hleft.chained
      · unfold setStatus
        split
        · exact h.chained.of_eq rfl rfl rfl rfl rfl rfl
        · split <;> exact h.chained.of_eq rfl rfl rfl rfl rfl rfl
  · unfold KafkaSource.confirmed
    split
    · exact hleft.opening
    · split
      · exact hleft.opening
      · unfold setStatus
        split
        · exact .of_started hpast.1 hpast.2.1 hpast.2.2
        · split <;> exact .of_started hpast.1 hpast.2.1 hpast.2.2

theorem resume (h : Steady s)
    (hasked : s.paused = true → s.advance = none ∧ s.unreconciled = false) : Steady s.resume := by
  have hresumed : Opening { s with paused := false, held := none } := by
    obtain ⟨huntouched, hunjoined, hunfetched, hawaited, hahead, hstarting⟩ := h.opening
    refine ⟨fun hopen => ?_, hunjoined, hunfetched, hawaited, hahead, fun begun offsets hmem => ?_⟩
    · obtain ⟨hcalls, hcommits, huncommitted, hbatch, -, hadvance⟩ := huntouched hopen
      exact ⟨hcalls, hcommits, huncommitted, hbatch, rfl, hadvance⟩
    · obtain ⟨hcommits, huncommitted, hcommit, -, hrest⟩ := hstarting begun offsets hmem
      exact ⟨hcommits, huncommitted, hcommit, rfl, hrest⟩
  refine ⟨?_, h.placed.resume hasked, ?_⟩
  · unfold KafkaSource.resume
    split
    · exact h.chained
    · unfold setStatus
      split
      · exact h.chained.of_eq rfl rfl rfl rfl rfl rfl
      · split <;> exact h.chained.of_eq rfl rfl rfl rfl rfl rfl
  · unfold KafkaSource.resume
    split
    · exact h.opening
    · unfold setStatus
      split
      · exact hresumed
      · split
        · exact hresumed
        · exact hresumed.of_eq rfl rfl rfl rfl rfl rfl rfl rfl rfl rfl rfl rfl rfl

end Steady

/-- The advance in its turn commits, or no failed commit of an earlier record of its partition may
still be retried. -/
def Supersedes (s : KafkaSource) (resolved : Bool) : Option CommitTurn → List CommitJob → Prop
  | some turn, .commit (.advance _) position :: _ =>
      (resolved && decide (s.commitEvents ≠ turn.before)) = true ∨
        ∀ pending ∈ s.uncommitted.get position.key, pending.epoch = s.assignmentEpoch →
          position.offset ≤ pending.position.offset
  | _, _ => True

instance (s : KafkaSource) (resolved : Bool) :
    (turn : Option CommitTurn) → (jobs : List CommitJob) → Decidable (s.Supersedes resolved turn jobs)
  | some _, .commit (.advance _) _ :: _ => inferInstanceAs (Decidable (_ ∨ _))
  | none, _ | some _, [] | some _, .commit (.record _ _) _ :: _ | some _, .commit (.retry _) _ :: _
  | some _, .start _ _ :: _ => .isTrue trivial

/-- A guarded advance does not fail to commit while a failed commit of an earlier record of its
partition may still be retried; and the source is not resumed while an advance is under way, or
after one left it paused. -/
def KeepsOrder (s : KafkaSource) : KafkaStep → Prop
  | .settle resolved => s.Supersedes resolved s.inTurn s.commits
  | .resume => s.paused = true → s.advance = none ∧ s.unreconciled = false
  | _ => True

instance (s : KafkaSource) : (step : KafkaStep) → Decidable (s.KeepsOrder step)
  | .settle resolved => inferInstanceAs (Decidable (s.Supersedes resolved _ _))
  | .resume =>
      inferInstanceAs (Decidable (s.paused = true → s.advance = none ∧ s.unreconciled = false))
  | .start | .positionsRead _ | .groupJoin _ _ | .rebalancing | .fetchStart | .fetch | .heartbeat
  | .commitOffsets | .crash | .disconnect | .consumerStop | .eachBatch _ _ | .startCommitted
  | .message _ _ | .processed _ | .beforeCommit _ | .beat _ | .turn | .land _ | .tick _
  | .advancePast _ | .connected _ | .fetched _ | .confirmed _ | .stop | .stopped => .isTrue trivial

theorem Steady.settle (h : Steady s) {resolved : Bool} (hkeeps : s.KeepsOrder (.settle resolved)) :
    Steady (s.settle resolved) where
  chained := by
    apply h.chained.settle
    · exact fun begun offsets hmem => (h.opening.starting begun offsets hmem).2.1
    · intro turn begun position rest hturn hcommits hfailed
      have hsupersedes : s.Supersedes resolved s.inTurn s.commits := hkeeps
      rw [hturn, hcommits] at hsupersedes
      rcases hsupersedes with htook | hearlier
      · rw [hfailed] at htook
        cases htook
      · exact hearlier
  placed := h.placed.moves (.settle resolved s) fun _ _ _ hold => hold.settle resolved
  opening := h.opening.settle resolved

theorem steady_step {step : KafkaStep} (h : Steady s) (henabled : s.Enabled step)
    (hkeeps : s.KeepsOrder step) : Steady (s.step options step) := by
  cases step with
  | start => exact h.alike ⟨_, _, _, _, _, _, _, _, _, _, rfl⟩
  | positionsRead starts => exact h.positionsRead henabled.2.1
  | groupJoin assignment fetchFrom => exact h.groupJoin henabled.2.2
  | rebalancing =>
      have hlost : Steady { s.lostAssignment with rebalancing := true, lost := true } :=
        h.lostAssignment.alike ⟨_, _, _, _, _, _, _, _, _, _, rfl⟩
      exact hlost.alike (.setStatus _ _ _)
  | fetchStart => exact h.fetchStart
  | fetch => exact h.activity
  | heartbeat => exact h.activity
  | commitOffsets =>
      have hcounted : Steady { s with commitEvents := s.commitEvents + 1 } :=
        h.alike ⟨_, _, _, _, _, _, _, _, _, _, rfl⟩
      exact hcounted.activity
  | crash =>
      have hlost : Steady { s.lostAssignment with lost := true } :=
        h.lostAssignment.alike ⟨_, _, _, _, _, _, _, _, _, _, rfl⟩
      exact hlost.alike (.setStatus _ _ _)
  | consumerStop =>
      have hlost : Steady { s.lostAssignment with lost := true } :=
        h.lostAssignment.alike ⟨_, _, _, _, _, _, _, _, _, _, rfl⟩
      exact hlost.alike (.setStatus _ _ _)
  | disconnect =>
      have hlost : Steady { s with lost := true } := h.alike ⟨_, _, _, _, _, _, _, _, _, _, rfl⟩
      exact hlost.alike (.setStatus _ _ _)
  | eachBatch key messages => exact h.eachBatch henabled
  | startCommitted => exact h.startCommitted henabled
  | message running stale => exact h.message henabled running stale
  | processed outcome =>
      obtain ⟨batch, hbatch, hstage⟩ := henabled
      have hpast := h.opening.running hbatch (by simp [hstage])
      exact h.batchStep (f := fun _ position _ s => s.processed position outcome)
        fun _ _ _ hat => h.processed hat hpast outcome
  | beforeCommit resolved =>
      obtain ⟨batch, hbatch, hstage⟩ := henabled
      refine h.batchStep (f := fun batch position _ s => s.beginCommit position batch.begun resolved)
        fun batch' offset rest hat => ?_
      obtain rfl := Option.some.inj (hbatch.symm.trans hat.found)
      exact h.beginCommit hat hstage resolved
  | beat resolved =>
      obtain ⟨batch, hbatch, hstage⟩ := henabled
      have hpast := h.opening.running hbatch (by simp [hstage])
      exact h.batchStep (f := fun _ _ rest s => s.beat rest resolved)
        fun _ _ _ hat => h.beat hat hpast resolved
  | turn => exact h.turnTaken
  | settle resolved => exact h.settle hkeeps
  | land offset => exact h.alike ⟨_, _, _, _, _, _, _, _, _, _, rfl⟩
  | tick silent =>
      refine Steady.retryCommits ?_
      unfold checkWatchdog
      split
      · exact h.alike (.setStatus _ _ _)
      · exact h
  | advancePast position => exact h.advancePast henabled
  | connected resolved =>
      refine h.advanceStep (f := fun advance s => s.connected advance resolved)
        fun advance _ hpast => ?_
      unfold connected
      split
      · exact h.moves (.leave _ _ _) rfl rfl rfl rfl rfl hpast
      · exact h.moves (.advanceAt _ _) rfl rfl rfl rfl rfl hpast
  | fetched resolved =>
      refine h.advanceStep (f := fun advance s => s.fetched advance resolved)
        fun advance _ hpast => ?_
      unfold fetched
      split
      · exact h.moves (.leave _ _ _) rfl rfl rfl rfl rfl hpast
      · have htold : Steady (s.tell (.committed advance.position)) :=
          h.alike ⟨_, _, _, _, _, _, _, _, _, _, rfl⟩
        exact htold.moves (.advanceAt _ _) rfl rfl rfl rfl rfl hpast
  | confirmed recorded =>
      exact h.advanceStep (f := fun advance s => s.confirmed advance recorded)
        fun _ hadvance hpast => h.confirmed hadvance hpast recorded
  | resume => exact h.resume hkeeps
  | stop => exact h.alike ⟨_, _, _, _, _, _, _, _, _, _, rfl⟩
  | stopped => exact h.alike ⟨_, _, _, _, _, _, _, _, _, _, rfl⟩

theorem steady_create (options : KafkaOptions) (committed : TopicPartition → Option ℕ) :
    Steady (create options committed) := by
  have hnothing : ∀ begun key bound, Within (create options committed) begun key bound :=
    fun _ _ _ => ⟨by simp [create], by simp [create], by simp [create]⟩
  refine ⟨?_, ?_, ?_⟩
  · constructor <;> simp [create, CallsOrdered, RetriesCurrent]
  · refine
      { unheld := fun _ => rfl, unasked := fun _ => rfl, quiet := fun hsome => absurd rfl hsome
        advance := fun _ hsome => by cases hsome
        future := fun _ _ _ => hnothing _ _ _, fetch := fun _ => .inl (hnothing _ _ _)
        held := fun _ _ => hnothing _ _ _, begun := ?_, ascending := ?_, batch := ?_
        outlasting := ?_, resolved := ?_ } <;> simp [create]
  · refine .of_untouched ⟨rfl, rfl, rfl, rfl, rfl, rfl⟩ (fun _ => ⟨rfl, rfl⟩) (fun _ => .inl rfl)
      (fun _ _ => rfl) ?_
    intro _ _ hsome
    cases hsome

/-- The offsets that work of one assignment of a partition passes to `commitOffsets` never
decrease, and a retry passes none below one passed since its record's commit failed. -/
def CommitsMonotone (s : KafkaSource) : Prop :=
  CallsOrdered s.calls ∧ RetriesCurrent s.calls

/-- Runs in which every step keeps the order of commits. -/
def orderedMachine (options : KafkaOptions) : Machine KafkaSource KafkaStep where
  step := KafkaSource.step options
  allowed s step := s.Enabled step ∧ s.KeepsOrder step

instance (options : KafkaOptions) (s : KafkaSource) (step : KafkaStep) :
    Decidable ((orderedMachine options).allowed s step) :=
  inferInstanceAs (Decidable (s.Enabled step ∧ s.KeepsOrder step))

theorem commitsMonotone_after (options : KafkaOptions) (committed : TopicPartition → Option ℕ)
    (steps : List KafkaStep)
    (hrun : (orderedMachine options).Admits (create options committed) steps) :
    ((orderedMachine options).after (create options committed) steps).CommitsMonotone := by
  have hsteady : ((orderedMachine options).after (create options committed) steps).Steady := by
    refine Machine.invariant (P := Steady) ?_ (steady_create options committed) hrun
    intro s step h hallowed
    exact steady_step h hallowed.1 hallowed.2
  exact ⟨hsteady.chained.calls, hsteady.chained.retries⟩

section Sample

/-- The first record is processed and its commit is tried. -/
def firstRecord : List KafkaStep :=
  [.start, .groupJoin [sampleKey] fun _ => 0, .fetchStart, .eachBatch sampleKey [0],
    .message true false, .processed (some .commit), .beforeCommit true, .turn]

/-- The commit fails and is retried; the source pauses at the second record and is advanced past
it. -/
def advancedRun : List KafkaStep :=
  firstRecord ++ [.settle false, .tick false, .turn, .commitOffsets, .settle true,
    .eachBatch sampleKey [1], .message true false, .processed (some .pause),
    .advancePast ⟨sampleKey, 1⟩, .turn, .commitOffsets, .settle true, .land ⟨sampleKey, 2⟩,
    .connected true, .fetched true, .confirmed true]

/-- The commit fails, and so does the one of the advance past the second record: the retry of the
first comes after it and passes the lower offset. -/
def overtakenRun : List KafkaStep :=
  firstRecord ++ [.settle false, .eachBatch sampleKey [1], .message true false,
    .processed (some .pause), .advancePast ⟨sampleKey, 1⟩, .turn, .settle false, .tick false, .turn]

theorem commitsMonotone_advancedRun :
    ((orderedMachine ⟨false, false⟩).after (create ⟨false, false⟩ fun _ => none)
      advancedRun).CommitsMonotone := by
  apply commitsMonotone_after
  decide +kernel

theorem retry_overtakes_advance :
    ¬ ∀ (options : KafkaOptions) (committed : TopicPartition → Option ℕ) (steps : List KafkaStep),
      (machine options).Admits (create options committed) steps →
        ((machine options).after (create options committed) steps).CommitsMonotone := by
  intro hclaim
  have hrun : (machine ⟨false, false⟩).Admits (create ⟨false, false⟩ fun _ => none)
      overtakenRun := by
    decide +kernel
  have hordered := (hclaim _ _ _ hrun).1
  revert hordered
  unfold CallsOrdered
  decide

end Sample

end StreamOtter.KafkaSource
