import StreamOtter.KafkaCommits

/-!
# What the adapter commits in one assignment

KafkaJS delivers a partition in offset order, the adapter seeks back to the record it is held
at, and the start positions are committed before anything is processed.  So whatever joins the
chain of commits lies above what work of the same assignment has passed.
-/

namespace StreamOtter.KafkaSource

variable {options : KafkaOptions} {s s' : KafkaSource}

/-- Where the next record of the assignment lies: nothing above it was passed. -/
structure Placed (s : KafkaSource) : Prop where
  unheld : s.paused = false → s.held = none
  unasked : s.paused = false → s.advance = none
  quiet : s.batch ≠ none → s.paused = false
  advance : ∀ advance, s.advance = some advance →
    s.held = some advance.current ∧ advance.current.position = advance.position
  future : ∀ begun key, s.assignmentEpoch < begun → Within s begun key 0
  fetch : ∀ key, Within s s.assignmentEpoch key (s.fetchFrom key + 1) ∨
    ∃ held, s.held = some held ∧ held.position.key = key ∧
      (s.advance ≠ none ∨ s.unreconciled = true)
  held : ∀ held, s.held = some held →
    Within s s.assignmentEpoch held.position.key (held.position.offset + 1)
  begun : ∀ batch, s.batch = some batch → batch.begun ≤ s.assignmentEpoch
  ascending : ∀ batch, s.batch = some batch → batch.messages.Pairwise (· < ·)
  batch : ∀ batch, s.batch = some batch → ∀ offset ∈ batch.messages,
    Within s batch.begun batch.key (offset + 1)
  /-- A batch of an earlier assignment keeps the next ones waiting. -/
  outlasting : ∀ batch, s.batch = some batch → batch.begun < s.assignmentEpoch →
    ∀ key, Within s s.assignmentEpoch key 0
  resolved : ∀ batch offset rest, s.batch = some batch → batch.messages = offset :: rest →
    batch.stage = .beforeCommit → batch.begun = s.assignmentEpoch → offset ≤ s.fetchFrom batch.key

/-- A batch or an advance goes on or ends; the source stays where it is. -/
structure Moves (s s' : KafkaSource) : Prop where
  paused : s'.paused = s.paused
  held : s'.held = s.held
  epoch : s'.assignmentEpoch = s.assignmentEpoch
  fetchFrom : s'.fetchFrom = s.fetchFrom
  fetching : s'.fetching = s.fetching
  joined : s'.joined = s.joined
  assignment : s'.assignment = s.assignment
  startPositions : s'.startPositions = s.startPositions
  startJoin : s'.startJoin = s.startJoin
  batch : ∀ batch', s'.batch = some batch' → ∃ batch, s.batch = some batch ∧
    batch'.key = batch.key ∧ batch'.begun = batch.begun ∧ batch'.messages <:+ batch.messages ∧
      (batch'.stage = .beforeCommit → batch' = batch)
  advance : ∀ advance', s'.advance = some advance' → ∃ advance, s.advance = some advance ∧
    advance'.current = advance.current ∧ advance'.position = advance.position
  left : s.advance ≠ none → s'.advance ≠ none ∨ s'.unreconciled = true
  unreconciled : s.unreconciled = true → s'.unreconciled = true

namespace Moves

theorem of_eq (hpaused : s'.paused = s.paused) (hheld : s'.held = s.held)
    (hepoch : s'.assignmentEpoch = s.assignmentEpoch) (hfetch : s'.fetchFrom = s.fetchFrom)
    (hfetching : s'.fetching = s.fetching) (hjoined : s'.joined = s.joined)
    (hassignment : s'.assignment = s.assignment)
    (hstarts : s'.startPositions = s.startPositions) (hjoin : s'.startJoin = s.startJoin)
    (hbatch : s'.batch = s.batch) (hadvance : s'.advance = s.advance)
    (hleft : s'.unreconciled = s.unreconciled) : Moves s s' where
  paused := hpaused
  held := hheld
  epoch := hepoch
  fetchFrom := hfetch
  fetching := hfetching
  joined := hjoined
  assignment := hassignment
  startPositions := hstarts
  startJoin := hjoin
  batch batch' hbatch' := ⟨batch', hbatch ▸ hbatch', rfl, rfl, List.suffix_rfl, fun _ => rfl⟩
  advance advance' hadvance' := ⟨advance', hadvance ▸ hadvance', rfl, rfl⟩
  left h := .inl (hadvance ▸ h)
  unreconciled h := hleft ▸ h

theorem refl (s : KafkaSource) : Moves s s := .of_eq rfl rfl rfl rfl rfl rfl rfl rfl rfl rfl rfl rfl

theorem trans {t : KafkaSource} (h : Moves s t) (h' : Moves t s') : Moves s s' where
  paused := h'.paused.trans h.paused
  held := h'.held.trans h.held
  epoch := h'.epoch.trans h.epoch
  fetchFrom := h'.fetchFrom.trans h.fetchFrom
  fetching := h'.fetching.trans h.fetching
  joined := h'.joined.trans h.joined
  assignment := h'.assignment.trans h.assignment
  startPositions := h'.startPositions.trans h.startPositions
  startJoin := h'.startJoin.trans h.startJoin
  batch batch' hbatch' := by
    obtain ⟨batch, hbatch, hkey, hbegun, hsuffix, hsame⟩ := h'.batch batch' hbatch'
    obtain ⟨first, hfirst, hkey', hbegun', hsuffix', hsame'⟩ := h.batch batch hbatch
    refine ⟨first, hfirst, hkey.trans hkey', hbegun.trans hbegun', hsuffix.trans hsuffix', ?_⟩
    intro hstage
    obtain rfl := hsame hstage
    exact hsame' hstage
  advance advance' hadvance' := by
    obtain ⟨advance, hadvance, hcurrent, hposition⟩ := h'.advance advance' hadvance'
    obtain ⟨first, hfirst, hcurrent', hposition'⟩ := h.advance advance hadvance
    exact ⟨first, hfirst, hcurrent.trans hcurrent', hposition.trans hposition'⟩
  left hadvance := by
    rcases h.left hadvance with hgoes | hleft
    · exact h'.left hgoes
    · exact .inr (h'.unreconciled hleft)
  unreconciled hleft := h'.unreconciled (h.unreconciled hleft)

theorem batchAt {stage : BatchStage} (hstage : stage ≠ .beforeCommit) (s : KafkaSource) :
    Moves s (s.batchAt stage) where
  paused := rfl
  held := rfl
  epoch := rfl
  fetchFrom := rfl
  fetching := rfl
  joined := rfl
  assignment := rfl
  startPositions := rfl
  startJoin := rfl
  batch batch' hbatch' := by
    simp only [KafkaSource.batchAt, Option.map_eq_some_iff] at hbatch'
    obtain ⟨batch, hbatch, rfl⟩ := hbatch'
    exact ⟨batch, hbatch, rfl, rfl, List.suffix_rfl, fun h => absurd h hstage⟩
  advance advance' hadvance' := ⟨advance', hadvance', rfl, rfl⟩
  left := .inl
  unreconciled := id

theorem endBatch (s : KafkaSource) : Moves s s.endBatch where
  paused := rfl
  held := rfl
  epoch := rfl
  fetchFrom := rfl
  fetching := rfl
  joined := rfl
  assignment := rfl
  startPositions := rfl
  startJoin := rfl
  batch batch' hbatch' := by cases hbatch'
  advance advance' hadvance' := ⟨advance', hadvance', rfl, rfl⟩
  left := .inl
  unreconciled := id

theorem advanceAt (stage : AdvanceStage) (s : KafkaSource) : Moves s (s.advanceAt stage) where
  paused := rfl
  held := rfl
  epoch := rfl
  fetchFrom := rfl
  fetching := rfl
  joined := rfl
  assignment := rfl
  startPositions := rfl
  startJoin := rfl
  batch batch' hbatch' := ⟨batch', hbatch', rfl, rfl, List.suffix_rfl, fun _ => rfl⟩
  advance advance' hadvance' := by
    simp only [KafkaSource.advanceAt, Option.map_eq_some_iff] at hadvance'
    obtain ⟨advance, hadvance, rfl⟩ := hadvance'
    exact ⟨advance, hadvance, rfl, rfl⟩
  left h := .inl (by simpa [KafkaSource.advanceAt] using h)
  unreconciled := id

theorem leave (position : KafkaPosition) (result : AdvanceResult) (s : KafkaSource) :
    Moves s (s.leave position result) where
  paused := rfl
  held := rfl
  epoch := rfl
  fetchFrom := rfl
  fetching := rfl
  joined := rfl
  assignment := rfl
  startPositions := rfl
  startJoin := rfl
  batch batch' hbatch' := ⟨batch', hbatch', rfl, rfl, List.suffix_rfl, fun _ => rfl⟩
  advance advance' hadvance' := by cases hadvance'
  left _ := .inr rfl
  unreconciled _ := rfl

theorem retryNext (entries : List Uncommitted) (s : KafkaSource) :
    Moves s (s.retryNext entries) := by
  induction entries generalizing s with
  | nil => exact .of_eq rfl rfl rfl rfl rfl rfl rfl rfl rfl rfl rfl rfl
  | cons pending rest ih =>
      unfold KafkaSource.retryNext
      split
      · split
        · have hforgot : Moves s (s.forget pending.key) := .of_eq rfl rfl rfl rfl rfl rfl rfl rfl rfl rfl rfl rfl
          exact hforgot.trans (ih _)
        · exact ih s
      · exact .of_eq rfl rfl rfl rfl rfl rfl rfl rfl rfl rfl rfl rfl

theorem turn (s : KafkaSource) : Moves s s.turn := by
  unfold KafkaSource.turn
  split
  · rename_i job rest _ _
    split
    · exact .of_eq rfl rfl rfl rfl rfl rfl rfl rfl rfl rfl rfl rfl
    · have hpopped : Moves s { s with commits := rest } := .of_eq rfl rfl rfl rfl rfl rfl rfl rfl rfl rfl rfl rfl
      refine hpopped.trans ?_
      unfold passOver
      split
      · exact retryNext _ _
      · exact .refl _
      · exact .of_eq rfl rfl rfl rfl rfl rfl rfl rfl rfl rfl rfl rfl
  · exact .refl s

theorem commitSucceeded (caller : CommitCaller) (position : KafkaPosition) (s : KafkaSource) :
    Moves s (s.commitSucceeded caller position) := by
  unfold KafkaSource.commitSucceeded
  set t : KafkaSource := { s with uncommitted := _ }
  have ht : Moves s t := .of_eq rfl rfl rfl rfl rfl rfl rfl rfl rfl rfl rfl rfl
  have htold : Moves s (t.tell (.committed position)) := .of_eq rfl rfl rfl rfl rfl rfl rfl rfl rfl rfl rfl rfl
  cases caller with
  | record begun epoch => exact htold.trans (batchAt (by simp) _)
  | retry pending => exact htold.trans (retryNext _ _)
  | advance begun =>
      dsimp only
      split
      · exact ht.trans (leave _ _ _)
      · exact ht.trans (advanceAt _ _)

theorem commitFailed (caller : CommitCaller) (position : KafkaPosition) (call : ℕ)
    (s : KafkaSource) : Moves s (s.commitFailed caller position call) := by
  cases caller with
  | record begun epoch => exact (endBatch s).trans (.of_eq rfl rfl rfl rfl rfl rfl rfl rfl rfl rfl rfl rfl)
  | retry pending => exact retryNext _ _
  | advance begun => exact leave _ _ _

theorem settle (resolved : Bool) (s : KafkaSource) : Moves s (s.settle resolved) := by
  unfold KafkaSource.settle
  split
  · rename_i turn job rest _ _
    have hpopped : Moves s { s with inTurn := none, commits := rest } :=
      .of_eq rfl rfl rfl rfl rfl rfl rfl rfl rfl rfl rfl rfl
    refine hpopped.trans ?_
    unfold settled
    split
    · split
      · exact commitSucceeded _ _ _
      · exact commitFailed _ _ _ _
    · exact .of_eq rfl rfl rfl rfl rfl rfl rfl rfl rfl rfl rfl rfl
  · exact .refl s

end Moves

theorem Placed.moves (h : Placed s) (hmoves : Moves s s')
    (hwithin : ∀ begun key bound, Within s begun key bound → Within s' begun key bound) :
    Placed s' where
  unheld hpaused := hmoves.held ▸ h.unheld (hmoves.paused ▸ hpaused)
  unasked hpaused := by
    cases hadvance' : s'.advance with
    | none => rfl
    | some advance' =>
        obtain ⟨advance, hadvance, -⟩ := hmoves.advance advance' hadvance'
        rw [h.unasked (hmoves.paused ▸ hpaused)] at hadvance
        cases hadvance
  quiet hbatch := by
    obtain ⟨batch', hbatch'⟩ := Option.ne_none_iff_exists'.mp hbatch
    obtain ⟨batch, hbatch, -⟩ := hmoves.batch batch' hbatch'
    rw [hmoves.paused]
    exact h.quiet (by simp [hbatch])
  advance advance' hadvance' := by
    obtain ⟨advance, hadvance, hcurrent, hposition⟩ := hmoves.advance advance' hadvance'
    rw [hmoves.held, hcurrent, hposition]
    exact h.advance advance hadvance
  future begun key hbegun := hwithin _ _ _ (h.future begun key (hmoves.epoch ▸ hbegun))
  fetch key := by
    rw [hmoves.epoch, hmoves.fetchFrom, hmoves.held]
    rcases h.fetch key with hfetch | ⟨held, hheld, hkey, hasked⟩
    · exact .inl (hwithin _ _ _ hfetch)
    · refine .inr ⟨held, hheld, hkey, ?_⟩
      rcases hasked with hadvance | hleft
      · exact hmoves.left hadvance
      · exact .inr (hmoves.unreconciled hleft)
  held held hheld := by
    rw [hmoves.epoch]
    exact hwithin _ _ _ (h.held held (hmoves.held ▸ hheld))
  begun batch' hbatch' := by
    obtain ⟨batch, hbatch, -, hbegun, -⟩ := hmoves.batch batch' hbatch'
    rw [hbegun, hmoves.epoch]
    exact h.begun batch hbatch
  ascending batch' hbatch' := by
    obtain ⟨batch, hbatch, -, -, hsuffix, -⟩ := hmoves.batch batch' hbatch'
    exact (h.ascending batch hbatch).sublist hsuffix.sublist
  batch batch' hbatch' offset hoffset := by
    obtain ⟨batch, hbatch, hkey, hbegun, hsuffix, -⟩ := hmoves.batch batch' hbatch'
    rw [hkey, hbegun]
    exact hwithin _ _ _ (h.batch batch hbatch offset (hsuffix.subset hoffset))
  outlasting batch' hbatch' hold key := by
    obtain ⟨batch, hbatch, -, hbegun, -⟩ := hmoves.batch batch' hbatch'
    rw [hbegun, hmoves.epoch] at hold
    rw [hmoves.epoch]
    exact hwithin _ _ _ (h.outlasting batch hbatch hold key)
  resolved batch' offset rest hbatch' hmessages hstage hbegun' := by
    obtain ⟨batch, hbatch, -, -, -, hsame⟩ := hmoves.batch batch' hbatch'
    obtain rfl := hsame hstage
    rw [hmoves.fetchFrom]
    exact h.resolved batch' offset rest hbatch hmessages hstage (hmoves.epoch ▸ hbegun')

/-- The fields that the place of the next record does not depend on are free. -/
theorem Placed.of_eq (h : Placed s) (hpaused : s'.paused = s.paused) (hheld : s'.held = s.held)
    (hepoch : s'.assignmentEpoch = s.assignmentEpoch) (hfrom : s'.fetchFrom = s.fetchFrom)
    (hbatch : s'.batch = s.batch) (hadvance : s'.advance = s.advance)
    (hleft : s'.unreconciled = s.unreconciled) (hcalls : s'.calls = s.calls)
    (hcommits : s'.commits = s.commits) (huncommitted : s'.uncommitted = s.uncommitted) :
    Placed s' := by
  have hsame : ∀ {begun key bound}, Within s begun key bound → Within s' begun key bound :=
    fun hold => hold.of_subset hcalls (fun _ hjob => .inl (hcommits ▸ hjob))
      fun _ hmem => huncommitted ▸ hmem
  refine
    { unheld := ?_, unasked := ?_, quiet := ?_, advance := ?_, future := ?_, fetch := ?_
      held := ?_, begun := ?_, ascending := ?_, batch := ?_, outlasting := ?_, resolved := ?_ }
  · rw [hpaused, hheld]
    exact h.unheld
  · rw [hpaused, hadvance]
    exact h.unasked
  · rw [hpaused, hbatch]
    exact h.quiet
  · rw [hadvance, hheld]
    exact h.advance
  · rw [hepoch]
    exact fun begun key hlater => hsame (h.future begun key hlater)
  · rw [hepoch, hfrom, hheld, hadvance, hleft]
    exact fun key => (h.fetch key).imp_left hsame
  · rw [hheld, hepoch]
    exact fun held hfound => hsame (h.held held hfound)
  · rw [hbatch, hepoch]
    exact h.begun
  · rw [hbatch]
    exact h.ascending
  · rw [hbatch]
    exact fun batch hfound offset hoffset => hsame (h.batch batch hfound offset hoffset)
  · rw [hbatch, hepoch]
    exact fun batch hfound hlate key => hsame (h.outlasting batch hfound hlate key)
  · rw [hbatch, hepoch, hfrom]
    exact h.resolved

/-- A new assignment has done nothing yet. -/
theorem Placed.reassigned (h : Placed s) (hpaused : s'.paused = s.paused) (hheld : s'.held = s.held)
    (hadvance : s'.advance = s.advance) (hbatch : s'.batch = s.batch)
    (hepoch : s'.assignmentEpoch = s.assignmentEpoch + 1)
    (hwithin : ∀ begun key bound, Within s begun key bound → Within s' begun key bound) :
    Placed s' := by
  have hnew : ∀ key bound, Within s' s'.assignmentEpoch key bound := by
    intro key bound
    have hfuture := h.future s'.assignmentEpoch key (hepoch ▸ Nat.lt_succ_self _)
    exact (hwithin _ _ _ hfuture).mono (Nat.zero_le bound)
  have hbegun : ∀ batch, s'.batch = some batch → batch.begun ≤ s.assignmentEpoch :=
    fun batch hbatch' => h.begun batch (hbatch ▸ hbatch')
  refine
    { unheld := ?_, unasked := ?_, quiet := ?_, advance := ?_, future := ?_
      fetch := fun key => .inl (hnew key _), held := fun held _ => hnew _ _, begun := ?_
      ascending := ?_, batch := ?_, outlasting := fun batch _ _ key => hnew key 0, resolved := ?_ }
  · rw [hpaused, hheld]
    exact h.unheld
  · rw [hpaused, hadvance]
    exact h.unasked
  · rw [hpaused, hbatch]
    exact h.quiet
  · rw [hadvance, hheld]
    exact h.advance
  · intro begun key hlater
    exact hwithin _ _ _ (h.future begun key (by omega))
  · intro batch hbatch'
    have hold := hbegun batch hbatch'
    omega
  · rw [hbatch]
    exact h.ascending
  · rw [hbatch]
    exact fun batch hbatch' offset hoffset => hwithin _ _ _ (h.batch batch hbatch' offset hoffset)
  · intro batch offset rest hbatch' _ _ hcurrent
    have hold := hbegun batch hbatch'
    omega

section Placing

/-- A commit joins the chain: it passes nothing above the record that comes next. -/
theorem Placed.commit {caller : CommitCaller} {position : KafkaPosition} (h : Placed s)
    (hbegun : (CommitJob.commit caller position).begun ≤ s.assignmentEpoch)
    (hfetch : (CommitJob.commit caller position).begun = s.assignmentEpoch →
      position.offset ≤ s.fetchFrom position.key ∨
        ∃ held, s.held = some held ∧ held.position.key = position.key ∧ s.advance ≠ none)
    (hheld : (CommitJob.commit caller position).begun = s.assignmentEpoch → ∀ held,
      s.held = some held → held.position.key = position.key →
        position.offset ≤ held.position.offset)
    (hbatch : ∀ batch, s.batch = some batch →
      batch.begun = (CommitJob.commit caller position).begun → batch.key = position.key →
        ∀ offset ∈ batch.messages, position.offset ≤ offset)
    (hold : (CommitJob.commit caller position).begun = s.assignmentEpoch →
      ∀ batch, s.batch = some batch → batch.begun = s.assignmentEpoch) :
    Placed (s.commit caller position) where
  unheld := h.unheld
  unasked := h.unasked
  quiet := h.quiet
  advance := h.advance
  future begun key hlater := by
    refine (h.future begun key hlater).commit fun _ hsame _ => ?_
    dsimp only [KafkaSource.commit] at hlater
    omega
  fetch key := by
    rcases h.fetch key with hwithin | hasked
    · by_cases hjob : (CommitJob.commit caller position).begun = s.assignmentEpoch ∧
          position.key = key
      · obtain ⟨hwork, rfl⟩ := hjob
        rcases hfetch hwork with hle | ⟨held, hfound, hkey, hadvance⟩
        · exact .inl (hwithin.commit fun _ _ _ => Nat.lt_succ_of_le hle)
        · exact .inr ⟨held, hfound, hkey, .inl hadvance⟩
      · exact .inl (hwithin.commit fun _ hwork hkey => absurd ⟨hwork, hkey⟩ hjob)
    · exact .inr hasked
  held held hfound := (h.held held hfound).commit fun _ hwork hkey =>
    Nat.lt_succ_of_le (hheld hwork held hfound hkey.symm)
  begun := h.begun
  ascending := h.ascending
  batch batch hfound offset hoffset := (h.batch batch hfound offset hoffset).commit
    fun _ hwork hkey =>
      Nat.lt_succ_of_le (hbatch batch hfound hwork.symm hkey.symm offset hoffset)
  outlasting batch hfound hlate key := by
    refine (h.outlasting batch hfound hlate key).commit fun _ hwork _ => ?_
    have hsame := hold hwork batch hfound
    dsimp only [KafkaSource.commit] at hlate
    omega
  resolved := h.resolved

/-- The batch at a record: where it is, and what it found. -/
structure AtRecord (s : KafkaSource) (batch : KafkaBatch) (offset : ℕ) (rest : List ℕ) : Prop where
  found : s.batch = some batch
  messages : batch.messages = offset :: rest

namespace Placed

variable {batch : KafkaBatch} {offset : ℕ} {rest : List ℕ}

theorem running (h : Placed s) (hat : AtRecord s batch offset rest) :
    s.paused = false ∧ s.held = none ∧ s.advance = none := by
  have hpaused := h.quiet (by simp [hat.found])
  exact ⟨hpaused, h.unheld hpaused, h.unasked hpaused⟩

/-- Nothing above the record was passed in the batch's assignment, or in a later one. -/
theorem atRecord (h : Placed s) (hat : AtRecord s batch offset rest) :
    Within s s.assignmentEpoch batch.key (offset + 1) := by
  rcases Nat.lt_or_eq_of_le (h.begun batch hat.found) with hold | hsame
  · exact (h.outlasting batch hat.found hold batch.key).mono (Nat.zero_le _)
  · exact hsame ▸ h.batch batch hat.found offset (hat.messages ▸ List.mem_cons_self)

/-- Everything but the partition's position stays within reach. -/
theorem fetch_of_running (h : Placed s) (hheld : s.held = none) (key : TopicPartition) :
    Within s s.assignmentEpoch key (s.fetchFrom key + 1) := by
  rcases h.fetch key with hwithin | ⟨held, hfound, -⟩
  · exact hwithin
  · rw [hheld] at hfound
    cases hfound

/-- KafkaJS goes on at a place that nothing passed lies above. -/
theorem seek (h : Placed s) (hheld : s.held = none) {position : KafkaPosition}
    (hwithin : Within s s.assignmentEpoch position.key (position.offset + 1))
    (hbatch : ∀ batch offset rest, s.batch = some batch → batch.messages = offset :: rest →
      batch.stage = .beforeCommit → batch.begun = s.assignmentEpoch → batch.key = position.key →
        offset ≤ position.offset) : Placed (s.seek position) where
  unheld := h.unheld
  unasked := h.unasked
  quiet := h.quiet
  advance := h.advance
  future begun key hlater := (h.future begun key hlater).of_subset rfl (fun _ => .inl) fun _ => id
  fetch key := by
    left
    by_cases hkey : key = position.key
    · subst hkey
      simp only [KafkaSource.seek, Function.update_self]
      exact hwithin.of_subset rfl (fun _ => .inl) fun _ => id
    · simp only [KafkaSource.seek, Function.update_of_ne hkey]
      exact (h.fetch_of_running hheld key).of_subset rfl (fun _ => .inl) fun _ => id
  held held hfound := (h.held held hfound).of_subset rfl (fun _ => .inl) fun _ => id
  begun := h.begun
  ascending := h.ascending
  batch batch hfound offset hoffset :=
    (h.batch batch hfound offset hoffset).of_subset rfl (fun _ => .inl) fun _ => id
  outlasting batch hfound hlate key :=
    (h.outlasting batch hfound hlate key).of_subset rfl (fun _ => .inl) fun _ => id
  resolved batch offset rest hfound hmessages hstage hcurrent := by
    by_cases hkey : batch.key = position.key
    · simp only [KafkaSource.seek, hkey, Function.update_self]
      exact hbatch batch offset rest hfound hmessages hstage hcurrent hkey
    · simp only [KafkaSource.seek, Function.update_of_ne hkey]
      exact h.resolved batch offset rest hfound hmessages hstage hcurrent

theorem batchAt (h : Placed s) (stage : BatchStage)
    (hresolved : ∀ batch offset rest, s.batch = some batch → batch.messages = offset :: rest →
      batch.begun = s.assignmentEpoch → offset ≤ s.fetchFrom batch.key) :
    Placed (s.batchAt stage) := by
  have hkept : ∀ batch', (s.batchAt stage).batch = some batch' → ∃ batch, s.batch = some batch ∧
      batch' = { batch with stage } := by
    intro batch' hbatch'
    simp only [KafkaSource.batchAt, Option.map_eq_some_iff] at hbatch'
    obtain ⟨batch, hfound, rfl⟩ := hbatch'
    exact ⟨batch, hfound, rfl⟩
  have hsame : ∀ {begun key bound}, Within s begun key bound →
      Within (s.batchAt stage) begun key bound :=
    fun hold => hold.of_subset rfl (fun _ => .inl) fun _ => id
  refine
    { unheld := h.unheld, unasked := h.unasked, quiet := ?_, advance := h.advance
      future := fun begun key hlater => hsame (h.future begun key hlater), fetch := fun key => ?_
      held := fun held hfound => hsame (h.held held hfound), begun := ?_, ascending := ?_
      batch := ?_, outlasting := ?_, resolved := ?_ }
  · intro hbatch
    exact h.quiet (by simpa [KafkaSource.batchAt] using hbatch)
  · exact (h.fetch key).imp_left hsame
  · intro batch' hbatch'
    obtain ⟨batch, hfound, rfl⟩ := hkept batch' hbatch'
    exact h.begun batch hfound
  · intro batch' hbatch'
    obtain ⟨batch, hfound, rfl⟩ := hkept batch' hbatch'
    exact h.ascending batch hfound
  · intro batch' hbatch' offset hoffset
    obtain ⟨batch, hfound, rfl⟩ := hkept batch' hbatch'
    exact hsame (h.batch batch hfound offset hoffset)
  · intro batch' hbatch' hlate key
    obtain ⟨batch, hfound, rfl⟩ := hkept batch' hbatch'
    exact hsame (h.outlasting batch hfound hlate key)
  · intro batch' offset rest hbatch' hmessages _ hcurrent
    obtain ⟨batch, hfound, rfl⟩ := hkept batch' hbatch'
    exact hresolved batch offset rest hfound hmessages hcurrent

/-- `process` settled for the record. -/
theorem processed (h : Placed s) (hat : AtRecord s batch offset rest)
    (outcome : Option ProcessOutcome) :
    Placed (s.processed { batch.key with offset } outcome) := by
  obtain ⟨hpaused, hheld, hadvance⟩ := h.running hat
  have hwithin := h.atRecord hat
  have hended : Placed s.endBatch :=
    h.moves (.endBatch s) fun _ _ _ hold => hold.of_subset rfl (fun _ => .inl) fun _ => id
  have hsought : ∀ position : KafkaPosition, position.key = batch.key → offset ≤ position.offset →
      Placed (s.endBatch.seek position) := by
    intro position hkey hle
    have hreach := hwithin.mono (Nat.succ_le_succ hle)
    refine hended.seek hheld ?_ fun batch' _ _ hnone => by cases hnone
    rw [hkey]
    exact hreach.of_subset rfl (fun _ => .inl) fun _ => id
  have hpausedAt : ∀ held, (∀ h, held = some h → h.position = { batch.key with offset }) →
      ∀ pauses told, Placed { (s.pauseAt { batch.key with offset }).endBatch with
        held := held, pauses := pauses, told := told } := by
    intro held hposition pauses told
    have hplaced := hsought { batch.key with offset } rfl (Nat.le_refl _)
    have hsame : ∀ begun key bound, Within (s.endBatch.seek { batch.key with offset }) begun key
        bound → Within { (s.pauseAt { batch.key with offset }).endBatch with
          held := held, pauses := pauses, told := told } begun key bound :=
      fun _ _ _ hold => hold.of_subset rfl (fun _ => .inl) fun _ => id
    exact
      { unheld := fun hfalse => by cases hfalse
        unasked := fun hfalse => by cases hfalse
        quiet := fun hnone => absurd rfl hnone
        advance := fun advance hsome => by
          have hasked : s.advance = some advance := hsome
          rw [hadvance] at hasked
          cases hasked
        future := fun begun key hlater => hsame _ _ _ (hplaced.future begun key hlater)
        fetch := fun key => .inl (hsame _ _ _ (hplaced.fetch_of_running hheld key))
        held := fun found hfound => by
          rw [hposition found hfound]
          exact hwithin.of_subset rfl (fun _ => .inl) fun _ => id
        begun := fun _ hnone => by cases hnone
        ascending := fun _ hnone => by cases hnone
        batch := fun _ hnone => by cases hnone
        outlasting := fun _ hnone => by cases hnone
        resolved := fun _ _ _ hnone => by cases hnone }
  rcases outcome with _ | _ | _ | _ | _
  · exact hended
  · have hhead : ∀ batch' offset' rest', s.batch = some batch' → batch'.messages = offset' :: rest' →
        batch'.key = batch.key ∧ offset' = offset := by
      intro batch' offset' rest' hfound hmessages
      obtain rfl := Option.some.inj (hat.found.symm.trans hfound)
      rw [hat.messages] at hmessages
      cases hmessages
      exact ⟨rfl, rfl⟩
    have hgoes : Placed (s.seek (KafkaPosition.next { batch.key with offset })) := by
      refine h.seek hheld (hwithin.mono (by simp)) fun batch' offset' rest' hfound hmessages _ _ _ => ?_
      rw [(hhead batch' offset' rest' hfound hmessages).2]
      exact Nat.le_succ _
    refine hgoes.batchAt _ fun batch' offset' rest' hfound hmessages _ => ?_
    obtain ⟨hkey, rfl⟩ := hhead batch' offset' rest' hfound hmessages
    simp [KafkaSource.seek, hkey]
  · exact hpausedAt _ (fun h hsome => by cases hsome; rfl) _ _
  · exact hpausedAt s.held (fun h hsome => by rw [hheld] at hsome; cases hsome) _ _
  · exact hended

/-- `beforeCommit` settled for the record. -/
theorem beginCommit (h : Placed s) (hat : AtRecord s batch offset rest)
    (hstage : batch.stage = .beforeCommit) (resolved : Bool) :
    Placed (s.beginCommit { batch.key with offset } batch.begun resolved) := by
  obtain ⟨-, hheld, -⟩ := h.running hat
  unfold KafkaSource.beginCommit
  split
  · exact h.moves (.endBatch s) fun _ _ _ hold => hold.of_subset rfl (fun _ => .inl) fun _ => id
  · have hascending := h.ascending batch hat.found
    rw [hat.messages, List.pairwise_cons] at hascending
    have hqueued : Placed (s.commit (.record batch.begun s.assignmentEpoch)
        { batch.key with offset }) := by
      apply h.commit
      · exact h.begun batch hat.found
      · exact fun hcurrent =>
          .inl (h.resolved batch offset rest hat.found hat.messages hstage hcurrent)
      · intro _ held hfound
        rw [hheld] at hfound
        cases hfound
      · intro batch' hfound _ _ offset' hoffset'
        obtain rfl := Option.some.inj (hat.found.symm.trans hfound)
        rw [hat.messages, List.mem_cons] at hoffset'
        rcases hoffset' with rfl | hlater
        · exact Nat.le_refl _
        · exact Nat.le_of_lt (hascending.1 offset' hlater)
      · intro hcurrent batch' hfound
        obtain rfl := Option.some.inj (hat.found.symm.trans hfound)
        exact hcurrent
    exact hqueued.moves (.batchAt (by simp) _) fun _ _ _ hold =>
      hold.of_subset rfl (fun _ => .inl) fun _ => id

theorem eachBatch (h : Placed s) {key : TopicPartition} {messages : List ℕ}
    (hascending : messages.Pairwise (· < ·)) (hfrom : ∀ offset ∈ messages, s.fetchFrom key ≤ offset) :
    Placed (s.eachBatch key messages) := by
  unfold KafkaSource.eachBatch
  split
  · exact h
  · rename_i hpaused
    have hrunning : s.paused = false := by simpa using hpaused
    have hsame : ∀ {begun key bound}, Within s begun key bound →
        Within { s with batch := some ⟨key, messages, s.assignmentEpoch,
          if s.startCommit then .starting else .loop⟩ } begun key bound :=
      fun hold => hold.of_subset rfl (fun _ => .inl) fun _ => id
    refine
      { unheld := h.unheld, unasked := h.unasked, quiet := fun _ => hrunning, advance := h.advance
        future := fun begun key hlater =>
          (h.future begun key hlater).of_subset rfl (fun _ => .inl) fun _ => id
        fetch := fun key => (h.fetch key).imp_left fun hold =>
          hold.of_subset rfl (fun _ => .inl) fun _ => id
        held := fun held hfound => (h.held held hfound).of_subset rfl (fun _ => .inl) fun _ => id
        begun := ?_, ascending := ?_, batch := ?_, outlasting := ?_, resolved := ?_ }
    · rintro batch ⟨⟩
      exact Nat.le_refl _
    · rintro batch ⟨⟩
      exact hascending
    · rintro batch ⟨⟩ offset hoffset
      have hreach := h.fetch_of_running (h.unheld hrunning) key
      refine (hreach.mono (Nat.succ_le_succ (hfrom offset hoffset))).of_subset rfl (fun _ => .inl) ?_
      exact fun _ => id
    · rintro batch ⟨⟩ hlate
      exact absurd hlate (Nat.lt_irrefl _)
    · rintro batch offset rest ⟨⟩ - hstage
      dsimp only at hstage
      split at hstage <;> cases hstage

/-- The advance past the held record is asked for, and its commit joins the chain. -/
theorem advancePast (h : Placed s) {position : KafkaPosition} (hnone : s.advance = none) :
    Placed (s.advancePast position) := by
  unfold KafkaSource.advancePast
  split
  · have hmoves : Moves s (s.answer position .notHeld) :=
      .of_eq rfl rfl rfl rfl rfl rfl rfl rfl rfl rfl hnone.symm rfl
    exact h.moves hmoves fun _ _ _ hold => hold.of_subset rfl (fun _ => .inl) fun _ => id
  · rename_i current hcurrent
    unfold heldAt at hcurrent
    split at hcurrent
    · rename_i hstate
      obtain ⟨hheld, hposition⟩ := Option.filter_eq_some_iff.mp hcurrent
      obtain rfl : current.position = position := by simpa using hposition
      have hquiet : s.batch = none := by
        by_contra hsome
        rw [h.quiet hsome] at hstate
        exact Bool.noConfusion hstate.2.2.1
      have hasked : Placed { s with
          advance := some ⟨current.position, s.assignmentEpoch, current, .committing⟩ } := by
        have hsame : ∀ {begun key bound}, Within s begun key bound → Within { s with
            advance := some ⟨current.position, s.assignmentEpoch, current, .committing⟩ } begun key
              bound :=
          fun hold => hold.of_subset rfl (fun _ => .inl) fun _ => id
        refine
          { unheld := h.unheld, unasked := ?_, quiet := h.quiet, advance := ?_
            future := fun begun key hlater => hsame (h.future begun key hlater), fetch := ?_
            held := fun held hfound => hsame (h.held held hfound), begun := h.begun
            ascending := h.ascending
            batch := fun batch hfound offset hoffset => hsame (h.batch batch hfound offset hoffset)
            outlasting := fun batch hfound hlate key => hsame (h.outlasting batch hfound hlate key)
            resolved := h.resolved }
        · intro hpaused
          rw [show s.paused = false from hpaused] at hstate
          exact Bool.noConfusion hstate.2.2.1
        · rintro advance ⟨⟩
          exact ⟨hheld, rfl⟩
        · intro key
          rcases h.fetch key with hold | ⟨held, hfound, hkey, -⟩
          · exact .inl (hsame hold)
          · exact .inr ⟨held, hfound, hkey, .inl (by simp)⟩
      apply hasked.commit
      · exact Nat.le_refl _
      · exact fun _ => .inr ⟨current, hheld, rfl, by simp⟩
      · intro _ held hfound _
        obtain rfl := Option.some.inj (hheld.symm.trans hfound)
        exact Nat.le_refl _
      · intro batch hfound
        rw [show s.batch = some batch from hfound] at hquiet
        cases hquiet
      · intro _ batch hfound
        rw [show s.batch = some batch from hfound] at hquiet
        cases hquiet
    · cases hcurrent

/-- The source goes on, at a place that nothing passed lies above. -/
theorem released (h : Placed s) (hpaused : s'.paused = false) (hheld : s'.held = none)
    (hadvance : s'.advance = none) (hbatch : s'.batch = s.batch)
    (hepoch : s'.assignmentEpoch = s.assignmentEpoch)
    (hwithin : ∀ begun key bound, Within s begun key bound → Within s' begun key bound)
    (hresolved : s'.batch ≠ none → s'.fetchFrom = s.fetchFrom)
    (hfetch : ∀ key, Within s s.assignmentEpoch key (s'.fetchFrom key + 1)) : Placed s' where
  unheld _ := hheld
  unasked _ := hadvance
  quiet _ := hpaused
  advance advance hsome := by
    rw [hadvance] at hsome
    cases hsome
  future begun key hlater := hwithin _ _ _ (h.future begun key (hepoch ▸ hlater))
  fetch key := .inl (hepoch ▸ hwithin _ _ _ (hfetch key))
  held held hsome := by
    rw [hheld] at hsome
    cases hsome
  begun batch hfound := hepoch ▸ h.begun batch (hbatch ▸ hfound)
  ascending batch hfound := h.ascending batch (hbatch ▸ hfound)
  batch batch hfound offset hoffset :=
    hwithin _ _ _ (h.batch batch (hbatch ▸ hfound) offset hoffset)
  outlasting batch hfound hlate key :=
    hepoch ▸ hwithin _ _ _ (h.outlasting batch (hbatch ▸ hfound) (hepoch ▸ hlate) key)
  resolved batch offset rest hfound hmessages hstage hcurrent := by
    rw [hresolved (by simp [hfound])]
    exact h.resolved batch offset rest (hbatch ▸ hfound) hmessages hstage (hepoch ▸ hcurrent)

theorem setStatus (h : Placed s) (status : KafkaStatus) (reason : Option ErrorCode) :
    Placed (s.setStatus status reason) := by
  unfold KafkaSource.setStatus
  split
  · exact h
  · split
    · exact h
    · refine h.moves ?_ fun _ _ _ hold => hold.of_subset rfl (fun _ => .inl) fun _ => id
      exact .of_eq rfl rfl rfl rfl rfl rfl rfl rfl rfl rfl rfl rfl

/-- A retry of the held record, no advance past it having been begun. -/
theorem resume (h : Placed s)
    (hasked : s.paused = true → s.advance = none ∧ s.unreconciled = false) :
    Placed s.resume := by
  unfold KafkaSource.resume
  split
  · exact h
  · rename_i hpaused
    obtain ⟨hadvance, hleft⟩ := hasked (by simpa using fun hf => hpaused (.inl hf))
    have hresumed : Placed { s with paused := false, held := none } := by
      refine h.released rfl rfl hadvance rfl rfl ?_ (fun _ => rfl) fun key => ?_
      · exact fun _ _ _ hold => hold.of_subset rfl (fun _ => .inl) fun _ => id
      · rcases h.fetch key with hold | ⟨-, -, -, hsome | htrue⟩
        · exact hold
        · exact absurd hadvance hsome
        · rw [hleft] at htrue
          cases htrue
    exact hresumed.setStatus _ _

/-- The advance was recorded, or not: the source goes on behind the record, or stays paused. -/
theorem confirmed (h : Placed s) {advance : AdvanceCall} (hsome : s.advance = some advance)
    (recorded : Bool) : Placed (s.confirmed advance recorded) := by
  have hleft : Placed (s.leave advance.position .advanced) :=
    h.moves (.leave _ _ _) fun _ _ _ hold => hold.leave _ _
  unfold KafkaSource.confirmed
  split
  · exact hleft
  · split
    · exact hleft
    · obtain ⟨hheld, hposition⟩ := h.advance advance hsome
      have hquiet : s.batch = none := by
        by_contra hrunning
        rw [h.unasked (h.quiet hrunning)] at hsome
        cases hsome
      unfold KafkaSource.setStatus
      have hreleased : ∀ status told, Placed { s with
          held := none
          paused := false
          advance := none
          status := status
          told := told
          fetchFrom := Function.update s.fetchFrom advance.position.key
            advance.position.next.offset } := by
        intro status told
        refine h.released rfl rfl rfl rfl rfl ?_ (fun hrunning => absurd hquiet hrunning) fun key => ?_
        · exact fun _ _ _ hold => hold.of_subset rfl (fun _ => .inl) fun _ => id
        · by_cases hkey : key = advance.position.key
          · subst hkey
            have hreach := h.held advance.current hheld
            rw [hposition] at hreach
            simp only [Function.update_self]
            exact hreach.mono (by simp)
          · simp only [Function.update_of_ne hkey]
            rcases h.fetch key with hold | ⟨held, hfound, hsame, -⟩
            · exact hold
            · obtain rfl := Option.some.inj (hheld.symm.trans hfound)
              exact absurd (hsame.symm.trans (by rw [hposition])) hkey
      split
      · exact hreleased _ _
      · split <;> exact hreleased _ _

end Placed

end Placing

end StreamOtter.KafkaSource
