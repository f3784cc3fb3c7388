import StreamOtter.KafkaHealth

/-!
# The order of Kafka commits

Processed records, retries of failed commits and guarded advances commit through one chain.
Within one assignment of a partition the offsets they pass to `commitOffsets` never go back,
unless a guarded advance fails to commit while an earlier failed commit awaits its retry.
-/

namespace StreamOtter.KafkaSource

variable {options : KafkaOptions} {s s' : KafkaSource} {begun bound : ℕ} {key : TopicPartition}

/-- Work of one assignment passes the offsets of a partition in order. -/
def CallsOrdered (calls : List CommitCall) : Prop :=
  calls.Pairwise fun earlier later =>
    earlier.begun = later.begun → earlier.offset.key = later.offset.key →
      earlier.offset.offset ≤ later.offset.offset

/-- Between a failed commit and its retry no later offset of the partition was passed. -/
def RetriesCurrent (calls : List CommitCall) : Prop :=
  ∀ retry ∈ calls, ∀ failed, retry.retried = some failed →
    ∀ call ∈ calls, call.offset.key = retry.offset.key → failed < call.call →
      call.call < retry.call → call.offset.offset ≤ retry.offset.offset

section Within

/-- Work of the assignment has passed, and will pass, no offset of the partition above the
bound, unless it is begun later. -/
structure Within (s : KafkaSource) (begun : ℕ) (key : TopicPartition) (bound : ℕ) : Prop where
  calls : ∀ call ∈ s.calls, call.begun = begun → call.offset.key = key →
    call.offset.offset ≤ bound
  commits : ∀ job ∈ s.commits, job.retried = none → job.begun = begun →
    ∀ offset ∈ job.offsets, offset.key = key → offset.offset ≤ bound
  uncommitted : ∀ pending ∈ s.uncommitted.values, pending.begun = begun → pending.key = key →
    pending.position.offset < bound

theorem Within.mono {bound' : ℕ} (h : Within s begun key bound) (hle : bound ≤ bound') :
    Within s begun key bound' where
  calls call hcall hbegun hkey := Nat.le_trans (h.calls call hcall hbegun hkey) hle
  commits job hjob hretried hbegun offset hoffset hkey :=
    Nat.le_trans (h.commits job hjob hretried hbegun offset hoffset hkey) hle
  uncommitted pending hpending hbegun hkey :=
    Nat.lt_of_lt_of_le (h.uncommitted pending hpending hbegun hkey) hle

/-- A commit that joins the chain is within every bound above it. -/
theorem Within.commit {caller : CommitCaller} {position : KafkaPosition}
    (h : Within s begun key bound)
    (hnew : (CommitJob.commit caller position).retried = none →
      (CommitJob.commit caller position).begun = begun → position.key = key →
        position.offset < bound) :
    Within (s.commit caller position) begun key bound where
  calls := h.calls
  commits job hjob hretried hbegun offset hoffset hkey := by
    rcases List.mem_append.mp hjob with hold | hadded
    · exact h.commits job hold hretried hbegun offset hoffset hkey
    · obtain rfl := List.mem_singleton.mp hadded
      obtain rfl := List.mem_singleton.mp hoffset
      exact hnew hretried hbegun hkey
  uncommitted := h.uncommitted

/-- Work that ends, or that goes on as it was announced, stays within its bounds. -/
theorem Within.of_subset (h : Within s begun key bound) (hcalls : s'.calls = s.calls)
    (hcommits : ∀ job ∈ s'.commits, job ∈ s.commits ∨ job.retried ≠ none)
    (huncommitted : ∀ pending ∈ s'.uncommitted.values, pending ∈ s.uncommitted.values) :
    Within s' begun key bound where
  calls call hcall := h.calls call (hcalls ▸ hcall)
  commits job hjob hretried := by
    rcases hcommits job hjob with hold | hretry
    · exact h.commits job hold hretried
    · exact absurd hretried hretry
  uncommitted pending hpending := h.uncommitted pending (huncommitted pending hpending)

end Within

/-- The chain of commits: what was passed, what waits for its turn, and what is to be retried. -/
structure Chained (s : KafkaSource) : Prop where
  calls : CallsOrdered s.calls
  retries : RetriesCurrent s.calls
  numbered : ∀ call ∈ s.calls, call.call < s.commitCalls
  failed : ∀ pending ∈ s.uncommitted.values, pending.call < s.commitCalls
  dated : ∀ pending ∈ s.uncommitted.values, pending.epoch ≤ s.assignmentEpoch
  datedJobs : ∀ begun epoch position, .commit (.record begun epoch) position ∈ s.commits →
    epoch ≤ s.assignmentEpoch
  coherent : ∀ job ∈ s.commits, ∀ offset ∈ job.offsets, ∀ offset' ∈ job.offsets,
    offset.key = offset'.key → offset = offset'
  queue : s.commits.Pairwise fun earlier later =>
    earlier.retried = none → later.retried = none → earlier.begun = later.begun →
      ∀ offset ∈ earlier.offsets, ∀ offset' ∈ later.offsets, offset.key = offset'.key →
        offset.offset ≤ offset'.offset
  /-- A commit passes nothing below what was passed before it. -/
  passed : ∀ job ∈ s.commits, job.retried = none → ∀ offset ∈ job.offsets,
    ∀ call ∈ s.calls, call.begun = job.begun → call.offset.key = offset.key →
      call.offset.offset ≤ offset.offset
  /-- Nor below a failed commit that may still be retried. -/
  above : ∀ job ∈ s.commits, job.retried = none → ∀ offset ∈ job.offsets,
    ∀ pending ∈ s.uncommitted.values, pending.begun = job.begun → pending.key = offset.key →
      pending.position.offset < offset.offset
  /-- No later offset was passed since a commit failed, or it is being passed now. -/
  current : ∀ pending ∈ s.uncommitted.values, pending.epoch = s.assignmentEpoch →
    ∀ call ∈ s.calls, call.offset.key = pending.key →
      call.begun = pending.begun ∨ pending.call < call.call →
        call.offset.offset ≤ pending.position.offset + 1 ∨
          ∃ turn, s.inTurn = some turn ∧ call.call = turn.call
  /-- The first commit of the chain is the one in its turn. -/
  turn : ∀ turn, s.inTurn = some turn → turn.call + 1 = s.commitCalls ∧
    ∃ job rest, s.commits = job :: rest ∧
      (∀ call ∈ s.calls, call.call = turn.call → call.offset ∈ job.offsets) ∧
      ∀ pending position, job = .commit (.retry pending) position →
        position = pending.position ∧
          ∀ other ∈ s.uncommitted.values, other.key = pending.key → other = pending
  retry : ∀ pending position, .commit (.retry pending) position ∈ s.commits →
    position = pending.position

namespace Chained

/-- The fields that the chain does not depend on are free. -/
theorem of_eq (h : Chained s) (hcalls : s'.calls = s.calls)
    (hcount : s'.commitCalls = s.commitCalls) (hcommits : s'.commits = s.commits)
    (huncommitted : s'.uncommitted = s.uncommitted)
    (hepoch : s'.assignmentEpoch = s.assignmentEpoch) (hturn : s'.inTurn = s.inTurn) :
    Chained s' := by
  constructor
  · exact hcalls ▸ h.calls
  · exact hcalls ▸ h.retries
  · rw [hcalls, hcount]
    exact h.numbered
  · rw [huncommitted, hcount]
    exact h.failed
  · rw [huncommitted, hepoch]
    exact h.dated
  · rw [hcommits, hepoch]
    exact h.datedJobs
  · exact hcommits ▸ h.coherent
  · exact hcommits ▸ h.queue
  · rw [hcommits, hcalls]
    exact h.passed
  · rw [hcommits, huncommitted]
    exact h.above
  · rw [huncommitted, hepoch, hcalls, hturn]
    exact h.current
  · rw [hturn, hcount, hcommits, hcalls, huncommitted]
    exact h.turn
  · exact hcommits ▸ h.retry

/-- A new assignment makes every failed commit stale. -/
theorem reassigned (h : Chained s) (hcalls : s'.calls = s.calls)
    (hcount : s'.commitCalls = s.commitCalls) (hcommits : s'.commits = s.commits)
    (huncommitted : s'.uncommitted = s.uncommitted)
    (hepoch : s'.assignmentEpoch = s.assignmentEpoch + 1) (hturn : s'.inTurn = s.inTurn) :
    Chained s' := by
  constructor
  · exact hcalls ▸ h.calls
  · exact hcalls ▸ h.retries
  · rw [hcalls, hcount]
    exact h.numbered
  · rw [huncommitted, hcount]
    exact h.failed
  · rw [huncommitted, hepoch]
    exact fun pending hpending => Nat.le_succ_of_le (h.dated pending hpending)
  · rw [hcommits, hepoch]
    exact fun _ _ _ hjob => Nat.le_succ_of_le (h.datedJobs _ _ _ hjob)
  · exact hcommits ▸ h.coherent
  · exact hcommits ▸ h.queue
  · rw [hcommits, hcalls]
    exact h.passed
  · rw [hcommits, huncommitted]
    exact h.above
  · rw [huncommitted, hepoch]
    intro pending hpending hcurrent
    have hdated := h.dated pending hpending
    omega
  · rw [hturn, hcount, hcommits, hcalls, huncommitted]
    exact h.turn
  · exact hcommits ▸ h.retry

/-- Failed commits may be given up. -/
theorem filter (h : Chained s) (p : Uncommitted → Bool) :
    Chained { s with uncommitted := s.uncommitted.filter p } where
  calls := h.calls
  retries := h.retries
  numbered := h.numbered
  failed pending hpending := h.failed pending (List.mem_of_mem_filter hpending)
  dated pending hpending := h.dated pending (List.mem_of_mem_filter hpending)
  datedJobs := h.datedJobs
  coherent := h.coherent
  queue := h.queue
  passed := h.passed
  above job hjob hretried offset hoffset pending hpending :=
    h.above job hjob hretried offset hoffset pending (List.mem_of_mem_filter hpending)
  current pending hpending := h.current pending (List.mem_of_mem_filter hpending)
  turn turn hturn := by
    obtain ⟨hcount, job, rest, hcommits, hcalls, hretry⟩ := h.turn turn hturn
    refine ⟨hcount, job, rest, hcommits, hcalls, fun pending position hjob => ?_⟩
    obtain ⟨hposition, hothers⟩ := hretry pending position hjob
    exact ⟨hposition, fun other hother => hothers other (List.mem_of_mem_filter hother)⟩
  retry := h.retry

/-- A job joins the chain: it passes nothing below what is passed before it. -/
theorem enqueue (h : Chained s) {job : CommitJob}
    (hcoherent : ∀ offset ∈ job.offsets, ∀ offset' ∈ job.offsets,
      offset.key = offset'.key → offset = offset')
    (hdated : ∀ begun epoch position, job = .commit (.record begun epoch) position →
      epoch ≤ s.assignmentEpoch)
    (hretry : ∀ pending position, job = .commit (.retry pending) position →
      position = pending.position)
    (hwithin : job.retried = none → ∀ offset ∈ job.offsets,
      Within s job.begun offset.key offset.offset) :
    Chained { s with commits := s.commits ++ [job] } where
  calls := h.calls
  retries := h.retries
  numbered := h.numbered
  failed := h.failed
  dated := h.dated
  datedJobs begun epoch position hmem := by
    rcases List.mem_append.mp hmem with hold | hnew
    · exact h.datedJobs begun epoch position hold
    · exact hdated begun epoch position (List.mem_singleton.mp hnew).symm
  coherent other hmem := by
    rcases List.mem_append.mp hmem with hold | hnew
    · exact h.coherent other hold
    · obtain rfl := List.mem_singleton.mp hnew
      exact hcoherent
  queue := by
    refine List.pairwise_append.mpr ⟨h.queue, List.pairwise_singleton _ _, ?_⟩
    intro earlier hearlier later hlater hfirst hsecond hbegun offset hoffset offset' hoffset' hkey
    obtain rfl := List.mem_singleton.mp hlater
    exact (hwithin hsecond offset' hoffset').commits earlier hearlier hfirst hbegun offset hoffset
      hkey
  passed other hmem hretried := by
    rcases List.mem_append.mp hmem with hold | hnew
    · exact h.passed other hold hretried
    · obtain rfl := List.mem_singleton.mp hnew
      exact fun offset hoffset => (hwithin hretried offset hoffset).calls
  above other hmem hretried := by
    rcases List.mem_append.mp hmem with hold | hnew
    · exact h.above other hold hretried
    · obtain rfl := List.mem_singleton.mp hnew
      exact fun offset hoffset => (hwithin hretried offset hoffset).uncommitted
  current := h.current
  turn turn hturn := by
    obtain ⟨hcount, first, rest, hcommits, hcalls, hfirst⟩ := h.turn turn hturn
    exact ⟨hcount, first, rest ++ [job], by simp [hcommits], hcalls, hfirst⟩
  retry pending position hmem := by
    rcases List.mem_append.mp hmem with hold | hnew
    · exact h.retry pending position hold
    · exact hretry pending position (List.mem_singleton.mp hnew).symm

theorem commitRetry (h : Chained s) (pending : Uncommitted) :
    Chained (s.commit (.retry pending) pending.position) := by
  apply h.enqueue
  · intro offset hoffset offset' hoffset' _
    rw [List.mem_singleton.mp hoffset, List.mem_singleton.mp hoffset']
  · intro begun epoch position hjob
    cases hjob
  · intro other position hjob
    cases hjob
    rfl
  · intro hretried
    cases hretried

theorem retryNext (h : Chained s) (entries : List Uncommitted) :
    Chained (s.retryNext entries) := by
  induction entries generalizing s with
  | nil => exact h.of_eq rfl rfl rfl rfl rfl rfl
  | cons pending rest ih =>
      unfold KafkaSource.retryNext
      split
      · split
        · exact ih (h.filter _)
        · exact ih h
      · exact (h.commitRetry pending).of_eq rfl rfl rfl rfl rfl rfl

/-- The first job of the chain is done or is passed over. -/
theorem pop {job : CommitJob} {rest : List CommitJob} (h : Chained s)
    (hcommits : s.commits = job :: rest)
    (hdone : ∀ turn, s.inTurn = some turn → ∀ pending ∈ s.uncommitted.values,
      pending.epoch = s.assignmentEpoch → ∀ offset ∈ job.offsets, offset.key = pending.key →
        offset.offset ≤ pending.position.offset + 1) :
    Chained { s with inTurn := none, commits := rest } where
  calls := h.calls
  retries := h.retries
  numbered := h.numbered
  failed := h.failed
  dated := h.dated
  datedJobs begun epoch position hmem :=
    h.datedJobs begun epoch position (hcommits ▸ List.mem_cons_of_mem _ hmem)
  coherent other hmem := h.coherent other (hcommits ▸ List.mem_cons_of_mem _ hmem)
  queue := by
    have hqueue := h.queue
    rw [hcommits] at hqueue
    exact hqueue.of_cons
  passed other hmem := h.passed other (hcommits ▸ List.mem_cons_of_mem _ hmem)
  above other hmem := h.above other (hcommits ▸ List.mem_cons_of_mem _ hmem)
  current pending hpending hcurrent call hcall hkey hlater := by
    rcases h.current pending hpending hcurrent call hcall hkey hlater with hle | ⟨turn, hturn, hsame⟩
    · exact .inl hle
    · obtain ⟨-, first, others, hfirst, hcalls, -⟩ := h.turn turn hturn
      obtain ⟨rfl, rfl⟩ := List.cons.inj (hcommits.symm.trans hfirst)
      exact .inl (hdone turn hturn pending hpending hcurrent _ (hcalls call hcall hsame) hkey)
  turn turn hturn := by cases hturn
  retry pending position hmem :=
    h.retry pending position (hcommits ▸ List.mem_cons_of_mem _ hmem)

/-- What a job passes when its turn comes is not below what its work passed before. -/
theorem call_le {job : CommitJob} {rest : List CommitJob} (h : Chained s)
    (hcommits : s.commits = job :: rest) (hidle : s.inTurn = none) (hstill : s.still job)
    {offset : KafkaPosition} (hoffset : offset ∈ job.offsets) {call : CommitCall}
    (hcall : call ∈ s.calls) (hbegun : call.begun = job.begun)
    (hkey : call.offset.key = offset.key) : call.offset.offset ≤ offset.offset := by
  have hmem : job ∈ s.commits := hcommits ▸ List.mem_cons_self
  match job with
  | .commit (.retry pending) position =>
      obtain rfl := List.mem_singleton.mp hoffset
      obtain rfl := h.retry pending position hmem
      obtain ⟨hfound, hcurrent, -, -⟩ := hstill
      have hpending := InsertionMap.mem_of_get hfound
      rcases h.current pending hpending hcurrent call hcall hkey (.inl hbegun) with
        hle | ⟨turn, hturn, -⟩
      · exact hle
      · rw [hidle] at hturn
        cases hturn
  | .commit (.record _ _) _ => exact h.passed _ hmem rfl offset hoffset call hcall hbegun hkey
  | .commit (.advance _) _ => exact h.passed _ hmem rfl offset hoffset call hcall hbegun hkey
  | .start _ _ => exact h.passed _ hmem rfl offset hoffset call hcall hbegun hkey

/-- The jobs behind a job pass nothing below it. -/
theorem le_queued {job later : CommitJob} {rest : List CommitJob} (h : Chained s)
    (hcommits : s.commits = job :: rest) (hstill : s.still job) (hlater : later ∈ job :: rest)
    (hretried : later.retried = none) (hbegun : job.begun = later.begun)
    {offset offset' : KafkaPosition} (hoffset : offset ∈ job.offsets)
    (hoffset' : offset' ∈ later.offsets) (hkey : offset.key = offset'.key) :
    offset.offset ≤ offset'.offset := by
  have hmem : job ∈ s.commits := hcommits ▸ List.mem_cons_self
  have hqueue := h.queue
  rw [hcommits, List.pairwise_cons] at hqueue
  have hnotRetry : job.retried = none → offset.offset ≤ offset'.offset := by
    intro hfirst
    rcases List.mem_cons.mp hlater with rfl | hrest
    · rw [h.coherent _ hmem offset hoffset offset' hoffset' hkey]
    · exact hqueue.1 later hrest hfirst hretried hbegun offset hoffset offset' hoffset' hkey
  match job with
  | .commit (.retry pending) position =>
      obtain rfl := List.mem_singleton.mp hoffset
      obtain rfl := h.retry pending position hmem
      have hpending := InsertionMap.mem_of_get hstill.1
      exact h.above later (hcommits ▸ hlater) hretried offset' hoffset' pending hpending hbegun hkey
  | .commit (.record _ _) _ => exact hnotRetry rfl
  | .commit (.advance _) _ => exact hnotRetry rfl
  | .start _ _ => exact hnotRetry rfl

theorem call {job : CommitJob} {rest : List CommitJob} (h : Chained s)
    (hcommits : s.commits = job :: rest) (hidle : s.inTurn = none) (hstill : s.still job) :
    Chained (s.call job) := by
  have hmem : job ∈ s.commits := hcommits ▸ List.mem_cons_self
  have hnew : ∀ call ∈ job.offsets.map fun offset =>
      (⟨offset, job.begun, s.commitCalls, job.retried⟩ : CommitCall),
      call.offset ∈ job.offsets ∧ call.begun = job.begun ∧ call.call = s.commitCalls ∧
        call.retried = job.retried := by
    intro call hcall
    obtain ⟨offset, hoffset, rfl⟩ := List.mem_map.mp hcall
    exact ⟨hoffset, rfl, rfl, rfl⟩
  refine
    { calls := ?_, retries := ?_, numbered := ?_, failed := ?_, dated := h.dated
      datedJobs := h.datedJobs, coherent := h.coherent, queue := h.queue, passed := ?_
      above := h.above, current := ?_, turn := ?_, retry := h.retry }
  · refine List.pairwise_append.mpr ⟨h.calls, ?_, ?_⟩
    · refine List.pairwise_of_forall_mem_list fun earlier hearlier later hlater _ hkey => ?_
      have hsame := h.coherent job hmem _ (hnew earlier hearlier).1 _ (hnew later hlater).1 hkey
      rw [hsame]
    · intro earlier hearlier later hlater hbegun hkey
      obtain ⟨hoffset, hwork, -, -⟩ := hnew later hlater
      exact h.call_le hcommits hidle hstill hoffset hearlier (hbegun.trans hwork) hkey
  · intro retry hretry failed hfailed call hcall hkey hafter hbefore
    rcases List.mem_append.mp hretry with hold | hadded
    · rcases List.mem_append.mp hcall with hearlier | hlast
      · exact h.retries retry hold failed hfailed call hearlier hkey hafter hbefore
      · have hnumber := h.numbered retry hold
        have hcount := (hnew call hlast).2.2.1
        omega
    · obtain ⟨hoffset, -, hcount, hretried⟩ := hnew retry hadded
      rcases List.mem_append.mp hcall with hearlier | hlast
      · match job, hretried.symm.trans hfailed with
        | .commit (.retry pending) position, hpending =>
            cases hpending
            obtain rfl := h.retry pending position hmem
            obtain ⟨hfound, hcurrent, -, -⟩ := hstill
            rw [List.mem_singleton.mp hoffset] at hkey ⊢
            rcases h.current pending (InsertionMap.mem_of_get hfound) hcurrent call hearlier hkey
              (.inr hafter) with hle | ⟨turn, hturn, -⟩
            · exact hle
            · rw [hidle] at hturn
              cases hturn
      · have hcount' := (hnew call hlast).2.2.1
        omega
  · intro call hcall
    simp only [KafkaSource.call]
    rcases List.mem_append.mp hcall with hold | hadded
    · exact Nat.lt_succ_of_lt (h.numbered call hold)
    · exact (hnew call hadded).2.2.1 ▸ Nat.lt_succ_self _
  · exact fun pending hpending => Nat.lt_succ_of_lt (h.failed pending hpending)
  · intro later hlater hretried offset' hoffset' call hcall hbegun hkey
    rcases List.mem_append.mp hcall with hold | hadded
    · exact h.passed later hlater hretried offset' hoffset' call hold hbegun hkey
    · obtain ⟨hoffset, hwork, -, -⟩ := hnew call hadded
      have hlater' : later ∈ job :: rest := hcommits ▸ hlater
      exact h.le_queued hcommits hstill hlater' hretried (hwork.symm.trans hbegun) hoffset hoffset'
        hkey
  · intro pending hpending hcurrent call hcall hkey hlater
    rcases List.mem_append.mp hcall with hold | hadded
    · rcases h.current pending hpending hcurrent call hold hkey hlater with hle | ⟨turn, hturn, -⟩
      · exact .inl hle
      · rw [hidle] at hturn
        cases hturn
    · exact .inr ⟨_, rfl, (hnew call hadded).2.2.1⟩
  · intro turn hturn
    obtain rfl : (⟨s.commitEvents, s.commitCalls⟩ : CommitTurn) = turn := Option.some.inj hturn
    refine ⟨rfl, job, rest, hcommits, ?_, ?_⟩
    · intro call hcall hsame
      rcases List.mem_append.mp hcall with hold | hadded
      · have hnumber := h.numbered call hold
        dsimp only at hsame
        omega
      · exact (hnew call hadded).1
    · intro pending position hjob
      subst hjob
      refine ⟨h.retry pending position hmem, fun other hother hkey => ?_⟩
      exact InsertionMap.eq_of_mem hother (InsertionMap.mem_of_get hstill.1) hkey

/-- A record whose commit failed is remembered in place of an earlier one of its partition. -/
theorem register {begun epoch : ℕ} {position : KafkaPosition} {rest : List CommitJob}
    {turn : CommitTurn} (h : Chained s) (hturn : s.inTurn = some turn)
    (hcommits : s.commits = .commit (.record begun epoch) position :: rest) :
    Chained { s with
      inTurn := none
      commits := rest
      uncommitted := s.uncommitted.set ⟨position, epoch, begun, turn.call⟩ } := by
  have hmem : CommitJob.commit (.record begun epoch) position ∈ s.commits :=
    hcommits ▸ List.mem_cons_self
  obtain ⟨hcount, job, others, hfirst, hcalls, -⟩ := h.turn turn hturn
  obtain ⟨rfl, rfl⟩ := List.cons.inj (hcommits.symm.trans hfirst)
  have hrest : ∀ other ∈ rest, other ∈ s.commits := fun other hother =>
    hcommits ▸ List.mem_cons_of_mem _ hother
  have hqueue := h.queue
  rw [hcommits, List.pairwise_cons] at hqueue
  refine
    { calls := h.calls, retries := h.retries, numbered := h.numbered, failed := ?_, dated := ?_
      datedJobs := fun _ _ _ hjob => h.datedJobs _ _ _ (hrest _ hjob)
      coherent := fun other hother => h.coherent other (hrest other hother), queue := hqueue.2
      passed := fun other hother => h.passed other (hrest other hother), above := ?_, current := ?_
      turn := fun turn hturn => by cases hturn
      retry := fun _ _ hjob => h.retry _ _ (hrest _ hjob) }
  · intro pending hpending
    rcases InsertionMap.mem_set.mp hpending with rfl | ⟨hold, -⟩
    · dsimp only
      omega
    · exact h.failed pending hold
  · intro pending hpending
    rcases InsertionMap.mem_set.mp hpending with rfl | ⟨hold, -⟩
    · exact h.datedJobs begun epoch position hmem
    · exact h.dated pending hold
  · intro later hlater hretried offset hoffset pending hpending hbegun hkey
    rcases InsertionMap.mem_set.mp hpending with rfl | ⟨hold, -⟩
    · exact hqueue.1 later hlater rfl hretried hbegun _ (List.mem_singleton_self _) offset hoffset hkey
    · exact h.above later (hrest later hlater) hretried offset hoffset pending hold hbegun hkey
  · intro pending hpending hcurrent call hcall hkey hlater
    rcases InsertionMap.mem_set.mp hpending with rfl | ⟨hold, hother⟩
    · left
      rcases hlater with hbegun | hafter
      · exact h.passed _ hmem rfl _ (List.mem_singleton_self _) call hcall hbegun hkey
      · have hnumber := h.numbered call hcall
        dsimp only at hafter
        omega
    · rcases h.current pending hold hcurrent call hcall hkey hlater with hle | ⟨turn', hturn', hsame⟩
      · exact .inl hle
      · obtain rfl := Option.some.inj (hturn.symm.trans hturn')
        have hoffset := List.mem_singleton.mp (hcalls call hcall hsame)
        exact absurd (by rw [← hkey, hoffset]; rfl) hother

theorem turnTaken (h : Chained s) : Chained s.turn := by
  unfold KafkaSource.turn
  split
  · rename_i job rest hidle hcommits
    split
    · rename_i hstill
      exact h.call hcommits hidle hstill
    · have hpopped : Chained { s with commits := rest } := by
        refine (h.pop hcommits fun turn hturn => ?_).of_eq rfl rfl rfl rfl rfl hidle
        rw [hidle] at hturn
        cases hturn
      unfold passOver
      split
      · exact hpopped.retryNext _
      · exact hpopped
      · exact hpopped.of_eq rfl rfl rfl rfl rfl rfl
  · exact h

theorem leave (h : Chained s) (position : KafkaPosition) (result : AdvanceResult) :
    Chained (s.leave position result) :=
  h.of_eq rfl rfl rfl rfl rfl rfl

/-- The commit in its turn succeeds and supersedes the failed commits up to it. -/
theorem succeeded {caller : CommitCaller} {position : KafkaPosition} {rest : List CommitJob}
    (h : Chained s) (hcommits : s.commits = .commit caller position :: rest) :
    Chained ({ s with inTurn := none, commits := rest }.commitSucceeded caller position) := by
  have hsuperseded := (h.filter fun pending => pending.key ≠ position.key ||
    decide (position.offset < pending.position.offset)).pop hcommits (by
      intro turn hturn pending hpending hcurrent offset hoffset hkey
      obtain rfl := List.mem_singleton.mp hoffset
      have hkept := List.of_mem_filter hpending
      have hlater : position.offset < pending.position.offset := by
        simpa [show pending.key = position.key from hkey.symm] using hkept
      exact Nat.le_of_lt (Nat.succ_lt_succ hlater))
  unfold commitSucceeded
  cases caller with
  | record begun epoch => exact hsuperseded.of_eq rfl rfl rfl rfl rfl rfl
  | retry pending =>
      refine Chained.retryNext ?_ _
      exact hsuperseded.of_eq rfl rfl rfl rfl rfl rfl
  | advance begun =>
      dsimp only
      split
      · exact hsuperseded.leave _ _
      · exact hsuperseded.of_eq rfl rfl rfl rfl rfl rfl

/-- The commit in its turn fails.  A record's takes the place of an earlier one; an advance's
must not leave an earlier one behind. -/
theorem failedCommit {caller : CommitCaller} {position : KafkaPosition} {rest : List CommitJob}
    {turn : CommitTurn} (h : Chained s) (hturn : s.inTurn = some turn)
    (hcommits : s.commits = .commit caller position :: rest)
    (hadvance : ∀ begun, caller = .advance begun →
      ∀ pending, s.uncommitted.get position.key = some pending →
        pending.epoch = s.assignmentEpoch → position.offset ≤ pending.position.offset) :
    Chained ({ s with inTurn := none, commits := rest }.commitFailed caller position turn.call) := by
  cases caller with
  | record begun epoch => exact (h.register hturn hcommits).of_eq rfl rfl rfl rfl rfl rfl
  | retry pending =>
      obtain ⟨-, job, others, hfirst, -, hretry⟩ := h.turn turn hturn
      obtain ⟨rfl, rfl⟩ := List.cons.inj (hcommits.symm.trans hfirst)
      obtain ⟨hposition, hothers⟩ := hretry pending position rfl
      refine (h.pop hcommits ?_).retryNext _
      intro _ _ other hother _ offset hoffset hkey
      obtain rfl := List.mem_singleton.mp hoffset
      have hsame : other.key = pending.key := by
        rw [← hkey, hposition]
        rfl
      rw [hothers other hother hsame, hposition]
      exact Nat.le_refl _
  | advance begun =>
      refine (h.pop hcommits ?_).leave _ _
      intro _ _ pending hpending hcurrent offset hoffset hkey
      obtain rfl := List.mem_singleton.mp hoffset
      have hfound := InsertionMap.get_eq_some.mpr ⟨hpending, hkey.symm⟩
      exact Nat.succ_le_succ (hadvance begun rfl pending hfound hcurrent)

theorem settle {resolved : Bool} (h : Chained s)
    (hstart : ∀ begun offsets, .start begun offsets ∈ s.commits → s.uncommitted.values = [])
    (hadvance : ∀ turn begun position rest, s.inTurn = some turn →
      s.commits = .commit (.advance begun) position :: rest →
      (resolved && decide (s.commitEvents ≠ turn.before)) = false →
        ∀ pending, s.uncommitted.get position.key = some pending →
          pending.epoch = s.assignmentEpoch → position.offset ≤ pending.position.offset) :
    Chained (s.settle resolved) := by
  unfold KafkaSource.settle
  split
  · rename_i turn job rest hturn hcommits
    match job with
    | .start begun offsets =>
        have hnone := hstart begun offsets (hcommits ▸ List.mem_cons_self)
        refine (h.pop hcommits ?_).of_eq rfl rfl rfl rfl rfl rfl
        intro _ _ pending hpending
        rw [hnone] at hpending
        cases hpending
    | .commit caller position =>
        simp only [settled]
        split
        · exact h.succeeded hcommits
        · rename_i hfailed
          refine h.failedCommit hturn hcommits fun begun hcaller => ?_
          subst hcaller
          exact hadvance turn begun position rest hturn hcommits (by simpa using hfailed)
  · exact h

end Chained

namespace Within

theorem retryNext (h : Within s begun key bound) (entries : List Uncommitted) :
    Within (s.retryNext entries) begun key bound := by
  induction entries generalizing s with
  | nil => exact h.of_subset rfl (fun _ => .inl) (fun _ => id)
  | cons pending rest ih =>
      unfold KafkaSource.retryNext
      split
      · split
        · exact ih (h.of_subset rfl (fun _ => .inl) fun _ => List.mem_of_mem_filter)
        · exact ih h
      · refine h.of_subset rfl (fun job hjob => ?_) fun _ => id
        rcases List.mem_append.mp hjob with hold | hnew
        · exact .inl hold
        · rw [List.mem_singleton.mp hnew]
          exact .inr (by simp [CommitJob.retried])

/-- What is passed was announced. -/
theorem call {job : CommitJob} (h : Within s begun key bound) (hchained : Chained s)
    (hjob : job ∈ s.commits) (hstill : s.still job) : Within (s.call job) begun key bound where
  calls call hcall hbegun hkey := by
    rcases List.mem_append.mp hcall with hold | hadded
    · exact h.calls call hold hbegun hkey
    · obtain ⟨offset, hoffset, rfl⟩ := List.mem_map.mp hadded
      match job with
      | .commit (.retry pending) position =>
          obtain rfl := List.mem_singleton.mp hoffset
          obtain rfl := hchained.retry pending position hjob
          exact h.uncommitted pending (InsertionMap.mem_of_get hstill.1) hbegun hkey
      | .commit (.record _ _) _ => exact h.commits _ hjob rfl hbegun offset hoffset hkey
      | .commit (.advance _) _ => exact h.commits _ hjob rfl hbegun offset hoffset hkey
      | .start _ _ => exact h.commits _ hjob rfl hbegun offset hoffset hkey
  commits := h.commits
  uncommitted := h.uncommitted

theorem turnTaken (h : Within s begun key bound) (hchained : Chained s) :
    Within s.turn begun key bound := by
  unfold KafkaSource.turn
  split
  · rename_i job rest hidle hcommits
    have hsub : ∀ other ∈ rest, other ∈ s.commits := fun other hother =>
      hcommits ▸ List.mem_cons_of_mem _ hother
    split
    · rename_i hstill
      exact h.call hchained (hcommits ▸ List.mem_cons_self) hstill
    · have hpopped : Within { s with commits := rest } begun key bound :=
        h.of_subset rfl (fun job hjob => .inl (hsub job hjob)) fun _ => id
      unfold passOver
      split
      · exact hpopped.retryNext _
      · exact hpopped
      · exact hpopped.of_subset rfl (fun _ => .inl) fun _ => id
  · exact h

theorem leave (h : Within s begun key bound) (position : KafkaPosition) (result : AdvanceResult) :
    Within (s.leave position result) begun key bound :=
  h.of_subset rfl (fun _ => .inl) fun _ => id

theorem settle (h : Within s begun key bound) (resolved : Bool) :
    Within (s.settle resolved) begun key bound := by
  unfold KafkaSource.settle
  split
  · rename_i turn job rest hturn hcommits
    have hsub : ∀ other ∈ rest, other ∈ s.commits := fun other hother =>
      hcommits ▸ List.mem_cons_of_mem _ hother
    have hpopped : Within { s with inTurn := none, commits := rest } begun key bound :=
      h.of_subset rfl (fun job hjob => .inl (hsub job hjob)) fun _ => id
    match job with
    | .start _ _ => exact hpopped.of_subset rfl (fun _ => .inl) fun _ => id
    | .commit caller position =>
        simp only [settled]
        split
        · unfold commitSucceeded
          set t : KafkaSource := { s with inTurn := _, commits := _, uncommitted := _ } with ht
          have hfiltered : Within t begun key bound :=
            hpopped.of_subset rfl (fun _ => .inl) fun _ => List.mem_of_mem_filter
          cases caller with
          | record _ _ => exact hfiltered.of_subset rfl (fun _ => .inl) fun _ => id
          | retry _ =>
              have htold : Within (t.tell (.committed position)) begun key bound :=
                hfiltered.of_subset rfl (fun _ => .inl) fun _ => id
              exact htold.retryNext _
          | advance _ =>
              dsimp only
              split
              · exact hfiltered.leave _ _
              · exact hfiltered.of_subset rfl (fun _ => .inl) fun _ => id
        · cases caller with
          | record begun' epoch =>
              have hmem : CommitJob.commit (.record begun' epoch) position ∈ s.commits :=
                hcommits ▸ List.mem_cons_self
              refine ⟨hpopped.calls, hpopped.commits, fun pending hpending hbegun hkey => ?_⟩
              rcases InsertionMap.mem_set.mp hpending with rfl | ⟨hold, -⟩
              · exact h.commits _ hmem rfl hbegun _ (List.mem_singleton_self _) hkey
              · exact h.uncommitted pending hold hbegun hkey
          | retry _ => exact hpopped.retryNext _
          | advance _ => exact hpopped.leave _ _
  · exact h

end Within

end StreamOtter.KafkaSource
