import StreamOtter.Protocol
import StreamOtter.InsertionMap
import StreamOtter.Machine
import Mathlib.Logic.Function.Basic

/-!
# The Kafka source adapter

`KafkaSourceAdapter` with the parts of KafkaJS and of the broker it depends on.  Its
`eachBatch`, the retry of failed commits and a guarded advance run between each other's
awaits; every await is a point where the next step may belong to another of them.
-/

namespace StreamOtter

/-- A partition, whose `${topic}:${partition}` is the key of the adapter's maps. -/
structure TopicPartition where
  topic : String
  partition : ℕ
  deriving DecidableEq, Repr

/-- The position of a record, or an offset of a partition to be committed. -/
structure KafkaPosition extends TopicPartition where
  offset : ℕ
  deriving DecidableEq, Repr

namespace KafkaPosition

abbrev key (position : KafkaPosition) : TopicPartition := position.toTopicPartition

/-- `nextOffset`: what Kafka commits after processing a record. -/
def next (position : KafkaPosition) : KafkaPosition :=
  { position with offset := position.offset + 1 }

theorem eq_of_key {position other : KafkaPosition} (hkey : position.key = other.key)
    (hoffset : position.offset = other.offset) : position = other := by
  cases position
  cases other
  dsimp only [key] at hkey hoffset
  rw [hkey, hoffset]

@[simp] theorem key_next (position : KafkaPosition) : position.next.key = position.key := rfl

@[simp] theorem offset_next (position : KafkaPosition) :
    position.next.offset = position.offset + 1 := rfl

end KafkaPosition

inductive KafkaStatus
  | starting | healthy | degraded | paused | stopped
  deriving DecidableEq, Repr

/-- `ProcessOutcome["kind"]`. -/
inductive ProcessOutcome
  | commit | pause | hold | abandon
  deriving DecidableEq, Repr

inductive AdvanceResult
  | advanced | notHeld | uncertain
  deriving DecidableEq, Repr

/-- A record processed whose commit failed.  `begun` is the assignment in which its batch was
delivered, `call` the call to `commitOffsets` that failed. -/
structure Uncommitted where
  position : KafkaPosition
  epoch : ℕ
  begun : ℕ
  call : ℕ
  deriving DecidableEq, Repr

abbrev Uncommitted.key (pending : Uncommitted) : TopicPartition := pending.position.key

/-- Who waits for a commit. -/
inductive CommitCaller
  | record (begun epoch : ℕ)
  | retry (pending : Uncommitted)
  | advance (begun : ℕ)
  deriving DecidableEq, Repr

/-- A link of the chain `#commits`. -/
inductive CommitJob
  | commit (caller : CommitCaller) (position : KafkaPosition)
  | start (begun : ℕ) (offsets : List KafkaPosition)
  deriving DecidableEq, Repr

namespace CommitJob

/-- What the job passes to `commitOffsets`. -/
def offsets : CommitJob → List KafkaPosition
  | .commit _ position => [position.next]
  | .start _ offsets => offsets

/-- The assignment in which the work was begun. -/
def begun : CommitJob → ℕ
  | .commit (.record begun _) _ => begun
  | .commit (.retry pending) _ => pending.begun
  | .commit (.advance begun) _ => begun
  | .start begun _ => begun

/-- The failed call that the job repeats. -/
def retried : CommitJob → Option ℕ
  | .commit (.retry pending) _ => some pending.call
  | _ => none

end CommitJob

/-- An offset passed to `commitOffsets`. -/
structure CommitCall where
  offset : KafkaPosition
  begun : ℕ
  call : ℕ
  retried : Option ℕ
  deriving DecidableEq, Repr

/-- The call to `commitOffsets` that runs, with the value `#commitEvents` had before it. -/
structure CommitTurn where
  before : ℕ
  call : ℕ
  deriving DecidableEq, Repr

inductive BatchStage
  | starting | loop | processing | beforeCommit | committing | heartbeat
  deriving DecidableEq, Repr

/-- A run of `eachBatch`; the first of its messages is the one it is at. -/
structure KafkaBatch where
  key : TopicPartition
  messages : List ℕ
  begun : ℕ
  stage : BatchStage
  deriving DecidableEq, Repr

/-- `#held`; the object is told from those of other pauses by their number. -/
structure KafkaHeld where
  position : KafkaPosition
  pause : ℕ
  deriving DecidableEq, Repr

inductive AdvanceStage
  | committing | connecting | fetching | confirming
  deriving DecidableEq, Repr

/-- A run of `advancePast`, with its `epoch` and `current`. -/
structure AdvanceCall where
  position : KafkaPosition
  epoch : ℕ
  current : KafkaHeld
  stage : AdvanceStage
  deriving DecidableEq, Repr

/-- What the adapter tells its caller.  A status is noted with whether the consumer has joined
the group, lost it since and is paused. -/
inductive KafkaTold
  | status (status : KafkaStatus) (reason : Option ErrorCode) (joined lost paused : Bool)
  | committed (position : KafkaPosition)
  | held (position : KafkaPosition)
  | answered (position : KafkaPosition) (result : AdvanceResult)
  deriving DecidableEq, Repr

structure KafkaSource where
  consumer : Bool
  stopping : Bool
  status : KafkaStatus
  paused : Bool
  held : Option KafkaHeld
  rebalancing : Bool
  assignment : Option (List TopicPartition)
  assignmentEpoch : ℕ
  uncommitted : InsertionMap Uncommitted.key
  commits : List CommitJob
  inTurn : Option CommitTurn
  commitEvents : ℕ
  /-- The entries that `#retryCommits` comes to after the one it waits for. -/
  retrying : Option (List Uncommitted)
  startPositions : Option (InsertionMap KafkaPosition.key)
  startJoin : Option (List TopicPartition)
  startCommit : Bool
  batch : Option KafkaBatch
  advance : Option AdvanceCall
  /-- The offset KafkaJS delivers next of a partition. -/
  fetchFrom : TopicPartition → ℕ
  /-- A fetch was begun in this assignment. -/
  fetching : Bool
  /-- The group's committed offsets at the broker. -/
  committed : TopicPartition → Option ℕ
  pauses : ℕ
  commitCalls : ℕ
  calls : List CommitCall
  told : List KafkaTold
  joined : Bool
  /-- A rebalance, crash, stop or disconnect without a later join or broker activity. -/
  lost : Bool
  /-- An advance ended, after its commit was asked for, with the source still paused. -/
  unreconciled : Bool

/-- The options the adapter is created with. -/
structure KafkaOptions where
  /-- `startFrom` is "latest". -/
  latest : Bool
  startHeld : Bool
  deriving DecidableEq, Repr

namespace KafkaSource

/-- A new adapter of a group with these committed offsets. -/
def create (options : KafkaOptions) (committed : TopicPartition → Option ℕ) : KafkaSource where
  consumer := false
  stopping := false
  status := if options.startHeld then .paused else .starting
  paused := options.startHeld
  held := none
  rebalancing := false
  assignment := none
  assignmentEpoch := 0
  uncommitted := .empty
  commits := []
  inTurn := none
  commitEvents := 0
  retrying := none
  startPositions := none
  startJoin := none
  startCommit := false
  batch := none
  advance := none
  fetchFrom := fun _ => 0
  fetching := false
  committed := committed
  pauses := 0
  commitCalls := 0
  calls := []
  told := []
  joined := false
  lost := false
  unreconciled := false

def tell (told : KafkaTold) (s : KafkaSource) : KafkaSource := { s with told := s.told ++ [told] }

section Status

def setStatus (status : KafkaStatus) (reason : Option ErrorCode) (s : KafkaSource) : KafkaSource :=
  if s.stopping || s.paused then s
  else if s.status = status then s
  else { s with status }.tell (.status status reason s.joined s.lost s.paused)

def degrade (s : KafkaSource) : KafkaSource := s.setStatus .degraded (some .sourceUnavailable)

/-- `#activity`: the broker was heard of. -/
def activity (s : KafkaSource) : KafkaSource :=
  let s := { s with lost := false }
  if s.status = .degraded ∧ s.rebalancing = false then s.setStatus .healthy none else s

/-- `#checkWatchdog`; `silent` says that the last activity is longer ago than `WATCHDOG_MS`. -/
def checkWatchdog (silent : Bool) (s : KafkaSource) : KafkaSource :=
  if s.status = .healthy ∧ silent = true then s.degrade else s

end Status

section Commits

/-- `#commit`: the commit takes its place in the chain. -/
def commit (caller : CommitCaller) (position : KafkaPosition) (s : KafkaSource) : KafkaSource :=
  { s with commits := s.commits ++ [.commit caller position] }

def forget (key : TopicPartition) (s : KafkaSource) : KafkaSource :=
  { s with uncommitted := s.uncommitted.filter fun pending => pending.key ≠ key }

/-- The loop of `#retryCommits`, up to its next await. -/
def retryNext : List Uncommitted → KafkaSource → KafkaSource
  | [], s => { s with retrying := none }
  | pending :: rest, s =>
      if pending.epoch ≠ s.assignmentEpoch then
        retryNext rest
          (if s.uncommitted.get pending.key = some pending then s.forget pending.key else s)
      else
        { s.commit (.retry pending) pending.position with retrying := some rest }

def retryCommits (s : KafkaSource) : KafkaSource :=
  if s.consumer = false ∨ s.stopping = true ∨ s.rebalancing = true ∨ s.retrying.isSome = true ∨
      s.uncommitted.values = [] then s
  else retryNext s.uncommitted.values s

/-- `still`, checked when the commit's turn comes. -/
def still (s : KafkaSource) : CommitJob → Prop
  | .commit (.retry pending) _ =>
      s.uncommitted.get pending.key = some pending ∧ pending.epoch = s.assignmentEpoch ∧
        s.stopping = false ∧ s.rebalancing = false
  | .commit _ _ => True
  | .start _ _ => s.stopping = false

instance (s : KafkaSource) : (job : CommitJob) → Decidable (s.still job)
  | .commit (.retry _) _ => inferInstanceAs (Decidable (_ ∧ _))
  | .commit (.record _ _) _ => .isTrue trivial
  | .commit (.advance _) _ => .isTrue trivial
  | .start _ _ => inferInstanceAs (Decidable (_ = _))

/-- `commitOffsets` is called. -/
def call (job : CommitJob) (s : KafkaSource) : KafkaSource :=
  { s with
    inTurn := some ⟨s.commitEvents, s.commitCalls⟩
    commitCalls := s.commitCalls + 1
    calls := s.calls ++
      job.offsets.map fun offset => ⟨offset, job.begun, s.commitCalls, job.retried⟩ }

/-- What waited for a job that was not called goes on. -/
def passOver (s : KafkaSource) : CommitJob → KafkaSource
  | .commit (.retry _) _ => retryNext (s.retrying.getD []) s
  | .commit _ _ => s
  | .start _ _ => { s with startCommit := false }

/-- The first commit of the chain has its turn. -/
def turn (s : KafkaSource) : KafkaSource :=
  match s.inTurn, s.commits with
  | none, job :: rest =>
      if s.still job then s.call job else { s with commits := rest }.passOver job
  | _, _ => s

def answer (position : KafkaPosition) (result : AdvanceResult) (s : KafkaSource) : KafkaSource :=
  { s with advance := none }.tell (.answered position result)

/-- The source stays paused: the offset may have moved, and a restart reconciles it. -/
def leave (position : KafkaPosition) (result : AdvanceResult) (s : KafkaSource) : KafkaSource :=
  { s with unreconciled := true }.answer position result

def batchAt (stage : BatchStage) (s : KafkaSource) : KafkaSource :=
  { s with batch := s.batch.map fun batch => { batch with stage } }

def advanceAt (stage : AdvanceStage) (s : KafkaSource) : KafkaSource :=
  { s with advance := s.advance.map fun advance => { advance with stage } }

/-- A success supersedes the failed commits of the partition up to it; then the caller goes
on. -/
def commitSucceeded (caller : CommitCaller) (position : KafkaPosition) (s : KafkaSource) :
    KafkaSource :=
  let s := { s with
    uncommitted := s.uncommitted.filter fun pending =>
      pending.key ≠ position.key || decide (position.offset < pending.position.offset) }
  match caller with
  | .record _ _ => (s.tell (.committed position)).batchAt .heartbeat
  | .retry _ => retryNext (s.retrying.getD []) (s.tell (.committed position))
  | .advance _ => if s.stopping then s.leave position .uncertain else s.advanceAt .connecting

def commitFailed (caller : CommitCaller) (position : KafkaPosition) (call : ℕ) (s : KafkaSource) :
    KafkaSource :=
  match caller with
  | .record begun epoch =>
      { s with
        uncommitted := s.uncommitted.set ⟨position, epoch, begun, call⟩
        batch := none }
  | .retry _ => retryNext (s.retrying.getD []) s
  | .advance _ => s.leave position .uncertain

/-- The call to `commitOffsets` ended; `took` says that it committed. -/
def settled (job : CommitJob) (call : ℕ) (took : Bool) (s : KafkaSource) : KafkaSource :=
  match job with
  | .commit caller position =>
      if took then s.commitSucceeded caller position else s.commitFailed caller position call
  | .start _ _ => { s with startCommit := false }

/-- The call to `commitOffsets` resolves or rejects.  One that raised no COMMIT_OFFSETS did not
happen.  Its caller goes on before the next commit has its turn. -/
def settle (resolved : Bool) (s : KafkaSource) : KafkaSource :=
  match s.inTurn, s.commits with
  | some turn, job :: rest =>
      { s with inTurn := none, commits := rest }.settled job turn.call
        (resolved && decide (s.commitEvents ≠ turn.before))
  | _, _ => s

/-- The partitions of the first assignment whose start position is known. -/
def startOffsets (starts : InsertionMap KafkaPosition.key) (assignment : List TopicPartition) :
    List KafkaPosition :=
  assignment.filterMap starts.get

def commitStartPositions (starts : Option (InsertionMap KafkaPosition.key))
    (assignment : List TopicPartition) (s : KafkaSource) : KafkaSource :=
  let s := { s with startPositions := none, startJoin := none }
  match starts with
  | none => s
  | some starts =>
      if startOffsets starts assignment = [] then s
      else { s with
        commits := s.commits ++ [.start s.assignmentEpoch (startOffsets starts assignment)]
        startCommit := true }

end Commits

section Batches

def endBatch (s : KafkaSource) : KafkaSource := { s with batch := none }

def seek (position : KafkaPosition) (s : KafkaSource) : KafkaSource :=
  { s with fetchFrom := Function.update s.fetchFrom position.key position.offset }

def pauseAt (position : KafkaPosition) (s : KafkaSource) : KafkaSource :=
  { s with paused := true, status := .paused }.seek position

/-- `eachBatch` is called; paused, it only applies the pause again. -/
def eachBatch (key : TopicPartition) (messages : List ℕ) (s : KafkaSource) : KafkaSource :=
  if s.paused then s
  else { s with
    batch := some ⟨key, messages, s.assignmentEpoch, if s.startCommit then .starting else .loop⟩ }

/-- The head of the loop over the messages. -/
def message (running stale : Bool) (s : KafkaSource) : KafkaSource :=
  match s.batch with
  | none => s
  | some batch =>
      if batch.messages = [] ∨ s.paused = true ∨ s.stopping = true ∨ running = false ∨ stale = true
      then s.endBatch else s.batchAt .processing

/-- `process` returned, or rejected, for the record. -/
def processed (position : KafkaPosition) (outcome : Option ProcessOutcome) (s : KafkaSource) :
    KafkaSource :=
  match outcome with
  | none | some .abandon => s.endBatch
  | some .hold => (s.pauseAt position).endBatch
  | some .pause =>
      { (s.pauseAt position).endBatch with
        held := some ⟨position, s.pauses⟩
        pauses := s.pauses + 1 }.tell (.held position)
  -- `resolveOffset`: KafkaJS goes on behind the record.
  | some .commit => (s.seek position.next).batchAt .beforeCommit

/-- `beforeCommit` settled.  The assignment of a retry is the one found now. -/
def beginCommit (position : KafkaPosition) (begun : ℕ) (resolved : Bool) (s : KafkaSource) :
    KafkaSource :=
  if resolved = false ∨ s.stopping = true then s.endBatch
  else (s.commit (.record begun s.assignmentEpoch) position).batchAt .committing

/-- The heartbeat after a commit; rejected, it ends the batch. -/
def beat (messages : List ℕ) (resolved : Bool) (s : KafkaSource) : KafkaSource :=
  if resolved then
    { s with batch := s.batch.map fun batch => { batch with messages, stage := .loop } }
  else s.endBatch

/-- The batch goes on from its await. -/
def batchStep (f : KafkaBatch → KafkaPosition → List ℕ → KafkaSource → KafkaSource)
    (s : KafkaSource) : KafkaSource :=
  match s.batch with
  | some batch =>
      match batch.messages with
      | offset :: rest => f batch { batch.key with offset } rest s
      | [] => s
  | none => s

end Batches

section Advance

def resume (s : KafkaSource) : KafkaSource :=
  if s.paused = false ∨ s.consumer = false then s
  else { s with paused := false, held := none }.setStatus .healthy none

def assigned (key : TopicPartition) (s : KafkaSource) : Prop :=
  ∃ assignment, s.assignment = some assignment ∧ key ∈ assignment

instance (key : TopicPartition) (s : KafkaSource) : Decidable (s.assigned key) :=
  match h : s.assignment with
  | none => .isFalse (by simp [assigned, h])
  | some assignment =>
      decidable_of_iff (key ∈ assignment) (by simp [assigned, h])

/-- The record that `advancePast` may advance past. -/
def heldAt (position : KafkaPosition) (s : KafkaSource) : Option KafkaHeld :=
  if s.consumer = true ∧ s.stopping = false ∧ s.paused = true ∧ s.assigned position.key then
    s.held.filter fun held => held.position = position
  else none

def advancePast (position : KafkaPosition) (s : KafkaSource) : KafkaSource :=
  match s.heldAt position with
  | none => s.answer position .notHeld
  | some current =>
      { s with advance := some ⟨position, s.assignmentEpoch, current, .committing⟩ }.commit
        (.advance s.assignmentEpoch) position

/-- The admin client is connected. -/
def connected (advance : AdvanceCall) (resolved : Bool) (s : KafkaSource) : KafkaSource :=
  if resolved = false ∨ s.stopping = true then s.leave advance.position .uncertain
  else s.advanceAt .fetching

/-- The group's committed offset was read back. -/
def fetched (advance : AdvanceCall) (resolved : Bool) (s : KafkaSource) : KafkaSource :=
  if resolved = false ∨
      s.committed advance.position.key ≠ some advance.position.next.offset ∨
      advance.epoch ≠ s.assignmentEpoch ∨ s.held ≠ some advance.current ∨ s.stopping = true then
    s.leave advance.position .uncertain
  else (s.tell (.committed advance.position)).advanceAt .confirming

/-- The caller recorded the advance, or could not. -/
def confirmed (advance : AdvanceCall) (recorded : Bool) (s : KafkaSource) : KafkaSource :=
  if recorded = false then s.leave advance.position .advanced
  else if s.stopping then s.leave advance.position .advanced
  else
    (({ s with held := none, paused := false }.seek advance.position.next).setStatus
      .healthy none).answer advance.position .advanced

def advanceStep (f : AdvanceCall → KafkaSource → KafkaSource) (s : KafkaSource) : KafkaSource :=
  match s.advance with
  | some advance => f advance s
  | none => s

end Advance

section Events

/-- `#lostAssignment`. -/
def lostAssignment (s : KafkaSource) : KafkaSource :=
  { s with assignment := none, assignmentEpoch := s.assignmentEpoch + 1, fetching := false }

/-- GROUP_JOIN.  Only the first assignment's start positions are committed. -/
def groupJoin (assignment : List TopicPartition) (fetchFrom : TopicPartition → ℕ)
    (s : KafkaSource) : KafkaSource :=
  { s with
    assignment := some assignment
    assignmentEpoch := s.assignmentEpoch + 1
    rebalancing := false
    startPositions := if s.startJoin = none then s.startPositions else none
    startJoin :=
      if s.startPositions = none then s.startJoin
      else if s.startJoin = none then some assignment else none
    fetchFrom
    fetching := false
    joined := true
    lost := false }.setStatus .healthy none

/-- REBALANCING. -/
def rebalance (s : KafkaSource) : KafkaSource :=
  { s.lostAssignment with rebalancing := true, lost := true }.degrade

/-- FETCH_START. -/
def fetchStart (s : KafkaSource) : KafkaSource :=
  let s := { s with fetching := true }
  match s.startJoin with
  | some assignment => s.commitStartPositions s.startPositions assignment
  | none => s

/-- COMMIT_OFFSETS. -/
def offsetsCommitted (s : KafkaSource) : KafkaSource :=
  { s with commitEvents := s.commitEvents + 1 }.activity

/-- CRASH, and STOP. -/
def crash (s : KafkaSource) : KafkaSource := { s.lostAssignment with lost := true }.degrade

/-- DISCONNECT. -/
def disconnect (s : KafkaSource) : KafkaSource := { s with lost := true }.degrade

/-- A call to `commitOffsets` takes effect at the broker. -/
def land (offset : KafkaPosition) (s : KafkaSource) : KafkaSource :=
  { s with committed := Function.update s.committed offset.key (some offset.offset) }

/-- The start positions were read, or could not be. -/
def positionsRead (options : KafkaOptions) (starts : InsertionMap KafkaPosition.key)
    (s : KafkaSource) : KafkaSource :=
  if options.latest = true ∧ starts.values ≠ [] then { s with startPositions := some starts }
  else s

end Events

end KafkaSource

inductive KafkaStep
  | start | positionsRead (starts : InsertionMap KafkaPosition.key)
  | groupJoin (assignment : List TopicPartition) (fetchFrom : TopicPartition → ℕ)
  | rebalancing | fetchStart | fetch | heartbeat | commitOffsets | crash | disconnect | consumerStop
  | eachBatch (key : TopicPartition) (messages : List ℕ)
  | startCommitted | message (running stale : Bool) | processed (outcome : Option ProcessOutcome)
  | beforeCommit (resolved : Bool) | beat (resolved : Bool)
  | turn | settle (resolved : Bool) | land (offset : KafkaPosition) | tick (silent : Bool)
  | advancePast (position : KafkaPosition) | connected (resolved : Bool)
  | fetched (resolved : Bool) | confirmed (recorded : Bool)
  | resume | stop | stopped

namespace KafkaSource

def step (options : KafkaOptions) (s : KafkaSource) : KafkaStep → KafkaSource
  | .start => { s with consumer := true }
  | .positionsRead starts => s.positionsRead options starts
  | .groupJoin assignment fetchFrom => s.groupJoin assignment fetchFrom
  | .rebalancing => s.rebalance
  | .fetchStart => s.fetchStart
  | .fetch | .heartbeat => s.activity
  | .commitOffsets => s.offsetsCommitted
  | .crash | .consumerStop => s.crash
  | .disconnect => s.disconnect
  | .eachBatch key messages => s.eachBatch key messages
  | .startCommitted => s.batchAt .loop
  | .message running stale => s.message running stale
  | .processed outcome => s.batchStep fun _ position _ s => s.processed position outcome
  | .beforeCommit resolved =>
      s.batchStep fun batch position _ s => s.beginCommit position batch.begun resolved
  | .beat resolved => s.batchStep fun _ _ rest s => s.beat rest resolved
  | .turn => s.turn
  | .settle resolved => s.settle resolved
  | .land offset => s.land offset
  | .tick silent => (s.checkWatchdog silent).retryCommits
  | .advancePast position => s.advancePast position
  | .connected resolved => s.advanceStep fun advance s => s.connected advance resolved
  | .fetched resolved => s.advanceStep fun advance s => s.fetched advance resolved
  | .confirmed recorded => s.advanceStep fun advance s => s.confirmed advance recorded
  | .resume => s.resume
  | .stop => { s with stopping := true }
  | .stopped => { s with status := .stopped }

/-- The batch awaits at this stage. -/
def batchIs (stage : BatchStage) (s : KafkaSource) : Prop :=
  ∃ batch ∈ s.batch, batch.stage = stage

def advanceIs (stage : AdvanceStage) (s : KafkaSource) : Prop :=
  ∃ advance ∈ s.advance, advance.stage = stage

instance (stage : BatchStage) (s : KafkaSource) : Decidable (s.batchIs stage) :=
  decidable_of_iff (s.batch.map KafkaBatch.stage = some stage) (by simp [batchIs])

instance (stage : AdvanceStage) (s : KafkaSource) : Decidable (s.advanceIs stage) :=
  decidable_of_iff (s.advance.map AdvanceCall.stage = some stage) (by simp [advanceIs])

/-- When a step can be taken: an await has something to wait for, KafkaJS delivers the
partitions of the assignment in offset order, one batch at a time, from the committed offset or
the last seek, and the failure chain of the source asks for one advance at a time. -/
def Enabled (s : KafkaSource) : KafkaStep → Prop
  | .positionsRead starts =>
      s.consumer = true ∧ s.joined = false ∧ s.assignment = none ∧ s.startPositions = none ∧
        ∀ start ∈ starts.values, s.committed start.key = none
  | .groupJoin assignment fetchFrom =>
      s.consumer = true ∧
        (∀ key ∈ assignment, s.committed key = none ∨ s.committed key = some (fetchFrom key)) ∧
        -- The consumer starts at "latest" not before the high-water marks read earlier.
        ∀ starts ∈ s.startPositions, ∀ start ∈ starts.values, start.offset ≤ fetchFrom start.key
  | .eachBatch key messages =>
      s.batch = none ∧ s.fetching = true ∧ s.assigned key ∧ messages.Pairwise (· < ·) ∧
        ∀ offset ∈ messages, s.fetchFrom key ≤ offset
  | .startCommitted => s.batchIs .starting ∧ s.startCommit = false
  | .message _ _ => s.batchIs .loop
  | .processed _ => s.batchIs .processing
  | .beforeCommit _ => s.batchIs .beforeCommit
  | .beat _ => s.batchIs .heartbeat
  | .land offset => ∃ call ∈ s.calls, call.offset = offset
  | .tick _ => s.joined = true ∧ s.stopping = false
  | .advancePast _ => s.advance = none
  | .connected _ => s.advanceIs .connecting
  | .fetched _ => s.advanceIs .fetching
  | .confirmed _ => s.advanceIs .confirming
  | .stopped => s.stopping = true
  | _ => True

instance (s : KafkaSource) : (step : KafkaStep) → Decidable (s.Enabled step)
  | .positionsRead _ | .groupJoin _ _ | .eachBatch _ _ | .startCommitted | .tick _ =>
      inferInstanceAs (Decidable (_ ∧ _))
  | .message _ _ | .processed _ | .beforeCommit _ | .beat _ =>
      inferInstanceAs (Decidable (batchIs _ s))
  | .connected _ | .fetched _ | .confirmed _ => inferInstanceAs (Decidable (advanceIs _ s))
  | .land offset => inferInstanceAs (Decidable (∃ call ∈ s.calls, call.offset = offset))
  | .advancePast _ | .stopped => inferInstanceAs (Decidable (_ = _))
  | .start | .rebalancing | .fetchStart | .fetch | .heartbeat | .commitOffsets | .crash
  | .disconnect | .consumerStop | .turn | .settle _ | .resume | .stop => .isTrue trivial

end KafkaSource

end StreamOtter
