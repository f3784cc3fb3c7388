import StreamOtter.ServerRun
import StreamOtter.WireTrace
import Mathlib.Data.List.Nodup

/-!
# The invariant of a gateway subscription

While the session is open, what the subscription has put on the wire, the phase it
is in, the frames it holds and the attempts still suspended fit together.  Once
the session is closed nothing is sent any more, so only the trace itself matters.

The invariant is stated here together with the operations that end an epoch: they
need nothing but the bookkeeping of the state they start from.
-/

namespace StreamOtter

namespace ServerSubscription

/-- What holds in every phase of an open session. -/
structure Bookkeeping (s : ServerSubscription) : Prop where
  sessionOpen : s.sessionClosed = false
  unexpired : s.expiring = false
  disciplined : Disciplined s.trace
  announcedFresh : ∀ epoch ∈ announced s.trace, epoch < s.nextId
  epochFresh : s.epoch < s.nextId
  admittedAnnounced :
    ∀ epoch frame result, Observation.admitted epoch frame result ∈ s.trace →
      epoch ∈ announced s.trace
  generations : ∀ attempt ∈ s.pending, attempt.generation ≤ s.generation
  distinct : (s.pending.map Attempt.generation).Nodup
  earlierOver : ∀ epoch ∈ announced s.trace, epoch ≠ s.epoch → Over epoch s.trace
  ordered :
    ∀ epoch, ((epochData epoch s.trace).tail.map DataFrame.event).Sublist
      ((queuedFrames epoch s.trace).map PendingFrame.event)
  calledRouted : ∀ routed, Observation.called .snapshot routed ∈ s.trace → routed = true

/-- The fields that `Bookkeeping` reads. -/
def ledger (s : ServerSubscription) :=
  (s.sessionClosed, s.expiring, s.trace, s.nextId, s.epoch, s.pending, s.generation)

theorem Bookkeeping.of_ledger {s s' : ServerSubscription} (hbook : s.Bookkeeping)
    (hsame : s'.ledger = s.ledger) : s'.Bookkeeping := by
  simp only [ledger, Prod.mk.injEq] at hsame
  obtain ⟨h₁, h₂, h₃, h₄, h₅, h₆, h₇⟩ := hsame
  constructor
  · rw [h₁]; exact hbook.sessionOpen
  · rw [h₂]; exact hbook.unexpired
  · rw [h₃]; exact hbook.disciplined
  · rw [h₃, h₄]; exact hbook.announcedFresh
  · rw [h₄, h₅]; exact hbook.epochFresh
  · rw [h₃]; exact hbook.admittedAnnounced
  · rw [h₆, h₇]; exact hbook.generations
  · rw [h₆]; exact hbook.distinct
  · rw [h₃, h₅]; exact hbook.earlierOver
  · rw [h₃]; exact hbook.ordered
  · rw [h₃]; exact hbook.calledRouted

/-- No frame is held and the current epoch, if it was announced, is over. -/
structure Quiet (s : ServerSubscription) : Prop where
  queue : s.queue = []
  inFlight : s.inFlight = none
  tail : s.tail = none
  unrouted : s.routed = false
  epochOver : s.epoch ∈ announced s.trace → Over s.epoch s.trace

/-- No attempt is about to resume on the word of an earlier `#authorize`, and no
handler call is due. -/
structure Calm (s : ServerSubscription) : Prop where
  untrusting : ∀ attempt ∈ s.pending, attempt.waiting.afterAuthorize = false
  jobs : s.jobs = []

/-- `sent` are the frames of the current epoch handed to the transport so far. -/
structure Streaming (s : ServerSubscription) (sent : List PendingFrame) : Prop where
  announced : (announced s.trace).getLast? = some s.epoch
  data : epochData s.epoch s.trace = numbered s.epoch sent
  sequence : s.sequence = sent.length
  inFlight :
    ∀ inFlight, s.inFlight = some inFlight →
      sent.getLast? = some inFlight.frame ∧ inFlight.sequence = sent.length
  unreceipted : unreceipted s.epoch s.trace = s.inFlight.toList.map InFlight.sequence
  updates : ∀ frame ∈ s.queue, frame.event.kind = .update
  sorted : s.queue.Pairwise (·.revision < ·.revision)
  tailBound : ∀ frame ∈ sent ++ s.queue, ∃ tail, s.tail = some tail ∧ frame.revision ≤ tail.revision
  tailHeld : ∀ tail, s.tail = some tail → ∃ frame ∈ sent ++ s.queue, tail.revision = frame.revision
  covered :
    ∀ frame result, Observation.admitted s.epoch frame result ∈ s.trace →
      ∃ held ∈ sent ++ s.queue, frame.revision ≤ held.revision
  routed : s.routed = true
  delivering :
    ∀ inFlight, s.inFlight = some inFlight →
      ∀ revision, s.lastDelivered = some revision → revision ≤ inFlight.frame.revision
  delivered :
    s.inFlight = none → ∀ frame, sent.getLast? = some frame →
      s.lastDelivered = some frame.revision

/-- The snapshot was receipted: everything newer that was admitted was sent after it
or waits in the queue. -/
structure Progress (s : ServerSubscription) (snapshot : PendingFrame)
    (updates : List PendingFrame) : Prop where
  streaming : s.Streaming (snapshot :: updates)
  increasing : (snapshot :: updates ++ s.queue).Pairwise (·.revision < ·.revision)
  queued :
    (queuedFrames s.epoch s.trace).filter (snapshot.revision < ·.revision) = updates ++ s.queue

structure Capturing (s : ServerSubscription) : Prop where
  streaming : s.Streaming []
  inFlight : s.inFlight = none
  queued : queuedFrames s.epoch s.trace = s.queue

structure SnapshotSent (s : ServerSubscription) (snapshot : PendingFrame) : Prop where
  streaming : s.Streaming [snapshot]
  inFlight : s.inFlight ≠ none
  queued : queuedFrames s.epoch s.trace = s.queue
  revision : s.snapshotRevision = some snapshot.revision

/-- `kept` is the drain boundary; its frames beyond the ones already receipted are
what `drainRemaining` counts. -/
structure Draining (s : ServerSubscription) (snapshot : PendingFrame)
    (updates kept : List PendingFrame) : Prop where
  progress : s.Progress snapshot updates
  inFlight : s.inFlight ≠ none
  boundary : Observation.drain s.epoch kept ∈ s.trace
  keptPrefix : kept <+: updates ++ s.queue
  remaining : s.drainRemaining + updates.length = kept.length + 1 ∧ 0 < s.drainRemaining

structure Live (s : ServerSubscription) (snapshot : PendingFrame)
    (updates : List PendingFrame) : Prop where
  progress : s.Progress snapshot updates
  flowing : s.inFlight = none → s.queue = []

def Phased (s : ServerSubscription) : Prop :=
  match s.phase with
  | .capturing => s.Capturing
  | .snapshotSent => ∃ snapshot, s.SnapshotSent snapshot
  | .draining => ∃ snapshot updates kept, s.Draining snapshot updates kept
  | .live => ∃ snapshot updates, s.Live snapshot updates
  | _ => s.Quiet

section Phases

variable {s : ServerSubscription} {snapshot : PendingFrame} {updates kept : List PendingFrame}

theorem Capturing.phased (h : s.Capturing) (hphase : s.phase = .capturing) : s.Phased := by
  unfold Phased
  rw [hphase]
  exact h

theorem SnapshotSent.phased (h : s.SnapshotSent snapshot) (hphase : s.phase = .snapshotSent) :
    s.Phased := by
  unfold Phased
  rw [hphase]
  exact ⟨snapshot, h⟩

theorem Draining.phased (h : s.Draining snapshot updates kept) (hphase : s.phase = .draining) :
    s.Phased := by
  unfold Phased
  rw [hphase]
  exact ⟨snapshot, updates, kept, h⟩

theorem Live.phased (h : s.Live snapshot updates) (hphase : s.phase = .live) : s.Phased := by
  unfold Phased
  rw [hphase]
  exact ⟨snapshot, updates, h⟩

end Phases

/-- The phase in which an attempt of the current generation waits at each place. -/
def Fits (s : ServerSubscription) : Await → Prop
  | .authorizeHandler | .authorized => s.phase = .authorizing
  | .permit | .snapshotHandler _ => s.phase = .capturing
  | .recheckHandler _ snapshot | .rechecked _ snapshot =>
      s.phase = .capturing ∧ ∀ revision, s.lastDelivered = some revision →
        revision ≤ snapshot.revision

structure Attempts (s : ServerSubscription) : Prop where
  current : ∀ attempt ∈ s.pending, attempt.generation = s.generation → s.Fits attempt.waiting
  trusting :
    ∀ attempt ∈ s.pending, attempt.waiting.afterAuthorize = true →
      attempt.generation = s.generation ∧ s.jobs = []
  snapshotJobs : ∀ job ∈ s.jobs, job.handler = .snapshot → s.routed = true

structure Open (s : ServerSubscription) : Prop where
  bookkeeping : s.Bookkeeping
  phased : s.Phased
  attempts : s.Attempts

/-- The invariant of the atomic machine.  A session found expired is closed by a
promise job, before anything else can send. -/
inductive Sound (s : ServerSubscription) : Prop
  | closed (hclosed : s.sessionClosed = true) (htrace : Disciplined s.trace)
  | expired (hexpiring : s.expiring = true) (htrace : Disciplined s.trace)
      (huntrusting : ∀ attempt ∈ s.pending, attempt.waiting.afterAuthorize = false)
  | opened (hopen : s.Open)

theorem Sound.disciplined {s : ServerSubscription} (hsound : s.Sound) : Disciplined s.trace := by
  cases hsound with
  | closed _ htrace => exact htrace
  | expired _ htrace _ => exact htrace
  | opened hopen => exact hopen.bookkeeping.disciplined

end ServerSubscription

end StreamOtter
