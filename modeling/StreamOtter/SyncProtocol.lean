import StreamOtter.ServerSafety
import Mathlib.Order.Bounds.Basic

/-!
# The synchronization protocol as the client sees it

What a disciplined trace means epoch by epoch, and the two results about runs of the
gateway's side: the order of what it sends, and that no admitted update is lost.
-/

namespace StreamOtter

section Discipline

variable {trace : List Observation}

theorem Disciplined.sequences (h : Disciplined trace) (epoch : Epoch) :
    (epochData epoch trace).map DataFrame.sequence =
      List.range' 1 (epochData epoch trace).length := by
  induction trace using List.reverseRecOn with
  | nil => rfl
  | append_singleton trace o ih =>
      obtain ⟨htrace, hallowed⟩ := disciplined_append.mp h
      have hearlier := ih htrace
      cases o with
      | data frame =>
          obtain ⟨-, hsequence, -⟩ := hallowed
          rw [epochData_append_data]
          by_cases hepoch : frame.epoch = epoch
          · subst hepoch
            rw [if_pos rfl, List.map_append, List.length_append, hearlier]
            rw [List.length_singleton, List.range'_1_concat, List.map_singleton, hsequence,
              Nat.add_comm 1]
          · rw [if_neg hepoch, List.append_nil]
            exact hearlier
      | _ =>
          rw [epochData_append, show epochData epoch [_] = [] from rfl, List.append_nil]
          exact hearlier

theorem Disciplined.snapshot_iff_first (h : Disciplined trace) {epoch : Epoch}
    {frame : DataFrame} (hmem : frame ∈ epochData epoch trace) :
    frame.event.kind = .snapshot ↔ frame.sequence = 1 := by
  obtain ⟨hsent, rfl⟩ := mem_epochData.mp hmem
  obtain ⟨before, rest, rfl⟩ := List.append_of_mem hsent
  have hpre : before ++ [.data frame] <+: before ++ .data frame :: rest := ⟨rest, by simp⟩
  obtain ⟨-, hsequence, hkind, -⟩ := h before (.data frame) hpre
  rw [hkind, ← List.length_eq_zero_iff]
  omega

theorem Disciplined.unreceipted_le_one (h : Disciplined trace) (epoch : Epoch) :
    (unreceipted epoch trace).length ≤ 1 := by
  induction trace using List.reverseRecOn with
  | nil => simp [unreceipted]
  | append_singleton trace o ih =>
      obtain ⟨htrace, hallowed⟩ := disciplined_append.mp h
      have hearlier := ih htrace
      rw [unreceipted_append]
      cases o with
      | data frame =>
          obtain ⟨-, -, -, hnone, -⟩ := hallowed
          simp only [unreceiptedStep]
          split
          · case isTrue hepoch => simp [← hepoch, hnone]
          · exact hearlier
      | receipt epoch' sequence =>
          simp only [unreceiptedStep]
          split
          · exact (List.length_filter_le _ _).trans hearlier
          · exact hearlier
      | _ => exact hearlier

theorem Disciplined.increasing (h : Disciplined trace) (epoch : Epoch) :
    (epochData epoch trace).Pairwise (·.event.revision < ·.event.revision) := by
  induction trace using List.reverseRecOn with
  | nil => exact List.Pairwise.nil
  | append_singleton trace o ih =>
      obtain ⟨htrace, hallowed⟩ := disciplined_append.mp h
      have hearlier := ih htrace
      cases o with
      | data frame =>
          obtain ⟨-, -, -, -, hnewer⟩ := hallowed
          rw [epochData_append_data]
          by_cases hepoch : frame.epoch = epoch
          · subst hepoch
            rw [if_pos rfl]
            refine List.pairwise_append.mpr ⟨hearlier, List.pairwise_singleton _ _, ?_⟩
            intro earlier hmem last hlast
            rw [List.mem_singleton.mp hlast]
            exact hnewer earlier hmem
          · rw [if_neg hepoch, List.append_nil]
            exact hearlier
      | _ =>
          rw [epochData_append, show epochData epoch [_] = [] from rfl, List.append_nil]
          exact hearlier

theorem Disciplined.announced_nodup (h : Disciplined trace) : (announced trace).Nodup := by
  induction trace using List.reverseRecOn with
  | nil => exact List.nodup_nil
  | append_singleton trace o ih =>
      obtain ⟨htrace, hallowed⟩ := disciplined_append.mp h
      have hearlier := ih htrace
      rw [announced_append]
      cases o with
      | state frame =>
          rcases frame with ⟨epoch, state, reason⟩
          cases state with
          | synchronizing =>
              obtain ⟨hnew, -⟩ := hallowed
              rw [show announced [.state ⟨epoch, .synchronizing, reason⟩] = [epoch] from rfl]
              exact List.Nodup.append hearlier (List.nodup_singleton _) (by simpa using hnew)
          | _ => simpa [announced] using hearlier
      | _ => simpa [announced] using hearlier

end Discipline

/-- The order of the frames of one gateway subscription, epoch by epoch. -/
structure SyncSafe (trace : List Observation) : Prop where
  /-- Sequences are 1, 2, 3, … -/
  sequences :
    ∀ epoch, (epochData epoch trace).map DataFrame.sequence =
      List.range' 1 (epochData epoch trace).length
  snapshot_iff_first :
    ∀ epoch, ∀ frame ∈ epochData epoch trace, frame.event.kind = .snapshot ↔ frame.sequence = 1
  one_unreceipted : ∀ before, before <+: trace → ∀ epoch, (unreceipted epoch before).length ≤ 1
  increasing :
    ∀ epoch, (epochData epoch trace).Pairwise (·.event.revision < ·.event.revision)
  /-- Live follows the receipts of the snapshot and of the whole drain boundary. -/
  live_after_drain :
    ∀ before epoch reason, before ++ [.state ⟨epoch, .live, reason⟩] <+: trace →
      unreceipted epoch before = [] ∧
        ∃ snapshot kept, Observation.drain epoch kept ∈ before ∧
          (epochData epoch before).map DataFrame.event = snapshot :: kept.map PendingFrame.event
  /-- After a newer epoch is announced, the older ones are silent. -/
  older_silent :
    ∀ before epoch reason rest,
      trace = before ++ Observation.state ⟨epoch, .synchronizing, reason⟩ :: rest →
        ∀ older ∈ announced before, epochData older rest = [] ∧
          ∀ reason', Observation.state ⟨older, .live, reason'⟩ ∉ rest

/-- A frame of an epoch that was announced before another one does not come after it. -/
theorem Disciplined.last_announced {before mid : List Observation} {epoch older : Epoch}
    {reason : Option ErrorCode}
    (h : Disciplined (before ++ Observation.state ⟨epoch, .synchronizing, reason⟩ :: mid))
    (holder : older ∈ announced before) :
    (announced (before ++ Observation.state ⟨epoch, .synchronizing, reason⟩ :: mid)).getLast? ≠
      some older := by
  have hsplit : announced (before ++ .state ⟨epoch, .synchronizing, reason⟩ :: mid) =
      announced before ++ (epoch :: announced mid) := by
    simp [announced]
  have hnodup := h.announced_nodup
  rw [hsplit] at hnodup ⊢
  rw [List.getLast?_append_of_ne_nil _ (List.cons_ne_nil _ _)]
  intro hlast
  have hmem : older ∈ epoch :: announced mid := List.mem_of_getLast? hlast
  exact (List.nodup_append.mp hnodup).2.2 older holder older hmem rfl

theorem Disciplined.syncSafe {trace : List Observation} (h : Disciplined trace) :
    SyncSafe trace where
  sequences := h.sequences
  snapshot_iff_first := fun _ _ hmem => h.snapshot_iff_first hmem
  one_unreceipted := fun _ hpre epoch => (h.of_prefix hpre).unreceipted_le_one epoch
  increasing := h.increasing
  live_after_drain := fun before _ _ hpre => (h before _ hpre).2
  older_silent := by
    rintro before epoch reason rest rfl older holder
    have hsplit : ∀ mid o after, rest = mid ++ o :: after →
        before ++ .state ⟨epoch, .synchronizing, reason⟩ :: mid ++ [o] <+:
          before ++ .state ⟨epoch, .synchronizing, reason⟩ :: rest := by
      rintro mid o after rfl
      exact ⟨after, by simp⟩
    have hnotLast : ∀ mid o after, rest = mid ++ o :: after →
        (announced (before ++ .state ⟨epoch, .synchronizing, reason⟩ :: mid)).getLast? ≠
          some older := by
      intro mid o after hrest
      exact (h.of_prefix ((List.prefix_append _ _).trans (hsplit mid o after hrest))).last_announced
        holder
    constructor
    · refine List.eq_nil_iff_forall_not_mem.mpr fun frame hframe => ?_
      obtain ⟨hmem, rfl⟩ := mem_epochData.mp hframe
      obtain ⟨mid, after, hrest⟩ := List.append_of_mem hmem
      exact hnotLast mid _ after hrest (h _ _ (hsplit mid _ after hrest)).1
    · intro reason' hmem
      obtain ⟨mid, after, hrest⟩ := List.append_of_mem hmem
      exact hnotLast mid _ after hrest (h _ _ (hsplit mid _ after hrest)).1

namespace ServerSubscription

/-- In every run, events taken one at a time, the gateway sends in the order of the
synchronization protocol. -/
theorem syncSafe_after (config : ServerConfig) (budget : SubscriptionBudget)
    (source : SourceRuntime) (inputs : List ServerInput)
    (hrun : (atomicMachine config).Admits (initial budget source) inputs) :
    SyncSafe ((atomicMachine config).after (initial budget source) inputs).trace :=
  (sound_after config budget source hrun).disciplined.syncSafe

instance (config : ServerConfig) (s : ServerSubscription) (input : ServerInput) :
    Decidable ((atomicMachine config).allowed s input) :=
  inferInstanceAs (Decidable (_ ∨ _))

section Sample

/-- A client that reads everything and whose authentication has not expired. -/
def prompt : Readings := ⟨fun _ => 0, fun _ => false⟩

def sampleConfig : ServerConfig := ⟨⟨3, 1000, 1000⟩, "orders", 1⟩

def sampleBudget : SubscriptionBudget := ⟨10, 0, ⟨1000, 0⟩, ⟨1000, 0⟩, ⟨1000, 0⟩, []⟩

def sampleSource : SourceRuntime := ⟨.healthy, none, none⟩

def sampleUpdate (revision : Revision) : UpdateFrame :=
  ⟨⟨⟨"orders", 1, .update, revision⟩, 10, "update"⟩, rfl⟩

/-- From the subscribe request over a snapshot at revision 10 to live, with two updates
behind it: one in flight, one queued. -/
def sampleRun : List ServerInput :=
  [.start, .callHandler 0, .resumeAuthorize 0 .allowed false, .resumeAuthorized 0,
    .resumePermit 0 true, .callHandler 0, .resumeSnapshot 0 (.ok ⟨10, none, 20, "snapshot"⟩),
    .callHandler 0, .resumeAuthorize 0 .allowed false, .resumeAuthorized 0, .receipt 1 1,
    .admitFrame (sampleUpdate 11), .admitFrame (sampleUpdate 12)].map (⟨·, prompt⟩)

theorem syncSafe_sampleRun :
    SyncSafe ((atomicMachine sampleConfig).after (initial sampleBudget sampleSource)
      sampleRun).trace :=
  syncSafe_after sampleConfig sampleBudget sampleSource sampleRun (by decide)

end Sample

/-- An offered frame was transmitted in its epoch, or a frame of the epoch at least as new
was transmitted or is queued, or the epoch is over. -/
def Accounted (past : Epoch → List Observation → Prop) (s : ServerSubscription) (epoch : Epoch)
    (frame : PendingFrame) : Prop :=
  (∃ sent ∈ epochData epoch s.trace, sent.event = frame.event) ∨
    (∃ sent ∈ epochData epoch s.trace, frame.revision ≤ sent.event.revision) ∨
    (epoch = s.epoch ∧ ∃ held ∈ s.queue, frame.revision ≤ held.revision) ∨
    past epoch s.trace

instance (past : Epoch → List Observation → Prop) [∀ epoch trace, Decidable (past epoch trace)]
    (s : ServerSubscription) (epoch : Epoch) (frame : PendingFrame) :
    Decidable (s.Accounted past epoch frame) :=
  inferInstanceAs (Decidable (_ ∨ _ ∨ _ ∨ _))

/-- No update is lost from the snapshot's capture to the end of its epoch, where `past`
says when an epoch has ended. -/
structure NoLostUpdate (past : Epoch → List Observation → Prop) (s : ServerSubscription) :
    Prop where
  routed_before_snapshot : ∀ routed, Observation.called .snapshot routed ∈ s.trace → routed = true
  routed_while_capturing : s.capturing = true → s.routed = true
  accounted :
    ∀ epoch frame result, Observation.admitted epoch frame result ∈ s.trace →
      s.Accounted past epoch frame
  admission_order :
    ∀ epoch, ((epochData epoch s.trace).tail.map DataFrame.event).Sublist
      ((queuedFrames epoch s.trace).map PendingFrame.event)
  caught_up :
    s.phase = .live → s.queue = [] → s.inFlight = none →
      ∃ snapshot ∈ epochData s.epoch s.trace, snapshot.event.kind = .snapshot ∧
        ∃ last, s.lastDelivered = some last ∧
          IsGreatest {revision | revision = snapshot.event.revision ∨
            ∃ frame result, Observation.admitted s.epoch frame result ∈ s.trace ∧
              frame.revision = revision} last

theorem Open.accounted {s : ServerSubscription} (hopen : s.Open) {epoch : Epoch}
    {frame : PendingFrame} {result : AdmitResult}
    (hadmitted : Observation.admitted epoch frame result ∈ s.trace) :
    s.Accounted Over epoch frame := by
  have hannounced := hopen.bookkeeping.admittedAnnounced epoch frame result hadmitted
  by_cases hepoch : epoch = s.epoch
  · subst hepoch
    have hstreaming : ∀ sent, s.Streaming sent → s.Accounted Over s.epoch frame := by
      intro sent hstream
      obtain ⟨held, hheld, hle⟩ := hstream.covered frame result hadmitted
      rcases List.mem_append.mp hheld with hsent | hqueued
      · have hevent : held.event ∈ (epochData s.epoch s.trace).map DataFrame.event := by
          rw [hstream.data, events_numbered]
          exact List.mem_map_of_mem hsent
        obtain ⟨data, hdata, hsame⟩ := List.mem_map.mp hevent
        refine .inr (.inl ⟨data, hdata, ?_⟩)
        rw [hsame]
        exact hle
      · exact .inr (.inr (.inl ⟨rfl, held, hqueued, hle⟩))
    rcases hopen.phased.cases with ⟨-, hquiet⟩ | ⟨-, sent, hstream⟩
    · exact .inr (.inr (.inr (hquiet.epochOver hannounced)))
    · exact hstreaming sent hstream
  · exact .inr (.inr (.inr (hopen.bookkeeping.earlierOver epoch hannounced hepoch)))

/-- With nothing queued or in flight, the client holds the newest state of the epoch. -/
theorem Live.caught_up {s : ServerSubscription} {snapshot : PendingFrame}
    {updates : List PendingFrame} (h : s.Live snapshot updates) (htrace : Disciplined s.trace)
    (hqueue : s.queue = []) (hnone : s.inFlight = none) :
    ∃ first ∈ epochData s.epoch s.trace, first.event.kind = .snapshot ∧
      ∃ last, s.lastDelivered = some last ∧
        IsGreatest {revision | revision = first.event.revision ∨
          ∃ frame result, Observation.admitted s.epoch frame result ∈ s.trace ∧
            frame.revision = revision} last := by
  have hstream := h.progress.streaming
  have hfirst : (⟨s.epoch, 1, snapshot.event⟩ : DataFrame) ∈ epochData s.epoch s.trace := by
    rw [hstream.data]
    simp [numbered]
  obtain ⟨last, hlast⟩ : ∃ last, (snapshot :: updates).getLast? = some last :=
    Option.isSome_iff_exists.mp (by simp)
  have hincreasing := h.progress.increasing
  rw [hqueue, List.append_nil] at hincreasing
  have hmax : ∀ held ∈ snapshot :: updates, held.revision ≤ last.revision := by
    intro held hheld
    have hsplit : snapshot :: updates = (snapshot :: updates).dropLast ++ [last] :=
      (List.dropLast_append_getLast? last hlast).symm
    rw [hsplit] at hincreasing hheld
    rcases List.mem_append.mp hheld with hearlier | hsame
    · exact ((List.pairwise_append.mp hincreasing).2.2 held hearlier last
        (List.mem_singleton_self last)).le
    · rw [List.mem_singleton.mp hsame]
  refine ⟨_, hfirst, (htrace.snapshot_iff_first hfirst).mpr rfl, last.revision,
    hstream.delivered hnone last hlast, ?_, ?_⟩
  · rcases List.mem_cons.mp (List.mem_of_getLast? hlast) with rfl | hupdate
    · exact .inl rfl
    · have hqueued : last ∈ queuedFrames s.epoch s.trace := by
        have hfilter : last ∈ (queuedFrames s.epoch s.trace).filter
            (snapshot.revision < ·.revision) := by
          rw [h.progress.queued]
          exact List.mem_append_left _ hupdate
        exact (List.mem_filter.mp hfilter).1
      exact .inr ⟨last, .queued, mem_queuedFrames.mp hqueued, rfl⟩
  · rintro revision (rfl | ⟨frame, result, hadmitted, rfl⟩)
    · exact hmax snapshot List.mem_cons_self
    · obtain ⟨held, hheld, hle⟩ := hstream.covered frame result hadmitted
      rw [hqueue, List.append_nil] at hheld
      exact hle.trans (hmax held hheld)

theorem Open.noLostUpdate {s : ServerSubscription} (hopen : s.Open) : s.NoLostUpdate Over where
  routed_before_snapshot := hopen.bookkeeping.calledRouted
  routed_while_capturing := by
    intro hcapturing
    rcases hopen.phased.cases with ⟨hresting, -⟩ | ⟨-, sent, hstream⟩
    · cases hphase : s.phase <;> simp_all [capturing, Phase.resting]
    · exact hstream.routed
  accounted := fun _ _ _ hadmitted => hopen.accounted hadmitted
  admission_order := hopen.bookkeeping.ordered
  caught_up := by
    intro hphase hqueue hnone
    have hphased := hopen.phased
    unfold Phased at hphased
    rw [hphase] at hphased
    obtain ⟨snapshot, updates, hlive⟩ := hphased
    exact hlive.caught_up hopen.bookkeeping.disciplined hqueue hnone

/-- In every run whose session stays open, each admitted update is transmitted, superseded
by a newer state or belongs to an epoch that was invalidated or, at the client's request,
replaced. -/
theorem noLostUpdate_after (config : ServerConfig) (budget : SubscriptionBudget)
    (source : SourceRuntime) (inputs : List ServerInput)
    (hrun : (atomicMachine config).Admits (initial budget source) inputs)
    (hopen : ((atomicMachine config).after (initial budget source) inputs).sessionClosed = false)
    (hunexpired : ((atomicMachine config).after (initial budget source) inputs).expiring = false) :
    ((atomicMachine config).after (initial budget source) inputs).NoLostUpdate Over := by
  cases sound_after config budget source hrun with
  | closed hclosed _ => rw [hopen] at hclosed; cases hclosed
  | expired hexpiring _ _ => rw [hunexpired] at hexpiring; cases hexpiring
  | opened hopened => exact hopened.noLostUpdate

theorem noLostUpdate_sampleRun :
    ((atomicMachine sampleConfig).after (initial sampleBudget sampleSource)
      sampleRun).NoLostUpdate Over :=
  noLostUpdate_after sampleConfig sampleBudget sampleSource sampleRun (by decide) (by decide)
    (by decide)

/-- A resync of a live subscription drops the queued update with no stale,
resync-required or failed state. -/
theorem resync_loses_queued_update :
    ¬ ∀ (config : ServerConfig) (budget : SubscriptionBudget) (source : SourceRuntime)
      (inputs : List ServerInput),
      (atomicMachine config).Admits (initial budget source) inputs →
      ((atomicMachine config).after (initial budget source) inputs).sessionClosed = false →
      ((atomicMachine config).after (initial budget source) inputs).expiring = false →
        ((atomicMachine config).after (initial budget source) inputs).NoLostUpdate
          Invalidated := by
  intro hclaim
  have hkept := hclaim sampleConfig sampleBudget sampleSource (sampleRun ++ [⟨.resync, prompt⟩])
    (by decide) (by decide) (by decide)
  have hlost := hkept.accounted 1 (sampleUpdate 12).toPendingFrame .queued (by decide)
  revert hlost
  decide

end ServerSubscription

end StreamOtter
