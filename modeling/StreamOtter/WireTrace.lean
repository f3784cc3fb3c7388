import StreamOtter.ServerSubscription
import Mathlib.Data.List.Infix

/-!
# What a recorded run put on the wire

Projections of a trace onto one epoch, and the discipline of the synchronization
protocol: which frame may follow a given trace.  A trace is disciplined when
every entry was allowed after the entries before it.
-/

namespace StreamOtter

/-- The epochs announced by `synchronizing` frames, in order. -/
def announced (trace : List Observation) : List Epoch :=
  trace.filterMap fun
    | .state ⟨epoch, .synchronizing, _⟩ => some epoch
    | _ => none

/-- The data frames of one epoch, in order. -/
def epochData (epoch : Epoch) (trace : List Observation) : List DataFrame :=
  trace.filterMap fun
    | .data frame => if frame.epoch = epoch then some frame else none
    | _ => none

/-- The frames that `admitFrame` queued in one epoch, in order. -/
def queuedFrames (epoch : Epoch) (trace : List Observation) : List PendingFrame :=
  trace.filterMap fun
    | .admitted epoch' frame .queued => if epoch' = epoch then some frame else none
    | _ => none

/-- One entry's effect on the sequences of an epoch that wait for a receipt. -/
def unreceiptedStep (epoch : Epoch) (waiting : List ℕ) : Observation → List ℕ
  | .data frame => if frame.epoch = epoch then waiting ++ [frame.sequence] else waiting
  | .receipt epoch' sequence =>
      if epoch' = epoch then waiting.filter (· ≠ sequence) else waiting
  | _ => waiting

/-- The sequences of an epoch's data frames that no later receipt has named. -/
def unreceipted (epoch : Epoch) (trace : List Observation) : List ℕ :=
  trace.foldl (unreceiptedStep epoch) []

/-- An entry that concerns neither the announced epochs nor any data frame. -/
def Observation.Silent : Observation → Prop
  | .state frame => frame.state ≠ .synchronizing ∧ frame.state ≠ .live
  | .data _ => False
  | _ => True

section Append

variable (epoch : Epoch) (trace : List Observation)

theorem announced_append (o : Observation) :
    announced (trace ++ [o]) = announced trace ++ announced [o] := by
  simp [announced]

theorem epochData_append (o : Observation) :
    epochData epoch (trace ++ [o]) = epochData epoch trace ++ epochData epoch [o] := by
  simp [epochData]

theorem queuedFrames_append (o : Observation) :
    queuedFrames epoch (trace ++ [o]) = queuedFrames epoch trace ++ queuedFrames epoch [o] := by
  simp [queuedFrames]

theorem unreceipted_append (o : Observation) :
    unreceipted epoch (trace ++ [o]) = unreceiptedStep epoch (unreceipted epoch trace) o := by
  simp [unreceipted]

variable {o : Observation}

theorem announced_append_silent (ho : o.Silent) : announced (trace ++ [o]) = announced trace := by
  rw [announced_append]
  rcases o with ⟨_, state, _⟩ | _ | _ | _ | _ | _ | _ | _ <;> simp_all [announced, Observation.Silent]

theorem epochData_append_silent (ho : o.Silent) :
    epochData epoch (trace ++ [o]) = epochData epoch trace := by
  rw [epochData_append]
  cases o <;> simp_all [epochData, Observation.Silent]

end Append

@[simp] theorem announced_append_synchronizing (trace : List Observation) (epoch : Epoch)
    (reason : Option ErrorCode) :
    announced (trace ++ [.state ⟨epoch, .synchronizing, reason⟩]) = announced trace ++ [epoch] := by
  simp [announced]

@[simp] theorem announced_append_live (trace : List Observation) (epoch : Epoch)
    (reason : Option ErrorCode) :
    announced (trace ++ [.state ⟨epoch, .live, reason⟩]) = announced trace := by
  simp [announced]

@[simp] theorem announced_append_data (trace : List Observation) (frame : DataFrame) :
    announced (trace ++ [.data frame]) = announced trace := by
  simp [announced]

@[simp] theorem epochData_append_state (epoch : Epoch) (trace : List Observation)
    (frame : SubscriptionFrame) :
    epochData epoch (trace ++ [.state frame]) = epochData epoch trace := by
  simp [epochData]

@[simp] theorem epochData_append_data (epoch : Epoch) (trace : List Observation)
    (frame : DataFrame) :
    epochData epoch (trace ++ [.data frame]) =
      epochData epoch trace ++ if frame.epoch = epoch then [frame] else [] := by
  rw [epochData_append]
  split <;> simp_all [epochData]

@[simp] theorem queuedFrames_append_data (epoch : Epoch) (trace : List Observation)
    (frame : DataFrame) :
    queuedFrames epoch (trace ++ [.data frame]) = queuedFrames epoch trace := by
  simp [queuedFrames]

@[simp] theorem queuedFrames_append_state (epoch : Epoch) (trace : List Observation)
    (frame : SubscriptionFrame) :
    queuedFrames epoch (trace ++ [.state frame]) = queuedFrames epoch trace := by
  simp [queuedFrames]

section Admitted

variable (epoch epoch' : Epoch) (trace : List Observation) (frame : PendingFrame)
  (result : AdmitResult)

@[simp] theorem announced_append_admitted :
    announced (trace ++ [.admitted epoch frame result]) = announced trace := by
  simp [announced]

@[simp] theorem epochData_append_admitted :
    epochData epoch' (trace ++ [.admitted epoch frame result]) = epochData epoch' trace := by
  simp [epochData]

@[simp] theorem unreceipted_append_admitted :
    unreceipted epoch' (trace ++ [.admitted epoch frame result]) = unreceipted epoch' trace := by
  simp [unreceipted_append, unreceiptedStep]

end Admitted

theorem mem_epochData {epoch : Epoch} {trace : List Observation} {frame : DataFrame} :
    frame ∈ epochData epoch trace ↔ Observation.data frame ∈ trace ∧ frame.epoch = epoch := by
  unfold epochData
  simp only [List.mem_filterMap]
  constructor
  · rintro ⟨o, ho, hframe⟩
    cases o <;> simp at hframe
    obtain ⟨hepoch, rfl⟩ := hframe
    exact ⟨ho, hepoch⟩
  · rintro ⟨hmem, hepoch⟩
    exact ⟨.data frame, hmem, by simp [hepoch]⟩

theorem mem_queuedFrames {epoch : Epoch} {trace : List Observation} {frame : PendingFrame} :
    frame ∈ queuedFrames epoch trace ↔ Observation.admitted epoch frame .queued ∈ trace := by
  unfold queuedFrames
  simp only [List.mem_filterMap]
  constructor
  · rintro ⟨o, ho, hframe⟩
    rcases o with _ | _ | _ | _ | _ | _ | ⟨epoch', frame', result⟩ | _ | _ | _ <;>
      try simp at hframe
    cases result <;> simp at hframe
    obtain ⟨rfl, rfl⟩ := hframe
    exact ho
  · intro hmem
    exact ⟨.admitted epoch frame .queued, hmem, by simp⟩

theorem mem_announced {epoch : Epoch} {trace : List Observation} :
    epoch ∈ announced trace ↔ ∃ reason, Observation.state ⟨epoch, .synchronizing, reason⟩ ∈ trace := by
  unfold announced
  simp only [List.mem_filterMap]
  constructor
  · rintro ⟨o, ho, hepoch⟩
    rcases o with ⟨epoch', state, reason⟩ | _ | _ | _ | _ | _ | _ | _ <;> try simp at hepoch
    cases state <;> simp at hepoch
    subst hepoch
    exact ⟨reason, ho⟩
  · rintro ⟨reason, hmem⟩
    exact ⟨_, hmem, rfl⟩

/-- A waiting sequence belongs to a data frame that was sent. -/
theorem mem_unreceipted {epoch : Epoch} {trace : List Observation} {sequence : ℕ}
    (hmem : sequence ∈ unreceipted epoch trace) :
    ∃ frame ∈ epochData epoch trace, frame.sequence = sequence := by
  induction trace using List.reverseRecOn with
  | nil => simp [unreceipted] at hmem
  | append_singleton trace o ih =>
      rw [unreceipted_append] at hmem
      rw [epochData_append]
      have hearlier : sequence ∈ unreceipted epoch trace →
          ∃ frame ∈ epochData epoch trace ++ epochData epoch [o], frame.sequence = sequence := by
        intro h
        obtain ⟨frame, hframe, hsequence⟩ := ih h
        exact ⟨frame, List.mem_append_left _ hframe, hsequence⟩
      cases o with
      | data frame =>
          simp only [unreceiptedStep] at hmem
          split at hmem
          case isTrue hepoch =>
            rcases List.mem_append.mp hmem with h | h
            · exact hearlier h
            · simp only [List.mem_singleton] at h
              exact ⟨frame, by simp [epochData, hepoch], h.symm⟩
          case isFalse => exact hearlier hmem
      | receipt epoch' sequence' =>
          simp only [unreceiptedStep] at hmem
          split at hmem
          · exact hearlier (List.mem_filter.mp hmem).1
          · exact hearlier hmem
      | _ => exact hearlier hmem

/-- The data frames that carry these events as an epoch's first ones. -/
def numbered (epoch : Epoch) (sent : List PendingFrame) : List DataFrame :=
  sent.mapIdx fun i frame => ⟨epoch, i + 1, frame.event⟩

theorem numbered_concat (epoch : Epoch) (sent : List PendingFrame) (frame : PendingFrame) :
    numbered epoch (sent ++ [frame]) =
      numbered epoch sent ++ [⟨epoch, sent.length + 1, frame.event⟩] := by
  simp [numbered, List.mapIdx_append]

@[simp] theorem numbered_nil (epoch : Epoch) : numbered epoch [] = [] := rfl

@[simp] theorem length_numbered (epoch : Epoch) (sent : List PendingFrame) :
    (numbered epoch sent).length = sent.length := by
  simp [numbered]

@[simp] theorem events_numbered (epoch : Epoch) (sent : List PendingFrame) :
    (numbered epoch sent).map DataFrame.event = sent.map PendingFrame.event := by
  induction sent using List.reverseRecOn with
  | nil => rfl
  | append_singleton sent frame ih => simp [numbered_concat, ih]

theorem mem_numbered {epoch : Epoch} {sent : List PendingFrame} {frame : DataFrame}
    (hmem : frame ∈ numbered epoch sent) : ∃ f ∈ sent, f.event = frame.event := by
  have hevent : frame.event ∈ (numbered epoch sent).map DataFrame.event :=
    List.mem_map_of_mem hmem
  rw [events_numbered] at hevent
  simpa using hevent

section Ends

variable (epoch : Epoch)

/-- A stale, resync-required or failed state sent in the epoch, or the end of the
subscription in it. -/
def Observation.invalidates : Observation → Bool
  | .state frame =>
      frame.epoch = epoch &&
        (frame.state = .stale || frame.state = .resyncRequired || frame.state = .failed)
  | .terminated epoch' => epoch' = epoch
  | _ => false

/-- The epoch was invalidated. -/
def Invalidated (trace : List Observation) : Prop :=
  trace.any (·.invalidates epoch)

/-- The epoch was replaced at the client's request, which the gateway answered with
an authorizing state. -/
def Replaced (trace : List Observation) : Prop :=
  [.resync epoch, .state ⟨epoch, .authorizing, none⟩] <:+: trace

instance (trace : List Observation) : Decidable (Invalidated epoch trace) :=
  inferInstanceAs (Decidable (_ = true))

instance (trace : List Observation) : Decidable (Replaced epoch trace) :=
  inferInstanceAs (Decidable (_ <:+: _))

/-- The epoch is over: nothing of it is owed to the client any more. -/
def Over (trace : List Observation) : Prop :=
  Invalidated epoch trace ∨ Replaced epoch trace

variable {epoch}

theorem Over.append {trace : List Observation} (h : Over epoch trace)
    (rest : List Observation) : Over epoch (trace ++ rest) := by
  rcases h with h | h
  · left
    unfold Invalidated at h ⊢
    rw [List.any_append, h, Bool.true_or]
  · exact .inr (h.trans (List.prefix_append _ _).isInfix)

theorem over_of_invalidates {o : Observation} (epoch : Epoch) (trace : List Observation)
    (ho : o.invalidates epoch = true) : Over epoch (trace ++ [o]) := by
  left
  simp [Invalidated, ho]

theorem over_of_resync (trace : List Observation) :
    Over epoch (trace ++ [.resync epoch] ++ [.state ⟨epoch, .authorizing, none⟩]) := by
  right
  exact ⟨trace, [], by simp⟩

end Ends

/-- What the synchronization protocol allows after a trace.

A data frame belongs to the epoch announced last, carries the next sequence, is a
snapshot exactly when it is the first, finds every earlier one receipted and is
newer than all of them.  A `live` frame belongs to the epoch announced last, whose
data frames so far are the snapshot and the drain boundary, all receipted.  A
`synchronizing` frame announces a new epoch. -/
def Allowed (trace : List Observation) : Observation → Prop
  | .data frame =>
      (announced trace).getLast? = some frame.epoch ∧
      frame.sequence = (epochData frame.epoch trace).length + 1 ∧
      (frame.event.kind = .snapshot ↔ epochData frame.epoch trace = []) ∧
      unreceipted frame.epoch trace = [] ∧
      ∀ earlier ∈ epochData frame.epoch trace, earlier.event.revision < frame.event.revision
  | .state ⟨epoch, .live, _⟩ =>
      (announced trace).getLast? = some epoch ∧
      unreceipted epoch trace = [] ∧
      ∃ snapshot kept, Observation.drain epoch kept ∈ trace ∧
        (epochData epoch trace).map DataFrame.event = snapshot :: kept.map PendingFrame.event
  | .state ⟨epoch, .synchronizing, _⟩ =>
      epoch ∉ announced trace ∧ epochData epoch trace = []
  | _ => True

theorem Observation.Silent.allowed {o : Observation} (ho : o.Silent) (trace : List Observation) :
    Allowed trace o := by
  rcases o with ⟨_, state, _⟩ | _ | _ | _ | _ | _ | _ | _
  · cases state <;> simp_all [Observation.Silent, Allowed]
  · simp [Observation.Silent] at ho
  all_goals trivial

/-- Every entry was allowed after the entries before it. -/
def Disciplined (trace : List Observation) : Prop :=
  ∀ before o, before ++ [o] <+: trace → Allowed before o

theorem disciplined_nil : Disciplined [] := by
  intro before o hpre
  simp at hpre

theorem disciplined_append {trace : List Observation} {o : Observation} :
    Disciplined (trace ++ [o]) ↔ Disciplined trace ∧ Allowed trace o := by
  constructor
  · intro h
    exact ⟨fun before o' hpre => h before o' (hpre.trans (List.prefix_append _ _)),
      h trace o List.prefix_rfl⟩
  · rintro ⟨htrace, ho⟩ before o' hpre
    rcases List.prefix_concat_iff.mp hpre with heq | hpre
    · have hsame := List.append_inj' heq (by simp)
      obtain ⟨rfl, hlast⟩ := hsame
      simp only [List.cons.injEq, and_true] at hlast
      exact hlast ▸ ho
    · exact htrace before o' hpre

/-- A data frame was sent in an announced epoch. -/
theorem Disciplined.epoch_announced {trace : List Observation} (h : Disciplined trace)
    {frame : DataFrame} (hmem : Observation.data frame ∈ trace) :
    frame.epoch ∈ announced trace := by
  obtain ⟨before, rest, rfl⟩ := List.append_of_mem hmem
  have hpre : before ++ [.data frame] <+: before ++ .data frame :: rest := ⟨rest, by simp⟩
  have hallowed : Allowed before (.data frame) := h before (.data frame) hpre
  have hearlier : frame.epoch ∈ announced before := List.mem_of_getLast? hallowed.1
  have happend : announced (before ++ .data frame :: rest) =
      announced before ++ announced (.data frame :: rest) := by
    simp [announced]
  rw [happend]
  exact List.mem_append_left _ hearlier

/-- Nothing was sent yet in an epoch that was not announced. -/
theorem Disciplined.epochData_eq_nil {trace : List Observation} (h : Disciplined trace)
    {epoch : Epoch} (hnew : epoch ∉ announced trace) : epochData epoch trace = [] := by
  refine List.eq_nil_iff_forall_not_mem.mpr fun frame hframe => ?_
  obtain ⟨hmem, rfl⟩ := mem_epochData.mp hframe
  exact hnew (h.epoch_announced hmem)

theorem Disciplined.unreceipted_eq_nil {trace : List Observation} (h : Disciplined trace)
    {epoch : Epoch} (hnew : epoch ∉ announced trace) : unreceipted epoch trace = [] := by
  refine List.eq_nil_iff_forall_not_mem.mpr fun sequence hsequence => ?_
  obtain ⟨frame, hframe, -⟩ := mem_unreceipted hsequence
  rw [h.epochData_eq_nil hnew] at hframe
  cases hframe

theorem Disciplined.of_prefix {before trace : List Observation} (h : Disciplined trace)
    (hpre : before <+: trace) : Disciplined before :=
  fun _ _ hbefore => h _ _ (hbefore.trans hpre)

end StreamOtter
