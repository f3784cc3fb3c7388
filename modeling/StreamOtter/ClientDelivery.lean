import StreamOtter.ClientListeners
import Mathlib.Data.List.Infix
import Mathlib.Data.List.Pairwise

/-!
# What an SDK subscription delivers

The peer may send any frames and acknowledgements over any connections, and listeners may
call back at any notification.  The delivered revisions never decrease, each epoch is
delivered from its snapshot on, and only the epoch in force is delivered.
-/

namespace StreamOtter

def ClientObservation.delivery : ClientObservation → Option DataFrame
  | .delivered _ frame => some frame
  | _ => none

/-- An event that concerns neither an epoch nor a connection. -/
def ClientObservation.neutral : ClientObservation → Bool
  | .live _ | .heard _ | .receipted _ _ => true
  | _ => false

/-- The frames delivered so far, in order. -/
def deliveries (trace : List ClientObservation) : List DataFrame :=
  trace.filterMap ClientObservation.delivery

def revisions (frames : List DataFrame) : List Revision := frames.map (·.event.revision)

/-- The frames delivered since the last accepted `synchronizing` frame. -/
def deliveriesSince (trace : List ClientObservation) : List DataFrame :=
  trace.foldl (fun frames o =>
    match o with
    | .synchronizing _ => []
    | .delivered _ frame => frames ++ [frame]
    | _ => frames) []

/-- The connection the subscription is attached to. -/
def binding (trace : List ClientObservation) : Option ConnectionId :=
  trace.foldl (fun connection o =>
    match o with
    | .attached connection => some connection
    | .detached => none
    | _ => connection) none

/-- The epoch of the last accepted `synchronizing` frame, unless its replacement was asked
for. -/
def epochInForce (trace : List ClientObservation) : Option Epoch :=
  trace.foldl (fun epoch o =>
    match o with
    | .synchronizing epoch => some epoch
    | .replacing _ => none
    | _ => epoch) none

section Concat

variable (trace : List ClientObservation) (o : ClientObservation)

theorem deliveries_concat : deliveries (trace ++ [o]) = deliveries trace ++ o.delivery.toList := by
  cases o <;> simp [deliveries, ClientObservation.delivery]

theorem deliveriesSince_concat : deliveriesSince (trace ++ [o]) =
    match o with
    | .synchronizing _ => []
    | .delivered _ frame => deliveriesSince trace ++ [frame]
    | _ => deliveriesSince trace := by
  cases o <;> simp [deliveriesSince, List.foldl_append]

theorem binding_concat : binding (trace ++ [o]) =
    match o with
    | .attached connection => some connection
    | .detached => none
    | _ => binding trace := by
  cases o <;> simp [binding, List.foldl_append]

theorem epochInForce_concat : epochInForce (trace ++ [o]) =
    match o with
    | .synchronizing epoch => some epoch
    | .replacing _ => none
    | _ => epochInForce trace := by
  cases o <;> simp [epochInForce, List.foldl_append]

end Concat

/-- What a subscription delivers, in terms of the events it recorded. -/
structure DeliveredInOrder (trace : List ClientObservation) : Prop where
  monotone : (revisions (deliveries trace)).Pairwise (· ≤ ·)
  increasing : ∀ earlier, earlier <+: trace →
    (revisions (deliveriesSince earlier)).Pairwise (· < ·)
  snapshotFirst : ∀ earlier, earlier <+: trace →
    ∀ frame ∈ (deliveriesSince earlier).head?, frame.event.kind = .snapshot
  inForce : ∀ earlier connection frame, earlier ++ [.delivered connection frame] <+: trace →
    binding earlier = some connection ∧ epochInForce earlier = some frame.epoch

theorem deliveredInOrder_nil : DeliveredInOrder [] where
  monotone := List.Pairwise.nil
  increasing := by
    intro earlier hearlier
    rw [List.prefix_nil.mp hearlier]
    exact List.Pairwise.nil
  snapshotFirst := by
    intro earlier hearlier
    rw [List.prefix_nil.mp hearlier]
    simp [deliveriesSince]
  inForce := by
    intro earlier connection frame hearlier
    simp at hearlier

/-- The delivered frames end with those of the current epoch. -/
theorem deliveriesSince_suffix (trace : List ClientObservation) :
    deliveriesSince trace <:+ deliveries trace := by
  induction trace using List.reverseRecOn with
  | nil => exact List.suffix_rfl
  | append_singleton trace o ih =>
      rw [deliveriesSince_concat, deliveries_concat]
      cases o with
      | delivered connection frame =>
          obtain ⟨before, hbefore⟩ := ih
          refine ⟨before, ?_⟩
          rw [← hbefore, List.append_assoc]
          rfl
      | synchronizing epoch => exact List.nil_suffix
      | _ => simpa [ClientObservation.delivery] using ih

theorem getLast_deliveries {trace : List ClientObservation} (hsome : deliveriesSince trace ≠ []) :
    (revisions (deliveries trace)).getLast? = (revisions (deliveriesSince trace)).getLast? := by
  obtain ⟨before, hbefore⟩ := deliveriesSince_suffix trace
  rw [← hbefore, revisions, List.map_append, List.getLast?_append_of_ne_nil]
  · rfl
  · simpa [revisions] using hsome

/-- Every element of an ascending list is at most the last one. -/
theorem exists_getLast_le {l : List Revision} (hl : l.Pairwise (· ≤ ·)) {revision : Revision}
    (hmem : revision ∈ l) : ∃ last, l.getLast? = some last ∧ revision ≤ last := by
  refine ⟨l.getLast (List.ne_nil_of_mem hmem), List.getLast?_eq_some_getLast _, ?_⟩
  exact hl.rel_getLast hmem

/-- Recording an event that delivers nothing keeps the order. -/
theorem DeliveredInOrder.concat_silent {trace : List ClientObservation} {o : ClientObservation}
    (h : DeliveredInOrder trace) (ho : o.delivery = none) : DeliveredInOrder (trace ++ [o]) where
  monotone := by
    rw [deliveries_concat, ho]
    simpa using h.monotone
  increasing := by
    intro earlier hearlier
    rcases List.prefix_concat_iff.mp hearlier with rfl | hearlier
    · have hbefore := h.increasing trace (List.prefix_refl trace)
      rw [deliveriesSince_concat]
      cases o <;> simp_all [ClientObservation.delivery, revisions]
    · exact h.increasing earlier hearlier
  snapshotFirst := by
    intro earlier hearlier
    rcases List.prefix_concat_iff.mp hearlier with rfl | hearlier
    · have hbefore := h.snapshotFirst trace (List.prefix_refl trace)
      rw [deliveriesSince_concat]
      cases o <;> simp_all [ClientObservation.delivery]
    · exact h.snapshotFirst earlier hearlier
  inForce := by
    intro earlier connection frame hearlier
    rcases List.prefix_concat_iff.mp hearlier with hsame | hearlier
    · have hlast := List.append_inj_right' hsame rfl
      rw [← List.singleton_inj.mp hlast] at ho
      cases ho
    · exact h.inForce earlier connection frame hearlier

/-- Recording the delivery of a frame of the epoch in force. -/
theorem DeliveredInOrder.concat_delivered {trace : List ClientObservation}
    {connection : ConnectionId} {frame : DataFrame} (h : DeliveredInOrder trace)
    (hmonotone : ∀ earlier ∈ revisions (deliveries trace), earlier ≤ frame.event.revision)
    (hincreasing : ∀ earlier ∈ revisions (deliveriesSince trace), earlier < frame.event.revision)
    (hsnapshot : deliveriesSince trace = [] → frame.event.kind = .snapshot)
    (hbinding : binding trace = some connection)
    (hepoch : epochInForce trace = some frame.epoch) :
    DeliveredInOrder (trace ++ [.delivered connection frame]) where
  monotone := by
    rw [deliveries_concat, revisions, List.map_append]
    apply List.pairwise_append.mpr
    refine ⟨h.monotone, by simp [ClientObservation.delivery], ?_⟩
    intro earlier hearlier later hlater
    have hsame : later = frame.event.revision := by
      simpa [ClientObservation.delivery] using hlater
    rw [hsame]
    exact hmonotone earlier hearlier
  increasing := by
    intro earlier hearlier
    rcases List.prefix_concat_iff.mp hearlier with rfl | hearlier
    · rw [deliveriesSince_concat]
      dsimp only
      rw [revisions, List.map_append]
      apply List.pairwise_append.mpr
      refine ⟨h.increasing trace (List.prefix_refl trace), by simp, ?_⟩
      intro earlier hearlier later hlater
      rw [List.mem_singleton.mp hlater]
      exact hincreasing earlier hearlier
    · exact h.increasing earlier hearlier
  snapshotFirst := by
    intro earlier hearlier
    rcases List.prefix_concat_iff.mp hearlier with rfl | hearlier
    · rw [deliveriesSince_concat]
      intro first hfirst
      have hbefore := h.snapshotFirst trace (List.prefix_refl trace)
      cases hsince : deliveriesSince trace with
      | nil =>
          have hsame : frame = first := by simpa [hsince] using hfirst
          rw [← hsame]
          exact hsnapshot hsince
      | cons head tail =>
          rw [hsince] at hbefore
          apply hbefore first
          simpa [hsince] using hfirst
    · exact h.snapshotFirst earlier hearlier
  inForce := by
    intro earlier other delivered hearlier
    rcases List.prefix_concat_iff.mp hearlier with hsame | hearlier
    · have hsamePre := List.append_inj_left' hsame rfl
      have hlast := List.singleton_inj.mp (List.append_inj_right' hsame rfl)
      simp only [ClientObservation.delivered.injEq] at hlast
      rw [hsamePre, hlast.1, hlast.2]
      exact ⟨hbinding, hepoch⟩
    · exact h.inForce earlier other delivered hearlier

namespace ClientSubscription

/-- How the fields that decide about a frame reflect what was recorded. -/
structure Coherent (s : ClientSubscription) : Prop where
  ordered : DeliveredInOrder s.trace
  latest : s.lastRevision = (revisions (deliveries s.trace)).getLast?
  bound : s.attached = binding s.trace
  accepted : s.awaitingEpoch = false →
    s.epoch = epochInForce s.trace ∧ s.expectedSequence = (deliveriesSince s.trace).length + 1 ∧
      s.epochRevision = (revisions (deliveriesSince s.trace)).getLast?

variable {s : ClientSubscription}

theorem Coherent.of_view {s' : ClientSubscription} (h : s.Coherent) (hsame : s'.view = s.view) :
    s'.Coherent := by
  simp only [view, Prod.mk.injEq] at hsame
  obtain ⟨-, -, -, -, hattached, -, hepoch, -, hawaiting, hexpected, hepochRevision, hlast,
    htrace⟩ := hsame
  constructor
  · rw [htrace]; exact h.ordered
  · rw [hlast, htrace]; exact h.latest
  · rw [hattached, htrace]; exact h.bound
  · rw [hawaiting, hepoch, hexpected, hepochRevision, htrace]; exact h.accepted

/-- The subscription waits for an epoch; only its binding and records matter. -/
theorem Coherent.awaiting {s' : ClientSubscription} {o : ClientObservation} (h : s.Coherent)
    (ho : o.delivery = none) (htrace : s'.trace = s.trace ++ [o])
    (hlast : s'.lastRevision = s.lastRevision)
    (hbound : s'.attached = binding (s.trace ++ [o])) (hawaiting : s'.awaitingEpoch = true) :
    s'.Coherent where
  ordered := htrace ▸ h.ordered.concat_silent ho
  latest := by
    rw [htrace, hlast, deliveries_concat, ho]
    simpa using h.latest
  bound := htrace ▸ hbound
  accepted := by
    intro hnot
    rw [hawaiting] at hnot
    cases hnot

/-- An event that leaves the epoch in force. -/
theorem Coherent.record {s' : ClientSubscription} {o : ClientObservation} (h : s.Coherent)
    (ho : o.delivery = none) (htrace : s'.trace = s.trace ++ [o])
    (hbound : s'.attached = binding (s.trace ++ [o]))
    (hinForce : epochInForce (s.trace ++ [o]) = epochInForce s.trace)
    (hsince : deliveriesSince (s.trace ++ [o]) = deliveriesSince s.trace)
    (hsame : s'.awaitingEpoch = s.awaitingEpoch ∧ s'.epoch = s.epoch ∧
      s'.expectedSequence = s.expectedSequence ∧ s'.epochRevision = s.epochRevision ∧
      s'.lastRevision = s.lastRevision) : s'.Coherent := by
  obtain ⟨hawaiting, hepoch, hexpected, hepochRevision, hlast⟩ := hsame
  constructor
  · rw [htrace]
    exact h.ordered.concat_silent ho
  · rw [htrace, hlast, deliveries_concat, ho]
    simpa using h.latest
  · rw [htrace]
    exact hbound
  · rw [hawaiting, hepoch, hexpected, hepochRevision, htrace, hinForce, hsince]
    exact h.accepted

theorem Coherent.emit {o : ClientObservation} (h : s.Coherent) (ho : o.neutral = true) :
    (s.emit o).Coherent := by
  have hbinding : binding (s.trace ++ [o]) = binding s.trace := by
    rw [binding_concat]
    cases o <;> first | rfl | cases ho
  have hepoch : epochInForce (s.trace ++ [o]) = epochInForce s.trace := by
    rw [epochInForce_concat]
    cases o <;> first | rfl | cases ho
  have hsince : deliveriesSince (s.trace ++ [o]) = deliveriesSince s.trace := by
    rw [deliveriesSince_concat]
    cases o <;> first | rfl | cases ho
  have hsilent : o.delivery = none := by cases o <;> first | rfl | cases ho
  exact h.record hsilent rfl (h.bound.trans hbinding.symm) hepoch hsince
    ⟨rfl, rfl, rfl, rfl, rfl⟩

/-- The subscription waits for another epoch and keeps its connection. -/
theorem Coherent.waits {s' : ClientSubscription} (h : s.Coherent) (htrace : s'.trace = s.trace)
    (hlast : s'.lastRevision = s.lastRevision) (hattached : s'.attached = s.attached)
    (hawaiting : s'.awaitingEpoch = true) : s'.Coherent where
  ordered := htrace ▸ h.ordered
  latest := by rw [htrace, hlast]; exact h.latest
  bound := by rw [htrace, hattached]; exact h.bound
  accepted := by
    intro hnot
    rw [hawaiting] at hnot
    cases hnot

/-- The state and what the subscription knows of the gateway do not matter. -/
theorem Coherent.withState {known pending : Bool} {state : SubscriptionState}
    {reason : Option ErrorCode} (h : s.Coherent) :
    Coherent { s with
      serverKnows := known, resyncPending := pending, state := state, reason := reason } :=
  ⟨h.ordered, h.latest, h.bound, h.accepted⟩

theorem robust_coherent : Robust (fun _ => True) Coherent where
  same := fun h hsame => h.of_view hsame.1
  bound := fun _ _ => trivial
  attach := by
    intro s connection _ _ h
    have hbound : some connection = binding (s.trace ++ [.attached connection]) := by
      rw [binding_concat]
    exact h.awaiting (o := .attached connection) rfl rfl rfl hbound rfl
  detach := by
    intro s reason h
    have hbound : none = binding (s.trace ++ [.detached]) := by rw [binding_concat]
    exact h.awaiting (o := .detached) rfl rfl rfl hbound rfl
  drop := by
    intro s _ h
    have hbound : none = binding (s.trace ++ [.detached]) := by rw [binding_concat]
    exact h.awaiting (o := .detached) rfl rfl rfl hbound rfl
  ask := by
    intro s connection _ h
    have hbound : s.attached = binding (s.trace ++ [.replacing s.epoch]) := by
      rw [binding_concat]
      exact h.bound
    exact h.awaiting (o := .replacing s.epoch) rfl rfl rfl hbound rfl
  ask_stale := by
    intro s connection _ _ h
    have hbound : s.attached = binding (s.trace ++ [.replacing s.epoch]) := by
      rw [binding_concat]
      exact h.bound
    exact h.awaiting (o := .replacing s.epoch) rfl rfl rfl hbound rfl
  finish := by
    intro s known state reason _ _ h
    have hbound : none = binding (s.trace ++ [.detached]) := by rw [binding_concat]
    apply h.record (o := .detached) rfl rfl hbound
    · rw [epochInForce_concat]
    · rw [deliveriesSince_concat]
    · exact ⟨rfl, rfl, rfl, rfl, rfl⟩
  know := fun _ h => h.withState
  settle := fun _ _ _ _ _ _ _ h => h.withState
  abandon := fun _ _ _ h => h.waits rfl rfl rfl rfl
  refuse := fun _ _ _ _ _ h => h.waits rfl rfl rfl rfl
  refuse_over := fun _ _ h => h.waits rfl rfl rfl rfl

theorem Coherent.acceptEpoch {epoch : Epoch} (h : s.Coherent) : (s.acceptEpoch epoch).Coherent := by
  constructor
  · exact h.ordered.concat_silent (o := .synchronizing epoch) rfl
  · show s.lastRevision = (revisions (deliveries (s.trace ++ [.synchronizing epoch]))).getLast?
    rw [deliveries_concat]
    simpa [ClientObservation.delivery] using h.latest
  · show s.attached = binding (s.trace ++ [.synchronizing epoch])
    rw [binding_concat]
    exact h.bound
  · intro _
    show some epoch = epochInForce (s.trace ++ [.synchronizing epoch]) ∧
      1 = (deliveriesSince (s.trace ++ [.synchronizing epoch])).length + 1 ∧
      none = (revisions (deliveriesSince (s.trace ++ [.synchronizing epoch]))).getLast?
    rw [epochInForce_concat, deliveriesSince_concat]
    exact ⟨rfl, rfl, rfl⟩

theorem Coherent.receipt {connection : ConnectionId} {epoch : Epoch} {sequence : ℕ}
    (h : s.Coherent) : (s.receipt connection epoch sequence).Coherent := by
  unfold ClientSubscription.receipt
  split
  · have hsent : Coherent { s with
        outbox := s.outbox ++ [(connection, .receipt epoch sequence)] } := h.of_view rfl
    exact hsent.emit rfl
  · exact h

/-- A frame without a problem continues its epoch. -/
theorem Coherent.acceptFrame {connection : ConnectionId} {frame : DataFrame} (h : s.Coherent)
    (hattached : s.attached = some connection) (hawaiting : s.awaitingEpoch = false)
    (hepoch : s.epoch = some frame.epoch) (hsound : s.frameProblem frame = none) :
    (s.acceptFrame connection frame).Coherent := by
  obtain ⟨hinForce, hexpected, hepochRevision⟩ := h.accepted hawaiting
  unfold frameProblem at hsound
  have hsequence : frame.sequence = s.expectedSequence := by
    by_contra hgap
    rw [if_pos hgap] at hsound
    cases hsound
  rw [if_neg (by simp [hsequence])] at hsound
  have hcontract : ¬(frame.event.channel ≠ s.channel ∨
      frame.event.channelVersion ≠ s.channelVersion) := by
    intro hother
    rw [if_pos hother] at hsound
    cases hsound
  rw [if_neg hcontract] at hsound
  have hlength : (deliveriesSince s.trace).length + 1 = frame.sequence :=
    hexpected.symm.trans hsequence.symm
  have hordered : (∀ earlier ∈ revisions (deliveries s.trace), earlier ≤ frame.event.revision) ∧
      (∀ earlier ∈ revisions (deliveriesSince s.trace), earlier < frame.event.revision) ∧
      (deliveriesSince s.trace = [] → frame.event.kind = .snapshot) := by
    by_cases hfirst : frame.sequence = 1
    · have hnone : deliveriesSince s.trace = [] := by
        apply List.length_eq_zero_iff.mp
        omega
      rw [if_pos hfirst] at hsound
      have hkind : frame.event.kind = .snapshot := by
        by_contra hother
        rw [if_pos hother] at hsound
        cases hsound
      rw [if_neg (by simp [hkind])] at hsound
      refine ⟨?_, ?_, fun _ => hkind⟩
      · intro earlier hearlier
        obtain ⟨last, hlast, hle⟩ := exists_getLast_le h.ordered.monotone hearlier
        have hnewer : ¬frame.event.revision < last := by
          intro holder
          rw [h.latest, hlast, if_pos (by simpa using holder)] at hsound
          cases hsound
        exact hle.trans (Nat.le_of_not_lt hnewer)
      · rw [hnone]
        simp [revisions]
    · have hsome : deliveriesSince s.trace ≠ [] := by
        intro hnone
        rw [hnone] at hlength
        exact hfirst hlength.symm
      rw [if_neg hfirst] at hsound
      have hnewer : ∀ last, (revisions (deliveriesSince s.trace)).getLast? = some last →
          last < frame.event.revision := by
        intro last hlast
        apply Nat.lt_of_not_le
        intro holder
        rw [hepochRevision, hlast, if_pos (.inr (by simpa using holder))] at hsound
        cases hsound
      have hincreasing := h.ordered.increasing s.trace (List.prefix_refl s.trace)
      refine ⟨?_, ?_, fun hnone => absurd hnone hsome⟩
      · intro earlier hearlier
        obtain ⟨last, hlast, hle⟩ := exists_getLast_le h.ordered.monotone hearlier
        rw [getLast_deliveries hsome] at hlast
        exact hle.trans (hnewer last hlast).le
      · intro earlier hearlier
        obtain ⟨last, hlast, hle⟩ :=
          exists_getLast_le (hincreasing.imp fun hlt => hlt.le) hearlier
        exact hle.trans_lt (hnewer last hlast)
  obtain ⟨hmonotone, hincreasing, hsnapshot⟩ := hordered
  constructor
  · apply h.ordered.concat_delivered hmonotone hincreasing hsnapshot
    · exact h.bound.symm.trans hattached
    · exact hinForce.symm.trans hepoch
  · show (if s.lastRevision.all (· < frame.event.revision) then some frame.event.revision
      else s.lastRevision) = (revisions (deliveries (s.trace ++ [.delivered connection frame]))).getLast?
    rw [deliveries_concat, revisions, List.map_append]
    simp only [ClientObservation.delivery, Option.toList_some, List.map_cons, List.map_nil,
      List.getLast?_concat]
    split
    · rfl
    · case isFalse hkept =>
        cases hlast : s.lastRevision with
        | none => simp [hlast] at hkept
        | some last =>
            have hmem : last ∈ revisions (deliveries s.trace) := by
              apply List.mem_of_getLast?
              exact h.latest.symm.trans hlast
            have hle := hmonotone last hmem
            simp only [hlast, Option.all_some, decide_eq_true_eq, not_lt] at hkept
            rw [le_antisymm hle hkept]
  · show s.attached = binding (s.trace ++ [.delivered connection frame])
    rw [binding_concat]
    exact h.bound
  · intro _
    show s.epoch = epochInForce (s.trace ++ [.delivered connection frame]) ∧
      s.expectedSequence + 1 =
        (deliveriesSince (s.trace ++ [.delivered connection frame])).length + 1 ∧
      some frame.event.revision =
        (revisions (deliveriesSince (s.trace ++ [.delivered connection frame]))).getLast?
    rw [epochInForce_concat, deliveriesSince_concat]
    refine ⟨hinForce, ?_, ?_⟩
    · simp [hexpected]
    · simp [revisions]

section Events

variable {l : Listeners} (hl : Preserves Coherent l)

include hl

theorem Coherent.handleData {connection : ConnectionId} {frame : DataFrame} (h : s.Coherent) :
    (s.handleData l connection frame).Coherent := by
  unfold ClientSubscription.handleData
  split
  · exact h
  · case isFalse hheeded =>
      simp only [Bool.or_eq_true, decide_eq_true_eq, not_or, not_not] at hheeded
      obtain ⟨hopen, hattached⟩ := hheeded
      have hheard : (ClientSubscription.emit (.heard frame)
          { s with serverKnows := true }).Coherent := by
        have hknown : Coherent { s with serverKnows := true } := h.withState
        exact hknown.emit rfl
      dsimp only
      split
      · split
        · exact hheard.receipt
        · exact hheard
      · case isFalse hready =>
          simp only [not_or, not_not, Bool.not_eq_true] at hready
          obtain ⟨hawaiting, hepoch⟩ := hready
          split
          · exact hl.localSyncFailure robust_coherent hheard
          · case h_2 hsound =>
              have hnotified := hl.notify _ (hheard.acceptFrame hattached hawaiting hepoch hsound)
              split
              · case h_1 s' heq =>
                  rw [heq] at hnotified
                  exact hnotified
              · case h_2 s' heq =>
                  rw [heq] at hnotified
                  exact hnotified.receipt

end Events

/-- Every event, with whatever the listeners do. -/
theorem Coherent.step (h : s.Coherent) (input : ClientInput) : (s.step input).Coherent := by
  have hl := robust_coherent.listeners input.script.length
  have hscripted : Coherent { s with script := input.script } := h.of_view rfl
  rcases input with ⟨event, script⟩
  by_cases hdata : ∃ connection frame, event = .data connection frame
  · obtain ⟨connection, frame, rfl⟩ := hdata
    exact hscripted.handleData hl
  by_cases hstate : ∃ connection frame, event = .state connection frame
  · obtain ⟨connection, frame, rfl⟩ := hstate
    apply hl.handleState robust_coherent hscripted
    · intro _ _ _ _
      have hknown : Coherent { s with script := script, serverKnows := true } :=
        robust_coherent.know _ hscripted
      exact hknown.acceptEpoch.withState
    · intro _ _ _ _ _
      have hknown : Coherent { s with script := script, serverKnows := true, localFailures := 0 } :=
        ⟨h.ordered, h.latest, h.bound, h.accepted⟩
      exact (hknown.emit rfl).withState
  apply robust_coherent.handle hl hscripted
  · exact fun _ _ => trivial
  · exact fun connection frame hevent => hstate ⟨connection, frame, hevent⟩
  · exact fun connection frame hevent => hdata ⟨connection, frame, hevent⟩

theorem initial_coherent (channel : String) (channelVersion : ℕ) :
    (initial channel channelVersion).Coherent := by
  refine ⟨deliveredInOrder_nil, rfl, rfl, ?_⟩
  intro hawaiting
  cases hawaiting

/-- Whatever the peer sends and the listeners do, a subscription delivers in order. -/
theorem deliveredInOrder_after (channel : String) (channelVersion : ℕ) (inputs : List ClientInput) :
    DeliveredInOrder (machine.after (initial channel channelVersion) inputs).trace := by
  have hcoherent : (machine.after (initial channel channelVersion) inputs).Coherent := by
    apply Machine.invariant (m := machine) (P := Coherent)
    · exact fun s input h _ => h.step input
    · exact initial_coherent channel channelVersion
    · exact Machine.admits_of_allowed machine (fun _ _ => trivial) _ _
  exact hcoherent.ordered

end ClientSubscription

end StreamOtter
