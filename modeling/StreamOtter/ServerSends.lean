import StreamOtter.ServerRun

/-!
# Sends that may tear the session down

A send checks whether the client is stalled, and a stalled client's session is torn
down inside the send, which disposes the subscription.  A predicate that survives the
few changes involved survives every send.
-/

namespace StreamOtter

/-- A frame handed to the transport. -/
def Observation.isSend : Observation → Bool
  | .state _ | .data _ | .error _ _ => true
  | _ => false

namespace ServerSubscription

/-- A predicate that survives what a send can do. -/
structure Stable (P : ServerSubscription → Prop) : Prop where
  publish : ∀ s state, P s → P (s.publish state)
  emit : ∀ s o, o.isSend = true → P s → P (s.emit o)
  expire : ∀ s expiring, P s → P { s with expiring := expiring }
  close : ∀ s, P s → P { s with sessionClosed := true }
  dispose : ∀ s, P s → P s.dispose
  remove : ∀ s, P s → P s.remove

namespace Stable

variable {P : ServerSubscription → Prop} (hP : Stable P) {s : ServerSubscription}
  {limits : Limits} {readings : Readings} {site : SendSite}

include hP

theorem teardown (hs : P s) : P s.teardown := by
  have hclosed := hP.close s hs
  unfold ServerSubscription.teardown
  split
  · exact hs
  · dsimp only
    split
    · apply hP.remove
      apply hP.dispose
      exact hclosed
    · exact hclosed

theorem checkStalled (hs : P s) : P (s.checkStalled limits readings site) := by
  unfold ServerSubscription.checkStalled
  split
  · exact hs
  · split
    · exact hs
    · exact hP.teardown hs

theorem sendState {state : SubscriptionState} {reason : Option ErrorCode} (hs : P s) :
    P (s.sendState limits readings site state reason) := by
  have hchecked : P ((s.publish state).checkStalled limits readings site) := by
    apply hP.checkStalled
    apply hP.publish
    exact hs
  unfold ServerSubscription.sendState
  dsimp only
  split
  · exact hchecked
  · exact hP.emit _ _ rfl hchecked

theorem sendError {code : ErrorCode} (hs : P s) : P (s.sendError limits readings site code) := by
  have hchecked : P (s.checkStalled limits readings site) := hP.checkStalled hs
  unfold ServerSubscription.sendError
  dsimp only
  split
  · exact hchecked
  · exact hP.emit _ _ rfl hchecked

theorem sendData {frame : DataFrame} (hs : P s) : P (s.sendData frame) := by
  unfold ServerSubscription.sendData
  split
  · exact hs
  · exact hP.emit _ _ rfl hs

theorem canDeliver (hs : P s) : P (s.canDeliver limits readings site).1 := by
  have hchecked : P (s.checkStalled limits readings site) := hP.checkStalled hs
  unfold ServerSubscription.canDeliver
  dsimp only
  split
  · exact hchecked
  · split
    · exact hP.expire _ true hchecked
    · exact hchecked

end Stable

/-- A stall check with room in the client's buffer changes nothing. -/
theorem checkStalled_room {limits : Limits} {readings : Readings} {site : SendSite}
    {s : ServerSubscription}
    (hroom : readings.bufferedBytes site ≤ limits.maxPendingBytesPerConnection) :
    s.checkStalled limits readings site = s := by
  simp [checkStalled, hroom]

theorem teardown_closed (s : ServerSubscription) : s.teardown.sessionClosed = true := by
  unfold teardown
  split
  · assumption
  · dsimp only
    split
    · show ServerSubscription.sessionClosed (ServerSubscription.dispose _) = true
      unfold dispose
      split <;> rfl
    · rfl

/-- A stall check that leaves the session open changes nothing. -/
theorem checkStalled_open {limits : Limits} {readings : Readings} {site : SendSite}
    {s : ServerSubscription}
    (hopen : (s.checkStalled limits readings site).sessionClosed = false) :
    s.checkStalled limits readings site = s := by
  unfold checkStalled at hopen ⊢
  split
  · rfl
  · case isFalse hnotClosed =>
      rw [if_neg hnotClosed] at hopen
      split
      · rfl
      · case isFalse hstalled =>
          rw [if_neg hstalled, teardown_closed] at hopen
          cases hopen

/-- A delivery is granted only to the subscription as it stands. -/
theorem canDeliver_granted {limits : Limits} {readings : Readings} {site : SendSite}
    {s s' : ServerSubscription} (hgranted : s.canDeliver limits readings site = (s', true)) :
    s' = s ∧ s.sessionClosed = false := by
  unfold canDeliver at hgranted
  dsimp only at hgranted
  split at hgranted
  · cases hgranted
  · case isFalse hopen =>
      split at hgranted
      · cases hgranted
      · have hsame : s.checkStalled limits readings site = s' := congrArg Prod.fst hgranted
        rw [checkStalled_open (Bool.eq_false_iff.mpr hopen)] at hsame hopen
        exact ⟨hsame.symm, Bool.eq_false_iff.mpr hopen⟩

end ServerSubscription

end StreamOtter
