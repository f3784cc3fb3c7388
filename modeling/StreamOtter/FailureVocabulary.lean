import StreamOtter.Protocol
import Mathlib.Data.List.Basic

/-!
# Vocabulary of source failures

The classes, policies and positions that the record pipeline, the incident store,
the failure service and the operator service share.
-/

namespace StreamOtter

inductive FailureClass
  | invalidJson | payloadSchema | mapperTransient | mapperError | mapperTimeout
  | routingInvalid | revisionConflict | tombstone | oversize
  deriving DecidableEq, Repr

/-- `QUARANTINE_ELIGIBLE_CLASSES`: the only classes a quarantine policy may apply to. -/
def quarantineEligibleClasses : List FailureClass := [.invalidJson, .payloadSchema]

def FailureClass.Eligible (failureClass : FailureClass) : Prop :=
  failureClass ∈ quarantineEligibleClasses

instance (failureClass : FailureClass) : Decidable failureClass.Eligible :=
  inferInstanceAs (Decidable (_ ∈ _))

@[simp] theorem FailureClass.eligible_iff (failureClass : FailureClass) :
    failureClass.Eligible ↔ failureClass = .invalidJson ∨ failureClass = .payloadSchema := by
  simp [FailureClass.Eligible, quarantineEligibleClasses]

inductive FailurePolicy
  | pause | quarantineHold | quarantineResync
  deriving DecidableEq, Repr

inductive Stage
  | validate | map | queue
  deriving DecidableEq, Repr

/-- `SourceRecord["position"]`; an offset is the number its decimal text denotes. -/
inductive Position
  | kafka (topic : String) (partition : ℕ) (offset : ℕ)
  | fixture (index : ℕ)
  deriving DecidableEq, Repr

end StreamOtter
