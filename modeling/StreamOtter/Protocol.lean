import Mathlib.Order.Defs.LinearOrder
import Mathlib.Data.Nat.Basic
import Mathlib.Algebra.Ring.Nat

/-!
# Wire vocabulary of protocol version 1

The parts of the state, data and error frames that the two ends of a
subscription read.  An event's identity, payload and receive time are carried
unread, so they are left out here.
-/

namespace StreamOtter

/-- A revision, read as the number its canonical decimal text denotes;
`compareRevisions` orders the texts numerically. -/
abbrev Revision := ℕ

/-- An epoch is an opaque generated ID.  Zero stands for the empty string of a
subscription that has not begun a capture; generated IDs are positive and fresh. -/
abbrev Epoch := ℕ

/-- The ID of a recovery boundary. -/
abbrev BoundaryId := ℕ

inductive SubscriptionState
  | idle | authorizing | synchronizing | live | stale | resyncRequired | failed | closed
  deriving DecidableEq, Repr

inductive ErrorCode
  | unauthenticated | forbidden | invalidParams | channelNotFound | channelVersionUnsupported
  | sourceUnavailable | invalidPayload | overloaded | resyncRequired | unsupportedCapability
  | invalidRequest | configInvalid | timeout | cancelled | clientClosed | handlerFailed
  | revisionConflict | traceCursorExpired | internal
  deriving DecidableEq, Repr

inductive EventKind
  | snapshot | update
  deriving DecidableEq, Repr

structure StreamEvent where
  channel : String
  channelVersion : ℕ
  kind : EventKind
  revision : Revision
  deriving DecidableEq, Repr

/-- A state frame of one subscription. -/
structure SubscriptionFrame where
  epoch : Epoch
  state : SubscriptionState
  reason : Option ErrorCode
  deriving DecidableEq, Repr

/-- A data frame of one subscription. -/
structure DataFrame where
  epoch : Epoch
  sequence : ℕ
  event : StreamEvent
  deriving DecidableEq, Repr

/-- `Number.MAX_SAFE_INTEGER`. -/
def maxSafeInteger : ℕ := 2 ^ 53 - 1

end StreamOtter
