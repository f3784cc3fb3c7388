import Mathlib.Data.Nat.Basic
import Mathlib.Algebra.Ring.Nat
import Mathlib.Data.List.Basic
import Mathlib.Tactic.Common

/-!
# Byte budgets

A subscription's reservations are charged at three levels: its own, its
connection's and the gateway's.  A reservation is made at every level or at none,
and a release never takes a level below zero (`Math.max(0, …)` is subtraction on
`ℕ`).  The levels above the subscription's are shared with other subscriptions.
-/

namespace StreamOtter

structure ByteBudget where
  limit : ℕ
  used : ℕ
  deriving DecidableEq, Repr

namespace ByteBudget

def HasRoom (budget : ByteBudget) (bytes : ℕ) : Prop :=
  budget.used + bytes ≤ budget.limit

instance (budget : ByteBudget) (bytes : ℕ) : Decidable (budget.HasRoom bytes) :=
  inferInstanceAs (Decidable (_ ≤ _))

def charge (budget : ByteBudget) (bytes : ℕ) : ByteBudget :=
  { budget with used := budget.used + bytes }

def release (budget : ByteBudget) (bytes : ℕ) : ByteBudget :=
  { budget with used := budget.used - bytes }

@[simp] theorem used_charge (budget : ByteBudget) (bytes : ℕ) :
    (budget.charge bytes).used = budget.used + bytes := rfl

@[simp] theorem used_release (budget : ByteBudget) (bytes : ℕ) :
    (budget.release bytes).used = budget.used - bytes := rfl

end ByteBudget

/-- A reservation that was made or a release; a release is clamped when a level, or the frame
count, had less than it returned. -/
inductive BudgetCall
  | reserve (bytes : ℕ)
  | release (bytes : ℕ) (clamped : Bool)
  deriving DecidableEq, Repr

/-- The frame count of a subscription and the byte levels above it.  The `calls` are not in
the source: they record the reservations and releases, in order. -/
structure SubscriptionBudget where
  maxFrames : ℕ
  frames : ℕ
  bytes : ByteBudget
  connection : ByteBudget
  gateway : ByteBudget
  calls : List BudgetCall
  deriving DecidableEq, Repr

namespace SubscriptionBudget

def tryReserve (budget : SubscriptionBudget) (bytes : ℕ) : Option SubscriptionBudget :=
  if budget.frames + 1 > budget.maxFrames then none
  else if budget.bytes.HasRoom bytes ∧ budget.connection.HasRoom bytes ∧
      budget.gateway.HasRoom bytes then
    some { budget with
      frames := budget.frames + 1
      bytes := budget.bytes.charge bytes
      connection := budget.connection.charge bytes
      gateway := budget.gateway.charge bytes
      calls := budget.calls ++ [.reserve bytes] }
  else none

/-- Whether `Math.max(0, …)` would take effect in a release. -/
def clamps (budget : SubscriptionBudget) (bytes : ℕ) : Bool :=
  budget.frames = 0 || budget.bytes.used < bytes || budget.connection.used < bytes ||
    budget.gateway.used < bytes

def release (budget : SubscriptionBudget) (bytes : ℕ) : SubscriptionBudget :=
  { budget with
    frames := budget.frames - 1
    bytes := budget.bytes.release bytes
    connection := budget.connection.release bytes
    gateway := budget.gateway.release bytes
    calls := budget.calls ++ [.release bytes (budget.clamps bytes)] }

def releaseAll (budget : SubscriptionBudget) (sizes : List ℕ) : SubscriptionBudget :=
  sizes.foldl release budget

/-- The subscription's own level holds exactly the frames of these sizes. -/
structure Holds (budget : SubscriptionBudget) (sizes : List ℕ) : Prop where
  frames : budget.frames = sizes.length
  used : budget.bytes.used = sizes.sum

theorem Holds.tryReserve {budget reserved : SubscriptionBudget} {sizes : List ℕ} {bytes : ℕ}
    (hholds : budget.Holds sizes) (hreserve : budget.tryReserve bytes = some reserved) :
    reserved.Holds (sizes ++ [bytes]) := by
  unfold SubscriptionBudget.tryReserve at hreserve
  split at hreserve
  · simp at hreserve
  · split at hreserve
    · simp only [Option.some.injEq] at hreserve
      subst hreserve
      constructor
      · simp [hholds.frames]
      · simp [hholds.used]
    · simp at hreserve

theorem Holds.perm {budget : SubscriptionBudget} {sizes sizes' : List ℕ}
    (hholds : budget.Holds sizes) (hperm : sizes.Perm sizes') : budget.Holds sizes' where
  frames := hholds.frames.trans hperm.length_eq
  used := hholds.used.trans hperm.sum_nat

theorem Holds.release {budget : SubscriptionBudget} {sizes : List ℕ} {bytes : ℕ}
    (hholds : budget.Holds (bytes :: sizes)) : (budget.release bytes).Holds sizes := by
  constructor
  · simp [SubscriptionBudget.release, hholds.frames]
  · simp [SubscriptionBudget.release, hholds.used]

/-- Releasing some of the held frames leaves the others. -/
theorem Holds.releaseAll_append {budget : SubscriptionBudget} {sizes rest : List ℕ}
    (hholds : budget.Holds (sizes ++ rest)) : (budget.releaseAll sizes).Holds rest := by
  induction sizes generalizing budget with
  | nil => exact hholds
  | cons bytes sizes ih => exact ih hholds.release

/-- Releasing every held frame empties the subscription's own level. -/
theorem Holds.releaseAll {budget : SubscriptionBudget} {sizes : List ℕ}
    (hholds : budget.Holds sizes) : (budget.releaseAll sizes).Holds [] := by
  rw [← List.append_nil sizes] at hholds
  exact hholds.releaseAll_append

/-! ## Accounts -/

/-- The sizes that were reserved, in order. -/
def reservedSizes (calls : List BudgetCall) : List ℕ :=
  calls.filterMap fun call =>
    match call with
    | .reserve bytes => some bytes
    | .release _ _ => none

/-- The sizes that were released, in order. -/
def releasedSizes (calls : List BudgetCall) : List ℕ :=
  calls.filterMap fun call =>
    match call with
    | .reserve _ => none
    | .release bytes _ => some bytes

/-- No release took more than there was. -/
def Unclamped (calls : List BudgetCall) : Prop := ∀ bytes, .release bytes true ∉ calls

/-- The levels of `base` with the frames of these sizes on top, within every limit.  What was
reserved was released or belongs to these frames, each once, and no release was clamped. -/
structure Charged (budget base : SubscriptionBudget) (sizes : List ℕ) : Prop where
  maxFrames : budget.maxFrames = base.maxFrames
  frames : budget.frames = base.frames + sizes.length
  bytes : budget.bytes = base.bytes.charge sizes.sum
  connection : budget.connection = base.connection.charge sizes.sum
  gateway : budget.gateway = base.gateway.charge sizes.sum
  framesWithin : budget.frames ≤ budget.maxFrames
  bytesWithin : budget.bytes.used ≤ budget.bytes.limit
  connectionWithin : budget.connection.used ≤ budget.connection.limit
  gatewayWithin : budget.gateway.used ≤ budget.gateway.limit
  accounted :
    (reservedSizes budget.calls).Perm (releasedSizes budget.calls ++ sizes)
  unclamped : Unclamped budget.calls

section Accounts

variable {base budget reserved : SubscriptionBudget} {sizes sizes' rest : List ℕ} {bytes : ℕ}

theorem Charged.perm (h : budget.Charged base sizes) (hperm : sizes.Perm sizes') :
    budget.Charged base sizes' where
  maxFrames := h.maxFrames
  frames := by rw [h.frames, hperm.length_eq]
  bytes := by rw [h.bytes, hperm.sum_nat]
  connection := by rw [h.connection, hperm.sum_nat]
  gateway := by rw [h.gateway, hperm.sum_nat]
  framesWithin := h.framesWithin
  bytesWithin := h.bytesWithin
  connectionWithin := h.connectionWithin
  gatewayWithin := h.gatewayWithin
  accounted := h.accounted.trans (hperm.append_left _)
  unclamped := h.unclamped

theorem tryReserve_eq_some (hreserve : budget.tryReserve bytes = some reserved) :
    budget.frames + 1 ≤ budget.maxFrames ∧ budget.bytes.HasRoom bytes ∧
      budget.connection.HasRoom bytes ∧ budget.gateway.HasRoom bytes ∧
      reserved =
        { budget with
          frames := budget.frames + 1
          bytes := budget.bytes.charge bytes
          connection := budget.connection.charge bytes
          gateway := budget.gateway.charge bytes
          calls := budget.calls ++ [.reserve bytes] } := by
  unfold SubscriptionBudget.tryReserve at hreserve
  split at hreserve
  · cases hreserve
  · case isFalse hframes =>
      split at hreserve
      · case isTrue hroom =>
          exact ⟨Nat.le_of_not_lt hframes, hroom.1, hroom.2.1, hroom.2.2,
            (Option.some.inj hreserve).symm⟩
      · cases hreserve

theorem Charged.tryReserve (h : budget.Charged base sizes)
    (hreserve : budget.tryReserve bytes = some reserved) :
    reserved.Charged base (bytes :: sizes) := by
  obtain ⟨hframes, hbytes, hconnection, hgateway, rfl⟩ := tryReserve_eq_some hreserve
  have hcharge : ∀ level : ByteBudget,
      (level.charge sizes.sum).charge bytes = level.charge (bytes :: sizes).sum := by
    intro level
    unfold ByteBudget.charge
    rw [List.sum_cons, Nat.add_assoc, Nat.add_comm sizes.sum]
  constructor
  · exact h.maxFrames
  · rw [h.frames, List.length_cons, Nat.add_assoc]
  · rw [h.bytes, hcharge]
  · rw [h.connection, hcharge]
  · rw [h.gateway, hcharge]
  · exact hframes
  · exact hbytes
  · exact hconnection
  · exact hgateway
  · simp only [reservedSizes, releasedSizes, List.filterMap_append, List.filterMap_cons,
      List.filterMap_nil, List.append_nil]
    refine (h.accounted.append_right [bytes]).trans ?_
    rw [List.append_assoc]
    exact (List.perm_append_comm).append_left _
  · intro bytes' hmem
    rcases List.mem_append.mp hmem with hold | hnew
    · exact h.unclamped bytes' hold
    · cases List.mem_singleton.mp hnew

theorem Charged.clamps (h : budget.Charged base (bytes :: sizes)) :
    budget.clamps bytes = false := by
  unfold SubscriptionBudget.clamps
  rw [h.bytes, h.connection, h.gateway, h.frames]
  simp only [ByteBudget.used_charge, List.length_cons, List.sum_cons, Bool.or_eq_false_iff]
  exact ⟨⟨⟨decide_eq_false (by omega), decide_eq_false (by omega)⟩, decide_eq_false (by omega)⟩,
    decide_eq_false (by omega)⟩

theorem Charged.release (h : budget.Charged base (bytes :: sizes)) :
    (budget.release bytes).Charged base sizes := by
  have hrelease : ∀ level : ByteBudget,
      (level.charge (bytes :: sizes).sum).release bytes = level.charge sizes.sum := by
    intro level
    unfold ByteBudget.charge ByteBudget.release
    rw [List.sum_cons]
    congr 1
    dsimp only
    omega
  have hwithin : ∀ level : ByteBudget, level.used ≤ level.limit →
      (level.release bytes).used ≤ (level.release bytes).limit :=
    fun level hle => Nat.le_trans (Nat.sub_le _ _) hle
  constructor
  · exact h.maxFrames
  · have hframes := h.frames
    rw [List.length_cons] at hframes
    show budget.frames - 1 = _
    omega
  · show budget.bytes.release bytes = _
    rw [h.bytes, hrelease]
  · show budget.connection.release bytes = _
    rw [h.connection, hrelease]
  · show budget.gateway.release bytes = _
    rw [h.gateway, hrelease]
  · exact Nat.le_trans (Nat.sub_le _ _) h.framesWithin
  · exact hwithin _ h.bytesWithin
  · exact hwithin _ h.connectionWithin
  · exact hwithin _ h.gatewayWithin
  · simp only [SubscriptionBudget.release, reservedSizes, releasedSizes, List.filterMap_append,
      List.filterMap_cons, List.filterMap_nil, List.append_nil, List.append_assoc,
      List.singleton_append]
    exact h.accounted
  · intro bytes' hmem
    rcases List.mem_append.mp hmem with hold | hnew
    · exact h.unclamped bytes' hold
    · rw [h.clamps] at hnew
      cases List.mem_singleton.mp hnew

/-- Releasing some of the frames leaves the others. -/
theorem Charged.releaseAll_append (h : budget.Charged base (sizes ++ rest)) :
    (budget.releaseAll sizes).Charged base rest := by
  induction sizes generalizing budget with
  | nil => exact h
  | cons bytes sizes ih => exact ih h.release

end Accounts

end SubscriptionBudget

end StreamOtter
