import Mathlib.Logic.Relation
import Mathlib.Data.List.Basic

/-!
# Input-driven machines

A machine has a total step function and a side condition saying in which states
an input may be taken.  A run is a list of inputs; it is admitted when every
input satisfies the side condition in the state it is taken in.  The rules here
turn facts about one step into facts about whole runs.
-/

namespace StreamOtter

structure Machine (State Input : Type*) where
  step : State → Input → State
  allowed : State → Input → Prop

namespace Machine

section Runs

variable {State Input : Type*}

/-- The state after a list of inputs. -/
def after (m : Machine State Input) (s : State) (inputs : List Input) : State :=
  inputs.foldl m.step s

/-- Every input is taken in a state that allows it. -/
def Admits (m : Machine State Input) (s : State) : List Input → Prop
  | [] => True
  | i :: inputs => m.allowed s i ∧ m.Admits (m.step s i) inputs

variable (m : Machine State Input)

@[simp] theorem after_nil (s : State) : m.after s [] = s := rfl

@[simp] theorem after_cons (s : State) (i : Input) (inputs : List Input) :
    m.after s (i :: inputs) = m.after (m.step s i) inputs := rfl

theorem after_append (s : State) (xs ys : List Input) :
    m.after s (xs ++ ys) = m.after (m.after s xs) ys := by
  simp [after, List.foldl_append]

@[simp] theorem after_concat (s : State) (xs : List Input) (i : Input) :
    m.after s (xs ++ [i]) = m.step (m.after s xs) i := by
  simp [after_append]

@[simp] theorem admits_nil (s : State) : m.Admits s [] := trivial

@[simp] theorem admits_cons (s : State) (i : Input) (inputs : List Input) :
    m.Admits s (i :: inputs) ↔ m.allowed s i ∧ m.Admits (m.step s i) inputs := Iff.rfl

theorem admits_append (s : State) (xs ys : List Input) :
    m.Admits s (xs ++ ys) ↔ m.Admits s xs ∧ m.Admits (m.after s xs) ys := by
  induction xs generalizing s with
  | nil => simp
  | cons x xs ih => simp [ih, and_assoc]

theorem admits_of_allowed (hallowed : ∀ s i, m.allowed s i) (s : State) (inputs : List Input) :
    m.Admits s inputs := by
  induction inputs generalizing s with
  | nil => trivial
  | cons i inputs ih => exact ⟨hallowed s i, ih (m.step s i)⟩

/-- `Admits` as a test, for machines whose side condition can be decided. -/
instance decidableAdmits [∀ s i, Decidable (m.allowed s i)] :
    (s : State) → (inputs : List Input) → Decidable (m.Admits s inputs)
  | _, [] => .isTrue trivial
  | s, i :: inputs =>
      have := decidableAdmits (m.step s i) inputs
      decidable_of_iff (m.allowed s i ∧ m.Admits (m.step s i) inputs) Iff.rfl

end Runs

variable {State Input : Type*} {m : Machine State Input}

/-- A property that every allowed step preserves holds after every admitted run. -/
theorem invariant {P : State → Prop}
    (hstep : ∀ s i, P s → m.allowed s i → P (m.step s i))
    {s : State} {inputs : List Input} (hs : P s) (hrun : m.Admits s inputs) :
    P (m.after s inputs) := by
  induction inputs generalizing s with
  | nil => exact hs
  | cons i inputs ih => exact ih (hstep s i hs hrun.1) hrun.2

/-- A reflexive and transitive relation that every allowed step respects, from
states satisfying an invariant, relates the two ends of every admitted run. -/
theorem related {P : State → Prop} {R : State → State → Prop}
    (hrefl : ∀ s, R s s) (htrans : ∀ a b c, R a b → R b c → R a c)
    (hinv : ∀ s i, P s → m.allowed s i → P (m.step s i))
    (hstep : ∀ s i, P s → m.allowed s i → R s (m.step s i))
    {s : State} {inputs : List Input} (hs : P s) (hrun : m.Admits s inputs) :
    R s (m.after s inputs) := by
  induction inputs generalizing s with
  | nil => exact hrefl s
  | cons i inputs ih =>
      exact htrans _ _ _ (hstep s i hs hrun.1) (ih (hinv s i hs hrun.1) hrun.2)

/-- Strengthening the side condition only removes runs. -/
theorem Admits.mono {m' : Machine State Input} (hstep : m'.step = m.step)
    (hallowed : ∀ s i, m.allowed s i → m'.allowed s i)
    {s : State} {inputs : List Input} (hrun : m.Admits s inputs) :
    m'.Admits s inputs := by
  induction inputs generalizing s with
  | nil => trivial
  | cons i inputs ih =>
      refine ⟨hallowed s i hrun.1, ?_⟩
      rw [hstep]
      exact ih hrun.2

end Machine

end StreamOtter
