import Mathlib.Data.List.Basic

/-!
# Chronological lists

A history is a list to which entries are appended.  `Historic P` says that every entry stood
in the relation `P` to the entries before it when it was appended, so that a fact about the
entry a step adds becomes a fact about every entry of every run.
-/

namespace StreamOtter

variable {α : Type*} {P : List α → α → Prop} {history : List α}

def Historic (P : List α → α → Prop) (history : List α) : Prop :=
  ∀ past entry rest, history = past ++ entry :: rest → P past entry

namespace Historic

theorem nil : Historic P [] := by
  intro past entry rest heq
  simp at heq

theorem concat (h : Historic P history) {entry : α} (hentry : P history entry) :
    Historic P (history ++ [entry]) := by
  intro past other rest heq
  rcases List.eq_nil_or_concat rest with rfl | ⟨before, last, rfl⟩
  · obtain ⟨rfl, hlast⟩ := List.append_inj' heq rfl
    obtain rfl : entry = other := by simpa using hlast
    exact hentry
  · have hfront : history ++ [entry] = (past ++ other :: before) ++ [last] := by
      simpa using heq
    exact h past other before (List.append_inj' hfront rfl).1

theorem singleton {entry : α} (hentry : P [] entry) : Historic P [entry] :=
  nil.concat hentry

end Historic

end StreamOtter
