import Mathlib.Algebra.BigOperators.Group.Finset.Basic
import Mathlib.Algebra.Order.BigOperators.Group.Finset
import Mathlib.Data.List.Sort
import Mathlib.Order.Basic

/-!
# A capped log of last uses

A log of times from which a limiter reads how many keys were used recently.  Each key has the
time of its last use, a key that is used again moves its entry, and only the newest entries are
kept.  While few entries are recent, the recent part of the log never has less than one entry
for each key that was used then.
-/

namespace RecentUses

variable {κ τ : Type*} {recent recent' : τ → Bool} {last last' : κ → Option τ} {log : List τ}

section Log

variable [DecidableEq τ]

/-- Each recent time is logged at least as often as keys were last used then. -/
def Covers (recent : τ → Bool) (last : κ → Option τ) (log : List τ) : Prop :=
  ∀ time, recent time → ∀ keys : Finset κ, (∀ key ∈ keys, last key = some time) →
    keys.card ≤ log.count time

/-- Fewer times are recent later on. -/
theorem Covers.shrink (h : Covers recent last log) (hfewer : ∀ time, recent' time → recent time) :
    Covers recent' last log :=
  fun time htime => h time (hfewer time htime)

/-- No key was used. -/
theorem covers_of_none (h : ∀ key, last key = none) : Covers recent last log := by
  intro time _ keys hkeys
  have hempty : keys = ∅ := by
    apply Finset.eq_empty_of_forall_notMem
    intro key hkey
    have hused := hkeys key hkey
    rw [h key] at hused
    cases hused
  rw [hempty]
  exact Nat.zero_le _

/-- The keys that were used recently are no more than the recent entries. -/
theorem Covers.card_le (h : Covers recent last log) {keys : Finset κ}
    (hkeys : ∀ key ∈ keys, ∃ time, last key = some time ∧ recent time) :
    keys.card ≤ (log.filter recent).length := by
  classical
  have hmaps : (keys : Set κ).MapsTo last
      ((log.filter recent).toFinset.map Function.Embedding.some) := by
    intro key hkey
    obtain ⟨time, hlast, hrecent⟩ := hkeys key hkey
    have hone : ({key} : Finset κ).card ≤ log.count time :=
      h time hrecent {key} (by simpa using hlast)
    rw [Finset.card_singleton] at hone
    have hmem : time ∈ log := List.count_pos_iff.mp hone
    simp [hlast, hmem, hrecent]
  calc keys.card
      = ∑ used ∈ (log.filter recent).toFinset.map Function.Embedding.some,
          (keys.filter fun key => last key = used).card :=
        Finset.card_eq_sum_card_fiberwise hmaps
    _ = ∑ time ∈ (log.filter recent).toFinset,
          (keys.filter fun key => last key = some time).card := Finset.sum_map _ _ _
    _ ≤ ∑ time ∈ (log.filter recent).toFinset, (log.filter recent).count time := by
        apply Finset.sum_le_sum
        intro time htime
        obtain ⟨-, hrecent⟩ : time ∈ log ∧ recent time := by simpa using htime
        rw [List.count_filter hrecent]
        exact h time hrecent _ fun key hkey => (Finset.mem_filter.mp hkey).2
    _ = (log.filter recent).length := List.sum_toFinset_count_eq_length _

/-- The log without one entry of a time. -/
def forget (used : Option τ) (log : List τ) : List τ :=
  match used with
  | none => log
  | some time => log.erase time

theorem forget_sublist (used : Option τ) (log : List τ) : (forget used log).Sublist log := by
  unfold forget
  cases used with
  | none => exact .refl _
  | some time => exact List.erase_sublist

variable [DecidableEq κ]

/-- Without its entry the log still covers the other keys. -/
theorem Covers.without (h : Covers recent last log) {key : κ}
    (hlast : ∀ other, other ≠ key → last' other = last other) (hkey : last' key = none) :
    Covers recent last' (forget (last key) log) := by
  intro time hrecent keys hkeys
  have hnotMem : key ∉ keys := by
    intro hmem
    have hused := hkeys key hmem
    rw [hkey] at hused
    cases hused
  have hothers : ∀ other ∈ keys, last other = some time := by
    intro other hother
    rw [← hlast other fun heq => hnotMem (heq ▸ hother)]
    exact hkeys other hother
  unfold forget
  cases hused : last key with
  | none => exact h time hrecent keys hothers
  | some used =>
      dsimp only
      by_cases hsame : used = time
      · subst hsame
        have hmore := h used hrecent (insert key keys) (by
          intro other hother
          rcases Finset.mem_insert.mp hother with rfl | hmem
          · exact hused
          · exact hothers other hmem)
        rw [Finset.card_insert_of_notMem hnotMem] at hmore
        rw [List.count_erase_self]
        omega
      · rw [List.count_erase_of_ne (Ne.symm hsame)]
        exact h time hrecent keys hothers

/-- A key that is used moves its entry to the end. -/
theorem Covers.use (h : Covers recent last log) {key : κ} {now : τ}
    (hlast : ∀ other, other ≠ key → last' other = last other) (hkey : last' key = some now) :
    Covers recent last' (forget (last key) log ++ [now]) := by
  have hwithout : Covers recent (Function.update last key none) (forget (last key) log) :=
    h.without (fun other hother => Function.update_of_ne hother _ _) (Function.update_self ..)
  intro time hrecent keys hkeys
  have hothers : ∀ other ∈ keys.erase key, Function.update last key none other = some time := by
    intro other hother
    obtain ⟨hne, hmem⟩ := Finset.mem_erase.mp hother
    rw [Function.update_of_ne hne, ← hlast other hne]
    exact hkeys other hmem
  have hle := hwithout time hrecent (keys.erase key) hothers
  rw [List.count_append]
  by_cases hmem : key ∈ keys
  · have hnow : now = time := Option.some.inj (hkey.symm.trans (hkeys key hmem))
    subst hnow
    rw [Finset.card_erase_of_mem hmem] at hle
    rw [List.count_singleton_self]
    omega
  · rw [Finset.erase_eq_of_notMem hmem] at hle
    omega

end Log

section Newest

variable [LinearOrder τ]

/-- In a sorted log, the newest entries are the recent ones, if those are few. -/
theorem count_newest {time : τ} (hsorted : log.Pairwise (· ≤ ·))
    (hupward : ∀ earlier later, earlier ≤ later → recent earlier → recent later) {limit : ℕ}
    (hfew : (log.filter recent).length ≤ limit) (hrecent : recent time) :
    (log.drop (log.length - limit)).count time = log.count time := by
  have hsplit : log.take (log.length - limit) ++ log.drop (log.length - limit) = log :=
    List.take_append_drop _ _
  have hnotMem : time ∉ log.take (log.length - limit) := by
    intro hmem
    rw [← hsplit, List.pairwise_append] at hsorted
    obtain ⟨-, -, hbefore⟩ := hsorted
    have hdropped : 0 < log.length - limit := by
      have hlength := List.length_pos_of_mem hmem
      rw [List.length_take] at hlength
      omega
    have hnewest : (log.drop (log.length - limit)).filter recent =
        log.drop (log.length - limit) := by
      apply List.filter_eq_self.mpr
      intro newer hnewer
      exact hupward time newer (hbefore time hmem newer hnewer) hrecent
    have hold : 0 < ((log.take (log.length - limit)).filter recent).length :=
      List.length_pos_of_mem (List.mem_filter.mpr ⟨hmem, hrecent⟩)
    rw [← hsplit, List.filter_append, List.length_append, hnewest, List.length_drop] at hfew
    omega
  calc (log.drop (log.length - limit)).count time
      = (log.take (log.length - limit)).count time +
          (log.drop (log.length - limit)).count time := by
        rw [List.count_eq_zero_of_not_mem hnotMem, Nat.zero_add]
    _ = log.count time := by rw [← List.count_append, hsplit]

/-- Keeping only the newest entries keeps the log's cover, if the recent ones are few. -/
theorem Covers.newest (h : Covers recent last log) (hsorted : log.Pairwise (· ≤ ·))
    (hupward : ∀ earlier later, earlier ≤ later → recent earlier → recent later) {limit : ℕ}
    (hfew : (log.filter recent).length ≤ limit) :
    Covers recent last (log.drop (log.length - limit)) := by
  intro time hrecent keys hkeys
  rw [count_newest hsorted hupward hfew hrecent]
  exact h time hrecent keys hkeys

end Newest

end RecentUses
