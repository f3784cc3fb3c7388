import StreamOtter.InsertionMap
import Mathlib.Data.List.Dedup
import Mathlib.Data.List.Perm.Subperm

/-!
# Expiring caches

A map in insertion order whose entries expire a fixed time after they were set, and which
gives up its oldest entries above a capacity.  An entry that has not expired stays while
fewer other keys than the capacity are set after it.
-/

namespace StreamOtter

structure CacheEntry (κ ν : Type*) where
  key : κ
  value : ν
  expiresAt : ℕ

abbrev ExpiringCache (κ ν : Type*) := InsertionMap (@CacheEntry.key κ ν)

namespace ExpiringCache

variable {κ ν : Type*}

/-- Entries go from the front as long as they have expired. -/
def retire (now : ℕ) (c : ExpiringCache κ ν) : ExpiringCache κ ν :=
  ⟨c.values.dropWhile fun entry => entry.expiresAt ≤ now,
    ((List.dropWhile_suffix _).sublist.map CacheEntry.key).nodup c.distinct⟩

/-- The oldest entries go while there are more than the capacity. -/
def bound (capacity : ℕ) (c : ExpiringCache κ ν) : ExpiringCache κ ν :=
  ⟨c.values.drop (c.values.length - capacity),
    ((List.drop_sublist _ _).map CacheEntry.key).nodup c.distinct⟩

theorem length_bound (capacity : ℕ) (c : ExpiringCache κ ν) :
    (c.bound capacity).values.length ≤ capacity := by
  unfold bound
  rw [List.length_drop]
  omega

variable [DecidableEq κ]

def remember (capacity ttl now : ℕ) (key : κ) (value : ν) (c : ExpiringCache κ ν) :
    ExpiringCache κ ν :=
  bound capacity (((c.retire now).filter fun entry => entry.key ≠ key).set ⟨key, value, now + ttl⟩)

/-- The value of a key that has not expired. -/
def fresh (now : ℕ) (key : κ) (c : ExpiringCache κ ν) : Option ν :=
  ((c.get key).filter fun entry => now < entry.expiresAt).map CacheEntry.value

theorem length_remember (capacity ttl now : ℕ) (key : κ) (value : ν) (c : ExpiringCache κ ν) :
    (c.remember capacity ttl now key value).values.length ≤ capacity :=
  length_bound capacity _

/-- What is set appended, after what was there without what expired. -/
theorem values_set (now expiresAt : ℕ) (key : κ) (value : ν) (c : ExpiringCache κ ν) :
    (((c.retire now).filter fun entry => entry.key ≠ key).set ⟨key, value, expiresAt⟩).values =
      (c.retire now).values.filter (fun entry => entry.key ≠ key) ++
        [⟨key, value, expiresAt⟩] := by
  apply InsertionMap.values_set_of_get_none
  rw [InsertionMap.get_eq_none]
  intro entry hentry
  rw [InsertionMap.values_filter, List.mem_filter] at hentry
  exact of_decide_eq_true hentry.2

/-- An entry is present, and after it only entries of some keys. -/
def Holds (c : ExpiringCache κ ν) (entry : CacheEntry κ ν) (since : List κ) : Prop :=
  ∃ front back, c.values = front ++ entry :: back ∧ ∀ other ∈ back, other.key ∈ since

theorem Holds.get {c : ExpiringCache κ ν} {entry : CacheEntry κ ν} {since : List κ}
    (h : c.Holds entry since) : c.get entry.key = some entry := by
  obtain ⟨front, back, hvalues, -⟩ := h
  rw [InsertionMap.get_eq_some, hvalues]
  exact ⟨by simp, rfl⟩

theorem Holds.fresh {c : ExpiringCache κ ν} {entry : CacheEntry κ ν} {since : List κ}
    (h : c.Holds entry since) {now : ℕ} (hnow : now < entry.expiresAt) :
    c.fresh now entry.key = some entry.value := by
  unfold ExpiringCache.fresh
  rw [h.get, Option.filter_some, if_pos (decide_eq_true hnow), Option.map_some]

/-- What is remembered is present. -/
theorem holds_remember {capacity : ℕ} (hcapacity : 0 < capacity) (ttl now : ℕ) (key : κ)
    (value : ν) (c : ExpiringCache κ ν) (since : List κ) :
    (c.remember capacity ttl now key value).Holds ⟨key, value, now + ttl⟩ since := by
  unfold remember bound Holds
  dsimp only
  rw [values_set]
  generalize (c.retire now).values.filter (fun entry => entry.key ≠ key) = older
  refine ⟨older.drop (older.length + 1 - capacity), [], ?_, by simp⟩
  rw [List.length_append, List.length_singleton]
  exact List.drop_append_of_le_length (by omega)

omit [DecidableEq κ] in
theorem Holds.retire {c : ExpiringCache κ ν} {entry : CacheEntry κ ν} {since : List κ}
    (h : c.Holds entry since) {now : ℕ} (hnow : now < entry.expiresAt) :
    (c.retire now).Holds entry since := by
  obtain ⟨front, back, hvalues, hsince⟩ := h
  unfold ExpiringCache.retire Holds
  dsimp only
  rw [hvalues]
  clear hvalues
  induction front with
  | nil =>
      refine ⟨[], back, ?_, hsince⟩
      exact List.dropWhile_cons_of_neg (by simpa using hnow)
  | cons first rest ih =>
      by_cases hexpired : first.expiresAt ≤ now
      · rw [List.cons_append, List.dropWhile_cons_of_pos (by simpa using hexpired)]
        exact ih
      · refine ⟨first :: rest, back, ?_, hsince⟩
        rw [List.cons_append, List.dropWhile_cons_of_neg (by simpa using hexpired)]

/-- An entry stays when another key is remembered, if the keys after it leave it room. -/
theorem Holds.remember {c : ExpiringCache κ ν} {entry : CacheEntry κ ν} {since : List κ}
    (h : c.Holds entry since) {capacity ttl now : ℕ} {key : κ} {value : ν}
    (hnow : now < entry.expiresAt) (hkey : entry.key ≠ key) (hmem : key ∈ since)
    (hroom : (since.filter (· ≠ entry.key)).dedup.length < capacity) :
    (c.remember capacity ttl now key value).Holds entry since := by
  obtain ⟨front, back, hvalues, hsince⟩ := h.retire hnow
  set added := ((c.retire now).filter fun other => other.key ≠ key).set ⟨key, value, now + ttl⟩
    with hadded
  have hset : added.values =
      front.filter (fun other => other.key ≠ key) ++
        entry :: (back.filter (fun other => other.key ≠ key) ++ [⟨key, value, now + ttl⟩]) := by
    rw [hadded, values_set, hvalues, List.filter_append,
      List.filter_cons_of_pos (by simpa using hkey), List.append_assoc, List.cons_append]
  set newer := back.filter (fun other => other.key ≠ key) ++ [⟨key, value, now + ttl⟩] with hnewer
  have hkeys : ∀ other ∈ newer, other.key ∈ since := by
    intro other hother
    rw [hnewer, List.mem_append, List.mem_singleton] at hother
    rcases hother with hold | rfl
    · exact hsince other (List.mem_of_mem_filter hold)
    · exact hmem
  have hdistinct := added.distinct
  rw [hset, List.map_append, List.map_cons, List.nodup_append, List.nodup_cons] at hdistinct
  -- The keys after the entry are some of those that leave it room.
  have hlength : newer.length < capacity := by
    refine Nat.lt_of_le_of_lt ?_ hroom
    rw [← List.length_map CacheEntry.key]
    apply List.Subperm.length_le
    apply List.subperm_of_subset hdistinct.2.1.2
    intro other hother
    rw [List.mem_dedup, List.mem_filter]
    constructor
    · obtain ⟨e, he, rfl⟩ := List.mem_map.mp hother
      exact hkeys e he
    · refine decide_eq_true ?_
      rintro rfl
      exact hdistinct.2.1.1 hother
  have hdrop : (c.remember capacity ttl now key value).values =
      added.values.drop (added.values.length - capacity) := rfl
  rw [hset, List.drop_append_of_le_length] at hdrop
  · exact ⟨_, newer, hdrop, hkeys⟩
  · rw [List.length_append, List.length_cons]
    omega

end ExpiringCache

end StreamOtter
