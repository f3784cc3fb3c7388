import Mathlib.Data.List.Perm.Subperm
import Mathlib.Data.List.Nodup

/-!
# Counting semaphores

A semaphore grants permits to tickets.  A waiter is granted the permit of a release, the
oldest first, or leaves.  A ledger follows every ticket: from its request to the value its
promise resolves to, from there to its resumption, and a permit from its grant to its release.
-/

namespace StreamOtter

structure Semaphore (α : Type*) where
  available : ℕ
  /-- Oldest first. -/
  waiters : List α
  deriving DecidableEq, Repr

namespace Semaphore

variable {α : Type*}

/-- What becomes of a request at once: it is granted, refused or has to wait. -/
def acquire (aborted late : Bool) (ticket : α) (s : Semaphore α) : Semaphore α × Option Bool :=
  if aborted || late then (s, some false)
  else if 0 < s.available then ({ s with available := s.available - 1 }, some true)
  else ({ s with waiters := s.waiters ++ [ticket] }, none)

/-- A permit is returned, or handed to the oldest waiter. -/
def release (s : Semaphore α) : Semaphore α × Option α :=
  match s.waiters with
  | next :: rest => ({ s with waiters := rest }, some next)
  | [] => ({ s with available := s.available + 1 }, none)

end Semaphore

/-- A semaphore with the tickets it has seen. -/
structure Ledger (α : Type*) where
  semaphore : Semaphore α
  /-- Tickets whose request is decided and that have not resumed. -/
  settled : List (α × Bool)
  /-- Tickets that resumed with a permit. -/
  running : List α
  granted : List α
  released : List α
  refused : List α
  deriving DecidableEq, Repr

namespace Ledger

variable {α : Type*}

def initial (permits : ℕ) : Ledger α := ⟨⟨permits, []⟩, [], [], [], [], []⟩

def settle (ticket : α) (acquired : Bool) (l : Ledger α) : Ledger α :=
  { l with
    settled := l.settled ++ [(ticket, acquired)]
    granted := if acquired then l.granted ++ [ticket] else l.granted
    refused := if acquired then l.refused else l.refused ++ [ticket] }

def request (aborted late : Bool) (ticket : α) (l : Ledger α) : Ledger α :=
  match l.semaphore.acquire aborted late ticket with
  | (semaphore, none) => { l with semaphore := semaphore }
  | (semaphore, some acquired) => { l with semaphore := semaphore }.settle ticket acquired

def release (ticket : α) (l : Ledger α) : Ledger α :=
  match l.semaphore.release with
  | (semaphore, none) =>
      { l with
        semaphore := semaphore
        released := l.released ++ [ticket] }
  | (semaphore, some next) =>
      { l with
        semaphore := semaphore
        released := l.released ++ [ticket] }.settle next true

/-- Some waiters leave without a permit. -/
def drop (leaving : α → Bool) (l : Ledger α) : Ledger α :=
  { l with
    semaphore := { l.semaphore with waiters := l.semaphore.waiters.filter fun t => !leaving t }
    settled := l.settled ++ (l.semaphore.waiters.filter leaving).map fun t => (t, false)
    refused := l.refused ++ l.semaphore.waiters.filter leaving }

section Resumption

variable [DecidableEq α]

/-- A decided ticket resumes; one that does not go on gives its permit back at once. -/
def resume (ticket : α) (acquired goesOn : Bool) (l : Ledger α) : Ledger α :=
  let l := { l with settled := l.settled.erase (ticket, acquired) }
  if !acquired then l
  else if goesOn then { l with running := l.running ++ [ticket] }
  else l.release ticket

/-- A ticket that resumed with a permit is done. -/
def finish (ticket : α) (l : Ledger α) : Ledger α :=
  { l with running := l.running.erase ticket }.release ticket

end Resumption

/-- The tickets that were granted a permit and have not resumed. -/
def acquired (l : Ledger α) : List α := (l.settled.filter Prod.snd).map Prod.fst

/-- The tickets that hold a permit. -/
def holders (l : Ledger α) : List α := l.acquired ++ l.running

/-- The tickets that have not resumed. -/
def awaiting (l : Ledger α) : List α := l.semaphore.waiters ++ l.settled.map Prod.fst

/-- All tickets. -/
def tickets (l : Ledger α) : List α := l.granted ++ (l.refused ++ l.semaphore.waiters)

/-- Permits are held or free, and nobody waits for a free one.  Every permit that was granted is
held or was released once, and no ticket is granted one and refused.  The permits of `extra`
are in hand to be released. -/
structure Balanced (maximum : ℕ) (extra : List α) (l : Ledger α) : Prop where
  level : l.semaphore.available + (extra ++ l.holders).length = maximum
  idle : l.semaphore.waiters ≠ [] → l.semaphore.available = 0
  grants : l.granted.Perm (l.released ++ (extra ++ l.holders))
  distinct : l.tickets.Nodup

variable {maximum : ℕ} {extra : List α} {l : Ledger α} {ticket : α}

theorem initial_balanced (permits : ℕ) : (initial permits : Ledger α).Balanced permits [] where
  level := rfl
  idle := fun h => absurd rfl h
  grants := List.Perm.refl _
  distinct := List.nodup_nil

theorem acquired_settle (acquired : Bool) :
    (l.settle ticket acquired).acquired = l.acquired ++ if acquired then [ticket] else [] := by
  cases acquired <;> simp [settle, Ledger.acquired]

/-- A ticket is decided that waited, or had just asked. -/
theorem tickets_settle (acquired : Bool) :
    (l.settle ticket acquired).tickets.Perm (ticket :: l.tickets) := by
  cases acquired
  · show (l.granted ++ ((l.refused ++ [ticket]) ++ l.semaphore.waiters)).Perm _
    rw [List.append_assoc, ← List.append_assoc l.granted]
    refine List.perm_middle.trans ?_
    rw [tickets, List.append_assoc]
    rfl
  · show ((l.granted ++ [ticket]) ++ (l.refused ++ l.semaphore.waiters)).Perm _
    rw [List.append_assoc]
    exact List.perm_middle

/-- A permit nobody waits for is free again. -/
theorem release_of_nil (hwaiters : l.semaphore.waiters = []) :
    l.release ticket = { l with
      semaphore := { l.semaphore with available := l.semaphore.available + 1 }
      released := l.released ++ [ticket] } := by
  have hfreed : l.semaphore.release =
      ({ l.semaphore with available := l.semaphore.available + 1 }, none) := by
    simp only [Semaphore.release, hwaiters]
  rw [Ledger.release, hfreed]

/-- The oldest waiter is granted the permit. -/
theorem release_of_cons {next : α} {rest : List α} (hwaiters : l.semaphore.waiters = next :: rest) :
    l.release ticket = Ledger.settle next true { l with
      semaphore := { l.semaphore with waiters := rest }
      released := l.released ++ [ticket] } := by
  have hhanded : l.semaphore.release = ({ l.semaphore with waiters := rest }, some next) := by
    rw [Semaphore.release, hwaiters]
  rw [Ledger.release, hhanded]

theorem awaiting_release : (l.release ticket).awaiting.Perm l.awaiting := by
  cases hwaiters : l.semaphore.waiters with
  | nil =>
      rw [release_of_nil hwaiters]
      rfl
  | cons next rest =>
      rw [release_of_cons hwaiters]
      show (rest ++ (l.settled ++ [(next, true)]).map Prod.fst).Perm _
      rw [awaiting, hwaiters, List.map_append, ← List.append_assoc]
      exact List.perm_append_singleton _ _

theorem running_release : (l.release ticket).running = l.running := by
  cases hwaiters : l.semaphore.waiters with
  | nil => rw [release_of_nil hwaiters]
  | cons next rest =>
      rw [release_of_cons hwaiters]
      rfl

theorem tickets_release : (l.release ticket).tickets.Perm l.tickets := by
  cases hwaiters : l.semaphore.waiters with
  | nil =>
      rw [release_of_nil hwaiters]
      rfl
  | cons next rest =>
      rw [release_of_cons hwaiters]
      refine (tickets_settle true).trans ?_
      show (next :: (l.granted ++ (l.refused ++ rest))).Perm _
      rw [tickets, hwaiters, ← List.append_assoc, ← List.append_assoc]
      exact List.perm_middle.symm

theorem waiters_release : (l.release ticket).semaphore.waiters ⊆ l.semaphore.waiters := by
  cases hwaiters : l.semaphore.waiters with
  | nil =>
      rw [release_of_nil hwaiters]
      exact fun t ht => hwaiters ▸ ht
  | cons next rest =>
      rw [release_of_cons hwaiters]
      exact List.subset_cons_self next rest

/-- A permit in hand is returned, or handed over. -/
theorem Balanced.release (h : l.Balanced maximum (ticket :: extra)) :
    (l.release ticket).Balanced maximum extra := by
  have hlevel := h.level
  rw [List.cons_append, List.length_cons] at hlevel
  have hgrants : l.granted.Perm ((l.released ++ [ticket]) ++ (extra ++ l.holders)) := by
    rw [List.append_assoc]
    exact h.grants
  have hdistinct : (l.release ticket).tickets.Nodup := tickets_release.nodup_iff.mpr h.distinct
  cases hwaiters : l.semaphore.waiters with
  | nil =>
      rw [release_of_nil hwaiters] at hdistinct ⊢
      refine ⟨?_, fun hwaiting => absurd hwaiters hwaiting, hgrants, hdistinct⟩
      show l.semaphore.available + 1 + (extra ++ l.holders).length = maximum
      omega
  | cons next rest =>
      have hnone : l.semaphore.available = 0 := h.idle (by rw [hwaiters]; exact List.cons_ne_nil _ _)
      rw [release_of_cons hwaiters] at hdistinct ⊢
      set handed : Ledger α := { l with
        semaphore := { l.semaphore with waiters := rest }
        released := l.released ++ [ticket] }
      have hholders : (handed.settle next true).holders.Perm (next :: l.holders) := by
        rw [holders, acquired_settle, if_pos rfl, List.append_assoc]
        exact List.perm_middle
      have hall : (extra ++ (handed.settle next true).holders).Perm (next :: (extra ++ l.holders)) :=
        (hholders.append_left extra).trans List.perm_middle
      refine ⟨?_, fun _ => hnone, ?_, hdistinct⟩
      · show l.semaphore.available + _ = maximum
        rw [hall.length_eq, List.length_cons]
        omega
      · show (l.granted ++ [next]).Perm ((l.released ++ [ticket]) ++ _)
        calc List.Perm (l.granted ++ [next]) (next :: l.granted) := List.perm_append_singleton _ _
          List.Perm _ (next :: ((l.released ++ [ticket]) ++ (extra ++ l.holders))) :=
            hgrants.cons next
          List.Perm _ ((l.released ++ [ticket]) ++ (next :: (extra ++ l.holders))) :=
            List.perm_middle.symm
          List.Perm _ ((l.released ++ [ticket]) ++ (extra ++ (handed.settle next true).holders)) :=
            hall.symm.append_left _

/-! ### Requests -/

theorem running_request {aborted late : Bool} : (l.request aborted late ticket).running = l.running := by
  unfold request Semaphore.acquire
  split_ifs <;> rfl

theorem awaiting_request {aborted late : Bool} :
    (l.request aborted late ticket).awaiting.Perm (ticket :: l.awaiting) := by
  unfold request Semaphore.acquire
  split_ifs
  · show (l.semaphore.waiters ++ (l.settled ++ [(ticket, false)]).map Prod.fst).Perm _
    rw [List.map_append, ← List.append_assoc]
    exact List.perm_append_singleton _ _
  · show (l.semaphore.waiters ++ (l.settled ++ [(ticket, true)]).map Prod.fst).Perm _
    rw [List.map_append, ← List.append_assoc]
    exact List.perm_append_singleton _ _
  · show ((l.semaphore.waiters ++ [ticket]) ++ l.settled.map Prod.fst).Perm _
    rw [List.append_assoc]
    exact List.perm_middle

theorem tickets_request {aborted late : Bool} :
    (l.request aborted late ticket).tickets.Perm (ticket :: l.tickets) := by
  unfold request Semaphore.acquire
  split_ifs
  · exact tickets_settle false
  · exact tickets_settle true
  · show (l.granted ++ (l.refused ++ (l.semaphore.waiters ++ [ticket]))).Perm _
    rw [← List.append_assoc, ← List.append_assoc, tickets, ← List.append_assoc]
    exact List.perm_append_singleton _ _

/-- Only a request that is not aborted has to wait. -/
theorem waiters_request {aborted late : Bool} {t : α}
    (ht : t ∈ (l.request aborted late ticket).semaphore.waiters) :
    t ∈ l.semaphore.waiters ∨ t = ticket ∧ aborted = false := by
  revert ht
  unfold request Semaphore.acquire
  split_ifs with hrefused
  · exact .inl
  · exact .inl
  · intro ht
    rcases List.mem_append.mp ht with hold | hnew
    · exact .inl hold
    · refine .inr ⟨List.mem_singleton.mp hnew, ?_⟩
      cases aborted
      · rfl
      · exact absurd rfl hrefused

/-- A request is refused or granted at once, or waits while every permit is held. -/
theorem Balanced.request {aborted late : Bool} (h : l.Balanced maximum extra)
    (hnew : ticket ∉ l.tickets) : (l.request aborted late ticket).Balanced maximum extra := by
  have hdistinct : (l.request aborted late ticket).tickets.Nodup :=
    tickets_request.nodup_iff.mpr (List.nodup_cons.mpr ⟨hnew, h.distinct⟩)
  have hlevel := h.level
  revert hdistinct
  unfold Ledger.request Semaphore.acquire
  split_ifs with hrefused havailable
  · intro hdistinct
    have hsame : (Ledger.settle ticket false l).holders = l.holders := by
      rw [holders, acquired_settle, if_neg Bool.false_ne_true, List.append_nil]
      rfl
    refine ⟨?_, h.idle, ?_, hdistinct⟩
    · show l.semaphore.available + (extra ++ (Ledger.settle ticket false l).holders).length = _
      rw [hsame]
      exact h.level
    · show l.granted.Perm (l.released ++ (extra ++ (Ledger.settle ticket false l).holders))
      rw [hsame]
      exact h.grants
  · intro hdistinct
    set taken : Ledger α := { l with
      semaphore := { l.semaphore with available := l.semaphore.available - 1 } }
    have hholders : (extra ++ (taken.settle ticket true).holders).Perm
        (ticket :: (extra ++ l.holders)) := by
      refine List.Perm.trans (List.Perm.append_left extra ?_) List.perm_middle
      rw [holders, acquired_settle, if_pos rfl, List.append_assoc]
      exact List.perm_middle
    refine ⟨?_, fun hwaiting => ?_, ?_, hdistinct⟩
    · show l.semaphore.available - 1 + _ = maximum
      rw [hholders.length_eq, List.length_cons]
      omega
    · have hnone := h.idle hwaiting
      omega
    · show (l.granted ++ [ticket]).Perm (l.released ++ _)
      calc List.Perm (l.granted ++ [ticket]) (ticket :: l.granted) :=
            List.perm_append_singleton _ _
        List.Perm _ (ticket :: (l.released ++ (extra ++ l.holders))) := h.grants.cons ticket
        List.Perm _ (l.released ++ (ticket :: (extra ++ l.holders))) := List.perm_middle.symm
        List.Perm _ (l.released ++ (extra ++ (taken.settle ticket true).holders)) :=
          hholders.symm.append_left _
  · intro hdistinct
    exact ⟨h.level, fun _ => Nat.eq_zero_of_not_pos havailable, h.grants, hdistinct⟩

/-! ### Waiters that leave -/

theorem awaiting_drop {leaving : α → Bool} : (l.drop leaving).awaiting.Perm l.awaiting := by
  have hsplit := List.filter_append_perm leaving l.semaphore.waiters
  show ((l.semaphore.waiters.filter fun t => !leaving t) ++
    (l.settled ++ (l.semaphore.waiters.filter leaving).map fun t => (t, false)).map Prod.fst).Perm _
  have hleft : ((l.semaphore.waiters.filter leaving).map fun t => (t, false)).map Prod.fst =
      l.semaphore.waiters.filter leaving := by
    rw [List.map_map]
    exact List.map_id _
  rw [List.map_append, hleft, ← List.append_assoc]
  refine List.perm_append_comm.trans ?_
  rw [← List.append_assoc]
  exact hsplit.append_right _

theorem tickets_drop {leaving : α → Bool} : (l.drop leaving).tickets.Perm l.tickets := by
  have hsplit := List.filter_append_perm leaving l.semaphore.waiters
  show (l.granted ++ ((l.refused ++ l.semaphore.waiters.filter leaving) ++
    l.semaphore.waiters.filter fun t => !leaving t)).Perm _
  rw [List.append_assoc]
  exact (hsplit.append_left _).append_left _

theorem waiters_drop {leaving : α → Bool} {t : α} :
    t ∈ (l.drop leaving).semaphore.waiters ↔ t ∈ l.semaphore.waiters ∧ leaving t = false := by
  simp [drop]

theorem Balanced.drop (h : l.Balanced maximum extra) (leaving : α → Bool) :
    (l.drop leaving).Balanced maximum extra := by
  have hsame : (l.drop leaving).holders = l.holders := by
    have hrefused : (((l.semaphore.waiters.filter leaving).map fun t => (t, false)).filter
        Prod.snd) = [] := by
      apply List.filter_eq_nil_iff.mpr
      intro entry hentry
      obtain ⟨t, -, rfl⟩ := List.mem_map.mp hentry
      exact Bool.false_ne_true
    show ((l.settled ++ _).filter Prod.snd).map Prod.fst ++ l.running = _
    rw [List.filter_append, hrefused, List.append_nil]
    rfl
  refine ⟨?_, fun hwaiting => ?_, ?_, tickets_drop.nodup_iff.mpr h.distinct⟩
  · rw [hsame]
    exact h.level
  · apply h.idle
    intro hnone
    apply hwaiting
    show (l.semaphore.waiters.filter fun t => !leaving t) = []
    rw [hnone]
    rfl
  · rw [hsame]
    exact h.grants

/-! ### Resumption -/

variable [DecidableEq α]

/-- A decided ticket resumes: a permit it was granted is in hand. -/
theorem Balanced.taken {acquired : Bool} (h : l.Balanced maximum extra)
    (hmem : (ticket, acquired) ∈ l.settled) :
    Balanced maximum ((if acquired then [ticket] else []) ++ extra)
      { l with settled := l.settled.erase (ticket, acquired) } := by
  have hsettled := List.perm_cons_erase hmem
  have hacquired : l.acquired.Perm ((if acquired then [ticket] else []) ++
      Ledger.acquired { l with settled := l.settled.erase (ticket, acquired) }) := by
    have hfiltered := (hsettled.filter Prod.snd).map Prod.fst
    refine hfiltered.trans ?_
    cases acquired
    · rfl
    · rfl
  have hheld : (extra ++ l.holders).Perm (((if acquired then [ticket] else []) ++ extra) ++
      Ledger.holders { l with settled := l.settled.erase (ticket, acquired) }) := by
    refine ((hacquired.append_right l.running).append_left extra).trans ?_
    rw [List.append_assoc, List.append_assoc, ← List.append_assoc]
    refine (List.perm_append_comm.append_right _).trans ?_
    rw [List.append_assoc]
    rfl
  refine ⟨?_, h.idle, ?_, h.distinct⟩
  · rw [← hheld.length_eq]
    exact h.level
  · exact h.grants.trans (hheld.append_left _)

/-- The resumed ticket holds its permit, or gives it back. -/
theorem Balanced.resume {acquired goesOn : Bool} (h : l.Balanced maximum extra)
    (hmem : (ticket, acquired) ∈ l.settled) :
    (l.resume ticket acquired goesOn).Balanced maximum extra := by
  have htaken := h.taken hmem
  unfold Ledger.resume
  cases acquired
  · exact htaken
  · cases goesOn
    · exact Balanced.release htaken
    · set taken : Ledger α := { l with settled := l.settled.erase (ticket, true) }
      have hheld : (extra ++ Ledger.holders { taken with running := taken.running ++ [ticket] }).Perm
          ((ticket :: extra) ++ taken.holders) := by
        refine List.Perm.trans (List.Perm.append_left extra ?_) List.perm_middle
        show (taken.acquired ++ (taken.running ++ [ticket])).Perm (ticket :: taken.holders)
        rw [← List.append_assoc]
        exact List.perm_append_singleton _ _
      show Balanced maximum extra { taken with running := taken.running ++ [ticket] }
      refine ⟨?_, htaken.idle, ?_, htaken.distinct⟩
      · rw [hheld.length_eq]
        exact htaken.level
      · exact htaken.grants.trans (hheld.symm.append_left _)

theorem Balanced.finish (h : l.Balanced maximum extra) (hmem : ticket ∈ l.running) :
    (l.finish ticket).Balanced maximum extra := by
  have hheld : (extra ++ l.holders).Perm
      ((ticket :: extra) ++ Ledger.holders { l with running := l.running.erase ticket }) := by
    refine List.Perm.trans (List.Perm.append_left extra ?_) List.perm_middle
    exact ((List.perm_cons_erase hmem).append_left l.acquired).trans List.perm_middle
  apply Balanced.release
  refine ⟨?_, h.idle, h.grants.trans (hheld.append_left _), h.distinct⟩
  rw [← hheld.length_eq]
  exact h.level

theorem awaiting_resume {acquired goesOn : Bool} (hmem : (ticket, acquired) ∈ l.settled) :
    l.awaiting.Perm (ticket :: (l.resume ticket acquired goesOn).awaiting) := by
  have htaken : l.awaiting.Perm
      (ticket :: Ledger.awaiting { l with settled := l.settled.erase (ticket, acquired) }) :=
    (((List.perm_cons_erase hmem).map Prod.fst).append_left _).trans List.perm_middle
  unfold resume
  cases acquired
  · exact htaken
  · cases goesOn
    · exact htaken.trans (awaiting_release.symm.cons ticket)
    · exact htaken

theorem running_resume {acquired goesOn : Bool} :
    (l.resume ticket acquired goesOn).running =
      l.running ++ if acquired && goesOn then [ticket] else [] := by
  unfold resume
  cases acquired
  · exact (List.append_nil _).symm
  · cases goesOn
    · exact running_release.trans (List.append_nil _).symm
    · rfl

theorem tickets_resume {acquired goesOn : Bool} :
    (l.resume ticket acquired goesOn).tickets.Perm l.tickets := by
  unfold resume
  cases acquired
  · rfl
  · cases goesOn
    · exact tickets_release
    · rfl

theorem waiters_resume {acquired goesOn : Bool} :
    (l.resume ticket acquired goesOn).semaphore.waiters ⊆ l.semaphore.waiters := by
  unfold resume
  cases acquired
  · exact List.Subset.refl _
  · cases goesOn
    · exact waiters_release
    · exact List.Subset.refl _

theorem awaiting_finish : (l.finish ticket).awaiting.Perm l.awaiting := awaiting_release

theorem running_finish : (l.finish ticket).running = l.running.erase ticket := running_release

theorem tickets_finish : (l.finish ticket).tickets.Perm l.tickets := tickets_release

theorem waiters_finish : (l.finish ticket).semaphore.waiters ⊆ l.semaphore.waiters :=
  waiters_release

end Ledger

end StreamOtter
