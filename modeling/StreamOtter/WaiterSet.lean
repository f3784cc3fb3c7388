import StreamOtter.Machine
import Mathlib.Data.List.Nodup

/-!
# Callers that wait

A translation of `WaiterSet`, whose callers wait for one event, each with its own timeout and
abort signal.  Every call of a promise's `resolve` or `reject` is recorded, so that a promise
settled twice would be seen.  Each promise is settled as if it were the only one: by the first
step that concerns it, once, and nothing of it is left after that.
-/

namespace StreamOtter

/-- The abort signal of a call, if it has one. -/
inductive AbortSignal
  | absent | unaborted | aborted
  deriving DecidableEq, Repr

structure WaitOptions where
  timeoutMs : Option ℕ
  signal : AbortSignal
  deriving DecidableEq, Repr

/-- The error of a rejected promise; that of `rejectAll` is passed on unread, and the message of
the one for a timeout names the time. -/
inductive WaiterError (Error : Type)
  | cancelled
  | timedOut (timeoutMs : ℕ)
  | given (error : Error)
  deriving DecidableEq, Repr

inductive Settlement (Error : Type)
  | resolved
  | rejected (error : WaiterError Error)
  deriving DecidableEq, Repr

/-- `DEFAULT_READY_TIMEOUT_MS`. -/
def defaultReadyTimeoutMs : ℕ := 30000

def WaitOptions.time (options : WaitOptions) : ℕ := options.timeoutMs.getD defaultReadyTimeoutMs

structure WaiterSet (Error : Type) where
  waiters : List ℕ
  /-- The armed timeouts with their times, and the promises whose signal has a listener. -/
  timers : List (ℕ × ℕ)
  listeners : List ℕ
  settled : List (ℕ × Settlement Error)
  /-- The promise that the next call returns. -/
  next : ℕ
  deriving DecidableEq, Repr

inductive WaiterStep (Error : Type)
  | wait (options : WaitOptions)
  | resolveAll
  | rejectAll (error : Error)
  /-- The timeout of a promise is due, or its signal is aborted. -/
  | timeout (promise : ℕ)
  | abort (promise : ℕ)
  deriving DecidableEq, Repr

namespace WaiterSet

variable {Error : Type}

def empty : WaiterSet Error := ⟨[], [], [], [], 0⟩

def wait (options : WaitOptions) (s : WaiterSet Error) : WaiterSet Error :=
  if options.signal = .aborted then
    { s with
      settled := s.settled ++ [(s.next, .rejected .cancelled)]
      next := s.next + 1 }
  else
    { s with
      waiters := s.waiters ++ [s.next]
      timers := s.timers ++ [(s.next, options.time)]
      listeners := s.listeners ++ if options.signal = .unaborted then [s.next] else []
      next := s.next + 1 }

/-- A waiter's `resolve` or `reject`, which begins with its `cleanup`. -/
def settle (outcome : Settlement Error) (s : WaiterSet Error) (promise : ℕ) : WaiterSet Error :=
  { s with
    waiters := s.waiters.filter (· ≠ promise)
    timers := s.timers.filter (·.1 ≠ promise)
    listeners := s.listeners.filter (· ≠ promise)
    settled := s.settled ++ [(promise, outcome)] }

/-- `resolveAll` and `rejectAll`. -/
def settleAll (outcome : Settlement Error) (s : WaiterSet Error) : WaiterSet Error :=
  s.waiters.foldl (settle outcome) s

def timeout (promise : ℕ) (s : WaiterSet Error) : WaiterSet Error :=
  match s.timers.find? (·.1 = promise) with
  | none => s
  | some (_, timeoutMs) => s.settle (.rejected (.timedOut timeoutMs)) promise

/-- `onAbort`, while the signal still has the listener. -/
def abort (promise : ℕ) (s : WaiterSet Error) : WaiterSet Error :=
  if promise ∈ s.listeners then s.settle (.rejected .cancelled) promise else s

def step (s : WaiterSet Error) : WaiterStep Error → WaiterSet Error
  | .wait options => s.wait options
  | .resolveAll => s.settleAll .resolved
  | .rejectAll error => s.settleAll (.rejected (.given error))
  | .timeout promise => s.timeout promise
  | .abort promise => s.abort promise

/-- Every order of calls, timeouts and aborted signals. -/
def machine : Machine (WaiterSet Error) (WaiterStep Error) where
  step := step
  allowed := fun _ _ => True

end WaiterSet

/-! ## One promise alone -/

section Alone

variable {Error : Type}

/-- How a promise is settled that is rejected at once. -/
def WaitOptions.atOnce (options : WaitOptions) : Option (Settlement Error) :=
  if options.signal = .aborted then some (.rejected .cancelled) else none

/-- How a step settles a promise that waits. -/
def WaitOptions.reply (options : WaitOptions) (promise : ℕ) :
    WaiterStep Error → Option (Settlement Error)
  | .wait _ => none
  | .resolveAll => some .resolved
  | .rejectAll error => some (.rejected (.given error))
  | .timeout other => if other = promise then some (.rejected (.timedOut options.time)) else none
  | .abort other =>
      if other = promise ∧ options.signal = .unaborted then some (.rejected .cancelled) else none

/-- The settlement of a promise: at once, or by the first step that concerns it. -/
def WaitOptions.answer (options : WaitOptions) (promise : ℕ) (steps : List (WaiterStep Error)) :
    Option (Settlement Error) :=
  options.atOnce.or (steps.findSome? (options.reply promise))

end Alone

namespace WaiterSet

variable {Error : Type} {s : WaiterSet Error} {options : WaitOptions} {promise : ℕ}
  {answer : Option (Settlement Error)}

def settlements (promise : ℕ) (s : WaiterSet Error) : List (Settlement Error) :=
  (s.settled.filter (·.1 = promise)).map Prod.snd

/-- No promise waits twice, and all of them were returned by earlier calls. -/
structure Numbered (s : WaiterSet Error) : Prop where
  once : s.waiters.Nodup
  waiters : ∀ promise ∈ s.waiters, promise < s.next
  timers : ∀ timer ∈ s.timers, timer.1 < s.next
  listeners : ∀ promise ∈ s.listeners, promise < s.next
  settled : ∀ settlement ∈ s.settled, settlement.1 < s.next

/-- A promise is settled by the answer alone, and waits, with its timeout armed and its signal
heeded, exactly as long as there is none. -/
structure Follows (options : WaitOptions) (promise : ℕ) (answer : Option (Settlement Error))
    (s : WaiterSet Error) : Prop where
  given : promise < s.next
  settled : s.settlements promise = answer.toList
  waits : promise ∈ s.waiters ↔ answer = none
  timed : ∀ timeoutMs, (promise, timeoutMs) ∈ s.timers ↔ answer = none ∧ timeoutMs = options.time
  heeded : promise ∈ s.listeners ↔ answer = none ∧ options.signal = .unaborted

/-! ## What the steps do -/

theorem foldl_settle (outcome : Settlement Error) (promises : List ℕ) (s : WaiterSet Error) :
    promises.foldl (settle outcome) s =
      { s with
        waiters := s.waiters.filter (· ∉ promises)
        timers := s.timers.filter (·.1 ∉ promises)
        listeners := s.listeners.filter (· ∉ promises)
        settled := s.settled ++ promises.map (·, outcome) } := by
  induction promises generalizing s with
  | nil => simp
  | cons promise rest ih =>
      rw [List.foldl_cons, ih]
      simp [settle, List.filter_filter, Bool.and_comm]

theorem Numbered.settles (h : Numbered s) (outcome : Settlement Error) {promises : List ℕ}
    (hgiven : ∀ promise ∈ promises, promise < s.next) :
    Numbered (promises.foldl (settle outcome) s) := by
  rw [foldl_settle]
  constructor
  case once => exact h.once.filter _
  case waiters => exact fun promise hmem => h.waiters promise (List.mem_of_mem_filter hmem)
  case timers => exact fun timer hmem => h.timers timer (List.mem_of_mem_filter hmem)
  case listeners => exact fun promise hmem => h.listeners promise (List.mem_of_mem_filter hmem)
  case settled =>
    intro settlement hmem
    rcases List.mem_append.mp hmem with hmem | hmem
    · exact h.settled settlement hmem
    · obtain ⟨promise, hpromise, rfl⟩ := List.mem_map.mp hmem
      exact hgiven promise hpromise

theorem Numbered.settle (h : Numbered s) (outcome : Settlement Error)
    (hgiven : promise < s.next) : Numbered (s.settle outcome promise) := by
  show Numbered ([promise].foldl (WaiterSet.settle outcome) s)
  exact h.settles outcome (List.forall_mem_singleton.mpr hgiven)

theorem Numbered.wait (h : Numbered s) (options : WaitOptions) : Numbered (s.wait options) := by
  have hlater : ∀ {n}, n < s.next → n < s.next + 1 := Nat.lt_succ_of_lt
  have hlast : s.next < s.next + 1 := Nat.lt_succ_self _
  unfold WaiterSet.wait
  split
  · refine ⟨h.once, fun n hn => hlater (h.waiters n hn), fun n hn => hlater (h.timers n hn),
      fun n hn => hlater (h.listeners n hn), fun settlement hmem => ?_⟩
    rcases List.mem_append.mp hmem with hmem | hmem
    · exact hlater (h.settled settlement hmem)
    · rw [List.mem_singleton.mp hmem]
      exact hlast
  · constructor
    case once =>
      rw [List.nodup_append]
      refine ⟨h.once, List.nodup_singleton _, fun n hn m hm => ?_⟩
      rw [List.mem_singleton.mp hm]
      exact Nat.ne_of_lt (h.waiters n hn)
    case waiters =>
      intro n hn
      rcases List.mem_append.mp hn with hn | hn
      · exact hlater (h.waiters n hn)
      · rw [List.mem_singleton.mp hn]
        exact hlast
    case timers =>
      intro timer hmem
      rcases List.mem_append.mp hmem with hmem | hmem
      · exact hlater (h.timers timer hmem)
      · rw [List.mem_singleton.mp hmem]
        exact hlast
    case listeners =>
      intro n hn
      rcases List.mem_append.mp hn with hn | hn
      · exact hlater (h.listeners n hn)
      · split at hn
        · rw [List.mem_singleton.mp hn]
          exact hlast
        · cases hn
    case settled => exact fun settlement hmem => hlater (h.settled settlement hmem)

theorem Numbered.step (h : Numbered s) (input : WaiterStep Error) : Numbered (s.step input) := by
  cases input with
  | wait options => exact h.wait options
  | resolveAll | rejectAll => exact h.settles _ h.waiters
  | timeout promise =>
      simp only [WaiterSet.step, WaiterSet.timeout]
      split
      · exact h
      · rename_i timer timeoutMs hfind
        obtain rfl : timer = promise := by simpa using List.find?_some hfind
        exact h.settle _ (h.timers _ (List.mem_of_find?_eq_some hfind))
  | abort promise =>
      simp only [WaiterSet.step, WaiterSet.abort]
      split
      · rename_i hmem
        exact h.settle _ (h.listeners _ hmem)
      · exact h

theorem numbered_after (steps : List (WaiterStep Error)) : Numbered (machine.after empty steps) :=
  machine.invariant (fun _ input h _ => h.step input)
    ⟨List.nodup_nil, nofun, nofun, nofun, nofun⟩ (machine.admits_of_allowed (fun _ _ => trivial) _ _)

/-! ## What happens to one promise -/

theorem Follows.settles (h : Follows options promise answer s) (outcome : Settlement Error)
    {promises : List ℕ} (hnodup : promises.Nodup)
    (hwaits : promise ∈ promises → promise ∈ s.waiters) :
    Follows options promise (answer.or (if promise ∈ promises then some outcome else none))
      (promises.foldl (settle outcome) s) := by
  rw [foldl_settle]
  by_cases hmem : promise ∈ promises
  · obtain rfl : answer = none := h.waits.mp (hwaits hmem)
    rw [if_pos hmem, Option.none_or]
    constructor
    case given => exact h.given
    case settled =>
      have hone : (promises.map (·, outcome)).filter (·.1 = promise) = [(promise, outcome)] := by
        rw [List.filter_map]
        have hfilter : promises.filter (· = promise) = [promise] := by
          rw [List.filter_eq, List.count_eq_one_of_mem hnodup hmem]
          rfl
        simpa [Function.comp_def] using congrArg (List.map (·, outcome)) hfilter
      have hnone : s.settlements promise = [] := h.settled
      unfold settlements at hnone ⊢
      rw [List.filter_append, List.map_append, hnone, hone]
      rfl
    case waits => simp [hmem]
    case timed => simp [hmem]
    case heeded => simp [hmem]
  · rw [if_neg hmem, Option.or_none]
    constructor
    case given => exact h.given
    case settled =>
      have hnone : (promises.map (·, outcome)).filter (·.1 = promise) = [] := by
        rw [List.filter_eq_nil_iff]
        intro settlement hsettlement
        obtain ⟨other, hother, rfl⟩ := List.mem_map.mp hsettlement
        rw [decide_eq_true_eq]
        rintro rfl
        exact hmem hother
      have hsettled := h.settled
      unfold settlements at hsettled ⊢
      rw [List.filter_append, List.map_append, hsettled, hnone]
      simp
    case waits => simpa [hmem] using h.waits
    case timed => simpa [hmem] using h.timed
    case heeded => simpa [hmem] using h.heeded

theorem Follows.settle (h : Follows options promise answer s) (outcome : Settlement Error)
    {other : ℕ} (hwaits : other = promise → answer = none) :
    Follows options promise (answer.or (if other = promise then some outcome else none))
      (s.settle outcome other) := by
  have hsettles := h.settles outcome (List.nodup_singleton other) fun hmem => by
    exact h.waits.mpr (hwaits (List.mem_singleton.mp hmem).symm)
  simpa [eq_comm] using hsettles

/-- A step that concerns a settled promise finds nothing of it. -/
theorem Follows.late (h : Follows options promise answer s) {outcome : Settlement Error}
    {concerns : Prop} [Decidable concerns] (hsettled : concerns → answer ≠ none) :
    Follows options promise (answer.or (if concerns then some outcome else none)) s := by
  cases answer with
  | some settlement => exact h
  | none => rwa [if_neg fun hconcerns => hsettled hconcerns rfl]

theorem Follows.wait (h : Follows options promise answer s) (other : WaitOptions) :
    Follows options promise answer (s.wait other) := by
  have hne : s.next ≠ promise := Nat.ne_of_gt h.given
  have hne' : promise ≠ s.next := hne.symm
  have hgiven : promise < s.next + 1 := Nat.lt_succ_of_lt h.given
  have hsettled := h.settled
  unfold settlements at hsettled
  unfold WaiterSet.wait
  split
  · exact ⟨hgiven, by simp [settlements, hsettled, hne], h.waits, h.timed, h.heeded⟩
  · constructor
    case given => exact hgiven
    case settled => exact h.settled
    case waits => simpa [hne'] using h.waits
    case timed => simpa [hne'] using h.timed
    case heeded =>
      dsimp only
      split
      · simpa [hne'] using h.heeded
      · simpa using h.heeded

/-- One step settles a promise as it would if no other promise waited. -/
theorem Follows.step (h : Follows options promise answer s) (hs : Numbered s)
    (input : WaiterStep Error) :
    Follows options promise (answer.or (options.reply promise input)) (s.step input) := by
  have hall : ∀ outcome, Follows options promise (answer.or (some outcome))
      (s.settleAll outcome) := by
    intro outcome
    have hsettles := h.settles outcome hs.once id
    cases answer with
    | none => rwa [if_pos (h.waits.mpr rfl)] at hsettles
    | some settlement => exact hsettles
  cases input with
  | wait other =>
      rw [WaitOptions.reply, Option.or_none]
      exact h.wait other
  | resolveAll => exact hall .resolved
  | rejectAll error => exact hall (.rejected (.given error))
  | timeout other =>
      change Follows _ _ _ (s.timeout other)
      unfold WaiterSet.timeout WaitOptions.reply
      cases hfind : s.timers.find? (·.1 = other) with
      | none =>
          have hnone : other = promise → answer ≠ none := by
            rintro rfl rfl
            rw [List.find?_eq_none] at hfind
            exact hfind _ ((h.timed _).mpr ⟨rfl, rfl⟩) (by simp)
          exact h.late hnone
      | some timer =>
          obtain ⟨timer, timeoutMs⟩ := timer
          obtain rfl : timer = other := by simpa using List.find?_some hfind
          have harmed : timer = promise → answer = none ∧ timeoutMs = options.time := by
            rintro rfl
            exact (h.timed timeoutMs).mp (List.mem_of_find?_eq_some hfind)
          have hsettle := h.settle (.rejected (.timedOut timeoutMs)) fun heq => (harmed heq).1
          dsimp only
          by_cases heq : timer = promise
          · rwa [(harmed heq).2] at hsettle ⊢
          · rwa [if_neg heq] at hsettle ⊢
  | abort other =>
      change Follows _ _ _ (s.abort other)
      unfold WaiterSet.abort WaitOptions.reply
      by_cases hmem : other ∈ s.listeners
      · have hlistens : other = promise → answer = none ∧ options.signal = .unaborted := by
          rintro rfl
          exact h.heeded.mp hmem
        have hsettle := h.settle (.rejected .cancelled) fun heq => (hlistens heq).1
        rw [if_pos hmem]
        dsimp only
        by_cases heq : other = promise
        · rw [if_pos heq] at hsettle
          rwa [if_pos ⟨heq, (hlistens heq).2⟩]
        · rw [if_neg heq] at hsettle
          rwa [if_neg fun hboth => heq hboth.1]
      · rw [if_neg hmem]
        exact h.late fun hboth hanswer => hmem (hboth.1 ▸ h.heeded.mpr ⟨hanswer, hboth.2⟩)

theorem Numbered.follows (h : Numbered s) (options : WaitOptions) :
    Follows options s.next options.atOnce (s.wait options) := by
  have hlast : s.next < s.next + 1 := Nat.lt_succ_self _
  have hwaiters : s.next ∉ s.waiters := fun hmem => Nat.lt_irrefl _ (h.waiters _ hmem)
  have htimers : ∀ timeoutMs, (s.next, timeoutMs) ∉ s.timers := fun timeoutMs hmem =>
    Nat.lt_irrefl _ (h.timers _ hmem)
  have hlisteners : s.next ∉ s.listeners := fun hmem => Nat.lt_irrefl _ (h.listeners _ hmem)
  have hsettled : s.settled.filter (·.1 = s.next) = [] := by
    rw [List.filter_eq_nil_iff]
    intro settlement hmem
    rw [decide_eq_true_eq]
    exact Nat.ne_of_lt (h.settled settlement hmem)
  unfold WaiterSet.wait WaitOptions.atOnce
  split
  · exact ⟨hlast, by simp [settlements, hsettled], by simp [hwaiters], by simp [htimers],
      by simp [hlisteners]⟩
  · constructor
    case given => exact hlast
    case settled => simp [settlements, hsettled]
    case waits => simp
    case timed => simp [htimers]
    case heeded =>
      dsimp only
      split
      · rename_i hsignal
        simp [hsignal]
      · rename_i hsignal
        simp [hlisteners, hsignal]

theorem follows_run (h : Follows options promise answer s) (hs : Numbered s)
    (steps : List (WaiterStep Error)) :
    Follows options promise (answer.or (steps.findSome? (options.reply promise)))
      (machine.after s steps) := by
  induction steps generalizing s answer with
  | nil => simpa using h
  | cons input rest ih =>
      have hrest := ih (h.step hs input) (hs.step input)
      rw [Option.or_assoc] at hrest
      rw [List.findSome?_cons]
      cases hreply : options.reply promise input with
      | none =>
          rw [hreply, Option.none_or] at hrest
          exact hrest
      | some settlement =>
          rw [hreply, Option.some_or] at hrest
          exact hrest

/-- A promise of any run is settled exactly as if its caller were the only one: at once when the
signal is aborted, else by the first step that concerns it.  It is settled once, and until then
and no longer it waits, with its timeout armed and its abort listener in place. -/
theorem settledAlone_after (before : List (WaiterStep Error)) (options : WaitOptions)
    (steps : List (WaiterStep Error)) :
    Follows options (machine.after empty before).next
      (options.answer (machine.after empty before).next steps)
      (machine.after empty (before ++ .wait options :: steps)) := by
  have hs := numbered_after before
  rw [machine.after_append, machine.after_cons]
  exact follows_run (hs.follows options) (hs.wait options) steps

end WaiterSet

end StreamOtter
