import StreamOtter.History
import StreamOtter.KafkaSource
import StreamOtter.RecordPreparation

/-!
# The fixture source adapter

`FixtureSourceAdapter`: an array of records read in order when asked to.  The operations
queue on the promise `#chain`; each runs alone, and between two of its awaits the caller
may queue more of them or stop the source.
-/

namespace StreamOtter

inductive FixtureContent
  | value (value : JsValue) | raw (text : String)

structure FixtureRecord where
  key : Option String
  content : FixtureContent

/-- What the sink is given for a record. -/
structure FixtureInput where
  key : Option String
  keyBytes : Option (List UInt8)
  input : SourceInput
  position : Position

/-- The input that `#step` makes of the record at an index. -/
def FixtureRecord.sourceInput (record : FixtureRecord) (index : ℕ) : FixtureInput where
  key := record.key
  keyBytes := record.key.map fun key => key.toUTF8.toList
  input := match record.content with
    | .raw text => { value := none, bytes := some text.toUTF8.toList }
    | .value value => { value := some value, bytes := none }
  position := .fixture index

/-- An operation; `confirms` tells whether the held position comes with `confirmed`. -/
inductive FixtureJob
  | advance (count : ℕ)
  | resume
  | advancePast (position : Position) (confirms : Bool)
  deriving DecidableEq, Repr

/-- The calls are numbered in the order in which they were made. -/
structure FixtureCall where
  number : ℕ
  job : FixtureJob
  deriving DecidableEq, Repr

inductive FixtureAnswer
  | advanced (count : ℕ)
  | unavailable (message : String)
  | resumed
  | passed (result : AdvanceResult)
  | failed
  deriving DecidableEq, Repr

/-- Where the running operation waits.  `loop` holds the count asked for and the records
committed so far when the step belongs to `advance`. -/
inductive FixtureTurn
  | looping (call : FixtureCall) (count advanced : ℕ)
  | processing (call : FixtureCall) (loop : Option (ℕ × ℕ)) (input : FixtureInput)
  | confirming (call : FixtureCall)

/-- What happens at the adapter's boundary, in order: its calls to the sink and to
`onCommit`, the outcomes of processing, the answers and the caller's `stop`. -/
inductive FixtureTold
  | healthy
  | stopping
  | processing (call : FixtureCall) (input : FixtureInput)
  | outcome (call : FixtureCall) (input : FixtureInput) (outcome : ProcessOutcome)
  | held (call : FixtureCall) (input : FixtureInput)
  | committed (call : FixtureCall) (position : Position)
  | answered (call : FixtureCall) (answer : FixtureAnswer)

structure FixtureSource where
  index : ℕ
  paused : Bool
  stopped : Bool
  /-- The calls whose turn has not come. -/
  chain : List FixtureCall
  turn : Option FixtureTurn
  calls : ℕ
  told : List FixtureTold

namespace FixtureSource

def stoppingMessage : String := "The gateway is stopping."

def pausedMessage : String :=
  "The fixture source is paused; resume it after correcting the cause."

/-- A new adapter after `start`. -/
def initial : FixtureSource where
  index := 0
  paused := false
  stopped := false
  chain := []
  turn := none
  calls := 0
  told := [.healthy]

inductive Input
  | call (job : FixtureJob)
  | stop
  /-- The first call on the chain gets its turn. -/
  | begin
  /-- `advance` resumes after a step that committed. -/
  | loop
  /-- The sink's promise settles; `none` is a rejection. -/
  | processed (outcome : Option ProcessOutcome)
  /-- `confirmed` settles; a rejection counts as false. -/
  | confirmed (confirmed : Bool)

def tell (s : FixtureSource) (entry : FixtureTold) : FixtureSource :=
  { s with told := s.told ++ [entry] }

/-- A call joins the end of the chain. -/
def enqueue (s : FixtureSource) (job : FixtureJob) : FixtureSource :=
  { s with chain := s.chain ++ [⟨s.calls, job⟩], calls := s.calls + 1 }

def finish (call : FixtureCall) (answer : FixtureAnswer) (s : FixtureSource) : FixtureSource :=
  { s with turn := none, told := s.told ++ [.answered call answer] }

/-- What an operation answers when `#step` returned false. -/
def broke : Option (ℕ × ℕ) → FixtureAnswer
  | some (_, advanced) => .advanced advanced
  | none => .resumed

variable (records : List FixtureRecord)

/-- `#step` up to its await. -/
def process (call : FixtureCall) (loop : Option (ℕ × ℕ)) (s : FixtureSource) : FixtureSource :=
  match records[s.index]? with
  | none => finish call (broke loop) s
  | some record =>
      let input := record.sourceInput s.index
      { s with
        turn := some (.processing call loop input)
        told := s.told ++ [.processing call input] }

/-- The loop of `advance` at its condition. -/
def advanceLoop (call : FixtureCall) (count advanced : ℕ) (s : FixtureSource) : FixtureSource :=
  if advanced < count ∧ s.index < records.length ∧ ¬ s.stopped then
    process records call (some (count, advanced)) s
  else finish call (.advanced advanced) s

/-- A call's turn up to its first await. -/
def run (call : FixtureCall) (s : FixtureSource) : FixtureSource :=
  match call.job with
  | .advance count =>
      if s.stopped then finish call (.unavailable stoppingMessage) s
      else if s.paused then finish call (.unavailable pausedMessage) s
      else advanceLoop records call count 0 s
  | .resume =>
      if !s.paused || s.stopped then finish call .resumed s
      else process records call none ({ s with paused := false }.tell .healthy)
  | .advancePast position confirms =>
      if s.stopped || !s.paused || position ≠ .fixture s.index then
        finish call (.passed .notHeld) s
      else
        let moved := { s with index := s.index + 1 }.tell (.committed call position)
        if confirms then { moved with turn := some (.confirming call) }
        else finish call (.passed .advanced) ({ moved with paused := false }.tell .healthy)

/-- `#step` after its await. -/
def settle (call : FixtureCall) (loop : Option (ℕ × ℕ)) (input : FixtureInput)
    (outcome : ProcessOutcome) (s : FixtureSource) : FixtureSource :=
  let heard := s.tell (.outcome call input outcome)
  match outcome with
  | .commit =>
      let moved := { heard with index := s.index + 1 }.tell (.committed call input.position)
      match loop with
      | some (count, advanced) => { moved with turn := some (.looping call count (advanced + 1)) }
      | none => finish call .resumed moved
  | .pause =>
      finish call (broke loop) ({ heard with paused := true }.tell (.held call input))
  | .hold => finish call (broke loop) { heard with paused := true }
  | .abandon => finish call (broke loop) heard

def step (s : FixtureSource) : Input → FixtureSource
  | .call job => s.enqueue job
  | .stop => { s with stopped := true }.tell .stopping
  | .begin =>
      match s.turn, s.chain with
      | none, call :: chain => run records call { s with chain := chain }
      | _, _ => s
  | .loop =>
      match s.turn with
      | some (.looping call count advanced) => advanceLoop records call count advanced s
      | _ => s
  | .processed outcome =>
      match s.turn, outcome with
      | some (.processing call loop input), some outcome => settle call loop input outcome s
      | some (.processing call _ _), none => finish call .failed s
      | _, _ => s
  | .confirmed confirmed =>
      match s.turn with
      | some (.confirming call) =>
          finish call (.passed .advanced)
            (if confirmed then { s with paused := false }.tell .healthy else s)
      | _ => s

/-- Any input may come at any time; one that nobody waits for changes nothing. -/
def machine : Machine FixtureSource Input where
  step := step records
  allowed := fun _ _ => True

end FixtureSource

/-! ## What a history says -/

namespace FixtureTold

def position? : FixtureTold → Option Position
  | .committed _ position => some position
  | _ => none

/-- The positions passed to `onCommit`. -/
def commits (told : List FixtureTold) : List Position := told.filterMap position?

def caller? : FixtureTold → Option FixtureCall
  | .answered call _ => some call
  | _ => none

/-- The calls answered so far. -/
def answers (told : List FixtureTold) : List FixtureCall := told.filterMap caller?

def isCommitOf (call : FixtureCall) : FixtureTold → Bool
  | .committed other _ => other = call
  | _ => false

/-- How often a call moved the source past a record. -/
def commitsOf (call : FixtureCall) (told : List FixtureTold) : ℕ := told.countP (isCommitOf call)

def pausing (paused : Bool) : FixtureTold → Bool
  | .healthy => false
  | .outcome _ _ .pause | .outcome _ _ .hold => true
  | _ => paused

/-- Whether a record was held since the source was last reported healthy. -/
def pausedAfter (told : List FixtureTold) : Bool := told.foldl pausing false

def flying (flight : Option (FixtureCall × FixtureInput)) :
    FixtureTold → Option (FixtureCall × FixtureInput)
  | .processing call input => some (call, input)
  | .outcome _ _ _ | .answered _ _ => none
  | _ => flight

/-- The record the sink is processing. -/
def inFlight (told : List FixtureTold) : Option (FixtureCall × FixtureInput) :=
  told.foldl flying none

def isStopping : FixtureTold → Bool
  | .stopping => true
  | _ => false

/-- `stop` was called. -/
def stoppedAfter (told : List FixtureTold) : Bool := told.any isStopping

/-- The call an entry belongs to. -/
def call? : FixtureTold → Option FixtureCall
  | .processing call _ | .outcome call _ _ | .held call _ | .committed call _
  | .answered call _ => some call
  | .healthy | .stopping => none

/-- A position is reported as passed for one of two reasons: the sink let its record be
committed, or the caller asked to move past it while the source was paused there. -/
def Passed (past : List FixtureTold) (call : FixtureCall) (position : Position) : Prop :=
  (∃ input, past.getLast? = some (.outcome call input .commit) ∧ input.position = position) ∨
    (pausedAfter past = true ∧ stoppedAfter past = false ∧ inFlight past = none ∧
      ∃ confirms, call.job = .advancePast position confirms)

/-- What must have happened before an entry that concerns a record. -/
def InOrder (records : List FixtureRecord) (past : List FixtureTold) : FixtureTold → Prop
  | .processing _ input =>
      pausedAfter past = false ∧ stoppedAfter past = false ∧ inFlight past = none ∧
        ∃ record, records[(commits past).length]? = some record ∧
          input = record.sourceInput (commits past).length
  | .outcome call input _ => inFlight past = some (call, input)
  | .held call input => past.getLast? = some (.outcome call input .pause)
  | .committed call position =>
      position = .fixture (commits past).length ∧ Passed past call position
  | .healthy | .stopping | .answered _ _ => True

/-- What must have happened before an answer. -/
def Earned (records : List FixtureRecord) (past : List FixtureTold) (call : FixtureCall) :
    FixtureAnswer → Prop
  | .advanced advanced =>
      ∃ count, call.job = .advance count ∧ advanced = commitsOf call past ∧ advanced ≤ count ∧
        (advanced = count ∨ records.length ≤ (commits past).length ∨ stoppedAfter past = true ∨
          ∃ input outcome, FixtureTold.outcome call input outcome ∈ past ∧ outcome ≠ .commit)
  | .unavailable message =>
      (∃ count, call.job = .advance count) ∧ commitsOf call past = 0 ∧
        (message = FixtureSource.stoppingMessage ∧ stoppedAfter past = true ∨
          message = FixtureSource.pausedMessage ∧ pausedAfter past = true)
  | .resumed => call.job = .resume ∧ commitsOf call past ≤ 1
  | .passed .advanced =>
      ∃ position confirms, call.job = .advancePast position confirms ∧
        .committed call position ∈ past ∧ commitsOf call past = 1
  | .passed .notHeld =>
      (∃ position confirms, call.job = .advancePast position confirms) ∧ commitsOf call past = 0
  | .passed .uncertain => False
  | .failed => ∃ input, inFlight past = some (call, input)

/-- An entry belongs to the first call that is not answered yet, and an answer is earned. -/
def InTurn (records : List FixtureRecord) (past : List FixtureTold) (entry : FixtureTold) :
    Prop :=
  (∀ call ∈ entry.call?, call.number = (answers past).length) ∧
    ∀ call answer, entry = .answered call answer → Earned records past call answer

section Concat

variable (told : List FixtureTold) (entry : FixtureTold) (call : FixtureCall)

@[simp] theorem commits_concat :
    commits (told ++ [entry]) = commits told ++ entry.position?.toList := by
  cases entry <;> simp [commits, position?]

@[simp] theorem answers_concat :
    answers (told ++ [entry]) = answers told ++ entry.caller?.toList := by
  cases entry <;> simp [answers, caller?]

@[simp] theorem commitsOf_concat :
    commitsOf call (told ++ [entry]) =
      commitsOf call told + if isCommitOf call entry then 1 else 0 := by
  simp [commitsOf, List.countP_append, List.countP_singleton]

@[simp] theorem pausedAfter_concat :
    pausedAfter (told ++ [entry]) = pausing (pausedAfter told) entry := by
  simp [pausedAfter]

@[simp] theorem inFlight_concat :
    inFlight (told ++ [entry]) = flying (inFlight told) entry := by
  simp [inFlight]

@[simp] theorem stoppedAfter_concat :
    stoppedAfter (told ++ [entry]) = (stoppedAfter told || isStopping entry) := by
  simp [stoppedAfter]

end Concat

end FixtureTold

namespace FixtureSource

open FixtureTold

variable {records : List FixtureRecord} {call : FixtureCall} {s : FixtureSource}

/-- The running operation is `call`, at whatever point of its turn. -/
structure Going (records : List FixtureRecord) (call : FixtureCall) (s : FixtureSource) :
    Prop where
  ordered : Historic (InOrder records) s.told
  inTurn : Historic (InTurn records) s.told
  commits : commits s.told = (List.range s.index).map .fixture
  paused : pausedAfter s.told = s.paused
  stopped : stoppedAfter s.told = s.stopped
  numbers : ((answers s.told ++ call :: s.chain).map FixtureCall.number) = List.range s.calls
  fresh : ∀ other, (answers s.told).length ≤ other.number → other ≠ call →
    commitsOf other s.told = 0

/-- No operation is running. -/
structure Idle (records : List FixtureRecord) (s : FixtureSource) : Prop where
  ordered : Historic (InOrder records) s.told
  inTurn : Historic (InTurn records) s.told
  commits : commits s.told = (List.range s.index).map .fixture
  paused : pausedAfter s.told = s.paused
  stopped : stoppedAfter s.told = s.stopped
  flight : inFlight s.told = none
  numbers : (answers s.told ++ s.chain).map FixtureCall.number = List.range s.calls
  fresh : ∀ other, (answers s.told).length ≤ other.number → commitsOf other s.told = 0

/-- The job that a step of `#step` serves, with the commits its call has made. -/
def Serves (call : FixtureCall) (s : FixtureSource) : Option (ℕ × ℕ) → Prop
  | some (count, advanced) =>
      call.job = .advance count ∧ commitsOf call s.told = advanced ∧ advanced < count
  | none => call.job = .resume ∧ commitsOf call s.told = 0

/-- The operation that runs waits at one of its awaits. -/
def Waits (records : List FixtureRecord) (s : FixtureSource) : FixtureTurn → Prop
  | .looping call count advanced =>
      Going records call s ∧ inFlight s.told = none ∧ s.paused = false ∧
        call.job = .advance count ∧ commitsOf call s.told = advanced ∧ advanced ≤ count
  | .processing call loop input =>
      Going records call s ∧ inFlight s.told = some (call, input) ∧ s.paused = false ∧
        input.position = .fixture s.index ∧ Serves call s loop
  | .confirming call =>
      Going records call s ∧ inFlight s.told = none ∧
        ∃ position confirms, call.job = .advancePast position confirms ∧
          .committed call position ∈ s.told ∧ commitsOf call s.told = 1

def KeptAt (records : List FixtureRecord) (s : FixtureSource) : Option FixtureTurn → Prop
  | none => Idle records s
  | some turn => Waits records s turn

def Kept (records : List FixtureRecord) (s : FixtureSource) : Prop :=
  KeptAt records s s.turn

theorem Serves.congr {t : FixtureSource} {loop : Option (ℕ × ℕ)} (h : Serves call s loop)
    (heq : commitsOf call t.told = commitsOf call s.told) : Serves call t loop := by
  cases loop with
  | none => exact ⟨h.1, by rw [heq, h.2]⟩
  | some asked => exact ⟨h.1, by rw [heq, h.2.1], h.2.2⟩

namespace Going

theorem number (h : Going records call s) : call.number = (answers s.told).length := by
  have hget := congrArg (fun numbers => numbers[(answers s.told).length]?) h.numbers
  have hlt : (answers s.told).length < s.calls := by
    have hlen := congrArg List.length h.numbers
    simp at hlen
    omega
  simpa [List.getElem?_range hlt] using hget

theorem length_commits (h : Going records call s) :
    (FixtureTold.commits s.told).length = s.index := by
  simp [h.commits]

/-- An entry of the running call that is not its answer. -/
theorem turn_concat (h : Going records call s) {entry : FixtureTold}
    (hcall : entry.call? = some call) (hanswer : entry.caller? = none) :
    Historic (InTurn records) (s.told ++ [entry]) := by
  refine h.inTurn.concat ⟨?_, ?_⟩
  · intro other hother
    rw [hcall] at hother
    obtain rfl : call = other := by simpa using hother
    exact h.number
  · rintro other answer rfl
    simp [caller?] at hanswer

/-- The answer ends the turn. -/
theorem finish (h : Going records call s) {answer : FixtureAnswer}
    (hearned : Earned records s.told call answer) :
    Kept records (finish call answer s) := by
  refine ⟨?_, ?_, ?_, ?_, ?_, ?_, ?_, ?_⟩
  · exact h.ordered.concat trivial
  · refine h.inTurn.concat ⟨?_, ?_⟩
    · intro other hother
      obtain rfl : call = other := by simpa [call?] using hother
      exact h.number
    · rintro other other' heq
      obtain ⟨rfl, rfl⟩ : call = other ∧ answer = other' := by simpa using heq
      exact hearned
  · simpa [FixtureSource.finish, position?] using h.commits
  · simpa [FixtureSource.finish, pausing] using h.paused
  · simpa [FixtureSource.finish, isStopping] using h.stopped
  · simp [FixtureSource.finish, flying]
  · simpa [FixtureSource.finish, caller?] using h.numbers
  · intro other hle
    have hnumber := h.number
    simp only [FixtureSource.finish, answers_concat, caller?, Option.toList_some,
      List.length_append, List.length_singleton] at hle
    have hne : other ≠ call := by
      rintro rfl
      omega
    simpa [FixtureSource.finish, isCommitOf] using h.fresh other (by omega) hne

/-- `setStatus("healthy")` after the pause is cleared. -/
theorem healthy (h : Going records call s) :
    Going records call ({ s with paused := false }.tell .healthy) where
  ordered := h.ordered.concat trivial
  inTurn := h.inTurn.concat ⟨by simp [call?], by simp⟩
  commits := by simpa [tell, position?] using h.commits
  paused := by simp [tell, pausing]
  stopped := by simpa [tell, isStopping] using h.stopped
  numbers := by simpa [tell, caller?] using h.numbers
  fresh := by simpa [tell, caller?, isCommitOf] using h.fresh

/-- The source moves past a record and tells `onCommit`. -/
theorem pass (h : Going records call s) (hpassed : Passed s.told call (.fixture s.index)) :
    Going records call
      ({ s with index := s.index + 1 }.tell (.committed call (.fixture s.index))) where
  ordered := by
    refine h.ordered.concat ⟨?_, hpassed⟩
    rw [h.length_commits]
  inTurn := h.turn_concat rfl rfl
  commits := by simp [tell, position?, h.commits, List.range_succ]
  paused := by simpa [tell, pausing] using h.paused
  stopped := by simpa [tell, isStopping] using h.stopped
  numbers := by simpa [tell, caller?] using h.numbers
  fresh := by
    intro other hle hne
    simp only [tell, answers_concat, caller?, Option.toList_none, List.append_nil] at hle
    have hnone := h.fresh other hle hne
    simp [tell, isCommitOf, hnone, Ne.symm hne]

/-- The sink's outcome arrives; a pause or a hold pauses the source. -/
theorem hear (h : Going records call s) {input : FixtureInput}
    (hflight : inFlight s.told = some (call, input)) (outcome : ProcessOutcome) :
    Going records call
      ({ s with paused := pausing s.paused (.outcome call input outcome) }.tell
        (.outcome call input outcome)) where
  ordered := h.ordered.concat hflight
  inTurn := h.turn_concat rfl rfl
  commits := by simpa [tell, position?] using h.commits
  paused := by simp [tell, h.paused]
  stopped := by simpa [tell, isStopping] using h.stopped
  numbers := by simpa [tell, caller?] using h.numbers
  fresh := by simpa [tell, caller?, isCommitOf] using h.fresh

theorem hold (h : Going records call s) (input : FixtureInput)
    (hlast : s.told.getLast? = some (.outcome call input .pause)) :
    Going records call (s.tell (.held call input)) where
  ordered := h.ordered.concat hlast
  inTurn := h.turn_concat rfl rfl
  commits := by simpa [tell, position?] using h.commits
  paused := by simpa [tell, pausing] using h.paused
  stopped := by simpa [tell, isStopping] using h.stopped
  numbers := by simpa [tell, caller?] using h.numbers
  fresh := by simpa [tell, caller?, isCommitOf] using h.fresh

/-- A call that answers before its first step. -/
theorem earned_broke (h : Going records call s) {loop : Option (ℕ × ℕ)}
    (hserves : Serves call s loop)
    (hwhy : ∀ count advanced, loop = some (count, advanced) →
      records.length ≤ s.index ∨
        ∃ input outcome, FixtureTold.outcome call input outcome ∈ s.told ∧ outcome ≠ .commit) :
    Earned records s.told call (broke loop) := by
  cases loop with
  | none => exact ⟨hserves.1, by rw [hserves.2]; omega⟩
  | some asked =>
      obtain ⟨count, advanced⟩ := asked
      obtain ⟨hjob, hcommits, hlt⟩ := hserves
      refine ⟨count, hjob, hcommits.symm, by omega, ?_⟩
      rw [h.length_commits]
      rcases hwhy count advanced rfl with hend | houtcome
      · exact .inr (.inl hend)
      · exact .inr (.inr (.inr houtcome))

theorem process (h : Going records call s) {loop : Option (ℕ × ℕ)}
    (hflight : inFlight s.told = none) (hpaused : s.paused = false)
    (hstopped : s.stopped = false) (hserves : Serves call s loop) :
    Kept records (FixtureSource.process records call loop s) := by
  unfold FixtureSource.process
  split
  next hnone =>
    refine h.finish (h.earned_broke hserves fun count advanced _ => .inl ?_)
    exact List.getElem?_eq_none_iff.mp hnone
  next record hrecord =>
    have hdue : InOrder records s.told (.processing call (record.sourceInput s.index)) := by
      refine ⟨by rw [h.paused, hpaused], by rw [h.stopped, hstopped], hflight, record, ?_, ?_⟩
      · rw [h.length_commits, hrecord]
      · rw [h.length_commits]
    refine ⟨⟨h.ordered.concat hdue, h.turn_concat rfl rfl, ?_, ?_, ?_, ?_, ?_⟩, ?_, hpaused,
      rfl, ?_⟩
    · simpa [position?] using h.commits
    · simpa [pausing] using h.paused
    · simpa [isStopping] using h.stopped
    · simpa [caller?] using h.numbers
    · simpa [caller?, isCommitOf] using h.fresh
    · simp [flying]
    · exact hserves.congr (by simp [isCommitOf])

/-- The loop of `advance` starts another step or answers with what it committed. -/
theorem advanceLoop (h : Going records call s) {count advanced : ℕ}
    (hflight : inFlight s.told = none) (hpaused : s.paused = false)
    (hjob : call.job = .advance count) (hcommits : commitsOf call s.told = advanced)
    (hle : advanced ≤ count) :
    Kept records (FixtureSource.advanceLoop records call count advanced s) := by
  unfold FixtureSource.advanceLoop
  split
  next hgo =>
    obtain ⟨hlt, -, hstopped⟩ := hgo
    exact h.process hflight hpaused (by simpa using hstopped) ⟨hjob, hcommits, hlt⟩
  next hstop =>
    refine h.finish ⟨count, hjob, hcommits.symm, hle, ?_⟩
    rw [h.length_commits, h.stopped]
    by_cases hlt : advanced < count
    · by_cases hindex : s.index < records.length
      · right; right; left
        by_contra hnot
        exact hstop ⟨hlt, hindex, hnot⟩
      · exact .inr (.inl (by omega))
    · exact .inl (by omega)

/-- A call whose turn comes has moved the source nowhere yet. -/
theorem run (h : Going records call s) (hflight : inFlight s.told = none)
    (hcommits : commitsOf call s.told = 0) :
    Kept records (FixtureSource.run records call s) := by
  unfold FixtureSource.run
  split
  next count hjob =>
    split
    next hstopped =>
      refine h.finish ⟨⟨count, hjob⟩, hcommits, .inl ⟨rfl, ?_⟩⟩
      rw [h.stopped, hstopped]
    next =>
      split
      next hpaused =>
        refine h.finish ⟨⟨count, hjob⟩, hcommits, .inr ⟨rfl, ?_⟩⟩
        rw [h.paused, hpaused]
      next hpaused =>
        exact h.advanceLoop hflight (by simpa using hpaused) hjob hcommits (Nat.zero_le count)
  next hjob =>
    split
    next => exact h.finish ⟨hjob, by omega⟩
    next hheld =>
      have hstopped : s.stopped = false := by
        simp only [Bool.or_eq_true, not_or, Bool.not_eq_true] at hheld
        exact hheld.2
      refine h.healthy.process ?_ rfl hstopped ⟨hjob, ?_⟩
      · simpa [tell, flying] using hflight
      · simpa [tell, isCommitOf] using hcommits
  next position confirms hjob =>
    split
    next => exact h.finish ⟨⟨position, confirms, hjob⟩, hcommits⟩
    next hheld =>
      simp only [Bool.or_eq_true, decide_eq_true_eq, not_or, Bool.not_eq_true, not_not,
        Bool.not_eq_eq_eq_not, Bool.not_true, Bool.not_eq_false] at hheld
      obtain ⟨⟨hstopped, hpaused⟩, rfl⟩ := hheld
      have hpass := h.pass (.inr ⟨by rw [h.paused, hpaused], by rw [h.stopped, hstopped],
        hflight, confirms, hjob⟩)
      have hmember : FixtureTold.committed call (.fixture s.index) ∈
          s.told ++ [.committed call (.fixture s.index)] := by simp
      dsimp only
      split
      next =>
        refine ⟨⟨hpass.ordered, hpass.inTurn, hpass.commits, hpass.paused, hpass.stopped,
          hpass.numbers, hpass.fresh⟩, ?_, _, _, hjob, hmember, ?_⟩
        · simpa [tell, flying] using hflight
        · simp [tell, isCommitOf, hcommits]
      next =>
        refine hpass.healthy.finish ⟨_, _, hjob, ?_, ?_⟩
        · simp [tell]
        · simp only [tell, commitsOf_concat, isCommitOf, hcommits]
          simp

/-- A step whose outcome was not to commit ends its call. -/
theorem settle_broke {t : FixtureSource} (h : Going records call t) {loop : Option (ℕ × ℕ)}
    (input : FixtureInput) (outcome : ProcessOutcome) (hserves : Serves call t loop)
    (houtcome : outcome ≠ .commit) (hmem : .outcome call input outcome ∈ t.told) :
    Kept records (FixtureSource.finish call (broke loop) t) :=
  h.finish (h.earned_broke hserves fun _ _ _ => .inr ⟨input, outcome, hmem, houtcome⟩)

theorem settle (h : Going records call s) {loop : Option (ℕ × ℕ)} {input : FixtureInput}
    (hflight : inFlight s.told = some (call, input)) (hpaused : s.paused = false)
    (hposition : input.position = .fixture s.index) (hserves : Serves call s loop)
    (outcome : ProcessOutcome) :
    Kept records (FixtureSource.settle call loop input outcome s) := by
  have hheard := h.hear hflight outcome
  have hserved : ∀ paused, Serves call
      ({ s with paused := paused }.tell (.outcome call input outcome)) loop :=
    fun paused => hserves.congr (by simp [tell, isCommitOf])
  cases outcome with
  | commit =>
      have hpass := hheard.pass (.inl ⟨input, by simp [tell], hposition⟩)
      cases loop with
      | none =>
          obtain ⟨hjob, hnone⟩ := hserves
          dsimp only [FixtureSource.settle]
          rw [hposition]
          refine hpass.finish ⟨hjob, ?_⟩
          simp only [tell, commitsOf_concat, isCommitOf, hnone]
          simp
      | some asked =>
          obtain ⟨count, advanced⟩ := asked
          obtain ⟨hjob, hcommits, hlt⟩ := hserves
          dsimp only [FixtureSource.settle]
          rw [hposition]
          refine ⟨⟨hpass.ordered, hpass.inTurn, hpass.commits, hpass.paused, hpass.stopped,
            hpass.numbers, hpass.fresh⟩, ?_, hpaused, hjob, ?_, hlt⟩
          · simp only [tell, inFlight_concat, flying]
          · simp only [tell, commitsOf_concat, isCommitOf, hcommits]
            simp
  | pause =>
      refine (hheard.hold input (by simp [tell])).settle_broke input .pause
        ((hserved true).congr ?_) (by decide) (by simp [tell])
      simp only [tell, commitsOf_concat, isCommitOf]
      simp
  | hold =>
      exact hheard.settle_broke input .hold (hserved true) (by decide) (by simp [tell])
  | abandon =>
      exact hheard.settle_broke input .abandon (hserved s.paused) (by decide) (by simp [tell])

end Going

/-- The first call on the chain becomes the running one. -/
theorem Idle.begin {chain : List FixtureCall} (h : Idle records s)
    (hchain : s.chain = call :: chain) :
    Going records call { s with chain := chain } where
  ordered := h.ordered
  inTurn := h.inTurn
  commits := h.commits
  paused := h.paused
  stopped := h.stopped
  numbers := by simpa [hchain] using h.numbers
  fresh := fun other hle _ => h.fresh other hle

/-- A new call takes the next number. -/
theorem numbers_concat {calls : List FixtureCall} {count : ℕ}
    (hnumbers : calls.map FixtureCall.number = List.range count) (job : FixtureJob) :
    (calls ++ [FixtureCall.mk count job]).map FixtureCall.number = List.range (count + 1) := by
  simp [hnumbers, List.range_succ]

theorem Going.enqueue (h : Going records call s) (job : FixtureJob) :
    Going records call (s.enqueue job) where
  ordered := h.ordered
  inTurn := h.inTurn
  commits := h.commits
  paused := h.paused
  stopped := h.stopped
  numbers := by simpa [FixtureSource.enqueue] using numbers_concat h.numbers job
  fresh := h.fresh

theorem Going.stop (h : Going records call s) :
    Going records call ({ s with stopped := true }.tell .stopping) where
  ordered := h.ordered.concat trivial
  inTurn := h.inTurn.concat ⟨by simp [call?], by simp⟩
  commits := by simpa [tell, position?] using h.commits
  paused := by simpa [tell, pausing] using h.paused
  stopped := by simp [tell, isStopping]
  numbers := by simpa [tell, caller?] using h.numbers
  fresh := by simpa [tell, caller?, isCommitOf] using h.fresh

theorem KeptAt.enqueue {turn : Option FixtureTurn} (h : KeptAt records s turn)
    (job : FixtureJob) : KeptAt records (s.enqueue job) turn := by
  cases turn with
  | none =>
      have hidle : Idle records s := h
      refine ⟨hidle.ordered, hidle.inTurn, hidle.commits, hidle.paused, hidle.stopped,
        hidle.flight, ?_, hidle.fresh⟩
      simpa [FixtureSource.enqueue] using numbers_concat hidle.numbers job
  | some turn =>
      cases turn with
      | looping call count advanced => exact ⟨h.1.enqueue job, h.2⟩
      | processing call loop input =>
          obtain ⟨hgoing, hflight, hpaused, hposition, hserves⟩ := h
          exact ⟨hgoing.enqueue job, hflight, hpaused, hposition, hserves.congr rfl⟩
      | confirming call => exact ⟨h.1.enqueue job, h.2⟩

theorem KeptAt.stop {turn : Option FixtureTurn} (h : KeptAt records s turn) :
    KeptAt records ({ s with stopped := true }.tell .stopping) turn := by
  cases turn with
  | none =>
      have hidle : Idle records s := h
      refine ⟨hidle.ordered.concat trivial, hidle.inTurn.concat ⟨by simp [call?], by simp⟩,
        ?_, ?_, ?_, ?_, ?_, ?_⟩
      · simpa [tell, position?] using hidle.commits
      · simpa [tell, pausing] using hidle.paused
      · simp [tell, isStopping]
      · simpa [tell, flying] using hidle.flight
      · simpa [tell, caller?] using hidle.numbers
      · simpa [tell, caller?, isCommitOf] using hidle.fresh
  | some turn =>
      cases turn with
      | looping call count advanced =>
          obtain ⟨hgoing, hflight, hpaused, hjob, hcommits, hle⟩ := h
          refine ⟨hgoing.stop, ?_, hpaused, hjob, ?_, hle⟩
          · simpa [tell, flying] using hflight
          · simpa [tell, isCommitOf] using hcommits
      | processing call loop input =>
          obtain ⟨hgoing, hflight, hpaused, hposition, hserves⟩ := h
          refine ⟨hgoing.stop, ?_, hpaused, hposition,
            hserves.congr (by simp [tell, isCommitOf])⟩
          simpa [tell, flying] using hflight
      | confirming call =>
          obtain ⟨hgoing, hflight, position, confirms, hjob, hmem, hcommits⟩ := h
          refine ⟨hgoing.stop, ?_, position, confirms, hjob, ?_, ?_⟩
          · simpa [tell, flying] using hflight
          · exact List.mem_append_left _ hmem
          · simpa [tell, isCommitOf] using hcommits

theorem kept_initial : Kept records initial where
  ordered := .singleton trivial
  inTurn := .singleton ⟨by simp [call?], by simp⟩
  commits := rfl
  paused := rfl
  stopped := rfl
  flight := rfl
  numbers := rfl
  fresh := fun _ _ => rfl

theorem Kept.step (h : Kept records s) (input : Input) :
    Kept records (FixtureSource.step records s input) := by
  cases input with
  | call job => exact KeptAt.enqueue h job
  | stop => exact KeptAt.stop h
  | begin =>
      dsimp only [FixtureSource.step]
      split
      next call chain hturn hchain =>
        have hidle : Idle records s := by simpa [Kept, KeptAt, hturn] using h
        have hnumber := (hidle.begin hchain).number
        exact (hidle.begin hchain).run hidle.flight (hidle.fresh call (Nat.le_of_eq hnumber.symm))
      next => exact h
  | loop =>
      dsimp only [FixtureSource.step]
      split
      next call count advanced hturn =>
        obtain ⟨hgoing, hflight, hpaused, hjob, hcommits, hle⟩ :
            Waits records s (.looping call count advanced) := by simpa [Kept, KeptAt, hturn] using h
        exact hgoing.advanceLoop hflight hpaused hjob hcommits hle
      next => exact h
  | processed outcome =>
      dsimp only [FixtureSource.step]
      split
      next call loop input outcome hturn =>
        obtain ⟨hgoing, hflight, hpaused, hposition, hserves⟩ :
            Waits records s (.processing call loop input) := by simpa [Kept, KeptAt, hturn] using h
        exact hgoing.settle hflight hpaused hposition hserves outcome
      next call loop input hturn =>
        obtain ⟨hgoing, hflight, -⟩ :
            Waits records s (.processing call loop input) := by simpa [Kept, KeptAt, hturn] using h
        exact hgoing.finish ⟨input, hflight⟩
      next => exact h
  | confirmed confirmed =>
      dsimp only [FixtureSource.step]
      split
      next call hturn =>
        obtain ⟨hgoing, hflight, position, confirms, hjob, hmem, hcommits⟩ :
            Waits records s (.confirming call) := by simpa [Kept, KeptAt, hturn] using h
        split
        next =>
          refine hgoing.healthy.finish ⟨position, confirms, hjob, ?_, ?_⟩
          · exact List.mem_append_left _ hmem
          · simpa [tell, isCommitOf] using hcommits
        next => exact hgoing.finish ⟨position, confirms, hjob, hmem, hcommits⟩
      next => exact h

theorem kept_after (inputs : List Input) :
    Kept records ((machine records).after initial inputs) :=
  Machine.invariant (fun _ input h _ => h.step input) kept_initial
    ((machine records).admits_of_allowed (fun _ _ => trivial) initial inputs)

/-- What every operation point has in common with a source at rest. -/
structure Lawful (records : List FixtureRecord) (s : FixtureSource) : Prop where
  ordered : Historic (InOrder records) s.told
  inTurn : Historic (InTurn records) s.told
  commits : commits s.told = (List.range s.index).map .fixture
  paused : pausedAfter s.told = s.paused
  numbers : ∃ waiting, s.chain <:+ waiting ∧
    (answers s.told ++ waiting).map FixtureCall.number = List.range s.calls

theorem Going.lawful (h : Going records call s) : Lawful records s :=
  ⟨h.ordered, h.inTurn, h.commits, h.paused, call :: s.chain, List.suffix_cons call s.chain,
    h.numbers⟩

theorem Kept.lawful (h : Kept records s) : Lawful records s := by
  unfold Kept at h
  cases hturn : s.turn with
  | none =>
      rw [hturn] at h
      have hidle : Idle records s := h
      exact ⟨hidle.ordered, hidle.inTurn, hidle.commits, hidle.paused, s.chain,
        List.suffix_refl s.chain, hidle.numbers⟩
  | some turn =>
      rw [hturn] at h
      cases turn with
      | looping call count advanced => exact h.1.lawful
      | processing call loop input => exact h.1.lawful
      | confirming call => exact h.1.lawful

/-- Whatever is called, stopped, rejected and in whatever order: a record is given to the sink
only while the source is neither paused nor stopped, one at a time, and it is the first that
no position reported to `onCommit` lies at; positions are reported one after the other without
a gap, each after its record's outcome was to commit or by an `advancePast` of the held one. -/
theorem recordsInOrder_after (records : List FixtureRecord) (inputs : List Input) :
    Historic (InOrder records) ((machine records).after initial inputs).told ∧
      commits ((machine records).after initial inputs).told =
        (List.range ((machine records).after initial inputs).index).map .fixture ∧
      pausedAfter ((machine records).after initial inputs).told =
        ((machine records).after initial inputs).paused :=
  have h := (kept_after inputs).lawful
  ⟨h.ordered, h.commits, h.paused⟩

/-- The operations take effect one after the other in the order in which they were called, and
each answers once: an `advance` with the number of records it committed, short of its count
only at the end, when stopped or after an outcome other than to commit. -/
theorem callsInTurn_after (records : List FixtureRecord) (inputs : List Input) :
    Historic (InTurn records) ((machine records).after initial inputs).told ∧
      ∃ waiting, ((machine records).after initial inputs).chain <:+ waiting ∧
        (answers ((machine records).after initial inputs).told ++ waiting).map
          FixtureCall.number = List.range ((machine records).after initial inputs).calls :=
  have h := (kept_after inputs).lawful
  ⟨h.inTurn, h.numbers⟩

/-! ## Progress -/

/-- The turns of an `advance` for records that the sink lets commit. -/
def turns : ℕ → List Input
  | 0 => []
  | count + 1 => .processed (some .commit) :: .loop :: turns count

theorem advanceLoop_turns (call : FixtureCall) (count steps : ℕ) :
    ∀ (advanced : ℕ) (s : FixtureSource), s.stopped = false →
      steps = min (count - advanced) (records.length - s.index) →
      let t := (machine records).after (advanceLoop records call count advanced s) (turns steps)
      t.turn = none ∧ t.index = s.index + steps ∧ t.paused = s.paused ∧
        t.told.getLast? = some (.answered call (.advanced (advanced + steps))) := by
  induction steps with
  | zero =>
      intro advanced s hstopped hsteps
      have hend : ¬ (advanced < count ∧ s.index < records.length ∧ ¬ s.stopped) := by
        rintro ⟨hlt, hindex, -⟩
        omega
      have heq : advanceLoop records call count advanced s =
          finish call (.advanced advanced) s := if_neg hend
      simp [turns, heq, finish]
  | succ steps ih =>
      intro advanced s hstopped hsteps
      have hlt : advanced < count := by omega
      have hindex : s.index < records.length := by omega
      have hgo : advanced < count ∧ s.index < records.length ∧ ¬ s.stopped :=
        ⟨hlt, hindex, by simp [hstopped]⟩
      have hrecord : records[s.index]? = some records[s.index] := List.getElem?_eq_getElem hindex
      let t := settle call (some (count, advanced)) (records[s.index].sourceInput s.index) .commit
        { s with
          turn := some (.processing call (some (count, advanced))
            (records[s.index].sourceInput s.index))
          told := s.told ++ [.processing call (records[s.index].sourceInput s.index)] }
      have hnext : (machine records).after (advanceLoop records call count advanced s)
          (turns (steps + 1)) =
          (machine records).after (advanceLoop records call count (advanced + 1) t)
            (turns steps) := by
        simp only [advanceLoop, if_pos hgo, process, hrecord, turns, Machine.after_cons]
        rfl
      obtain ⟨hturn, hmoved, hpaused, hlast⟩ := ih (advanced + 1) t hstopped (by
        change steps = min (count - (advanced + 1)) (records.length - (s.index + 1))
        omega)
      refine ⟨by rw [hnext, hturn], ?_, by rw [hnext, hpaused]; rfl, ?_⟩
      · rw [hnext, hmoved]
        change s.index + 1 + steps = s.index + (steps + 1)
        omega
      · rw [hnext, hlast, Nat.add_assoc, Nat.add_comm 1 steps]

/-- An `advance` whose turn has come, on a source that is neither paused nor stopped, ends
after as many commits as were asked for or as records are left, and answers that number. -/
theorem advance_answers {chain : List FixtureCall} {count : ℕ} (hturn : s.turn = none)
    (hchain : s.chain = call :: chain) (hjob : call.job = .advance count)
    (hpaused : s.paused = false) (hstopped : s.stopped = false) :
    let steps := min count (records.length - s.index)
    let t := (machine records).after s (.begin :: turns steps)
    t.turn = none ∧ t.index = s.index + steps ∧ t.paused = false ∧
      t.told.getLast? = some (.answered call (.advanced steps)) := by
  intro steps t
  have hbegin : step records s .begin =
      advanceLoop records call count 0 { s with chain := chain } := by
    simp [step, hturn, hchain, run, hjob, hstopped, hpaused]
  have hloop := @advanceLoop_turns records call count steps 0
    { s with chain := chain } hstopped (by simp [steps])
  have ht : t = (machine records).after
      (advanceLoop records call count 0 { s with chain := chain }) (turns steps) :=
    congrArg (fun u => (machine records).after u (turns steps)) hbegin
  rw [ht]
  simpa [hpaused] using hloop

def sampleRecords : List FixtureRecord :=
  [⟨some "ord_1", .raw "[]"⟩, ⟨none, .value (.string "ord_2")⟩]

/-- Five records asked of a source that has two. -/
theorem advance_answers_short :
    let t := (machine sampleRecords).after (initial.enqueue (.advance 5))
      [.begin, .processed (some .commit), .loop, .processed (some .commit), .loop]
    t.turn = none ∧ t.index = 2 ∧ t.paused = false ∧
      t.told.getLast? = some (.answered ⟨0, .advance 5⟩ (.advanced 2)) :=
  @advance_answers sampleRecords ⟨0, .advance 5⟩ (initial.enqueue (.advance 5)) [] 5
    rfl rfl rfl rfl rfl

end FixtureSource

end StreamOtter
