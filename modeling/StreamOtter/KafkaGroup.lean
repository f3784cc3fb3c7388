import StreamOtter.KafkaProgress
import StreamOtter.ServiceOrigins

/-!
# A group's committed offset

A Kafka source over a run of processes on one store: the failure service of each process, the
source's adapter, and the group's offsets at the broker.  What the adapter tells the service
reaches it at any time, or never; the adapter advances past a record only where the service asks
for it.
-/

namespace StreamOtter

open FailureStore FailureService KafkaSource

def kafkaPosition : Position → Option KafkaPosition
  | .kafka topic partition offset => some ⟨⟨topic, partition⟩, offset⟩
  | .fixture _ => none

/-- The records of the source that the journal has an advance in progress for. -/
def journaledAdvances (sourceId : String) (j : Journal) : List KafkaPosition :=
  (j.incidents.values.filter fun incident =>
    decide (incident.sourceId = sourceId ∧ incident.progress = .advancePending)).filterMap
      fun incident => kafkaPosition incident.position

structure KafkaGroup where
  service : FailureService
  options : KafkaOptions
  adapter : KafkaSource
  /-- What the adapters of earlier processes passed to `commitOffsets`. -/
  earlier : List KafkaPosition
  /-- The records processed with outcome commit. -/
  processed : List KafkaPosition
  /-- The records that the journal had an advance for after some step. -/
  advances : List KafkaPosition

inductive GroupStep
  | restart (settings : ServiceSettings) (offsets : String → String → ℕ → Except String (Option ℕ))
      (faults : List (Option String)) (readings : List ℕ) (options : KafkaOptions)
  | service (o : Occurrence)
  | adapter (step : KafkaStep)
  | land (offset : KafkaPosition)

/-- The event is the start of another process. -/
def isRestart : Event → Bool
  | .restart _ _ => true
  | _ => false

def advancesPast : KafkaStep → Option KafkaPosition
  | .advancePast position => some position
  | _ => none

namespace KafkaGroup

variable (texts : RecordTexts) (log : KafkaLog) (sourceId : String)

/-- Before the first process, on a store that was never used. -/
def initial (settings : ServiceSettings) (options : KafkaOptions) : KafkaGroup where
  service := FailureService.initial settings
  options := options
  adapter := create options log.committed
  earlier := []
  processed := []
  advances := []

def served (o : Occurrence) (g : KafkaGroup) : KafkaGroup :=
  let service := FailureService.step texts g.service o
  { g with
    service := service
    advances := g.advances ++ journaledAdvances sourceId service.store.journal }

/-- The process ends, wherever its adapter waits, and the next one takes the store over. -/
def restarted (options : KafkaOptions) (g : KafkaGroup) : KafkaGroup :=
  { g with
    options := options
    adapter := create options g.adapter.committed
    earlier := g.earlier ++ g.adapter.calls.map CommitCall.offset }

def step (g : KafkaGroup) : GroupStep → KafkaGroup
  | .restart settings offsets faults readings options =>
      (g.served texts sourceId ⟨.restart settings offsets, faults, readings⟩).restarted options
  | .service o => g.served texts sourceId o
  | .adapter step =>
      { g with
        adapter := g.adapter.step g.options step
        processed := g.processed ++ (g.adapter.processes step).toList }
  | .land offset => { g with adapter := g.adapter.land offset }

/-- The record that the service waits for the adapter to advance past. -/
def asked (g : KafkaGroup) : Option KafkaPosition :=
  match g.service.tasks sourceId with
  | some (.advancing prepared _) => kafkaPosition prepared.position
  | _ => none

/-- The adapter advances past a record where the service asks for it. -/
def Asks (g : KafkaGroup) (step : KafkaStep) : Prop :=
  ∀ position ∈ advancesPast step, g.asked sourceId = some position

/-- When a step can be taken. -/
def Allowed (g : KafkaGroup) : GroupStep → Prop
  | .restart _ _ _ _ _ => True
  | .service o => isRestart o.event = false
  | .adapter step =>
      g.adapter.Enabled step ∧ log.Delivers g.adapter step ∧ g.Asks sourceId step
  | .land offset => offset ∈ g.earlier

instance (g : KafkaGroup) (step : KafkaStep) : Decidable (g.Asks sourceId step) :=
  inferInstanceAs (Decidable (∀ position ∈ advancesPast step, g.asked sourceId = some position))

instance (g : KafkaGroup) : (input : GroupStep) → Decidable (g.Allowed log sourceId input)
  | .restart _ _ _ _ _ => .isTrue trivial
  | .service o => inferInstanceAs (Decidable (isRestart o.event = false))
  | .adapter step =>
      inferInstanceAs (Decidable (g.adapter.Enabled step ∧ log.Delivers g.adapter step ∧
        g.Asks sourceId step))
  | .land offset => inferInstanceAs (Decidable (offset ∈ g.earlier))

def machine : Machine KafkaGroup GroupStep where
  step := step texts sourceId
  allowed := Allowed log sourceId

instance (g : KafkaGroup) (input : GroupStep) :
    Decidable ((machine texts log sourceId).allowed g input) :=
  inferInstanceAs (Decidable (g.Allowed log sourceId input))

/-- No committed offset lies above a record that was neither processed nor had its advance
journaled. -/
def SkipsNothing (g : KafkaGroup) : Prop :=
  ∀ record : KafkaPosition, log.records record → log.start record.key ≤ record.offset →
    record ∉ g.processed → record ∉ g.advances →
      ∀ offset, g.adapter.committed record.key = some offset → offset ≤ record.offset

/-- The record was processed, or an advance past it was journaled. -/
def Accounted (g : KafkaGroup) (record : KafkaPosition) : Prop :=
  record ∈ g.processed ∨ record ∈ g.advances

structure Guarded (g : KafkaGroup) : Prop where
  coherent : Coherent texts g.service
  adapter : Skipless log g.Accounted g.adapter
  earlier : ∀ offset ∈ g.earlier, log.Covered g.Accounted offset.key offset.offset
  advancing : ∀ position, g.asked sourceId = some position → position ∈ g.advances

variable {texts log sourceId} {g : KafkaGroup}

theorem asked_eq_some {position : KafkaPosition} : g.asked sourceId = some position ↔
    ∃ prepared boundaryId, g.service.tasks sourceId = some (.advancing prepared boundaryId) ∧
      kafkaPosition prepared.position = some position := by
  unfold asked
  split
  · rename_i prepared boundaryId htask
    simp [htask]
  · rename_i hnone
    simp only [reduceCtorEq, false_iff, not_exists, not_and]
    exact fun prepared boundaryId htask => absurd htask (hnone prepared boundaryId)

theorem mem_journaledAdvances {j : Journal} {incident : IncidentRecord} {position : KafkaPosition}
    (hstored : j.incidents.get incident.failureId = some incident)
    (hsource : incident.sourceId = sourceId) (hprogress : incident.progress = .advancePending)
    (hposition : kafkaPosition incident.position = some position) :
    position ∈ journaledAdvances sourceId j := by
  refine List.mem_filterMap.mpr ⟨incident, List.mem_filter.mpr ⟨?_, ?_⟩, hposition⟩
  · exact InsertionMap.mem_of_get hstored
  · simp [hsource, hprogress]

theorem guarded_initial (settings : ServiceSettings) (options : KafkaOptions) :
    Guarded texts log sourceId (initial log settings options) where
  coherent := coherent_initial
  adapter := by
    apply skipless_create
    intro key offset hcommitted
    apply KafkaLog.Covered.of_le_start
    simp [KafkaLog.start, hcommitted]
  earlier offset hmem := by cases hmem
  advancing position hasks := by
    obtain ⟨prepared, boundaryId, htask, -⟩ := asked_eq_some.mp hasks
    cases htask

/-- An advance that the service comes to ask for is in the journal. -/
theorem Guarded.asked (h : Guarded texts log sourceId g) (o : Occurrence) {position : KafkaPosition}
    (hasks : (g.served texts sourceId o).asked sourceId = some position) :
    position ∈ (g.served texts sourceId o).advances := by
  obtain ⟨prepared, boundaryId, htask, hposition⟩ := asked_eq_some.mp hasks
  have hafter := h.coherent.step o
  have hstep := @step_cases texts g.service h.coherent.snapshots o
  have hkept : g.service.tasks sourceId = some (.advancing prepared boundaryId) →
      position ∈ (g.served texts sourceId o).advances := fun hbefore =>
    List.mem_append_left _
      (h.advancing position (asked_eq_some.mpr ⟨prepared, boundaryId, hbefore, hposition⟩))
  change (FailureService.step texts g.service o).tasks sourceId = _ at htask
  unfold served at hkept ⊢
  dsimp only at hkept ⊢
  generalize FailureService.step texts g.service o = service at hstep htask hafter hkept ⊢
  cases hstep with
  | restarted =>
      have htasks := (@restart_wrote texts g.service o.event _ _ ‹_› (g.service.given o).store).2
      rw [htasks] at htask
      cases htask
  | nothing => exact hkept htask
  | handled _ _ _ _ hstepped _ =>
      rcases hstepped.tasks sourceId _ htask with ⟨hbefore, -⟩ | henters
      · exact hkept hbefore
      · cases henters with
        | advancing _ _ hprepares =>
            obtain ⟨hstored, hadvancing⟩ := hprepares.stored
            have hnamed : Named texts prepared := hafter.named _ _ hstored
            have hid := hafter.prepared sourceId _ htask prepared rfl
            obtain ⟨hsource, -⟩ := failureId_inj (hnamed.symm.trans hid)
            exact List.mem_append_right _
              (mem_journaledAdvances hstored hsource hadvancing.progress hposition)

theorem Guarded.served (h : Guarded texts log sourceId g) (o : Occurrence) :
    Guarded texts log sourceId (g.served texts sourceId o) := by
  have hmore : ∀ record, g.Accounted record → (g.served texts sourceId o).Accounted record :=
    fun record => Or.imp id (List.mem_append_left _)
  exact
    { coherent := h.coherent.step o
      adapter := h.adapter.mono hmore
      earlier := fun offset hmem => (h.earlier offset hmem).mono hmore
      advancing := fun _ => h.asked o }

/-- The offsets that a process asked for may still be committed after its end. -/
theorem Guarded.restarted (h : Guarded texts log sourceId g) (options : KafkaOptions) :
    Guarded texts log sourceId (g.restarted options) := by
  refine { h with adapter := skipless_create h.adapter.committed, earlier := ?_ }
  intro offset hmem
  rcases List.mem_append.mp hmem with hold | hcalled
  · exact h.earlier offset hold
  · obtain ⟨call, hcall, rfl⟩ := List.mem_map.mp hcalled
    exact h.adapter.calls call hcall

theorem guarded_step {input : GroupStep} (h : Guarded texts log sourceId g)
    (hallowed : g.Allowed log sourceId input) :
    Guarded texts log sourceId (g.step texts sourceId input) := by
  cases input with
  | restart settings offsets faults readings options => exact (h.served _).restarted options
  | service o => exact h.served o
  | adapter step =>
      obtain ⟨henabled, hdelivers, hasks⟩ := hallowed
      let accounted := KafkaGroup.Accounted (g.step texts sourceId (.adapter step))
      have hmore : ∀ record, g.Accounted record → accounted record := fun record =>
        Or.imp (List.mem_append_left _) id
      refine
        { coherent := h.coherent
          adapter := skipless_step (h.adapter.mono hmore) henabled hdelivers ?_ ?_
          earlier := fun offset hmem => (h.earlier offset hmem).mono hmore
          advancing := h.advancing }
      · intro position hposition
        exact .inl (List.mem_append_right _ (Option.mem_toList.mpr hposition))
      · rintro position rfl
        exact .inr (h.advancing position (hasks position rfl))
  | land offset => exact { h with adapter := h.adapter.land (h.earlier offset hallowed) }

theorem Guarded.skipsNothing (h : Guarded texts log sourceId g) : g.SkipsNothing log := by
  intro record hexists hstart hprocessed hadvances offset hcommitted
  by_contra hlt
  rcases h.adapter.committed record.key offset hcommitted record rfl hexists hstart
    (Nat.lt_of_not_le hlt) with hdone | hdone
  · exact hprocessed hdone
  · exact hadvances hdone

theorem skipsNothing_after (texts : RecordTexts) (log : KafkaLog) (sourceId : String)
    (settings : ServiceSettings) (options : KafkaOptions) (inputs : List GroupStep)
    (hrun : (machine texts log sourceId).Admits (initial log settings options) inputs) :
    SkipsNothing log ((machine texts log sourceId).after (initial log settings options) inputs) := by
  have hguarded : Guarded texts log sourceId
      ((machine texts log sourceId).after (initial log settings options) inputs) := by
    refine Machine.invariant (P := Guarded texts log sourceId) ?_ (guarded_initial settings options)
      hrun
    exact fun _ _ h hallowed => guarded_step h hallowed
  exact hguarded.skipsNothing

section Sample

/-- A group that starts at record 5 of its partition. -/
def sampleLog : KafkaLog where
  records record := decide (record.key = sampleKey)
  committed _ := none
  first _ := 5

def sampleStart (fetchFrom : ℕ) : List GroupStep :=
  [.restart (ordersUnder .quarantineResync) (fun _ _ _ => .ok none) [] [] ⟨false, false⟩,
    .adapter .start, .adapter (.groupJoin [sampleKey] fun _ => fetchFrom), .adapter .fetchStart]

/-- Record 5 is processed and record 6 advanced past; the next process commits late what its
predecessor asked for. -/
def advancedOnce : List GroupStep :=
  sampleStart 5 ++
    ([.eachBatch sampleKey [5, 6], .message true false, .processed (some .commit),
      .beforeCommit true, .turn, .commitOffsets, .settle true, .beat true, .message true false,
      .processed (some .pause)].map .adapter ++
    ((calmly [.held "orders" (orderAt 6 [1]) invalidOrder, .begin "orders",
      .written "orders" (.acknowledged 0 0), .guarded "orders" recoverableAnswer "b1"]).map .service ++
    ([.advancePast ⟨sampleKey, 6⟩, .turn, .commitOffsets].map .adapter ++
    (sampleStart 5 ++ [.land ⟨sampleKey, 6⟩, .land ⟨sampleKey, 7⟩]))))

theorem skipsNothing_advancedOnce :
    ((machine plainTexts sampleLog "orders").after
      (initial sampleLog (ordersUnder .quarantineResync) ⟨false, false⟩)
        advancedOnce).SkipsNothing sampleLog := by
  apply skipsNothing_after
  decide +kernel

example : ((machine plainTexts sampleLog "orders").after
    (initial sampleLog (ordersUnder .quarantineResync) ⟨false, false⟩)
      advancedOnce).adapter.committed sampleKey = some 7 := by
  decide +kernel

end Sample

end KafkaGroup

end StreamOtter
