import StreamOtter.ServiceSteps

/-!
# What a run of the failure service keeps

One change moves one incident at most.  Where an incident comes from and its evidence never
change; the incidents that are open, and those that the service works on, are of the generation
that its process is configured with; and a prepared advance has its boundary.
-/

namespace StreamOtter

open FailureStore Relation

namespace FailureService

variable {texts : RecordTexts} {f f' : FailureService} {e : Event} {settings : ServiceSettings}
  {sourceId : String} {record : IncidentRecord} {j j' : Journal}

/-! ### One incident -/

/-- The first job of the source is a disposition, which makes the observation. -/
def Observes (texts : RecordTexts) (f : FailureService) (e : Event) (sourceId : String)
    (observation : NewObservation) : Prop :=
  ∃ input outcome rest observedAt, e = .begin sourceId ∧ f.tasks sourceId = none ∧
    f.chains sourceId = .dispose input outcome :: rest ∧
      observation = observationOf f.settings texts sourceId input outcome
        (policyFor (f.settings.source sourceId).policy outcome.failureClass)
        (f.settings.summarize texts sourceId (rawEvidence input)
          (policyFor (f.settings.source sourceId).policy outcome.failureClass)) observedAt

/-- What a change makes of an incident, with the boundaries that are stored after it. -/
inductive Moved (texts : RecordTexts) (f : FailureService) (e : Event)
    (boundaries : InsertionMap StoredBoundary.boundaryId) :
    Option IncidentRecord → IncidentRecord → Prop
  | same (record : IncidentRecord) : Moved texts f e boundaries (some record) record
  | patched {record : IncidentRecord} {patch : IncidentPatch} (time : String)
      (hmakes : Makes f e record patch) :
      Moved texts f e boundaries (some record) (patched patch time record)
  | first {sourceId : String} {observation : NewObservation}
      (hobserves : Observes texts f e sourceId observation) :
      Moved texts f e boundaries none (newIncident observation)
  | again {sourceId : String} {observation : NewObservation} {existing : IncidentRecord}
      (hobserves : Observes texts f e sourceId observation)
      (hid : observation.failureId = existing.failureId) :
      Moved texts f e boundaries (some existing) (observedAgain observation existing).1
  | prepared {sourceId : String} {answer : HandlerAnswer} {pending : IncidentRecord}
      {prior : Option StoredBoundary} {input : PrepareAdvance}
      (hevent : e = .guarded sourceId answer input.boundaryId)
      (htask : f.tasks sourceId = some (.guarding pending prior)) (hopen : pending.state = .opened)
      (hstored : ∃ boundary, boundaries.get input.boundaryId = some boundary ∧
        boundary.sourceId = pending.sourceId ∧ boundary.createdAt = input.time) :
      Moved texts f e boundaries (some pending) (advancedIncident input pending).1

/-- An incident is still not stored, or it is moved. -/
def Moves (texts : RecordTexts) (f : FailureService) (e : Event) (j j' : Journal)
    (failureId : String) : Prop :=
  (j.incidents.get failureId = none ∧ j'.incidents.get failureId = none) ∨
    ∃ after, j'.incidents.get failureId = some after ∧
      Moved texts f e j'.boundaries (j.incidents.get failureId) after

theorem moves_of_same (hsame : j'.incidents = j.incidents) (failureId : String) :
    Moves texts f e j j' failureId := by
  unfold Moves
  rw [hsame]
  cases j.incidents.get failureId with
  | none => exact .inl ⟨rfl, rfl⟩
  | some record => exact .inr ⟨record, rfl, .same record⟩

/-- One incident is stored anew. -/
theorem moves_of_set
    {after : IncidentRecord} (hafter : j'.incidents = j.incidents.set after)
    (hmoved : Moved texts f e j'.boundaries (j.incidents.get after.failureId) after) (failureId : String) :
    Moves texts f e j j' failureId := by
  unfold Moves
  rw [hafter, InsertionMap.get_set]
  by_cases hid : failureId = after.failureId
  · rw [if_pos hid, hid]
    exact .inr ⟨after, rfl, hmoved⟩
  · rw [if_neg hid]
    cases j.incidents.get failureId with
    | none => exact .inl ⟨rfl, rfl⟩
    | some record => exact .inr ⟨record, rfl, .same record⟩

theorem Change.moves (h : Change texts f e j j') (failureId : String) :
    Moves texts f e j j' failureId := by
  cases h with
  | @patched record patch event hget hmakes =>
      apply @moves_of_set texts f e _ _ (FailureStore.patched patch event.time record) rfl
      show Moved texts f e _ (j.incidents.get record.failureId) _
      rw [hget]
      exact .patched event.time hmakes
  | @observed sourceId input outcome rest observedAt hevent htask hchain =>
      generalize hobservation : observationOf f.settings texts sourceId input outcome
        (policyFor (f.settings.source sourceId).policy outcome.failureClass)
        (f.settings.summarize texts sourceId (rawEvidence input)
          (policyFor (f.settings.source sourceId).policy outcome.failureClass)) observedAt =
          observation
      have hobserves : Observes texts f e sourceId observation :=
        ⟨input, outcome, rest, observedAt, hevent, htask, hchain, hobservation.symm⟩
      unfold Journal.observe
      cases hget : j.incidents.get observation.failureId with
      | none =>
          apply @moves_of_set texts f e _ _ (newIncident observation) rfl
          have hbefore : j.incidents.get (newIncident observation).failureId = none := hget
          rw [hbefore]
          exact .first hobserves
      | some existing =>
          apply @moves_of_set texts f e _ _ (observedAgain observation existing).1 rfl
          have hid := InsertionMap.key_of_get hget
          rw [observedAgain_failureId, hid, hget]
          exact .again hobserves hid.symm
  | @prepared _ sourceId answer pending prior input reply hevent htask hid hget hcall =>
      obtain ⟨canonical, record, -, hfound, hopen, -, -, -, -, -, rfl⟩ :=
        Journal.prepareAdvance_ok hcall
      rw [hid] at hfound
      obtain rfl : pending = record := Option.some.inj (hget.symm.trans hfound)
      apply moves_of_set rfl
      have hbefore : j.incidents.get (advancedIncident input pending).1.failureId = some pending :=
        hget
      rw [hbefore]
      exact .prepared hevent htask hopen
        ⟨_, InsertionMap.get_set_self _ (nextBoundary _ _ _ _), rfl, rfl⟩
  | circuitOpened _ _ _ hcall =>
      obtain ⟨-, rfl⟩ := Journal.updateCircuit_ok hcall
      exact @moves_of_same texts f e j _ rfl failureId
  | circuitClosed _ _ hcall =>
      obtain ⟨-, rfl⟩ := Journal.updateCircuit_ok hcall
      exact @moves_of_same texts f e j _ rfl failureId
  | retired hcall =>
      obtain ⟨boundary, -, -, -, -, -, hafter⟩ := Journal.retireBoundary_ok hcall
      apply moves_of_same
      rw [hafter]
  | claimed time sources _ => exact moves_of_same (Journal.claim_incidents time sources) failureId

/-- Back from an incident that is stored. -/
theorem Change.moved (h : Change texts f e j j') {failureId : String} {after : IncidentRecord}
    (hget : j'.incidents.get failureId = some after) :
    Moved texts f e j'.boundaries (j.incidents.get failureId) after := by
  rcases h.moves failureId with ⟨-, hnone⟩ | ⟨after', hget', hmoved⟩
  · rw [hnone] at hget
    cases hget
  · obtain rfl := Option.some.inj (hget.symm.trans hget')
    exact hmoved

/-- On from an incident that was stored. -/
theorem Change.moves_on (h : Change texts f e j j') {failureId : String} {before : IncidentRecord}
    (hget : j.incidents.get failureId = some before) :
    ∃ after, j'.incidents.get failureId = some after ∧
      Moved texts f e j'.boundaries (some before) after := by
  rcases h.moves failureId with ⟨hnone, -⟩ | ⟨after, hget', hmoved⟩
  · rw [hnone] at hget
    cases hget
  · rw [hget] at hmoved
    exact ⟨after, hget', hmoved⟩

/-! ### What a patch leaves alone -/

theorem Makes.evidence {patch : IncidentPatch} (h : Makes f e record patch) :
    patch.evidence = none := by
  cases h with
  | quiet h => exact h.evidence
  | _ => rfl

theorem Makes.boundaryId {patch : IncidentPatch} (h : Makes f e record patch) :
    patch.boundaryId = none := by
  cases h with
  | quiet h => exact h.boundaryId
  | _ => rfl

/-- No patch opens an incident. -/
theorem Makes.state {patch : IncidentPatch} (h : Makes f e record patch) :
    patch.state = none ∨ patch.state = some .resolved := by
  cases h with
  | quiet h => exact .inl h.state
  | processed | advanced => exact .inr rfl
  | acknowledged | guardPending | returned | uncertain => exact .inl rfl

theorem Moved.sameOrigin {boundaries : InsertionMap StoredBoundary.boundaryId}
    {before after : IncidentRecord} (h : Moved texts f e boundaries (some before) after) : SameOrigin before after := by
  cases h with
  | same => exact .rfl
  | patched time hmakes => exact sameOrigin_patched hmakes.evidence time
  | again => exact sameOrigin_observedAgain _ _
  | prepared => exact ⟨rfl, rfl, rfl, rfl, rfl, rfl⟩

theorem observedAgain_boundaryId (observation : NewObservation) (existing : IncidentRecord) :
    (observedAgain observation existing).1.boundaryId = existing.boundaryId := by
  unfold observedAgain reopened applyPolicy
  dsimp only
  repeat' split
  all_goals rfl

/-- An incident that is observed again keeps its progress, or it is open again and held. -/
theorem observedAgain_progress (observation : NewObservation) (existing : IncidentRecord) :
    (observedAgain observation existing).1.state = .opened ∧
      ((observedAgain observation existing).1.progress = existing.progress ∧
          existing.state = .opened ∨
        (observedAgain observation existing).1.progress = .held ∧ existing.state = .resolved) := by
  have hstates : existing.state = .opened ∨ existing.state = .resolved := by
    cases existing.state <;> simp
  unfold observedAgain reopened applyPolicy
  dsimp only
  repeat' split
  all_goals simp_all

theorem observedAgain_unresolved {observation : NewObservation} {existing : IncidentRecord}
    (h : isUnresolved (observedAgain observation existing).1) : isUnresolved existing := by
  unfold isUnresolved at h ⊢
  rcases (observedAgain_progress observation existing).2 with ⟨hsame, -⟩ | ⟨hheld, -⟩
  · rw [hsame] at h
    exact h
  · rw [hheld] at h
    simp at h

/-- Over the changes of a step, an incident stays stored, with its origin. -/
theorem changes_sameOrigin
    (h : ReflTransGen (Change texts f e) j j') {failureId : String} {before : IncidentRecord}
    (hget : j.incidents.get failureId = some before) :
    ∃ after, j'.incidents.get failureId = some after ∧ SameOrigin before after := by
  induction h with
  | refl => exact ⟨before, hget, .rfl⟩
  | tail _ hchange ih =>
      obtain ⟨middle, hmiddle, hsame⟩ := ih
      obtain ⟨after, hafter, hmoved⟩ := Change.moves_on hchange hmiddle
      exact ⟨after, hafter, hsame.trans hmoved.sameOrigin⟩

/-- What every incident keeps that a change moves, every incident keeps over a step. -/
theorem changes_keep {P : IncidentRecord → Prop}
    (h : ReflTransGen (Change texts f e) j j')
    (hmoved : ∀ boundaries before after, (∀ record ∈ before, P record) →
      Moved texts f e boundaries before after → P after)
    (hbefore : ∀ failureId record, j.incidents.get failureId = some record → P record) :
    ∀ failureId record, j'.incidents.get failureId = some record → P record := by
  induction h with
  | refl => exact hbefore
  | tail _ hchange ih =>
      intro failureId record hget
      exact hmoved _ _ _ (ih failureId) (Change.moved hchange hget)

/-! ### The names of incidents -/

theorem failureId_inj {sourceId sourceId' generation generation' : String}
    {position position' : Position}
    (h : texts.failureId sourceId generation position =
      texts.failureId sourceId' generation' position') :
    sourceId = sourceId' ∧ generation = generation' ∧ position = position' := by
  apply texts.sourceRecordId_inj
  exact String.append_right_inj "f1:" |>.mp h

/-- The incident is named after its record. -/
def Named (texts : RecordTexts) (record : IncidentRecord) : Prop :=
  record.failureId = texts.failureId record.sourceId record.generation record.position

def JournalNamed (texts : RecordTexts) (j : Journal) : Prop :=
  ∀ failureId record, j.incidents.get failureId = some record → Named texts record

theorem Named.of_sameOrigin {before after : IncidentRecord} (h : Named texts before)
    (hsame : SameOrigin before after) : Named texts after := by
  unfold Named
  rw [hsame.failureId, hsame.sourceId, hsame.generation, hsame.position]
  exact h

theorem changes_named (h : ReflTransGen (Change texts f e) j j') (hnamed : JournalNamed texts j) :
    JournalNamed texts j' := by
  refine changes_keep h ?_ hnamed
  intro boundaries before after hbefore hmoved
  cases before with
  | none =>
      cases hmoved with
      | first hobserves =>
          obtain ⟨input, outcome, rest, observedAt, -, -, -, rfl⟩ := hobserves
          rfl
  | some record => exact (hbefore record rfl).of_sameOrigin hmoved.sameOrigin

/-! ### Boundaries -/

/-- An incident whose advance was begun names its boundary, which is stored. -/
structure Bounded (j : Journal) (record : IncidentRecord) : Prop where
  unresolved : isUnresolved record → record.boundaryId ≠ none
  stored : ∀ boundaryId, record.boundaryId = some boundaryId →
    ∃ boundary, j.boundaries.get boundaryId = some boundary ∧ boundary.sourceId = record.sourceId

def JournalBounded (j : Journal) : Prop :=
  ∀ failureId record, j.incidents.get failureId = some record → Bounded j record

@[simp] theorem patched_progress (patch : IncidentPatch) (time : String) (record : IncidentRecord) :
    (patched patch time record).progress = patch.progress.getD record.progress :=
  rfl

@[simp] theorem patched_state (patch : IncidentPatch) (time : String) (record : IncidentRecord) :
    (patched patch time record).state = patch.state.getD record.state :=
  rfl

theorem Makes.unresolved {patch : IncidentPatch} {time : String} (h : Makes f e record patch)
    (hunresolved : isUnresolved (patched patch time record)) : isUnresolved record := by
  cases h with
  | quiet h =>
      cases hprogress : patch.progress with
      | none => simpa [isUnresolved, hprogress] using hunresolved
      | some progress =>
          have hat := (h.progress progress hprogress).2
          cases progress <;> simp [isUnresolved, hprogress, atPosition] at hunresolved hat
  | processed | advanced | returned =>
      simp [isUnresolved, processedPatch, advancedPatch] at hunresolved
  | acknowledged | guardPending => exact hunresolved
  | uncertain _ hbefore => exact hbefore

theorem Change.bounded (h : Change texts f e j j') (hbounded : JournalBounded j) :
    JournalBounded j' := by
  have hstay := next_boundaries h.next
  -- The boundary that an incident names stays stored.
  have hkept : ∀ {before after : IncidentRecord}, Bounded j before →
      after.boundaryId = before.boundaryId → after.sourceId = before.sourceId →
      ∀ boundaryId, after.boundaryId = some boundaryId →
        ∃ boundary, j'.boundaries.get boundaryId = some boundary ∧
          boundary.sourceId = after.sourceId := by
    intro before after hbefore hid hsource boundaryId hnames
    obtain ⟨boundary, hget, hof⟩ := hbefore.stored boundaryId (hid.symm.trans hnames)
    obtain ⟨boundary', hget', hof', -⟩ := hstay boundaryId boundary hget
    exact ⟨boundary', hget', by rw [hof', hof, hsource]⟩
  intro failureId after hget
  have hmoved := h.moved hget
  cases hbefore : j.incidents.get failureId with
  | none =>
      rw [hbefore] at hmoved
      cases hmoved with
      | first hobserves =>
          refine ⟨fun hunresolved => ?_, fun boundaryId hnames => ?_⟩
          · simp [isUnresolved, newIncident] at hunresolved
          · simp [newIncident] at hnames
  | some before =>
      rw [hbefore] at hmoved
      have hrecord := hbounded failureId before hbefore
      cases hmoved with
      | same => exact ⟨hrecord.unresolved, hkept hrecord rfl rfl⟩
      | @patched _ patch time hmakes =>
          have hid : (FailureStore.patched patch time before).boundaryId = before.boundaryId := by
            show patch.boundaryId.getD before.boundaryId = before.boundaryId
            rw [hmakes.boundaryId]
            rfl
          refine ⟨fun hunresolved => ?_, hkept hrecord hid rfl⟩
          rw [hid]
          exact hrecord.unresolved (hmakes.unresolved hunresolved)
      | @again _ observation _ hobserves hid =>
          have hsame := sameOrigin_observedAgain observation before
          have hboundary := observedAgain_boundaryId observation before
          refine ⟨fun hunresolved => ?_, hkept hrecord hboundary hsame.sourceId⟩
          rw [hboundary]
          exact hrecord.unresolved (observedAgain_unresolved hunresolved)
      | prepared hevent htask hopen hstored =>
          refine ⟨fun _ => by simp [advancedIncident], ?_⟩
          rintro boundaryId ⟨⟩
          obtain ⟨boundary, hget, hof, -⟩ := hstored
          exact ⟨boundary, hget, hof⟩

theorem changes_bounded (h : ReflTransGen (Change texts f e) j j') (hbounded : JournalBounded j) :
    JournalBounded j' := by
  induction h with
  | refl => exact hbounded
  | tail _ hchange ih => exact hchange.bounded ih

/-! ### Generations -/

/-- What is open of a configured source is of its generation. -/
def Current (settings : ServiceSettings) (j : Journal) (sourceId : String) : Prop :=
  ∀ record ∈ j.opened sourceId, record.generation = (settings.source sourceId).generation

theorem mem_opened_iff :
    record ∈ j.opened sourceId ↔ j.incidents.get record.failureId = some record ∧
      record.sourceId = sourceId ∧ record.state = .opened := by
  rw [mem_opened, InsertionMap.get_eq_some]
  simp

/-- What a change opens is observed; everything else that is open was open. -/
theorem Change.opened (h : Change texts f e j j') (hrecord : record ∈ j'.opened sourceId) :
    (∃ before ∈ j.opened sourceId, SameOrigin before record) ∨
      ∃ observation source, Observes texts f e source observation ∧
        record.failureId = observation.failureId := by
  obtain ⟨hget, hsource, hopen⟩ := mem_opened_iff.mp hrecord
  have hmoved := h.moved hget
  have hfrom : ∀ before, j.incidents.get record.failureId = some before →
      SameOrigin before record → before.state = .opened →
        ∃ before ∈ j.opened sourceId, SameOrigin before record := by
    intro before hbefore hsame hbeforeOpen
    refine ⟨before, mem_opened_iff.mpr ⟨?_, hsame.sourceId.symm.trans hsource, hbeforeOpen⟩, hsame⟩
    rw [← hsame.failureId]
    exact hbefore
  cases hbefore : j.incidents.get record.failureId with
  | none =>
      rw [hbefore] at hmoved
      cases hmoved with
      | first hobserves => exact .inr ⟨_, _, hobserves, rfl⟩
  | some before =>
      rw [hbefore] at hmoved
      have hsame := hmoved.sameOrigin
      cases hmoved with
      | same => exact .inl (hfrom _ hbefore hsame hopen)
      | @patched _ patch time hmakes =>
          refine .inl (hfrom _ hbefore hsame ?_)
          rcases hmakes.state with hstate | hstate
          · rw [patched_state, hstate] at hopen
            exact hopen
          · rw [patched_state, hstate] at hopen
            cases hopen
      | again hobserves hid =>
          refine .inr ⟨_, _, hobserves, ?_⟩
          rw [hsame.failureId, hid]
      | prepared _ _ hbeforeOpen => exact .inl (hfrom _ hbefore hsame hbeforeOpen)

theorem observes_failureId {observation : NewObservation}
    (h : Observes texts f e sourceId observation) : ∃ position,
      observation.failureId =
        texts.failureId sourceId (f.settings.source sourceId).generation position := by
  obtain ⟨input, outcome, rest, observedAt, -, -, -, rfl⟩ := h
  exact ⟨input.position, rfl⟩

theorem changes_current
    (h : ReflTransGen (Change texts f e) j j') (hnamed : JournalNamed texts j)
    (hcurrent : Current f.settings j sourceId) : Current f.settings j' sourceId := by
  induction h with
  | refl => exact hcurrent
  | tail hchanges hchange ih =>
      intro record hrecord
      rcases Change.opened hchange hrecord with ⟨before, hbefore, hsame⟩ |
        ⟨observation, source, hobserves, hid⟩
      · rw [hsame.generation]
        exact ih before hbefore
      · obtain ⟨position, hobserved⟩ := observes_failureId hobserves
        obtain ⟨hget, hsource, -⟩ := mem_opened_iff.mp hrecord
        have hnamedAfter := changes_named (hchanges.tail hchange) hnamed _ _ hget
        obtain ⟨hsame, hgeneration, -⟩ :=
          failureId_inj (hnamedAfter.symm.trans (hid.trans hobserved))
        rw [hgeneration, ← hsame, hsource]

/-- Where nothing is observed, nothing is opened. -/
theorem changes_opened
    (h : ReflTransGen (Change texts f e) j j')
    (hobserves : ∀ source observation, ¬ Observes texts f e source observation)
    (hrecord : record ∈ j'.opened sourceId) : ∃ before ∈ j.opened sourceId,
      SameOrigin before record := by
  induction h generalizing record with
  | refl => exact ⟨record, hrecord, .rfl⟩
  | tail _ hchange ih =>
      rcases Change.opened hchange hrecord with ⟨middle, hmiddle, hsame⟩ |
        ⟨observation, source, hobs, -⟩
      · obtain ⟨before, hbefore, hsame'⟩ := ih hmiddle
        exact ⟨before, hbefore, hsame'.trans hsame⟩
      · exact absurd hobs (hobserves source observation)

theorem not_observes (hbegin : ∀ source, e ≠ .begin source) (source : String)
    (observation : NewObservation) : ¬ Observes texts f e source observation := by
  rintro ⟨_, _, _, _, hevent, -⟩
  exact hbegin source hevent

theorem current_of_restart
    {offsets : String → String → ℕ → Except String (Option ℕ)}
    (h : ReflTransGen (Change texts f (.restart settings offsets)) j j')
    (hcurrent : Current settings j sourceId) : Current settings j' sourceId := by
  intro record hrecord
  obtain ⟨before, hbefore, hsame⟩ := changes_opened h (not_observes (by simp)) hrecord
  rw [hsame.generation]
  exact hcurrent before hbefore

section Start

variable {offsets : String → String → ℕ → Except String (Option ℕ)}

open StoreAccess

/-- A source that started has only incidents of its generation open. -/
theorem startSource_current (texts : RecordTexts) (g : FailureService)
    (hdone : (startSource settings offsets sourceId g).1 = true) :
    Current settings (startSource settings offsets sourceId g).2.store.journal sourceId := by
  obtain ⟨hwrote, -⟩ := @startSource_wrote texts g (.restart settings offsets) settings sourceId
    offsets rfl g
  apply current_of_restart hwrote.journal
  intro record hrecord
  unfold startSource at hdone
  obtain ⟨message, s₁, hread, hsame⟩ | ⟨s₁, hread, hsame⟩ :=
    read_cases (fun j => j.opened sourceId) g.store
  · rw [hread] at hdone
    cases hdone
  · rw [hread] at hdone
    dsimp only at hdone
    split at hdone
    · cases hdone
    · rename_i hgenerations
      simp only [List.any_eq_true, decide_eq_true_eq, not_exists, not_and, not_not] at hgenerations
      exact hgenerations record hrecord

theorem startSources_current (texts : RecordTexts) (sources : List String) (g : FailureService)
    (hdone : (startSources settings offsets sources g).1 = true) :
    ∀ sourceId ∈ sources,
      Current settings (startSources settings offsets sources g).2.store.journal sourceId := by
  induction sources generalizing g with
  | nil => simp
  | cons first rest ih =>
      unfold startSources at hdone ⊢
      have hfirst := @startSource_current settings first offsets texts g
      rcases hresult : startSource settings offsets first g with ⟨done, g₁⟩
      rw [hresult] at hdone hfirst
      cases done with
      | false => cases hdone
      | true =>
          dsimp only at hdone ⊢
          intro sourceId hsource
          obtain ⟨hwrote, -⟩ := @startSources_wrote texts g (.restart settings offsets) settings
            offsets rfl rest g₁
          rcases List.mem_cons.mp hsource with rfl | hrest
          · exact current_of_restart hwrote.journal (hfirst rfl)
          · exact ih g₁ hdone sourceId hrest

theorem restart_current (texts : RecordTexts) (s : StoreAccess)
    (hstarted : (restart settings offsets s).started = true) :
    ∀ sourceId ∈ settings.sources,
      Current settings (restart settings offsets s).store.journal sourceId := by
  unfold restart at hstarted ⊢
  rcases htime : s.nowIso with ⟨time, s₁⟩
  rw [htime] at hstarted
  dsimp only at hstarted ⊢
  rcases hcall : s₁.call (.claim "" (settings.sources.map fun sourceId =>
      (⟨sourceId, (settings.source sourceId).generation, (settings.source sourceId).kind⟩ :
        SourceIdentity)) time) with ⟨answer, s₂⟩
  rw [hcall] at hstarted
  cases answer with
  | error refusal => cases hstarted
  | ok reply =>
      exact startSources_current texts settings.sources (fresh settings s₂) hstarted

theorem startSource_process (g : FailureService) :
    SameProcess g (startSource settings offsets sourceId g).2 := by
  unfold startSource
  dsimp only
  repeat' split
  all_goals exact ⟨rfl, rfl, rfl, rfl, rfl⟩

theorem startSources_process (sources : List String) (g : FailureService) :
    SameProcess g (startSources settings offsets sources g).2 := by
  induction sources generalizing g with
  | nil => exact .rfl
  | cons first rest ih =>
      have hfirst := @startSource_process settings first offsets g
      unfold startSources
      rcases hresult : startSource settings offsets first g with ⟨done, g₁⟩
      rw [hresult] at hfirst
      cases done with
      | false => exact hfirst
      | true => exact hfirst.trans (ih g₁)

/-- A new process has its own settings, and no work. -/
theorem restart_settings (s : StoreAccess) :
    (restart settings offsets s).settings = settings ∧
      (restart settings offsets s).processing = [] ∧
        (restart settings offsets s).chains = fun _ => [] := by
  unfold restart
  dsimp only
  split
  · exact ⟨rfl, rfl, rfl⟩
  · rename_i s₁ _
    have hsame := @startSources_process settings offsets settings.sources (fresh settings s₁)
    exact ⟨hsame.settings, hsame.processing, hsame.chains⟩

end Start

/-! ### What every run keeps -/

/-- The incident that the work on a source is about. -/
def taskIncident (task : Task) : Option IncidentRecord :=
  match task with
  | .writing record _ _ _ _ | .guarding record _ | .advancing record _ | .confirming record _ _ =>
      some record
  | .retiring _ => none

/-- The incident whose advance is under way. -/
def advancedBy (task : Task) : Option IncidentRecord :=
  match task with
  | .advancing record _ | .confirming record _ _ => some record
  | .writing _ _ _ _ _ | .guarding _ _ | .retiring _ => none

structure Coherent (texts : RecordTexts) (f : FailureService) : Prop where
  snapshots : f.Snapshots
  named : JournalNamed texts f.store.journal
  bounded : JournalBounded f.store.journal
  current : f.started = true → ∀ sourceId ∈ f.settings.sources,
    Current f.settings f.store.journal sourceId
  tasks : ∀ sourceId task, f.tasks sourceId = some task → ∀ record ∈ taskIncident task,
    ∃ position, record.failureId =
      texts.failureId sourceId (f.settings.source sourceId).generation position
  prepared : ∀ sourceId task, f.tasks sourceId = some task → ∀ record ∈ advancedBy task,
    record.failureId =
      texts.failureId sourceId (f.settings.source sourceId).generation record.position
  advancing : ∀ sourceId task, f.tasks sourceId = some task → ∀ record ∈ advancedBy task,
    ∀ current, f.store.journal.incidents.get record.failureId = some current →
      atPosition current.progress = false

/-- A record comes back to its position when it is observed again or its advance is not made. -/
theorem Moved.at_position
    {boundaries : InsertionMap StoredBoundary.boundaryId} {before after : IncidentRecord}
    (h : Moved texts f e boundaries (some before) after) (hafter : atPosition after.progress) :
    atPosition before.progress ∨
      (∃ source observation, Observes texts f e source observation ∧
        observation.failureId = before.failureId) ∨ ReturnsAdvance f e before := by
  cases h with
  | same => exact .inl hafter
  | @patched _ patch time hmakes =>
      rw [patched_progress] at hafter
      cases hmakes with
      | quiet h =>
          cases hprogress : patch.progress with
          | none => exact .inl (by rw [hprogress] at hafter; exact hafter)
          | some progress => exact .inl (h.progress progress hprogress).1
      | processed _ _ _ _ _ hmatch =>
          unfold committedIncident at hmatch
          simp only [Bool.and_eq_true] at hmatch
          exact .inl hmatch.1.1
      | acknowledged | guardPending => exact .inl hafter
      | returned hevent => exact .inr (.inr hevent)
      | uncertain | advanced => simp [atPosition, advancedPatch] at hafter
  | again hobserves hid => exact .inr (.inl ⟨_, _, hobserves, hid⟩)
  | prepared => simp [atPosition, advancedIncident] at hafter

/-- The incident of an advance that goes on stays away from its position. -/
theorem changes_advancing
    (h : ReflTransGen (Change texts f e) j j') {failureId : String}
    (hobserves : ∀ source observation, Observes texts f e source observation →
      observation.failureId ≠ failureId)
    (hreturns : ∀ before, before.failureId = failureId → ¬ ReturnsAdvance f e before)
    (hstored : ∃ before, j.incidents.get failureId = some before)
    (hbefore : ∀ before, j.incidents.get failureId = some before →
      atPosition before.progress = false) :
    ∀ after, j'.incidents.get failureId = some after → atPosition after.progress = false := by
  induction h with
  | refl => exact hbefore
  | tail hchanges hchange ih =>
      intro after hget
      obtain ⟨first, hfirst⟩ := hstored
      obtain ⟨before, hmiddle, -⟩ := changes_sameOrigin hchanges hfirst
      have hmoved := Change.moved hchange hget
      rw [hmiddle] at hmoved
      have hid := InsertionMap.key_of_get hmiddle
      by_contra hat
      rcases hmoved.at_position (by simpa using hat) with hat' | ⟨source, observation, hobs, hsame⟩ |
        hreturned
      · rw [ih before hmiddle] at hat'
        cases hat'
      · exact hobserves source observation hobs (hsame.trans hid)
      · exact hreturns before hid hreturned

theorem Enters.incident
    {task : Task} (h : Enters texts f e sourceId f'.store task) (hcoherent : Coherent texts f)
    (record : IncidentRecord) (hrecord : record ∈ taskIncident task) :
    ∃ position, record.failureId =
      texts.failureId sourceId (f.settings.source sourceId).generation position := by
  cases h with
  | @writing input _ _ _ _ _ _ _ _ _ hcopy =>
      obtain ⟨-, -, observed, hid, -, -, hcaptures⟩ := hcopy
      obtain rfl : _ = record := Option.some.inj hrecord
      exact ⟨input.position, hcaptures.id.trans hid⟩
  | guarding _ htask hguards =>
      obtain ⟨pending, prior, hguarding, hid, -⟩ := hguards
      cases hguarding
      obtain rfl : _ = record := Option.some.inj hrecord
      obtain ⟨position, hposition⟩ := hcoherent.tasks _ _ htask _ rfl
      exact ⟨position, hid.trans hposition⟩
  | advancing _ htask hprepares =>
      obtain rfl : _ = record := Option.some.inj hrecord
      obtain ⟨position, hposition⟩ := hcoherent.tasks _ _ htask _ rfl
      exact ⟨position, hprepares.id.trans hposition⟩
  | confirming _ htask =>
      obtain rfl : _ = record := Option.some.inj hrecord
      exact hcoherent.tasks _ _ htask _ rfl
  | retiring => cases hrecord

/-- An event moves no incident of an advance that goes on back to its position. -/
theorem Coherent.advance_goes_on
    (hcoherent : Coherent texts f)
    (hchanges : ReflTransGen (Change texts f e) f.store.journal j') {task : Task}
    (htask : f.tasks sourceId = some task) (hrecord : record ∈ advancedBy task)
    (hanswer : ∀ before boundaryId, f.tasks sourceId = some (.advancing before boundaryId) →
      e ≠ .advanced sourceId .notHeld)
    (hrestart : ∀ settings offsets, e ≠ .restart settings offsets) :
    ∀ current, j'.incidents.get record.failureId = some current →
      atPosition current.progress = false := by
  have hincident : record ∈ taskIncident task := by
    cases task <;> first | exact hrecord | cases hrecord
  obtain ⟨position, hposition⟩ := hcoherent.tasks sourceId task htask record hincident
  have hknown : f.store.journal.Known record := by
    have hknown := hcoherent.snapshots sourceId task htask
    cases task with
    | advancing | confirming =>
        obtain rfl : _ = record := Option.some.inj hrecord
        exact hknown.known
    | writing | guarding | retiring => cases hrecord
  obtain ⟨stored, hstored, -⟩ := hknown
  apply changes_advancing hchanges
  · intro source observation hobserves hsame
    obtain ⟨other, hother⟩ := observes_failureId hobserves
    obtain ⟨rfl, -⟩ := failureId_inj (hother.symm.trans (hsame.trans hposition))
    obtain ⟨_, _, _, _, -, hnone, -⟩ := hobserves
    rw [htask] at hnone
    cases hnone
  · rintro before hsame (⟨source, boundaryId, hevent, hadvancing⟩ | ⟨settings, offsets, hevent⟩)
    · obtain ⟨other, hother⟩ := hcoherent.tasks source _ hadvancing before rfl
      obtain ⟨rfl, -⟩ := failureId_inj (hother.symm.trans (hsame.trans hposition))
      exact hanswer before boundaryId hadvancing hevent
    · exact hrestart settings offsets hevent
  · exact ⟨stored, hstored⟩
  · exact hcoherent.advancing sourceId task htask record hrecord

theorem PassesBy.ne_notHeld {answer : AdvanceAnswer} {committed : Option ℕ} {position : Position}
    (h : PassesBy answer committed position) : answer ≠ .notHeld := by
  cases position with
  | fixture index => simp [h.1]
  | kafka topic partition offset => simp [h.1]

theorem Coherent.continues
    (h : Coherent texts f) (hstepped : Stepped texts f e f') (hcontinues : Continues texts f e f')
    (hrestart : ∀ settings offsets, e ≠ .restart settings offsets) : Coherent texts f' := by
  have hnamed := changes_named hstepped.journal h.named
  refine ⟨hstepped.snapshots h.snapshots, hnamed, changes_bounded hstepped.journal h.bounded, ?_,
    ?_, ?_, ?_⟩
  · intro hstarted sourceId hsource
    rw [hcontinues.started] at hstarted
    rw [hcontinues.settings] at hsource ⊢
    exact changes_current hstepped.journal h.named (h.current hstarted sourceId hsource)
  · intro sourceId task htask record hrecord
    rw [hcontinues.settings]
    rcases hstepped.tasks sourceId task htask with ⟨hbefore, -⟩ | henters
    · exact h.tasks sourceId task hbefore record hrecord
    · exact henters.incident h record hrecord
  · intro sourceId task htask record hrecord
    rw [hcontinues.settings]
    rcases hstepped.tasks sourceId task htask with ⟨hbefore, -⟩ | henters
    · exact h.prepared sourceId task hbefore record hrecord
    · cases henters with
      | writing | guarding | retiring => cases hrecord
      | advancing hevent hbefore hprepares =>
          obtain rfl : _ = record := Option.some.inj hrecord
          obtain ⟨position, hposition⟩ := h.tasks sourceId _ hbefore _ rfl
          have hself : Named texts _ := hnamed _ _ hprepares.stored.1
          have hid := hprepares.id.trans hposition
          obtain ⟨-, -, rfl⟩ := failureId_inj (hself.symm.trans hid)
          exact hid
      | confirming hevent hbefore =>
          obtain rfl : _ = record := Option.some.inj hrecord
          exact h.prepared sourceId _ hbefore _ rfl
  · intro sourceId task htask record hrecord
    rcases hstepped.tasks sourceId task htask with ⟨hbefore, hends⟩ | henters
    · refine h.advance_goes_on hstepped.journal hbefore hrecord ?_ hrestart
      rintro before boundaryId hadvancing rfl
      obtain rfl := Option.some.inj (hbefore.symm.trans hadvancing)
      exact hends ⟨rfl, trivial⟩
    · cases henters with
      | writing | guarding | retiring => cases hrecord
      | advancing hevent hbefore hprepares =>
          obtain rfl : _ = record := Option.some.inj hrecord
          intro current hget
          obtain rfl := Option.some.inj (hprepares.stored.1.symm.trans hget)
          rw [hprepares.stored.2.progress]
          rfl
      | confirming hevent hbefore hpasses =>
          obtain rfl : _ = record := Option.some.inj hrecord
          refine h.advance_goes_on hstepped.journal hbefore rfl ?_ hrestart
          rintro before boundaryId - rfl
          cases hevent
          exact hpasses.ne_notHeld rfl

theorem Coherent.restarts (h : Coherent texts f)
    {offsets : String → String → ℕ → Except String (Option ℕ)} :
    Coherent texts (restart settings offsets f.store) := by
  have hstepped : Stepped texts f (.restart settings offsets) (restart settings offsets f.store) :=
    restart_stepped
  have htasks := (@restart_wrote texts f (.restart settings offsets) settings offsets rfl f.store).2
  refine ⟨hstepped.snapshots h.snapshots, changes_named hstepped.journal h.named,
    changes_bounded hstepped.journal h.bounded, ?_, ?_, ?_, ?_⟩
  · intro hstarted
    rw [(restart_settings f.store).1]
    exact restart_current texts f.store hstarted
  · intro sourceId task htask
    rw [htasks] at htask
    cases htask
  · intro sourceId task htask
    rw [htasks] at htask
    cases htask
  · intro sourceId task htask
    rw [htasks] at htask
    cases htask

theorem Coherent.given (h : Coherent texts f) (o : Occurrence) : Coherent texts (f.given o) :=
  ⟨h.snapshots, h.named, h.bounded, h.current, h.tasks, h.prepared, h.advancing⟩

theorem Coherent.step (h : Coherent texts f) (o : Occurrence) : Coherent texts (step texts f o) := by
  have hgiven := h.given o
  have hstep := @step_cases texts f h.snapshots o
  generalize FailureService.step texts f o = f' at hstep
  cases hstep with
  | restarted => exact hgiven.restarts
  | nothing => exact hgiven
  | handled _ _ hrestart _ hstepped hcontinues =>
      exact hgiven.continues hstepped hcontinues hrestart

theorem coherent_initial : Coherent texts (initial settings) := by
  constructor
  · intro sourceId task htask
    cases htask
  · intro failureId record hget
    cases hget
  · intro failureId record hget
    cases hget
  · intro hstarted
    cases hstarted
  · intro sourceId task htask
    cases htask
  · intro sourceId task htask
    cases htask
  · intro sourceId task htask
    cases htask

theorem after_coherent (texts : RecordTexts) (settings : ServiceSettings)
    (occurrences : List Occurrence) : Coherent texts (after texts settings occurrences) := by
  induction occurrences using List.reverseRecOn with
  | nil => exact coherent_initial
  | append_singleton occurrences o ih =>
      rw [after_concat]
      exact ih.step o

end FailureService

end StreamOtter
