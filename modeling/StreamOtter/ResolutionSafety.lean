import StreamOtter.ServiceOrigins

/-!
# What resolves an incident

A Kafka incident is resolved by the commit of a record whose bytes were compared with its
evidence before it was processed, or by reading the group's offset back as one past it.  The
comparison and the commit are far apart: what holds them together is that no incident opens at
the position of a record that is being processed.
-/

namespace StreamOtter

open FailureStore Relation

namespace FailureService

variable {texts : RecordTexts} {f f' : FailureService} {e : Event} {settings : ServiceSettings}
  {sourceId : String} {record : IncidentRecord} {j j' : Journal}

/-! ### The change that resolves -/

/-- Among the changes of a step, one resolves the incident. -/
theorem changes_resolve
    (h : ReflTransGen (Change texts f e) j j') {failureId : String} {resolved : IncidentRecord}
    (hstored : ∃ record, j.incidents.get failureId = some record)
    (hopen : ∀ record, j.incidents.get failureId = some record → record.state = .opened)
    (hget : j'.incidents.get failureId = some resolved) (hresolved : resolved.state = .resolved) :
    ∃ middle between, ReflTransGen (Change texts f e) j between ∧
      between.incidents.get failureId = some middle ∧ middle.state = .opened ∧
      ((∃ sourceId position, CommitsAt f e sourceId position ∧ middle.sourceId = sourceId ∧
          f.watched sourceId ∧ committedIncident f.settings sourceId position middle) ∨
        ConfirmsAdvance f e middle ∧ isUnresolved middle) := by
  induction h generalizing resolved with
  | refl =>
      rw [hopen resolved hget] at hresolved
      cases hresolved
  | @tail middle after hchanges hchange ih =>
      obtain ⟨first, hfirst⟩ := hstored
      obtain ⟨before, hbefore, -⟩ := changes_sameOrigin hchanges hfirst
      cases hstate : before.state with
      | resolved => exact ih hbefore hstate
      | opened =>
          have hmoved := Change.moved hchange hget
          rw [hbefore] at hmoved
          refine ⟨before, middle, hchanges, hbefore, hstate, ?_⟩
          cases hmoved with
          | same =>
              rw [hstate] at hresolved
              cases hresolved
          | patched time hmakes =>
              rw [patched_state] at hresolved
              cases hmakes with
              | processed resolution hevent hopened hsource hwatched hmatch =>
                  exact .inl ⟨_, _, hevent, hsource, hwatched, hmatch⟩
              | advanced resolution hevent hunresolved => exact .inr ⟨hevent, hunresolved⟩
              | quiet hquiet =>
                  rw [hquiet.state] at hresolved
                  have hsame : before.state = .resolved := hresolved
                  rw [hsame] at hstate
                  cases hstate
              | acknowledged | guardPending | returned | uncertain =>
                  have hsame : before.state = .resolved := hresolved
                  rw [hsame] at hstate
                  cases hstate
          | again =>
              rw [(observedAgain_progress _ _).1] at hresolved
              cases hresolved
          | prepared =>
              have hsame : before.state = .resolved := hresolved
              rw [hsame] at hstate
              cases hstate

/-- What a step that neither observes nor prepares nor returns leaves of an incident. -/
theorem changes_from
    (h : ReflTransGen (Change texts f e) j j') {failureId : String} {before after : IncidentRecord}
    (hobserves : ∀ source observation, ¬ Observes texts f e source observation)
    (hguarded : ∀ source answer boundaryId, e ≠ .guarded source answer boundaryId)
    (hbefore : j.incidents.get failureId = some before)
    (hafter : j'.incidents.get failureId = some after) :
    after.boundaryId = before.boundaryId ∧ (isUnresolved after → isUnresolved before) ∧
      ((∀ record, ¬ ReturnsAdvance f e record) → atPosition after.progress →
        atPosition before.progress) := by
  induction h generalizing after with
  | refl =>
      obtain rfl := Option.some.inj (hbefore.symm.trans hafter)
      exact ⟨rfl, id, fun _ => id⟩
  | tail hchanges hchange ih =>
      obtain ⟨middle, hmiddle, -⟩ := changes_sameOrigin hchanges hbefore
      obtain ⟨hboundary, hunresolved, hat⟩ := ih hmiddle
      have hmoved := Change.moved hchange hafter
      rw [hmiddle] at hmoved
      have hposition : (∀ record, ¬ ReturnsAdvance f e record) → atPosition after.progress →
          atPosition before.progress := by
        intro hreturns hafterAt
        rcases hmoved.at_position hafterAt with hmiddleAt | ⟨source, observation, hobs, -⟩ | hreturned
        · exact hat hreturns hmiddleAt
        · exact absurd hobs (hobserves source observation)
        · exact absurd hreturned (hreturns middle)
      cases hmoved with
      | same => exact ⟨hboundary, hunresolved, hposition⟩
      | patched time hmakes =>
          refine ⟨?_, fun h => hunresolved (hmakes.unresolved h), hposition⟩
          rw [← hboundary]
          show Option.getD _ middle.boundaryId = middle.boundaryId
          rw [hmakes.boundaryId]
          rfl
      | again hobs => exact absurd hobs (hobserves _ _)
      | prepared hevent => exact absurd hevent (hguarded _ _ _)

/-! ### The comparison of a record -/

/-- A Kafka record that is checked and not held has the bytes of every incident that is held at
its position. -/
theorem compareEvidence_none
    {input : Delivery} {opened : List IncidentRecord} {corrected corrected' : Bool}
    {s s' : StoreAccess} (hkafka : ∃ topic partition offset,
      input.position = .kafka topic partition offset)
    (h : compareEvidence texts sourceId input opened corrected s = (none, corrected', s'))
    (hmem : record ∈ opened) (hat : atPosition record.progress)
    (hposition : record.position = input.position) {raw : RawEvidence}
    (hraw : rawEvidence input = some raw) :
    record.evidence.hash = "" ∨ raw.evidenceHash texts.sha256Hex = record.evidence.hash := by
  induction opened generalizing corrected s with
  | nil => cases hmem
  | cons incident rest ih =>
      unfold compareEvidence at h
      rw [hraw] at h
      dsimp only at h
      rcases List.mem_cons.mp hmem with rfl | hrest
      · rw [if_pos (by simp [hat, hposition])] at h
        by_cases hsame : record.evidence.hash = "" ∨
            raw.evidenceHash texts.sha256Hex = record.evidence.hash
        · exact hsame
        · obtain ⟨topic, partition, offset, hinput⟩ := hkafka
          rw [if_neg hsame, hinput] at h
          cases h
      · split at h
        · split at h
          · exact ih h hrest
          · obtain ⟨topic, partition, offset, hinput⟩ := hkafka
            rw [hinput] at h
            cases h
        · exact ih h hrest

/-- What the check of a record has compared, where the source is watched. -/
theorem positionProblem_none
    {input : Delivery} (hkafka : ∃ topic partition offset,
      input.position = .kafka topic partition offset)
    (hnone : (positionProblem texts sourceId input f).1 = none) (hwatched : f.watched sourceId)
    (hopened : record ∈ f.store.journal.opened sourceId) (hat : atPosition record.progress)
    (hposition : record.position = input.position) {raw : RawEvidence}
    (hraw : rawEvidence input = some raw) :
    record.evidence.hash = "" ∨ raw.evidenceHash texts.sha256Hex = record.evidence.hash := by
  unfold positionProblem at hnone
  rw [if_neg (by simp [hwatched])] at hnone
  obtain ⟨message, s₁, hread, hsame⟩ | ⟨s₁, hread, hsame⟩ :=
    StoreAccess.read_cases (fun j => j.opened sourceId) f.store
  · rw [hread] at hnone
    cases hnone
  rw [hread] at hnone
  dsimp only at hnone
  split at hnone
  · cases hnone
  · split at hnone
    · cases hnone
    · split at hnone
      · cases hnone
      · rename_i hcompared
        exact compareEvidence_none hkafka hcompared hopened hat hposition hraw

/-! ### Runs -/

/-- A commit at the position resolves the incident, unless the record there is a corrected one. -/
structure Resolvable (f : FailureService) (sourceId : String) (position : Position)
    (incident : IncidentRecord) : Prop where
  watched : f.watched sourceId
  opened : incident ∈ f.store.journal.opened sourceId
  commits : committedIncident f.settings sourceId position incident

/-- While a Kafka record is being processed, no incident at its position becomes one that its
commit would resolve. -/
def OpensNothingBehind (texts : RecordTexts) (f : FailureService) (o : Occurrence) : Prop :=
  ∀ sourceId input topic partition offset,
    (sourceId, input) ∈ f.processing → (sourceId, input) ∈ (step texts f o).processing →
      input.position = .kafka topic partition offset →
        ∀ incident, Resolvable (step texts f o) sourceId input.position incident →
          ∃ before, Resolvable f sourceId input.position before ∧
            before.failureId = incident.failureId

/-- The record was checked in this process, and its bytes compared with the incident's. -/
inductive Compared (texts : RecordTexts) (settings : ServiceSettings) (before : List Occurrence)
    (sourceId : String) (input : Delivery) (record : IncidentRecord) : Prop
  | intro {earlier later : List Occurrence} {check : Occurrence} {incident : IncidentRecord}
      {raw : RawEvidence} (hrun : before = earlier ++ check :: later)
      (hevent : check.event = .check sourceId input)
      (hpassed : (sourceId, input) ∈ (after texts settings (earlier ++ [check])).processing)
      (hprocess : ∀ o ∈ later, ∀ settings offsets, o.event ≠ .restart settings offsets)
      (hopened : incident ∈ (after texts settings earlier).store.journal.opened sourceId)
      (hat : atPosition incident.progress) (hposition : incident.position = input.position)
      (horigin : SameOrigin incident record) (hraw : rawEvidence input = some raw)
      (hhash : record.evidence.hash = "" ∨
        raw.evidenceHash texts.sha256Hex = record.evidence.hash)

/-- The group's offset was read back as one past the record, after its boundary was stored. -/
inductive ReadBack (texts : RecordTexts) (settings : ServiceSettings) (before : List Occurrence)
    (sourceId boundaryId : String) (offset : ℕ) : Prop
  | intro {earlier later : List Occurrence} {past : Occurrence} {boundary : StoredBoundary}
      (hrun : before = earlier ++ past :: later)
      (hevent : past.event = .advanced sourceId (.readBack (some (offset + 1)) true))
      (hstored : (after texts settings earlier).store.journal.boundaries.get boundaryId =
        some boundary)

/-- Why an occurrence resolves a Kafka incident. -/
inductive Justified (texts : RecordTexts) (settings : ServiceSettings) (before : List Occurrence)
    (o : Occurrence) (record : IncidentRecord) : Prop
  | processed {input : Delivery} (hevent : o.event = .committed record.sourceId input)
      (hposition : record.position = input.position) (hat : atPosition record.progress)
      (hcluster : (after texts settings before).settings.knownClusterMismatch record.sourceId
        record = none)
      (hcompared : Compared texts settings before record.sourceId input record)
  | confirmed {topic boundaryId : String} {partition offset : ℕ}
      (hposition : record.position = .kafka topic partition offset)
      (hunresolved : isUnresolved record) (hnames : record.boundaryId = some boundaryId)
      (hevent : o.event = .confirm record.sourceId)
      (hreadBack : ReadBack texts settings before record.sourceId boundaryId offset)
  | reconciled {topic boundaryId : String} {partition offset : ℕ} {next : ServiceSettings}
      {offsets : String → String → ℕ → Except String (Option ℕ)} {boundary : StoredBoundary}
      (hposition : record.position = .kafka topic partition offset)
      (hunresolved : isUnresolved record) (hnames : record.boundaryId = some boundaryId)
      (hstored : (after texts settings before).store.journal.boundaries.get boundaryId =
        some boundary)
      (hevent : o.event = .restart next offsets)
      (hoffset : offsets record.sourceId topic partition = .ok (some (offset + 1)))

theorem Compared.later {before : List Occurrence} {input : Delivery} {incident : IncidentRecord}
    (h : Compared texts settings before sourceId input record)
    (horigin : SameOrigin record incident) {o : Occurrence}
    (ho : ∀ settings offsets, o.event ≠ .restart settings offsets) :
    Compared texts settings (before ++ [o]) sourceId input incident := by
  cases h with
  | @intro earlier later check _ _ hrun hevent hpassed hprocess hopened hat hposition hsame hraw hhash =>
      have hlonger : before ++ [o] = earlier ++ check :: (later ++ [o]) := by
        rw [hrun, List.append_assoc]
        rfl
      refine .intro hlonger hevent hpassed ?_ hopened hat hposition (hsame.trans horigin) hraw
        (by rw [horigin.evidence]; exact hhash)
      intro other hother
      rcases List.mem_append.mp hother with hbefore | hlast
      · exact hprocess other hbefore
      · rw [List.mem_singleton.mp hlast]
        exact ho

theorem ReadBack.later {before : List Occurrence} {boundaryId : String} {offset : ℕ}
    (h : ReadBack texts settings before sourceId boundaryId offset) (o : Occurrence) :
    ReadBack texts settings (before ++ [o]) sourceId boundaryId offset := by
  cases h with
  | @intro earlier later past _ hrun hevent hstored =>
      have hlonger : before ++ [o] = earlier ++ past :: (later ++ [o]) := by
        rw [hrun, List.append_assoc]
        rfl
      exact .intro hlonger hevent hstored

/-- What was read back of the advances that wait to be journaled. -/
theorem after_readBack (occurrences : List Occurrence) {prepared : IncidentRecord}
    {boundaryId topic : String} {committed : Option ℕ} {partition offset : ℕ}
    (htask : (after texts settings occurrences).tasks sourceId =
      some (.confirming prepared boundaryId committed))
    (hposition : prepared.position = .kafka topic partition offset) :
    ReadBack texts settings occurrences sourceId boundaryId offset := by
  induction occurrences using List.reverseRecOn with
  | nil => cases htask
  | append_singleton occurrences o ih =>
      rw [after_concat] at htask
      have hcoherent := after_coherent texts settings occurrences
      have hstep := @step_cases texts _ hcoherent.snapshots o
      generalize FailureService.step texts (after texts settings occurrences) o = f' at hstep htask
      cases hstep with
      | restarted hevent =>
          rw [(@restart_wrote texts (after texts settings occurrences) _ _ _ rfl _).2] at htask
          cases htask
      | nothing => exact (ih htask).later o
      | handled _ _ _ _ hstepped _ =>
          rcases hstepped.tasks sourceId _ htask with ⟨hbefore, -⟩ | henters
          · exact (ih hbefore).later o
          · cases henters with
            | confirming hevent hbefore hpasses =>
                rw [hposition] at hpasses
                obtain ⟨rfl, -⟩ := hpasses
                have hknown := hcoherent.snapshots sourceId _ hbefore
                obtain ⟨boundary, hstored⟩ := hknown.stored
                exact .intro rfl hevent hstored

/-- What a process knows of the records that it processes: each incident that a commit would
resolve was compared with the record when it was checked. -/
def AllCompared (texts : RecordTexts) (settings : ServiceSettings) (before : List Occurrence) :
    Prop :=
  ∀ sourceId input topic partition offset,
    (sourceId, input) ∈ (after texts settings before).processing →
      input.position = .kafka topic partition offset →
        ∀ incident, Resolvable (after texts settings before) sourceId input.position incident →
          Compared texts settings before sourceId input incident

theorem rawEvidence_of_delivers {source : SourceSettings} {input : Delivery} {topic : String}
    {partition offset : ℕ} (h : delivers source input)
    (hposition : input.position = .kafka topic partition offset) :
    ∃ raw, rawEvidence input = some raw := by
  unfold delivers at h
  rw [hposition] at h
  cases hkind : source.kind with
  | fixture =>
      rw [hkind] at h
      cases h
  | kafka =>
      rw [hkind] at h
      obtain ⟨bytes, hbytes⟩ := Option.isSome_iff_exists.mp h
      unfold rawEvidence
      rw [hbytes]
      exact ⟨_, rfl⟩

/-- A record whose check passes was compared with every incident that its commit would
resolve. -/
theorem compared_of_check
    {before : List Occurrence} {o : Occurrence} {input : Delivery} {incident : IncidentRecord}
    {topic : String} {partition offset : ℕ}
    (hevent : o.event = .check sourceId input)
    (hpossible : (after texts settings before).possible o.event)
    (hkafka : input.position = .kafka topic partition offset)
    (hnone : (positionProblem texts sourceId input ((after texts settings before).given o)).1 = none)
    (hresult : step texts (after texts settings before) o =
      ((after texts settings before).given o).handle texts o.event)
    (hstepped : Stepped texts ((after texts settings before).given o) o.event
      (step texts (after texts settings before) o))
    (hmem : (sourceId, input) ∈ (step texts (after texts settings before) o).processing)
    (hresolvable : Resolvable (step texts (after texts settings before) o) sourceId input.position
      incident) : Compared texts settings (before ++ [o]) sourceId input incident := by
  have hbegin : ∀ source, o.event ≠ .begin source := by simp [hevent]
  obtain ⟨earlier, hearlier, horigin⟩ :=
    changes_opened hstepped.journal (not_observes hbegin) hresolvable.opened
  have hget := (mem_opened_iff.mp hearlier).1
  have hget' := (mem_opened_iff.mp hresolvable.opened).1
  rw [horigin.failureId] at hget'
  have hcommits := hresolvable.commits
  unfold committedIncident at hcommits
  simp only [Bool.and_eq_true, decide_eq_true_eq] at hcommits
  have hat : atPosition earlier.progress := by
    refine (changes_from hstepped.journal (not_observes hbegin) (by simp [hevent]) hget hget').2.2 ?_
      hcommits.1.1
    rintro record (⟨_, _, hreturned, -⟩ | ⟨_, _, hreturned⟩)
    · rw [hevent] at hreturned
      cases hreturned
    · rw [hevent] at hreturned
      cases hreturned
  have hposition : earlier.position = input.position := by
    rw [← horigin.position]
    exact hcommits.1.2
  have hwatched : (after texts settings before).watched sourceId := by
    have hafter := hresolvable.watched
    rw [hresult, hevent] at hafter
    have hunchanged := @positionProblem_watched texts sourceId input
      ((after texts settings before).given o)
    have hchecked : (((after texts settings before).given o).checkRecord texts sourceId
        input).watched sourceId := hafter
    unfold checkRecord at hchecked
    rcases hproblem : positionProblem texts sourceId input ((after texts settings before).given o)
      with ⟨problem, f'⟩
    rw [hproblem] at hnone hchecked hunchanged
    dsimp only at hnone
    subst hnone
    rw [← show f'.watched = (after texts settings before).watched from hunchanged]
    exact hchecked
  obtain ⟨raw, hraw⟩ : ∃ raw, rawEvidence input = some raw := by
    rw [hevent] at hpossible
    unfold possible at hpossible
    simp only [Bool.and_eq_true] at hpossible
    exact rawEvidence_of_delivers hpossible.2 hkafka
  have hhash := positionProblem_none ⟨topic, partition, offset, hkafka⟩ hnone hwatched hearlier hat
    hposition hraw
  refine .intro rfl hevent ?_ (by simp) hearlier hat hposition horigin hraw ?_
  · rw [after_concat]
    exact hmem
  · rw [horigin.evidence]
    exact hhash

theorem allCompared_concat
    {before : List Occurrence} {o : Occurrence} (h : AllCompared texts settings before)
    (hopens : OpensNothingBehind texts (after texts settings before) o) :
    AllCompared texts settings (before ++ [o]) := by
  intro sourceId input topic partition offset hmem hkafka incident hresolvable
  rw [after_concat] at hmem hresolvable
  have hkept := hopens sourceId input topic partition offset
  have hstep := @step_cases texts _ (after_coherent texts settings before).snapshots o
  have hchecked := @compared_of_check texts settings sourceId before o input incident topic partition
    offset
  generalize FailureService.step texts (after texts settings before) o = f' at *
  cases hstep with
  | restarted hevent =>
      rw [(restart_settings _).2.1] at hmem
      cases hmem
  | nothing hrestart =>
      have hsame : Resolvable (after texts settings before) sourceId input.position incident :=
        ⟨hresolvable.watched, hresolvable.opened, hresolvable.commits⟩
      exact (h sourceId input topic partition offset hmem hkafka incident hsame).later .rfl hrestart
  | handled hstarted hpossible hrestart hresult hstepped hcontinues =>
      rcases hcontinues.processing (sourceId, input) hmem with hbefore | ⟨hevent, hnone⟩
      · obtain ⟨earlier, hearlier, hid⟩ := hkept hbefore hmem hkafka incident hresolvable
        have hcompared := h sourceId input topic partition offset hbefore hkafka earlier hearlier
        have hget := (mem_opened_iff.mp hearlier.opened).1
        obtain ⟨later, hlater, horigin⟩ := changes_sameOrigin hstepped.journal hget
        have hget' := (mem_opened_iff.mp hresolvable.opened).1
        rw [← hid] at hget'
        obtain rfl := Option.some.inj (hlater.symm.trans hget')
        exact hcompared.later horigin hrestart
      · exact hchecked hevent hpossible hkafka hnone hresult hstepped hmem hresolvable

theorem allCompared_of_run
    (before : List Occurrence)
    (hopens : ∀ earlier o later, before = earlier ++ o :: later →
      OpensNothingBehind texts (after texts settings earlier) o) :
    AllCompared texts settings before := by
  induction before using List.reverseRecOn with
  | nil =>
      intro sourceId input topic partition offset hmem
      cases hmem
  | append_singleton before o ih =>
      apply allCompared_concat
      · apply ih
        intro earlier other later hrun
        apply hopens earlier other (later ++ [o])
        rw [hrun, List.append_assoc]
        rfl
      · exact hopens before o [] rfl

/-- An advance that commits past its record resolves no incident: the one at its position is
the incident that it advances past. -/
theorem advance_resolves_nothing
    (hcoherent : Coherent texts f) (hstarted : f.started = true) (hpossible : f.possible e)
    {answer : AdvanceAnswer} {prepared middle : IncidentRecord} {boundaryId failureId : String}
    (hevent : e = .advanced sourceId answer) (hanswer : answer ≠ .notHeld)
    (htask : f.tasks sourceId = some (.advancing prepared boundaryId))
    (hchanges : ReflTransGen (Change texts f e) f.store.journal j)
    (hget : j.incidents.get failureId = some middle) (hopen : middle.state = .opened)
    (hsource : middle.sourceId = sourceId)
    (hcommits : committedIncident f.settings sourceId prepared.position middle) : False := by
  have hmember : sourceId ∈ f.settings.sources := by
    rw [hevent] at hpossible
    unfold possible eventSource at hpossible
    simpa using hpossible
  unfold committedIncident at hcommits
  simp only [Bool.and_eq_true, decide_eq_true_eq] at hcommits
  obtain ⟨⟨hat, hposition⟩, -⟩ := hcommits
  have hid := InsertionMap.key_of_get hget
  have hcurrent := changes_current hchanges hcoherent.named
    (hcoherent.current hstarted sourceId hmember)
  have hgeneration : middle.generation = (f.settings.source sourceId).generation := by
    apply hcurrent
    rw [mem_opened_iff, hid]
    exact ⟨hget, hsource, hopen⟩
  have hnamed : middle.failureId = prepared.failureId := by
    have hself : Named texts middle := changes_named hchanges hcoherent.named _ _ hget
    rw [hself, hcoherent.prepared sourceId _ htask prepared rfl, hsource, hgeneration, hposition]
  have haway := hcoherent.advance_goes_on hchanges htask rfl
    (by rw [hevent]; rintro _ _ _ ⟨⟩; exact hanswer rfl) (by simp [hevent]) middle
    (by rw [← hnamed, hid]; exact hget)
  rw [haway] at hat
  cases hat

/-- An incident whose advance is pending or uncertain is resolved by no commit. -/
theorem Justified.not_commits
    {before : List Occurrence} {o : Occurrence} (h : Justified texts settings before o record)
    (hunresolved : isUnresolved record) {position : Position} :
    ¬ CommitsAt (after texts settings before) o.event sourceId position := by
  cases h with
  | processed hevent hposition hat =>
      unfold isUnresolved at hunresolved
      cases hprogress : record.progress <;> simp [hprogress, atPosition] at hat hunresolved
  | confirmed hposition _ _ hevent =>
      rintro (⟨_, hcommitted, -⟩ | ⟨_, _, _, hcommitted, -⟩)
      · rw [hevent] at hcommitted
        cases hcommitted
      · rw [hevent] at hcommitted
        cases hcommitted
  | reconciled hposition _ _ _ hevent =>
      rintro (⟨_, hcommitted, -⟩ | ⟨_, _, _, hcommitted, -⟩)
      · rw [hevent] at hcommitted
        cases hcommitted
      · rw [hevent] at hcommitted
        cases hcommitted

/-- The advance past the incident was confirmed, while the process runs or when it starts. -/
theorem justified_of_confirms
    {before : List Occurrence} {o : Occurrence} {middle : IncidentRecord} {between : Journal}
    {topic : String} {partition offset : ℕ}
    (hkafka : record.position = .kafka topic partition offset)
    (hget : (after texts settings before).store.journal.incidents.get record.failureId = some record)
    (hchanges : ReflTransGen (Change texts ((after texts settings before).given o) o.event)
      (after texts settings before).store.journal between)
    (hmiddle : between.incidents.get record.failureId = some middle)
    (hconfirms : ConfirmsAdvance ((after texts settings before).given o) o.event middle)
    (hunresolvedMiddle : isUnresolved middle) : Justified texts settings before o record := by
  have hcoherent := after_coherent texts settings before
  have horigin : SameOrigin record middle := by
    obtain ⟨found, hfound, horigin⟩ := changes_sameOrigin hchanges hget
    obtain rfl := Option.some.inj (hmiddle.symm.trans hfound)
    exact horigin
  have hfrom : middle.boundaryId = record.boundaryId ∧ isUnresolved record := by
    have hbegin : ∀ source, o.event ≠ .begin source := by
      rcases hconfirms with ⟨_, _, _, hevent, -⟩ | ⟨_, _, _, _, _, hevent, -⟩ <;> simp [hevent]
    have hguarded : ∀ source answer boundaryId, o.event ≠ .guarded source answer boundaryId := by
      rcases hconfirms with ⟨_, _, _, hevent, -⟩ | ⟨_, _, _, _, _, hevent, -⟩ <;> simp [hevent]
    obtain ⟨hboundary, hunresolved, -⟩ :=
      changes_from hchanges (not_observes hbegin) hguarded hget hmiddle
    exact ⟨hboundary, hunresolved hunresolvedMiddle⟩
  obtain ⟨hboundary, hunresolved⟩ := hfrom
  rcases hconfirms with ⟨source, boundaryId, committed, hevent, htask⟩ |
    ⟨next, offsets, topic', partition', offset', hevent, hposition, hoffset⟩
  · have hadvancing : Advancing (after texts settings before).store.journal middle boundaryId :=
      hcoherent.snapshots source _ htask
    have hsource : source = record.sourceId := by
      obtain ⟨position, hid⟩ := hcoherent.tasks source _ htask middle rfl
      have hself : Named texts record := hcoherent.named _ _ hget
      exact (failureId_inj (hid.symm.trans (horigin.failureId.trans hself))).1
    subst hsource
    refine .confirmed hkafka hunresolved (hboundary.symm.trans hadvancing.names) hevent ?_
    exact after_readBack before htask (horigin.position.trans hkafka)
  · obtain ⟨boundaryId, hnames⟩ := Option.ne_none_iff_exists'.mp
      ((hcoherent.bounded _ _ hget).unresolved hunresolved)
    obtain ⟨boundary, hstored, -⟩ := (hcoherent.bounded _ _ hget).stored boundaryId hnames
    rw [horigin.position, hkafka] at hposition
    obtain ⟨rfl, rfl, rfl⟩ := Position.kafka.inj hposition
    rw [horigin.sourceId] at hoffset
    exact .reconciled hkafka hunresolved hnames hstored hevent hoffset

/-- A record that the commit resolves was compared when it was checked. -/
theorem justified_of_commit
    {before : List Occurrence} {o : Occurrence} {middle : IncidentRecord} {between : Journal}
    {input : Delivery} {topic : String} {partition offset : ℕ}
    (hcompared : AllCompared texts settings before)
    (hkafka : record.position = .kafka topic partition offset)
    (hget : (after texts settings before).store.journal.incidents.get record.failureId = some record)
    (hopen : record.state = .opened) (hevent : o.event = .committed sourceId input)
    (hpossible : (after texts settings before).possible o.event)
    (hchanges : ReflTransGen (Change texts ((after texts settings before).given o) o.event)
      (after texts settings before).store.journal between)
    (hmiddle : between.incidents.get record.failureId = some middle)
    (hsource : middle.sourceId = sourceId) (hwatched : (after texts settings before).watched sourceId)
    (hcommits : committedIncident (after texts settings before).settings sourceId input.position
      middle) : Justified texts settings before o record := by
  have horigin : SameOrigin record middle := by
    obtain ⟨found, hfound, horigin⟩ := changes_sameOrigin hchanges hget
    obtain rfl := Option.some.inj (hmiddle.symm.trans hfound)
    exact horigin
  unfold committedIncident at hcommits
  simp only [Bool.and_eq_true, decide_eq_true_eq, Option.isNone_iff_eq_none] at hcommits
  obtain ⟨⟨hmiddleAt, hposition⟩, hcluster⟩ := hcommits
  rw [horigin.position] at hposition
  have hat : atPosition record.progress := by
    refine (changes_from hchanges (not_observes (by simp [hevent])) (by simp [hevent]) hget
      hmiddle).2.2 ?_ hmiddleAt
    rintro returned (⟨_, _, hreturned, -⟩ | ⟨_, _, hreturned⟩)
    · rw [hevent] at hreturned
      cases hreturned
    · rw [hevent] at hreturned
      cases hreturned
  have hclusterBefore :
      (after texts settings before).settings.knownClusterMismatch sourceId record = none := by
    unfold ServiceSettings.knownClusterMismatch at hcluster ⊢
    rw [horigin.position, horigin.clusterId] at hcluster
    exact hcluster
  have hsourceBefore : record.sourceId = sourceId := horigin.sourceId.symm.trans hsource
  have hmem : (sourceId, input) ∈ (after texts settings before).processing := by
    rw [hevent] at hpossible
    unfold possible at hpossible
    simp only [Bool.and_eq_true, decide_eq_true_eq] at hpossible
    exact hpossible.2
  have hresolvable : Resolvable (after texts settings before) sourceId input.position record := by
    refine ⟨hwatched, mem_opened_iff.mpr ⟨hget, hsourceBefore, hopen⟩, ?_⟩
    unfold committedIncident
    simp [hat, hposition, hclusterBefore]
  subst hsourceBefore
  exact .processed hevent hposition hat hclusterBefore
    (hcompared _ input topic partition offset hmem (hposition.symm.trans hkafka) record hresolvable)

/-- In every run in which no incident opens behind a record that is being processed, whatever
resolves a Kafka incident is justified, and no commit resolves an incident whose advance is
pending or uncertain. -/
theorem resolution_justified
    (texts : RecordTexts) (settings : ServiceSettings) (before : List Occurrence) (o : Occurrence)
    (hopens : ∀ earlier o' later, before = earlier ++ o' :: later →
      OpensNothingBehind texts (after texts settings earlier) o')
    {record resolved : IncidentRecord} {topic : String} {partition offset : ℕ}
    (hkafka : record.position = .kafka topic partition offset)
    (hget : (after texts settings before).store.journal.incidents.get record.failureId = some record)
    (hopen : record.state = .opened)
    (hget' : (step texts (after texts settings before) o).store.journal.incidents.get
      record.failureId = some resolved)
    (hresolved : resolved.state = .resolved) :
    Justified texts settings before o record ∧
      (isUnresolved record → ∀ sourceId position,
        ¬ CommitsAt (after texts settings before) o.event sourceId position) := by
  have hcoherent := after_coherent texts settings before
  have hcompared := allCompared_of_run before hopens
  have hstep := @step_cases texts _ hcoherent.snapshots o
  generalize FailureService.step texts (after texts settings before) o = f' at hstep hget'
  have hstill : ∀ found, (after texts settings before).store.journal.incidents.get
      record.failureId = some found → found.state = .opened := by
    intro found hfound
    obtain rfl := Option.some.inj (hget.symm.trans hfound)
    exact hopen
  suffices hjustified : Justified texts settings before o record by
    refine ⟨hjustified, fun hunresolved sourceId position => ?_⟩
    exact hjustified.not_commits hunresolved
  have hadvanced : ∀ {middle : IncidentRecord} {between : Journal},
      ReflTransGen (Change texts ((after texts settings before).given o) o.event)
        (after texts settings before).store.journal between →
      between.incidents.get record.failureId = some middle →
      ConfirmsAdvance ((after texts settings before).given o) o.event middle →
      isUnresolved middle → Justified texts settings before o record :=
    fun hchanges hmiddle hconfirms hunresolved =>
      justified_of_confirms hkafka hget hchanges hmiddle hconfirms hunresolved
  cases hstep with
  | @restarted next offsets hevent =>
      have hchanges :=
        (@restart_stepped texts ((after texts settings before).given o) next offsets).journal
      rw [← hevent] at hchanges
      obtain ⟨middle, between, hbetween, hmiddle, -, hcommits | ⟨hconfirms, hunresolved⟩⟩ :=
        changes_resolve hchanges ⟨record, hget⟩ hstill hget' hresolved
      · obtain ⟨_, _, ⟨_, hcommitted, -⟩ | ⟨_, _, _, hcommitted, -⟩, -⟩ := hcommits
        · rw [hevent] at hcommitted
          cases hcommitted
        · rw [hevent] at hcommitted
          cases hcommitted
      · exact hadvanced hbetween hmiddle hconfirms hunresolved
  | nothing =>
      have hsame : (after texts settings before).store.journal.incidents.get record.failureId =
        some resolved := hget'
      rw [hstill resolved hsame] at hresolved
      cases hresolved
  | handled hstarted hpossible hrestart hresult hstepped hcontinues =>
      obtain ⟨middle, between, hbetween, hmiddle, hmiddleOpen,
        ⟨source, position, hcommitsAt, hsource, hwatched, hcommits⟩ | ⟨hconfirms, hunresolved⟩⟩ :=
        changes_resolve hstepped.journal ⟨record, hget⟩ hstill hget' hresolved
      · rcases hcommitsAt with ⟨input, hevent, rfl⟩ | ⟨answer, prepared, boundaryId, hevent, hanswer,
          htask, rfl⟩
        · exact justified_of_commit hcompared hkafka hget hopen hevent hpossible hbetween hmiddle
            hsource hwatched hcommits
        · exact (advance_resolves_nothing (hcoherent.given o) hstarted hpossible hevent hanswer htask
            hbetween hmiddle hmiddleOpen hsource hcommits).elim
      · exact hadvanced hbetween hmiddle hconfirms hunresolved

/-! ### Two runs -/

theorem opensNothingBehind_of_idle {o : Occurrence}
    (h : ∀ checked ∈ f.processing, checked ∉ (step texts f o).processing) :
    OpensNothingBehind texts f o :=
  fun sourceId input _ _ _ hbefore hafter => absurd hafter (h (sourceId, input) hbefore)

/-- No step of the run leaves a record in processing. -/
def idleSteps (texts : RecordTexts) (settings : ServiceSettings) (occurrences : List Occurrence) :
    Bool :=
  (List.range occurrences.length).all fun count =>
    (after texts settings (occurrences.take count)).processing.all fun checked =>
      (after texts settings (occurrences.take (count + 1))).processing.all fun other =>
        !decide (other = checked)

theorem opensNothingBehind_of_idleSteps {occurrences : List Occurrence}
    (h : idleSteps texts settings occurrences) (earlier : List Occurrence) (o : Occurrence)
    (later : List Occurrence) (hrun : occurrences = earlier ++ o :: later) :
    OpensNothingBehind texts (after texts settings earlier) o := by
  apply opensNothingBehind_of_idle
  rw [← after_concat]
  have hcount : earlier.length < occurrences.length := by
    rw [hrun]
    simp
  have hbefore : occurrences.take earlier.length = earlier := by
    rw [hrun]
    simp
  have hafter : occurrences.take (earlier.length + 1) = earlier ++ [o] := by
    rw [hrun, List.take_length_add_append]
    rfl
  have hidle := List.all_eq_true.mp h earlier.length (List.mem_range.mpr hcount)
  rw [hbefore, hafter] at hidle
  intro checked hchecked hmem
  have hothers := List.all_eq_true.mp hidle checked hchecked
  have hdiffers := List.all_eq_true.mp hothers checked hmem
  simp at hdiffers

/-- A record is held, the source retried, and the record delivered again. -/
def retriedRun : List Occurrence :=
  calmly [.restart (ordersUnder .pause) fun _ _ _ => .ok none,
    .check "orders" (orderAt 6 [2]), .failed "orders" (orderAt 6 [2]),
    .held "orders" (orderAt 6 [2]) invalidOrder, .begin "orders",
    .run "orders" (.retry "fixed"), .begin "orders", .check "orders" (orderAt 6 [2])]

/-- The incident that a run leaves of a record of the source. -/
def orderIncident (policy : FailurePolicy) (offset : ℕ) (occurrences : List Occurrence) :
    Option IncidentRecord :=
  (after plainTexts (ordersUnder policy) occurrences).store.journal.incidents.get
    (plainTexts.failureId "orders" "1" (.kafka "orders" 0 offset))

theorem resolution_justified_retried :
    ∃ record, orderIncident .pause 6 retriedRun = some record ∧
      Justified plainTexts (ordersUnder .pause) retriedRun
        ⟨.committed "orders" (orderAt 6 [2]), [], []⟩ record := by
  have hidle : idleSteps plainTexts (ordersUnder .pause) retriedRun = true := by decide +kernel
  have hbefore : (orderIncident .pause 6 retriedRun).any (fun record =>
      decide (record.state = .opened ∧ record.position = .kafka "orders" 0 6)) = true := by
    decide +kernel
  have hafter : (orderIncident .pause 6
      (retriedRun ++ [⟨.committed "orders" (orderAt 6 [2]), [], []⟩])).any (fun record =>
        decide (record.state = .resolved)) = true := by
    decide +kernel
  obtain ⟨record, hrecord, hopened⟩ := (Option.any_eq_true _ _).mp hbefore
  obtain ⟨resolved, hresolved, hstate⟩ := (Option.any_eq_true _ _).mp hafter
  obtain ⟨hopen, hkafka⟩ := of_decide_eq_true hopened
  have hid : record.failureId = plainTexts.failureId "orders" "1" (.kafka "orders" 0 6) :=
    InsertionMap.key_of_get hrecord
  refine ⟨record, hrecord, (resolution_justified plainTexts (ordersUnder .pause) retriedRun
    ⟨.committed "orders" (orderAt 6 [2]), [], []⟩ (opensNothingBehind_of_idleSteps hidle) hkafka ?_
    hopen ?_ (of_decide_eq_true hstate)).1⟩
  · rw [hid]
    exact hrecord
  · rw [hid, ← after_concat]
    exact hresolved

/-- The source is resumed before the disposition of a held record begins, which the work on a
boundary keeps waiting; another record at the same position is processed meanwhile. -/
def resumedRun : List Occurrence :=
  calmly [.restart (ordersUnder .quarantineResync) fun _ _ _ => .ok none,
    .check "orders" (orderAt 5 [1]), .failed "orders" (orderAt 5 [1]),
    .held "orders" (orderAt 5 [1]) invalidOrder, .begin "orders",
    .written "orders" (.acknowledged 0 0), .guarded "orders" recoverableAnswer "b1",
    .advanced "orders" (.readBack (some 6) true), .confirm "orders",
    .check "orders" (orderAt 6 [2]), .failed "orders" (orderAt 6 [2]),
    .run "orders" (.retry "resumed"), .begin "orders",
    .acknowledged "orders" "b1", .begin "orders", .held "orders" (orderAt 6 [2]) invalidOrder,
    .check "orders" (orderAt 6 [3]), .retired "orders" true, .begin "orders"]

theorem resolution_unjustified :
    ∃ record resolved : IncidentRecord, record.position = .kafka "orders" 0 6 ∧
      (after plainTexts (ordersUnder .quarantineResync) resumedRun).store.journal.incidents.get
        record.failureId = some record ∧ record.state = .opened ∧
      (step plainTexts (after plainTexts (ordersUnder .quarantineResync) resumedRun)
        ⟨.committed "orders" (orderAt 6 [3]), [], []⟩).store.journal.incidents.get
          record.failureId = some resolved ∧ resolved.state = .resolved ∧
      ¬ Justified plainTexts (ordersUnder .quarantineResync) resumedRun
        ⟨.committed "orders" (orderAt 6 [3]), [], []⟩ record := by
  have hbefore : (orderIncident .quarantineResync 6 resumedRun).any (fun record =>
      decide (record.state = .opened ∧ record.position = .kafka "orders" 0 6 ∧
        ¬ (record.evidence.hash = "" ∨ (rawEvidence (orderAt 6 [3])).any (fun raw =>
          decide (raw.evidenceHash plainTexts.sha256Hex = record.evidence.hash)) = true))) = true := by
    decide +kernel
  have hafter : (orderIncident .quarantineResync 6
      (resumedRun ++ [⟨.committed "orders" (orderAt 6 [3]), [], []⟩])).any (fun record =>
        decide (record.state = .resolved)) = true := by
    decide +kernel
  obtain ⟨record, hrecord, hopened⟩ := (Option.any_eq_true _ _).mp hbefore
  obtain ⟨resolved, hresolved, hstate⟩ := (Option.any_eq_true _ _).mp hafter
  obtain ⟨hopen, hkafka, hdiffers⟩ := of_decide_eq_true hopened
  have hid : record.failureId = plainTexts.failureId "orders" "1" (.kafka "orders" 0 6) :=
    InsertionMap.key_of_get hrecord
  refine ⟨record, resolved, hkafka, by rw [hid]; exact hrecord, hopen, ?_,
    of_decide_eq_true hstate, ?_⟩
  · rw [hid, ← after_concat]
    exact hresolved
  · intro hjustified
    cases hjustified with
    | processed hevent _ _ _ hcompared =>
        obtain ⟨-, rfl⟩ := Event.committed.inj hevent
        cases hcompared with
        | intro _ _ _ _ _ _ _ _ hraw hhash =>
            apply hdiffers
            rcases hhash with hnone | hsame
            · exact .inl hnone
            · rw [hraw]
              exact .inr (by simpa using hsame)
    | confirmed _ _ _ hevent => cases hevent
    | reconciled _ _ _ _ hevent => cases hevent

end FailureService

end StreamOtter
