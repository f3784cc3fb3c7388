import StreamOtter.ResolutionSafety
import StreamOtter.RestartReconciliation
import StreamOtter.SourceIsolation

/-!
# The watched sources

The check of a record and the report of a commit consult the store only for a watched source. The
watched set is kept in memory, and while the store serves the reports of commits it never falls
behind the store: every source with an open incident is in it, so no record is processed past an
incident.
-/

namespace StreamOtter

open FailureStore Relation

namespace FailureService

variable {texts : RecordTexts} {settings : ServiceSettings} {sourceId : String}
  {s s' : StoreAccess} {incident record : IncidentRecord} {f f' : FailureService} {e : Event}
  {j j' : Journal}

open StoreAccess

/-! ### Open incidents -/

/-- An open incident is at its position, or its advance is unresolved. -/
def OpenWatched (record : IncidentRecord) : Prop :=
  record.state = .opened → watchedProgress record.progress

theorem watched_of_at {progress : ProgressState} (h : atPosition progress) :
    watchedProgress progress := by
  cases progress <;> simp_all [atPosition, watchedProgress]

theorem Makes.openWatched {patch : IncidentPatch} {time : String} (h : Makes f e record patch)
    (hbefore : OpenWatched record) : OpenWatched (patched patch time record) := by
  intro hopen
  rw [patched_state] at hopen
  rw [patched_progress]
  cases h with
  | quiet hquiet =>
      cases hprogress : patch.progress with
      | none =>
          refine hbefore ?_
          rcases (Makes.quiet (f := f) (e := e) hquiet).state with hstate | hstate
          · simpa [hstate] using hopen
          · simp [hstate] at hopen
      | some progress => exact watched_of_at (hquiet.progress progress hprogress).2
  | processed | advanced => simp [processedPatch, advancedPatch] at hopen
  | acknowledged =>
      refine hbefore ?_
      simpa [acknowledgedPatch] using hopen
  | guardPending => exact hbefore (by simpa using hopen)
  | returned | uncertain => rfl

theorem moved_openWatched {boundaries : InsertionMap StoredBoundary.boundaryId}
    {before : Option IncidentRecord} (hbefore : ∀ record ∈ before, OpenWatched record)
    (h : Moved texts f e boundaries before record) : OpenWatched record := by
  cases h with
  | same => exact hbefore _ rfl
  | patched time hmakes => exact hmakes.openWatched (hbefore _ rfl)
  | first => exact fun _ => rfl
  | @again _ observation existing =>
      intro _
      rcases (observedAgain_progress observation existing).2 with ⟨hsame, hopen⟩ | ⟨hheld, -⟩
      · rw [hsame]
        exact hbefore existing rfl hopen
      · rw [hheld]
        rfl
  | prepared => exact fun _ => rfl

theorem opened_eq_nil :
    j.opened sourceId = [] ↔ ∀ failureId record, j.incidents.get failureId = some record →
      record.sourceId = sourceId → record.state ≠ .opened := by
  rw [List.eq_nil_iff_forall_not_mem]
  constructor
  · intro h failureId record hget hsource hopen
    refine h record (mem_opened_iff.mpr ⟨?_, hsource, hopen⟩)
    rw [InsertionMap.key_of_get hget]
    exact hget
  · intro h record hmem
    obtain ⟨hget, hsource, hopen⟩ := mem_opened_iff.mp hmem
    exact h _ record hget hsource hopen

/-- Where nothing is observed, nothing is opened. -/
theorem changes_opened_nil (h : ReflTransGen (Change texts f e) j j')
    (hobserves : ∀ source observation, ¬ Observes texts f e source observation)
    (hnone : j.opened sourceId = []) : j'.opened sourceId = [] := by
  apply List.eq_nil_iff_forall_not_mem.mpr
  intro record hrecord
  obtain ⟨before, hbefore, -⟩ := changes_opened h hobserves hrecord
  rw [hnone] at hbefore
  exact List.not_mem_nil hbefore

/-! ### The report of a commit -/

/-- The commit at a position resolves every incident that it does not count as remaining. -/
theorem resolveCommitted_served (position : Position) (corrected : Bool)
    (incidents : List IncidentRecord) (s : StoreAccess) (hfaults : s.faults = [])
    (hstored : ∀ incident ∈ incidents,
      s.journal.incidents.get incident.failureId = some incident)
    (hdistinct : (incidents.map IncidentRecord.failureId).Nodup)
    (hnone : (resolveCommitted settings sourceId position corrected incidents s).1 = 0) :
    let s' := (resolveCommitted settings sourceId position corrected incidents s).2
    (∀ failureId ∉ incidents.map IncidentRecord.failureId,
        s'.journal.incidents.get failureId = s.journal.incidents.get failureId) ∧
      ∀ incident ∈ incidents, ∃ record,
        s'.journal.incidents.get incident.failureId = some record ∧ record.state = .resolved := by
  induction incidents generalizing s with
  | nil => exact ⟨fun _ _ => rfl, fun _ hmem => nomatch hmem⟩
  | cons incident rest ih =>
      rw [List.map_cons, List.nodup_cons] at hdistinct
      obtain ⟨hfresh, hdistinct⟩ := hdistinct
      have hget := hstored incident List.mem_cons_self
      -- the update of the first incident leaves the others as they were
      have hresolved : ∀ (resolution detail : String) (event : IncidentEventName),
          let s₁ := (s.update incident (processedPatch resolution) event detail).2
          (resolveCommitted settings sourceId position corrected rest s₁).1 = 0 →
          let s' := (resolveCommitted settings sourceId position corrected rest s₁).2
          (∀ failureId ∉ (incident :: rest).map IncidentRecord.failureId,
              s'.journal.incidents.get failureId = s.journal.incidents.get failureId) ∧
            ∀ other ∈ incident :: rest, ∃ record,
              s'.journal.incidents.get other.failureId = some record ∧
                record.state = .resolved := by
        intro resolution detail event s₁ hrest s'
        obtain ⟨time, s₂, hupdate, hleaves⟩ :=
          update_leaves hfaults hget (processedPatch resolution) rfl event detail
        have hs₁ : s₁ = s₂ := congrArg Prod.snd hupdate
        have hsame : ∀ other ∈ rest,
            s₁.journal.incidents.get other.failureId = s.journal.incidents.get other.failureId := by
          intro other hmem
          rw [hs₁]
          refine hleaves.others _ fun hid => hfresh ?_
          rw [← hid]
          exact List.mem_map_of_mem hmem
        obtain ⟨hothers, hall⟩ := ih s₁ (by rw [hs₁]; exact hleaves.faults)
          (fun other hmem => (hsame other hmem).trans (hstored other (List.mem_cons_of_mem _ hmem)))
          hdistinct hrest
        constructor
        · intro failureId hnot
          rw [List.map_cons, List.mem_cons, not_or] at hnot
          rw [hothers failureId hnot.2, hs₁]
          exact hleaves.others failureId hnot.1
        · intro other hmem
          rcases List.mem_cons.mp hmem with rfl | hmem
          · refine ⟨patched (processedPatch resolution) time other, (hothers _ hfresh).trans ?_, rfl⟩
            rw [hs₁]
            exact hleaves.stored
          · exact hall other hmem
      unfold resolveCommitted at hnone ⊢
      split at hnone
      · rename_i hcommitted
        rw [if_pos hcommitted]
        split at hnone
        · rename_i hplain
          rw [if_pos hplain]
          exact hresolved _ _ _ hnone
        · rename_i hplain
          rw [if_neg hplain]
          cases position with
          | fixture index => exact hresolved _ _ _ hnone
          | kafka topic partition offset => cases hnone
      · cases hnone

/-- A source leaves the watched set when none of its incidents is open any more. -/
theorem committed_unwatched {position : Position} (hfaults : f.store.faults = [])
    (hunwatched : (f.committed sourceId position).watched sourceId = false) :
    f.watched sourceId = false ∨
      (f.committed sourceId position).store.journal.opened sourceId = [] := by
  unfold committed at hunwatched ⊢
  dsimp only at hunwatched ⊢
  split at hunwatched
  · rename_i hwatched
    exact .inl (by simpa using hwatched)
  rename_i hwatched
  rw [if_neg hwatched]
  right
  rw [read_served hfaults] at hunwatched ⊢
  dsimp only at hunwatched ⊢
  have hstored : ∀ incident ∈ f.store.journal.opened sourceId,
      f.store.journal.incidents.get incident.failureId = some incident :=
    fun incident hmem => (mem_opened_iff.mp hmem).1
  have hresolved := @resolveCommitted_served f.settings sourceId position
    (f.corrected (sourceId, position)) (f.store.journal.opened sourceId) f.store hfaults hstored
    (opened_distinct _ _)
  generalize resolveCommitted f.settings sourceId position (f.corrected (sourceId, position))
    (f.store.journal.opened sourceId) f.store = result at hunwatched hresolved ⊢
  have hnone : result.1 = 0 := by
    by_contra hremaining
    rw [if_neg hremaining] at hunwatched
    exact hwatched (by simp [hunwatched])
  obtain ⟨hothers, hall⟩ := hresolved hnone
  apply List.eq_nil_iff_forall_not_mem.mpr
  intro record hrecord
  obtain ⟨hget, hsource, hopen⟩ := mem_opened_iff.mp hrecord
  by_cases hmem : record.failureId ∈
      (f.store.journal.opened sourceId).map IncidentRecord.failureId
  · obtain ⟨incident, hincident, hid⟩ := List.mem_map.mp hmem
    obtain ⟨after, hafter, hstate⟩ := hall incident hincident
    rw [hid, hget] at hafter
    obtain rfl := Option.some.inj hafter
    rw [hstate] at hopen
    cases hopen
  · apply hmem
    rw [hothers _ hmem] at hget
    exact List.mem_map_of_mem (mem_opened_iff.mpr ⟨hget, hsource, hopen⟩)

/-! ### Events -/

/-- A disposition watches its source once it stored the incident. -/
theorem dispose_unwatched {input : Delivery} {outcome : Pause}
    (hunwatched : (dispose texts sourceId input outcome f).2.watched sourceId = false) :
    f.watched sourceId = false ∧
      (dispose texts sourceId input outcome f).2.store.journal = f.store.journal := by
  unfold dispose at hunwatched ⊢
  dsimp only at hunwatched ⊢
  split at hunwatched
  · rename_i hcleared
    rw [if_pos hcleared]
    exact ⟨hunwatched, rfl⟩
  rename_i hcleared
  rw [if_neg hcleared]
  have hclock := f.store.nowIso_same
  rcases htime : f.store.nowIso with ⟨time, s₁⟩
  rw [htime] at hclock hunwatched
  dsimp only at hclock hunwatched ⊢
  generalize hobservation : observationOf f.settings texts sourceId input outcome _ _ time =
    observation at hunwatched ⊢
  obtain ⟨refusal, s₂, hcall, hsame⟩ | ⟨reply, s₂, hcall, -, -, haccepted⟩ :=
    call_cases (.observe observation) s₁
  · rw [hcall] at hunwatched ⊢
    exact ⟨hunwatched, (hclock.trans hsame).journal⟩
  · have hobserved : s₁.journal.observe observation = (reply, s₂.journal) := Except.ok.inj haccepted
    obtain ⟨result, rfl⟩ : ∃ result, reply = .observed result := by
      unfold Journal.observe at hobserved
      split at hobserved
      · exact ⟨_, (congrArg Prod.fst hobserved).symm⟩
      · exact ⟨_, (congrArg Prod.fst hobserved).symm⟩
    rw [hcall] at hunwatched
    dsimp only at hunwatched
    split at hunwatched
    · simp at hunwatched
    · simp at hunwatched

theorem sourceHeld_watched (position : Position) (f : FailureService) :
    (f.sourceHeld sourceId position).watched = f.watched := by
  unfold sourceHeld
  repeat' split
  all_goals rfl

theorem checkRecord_watched (input : Delivery) (f : FailureService) :
    (f.checkRecord texts sourceId input).watched = f.watched := by
  have hproblem := @positionProblem_watched texts sourceId input f
  unfold checkRecord
  rcases hresult : positionProblem texts sourceId input f with ⟨problem, f'⟩
  rw [hresult] at hproblem
  cases problem with
  | none => exact hproblem
  | some problem => exact (sourceHeld_watched input.position f').trans hproblem

theorem dropRetired_watched (f : FailureService) : (f.dropRetired sourceId).watched = f.watched := by
  unfold dropRetired
  repeat' split
  all_goals rfl

theorem askRetirement_watched (boundaryId : String) (f : FailureService) :
    (askRetirement sourceId boundaryId f).2.watched = f.watched := by
  unfold askRetirement
  dsimp only
  repeat' split
  all_goals rfl

theorem retireByOperator_watched (boundaryId : String) (expectedRevision : ℕ)
    (reason operationId : String) (f : FailureService) :
    (retireByOperator sourceId boundaryId expectedRevision reason operationId f).watched =
      f.watched := by
  unfold retireByOperator
  dsimp only
  repeat' split
  all_goals first
    | rfl
    | exact dropRetired_watched _

theorem retirementAnswered_watched (boundary : StoredBoundary) (agreed : Bool)
    (f : FailureService) :
    (f.retirementAnswered sourceId boundary agreed).watched = f.watched := by
  unfold retirementAnswered
  dsimp only
  repeat' split
  all_goals first
    | rfl
    | exact dropRetired_watched _

/-- The events that report a commit. -/
def reportsCommit (e : Event) : Bool :=
  match e with
  | .committed _ _ | .advanced _ _ => true
  | .restart _ _ | .stop | .check _ _ | .failed _ _ | .abandoned _ _ | .held _ _ _ | .run _ _
  | .acknowledged _ _ | .note _ _ _ | .begin _ | .written _ _ | .guarded _ _ _ | .confirm _
  | .retired _ _ => false

/-- A source that is not watched has no open incident. -/
def Accounted (f : FailureService) (sourceId : String) : Prop :=
  f.watched sourceId = false → f.store.journal.opened sourceId = []

theorem beginNext_accounted (h : Accounted f sourceId) :
    Accounted (f.beginNext texts sourceId) sourceId := by
  have hchanges := (@beginNext_stepped texts f sourceId).journal
  -- only a disposition observes a record
  have hquiet : ∀ job rest, f.chains sourceId = job :: rest →
      (∀ input outcome, job ≠ .dispose input outcome) → ∀ source observation,
        ¬ Observes texts f (.begin sourceId) source observation := by
    rintro job rest hchain hjob source observation ⟨input, outcome, others, -, hevent, -, hown, -⟩
    obtain rfl := Event.begin.inj hevent
    rw [hchain] at hown
    exact hjob input outcome (List.cons.inj hown).1
  unfold beginNext at hchanges ⊢
  split
  · rename_i job rest htask hchain
    rw [htask, hchain] at hchanges
    dsimp only at hchanges ⊢
    intro hunwatched
    have hkept : (∀ input outcome, job ≠ .dispose input outcome) →
        (beginJob texts sourceId { f with chains := Function.update f.chains sourceId rest }
          job).2.watched = f.watched →
        (beginJob texts sourceId { f with chains := Function.update f.chains sourceId rest }
          job).2.store.journal.opened sourceId = [] := by
      intro hjob hsame
      refine changes_opened_nil hchanges (hquiet job rest hchain hjob) (h ?_)
      rw [← hsame]
      exact hunwatched
    cases job with
    | dispose input outcome =>
        obtain ⟨hbefore, hjournal⟩ := dispose_unwatched hunwatched
        show (dispose texts sourceId input outcome _).2.store.journal.opened sourceId = []
        rw [hjournal]
        exact h hbefore
    | retry | reopenCircuit => exact hkept (by simp) rfl
    | retire boundaryId =>
        exact hkept (by simp) (askRetirement_watched boundaryId
          { f with chains := Function.update f.chains sourceId rest })
    | retireBoundary boundaryId expectedRevision reason operationId =>
        exact hkept (by simp) (retireByOperator_watched boundaryId expectedRevision reason
          operationId { f with chains := Function.update f.chains sourceId rest })
  · exact h

/-- What the answer of the adapter does to the watched set. -/
theorem afterAdvance_watched (answer : AdvanceAnswer) (f : FailureService) :
    (f.afterAdvance sourceId answer).watched = f.watched ∨
      (f.afterAdvance sourceId answer).watched sourceId = true ∨
      ∃ prepared boundaryId readBack,
        f.afterAdvance sourceId answer = f.passed sourceId prepared boundaryId readBack := by
  unfold afterAdvance
  split
  · rename_i prepared boundaryId htask
    have huncertain : ((advanceUncertain sourceId prepared f).waitAt sourceId none
        (advanceUncertain sourceId prepared f).store).watched sourceId = true :=
      Function.update_self _ _ _
    dsimp only
    split
    · exact .inl rfl
    · exact .inr (.inl huncertain)
    · split
      · exact .inr (.inr ⟨_, _, _, rfl⟩)
      · exact .inr (.inl huncertain)
    · exact .inr (.inr ⟨_, _, _, rfl⟩)
    · exact .inr (.inl huncertain)
    · exact .inr (.inl huncertain)
  · exact .inl rfl

theorem boundaryAcknowledged_watched (boundaryId : String) (f : FailureService) :
    (f.boundaryAcknowledged sourceId boundaryId).watched = f.watched := by
  unfold boundaryAcknowledged
  dsimp only
  split <;> rfl

theorem afterWrite_watched (answer : PublishAnswer) (f : FailureService) :
    (f.afterWrite sourceId answer).watched = f.watched := by
  unfold afterWrite
  split <;> rfl

theorem afterGuard_watched (answer : HandlerAnswer) (boundaryId : String) (f : FailureService) :
    (f.afterGuard texts sourceId answer boundaryId).watched = f.watched := by
  unfold afterGuard
  split
  · split <;> rfl
  · rfl

theorem afterConfirm_watched (f : FailureService) :
    (f.afterConfirm sourceId).watched = f.watched := by
  unfold afterConfirm
  split <;> rfl

theorem afterRetirement_watched (agreed : Bool) (f : FailureService) :
    (f.afterRetirement sourceId agreed).watched = f.watched := by
  unfold afterRetirement
  split
  · exact retirementAnswered_watched _ _ _
  · rfl

/-- An event about a source keeps it accounted for. -/
theorem handle_accounted (hsnapshots : f.Snapshots) (hsource : eventSource e = some sourceId)
    (hserved : reportsCommit e = true → f.store.faults = []) (h : Accounted f sourceId) :
    Accounted (f.handle texts e) sourceId := by
  have hchanges := (@handle_stepped texts f hsnapshots e).journal
  intro hunwatched
  have hkept : (∀ source, e ≠ .begin source) → (f.handle texts e).watched = f.watched →
      (f.handle texts e).store.journal.opened sourceId = [] := by
    intro hbegin hsame
    refine changes_opened_nil hchanges (not_observes hbegin) (h ?_)
    rw [← hsame]
    exact hunwatched
  have hcommits : (∀ source, e ≠ .begin source) → f.watched sourceId = false ∨
      (f.handle texts e).store.journal.opened sourceId = [] →
        (f.handle texts e).store.journal.opened sourceId = [] := by
    intro hbegin hcommitted
    refine hcommitted.elim (fun hbefore => ?_) id
    exact changes_opened_nil hchanges (not_observes hbegin) (h hbefore)
  cases e with
  | restart | stop | note => cases hsource
  | check source input =>
      obtain rfl := Option.some.inj hsource
      exact hkept (by simp) (checkRecord_watched input f)
  | failed source input =>
      obtain rfl := Option.some.inj hsource
      exact hkept (by simp) (sourceHeld_watched input.position f)
  | abandoned | held | run => exact hkept (by simp) rfl
  | committed source input =>
      obtain rfl := Option.some.inj hsource
      exact hcommits (by simp) (committed_unwatched (hserved rfl) hunwatched)
  | acknowledged source boundaryId =>
      exact hkept (by simp) (boundaryAcknowledged_watched boundaryId f)
  | begin source =>
      obtain rfl := Option.some.inj hsource
      exact beginNext_accounted h hunwatched
  | written source answer => exact hkept (by simp) (afterWrite_watched answer f)
  | guarded source answer boundaryId =>
      exact hkept (by simp) (afterGuard_watched answer boundaryId f)
  | advanced source answer =>
      obtain rfl := Option.some.inj hsource
      rcases @afterAdvance_watched source answer f with hsame | hwatched |
        ⟨prepared, boundaryId, readBack, hpassed⟩
      · exact hkept (by simp) hsame
      · cases hwatched.symm.trans hunwatched
      · refine hcommits (by simp) ?_
        show _ ∨ (f.afterAdvance source answer).store.journal.opened source = []
        have hunwatched' : (f.afterAdvance source answer).watched source = false := hunwatched
        rw [hpassed] at hunwatched' ⊢
        exact committed_unwatched (hserved rfl) hunwatched'
  | confirm source => exact hkept (by simp) (afterConfirm_watched f)
  | retired source agreed => exact hkept (by simp) (afterRetirement_watched agreed f)

/-! ### The start of a process -/

section Start

variable {offsets : String → String → ℕ → Except String (Option ℕ)}

theorem startSource_watched (g : FailureService) :
    (∀ other ≠ sourceId,
        (startSource settings offsets sourceId g).2.watched other = g.watched other) ∧
      ((startSource settings offsets sourceId g).1 = true →
        (startSource settings offsets sourceId g).2.watched sourceId =
          ((startSource settings offsets sourceId g).2.store.journal.opened sourceId).any
            fun incident => watchedProgress incident.progress) := by
  unfold startSource
  split
  · exact ⟨fun _ _ => rfl, by simp⟩
  split
  · exact ⟨fun _ _ => rfl, by simp⟩
  split
  · exact ⟨fun _ _ => rfl, by simp⟩
  dsimp only
  split
  · exact ⟨fun _ _ => rfl, by simp⟩
  rename_i s₃ _
  obtain ⟨message, s₄, hread, hsame⟩ | ⟨s₄, hread, hsame⟩ :=
    read_cases (fun j => j.opened sourceId) s₃
  · rw [hread]
    exact ⟨fun _ _ => rfl, by simp⟩
  · rw [hread]
    refine ⟨fun _ hne => Function.update_of_ne hne _ _, fun _ => ?_⟩
    dsimp only
    rw [Function.update_self, hsame.journal]

theorem startSource_accounted (texts : RecordTexts) {g : FailureService}
    (hopen : ∀ failureId record, g.store.journal.incidents.get failureId = some record →
      OpenWatched record)
    (hdone : (startSource settings offsets sourceId g).1 = true) {source : String}
    (h : source = sourceId ∨ Accounted g source) :
    Accounted (startSource settings offsets sourceId g).2 source := by
  obtain ⟨hwrote, -⟩ := @startSource_wrote texts g (.restart settings offsets) settings sourceId
    offsets rfl g
  obtain ⟨hothers, hwatched⟩ := @startSource_watched settings sourceId offsets g
  intro hunwatched
  by_cases hsource : source = sourceId
  · subst hsource
    have hopen' := changes_keep hwrote.journal (fun _ _ _ => moved_openWatched) hopen
    rw [hwatched hdone] at hunwatched
    apply List.eq_nil_iff_forall_not_mem.mpr
    intro record hrecord
    obtain ⟨hget, -, hstate⟩ := mem_opened_iff.mp hrecord
    rw [List.any_eq_false] at hunwatched
    exact hunwatched record hrecord (hopen' _ _ hget hstate)
  · rw [hothers source hsource] at hunwatched
    have hnone := (h.resolve_left hsource) hunwatched
    exact changes_opened_nil hwrote.journal (not_observes (by simp)) hnone

theorem startSources_accounted (texts : RecordTexts) (sources : List String)
    {g : FailureService}
    (hopen : ∀ failureId record, g.store.journal.incidents.get failureId = some record →
      OpenWatched record)
    (hdone : (startSources settings offsets sources g).1 = true) {source : String}
    (h : source ∈ sources ∨ Accounted g source) :
    Accounted (startSources settings offsets sources g).2 source := by
  induction sources generalizing g with
  | nil => exact h.resolve_left (List.not_mem_nil)
  | cons first rest ih =>
      obtain ⟨hwrote, -⟩ := @startSource_wrote texts g (.restart settings offsets) settings first
        offsets rfl g
      have hopen' := changes_keep hwrote.journal (fun _ _ _ => moved_openWatched) hopen
      have hfirst := @startSource_accounted settings first offsets texts g hopen
      unfold startSources at hdone ⊢
      rcases hresult : startSource settings offsets first g with ⟨done, g₁⟩
      rw [hresult] at hdone hfirst hopen'
      cases done with
      | false => cases hdone
      | true =>
          refine ih hopen' hdone ?_
          by_cases hrest : source ∈ rest
          · exact .inl hrest
          · refine .inr (hfirst rfl ?_)
            rcases h with hmem | haccounted
            · exact .inl ((List.mem_cons.mp hmem).resolve_right hrest)
            · exact .inr haccounted

theorem restart_accounted (texts : RecordTexts) {s : StoreAccess}
    (hopen : ∀ failureId record, s.journal.incidents.get failureId = some record →
      OpenWatched record)
    (hstarted : (restart settings offsets s).started = true)
    (hsource : sourceId ∈ settings.sources) :
    Accounted (restart settings offsets s) sourceId := by
  have hclock := s.nowIso_same
  unfold restart at hstarted ⊢
  rcases htime : s.nowIso with ⟨time, s₁⟩
  rw [htime] at hstarted hclock
  dsimp only at hstarted hclock ⊢
  generalize hidentities : (settings.sources.map fun sourceId =>
      (⟨sourceId, (settings.source sourceId).generation, (settings.source sourceId).kind⟩ :
        SourceIdentity)) = identities at hstarted ⊢
  obtain ⟨refusal, s₂, hcall, hsame⟩ | ⟨reply, s₂, hcall, -, -, haccepted⟩ :=
    call_cases (.claim "" identities time) s₁
  · rw [hcall] at hstarted
    cases hstarted
  · rw [hcall] at hstarted ⊢
    refine startSources_accounted texts settings.sources ?_ hstarted (.inl hsource)
    have hjournal : s₁.journal.claim time identities = s₂.journal :=
      congrArg Prod.snd (Except.ok.inj haccepted)
    intro failureId record hget
    refine hopen failureId record ?_
    rw [← hclock.journal, ← Journal.claim_incidents time identities, hjournal]
    exact hget

end Start

/-! ### Runs -/

/-- The store serves the reports of commits. -/
def ServesCommits (occurrences : List Occurrence) : Prop :=
  ∀ o ∈ occurrences, reportsCommit o.event = true → o.faults = []

structure Watchful (f : FailureService) : Prop where
  incidents : ∀ failureId record, f.store.journal.incidents.get failureId = some record →
    OpenWatched record
  accounted : f.started = true → ∀ sourceId ∈ f.settings.sources, Accounted f sourceId

theorem Unaffected.accounted {other : String} (h : Unaffected other f f')
    (haccounted : Accounted f other) : Accounted f' other := by
  intro hunwatched
  rw [h.watched] at hunwatched
  have hnone := opened_eq_nil.mp (haccounted hunwatched)
  refine opened_eq_nil.mpr fun failureId record hget hsource => ?_
  exact hnone failureId record ((h.incidents failureId record hsource).mp hget) hsource

theorem Watchful.step (h : Watchful f) (hcoherent : Coherent texts f) {o : Occurrence}
    (hserved : reportsCommit o.event = true → o.faults = []) : Watchful (f.step texts o) := by
  have hstep : Step texts f o (f.step texts o) := step_cases hcoherent.snapshots o
  have hunaffected := fun other sourceId => @step_unaffected texts sourceId f other hcoherent o
  generalize f.step texts o = f' at hstep hunaffected
  cases hstep with
  | @restarted settings offsets hevent =>
      obtain ⟨hwrote, -⟩ := @restart_wrote texts (f.given o) (.restart settings offsets) settings
        offsets rfl (f.given o).store
      refine ⟨changes_keep hwrote.journal (fun _ _ _ => moved_openWatched) h.incidents, ?_⟩
      intro hstarted sourceId hmem
      rw [(restart_settings (f.given o).store).1] at hmem
      exact restart_accounted texts h.incidents hstarted hmem
  | nothing => exact ⟨h.incidents, h.accounted⟩
  | handled hstarted hpossible hrestart hresult hstepped hcontinues =>
      refine ⟨changes_keep hstepped.journal (fun _ _ _ => moved_openWatched) h.incidents, ?_⟩
      intro _ sourceId hmem
      rw [hcontinues.settings] at hmem
      have hbefore : Accounted (f.given o) sourceId := h.accounted hstarted sourceId hmem
      cases hsource : eventSource o.event with
      | none =>
          have hkept : f'.watched = f.watched ∧ ∀ source, o.event ≠ .begin source := by
            subst hresult
            cases hevent : o.event with
            | restart settings offsets => exact absurd hevent (hrestart settings offsets)
            | stop | note => exact ⟨rfl, by simp⟩
            | _ => simp [hevent, eventSource] at hsource
          intro hunwatched
          rw [hkept.1] at hunwatched
          exact changes_opened_nil hstepped.journal (not_observes hkept.2) (hbefore hunwatched)
      | some source =>
          by_cases hown : sourceId = source
          · subst hown
            rw [hresult]
            exact handle_accounted (hcoherent.given o).snapshots hsource hserved hbefore
          · exact (hunaffected sourceId source hsource hown).accounted hbefore

theorem after_watchful {occurrences : List Occurrence} (hserves : ServesCommits occurrences) :
    Watchful (after texts settings occurrences) := by
  induction occurrences using List.reverseRecOn with
  | nil => exact ⟨fun _ _ hget => (by cases hget), fun hstarted => (by cases hstarted)⟩
  | append_singleton occurrences o ih =>
      have hbefore := ih fun o' hmem => hserves o' (List.mem_append_left _ hmem)
      rw [after_concat]
      exact hbefore.step (after_coherent texts settings occurrences)
        (hserves o (List.mem_append_right _ List.mem_cons_self))

/-! ### The check of a record -/

/-- What an open incident allows a record of its source that is about to be processed. -/
structure Allows (texts : RecordTexts) (settings : ServiceSettings) (sourceId : String)
    (input : Delivery) (incident : IncidentRecord) : Prop where
  cluster : settings.knownClusterMismatch sourceId incident = none
  settled : ∀ topic partition offset, input.position = .kafka topic partition offset →
    incident.progress ≠ .uncertain
  notPast : ∀ topic partition offset held, input.position = .kafka topic partition offset →
    incident.position = .kafka topic partition held → offset ≤ held
  evidence : ∀ topic partition offset, input.position = .kafka topic partition offset →
    incident.position = input.position → atPosition incident.progress →
      ∀ raw, rawEvidence input = some raw → incident.evidence.hash = "" ∨
        raw.evidenceHash texts.sha256Hex = incident.evidence.hash

/-- A watched source's record that passes the check is allowed by every open incident. -/
theorem positionProblem_allows {input : Delivery}
    (hnone : (positionProblem texts sourceId input f).1 = none) (hwatched : f.watched sourceId)
    (hopened : incident ∈ f.store.journal.opened sourceId)
    (hprogress : watchedProgress incident.progress) :
    Allows texts f.settings sourceId input incident := by
  have hevidence : ∀ topic partition offset, input.position = .kafka topic partition offset →
      incident.position = input.position → atPosition incident.progress →
        ∀ raw, rawEvidence input = some raw → incident.evidence.hash = "" ∨
          raw.evidenceHash texts.sha256Hex = incident.evidence.hash :=
    fun topic partition offset hinput hposition hat raw hraw =>
      positionProblem_none ⟨topic, partition, offset, hinput⟩ hnone hwatched hopened hat hposition
        hraw
  unfold positionProblem at hnone
  rw [if_neg (by simp [hwatched])] at hnone
  obtain ⟨message, s₁, hread, hsame⟩ | ⟨s₁, hread, hsame⟩ :=
    read_cases (fun j => j.opened sourceId) f.store
  · rw [hread] at hnone
    cases hnone
  rw [hread] at hnone
  dsimp only at hnone
  split at hnone
  · cases hnone
  rename_i hcluster
  split at hnone
  · cases hnone
  rename_i hcertain
  have hsettled : isUncertain input.position incident = false := by
    simpa using List.find?_eq_none.mp hcertain incident hopened
  have hmatch : onOtherCluster f.settings sourceId incident = false := by
    simpa using List.find?_eq_none.mp hcluster incident hopened
  refine ⟨?_, ?_, ?_, hevidence⟩
  · simpa [onOtherCluster, hprogress] using hmatch
  · intro topic partition offset hinput huncertain
    simp [isUncertain, hinput, huncertain] at hsettled
  · intro topic partition offset held hinput hheld
    split at hnone
    · cases hnone
    dsimp only [checkPassed] at hnone
    split at hnone
    · cases hnone
    rename_i hpassed
    have hpast := List.find?_eq_none.mp hpassed incident hopened
    simpa [passes, hinput, hheld, hprogress] using hpast

/-- No record of a source is processed past its open incidents: a source that is not watched has
none, and a record comes to be processed only when every open incident of its source allows it. -/
theorem heldPositions_checked (texts : RecordTexts) (settings : ServiceSettings)
    {occurrences : List Occurrence} (hserves : ServesCommits occurrences) (o : Occurrence) :
    let f := after texts settings occurrences
    (f.started = true → ∀ sourceId ∈ f.settings.sources, f.watched sourceId = false →
        f.store.journal.opened sourceId = []) ∧
      ∀ checked ∈ (f.step texts o).processing, checked ∈ f.processing ∨
        ∀ incident ∈ f.store.journal.opened checked.1,
          Allows texts f.settings checked.1 checked.2 incident := by
  intro f
  have hcoherent := after_coherent texts settings occurrences
  have hwatchful : Watchful f := after_watchful hserves
  refine ⟨hwatchful.accounted, ?_⟩
  intro checked hchecked
  have hstep : Step texts f o (f.step texts o) := step_cases hcoherent.snapshots o
  generalize f.step texts o = f' at hstep hchecked
  cases hstep with
  | @restarted settings offsets hevent =>
      rw [(restart_settings (f.given o).store).2.1] at hchecked
      cases hchecked
  | nothing => exact .inl hchecked
  | handled hstarted hpossible _ _ _ hcontinues =>
      rcases hcontinues.processing checked hchecked with hbefore | ⟨hevent, hnone⟩
      · exact .inl hbefore
      right
      intro incident hincident
      have hsource : checked.1 ∈ f.settings.sources := by
        unfold possible at hpossible
        rw [hevent, Bool.and_eq_true] at hpossible
        simpa [eventSource] using hpossible.1
      have hwatched : f.watched checked.1 = true := by
        by_contra hunwatched
        have hnothing := hwatchful.accounted hstarted checked.1 hsource
          (Bool.eq_false_iff.mpr hunwatched)
        rw [hnothing] at hincident
        exact List.not_mem_nil hincident
      obtain ⟨hget, -, hopen⟩ := mem_opened_iff.mp hincident
      exact @positionProblem_allows texts checked.1 incident (f.given o) checked.2 hnone hwatched
        hincident (hwatchful.incidents _ _ hget hopen)

/-- A record is held and retried. -/
def redeliveredRun : List Occurrence :=
  calmly [.restart (ordersUnder .quarantineHold) fun _ _ _ => .ok none,
    .held "orders" (orderAt 5 [1]) invalidOrder, .begin "orders",
    .written "orders" (.acknowledged 0 0), .run "orders" (.retry "operator"), .begin "orders"]

theorem heldPositions_checked_redelivered :
    let f := after plainTexts (ordersUnder .quarantineHold) redeliveredRun
    let o : Occurrence := ⟨.check "orders" (orderAt 5 [1]), [], []⟩
    (f.started = true → ∀ sourceId ∈ f.settings.sources, f.watched sourceId = false →
        f.store.journal.opened sourceId = []) ∧
      ∀ checked ∈ (f.step plainTexts o).processing, checked ∈ f.processing ∨
        ∀ incident ∈ f.store.journal.opened checked.1,
          Allows plainTexts f.settings checked.1 checked.2 incident := by
  refine heldPositions_checked plainTexts (ordersUnder .quarantineHold) ?_ _
  intro o hmem _
  obtain ⟨event, -, rfl⟩ := List.mem_map.mp hmem
  rfl

/-- A commit whose resolution is not stored leaves the incident open and the source unwatched. -/
example :
    let f := after plainTexts (ordersUnder .quarantineHold)
      (redeliveredRun ++ [⟨.check "orders" (orderAt 5 [1]), [], []⟩,
        ⟨.committed "orders" (orderAt 5 [1]), [none, some "database is locked"], []⟩])
    f.watched "orders" = false ∧ (f.store.journal.opened "orders").length = 1 := by
  decide +kernel

end FailureService

end StreamOtter
