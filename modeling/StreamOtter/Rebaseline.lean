import StreamOtter.BoundaryChain
import StreamOtter.IncidentSteps

/-!
# Rebaselining a source

A translation of `rebaselineSource`: in one transaction over the SQLite store it closes a
source's open incidents of other generations and records the configured one.
-/

namespace StreamOtter

open FailureStore

namespace SqliteIncidentStore

/-! ### Transactions of several calls -/

/-- `#write`'s error for what SQLite raised. -/
def thrown (limits : SqliteLimits) : SqliteFault → Refusal
  | .full =>
      storeFull ("The failure journal at " ++ limits.path ++ " reached its " ++
        toString limits.journalLimitBytes ++
        "-byte limit or the disk is full; nothing was evicted.")
  | .other message => ⟨none, message, none, none, []⟩

/-- `atomically`: what `fn` wrote before it threw is rolled back. -/
def atomically {α : Type} (limits : SqliteLimits) (fault : Option SqliteFault)
    (fn : SqliteIncidentStore → Except Refusal α × SqliteIncidentStore) (s : SqliteIncidentStore) :
    Except Refusal α × SqliteIncidentStore :=
  match fault with
  | some fault => (.error (thrown limits fault), s)
  | none =>
      match fn s with
      | (.ok result, after) => (.ok result, after)
      | (.error refusal, _) => (.error refusal, s)

/-- `sources`: by ID. -/
def sourceList (s : SqliteIncidentStore) : List SourceIdentity :=
  s.sources.contents.mergeSort fun a b => codePointLe a.sourceId b.sourceId

/-- The row of a source. -/
def sourceRow (sourceId : String) (s : SqliteIncidentStore) : Option SourceIdentity :=
  s.sources.contents.find? fun row => row.sourceId = sourceId

end SqliteIncidentStore

/-! ### The command -/

/-- `MAX_OPERATOR_REASON`. -/
def maxOperatorReason : ℕ := 512

/-- What `trim` takes off the ends of a text. -/
def isTrimmed (c : Char) : Bool :=
  (0x09 ≤ c.val && c.val ≤ 0x0d) || c.val = 0x20 || c.val = 0xa0 || c.val = 0x1680 ||
    (0x2000 ≤ c.val && c.val ≤ 0x200a) || c.val = 0x2028 || c.val = 0x2029 || c.val = 0x202f ||
    c.val = 0x205f || c.val = 0x3000 || c.val = 0xfeff

/-- What the command is given: the project's configuration, its options and what it draws. -/
structure RebaselineRequest where
  projectId : String
  sources : List SourceIdentity
  sourceId : String
  reason : String
  operationId : String
  /-- The time of the changes. -/
  time : String
  /-- The clock that `claim` reads. -/
  now : String

/-- What the command meets: whether the journal opens, and what SQLite raises in each write. -/
structure RebaselineConditions where
  unopened : Option Refusal := none
  commit : Option SqliteFault := none
  update : String → SqliteConditions := fun _ => {}
  claim : SqliteConditions := {}

inductive RebaselineEnd
  | completed | refused
  deriving DecidableEq, Repr

structure RebaselineResult where
  operationId : String
  result : RebaselineEnd
  outcome : String
  incidentRevision : Option ℕ
  closed : List String
  retiredBoundary : Option String
  generation : String
  message : String
  deriving DecidableEq, Repr

namespace RebaselineRequest

variable (request : RebaselineRequest)

/-- The record was neither processed nor advanced past. -/
def closedProgress : ProgressState → ProgressState
  | .retrying => .held
  | .advancePending => .uncertain
  | progress => progress

def closing (generation : String) (incident : IncidentRecord) : IncidentPatch where
  state := some .resolved
  resolution := some (some ("rebaselined to generation " ++ generation))
  progress := some (closedProgress incident.progress)

def closingEvent (incident : IncidentRecord) : IncidentEvent :=
  ⟨request.time, .operator,
    some ("rebaseline from generation " ++ incident.generation ++ ": " ++ request.reason),
    some request.operationId⟩

/-- The loop over the stale incidents. -/
def closeStale (limits : SqliteLimits) (conditions : String → SqliteConditions)
    (generation : String) :
    List IncidentRecord → SqliteIncidentStore → Except Refusal Unit × SqliteIncidentStore
  | [], s => (.ok (), s)
  | incident :: rest, s =>
      match s.update limits (conditions incident.failureId) incident.failureId incident.revision
        (closing generation incident) (request.closingEvent incident) with
      | .ok (_, after) => closeStale limits conditions generation rest after
      | .error refusal => (.error refusal, s)

/-- A boundary of another generation than the configured one. -/
def staleBoundary (source : SourceIdentity) (before : Option StoredBoundary) : Option String :=
  (before.filter fun boundary => boundary.generation ≠ source.generation).map (·.boundaryId)

def nothingToRebaseline (source : SourceIdentity) (current : ℕ) : RebaselineResult where
  operationId := request.operationId
  result := .refused
  outcome := "nothing-to-rebaseline"
  incidentRevision := none
  closed := []
  retiredBoundary := none
  generation := source.generation
  message :=
    if current > 0 then
      "Source " ++ source.sourceId ++ " has " ++ toString current ++
        " open incident(s) in its configured generation \"" ++ source.generation ++
        "\". Rebaselining applies only after the generation changes; resolve these with retry-current or a repair."
    else "Source " ++ source.sourceId ++ " has nothing from an earlier generation to rebaseline."

def rebaselined (source : SourceIdentity) (stale : List IncidentRecord)
    (retired : Option String) : RebaselineResult where
  operationId := request.operationId
  result := .completed
  outcome := "rebaselined"
  incidentRevision := none
  closed := stale.map (·.failureId)
  retiredBoundary := retired
  generation := source.generation
  message :=
    "Closed " ++ toString stale.length ++ " incident(s) from earlier generations of " ++
      source.sourceId ++
      (match retired with
        | none => ""
        | some boundaryId => " and retired boundary " ++ boundaryId) ++
      "; the source now runs as generation \"" ++ source.generation ++ "\"."

/-- The sources as the journal records them, with the configured identity of this one. -/
def claimedSources (source : SourceIdentity) (stored : List SourceIdentity) :
    List SourceIdentity :=
  stored.map fun row => if row.sourceId = source.sourceId then source else row

/-- The transaction. -/
def rebaseline (limits : SqliteLimits) (conditions : RebaselineConditions)
    (source : SourceIdentity) (s : SqliteIncidentStore) :
    Except Refusal RebaselineResult × SqliteIncidentStore :=
  let opened := s.opened source.sourceId
  let stale := opened.filter fun incident => incident.generation ≠ source.generation
  let retired := staleBoundary source (s.inForceBoundary source.sourceId)
  if stale = [] ∧ retired = none then
    (.ok (request.nothingToRebaseline source opened.length), s)
  else
    match request.closeStale limits conditions.update source.generation stale s with
    | (.error refusal, after) => (.error refusal, after)
    | (.ok _, after) =>
        match after.claim limits conditions.claim request.projectId
          (claimedSources source after.sourceList) request.now with
        | .error refusal => (.error refusal, after)
        | .ok (_, after) => (.ok (request.rebaselined source stale retired), after)

def unknownSource : Refusal :=
  SqliteIncidentStore.refuse .invalidRequest "unknown-source"
    ("No configured source " ++ request.sourceId ++ ".") []

def reasonRequired : Refusal :=
  SqliteIncidentStore.refuse .invalidRequest "reason"
    ("A reason of 1 to " ++ toString maxOperatorReason ++ " characters is required.") []

/-- `rebaselineSource`, with the journal it leaves. -/
def rebaselineSource (limits : SqliteLimits) (conditions : RebaselineConditions)
    (s : SqliteIncidentStore) : Except Refusal RebaselineResult × SqliteIncidentStore :=
  match request.sources.find? fun source => source.sourceId = request.sourceId with
  | none => (.error request.unknownSource, s)
  | some source =>
      if request.reason.toList.all isTrimmed ∨ utf16Length request.reason > maxOperatorReason then
        (.error reasonRequired, s)
      else
        match conditions.unopened with
        | some refusal => (.error refusal, s)
        | none => s.atomically limits conditions.commit (request.rebaseline limits conditions source)

end RebaselineRequest

/-! ### What a reached journal keeps -/

/-- A boundary in force is one of the generation that its source was claimed with. -/
def Journal.Recorded (j : Journal) : Prop :=
  ∀ sourceId boundary, j.boundary sourceId = some boundary →
    j.generations sourceId = some boundary.generation

namespace Journal

variable {j j' : Journal}

theorem recorded_initial : initial.Recorded := by
  intro sourceId found hfound
  simp [boundary, initial] at hfound

theorem Recorded.of_same
    (h : j.Recorded) (hboundaries : j'.boundaries = j.boundaries)
    (hgenerations : j'.generations = j.generations) : j'.Recorded := by
  intro sourceId found hfound
  rw [hgenerations]
  apply h
  rw [← hfound]
  unfold boundary
  rw [hboundaries]

theorem Recorded.claimSource
    (h : j.Recorded) (hsound : j.Sound) {time : String} {source : SourceIdentity}
    (hidle : ∀ found, j.boundary source.sourceId = some found → j.opened source.sourceId = []) :
    (j.claimSource time source).Recorded := by
  unfold Journal.claimSource
  cases hfound : j.boundary source.sourceId with
  | none =>
      intro sourceId other hother
      have hother' : j.boundary sourceId = some other := hother
      have hne : sourceId ≠ source.sourceId := by
        rintro rfl
        rw [hfound] at hother'
        cases hother'
      simpa [Function.update_apply, hne] using h sourceId other hother'
  | some found =>
      have hin := (boundary_eq_some hsound.oneInForce).mp hfound
      have hsource : found.sourceId = source.sourceId := hin.2.1
      dsimp only
      by_cases hsame : found.generation = source.generation
      · rw [if_pos (.inl hsame)]
        intro sourceId other hother
        have hother' : j.boundary sourceId = some other := hother
        show Function.update j.generations source.sourceId (some source.generation) sourceId = _
        rw [Function.update_apply]
        split
        · case isTrue heq =>
            rw [heq, hfound] at hother'
            cases hother'
            rw [hsame]
        · exact h sourceId other hother'
      · rw [if_neg (by simp [hsame, hidle found hfound])]
        intro sourceId other hother
        rw [← hsource] at hin
        rw [boundary_end hsound hin rfl] at hother
        split at hother
        · cases hother
        · case isFalse hne =>
            show Function.update j.generations source.sourceId (some source.generation) sourceId = _
            rw [Function.update_apply, if_neg (hsource ▸ hne)]
            exact h sourceId other hother

/-- Every call but a claim keeps the generations that sources were claimed with. -/
theorem Recorded.call
    (h : j.Recorded) (hsound : j.Sound)
    (hsourced : ∀ record ∈ j.incidents.values, (j.generations record.sourceId).isSome)
    {le : String → String → Bool} {limit : ℕ} {c : StoreCall} {reply : StoreReply}
    (hclaim : ∀ projectId sources time, c ≠ .claim projectId sources time)
    (hok : j.call le limit c = .ok (reply, j')) : j'.Recorded := by
  cases c with
  | claim projectId sources time => exact absurd rfl (hclaim projectId sources time)
  | observe observation =>
      have hafter : (j.observe observation).2 = j' := congrArg Prod.snd (Except.ok.inj hok)
      rw [← hafter]
      unfold Journal.observe
      split
      · exact h.of_same rfl rfl
      · exact h.of_same rfl rfl
  | update failureId expectedRevision patch event =>
      obtain ⟨existing, -, -, -, rfl⟩ := update_ok hok
      exact h.of_same rfl rfl
  | prepareAdvance input =>
      obtain ⟨context, record, -, hfound, -, -, hgeneration, -, hfresh, -, hafter⟩ :=
        prepareAdvance_ok hok
      have hclaimed : j.generations record.sourceId = some record.generation := by
        have hsome := hsourced record (InsertionMap.mem_of_get hfound)
        obtain ⟨claimed, hclaimed⟩ := Option.isSome_iff_exists.mp hsome
        rw [hclaimed, hgeneration claimed hclaimed]
      have hboundaries : j'.boundaries = install input.time (j.boundary record.sourceId)
          (nextBoundary input record (j.boundary record.sourceId) context) j.boundaries := by
        rw [hafter]
      have hgenerations : j'.generations = j.generations := by
        rw [hafter]
        rfl
      intro sourceId other hother
      rw [boundary_install hsound hfresh rfl hboundaries] at hother
      rw [hgenerations]
      split at hother
      · case isTrue heq =>
          cases hother
          rw [heq]
          exact hclaimed
      · exact h sourceId other hother
  | retireBoundary boundaryId expectedRevision retirement time =>
      obtain ⟨found, hfound, hstate, -, -, -, rfl⟩ := retireBoundary_ok hok
      intro sourceId other hother
      rw [boundary_end hsound ⟨InsertionMap.mem_of_get hfound, rfl, hstate⟩ rfl] at hother
      split at hother
      · cases hother
      · exact h sourceId other hother
  | updateCircuit sourceId expectedRevision next =>
      obtain ⟨-, rfl⟩ := updateCircuit_ok hok
      exact h.of_same rfl rfl
  | beginOperation input =>
      rcases beginOperation_ok hok with ⟨_, _, -, -, -, rfl⟩ | ⟨operation, dropped, -, -, -, rfl⟩
      · exact h
      · exact h.of_same rfl rfl
  | finishOperation operationId state result time =>
      obtain ⟨operation, canonical, -, -, -, rfl⟩ := finishOperation_ok hok
      exact h.of_same rfl rfl
  | abandonPendingOperations time =>
      cases hok
      exact h.of_same rfl rfl

end Journal

namespace SqliteIncidentStore

variable {s s' : SqliteIncidentStore} {j : Journal} {limits : SqliteLimits}
  {conditions : SqliteConditions} {stored : List SourceIdentity} {source : SourceIdentity}
  {now : String}

/-- The tables of a reached journal and what they stand for. -/
structure Tied (s : SqliteIncidentStore) (j : Journal) : Prop where
  represents : s.Represents j
  sound : j.Sound
  recorded : j.Recorded

/-- What the claim of one source has checked and what it does to the rows of sources. -/
theorem claimSource_ok (hok : s.claimSource stored now source = .ok s') :
    (stored.find? fun row => row.sourceId = source.sourceId) = none ∨
      (stored.find? fun row => row.sourceId = source.sourceId) = some source ∧ s' = s ∨
      s.openCount source.sourceId = 0 ∧
        s'.sources = s.sources.update (fun row => row.sourceId = source.sourceId) fun row =>
          { row with generation := source.generation, kind := source.kind } := by
  unfold claimSource at hok
  cases hfound : stored.find? fun row => row.sourceId = source.sourceId with
  | none => exact .inl rfl
  | some previous =>
      right
      rw [hfound] at hok
      dsimp only at hok
      by_cases hsame : previous.generation = source.generation ∧ previous.kind = source.kind
      · have hid : previous.sourceId = source.sourceId := by simpa using List.find?_some hfound
        have hprevious : previous = source := by
          cases previous
          cases source
          simp_all
        rw [if_pos hsame] at hok
        cases hok
        exact .inl ⟨by rw [hprevious], rfl⟩
      · rw [if_neg hsame] at hok
        by_cases hopen : 0 < s.openCount source.sourceId
        · rw [if_pos hopen] at hok
          cases hok
        · rw [if_neg hopen] at hok
          right
          refine ⟨Nat.eq_zero_of_not_pos hopen, ?_⟩
          split at hok
          · split at hok
            · cases hok
              rfl
            · cases hok
              rfl
          · cases hok
            rfl

theorem Tied.claimSource
    (h : s.Tied j)
    (hstored : (stored.find? fun row => row.sourceId = source.sourceId) =
      s.sourceRow source.sourceId)
    (hok : s.claimSource stored now source = .ok s') :
    (∃ j', s'.Tied j') ∧ ∀ sourceId, sourceId ≠ source.sourceId →
      s'.sourceRow sourceId = s.sourceRow sourceId := by
  obtain ⟨hrepresents, hothers⟩ := h.represents.claimSource h.sound hstored hok
  refine ⟨?_, hothers⟩
  rcases hrepresents with hsame | hclaimed
  · exact ⟨j, hsame, h.sound, h.recorded⟩
  · rcases claimSource_ok hok with hnone | ⟨-, rfl⟩ | ⟨hidle, -⟩
    · refine ⟨_, hclaimed, h.sound.claimSource now source, h.recorded.claimSource h.sound ?_⟩
      intro found hfound
      have hknown := h.represents.bounded found
        ((Journal.boundary_eq_some h.sound.oneInForce).mp hfound).1
      have hsource := ((Journal.boundary_eq_some h.sound.oneInForce).mp hfound).2.1
      have hunknown : j.generations source.sourceId = none := by
        have hrow : s.sources.contents.find? (fun row => row.sourceId = source.sourceId) = none :=
          hstored.symm.trans hnone
        rw [← h.represents.generations, generation_eq, hrow]
        rfl
      rw [hsource, hunknown] at hknown
      cases hknown
    · exact ⟨j, h⟩
    · refine ⟨_, hclaimed, h.sound.claimSource now source, h.recorded.claimSource h.sound ?_⟩
      intro _ _
      rw [h.represents.openCount] at hidle
      exact List.length_eq_zero_iff.mp hidle

theorem Tied.claimSources
    {sources : List SourceIdentity} (h : s.Tied j) (hdistinct : (sources.map (·.sourceId)).Nodup)
    (hstored : ∀ source ∈ sources, (stored.find? fun row => row.sourceId = source.sourceId) =
      s.sourceRow source.sourceId)
    (hok : sources.foldlM (SqliteIncidentStore.claimSource stored now) s = .ok s') :
    ∃ j', s'.Tied j' := by
  induction sources generalizing s j with
  | nil =>
      cases hok
      exact ⟨j, h⟩
  | cons source rest ih =>
      rw [List.foldlM_cons] at hok
      rw [List.map_cons, List.nodup_cons] at hdistinct
      cases hstep : s.claimSource stored now source with
      | error refusal =>
          rw [hstep] at hok
          cases hok
      | ok next =>
          rw [hstep, ok_bind] at hok
          obtain ⟨⟨j', hnext⟩, hothers⟩ :=
            h.claimSource (hstored source List.mem_cons_self) hstep
          refine ih hnext hdistinct.2 ?_ hok
          intro other hother
          rw [hothers, hstored other (List.mem_cons_of_mem _ hother)]
          intro heq
          exact hdistinct.1 (heq ▸ List.mem_map_of_mem hother)

/-- What an accepted claim went through. -/
theorem claim_ok
    {projectId : String} {sources : List SourceIdentity} {reply : StoreReply}
    (hok : s.claim limits conditions projectId sources now = .ok (reply, s')) :
    (sources.map (·.sourceId)).Nodup ∧
      sources.foldlM (SqliteIncidentStore.claimSource s.sources.contents now) s = .ok s' := by
  unfold claim at hok
  cases hvalid : validateSources [] sources with
  | error refusal =>
      rw [hvalid] at hok
      cases hok
  | ok _ =>
      rw [hvalid, ok_bind] at hok
      have hbody : claimBody limits projectId sources now s = .ok (reply, s') := by
        unfold write at hok
        split at hok
        · cases hok
        · cases hok
        · exact hok
      refine ⟨(validateSources_ok hvalid).1, ?_⟩
      unfold claimBody at hbody
      split at hbody
      · cases hbody
      · split at hbody
        · cases hbody
        · cases hfold : sources.foldlM
              (SqliteIncidentStore.claimSource s.sources.contents now) s with
          | error refusal =>
              rw [hfold] at hbody
              cases hbody
          | ok final =>
              rw [hfold] at hbody
              cases hbody
              rfl

theorem Tied.call
    (h : s.Tied j) {c : StoreCall} {reply : StoreReply}
    (hok : s.call limits conditions c = .ok (reply, s')) : ∃ j', s'.Tied j' := by
  by_cases hclaim : ∃ projectId sources time, c = .claim projectId sources time
  · obtain ⟨projectId, sources, time, rfl⟩ := hclaim
    obtain ⟨hdistinct, hfold⟩ := claim_ok hok
    exact h.claimSources hdistinct (fun _ _ => rfl) hfold
  · have hother : ∀ projectId sources time, c ≠ .claim projectId sources time :=
      fun projectId sources time hc => hclaim ⟨projectId, sources, time, hc⟩
    have hagrees : Agrees Represents (Hindered conditions j c) (s.call limits conditions c) _ :=
      h.represents.call h.sound c hother
    rw [hok] at hagrees
    obtain ⟨j', hjournal, hrepresents⟩ := hagrees.accepted
    exact ⟨j', hrepresents, h.sound.call hjournal,
      h.recorded.call h.sound h.represents.sourced hother hjournal⟩

theorem tied_reached
    {projectId : String}
    (h : Reached (fun s c answer => ∃ limits conditions, call limits conditions s c = answer)
      (initial projectId) s) : ∃ j, s.Tied j := by
  induction h with
  | start => exact ⟨_, represents_initial projectId, Journal.sound_initial, Journal.recorded_initial⟩
  | accepted _ hanswer ih =>
      obtain ⟨j, htied⟩ := ih
      obtain ⟨limits, conditions, hok⟩ := hanswer
      exact htied.call hok

end SqliteIncidentStore

/-! ### Closing the stale incidents -/

namespace Journal

variable (request : RebaselineRequest) (generation : String)

def close (j : Journal) (incident : IncidentRecord) : Journal :=
  j.record (patched (RebaselineRequest.closing generation incident) request.time incident)
    (request.closingEvent incident)

def closeAll (stale : List IncidentRecord) (j : Journal) : Journal :=
  stale.foldl (close request generation) j

variable {request : RebaselineRequest} {generation : String} {stale : List IncidentRecord}
  {j : Journal}

/-- Closing incidents touches nothing but incidents and their histories. -/
theorem closeAll_others (request : RebaselineRequest) (generation : String)
    (stale : List IncidentRecord) (j : Journal) :
    (closeAll request generation stale j).boundaries = j.boundaries ∧
      (closeAll request generation stale j).circuits = j.circuits ∧
      (closeAll request generation stale j).operations = j.operations ∧
      (closeAll request generation stale j).generations = j.generations := by
  unfold closeAll
  induction stale generalizing j with
  | nil => exact ⟨rfl, rfl, rfl, rfl⟩
  | cons incident rest ih => exact ih (close request generation j incident)

theorem find?_fresh {failureId : String} (hfresh : failureId ∉ stale.map (·.failureId)) :
    (stale.find? fun incident => incident.failureId = failureId) = none := by
  rw [List.find?_eq_none]
  intro other hother heq
  rw [decide_eq_true_eq] at heq
  exact hfresh (heq ▸ List.mem_map_of_mem hother)

theorem closeAll_get (hdistinct : (stale.map (·.failureId)).Nodup) (failureId : String) :
    (closeAll request generation stale j).incidents.get failureId =
      match stale.find? fun incident => incident.failureId = failureId with
      | some incident =>
          some (patched (RebaselineRequest.closing generation incident) request.time incident)
      | none => j.incidents.get failureId := by
  unfold closeAll
  induction stale generalizing j with
  | nil => rfl
  | cons incident rest ih =>
      rw [List.map_cons, List.nodup_cons] at hdistinct
      rw [List.foldl_cons, ih hdistinct.2, List.find?_cons]
      have hclosed : (close request generation j incident).incidents.get failureId =
          if failureId = incident.failureId then
            some (patched (RebaselineRequest.closing generation incident) request.time incident)
          else j.incidents.get failureId :=
        InsertionMap.get_set _ _ _
      by_cases hid : incident.failureId = failureId
      · subst hid
        simp [find?_fresh hdistinct.1, hclosed]
      · simp [hid, hclosed, Ne.symm hid]

theorem closeAll_events (hdistinct : (stale.map (·.failureId)).Nodup) (failureId : String) :
    (closeAll request generation stale j).events failureId =
      match stale.find? fun incident => incident.failureId = failureId with
      | some incident => capEvents (j.events failureId ++ [request.closingEvent incident])
      | none => j.events failureId := by
  unfold closeAll
  induction stale generalizing j with
  | nil => rfl
  | cons incident rest ih =>
      rw [List.map_cons, List.nodup_cons] at hdistinct
      rw [List.foldl_cons, ih hdistinct.2, List.find?_cons]
      have hclosed : (close request generation j incident).events failureId =
          if failureId = incident.failureId then
            capEvents (j.events incident.failureId ++ [request.closingEvent incident])
          else j.events failureId :=
        Function.update_apply _ _ _ _
      by_cases hid : incident.failureId = failureId
      · subst hid
        simp [find?_fresh hdistinct.1, hclosed]
      · simp [hid, hclosed, Ne.symm hid]

end Journal

namespace SqliteIncidentStore

variable {s s' : SqliteIncidentStore} {j : Journal} {limits : SqliteLimits}
  {conditions : SqliteConditions}

/-- An update leaves the rows of sources alone. -/
theorem update_sources
    {failureId : String} {expectedRevision : ℕ} {patch : IncidentPatch} {event : IncidentEvent}
    {reply : StoreReply}
    (hok : s.update limits conditions failureId expectedRevision patch event = .ok (reply, s')) :
    s'.sources = s.sources := by
  unfold update write at hok
  split at hok
  · cases hok
  · cases hok
  · split at hok
    · cases hok
    · split at hok
      · cases hok
      · dsimp only at hok
        unfold addEvent at hok
        split at hok
        · cases hok
        · cases hok
          rfl

end SqliteIncidentStore

namespace RebaselineRequest

open SqliteIncidentStore (Tied)

variable {request : RebaselineRequest} {limits : SqliteLimits}
  {conditions : String → SqliteConditions} {generation : String} {stale : List IncidentRecord}
  {s s' : SqliteIncidentStore} {j : Journal}

theorem closeStale_ok
    (hok : request.closeStale limits conditions generation stale s = (.ok (), s'))
    (h : s.Tied j) (hdistinct : (stale.map (·.failureId)).Nodup)
    (hstored : ∀ incident ∈ stale, j.incidents.get incident.failureId = some incident) :
    s'.Tied (j.closeAll request generation stale) ∧ s'.sources = s.sources := by
  induction stale generalizing s j with
  | nil =>
      cases hok
      exact ⟨h, rfl⟩
  | cons incident rest ih =>
      rw [List.map_cons, List.nodup_cons] at hdistinct
      unfold closeStale at hok
      cases hupdate : s.update limits (conditions incident.failureId) incident.failureId
          incident.revision (closing generation incident) (request.closingEvent incident) with
      | error refusal =>
          rw [hupdate] at hok
          cases hok
      | ok answer =>
          obtain ⟨reply, next⟩ := answer
          rw [hupdate] at hok
          have hagrees := (@SqliteIncidentStore.Represents.update s j limits
            (conditions incident.failureId) h.represents) incident.failureId incident.revision
            (closing generation incident) (request.closingEvent incident)
            (.abandonPendingOperations "")
          rw [hupdate] at hagrees
          obtain ⟨j', hjournal, hrepresents⟩ := hagrees.accepted
          obtain ⟨existing, hfound, -, -, hclosed⟩ := Journal.update_ok hjournal
          rw [hstored incident List.mem_cons_self] at hfound
          cases hfound
          have hnext : next.Tied (j.close request generation incident) := by
            subst hclosed
            exact ⟨hrepresents, h.sound.record _ _, h.recorded.of_same rfl rfl⟩
          obtain ⟨htied, hsources⟩ := ih hok hnext hdistinct.2 (by
            intro other hother
            have hne : other.failureId ≠ incident.failureId := fun heq =>
              hdistinct.1 (heq ▸ List.mem_map_of_mem hother)
            have hkept : (j.close request generation incident).incidents.get other.failureId =
                j.incidents.get other.failureId := InsertionMap.get_set_ne _ hne
            rw [hkept, hstored other (List.mem_cons_of_mem _ hother)])
          exact ⟨htied, hsources.trans (SqliteIncidentStore.update_sources hupdate)⟩

end RebaselineRequest

/-! ### Claiming with one changed source -/

namespace SqliteIncidentStore

variable {s s' : SqliteIncidentStore} {j : Journal} {limits : SqliteLimits}
  {conditions : SqliteConditions} {stored sources : List SourceIdentity} {source : SourceIdentity}
  {now projectId : String}

theorem find?_row (hdistinct : (stored.map (·.sourceId)).Nodup) (hrow : source ∈ stored) :
    (stored.find? fun row => row.sourceId = source.sourceId) = some source := by
  cases hfound : stored.find? fun row => row.sourceId = source.sourceId with
  | none =>
      have hnone := List.find?_eq_none.mp hfound source hrow
      simp at hnone
  | some other =>
      have hid : other.sourceId = source.sourceId := by simpa using List.find?_some hfound
      rw [List.inj_on_of_nodup_map hdistinct (List.mem_of_find?_eq_some hfound) hrow hid]

/-- A source claimed as it is stored stays. -/
theorem claimSource_stored
    (hstored : (stored.find? fun row => row.sourceId = source.sourceId) = some source) :
    s.claimSource stored now source = .ok s := by
  unfold claimSource
  rw [hstored]
  exact if_pos ⟨rfl, rfl⟩

theorem claimSources_stored
    (hstored : ∀ row ∈ sources, (stored.find? fun other => other.sourceId = row.sourceId) = some row) :
    sources.foldlM (claimSource stored now) s = .ok s := by
  induction sources with
  | nil => rfl
  | cons row rest ih =>
      rw [List.foldlM_cons, claimSource_stored (hstored row List.mem_cons_self), ok_bind]
      exact ih fun other hother => hstored other (List.mem_cons_of_mem _ hother)

/-- Only the source that is not claimed as it is stored is touched. -/
theorem claimSources_changed
    (hdistinct : (sources.map (·.sourceId)).Nodup) (hmem : source ∈ sources)
    (hstored : ∀ row ∈ sources, row.sourceId ≠ source.sourceId →
      (stored.find? fun other => other.sourceId = row.sourceId) = some row) :
    sources.foldlM (claimSource stored now) s = s.claimSource stored now source := by
  obtain ⟨before, after, rfl⟩ := List.append_of_mem hmem
  rw [List.map_append, List.map_cons, List.nodup_middle, List.nodup_cons] at hdistinct
  have hother : ∀ row ∈ before ++ after, row.sourceId ≠ source.sourceId := by
    intro row hrow heq
    rw [← List.map_append, ← heq] at hdistinct
    exact hdistinct.1 (List.mem_map_of_mem hrow)
  have hbefore : before.foldlM (claimSource stored now) s = .ok s := by
    apply claimSources_stored
    intro row hrow
    exact hstored row (List.mem_append_left _ hrow) (hother row (List.mem_append_left _ hrow))
  rw [List.foldlM_append, hbefore, ok_bind, List.foldlM_cons]
  cases hstep : s.claimSource stored now source with
  | error refusal => rfl
  | ok next =>
      rw [ok_bind]
      apply claimSources_stored
      intro row hrow
      exact hstored row (List.mem_append_right _ (List.mem_cons_of_mem _ hrow))
        (hother row (List.mem_append_right _ hrow))

/-- The claim with which a rebaseline ends. -/
theorem claim_changed
    (hsource : (s.sourceRow source.sourceId).isSome) {reply : StoreReply}
    (hok : s.claim limits conditions projectId
      (RebaselineRequest.claimedSources source s.sourceList) now = .ok (reply, s')) :
    s.claimSource s.sources.contents now source = .ok s' := by
  obtain ⟨hdistinct, hfold⟩ := claim_ok hok
  have hperm : List.Perm s.sourceList s.sources.contents := List.mergeSort_perm _ _
  have hids : (RebaselineRequest.claimedSources source s.sourceList).map (·.sourceId) =
      s.sourceList.map (·.sourceId) := by
    unfold RebaselineRequest.claimedSources
    rw [List.map_map]
    apply List.map_congr_left
    intro row _
    by_cases hrow : row.sourceId = source.sourceId <;> simp [hrow]
  have hstored : (s.sources.contents.map (·.sourceId)).Nodup := by
    rw [hids] at hdistinct
    exact (hperm.map _).nodup_iff.mp hdistinct
  rw [← hfold]
  symm
  apply claimSources_changed hdistinct
  · obtain ⟨row, hrow⟩ := Option.isSome_iff_exists.mp hsource
    have hid : row.sourceId = source.sourceId := by simpa using List.find?_some hrow
    have hmem := hperm.mem_iff.mpr (List.mem_of_find?_eq_some hrow)
    exact List.mem_map.mpr ⟨row, hmem, if_pos hid⟩
  · intro row hrow hne
    obtain ⟨old, hold, rfl⟩ := List.mem_map.mp hrow
    by_cases hid : old.sourceId = source.sourceId
    · rw [if_pos hid] at hne
      exact absurd rfl hne
    · rw [if_neg hid]
      exact find?_row hstored (hperm.mem_iff.mp hold)

end SqliteIncidentStore

/-! ### Retiring the stale boundary -/

/-- A boundary in force of the source, of another generation than the configured one. -/
def SourceIdentity.retires (source : SourceIdentity) (boundary : StoredBoundary) : Bool :=
  Journal.isInForceOf source.sourceId boundary && boundary.generation ≠ source.generation

/-- The boundary after the source was claimed with its configured generation. -/
def SourceIdentity.retired (source : SourceIdentity) (now : String) (boundary : StoredBoundary) :
    StoredBoundary :=
  if source.retires boundary then
    endBoundary (generationRetirement source.sourceId boundary.generation source.generation) now
      boundary
  else boundary

namespace Journal

variable {j j' : Journal} {source : SourceIdentity} {now : String}

/-- Nothing changed but that the source's stale boundary is retired. -/
structure Retires (source : SourceIdentity) (now : String) (j j' : Journal) : Prop where
  sound : j'.Sound
  incidents : j'.incidents = j.incidents
  events : j'.events = j.events
  circuits : j'.circuits = j.circuits
  operations : j'.operations = j.operations
  boundaries : ∀ boundaryId,
    j'.boundaries.get boundaryId = (j.boundaries.get boundaryId).map (source.retired now)
  inForce : ∀ sourceId,
    j'.boundary sourceId = (j.boundary sourceId).filter fun found => !source.retires found

theorem retires_of_boundary
    (hsound : j.Sound) {boundary : StoredBoundary} (hboundary : boundary ∈ j.boundaries.values)
    (h : source.retires boundary = true) :
    j.boundary source.sourceId = some boundary ∧ boundary.generation ≠ source.generation := by
  simp only [SourceIdentity.retires, isInForceOf, Bool.and_eq_true, decide_eq_true_eq] at h
  obtain ⟨⟨hsource, hstate⟩, hgeneration⟩ := h
  exact ⟨(boundary_eq_some hsound.oneInForce).mpr ⟨hboundary, hsource, hstate⟩, hgeneration⟩

/-- Nothing is retired where no boundary is stale. -/
theorem retires_self
    (hsound : j.Sound)
    (hfresh : ∀ found, j.boundary source.sourceId = some found →
      found.generation = source.generation) : Retires source now j j := by
  have hnone : ∀ boundary ∈ j.boundaries.values, source.retires boundary = false := by
    intro boundary hboundary
    by_contra hretires
    rw [Bool.not_eq_false] at hretires
    obtain ⟨hfound, hgeneration⟩ := retires_of_boundary hsound hboundary hretires
    exact hgeneration (hfresh boundary hfound)
  refine ⟨hsound, rfl, rfl, rfl, rfl, ?_, ?_⟩
  · intro boundaryId
    cases hfound : j.boundaries.get boundaryId with
    | none => rfl
    | some found =>
        simp [SourceIdentity.retired, hnone found (InsertionMap.mem_of_get hfound)]
  · intro sourceId
    cases hfound : j.boundary sourceId with
    | none => rfl
    | some found =>
        have hmem := ((boundary_eq_some hsound.oneInForce).mp hfound).1
        rw [Option.filter_some, hnone found hmem]
        rfl

theorem retires_claimSource (hsound : j.Sound) (hidle : j.opened source.sourceId = []) :
    Retires source now j (j.claimSource now source) := by
  have hsound' := hsound.claimSource now source
  revert hsound'
  unfold Journal.claimSource
  cases hfound : j.boundary source.sourceId with
  | none =>
      intro hsound'
      have hself : Retires source now j j := by
        apply retires_self hsound
        intro found hfound'
        rw [hfound] at hfound'
        cases hfound'
      exact ⟨hsound', rfl, rfl, rfl, rfl, hself.boundaries, hself.inForce⟩
  | some found =>
      have hin := (boundary_eq_some hsound.oneInForce).mp hfound
      have hsource : found.sourceId = source.sourceId := hin.2.1
      dsimp only
      by_cases hsame : found.generation = source.generation
      · rw [if_pos (.inl hsame)]
        intro hsound'
        have hself : Retires source now j j := by
          apply retires_self hsound
          intro other hother
          rw [hfound] at hother
          cases hother
          exact hsame
        exact ⟨hsound', rfl, rfl, rfl, rfl, hself.boundaries, hself.inForce⟩
      · have hstale : source.retires found = true := by
          simp [SourceIdentity.retires, isInForceOf, hsource, hin.2.2, hsame]
        have honly : ∀ other ∈ j.boundaries.values, source.retires other = true → other = found := by
          intro other hother hretires
          have hother' := (retires_of_boundary hsound hother hretires).1
          rw [hfound] at hother'
          exact (Option.some.inj hother').symm
        rw [if_neg (by simp [hsame, hidle])]
        intro hsound'
        refine ⟨hsound', rfl, rfl, rfl, rfl, ?_, ?_⟩
        · intro boundaryId
          show (j.boundaries.set _).get boundaryId = _
          rw [InsertionMap.get_set]
          by_cases hid : boundaryId = found.boundaryId
          · subst hid
            have hget := InsertionMap.get_eq_some.mpr ⟨hin.1, rfl⟩
            rw [hget, Option.map_some, SourceIdentity.retired, if_pos hstale]
            exact if_pos rfl
          · rw [if_neg (by simpa using hid)]
            cases hget : j.boundaries.get boundaryId with
            | none => rfl
            | some other =>
                have hkept : source.retires other = false := by
                  by_contra hretires
                  rw [Bool.not_eq_false] at hretires
                  have heq := honly other (InsertionMap.mem_of_get hget) hretires
                  exact hid ((InsertionMap.key_of_get hget).symm.trans (congrArg _ heq))
                simp [SourceIdentity.retired, hkept]
        · intro sourceId
          rw [← hsource] at hin
          rw [boundary_end hsound hin rfl]
          by_cases hid : sourceId = found.sourceId
          · rw [if_pos hid, hid, hsource, hfound]
            rw [Option.filter_some, hstale]
            rfl
          · rw [if_neg hid]
            cases hother : j.boundary sourceId with
            | none => rfl
            | some other =>
                have hotherIn := (boundary_eq_some hsound.oneInForce).mp hother
                have hkept : source.retires other = false := by
                  by_contra hretires
                  rw [Bool.not_eq_false] at hretires
                  have heq := honly other hotherIn.1 hretires
                  exact hid (hotherIn.2.1.symm.trans (congrArg _ heq))
                rw [Option.filter_some, hkept]
                rfl

end Journal

namespace SqliteIncidentStore

variable {s s' : SqliteIncidentStore} {j : Journal} {source : SourceIdentity} {now : String}

theorem Tied.afterClaim
    (h : s.Tied j) (hsource : (s.sourceRow source.sourceId).isSome)
    (hok : s.claimSource s.sources.contents now source = .ok s') :
    (∃ j', s'.Represents j' ∧ Journal.Retires source now j j') ∧
      ∀ sourceId, s'.sourceRow sourceId =
        if sourceId = source.sourceId then some source else s.sourceRow sourceId := by
  obtain ⟨hrepresents, hothers⟩ := h.represents.claimSource h.sound rfl hok
  have hrow : s'.sourceRow source.sourceId = some source := by
    rcases claimSource_ok hok with hnone | ⟨hstored, rfl⟩ | ⟨-, hrows⟩
    · rw [sourceRow, hnone] at hsource
      cases hsource
    · exact hstored
    · obtain ⟨row, hfound⟩ := Option.isSome_iff_exists.mp hsource
      have hid : row.sourceId = source.sourceId := by simpa using List.find?_some hfound
      unfold sourceRow at hfound ⊢
      rw [hrows, find_update_sources, hfound, Option.map_some, if_pos rfl, hid]
  constructor
  · rcases hrepresents with hsame | hclaimed
    · refine ⟨j, hsame, Journal.retires_self h.sound ?_⟩
      intro found hfound
      have hgeneration : s'.generation source.sourceId = some source.generation := by
        rw [generation_eq]
        exact congrArg (Option.map (·.generation)) hrow
      have hrecorded := h.recorded _ _ hfound
      rw [← hsame.generations, hgeneration] at hrecorded
      exact (Option.some.inj hrecorded).symm
    · rcases claimSource_ok hok with hnone | ⟨hstored, rfl⟩ | ⟨hidle, -⟩
      · rw [sourceRow, hnone] at hsource
        cases hsource
      · refine ⟨j, h.represents, Journal.retires_self h.sound ?_⟩
        intro found hfound
        have hrecorded := h.recorded _ _ hfound
        rw [← h.represents.generations, generation_eq, hstored] at hrecorded
        exact (Option.some.inj hrecorded).symm
      · refine ⟨_, hclaimed, Journal.retires_claimSource h.sound ?_⟩
        rw [h.represents.openCount] at hidle
        exact List.length_eq_zero_iff.mp hidle
  · intro sourceId
    split
    · case isTrue heq => rw [heq, hrow]
    · case isFalse hne => exact hothers sourceId hne

end SqliteIncidentStore

/-! ### The frame of a rebaseline -/

/-- An open incident of the source, of another generation than the configured one. -/
def SourceIdentity.closes (source : SourceIdentity) (incident : IncidentRecord) : Bool :=
  Journal.isOpenOf source.sourceId incident && incident.generation ≠ source.generation

/-- What `start` refuses a source for. -/
def SqliteIncidentStore.staleAtStart (source : SourceIdentity) (s : SqliteIncidentStore) :
    Option IncidentRecord :=
  (s.opened source.sourceId).find? fun incident => incident.generation ≠ source.generation

/-- A claim's refusal of a source for its generation. -/
def Refusal.RefusesGeneration (refusal : Refusal) (sourceId : String) : Prop :=
  refusal.reason = some "generation-changed-with-open-incidents" ∧
    ("sourceId", sourceId) ∈ refusal.details

namespace SqliteIncidentStore

variable {s s' : SqliteIncidentStore} {limits : SqliteLimits} {conditions : SqliteConditions}
  {stored sources : List SourceIdentity} {source : SourceIdentity} {now projectId : String}
  {refusal : Refusal}

theorem claimSource_error (herror : s.claimSource stored now source = .error refusal) :
    (stored.find? fun row => row.sourceId = source.sourceId) ≠ some source ∧
      ∀ sourceId, ("sourceId", sourceId) ∈ refusal.details → sourceId = source.sourceId := by
  constructor
  · intro hstored
    rw [claimSource_stored hstored] at herror
    cases herror
  · unfold claimSource at herror
    split at herror
    · cases herror
    · split at herror
      · cases herror
      · split at herror
        · cases herror
          intro sourceId hmem
          simpa [refuse] using hmem
        · dsimp only at herror
          split at herror
          · split at herror <;> cases herror
          · cases herror

theorem claimSources_error (herror : sources.foldlM (claimSource stored now) s = .error refusal) :
    ∃ row ∈ sources, ∃ before : SqliteIncidentStore,
      before.claimSource stored now row = .error refusal := by
  induction sources generalizing s with
  | nil => cases herror
  | cons row rest ih =>
      rw [List.foldlM_cons] at herror
      cases hstep : s.claimSource stored now row with
      | error other =>
          rw [hstep] at herror
          cases herror
          exact ⟨row, List.mem_cons_self, s, hstep⟩
      | ok next =>
          rw [hstep, ok_bind] at herror
          obtain ⟨found, hfound, before, hrefused⟩ := ih herror
          exact ⟨found, List.mem_cons_of_mem _ hfound, before, hrefused⟩

theorem validateSources_error {seen : List String}
    (herror : validateSources seen sources = .error refusal) :
    refusal.reason = some "duplicate-source" := by
  induction sources generalizing seen with
  | nil => cases herror
  | cons row rest ih =>
      unfold validateSources at herror
      split at herror
      · cases herror
        rfl
      · exact ih herror

/-- A source that is claimed as it is stored is not refused for its generation. -/
theorem claim_accepts_stored
    (hrow : s.sourceRow source.sourceId = some source) (hmem : source ∈ sources)
    (herror : s.claim limits conditions projectId sources now = .error refusal) :
    ¬refusal.RefusesGeneration source.sourceId := by
  rintro ⟨hreason, hdetail⟩
  unfold claim at herror
  cases hvalid : validateSources [] sources with
  | error other =>
      rw [hvalid] at herror
      cases herror
      rw [validateSources_error hvalid] at hreason
      simp at hreason
  | ok _ =>
      rw [hvalid, ok_bind] at herror
      unfold write at herror
      split at herror
      · cases herror
        simp [storeFull] at hreason
      · cases herror
        simp at hreason
      · unfold claimBody at herror
        split at herror
        · cases herror
          simp [refuse] at hreason
        · split at herror
          · cases herror
            simp [refuse] at hreason
          · cases hfold : sources.foldlM (claimSource s.sources.contents now) s with
            | ok final =>
                rw [hfold] at herror
                cases herror
            | error other =>
                rw [hfold] at herror
                cases herror
                obtain ⟨row, hrowMem, before, hrefused⟩ := claimSources_error hfold
                obtain ⟨hchanged, hdetails⟩ := claimSource_error hrefused
                have hsame : row = source := List.inj_on_of_nodup_map
                  (validateSources_ok hvalid).1 hrowMem hmem (hdetails _ hdetail).symm
                rw [hsame] at hchanged
                exact hchanged hrow

end SqliteIncidentStore

namespace RebaselineRequest

/-- The incident after the rebaseline. -/
def closedIncident (request : RebaselineRequest) (source : SourceIdentity)
    (incident : IncidentRecord) : IncidentRecord :=
  if source.closes incident then
    patched (closing source.generation incident) request.time incident
  else incident

/-- Its history after the rebaseline. -/
def closedEvents (request : RebaselineRequest) (source : SourceIdentity)
    (events : List IncidentEvent) (incident : IncidentRecord) : List IncidentEvent :=
  if source.closes incident then capEvents (events ++ [request.closingEvent incident]) else events

/-- What a completed rebaseline of a source does to a journal, and nothing else. -/
structure Rebaselines (request : RebaselineRequest) (source : SourceIdentity)
    (before after : SqliteIncidentStore) : Prop where
  incidents : ∀ failureId,
    after.get failureId = (before.get failureId).map (request.closedIncident source)
  events : ∀ failureId, after.eventsOf failureId =
    ((before.get failureId).map (request.closedEvents source (before.eventsOf failureId))).getD
      (before.eventsOf failureId)
  boundaries : ∀ boundaryId,
    after.getBoundary boundaryId = (before.getBoundary boundaryId).map (source.retired request.now)
  inForce : ∀ sourceId, after.inForceBoundary sourceId =
    (before.inForceBoundary sourceId).filter fun boundary => !source.retires boundary
  circuits : ∀ sourceId, after.circuit sourceId = before.circuit sourceId
  operations : ∀ operationId, after.getOperation operationId = before.getOperation operationId
  sources : ∀ sourceId, after.sourceRow sourceId =
    if sourceId = source.sourceId then some source else before.sourceRow sourceId
  otherIncidents : ∀ failureId incident, before.get failureId = some incident →
    incident.sourceId ≠ source.sourceId →
      after.get failureId = some incident ∧ after.eventsOf failureId = before.eventsOf failureId
  otherBoundaries : ∀ boundaryId boundary, before.getBoundary boundaryId = some boundary →
    boundary.sourceId ≠ source.sourceId → after.getBoundary boundaryId = some boundary
  /-- Claiming the configured sources does not refuse this one. -/
  claims : ∀ limits conditions projectId sources now refusal, source ∈ sources →
    after.claim limits conditions projectId sources now = .error refusal →
      ¬refusal.RefusesGeneration source.sourceId
  /-- The check at the start passes, before and after a claim. -/
  starts : after.staleAtStart source = none ∧
    ∀ limits conditions projectId sources now reply claimed,
      after.claim limits conditions projectId sources now = .ok (reply, claimed) →
        claimed.staleAtStart source = none

section Frame

variable {request : RebaselineRequest} {source : SourceIdentity} {s s' : SqliteIncidentStore}
  {j j' : Journal} {limits : SqliteLimits} {conditions : RebaselineConditions}

/-- The stale incidents, by ID. -/
theorem find?_stale (failureId : String) :
    (((j.opened source.sourceId).filter fun incident => incident.generation ≠ source.generation).find?
        fun incident => incident.failureId = failureId) =
      (j.incidents.get failureId).filter source.closes := by
  have hfilter : ((j.opened source.sourceId).filter fun incident =>
      incident.generation ≠ source.generation) = j.incidents.values.filter source.closes := by
    unfold Journal.opened SourceIdentity.closes
    rw [List.filter_filter]
    apply List.filter_congr
    intro incident _
    rw [Bool.and_comm]
  rw [hfilter]
  ext incident
  rw [Option.filter_eq_some_iff, InsertionMap.get_eq_some]
  constructor
  · intro hfound
    obtain ⟨hmem, hcloses⟩ := List.mem_filter.mp (List.mem_of_find?_eq_some hfound)
    exact ⟨⟨hmem, by simpa using List.find?_some hfound⟩, hcloses⟩
  · rintro ⟨⟨hmem, hid⟩, hcloses⟩
    cases hfound : (j.incidents.values.filter source.closes).find?
        fun incident => incident.failureId = failureId with
    | none =>
        have hnone := List.find?_eq_none.mp hfound incident (List.mem_filter.mpr ⟨hmem, hcloses⟩)
        simp [hid] at hnone
    | some other =>
        have hother := (List.mem_filter.mp (List.mem_of_find?_eq_some hfound)).1
        have hotherId : other.failureId = failureId := by simpa using List.find?_some hfound
        rw [InsertionMap.eq_of_mem hother hmem (hotherId.trans hid.symm)]

/-- No open incident of another generation is left. -/
theorem staleAtStart_none
    (request : RebaselineRequest) (j : Journal) (hafter : s'.Represents j')
    (hincidents : ∀ failureId, j'.incidents.get failureId =
      (j.incidents.get failureId).map (request.closedIncident source)) :
    s'.staleAtStart source = none := by
  unfold SqliteIncidentStore.staleAtStart
  rw [hafter.opened, List.find?_eq_none]
  intro incident hopened hgeneration
  obtain ⟨hmem, hopen⟩ := List.mem_filter.mp hopened
  have hget := hincidents incident.failureId
  rw [InsertionMap.get_eq_some.mpr ⟨hmem, rfl⟩] at hget
  obtain ⟨old, -, hclosed⟩ := Option.map_eq_some_iff.mp hget.symm
  unfold closedIncident at hclosed
  split at hclosed
  · rw [← hclosed] at hopen
    simp [Journal.isOpenOf, patched, closing] at hopen
  · case isFalse hkept =>
      rw [hclosed] at hkept
      exact hkept (by simp [SourceIdentity.closes, hopen, by simpa using hgeneration])

/-- What closing and claiming leave, read from the tables. -/
theorem rebaselines_of_journal
    (h : s.Tied j) (hafter : s'.Represents j')
    (hretires : Journal.Retires source request.now
      (j.closeAll request source.generation
        ((j.opened source.sourceId).filter fun incident => incident.generation ≠ source.generation))
      j')
    (hdistinct : (((j.opened source.sourceId).filter fun incident =>
      incident.generation ≠ source.generation).map (·.failureId)).Nodup)
    (hsources : ∀ sourceId, s'.sourceRow sourceId =
      if sourceId = source.sourceId then some source else s.sourceRow sourceId) :
    request.Rebaselines source s s' := by
  obtain ⟨hboundaries, hcircuits, hoperations, -⟩ := Journal.closeAll_others request
    source.generation ((j.opened source.sourceId).filter
      fun incident => incident.generation ≠ source.generation) j
  have hincidents : ∀ failureId, j'.incidents.get failureId =
      (j.incidents.get failureId).map (request.closedIncident source) := by
    intro failureId
    rw [hretires.incidents, Journal.closeAll_get hdistinct, find?_stale]
    cases hfound : j.incidents.get failureId with
    | none => rfl
    | some incident =>
        rw [Option.filter_some]
        by_cases hcloses : source.closes incident = true
        · simp [hcloses, closedIncident]
        · simp [hcloses, closedIncident]
  have hevents : ∀ failureId, j'.events failureId =
      ((j.incidents.get failureId).map (request.closedEvents source (j.events failureId))).getD
        (j.events failureId) := by
    intro failureId
    rw [hretires.events, Journal.closeAll_events hdistinct, find?_stale]
    cases hfound : j.incidents.get failureId with
    | none => rfl
    | some incident =>
        rw [Option.filter_some]
        by_cases hcloses : source.closes incident = true
        · simp [hcloses, closedEvents]
        · simp [hcloses, closedEvents]
  have hget : ∀ failureId, s'.get failureId =
      (s.get failureId).map (request.closedIncident source) := by
    intro failureId
    rw [hafter.get, h.represents.get, hincidents]
  have hhistory : ∀ failureId, s'.eventsOf failureId =
      ((s.get failureId).map (request.closedEvents source (s.eventsOf failureId))).getD
        (s.eventsOf failureId) := by
    intro failureId
    rw [hafter.eventsOf hretires.sound, h.represents.eventsOf h.sound, h.represents.get, hevents]
  have hgetBoundary : ∀ boundaryId, s'.getBoundary boundaryId =
      (s.getBoundary boundaryId).map (source.retired request.now) := by
    intro boundaryId
    rw [hafter.getBoundary, h.represents.getBoundary, hretires.boundaries, hboundaries]
  constructor
  · exact hget
  · exact hhistory
  · exact hgetBoundary
  · intro sourceId
    have hsame : (j.closeAll request source.generation ((j.opened source.sourceId).filter
        fun incident => incident.generation ≠ source.generation)).boundary sourceId =
        j.boundary sourceId := by
      unfold Journal.boundary
      rw [hboundaries]
    rw [hafter.inForceBoundary, h.represents.inForceBoundary, hretires.inForce, hsame]
  · intro sourceId
    rw [hafter.circuits, h.represents.circuits, hretires.circuits, hcircuits]
  · intro operationId
    rw [hafter.getOperation, h.represents.getOperation, hretires.operations, hoperations]
  · exact hsources
  · intro failureId incident hfound hother
    have hkept : source.closes incident = false := by
      simp [SourceIdentity.closes, Journal.isOpenOf, hother]
    constructor
    · simp [hget, hfound, closedIncident, hkept]
    · simp [hhistory, hfound, closedEvents, hkept]
  · intro boundaryId boundary hfound hother
    have hkept : source.retires boundary = false := by
      simp [SourceIdentity.retires, Journal.isInForceOf, hother]
    simp [hgetBoundary, hfound, SourceIdentity.retired, hkept]
  · intro limits conditions projectId sources now refusal hmem herror
    refine SqliteIncidentStore.claim_accepts_stored ?_ hmem herror
    rw [hsources, if_pos rfl]
  · constructor
    · exact staleAtStart_none request j hafter hincidents
    · intro limits conditions projectId sources now reply claimed hok
      obtain ⟨-, rows, -, hclaimed⟩ := hafter.claim hretires.sound hok
      apply staleAtStart_none request j hclaimed
      intro failureId
      rw [Journal.claim_incidents, hincidents]

/-- A source with something to rebaseline is recorded in the journal. -/
theorem sourceRow_isSome
    (h : s.Tied j)
    (hstale : ¬((s.opened source.sourceId).filter (fun incident =>
        incident.generation ≠ source.generation) = [] ∧
      staleBoundary source (s.inForceBoundary source.sourceId) = none)) :
    (s.sourceRow source.sourceId).isSome := by
  have hknown : (j.generations source.sourceId).isSome := by
    by_cases hnone : (s.opened source.sourceId).filter (fun incident =>
        incident.generation ≠ source.generation) = []
    · cases hfound : s.inForceBoundary source.sourceId with
      | none => exact absurd ⟨hnone, by rw [hfound]; rfl⟩ hstale
      | some boundary =>
          rw [h.represents.inForceBoundary] at hfound
          have hin := (Journal.boundary_eq_some h.sound.oneInForce).mp hfound
          rw [← hin.2.1]
          exact h.represents.bounded boundary hin.1
    · obtain ⟨incident, hmem⟩ := List.exists_mem_of_ne_nil _ hnone
      have hopened := (List.mem_filter.mp hmem).1
      rw [h.represents.opened] at hopened
      obtain ⟨hincident, hopen⟩ := List.mem_filter.mp hopened
      have hsource : incident.sourceId = source.sourceId := by
        simp only [Journal.isOpenOf, Bool.and_eq_true, decide_eq_true_eq] at hopen
        exact hopen.1
      rw [← hsource]
      exact h.represents.sourced incident hincident
  rw [← h.represents.generations, SqliteIncidentStore.generation_eq, Option.isSome_map] at hknown
  exact hknown

/-- A rebaseline completes when its writes do. -/
theorem rebaseline_of_writes
    (request : RebaselineRequest) (limits : SqliteLimits) (conditions : RebaselineConditions)
    (source : SourceIdentity) (s : SqliteIncidentStore) {stale : List IncidentRecord} {closed : SqliteIncidentStore} {reply : StoreReply}
    (hstale : ((s.opened source.sourceId).filter fun incident =>
      incident.generation ≠ source.generation) = stale) (hsome : stale ≠ [])
    (hclosed : request.closeStale limits conditions.update source.generation stale s =
      (.ok (), closed))
    (hclaim : closed.claim limits conditions.claim request.projectId
      (claimedSources source closed.sourceList) request.now = .ok (reply, s')) :
    request.rebaseline limits conditions source s =
      (.ok (request.rebaselined source stale
        (staleBoundary source (s.inForceBoundary source.sourceId))), s') := by
  unfold rebaseline
  dsimp only
  rw [hstale, if_neg (fun hnone => hsome hnone.1), hclosed]
  dsimp only
  rw [hclaim]

/-- The transaction of a rebaseline that completes. -/
theorem rebaseline_completed
    (h : s.Tied j) {result : RebaselineResult}
    (hok : request.rebaseline limits conditions source s = (.ok result, s'))
    (hcompleted : result.result = .completed) : request.Rebaselines source s s' := by
  unfold rebaseline at hok
  dsimp only at hok
  split at hok
  · cases hok
    cases hcompleted
  · case isFalse hstale =>
      have hknown := sourceRow_isSome h hstale
      rw [h.represents.opened] at hok
      have hdistinct : (((j.opened source.sourceId).filter fun incident =>
          incident.generation ≠ source.generation).map (·.failureId)).Nodup :=
        j.incidents.distinct.sublist
          ((List.filter_sublist.trans List.filter_sublist).map IncidentRecord.failureId)
      have hstored : ∀ incident ∈ (j.opened source.sourceId).filter fun incident =>
          incident.generation ≠ source.generation,
            j.incidents.get incident.failureId = some incident := by
        intro incident hmem
        have hopened := (List.mem_filter.mp hmem).1
        exact InsertionMap.get_eq_some.mpr ⟨(List.mem_filter.mp hopened).1, rfl⟩
      split at hok
      · cases hok
      · case h_2 closed hclosed =>
          obtain ⟨htied, hsame⟩ := closeStale_ok hclosed h hdistinct hstored
          have hrow : ∀ sourceId, closed.sourceRow sourceId = s.sourceRow sourceId := by
            intro sourceId
            unfold SqliteIncidentStore.sourceRow
            rw [hsame]
          split at hok
          · cases hok
          · case h_2 reply after hclaim =>
              cases hok
              have hchanged := SqliteIncidentStore.claim_changed (by rwa [hrow]) hclaim
              obtain ⟨⟨j', hafter, hretires⟩, hsources⟩ :=
                htied.afterClaim (by rwa [hrow]) hchanged
              apply rebaselines_of_journal h hafter hretires hdistinct
              intro sourceId
              rw [hsources, hrow]

/-- A rebaseline that does not complete leaves the journal as it was. -/
theorem rebaselineSource_unchanged
    {outcome : Except Refusal RebaselineResult}
    (hrun : request.rebaselineSource limits conditions s = (outcome, s'))
    (hrefused : ∀ result, outcome = .ok result → result.result = .refused) : s' = s := by
  unfold rebaselineSource at hrun
  split at hrun
  · cases hrun
    rfl
  · split at hrun
    · cases hrun
      rfl
    · split at hrun
      · cases hrun
        rfl
      · unfold SqliteIncidentStore.atomically at hrun
        split at hrun
        · cases hrun
          rfl
        · split at hrun
          · case h_1 result after htransaction =>
              cases hrun
              have hend := hrefused result rfl
              unfold rebaseline at htransaction
              dsimp only at htransaction
              split at htransaction
              · cases htransaction
                rfl
              · split at htransaction
                · cases htransaction
                · split at htransaction
                  · cases htransaction
                  · cases htransaction
                    cases hend
          · cases hrun
            rfl

theorem rebaselineSource_completed
    (h : s.Tied j) {result : RebaselineResult}
    (hrun : request.rebaselineSource limits conditions s = (.ok result, s'))
    (hcompleted : result.result = .completed) :
    ∃ source ∈ request.sources, source.sourceId = request.sourceId ∧
      request.Rebaselines source s s' := by
  unfold rebaselineSource at hrun
  split at hrun
  · cases hrun
  · case h_2 source hfound =>
      split at hrun
      · cases hrun
      · split at hrun
        · cases hrun
        · unfold SqliteIncidentStore.atomically at hrun
          split at hrun
          · cases hrun
          · split at hrun
            · case h_1 _ after htransaction =>
                cases hrun
                exact ⟨source, List.mem_of_find?_eq_some hfound,
                  by simpa using List.find?_some hfound,
                  rebaseline_completed h htransaction hcompleted⟩
            · cases hrun

end Frame

/-- In every reached journal a completed rebaseline is the one of a configured source, and any
other leaves the journal as it was. -/
theorem rebaseline_frame (projectId : String) (s : SqliteIncidentStore)
    (hreached : Reached (fun s c answer => ∃ limits conditions,
      SqliteIncidentStore.call limits conditions s c = answer) (.initial projectId) s)
    (request : RebaselineRequest) (limits : SqliteLimits) (conditions : RebaselineConditions)
    (outcome : Except Refusal RebaselineResult) (after : SqliteIncidentStore)
    (hrun : request.rebaselineSource limits conditions s = (outcome, after)) :
    (∀ result, outcome = .ok result → result.result = .completed →
        ∃ source ∈ request.sources, source.sourceId = request.sourceId ∧
          request.Rebaselines source s after) ∧
      ((∀ result, outcome = .ok result → result.result = .refused) → after = s) := by
  constructor
  · rintro result rfl hcompleted
    obtain ⟨j, htied⟩ := SqliteIncidentStore.tied_reached hreached
    exact rebaselineSource_completed htied hrun hcompleted
  · exact rebaselineSource_unchanged hrun

/-! ### A rebaseline that completes -/

def ordersLimits : SqliteLimits := ⟨"journal.db", 1000000, 10⟩

def ordersObservation : NewObservation where
  failureId := "f1:a"
  sourceId := "orders"
  generation := "g1"
  position := .kafka "orders" 0 0
  clusterId := none
  timestamp := none
  failureClass := .invalidJson
  stage := .validate
  errorCode := .invalidPayload
  channel := none
  policy := .pause
  diagnosis := ""
  evidence := ⟨.none, .complete, none, none, 0, ""⟩
  fingerprints := ⟨"", "", "", ""⟩
  observedAt := "t1"

def ordersClaimed : SqliteIncidentStore :=
  { SqliteIncidentStore.initial "shop" with
    sources := RowTable.empty.insert ⟨"orders", "g1", .kafka⟩ }

/-- A journal whose source has an open incident. -/
def ordersJournal : SqliteIncidentStore :=
  { ordersClaimed with
    incidents := RowTable.empty.insert (SqliteIncidentStore.incidentRow (newIncident ordersObservation))
    incidentEvents := (RowTable.empty.insert
      ⟨"f1:a", "t1", .detected, some "invalid-json", none⟩).keepNewest
        (fun row => row.failureId = "f1:a") maxEventsPerIncident }

/-- The source's topic was recreated. -/
def ordersRebaseline : RebaselineRequest where
  projectId := "shop"
  sources := [⟨"orders", "g2", .kafka⟩]
  sourceId := "orders"
  reason := "recreated"
  operationId := "op1:0"
  time := "t2"
  now := "t3"

theorem ordersJournal_reached :
    Reached (fun s c answer => ∃ limits conditions,
      SqliteIncidentStore.call limits conditions s c = answer)
      (.initial "shop") ordersJournal := by
  have hclaim : SqliteIncidentStore.call ordersLimits {} (.initial "shop")
      (.claim "shop" [⟨"orders", "g1", .kafka⟩] "t0") = .ok (.claimed, ordersClaimed) := rfl
  have hobserve : SqliteIncidentStore.call ordersLimits {} ordersClaimed (.observe ordersObservation) =
      .ok (.observed ⟨newIncident ordersObservation, true, false⟩, ordersJournal) := rfl
  exact .accepted (.accepted .start ⟨ordersLimits, {}, hclaim⟩) ⟨ordersLimits, {}, hobserve⟩

def ordersConfigured : SourceIdentity := ⟨"orders", "g2", .kafka⟩

theorem ordersRebaseline_completed :
    (ordersRebaseline.rebaselineSource ordersLimits {} ordersJournal).1 =
      .ok (ordersRebaseline.rebaselined ordersConfigured [newIncident ordersObservation] none) := by
  let closed : SqliteIncidentStore := (ordersRebaseline.closeStale ordersLimits (fun _ => {}) "g2"
    [newIncident ordersObservation] ordersJournal).2
  have hclosed : ordersRebaseline.closeStale ordersLimits (fun _ => {}) "g2"
      [newIncident ordersObservation] ordersJournal = (.ok (), closed) := rfl
  have hsources : closed.sourceList = [⟨"orders", "g1", .kafka⟩] := List.mergeSort_singleton _
  obtain ⟨final, hclaim⟩ : ∃ final, closed.claim ordersLimits {} "shop"
      (claimedSources ordersConfigured closed.sourceList) "t3" = .ok (.claimed, final) := by
    rw [hsources]
    exact ⟨_, rfl⟩
  have htransaction := rebaseline_of_writes ordersRebaseline ordersLimits {} ordersConfigured
    ordersJournal rfl (List.cons_ne_nil _ _) hclosed hclaim
  have hsource : ordersRebaseline.rebaselineSource ordersLimits {} ordersJournal =
      ordersJournal.atomically ordersLimits none
        (ordersRebaseline.rebaseline ordersLimits {} ordersConfigured) := rfl
  rw [hsource, SqliteIncidentStore.atomically, htransaction]
  rfl

theorem rebaseline_frame_orders :
    ∃ source ∈ ordersRebaseline.sources, source.sourceId = "orders" ∧
      ordersRebaseline.Rebaselines source ordersJournal
        (ordersRebaseline.rebaselineSource ordersLimits {} ordersJournal).2 :=
  (rebaseline_frame "shop" ordersJournal ordersJournal_reached ordersRebaseline ordersLimits {}
    _ _ (Prod.mk.eta).symm).1 _ ordersRebaseline_completed rfl

end RebaselineRequest

end StreamOtter
