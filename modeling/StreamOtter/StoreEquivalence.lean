import StreamOtter.MemoryRefinement
import StreamOtter.SqliteRefinement

/-!
# The two stores agree

Both stores refine one abstract store, so after the same calls they give the same answers,
as long as neither runs out of room.  They differ in the order in which finished operations
are pruned: one compares times by code units, the other by code points.  These orders are one
on the basic multilingual plane, where every ISO time is.
-/

namespace StreamOtter

open FailureStore

/-- The answers to a list of calls, and the store after them.  A refused call changes
nothing. -/
def runCalls {σ : Type} (call : σ → StoreCall → Except Refusal (StoreReply × σ)) (s : σ) :
    List StoreCall → List (Except Refusal StoreReply) × σ
  | [] => ([], s)
  | c :: rest =>
      match call s c with
      | .ok (reply, s') => (.ok reply :: (runCalls call s' rest).1, (runCalls call s' rest).2)
      | .error refusal => (.error refusal :: (runCalls call s rest).1, (runCalls call s rest).2)

section Texts

/-- No character beyond the basic multilingual plane. -/
def BasicText (text : String) : Prop := ∀ c ∈ text.toList, c.val < 0x10000

theorem codeUnits_of_basic
    {text : String} (h : BasicText text) :
    MemoryIncidentStore.codeUnits text = text.toList.map Char.toNat := by
  unfold MemoryIncidentStore.codeUnits
  unfold BasicText at h
  generalize text.toList = characters at h
  induction characters with
  | nil => rfl
  | cons c rest ih =>
      have hc := h c List.mem_cons_self
      have hrest := ih fun d hd => h d (List.mem_cons_of_mem _ hd)
      rw [List.flatMap_cons, hrest, if_pos hc]
      rfl

theorem textOrders_agree
    {a b : String} (ha : BasicText a) (hb : BasicText b) :
    MemoryIncidentStore.codeUnitLe a b = SqliteIncidentStore.codePointLe a b := by
  unfold MemoryIncidentStore.codeUnitLe SqliteIncidentStore.codePointLe
  rw [codeUnits_of_basic ha, codeUnits_of_basic hb]

end Texts

namespace Journal

/-- The times of the stored operations are basic texts. -/
def BasicTimes (j : Journal) : Prop :=
  ∀ operation ∈ j.operations.values, BasicText operation.startedAt ∧
    BasicText (operation.completedAt.getD "")

theorem basicText_empty : BasicText "" := by
  intro c hc
  simp at hc

section Pruning

variable {j j' : Journal}

/-- Both orders prune the same operations. -/
theorem pruned_agree
    {operations : List StoredOperation}
    (h : ∀ operation ∈ operations, BasicText operation.startedAt ∧
      BasicText (operation.completedAt.getD "")) (count : ℕ) :
    pruned MemoryIncidentStore.codeUnitLe count operations =
      pruned SqliteIncidentStore.codePointLe count operations := by
  unfold pruned
  have hsame : ∀ a ∈ operations.filter isFinished, ∀ b ∈ operations.filter isFinished,
      finishedBefore MemoryIncidentStore.codeUnitLe a b =
        finishedBefore SqliteIncidentStore.codePointLe (id a) (id b) := by
    intro a ha b hb
    have hbasicA := h a (List.mem_of_mem_filter ha)
    have hbasicB := h b (List.mem_of_mem_filter hb)
    unfold finishedBefore
    dsimp only [id]
    rw [textOrders_agree hbasicA.2 hbasicB.2, textOrders_agree hbasicB.2 hbasicA.2,
      textOrders_agree hbasicA.1 hbasicB.1]
  have hsorted := List.map_mergeSort hsame
  rw [List.map_id, List.map_id] at hsorted
  rw [hsorted]

theorem call_agree (h : j.BasicTimes) (limit : ℕ) (c : StoreCall) :
    j.call MemoryIncidentStore.codeUnitLe limit c =
      j.call SqliteIncidentStore.codePointLe limit c := by
  cases c with
  | beginOperation input =>
      show j.beginOperation _ limit input = j.beginOperation _ limit input
      unfold Journal.beginOperation
      have hpruned := fun count => pruned_agree h count
      simp only [hpruned]
  | _ => rfl

end Pruning

end Journal

/-- The time that an operation is given by a call. -/
def StoreCall.operationTime : StoreCall → Option String
  | .beginOperation input => some input.time
  | .finishOperation _ _ _ time => some time
  | .abandonPendingOperations time => some time
  | _ => none

/-- The call is not a claim, and names no source but the claimed ones. -/
def StoreCall.Within (sources : List SourceIdentity) : StoreCall → Prop
  | .claim .. => False
  | .observe observation => ∃ source ∈ sources, source.sourceId = observation.sourceId
  | .updateCircuit sourceId _ _ => ∃ source ∈ sources, source.sourceId = sourceId
  | _ => True

namespace Journal

/-- What every call but a claim keeps: the operations' times stay basic, and the claimed
sources stay claimed. -/
theorem call_keeps
    {j j' : Journal} {le : String → String → Bool} {limit : ℕ} {c : StoreCall}
    {reply : StoreReply} (hok : j.call le limit c = .ok (reply, j'))
    (hclaim : ∀ projectId sources time, c ≠ .claim projectId sources time)
    (hbasic : j.BasicTimes) (htime : ∀ time ∈ c.operationTime, BasicText time) :
    j'.BasicTimes ∧ j'.generations = j.generations := by
  cases c with
  | claim projectId sources time => exact absurd rfl (hclaim projectId sources time)
  | observe observation =>
      have hafter : (j.observe observation).2 = j' := congrArg Prod.snd (Except.ok.inj hok)
      rw [← hafter]
      unfold Journal.observe
      split <;> exact ⟨hbasic, rfl⟩
  | update failureId expectedRevision patch event =>
      obtain ⟨existing, -, -, -, rfl⟩ := update_ok hok
      exact ⟨hbasic, rfl⟩
  | prepareAdvance input =>
      obtain ⟨context, record, -, -, -, -, -, -, -, -, rfl⟩ := prepareAdvance_ok hok
      exact ⟨hbasic, rfl⟩
  | retireBoundary boundaryId expectedRevision retirement time =>
      obtain ⟨boundary, -, -, -, -, -, rfl⟩ := retireBoundary_ok hok
      exact ⟨hbasic, rfl⟩
  | updateCircuit sourceId expectedRevision next =>
      obtain ⟨-, rfl⟩ := updateCircuit_ok hok
      exact ⟨hbasic, rfl⟩
  | beginOperation input =>
      rcases beginOperation_ok hok with ⟨_, _, -, -, -, rfl⟩ |
        ⟨operation, dropped, hnew, -, -, rfl⟩
      · exact ⟨hbasic, rfl⟩
      · refine ⟨?_, rfl⟩
        intro other hother
        rcases InsertionMap.mem_set.mp hother with rfl | ⟨hold, -⟩
        · obtain ⟨rfl, -, -⟩ := newOperation_ok hnew
          exact ⟨htime input.time rfl, basicText_empty⟩
        · exact hbasic other (List.mem_of_mem_filter hold)
  | finishOperation operationId state result time =>
      obtain ⟨operation, canonical, hfound, -, -, rfl⟩ := finishOperation_ok hok
      refine ⟨?_, rfl⟩
      intro other hother
      rcases InsertionMap.mem_set.mp hother with rfl | ⟨hold, -⟩
      · exact ⟨(hbasic operation (InsertionMap.mem_of_get hfound)).1, htime time rfl⟩
      · exact hbasic other hold
  | abandonPendingOperations time =>
      cases hok
      refine ⟨?_, rfl⟩
      intro other hother
      have hvalues := InsertionMap.foldl_set (p := isPending) (f := abandonedOperation time)
        (fun _ => rfl) j.operations
      dsimp only at hother
      rw [hvalues] at hother
      obtain ⟨operation, hoperation, rfl⟩ := List.mem_map.mp hother
      split
      · exact ⟨(hbasic operation hoperation).1, htime time rfl⟩
      · exact hbasic operation hoperation

end Journal

/-! ### Claimed stores -/

section Claimed

/-- The abstract store once the sources are claimed. -/
def claimedJournal (sources : List SourceIdentity) : Journal :=
  { Journal.initial with
    generations := fun sourceId =>
      (sources.find? fun source => source.sourceId = sourceId).map (·.generation) }

theorem sound_claimedJournal (sources : List SourceIdentity) : (claimedJournal sources).Sound :=
  Journal.sound_initial.of_same rfl rfl

theorem represents_claim_memory
    {sources : List SourceIdentity} (hdistinct : (sources.map (·.sourceId)).Nodup) (time : String) :
    (MemoryIncidentStore.initial.claim sources time).Represents (claimedJournal sources) := by
  have hrun : ∀ (rest : List SourceIdentity) (generations : String → Option String),
      (rest.map (·.sourceId)).Nodup →
      rest.foldl (MemoryIncidentStore.claimSource time)
          { MemoryIncidentStore.initial with generations := generations } =
        { MemoryIncidentStore.initial with
          generations := fun sourceId =>
            ((rest.find? fun source => source.sourceId = sourceId).map (·.generation)).or
              (generations sourceId) } := by
    intro rest
    induction rest with
    | nil =>
        intro generations _
        rfl
    | cons source rest ih =>
        intro generations hnodup
        rw [List.map_cons, List.nodup_cons] at hnodup
        rw [List.foldl_cons]
        have hstep : { MemoryIncidentStore.initial with
              generations := generations }.claimSource time source =
            { MemoryIncidentStore.initial with
              generations :=
                Function.update generations source.sourceId (some source.generation) } := rfl
        rw [hstep, ih _ hnodup.2]
        dsimp only
        congr 1
        funext sourceId
        rw [Function.update_apply]
        by_cases hsource : source.sourceId = sourceId
        · have hnone : rest.find? (fun other => other.sourceId = sourceId) = none := by
            rw [List.find?_eq_none]
            intro other hother heq
            have hid : other.sourceId = source.sourceId := by
              rw [hsource]
              simpa using heq
            exact hnodup.1 (hid ▸ List.mem_map_of_mem hother)
          rw [hnone]
          simp [hsource]
        · simp [hsource, Ne.symm hsource]
  have hclaimed := hrun sources (fun _ => none) hdistinct
  have hinitial := MemoryIncidentStore.represents_initial
  have hstore : MemoryIncidentStore.initial.claim sources time =
      { MemoryIncidentStore.initial with
        generations := (claimedJournal sources).generations } := by
    refine hclaimed.trans ?_
    simp [claimedJournal]
  rw [hstore]
  exact ⟨hinitial.incidents, hinitial.order, hinitial.events, hinitial.boundaries,
    hinitial.inForce, hinitial.circuits, rfl, hinitial.operations⟩

theorem represents_claim_sqlite
    {limits : SqliteLimits} {projectId time : String} {sources : List SourceIdentity}
    {reply : StoreReply} {s : SqliteIncidentStore}
    (hok : (SqliteIncidentStore.initial projectId).claim limits {} projectId sources time =
      .ok (reply, s)) :
    s.Represents (claimedJournal sources) ∧ (sources.map (·.sourceId)).Nodup := by
  have hrun : ∀ (rest : List SourceIdentity) (rows : RowTable SourceIdentity),
      rest.foldlM (SqliteIncidentStore.claimSource [] time)
          { SqliteIncidentStore.initial projectId with sources := rows } =
        .ok { SqliteIncidentStore.initial projectId with
          sources := rest.foldl (fun rows source => rows.insert source) rows } := by
    intro rest
    induction rest with
    | nil =>
        intro rows
        rfl
    | cons source rest ih =>
        intro rows
        rw [List.foldlM_cons]
        exact ih (rows.insert source)
  have hcontents : ∀ (rest : List SourceIdentity) (rows : RowTable SourceIdentity),
      (rest.foldl (fun rows source => rows.insert source) rows).contents =
        rows.contents ++ rest := by
    intro rest
    induction rest with
    | nil => simp
    | cons source rest ih =>
        intro rows
        rw [List.foldl_cons, ih]
        simp
  unfold SqliteIncidentStore.claim at hok
  cases hvalid : SqliteIncidentStore.validateSources [] sources with
  | error refusal =>
      rw [hvalid] at hok
      cases hok
  | ok _ =>
      rw [hvalid, ok_bind] at hok
      have hbody : SqliteIncidentStore.claimBody limits projectId sources time
          (SqliteIncidentStore.initial projectId) = .ok (reply, s) := hok
      have hfold := hrun sources .empty
      have hstored : (SqliteIncidentStore.initial projectId).sources.contents = [] := rfl
      have hproject : ¬(SqliteIncidentStore.initial projectId).projectId ≠ projectId :=
        not_not.mpr rfl
      unfold SqliteIncidentStore.claimBody at hbody
      rw [if_neg hproject, hstored] at hbody
      have hstart : { SqliteIncidentStore.initial projectId with sources := .empty } =
          SqliteIncidentStore.initial projectId := rfl
      rw [hstart] at hfold
      simp only [List.find?_nil, hfold] at hbody
      cases hbody
      have hinitial := SqliteIncidentStore.represents_initial projectId
      refine ⟨⟨hinitial.incidents, hinitial.events, hinitial.boundaries, hinitial.circuits, ?_,
        hinitial.operations, ?_, ?_, hinitial.circuitOf⟩,
        (SqliteIncidentStore.validateSources_ok hvalid).1⟩
      · intro sourceId
        rw [SqliteIncidentStore.generation_eq, hcontents]
        rfl
      · intro record hrecord
        simp [claimedJournal, Journal.initial] at hrecord
      · intro boundary hboundary
        simp [claimedJournal, Journal.initial] at hboundary

end Claimed

/-! ### Runs -/

/-- Every call of the run finds room in the memory store. -/
def FitsThroughout (limits : MemoryLimits) (s : MemoryIncidentStore) : List StoreCall → Prop
  | [] => True
  | c :: rest =>
      MemoryIncidentStore.Fits limits s c ∧
        match s.call limits c with
        | .ok (_, s') => FitsThroughout limits s' rest
        | .error _ => FitsThroughout limits s rest

/-- Only a new incident takes room. -/
theorem fitsThroughout_of_no_observe
    {limits : MemoryLimits} {calls : List StoreCall}
    (h : ∀ c ∈ calls, ∀ observation, c ≠ .observe observation) (s : MemoryIncidentStore) :
    FitsThroughout limits s calls := by
  induction calls generalizing s with
  | nil => trivial
  | cons c rest ih =>
      have hrest := ih fun d hd => h d (List.mem_cons_of_mem _ hd)
      have hfits : MemoryIncidentStore.Fits limits s c := by
        cases c with
        | observe observation => exact absurd rfl (h _ List.mem_cons_self observation)
        | _ => trivial
      refine ⟨hfits, ?_⟩
      split
      · exact hrest _
      · exact hrest s

section Runs

variable {limits : MemoryLimits} {sqlite : SqliteLimits} {sources : List SourceIdentity}

/-- One call on two stores that represent one abstract store. -/
theorem calls_agree
    {m : MemoryIncidentStore} {s : SqliteIncidentStore} {j : Journal}
    (hlimits : limits.maxOperations = sqlite.maxOperations)
    (hm : m.Represents j) (hs : s.Represents j) (hsound : j.Sound) (hbasic : j.BasicTimes)
    (hclaimed : ∀ source ∈ sources, (j.generations source.sourceId).isSome)
    {c : StoreCall} (hwithin : c.Within sources) (hfits : MemoryIncidentStore.Fits limits m c)
    (htime : ∀ time ∈ c.operationTime, BasicText time) :
    (∃ reply m' s' j', m.call limits c = .ok (reply, m') ∧ s.call sqlite {} c = .ok (reply, s') ∧
        m'.Represents j' ∧ s'.Represents j' ∧ j'.Sound ∧ j'.BasicTimes ∧
          ∀ source ∈ sources, (j'.generations source.sourceId).isSome) ∨
      ∃ refusal, m.call limits c = .error refusal ∧ s.call sqlite {} c = .error refusal := by
  have hclaim : ∀ projectId claimed time, c ≠ .claim projectId claimed time := by
    rintro projectId claimed time rfl
    exact hwithin
  have hnames : SqliteIncidentStore.NamesClaimed j c := by
    cases c with
    | observe observation =>
        obtain ⟨source, hsource, hid⟩ := hwithin
        exact .inr (hid ▸ hclaimed source hsource)
    | updateCircuit sourceId expectedRevision next =>
        obtain ⟨source, hsource, hid⟩ := hwithin
        exact hid ▸ hclaimed source hsource
    | claim projectId claimed time => exact absurd rfl (hclaim projectId claimed time)
    | _ => trivial
  have hfree : ¬SqliteIncidentStore.Hindered {} j c := by
    simp [SqliteIncidentStore.Hindered, hnames]
  have hmemory : Agrees MemoryIncidentStore.Represents
      (¬MemoryIncidentStore.Fits limits m c) (m.call limits c) _ := hm.call hsound c
  have hsqlite : Agrees SqliteIncidentStore.Represents
      (SqliteIncidentStore.Hindered {} j c) (s.call sqlite {} c) _ := hs.call hsound c hclaim
  rw [Journal.call_agree hbasic, hlimits] at hmemory
  generalize hanswer : m.call limits c = answer at hmemory ⊢
  generalize hanswer' : s.call sqlite {} c = answer' at hsqlite ⊢
  generalize hjournal : j.call SqliteIncidentStore.codePointLe sqlite.maxOperations c = spec
    at hmemory hsqlite
  cases hmemory with
  | full hexceeded => exact absurd hfits hexceeded
  | refused refusal =>
      cases hsqlite with
      | full hexceeded => exact absurd hexceeded hfree
      | refused => exact .inr ⟨refusal, rfl, rfl⟩
  | @done reply m' j' hm' =>
      cases hsqlite with
      | full hexceeded => exact absurd hexceeded hfree
      | @done reply s' j' hs' =>
          obtain ⟨hbasic', hgenerations⟩ := Journal.call_keeps hjournal hclaim hbasic htime
          refine .inl ⟨reply, m', s', j', rfl, rfl, hm', hs', hsound.call hjournal, hbasic', ?_⟩
          rw [hgenerations]
          exact hclaimed

theorem runs_agree
    (hlimits : limits.maxOperations = sqlite.maxOperations) {calls : List StoreCall}
    (hwithin : ∀ c ∈ calls, c.Within sources)
    (htimes : ∀ c ∈ calls, ∀ time ∈ c.operationTime, BasicText time)
    {m : MemoryIncidentStore} {s : SqliteIncidentStore} {j : Journal}
    (hfits : FitsThroughout limits m calls)
    (hm : m.Represents j) (hs : s.Represents j) (hsound : j.Sound) (hbasic : j.BasicTimes)
    (hclaimed : ∀ source ∈ sources, (j.generations source.sourceId).isSome) :
    (runCalls (MemoryIncidentStore.call limits) m calls).1 =
        (runCalls (SqliteIncidentStore.call sqlite {}) s calls).1 ∧
      (runCalls (MemoryIncidentStore.call limits) m calls).2.view =
        (runCalls (SqliteIncidentStore.call sqlite {}) s calls).2.view := by
  induction calls generalizing m s j with
  | nil =>
      refine ⟨rfl, ?_⟩
      show m.view = s.view
      rw [hm.view hsound, hs.view hsound]
  | cons c rest ih =>
      have hrest : ∀ d ∈ rest, d ∈ c :: rest := fun d hd => List.mem_cons_of_mem _ hd
      have ih' := @ih (fun d hd => hwithin d (hrest d hd)) (fun d hd => htimes d (hrest d hd))
      obtain ⟨hfit, hfollows⟩ := hfits
      rcases calls_agree hlimits hm hs hsound hbasic hclaimed
          (hwithin c List.mem_cons_self) hfit (htimes c List.mem_cons_self) with
        ⟨reply, m', s', j', hmemory, hsqlite, hm', hs', hsound', hbasic', hclaimed'⟩ |
        ⟨refusal, hmemory, hsqlite⟩
      · rw [hmemory] at hfollows
        have hnext := ih' hfollows hm' hs' hsound' hbasic' hclaimed'
        simp only [runCalls, hmemory, hsqlite]
        rw [hnext.1]
        exact ⟨rfl, hnext.2⟩
      · rw [hmemory] at hfollows
        have hnext := ih' hfollows hm hs hsound hbasic hclaimed
        simp only [runCalls, hmemory, hsqlite]
        rw [hnext.1]
        exact ⟨rfl, hnext.2⟩

end Runs

/-- Two fresh stores that claimed the same sources answer the same calls alike, and their
queries answer alike afterwards. -/
theorem stores_agree
    (limits : MemoryLimits) (sqlite : SqliteLimits)
    (hlimits : limits.maxOperations = sqlite.maxOperations)
    (projectId time : String) (sources : List SourceIdentity) (s : SqliteIncidentStore)
    (hclaim : (SqliteIncidentStore.initial projectId).claim sqlite {} projectId sources time =
      .ok (.claimed, s))
    (calls : List StoreCall) (hwithin : ∀ c ∈ calls, c.Within sources)
    (hfits : FitsThroughout limits (MemoryIncidentStore.initial.claim sources time) calls)
    (htimes : ∀ c ∈ calls, ∀ time ∈ c.operationTime, BasicText time) :
    (runCalls (MemoryIncidentStore.call limits)
          (MemoryIncidentStore.initial.claim sources time) calls).1 =
        (runCalls (SqliteIncidentStore.call sqlite {}) s calls).1 ∧
      (runCalls (MemoryIncidentStore.call limits)
          (MemoryIncidentStore.initial.claim sources time) calls).2.view =
        (runCalls (SqliteIncidentStore.call sqlite {}) s calls).2.view := by
  obtain ⟨hrepresents, hdistinct⟩ := represents_claim_sqlite hclaim
  apply runs_agree hlimits hwithin htimes hfits (represents_claim_memory hdistinct time)
    hrepresents (sound_claimedJournal sources)
  · intro operation hoperation
    simp [claimedJournal, Journal.initial] at hoperation
  · intro source hsource
    have hsome : (sources.find? fun other => other.sourceId = source.sourceId).isSome := by
      rw [List.find?_isSome]
      exact ⟨source, hsource, by simp⟩
    simpa [claimedJournal] using hsome

/-! ### The order of pruning -/

section Pruning

theorem runCalls_concat
    {σ : Type} {call : σ → StoreCall → Except Refusal (StoreReply × σ)} {s s' s'' : σ}
    {calls : List StoreCall} {c : StoreCall} {reply : StoreReply}
    (hcalls : (runCalls call s calls).2 = s') (hlast : call s' c = .ok (reply, s'')) :
    (runCalls call s (calls ++ [c])).2 = s'' := by
  induction calls generalizing s with
  | nil =>
      obtain rfl : s = s' := hcalls
      simp [runCalls, hlast]
  | cons first rest ih =>
      rw [List.cons_append]
      unfold runCalls at hcalls ⊢
      cases hfirst : call s first with
      | error refusal =>
          rw [hfirst] at hcalls
          exact ih hcalls
      | ok answer =>
          rw [hfirst] at hcalls
          exact ih hcalls

theorem mergeSort_pair {α : Type} (le : α → α → Bool) (a b : α) :
    [a, b].mergeSort le = if le a b then [a, b] else [b, a] := by
  simp [List.mergeSort, List.merge]

def sampleSources : List SourceIdentity := [⟨"orders", "g1", .kafka⟩]

def sampleHash : String :=
  "sha256:0000000000000000000000000000000000000000000000000000000000000000"

def sampleBegin (operationId : String) : StoreCall :=
  .beginOperation ⟨operationId, .redrive, "orders", none, sampleHash, "t"⟩

def sampleFinish (operationId time : String) : StoreCall :=
  .finishOperation operationId .completed (.ok "null") time

/-- The first character beyond the basic plane: its code units sort before U+FFFD. -/
def beyondText : String := String.singleton (Char.ofNat 0x10000)

/-- Two operations finish at times that the two orders sort differently. -/
def sampleFinished : List StoreCall :=
  [sampleBegin "a", sampleFinish "a" "\uFFFD", sampleBegin "b", sampleFinish "b" beyondText]

def sampleMemoryLimits : MemoryLimits := ⟨10, 2⟩

def sampleSqliteLimits : SqliteLimits := ⟨"journal.db", 1000, 2⟩

def sampleStored (operationId time : String) : StoredOperation :=
  ⟨operationId, .redrive, "orders", none, sampleHash, .completed, some "null", "t", some time⟩

def sampleJournal : SqliteIncidentStore :=
  { SqliteIncidentStore.initial "project" with
    sources := RowTable.empty.insert ⟨"orders", "g1", .kafka⟩ }

theorem sampleJournal_claimed :
    (SqliteIncidentStore.initial "project").claim sampleSqliteLimits {} "project" sampleSources
      "t" = .ok (.claimed, sampleJournal) := by
  rfl

/-- Both stores finish an operation alike. -/
theorem stores_agree_sample :
    (runCalls (MemoryIncidentStore.call sampleMemoryLimits)
          (MemoryIncidentStore.initial.claim sampleSources "t")
          [sampleBegin "a", sampleFinish "a" "t"]).1 =
        (runCalls (SqliteIncidentStore.call sampleSqliteLimits {}) sampleJournal
          [sampleBegin "a", sampleFinish "a" "t"]).1 ∧
      (runCalls (MemoryIncidentStore.call sampleMemoryLimits)
          (MemoryIncidentStore.initial.claim sampleSources "t")
          [sampleBegin "a", sampleFinish "a" "t"]).2.view =
        (runCalls (SqliteIncidentStore.call sampleSqliteLimits {}) sampleJournal
          [sampleBegin "a", sampleFinish "a" "t"]).2.view := by
  apply stores_agree sampleMemoryLimits sampleSqliteLimits rfl "project" "t" sampleSources
    sampleJournal sampleJournal_claimed
  · simp [sampleBegin, sampleFinish, StoreCall.Within]
  · apply fitsThroughout_of_no_observe
    simp [sampleBegin, sampleFinish]
  · simp [sampleBegin, sampleFinish, StoreCall.operationTime, BasicText]

def sampleNew : StoredOperation :=
  ⟨"c", .redrive, "orders", none, sampleHash, .pending, none, "t", none⟩

/-- The two operations that are stored when the third begins. -/
def sampleOperations : InsertionMap StoredOperation.operationId :=
  ⟨[sampleStored "a" "\uFFFD", sampleStored "b" beyondText], by decide⟩

theorem newOperation_sample :
    newOperation ⟨"c", .redrive, "orders", none, sampleHash, "t"⟩ = .ok sampleNew := by
  rfl

/-- The one operation that makes room, in an order of texts. -/
theorem pruned_sample (le : String → String → Bool) :
    Journal.pruned le 1 sampleOperations.values =
      if Journal.finishedBefore le (sampleStored "a" "\uFFFD") (sampleStored "b" beyondText) then
        [sampleStored "a" "\uFFFD"]
      else [sampleStored "b" beyondText] := by
  have hfinished : sampleOperations.values.filter Journal.isFinished =
      [sampleStored "a" "\uFFFD", sampleStored "b" beyondText] := rfl
  unfold Journal.pruned
  rw [hfinished, mergeSort_pair]
  split <;> rfl

/-- What the abstract store keeps of the first operation. -/
theorem beginOperation_sample
    (le : String → String → Bool) {j : Journal} (hoperations : j.operations = sampleOperations) :
    ∃ reply j', j.call le 2 (sampleBegin "c") = .ok (reply, j') ∧
      (j'.operations.get "a" = none ↔
        Journal.finishedBefore le (sampleStored "a" "\uFFFD") (sampleStored "b" beyondText) =
          true) := by
  have hget : j.operations.get sampleNew.operationId = none := by
    rw [hoperations]
    rfl
  have hprune : operationsToPrune j.operations.values.length
      (j.operations.values.filter Journal.isFinished).length 2 = .ok 1 := by
    rw [hoperations]
    rfl
  have hcall : j.call le 2 (sampleBegin "c") = j.beginOperation le 2
      ⟨"c", .redrive, "orders", none, sampleHash, "t"⟩ := rfl
  rw [hcall]
  unfold Journal.beginOperation
  rw [newOperation_sample, ok_bind, hget]
  dsimp only
  rw [hprune, ok_bind, hoperations, pruned_sample]
  refine ⟨_, _, rfl, ?_⟩
  show ((sampleOperations.filter _).set sampleNew).get "a" = none ↔ _
  cases Journal.finishedBefore le (sampleStored "a" "\uFFFD") (sampleStored "b" beyondText) <;>
    decide

theorem kept_in_memory :
    Journal.finishedBefore MemoryIncidentStore.codeUnitLe (sampleStored "a" "\uFFFD")
      (sampleStored "b" beyondText) = false := by
  decide +kernel

theorem pruned_in_sqlite :
    Journal.finishedBefore SqliteIncidentStore.codePointLe (sampleStored "a" "\uFFFD")
      (sampleStored "b" beyondText) = true := by
  decide +kernel

/-- The stores keep different operations. -/
theorem pruning_differs :
    FitsThroughout sampleMemoryLimits (MemoryIncidentStore.initial.claim sampleSources "t")
        (sampleFinished ++ [sampleBegin "c"]) ∧
      (runCalls (MemoryIncidentStore.call sampleMemoryLimits)
          (MemoryIncidentStore.initial.claim sampleSources "t")
          (sampleFinished ++ [sampleBegin "c"])).2.view.getOperation "a" ≠
        (runCalls (SqliteIncidentStore.call sampleSqliteLimits {}) sampleJournal
          (sampleFinished ++ [sampleBegin "c"])).2.view.getOperation "a" := by
  have hmemory := @represents_claim_memory sampleSources (by decide) "t"
  have hsqlite := (represents_claim_sqlite sampleJournal_claimed).1
  have hsound := sound_claimedJournal sampleSources
  let j : Journal := { claimedJournal sampleSources with operations := sampleOperations }
  have hsound' : j.Sound := hsound.of_same rfl rfl
  let m : MemoryIncidentStore := { MemoryIncidentStore.initial.claim sampleSources "t" with
    operations := sampleOperations }
  have hm : m.Represents j := hmemory.withOperations
  have hmrun : (runCalls (MemoryIncidentStore.call sampleMemoryLimits)
      (MemoryIncidentStore.initial.claim sampleSources "t") sampleFinished).2 = m := by
    rfl
  let s := (runCalls (SqliteIncidentStore.call sampleSqliteLimits {}) sampleJournal
    sampleFinished).2
  have hs : s.Represents j :=
    hsqlite.withOperations rfl
  obtain ⟨reply, jm, hjm, hkept⟩ :=
    @beginOperation_sample MemoryIncidentStore.codeUnitLe j rfl
  obtain ⟨reply', js, hjs, hgone⟩ :=
    @beginOperation_sample SqliteIncidentStore.codePointLe j rfl
  rw [kept_in_memory] at hkept
  rw [pruned_in_sqlite] at hgone
  have hagreem : Agrees MemoryIncidentStore.Represents
      (¬MemoryIncidentStore.Fits sampleMemoryLimits m (sampleBegin "c"))
      (m.call sampleMemoryLimits (sampleBegin "c")) (.ok (reply, jm)) :=
    hjm ▸ hm.call hsound' _
  have hagrees : Agrees SqliteIncidentStore.Represents
      (SqliteIncidentStore.Hindered {} j (sampleBegin "c"))
      (s.call sampleSqliteLimits {} (sampleBegin "c")) (.ok (reply', js)) :=
    hjs ▸ hs.call hsound' _ (by rintro _ _ _ ⟨⟩)
  constructor
  · apply fitsThroughout_of_no_observe
    simp [sampleFinished, sampleBegin, sampleFinish]
  · generalize hcall : m.call sampleMemoryLimits (sampleBegin "c") = answer at hagreem
    generalize hcall' : s.call sampleSqliteLimits {} (sampleBegin "c") = answer' at hagrees
    cases hagreem with
    | full hexceeded => exact absurd trivial hexceeded
    | @done _ m' _ hm' =>
        cases hagrees with
        | full hexceeded => simp [SqliteIncidentStore.Hindered, SqliteIncidentStore.NamesClaimed,
            sampleBegin] at hexceeded
        | @done _ s' _ hs' =>
            rw [runCalls_concat hmrun hcall, runCalls_concat rfl hcall']
            rw [hm'.view (hsound'.call hjm), hs'.view (hsound'.call hjs)]
            show jm.operations.get "a" ≠ js.operations.get "a"
            rw [hgone.mpr rfl]
            intro hnone
            exact absurd (hkept.mp hnone) (by decide)

end Pruning

end StreamOtter
