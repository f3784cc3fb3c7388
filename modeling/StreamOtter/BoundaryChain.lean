import StreamOtter.MemoryRefinement
import StreamOtter.SqliteRefinement
import Mathlib.Data.List.Induction
import Mathlib.Logic.Relation

/-!
# The chain of recovery boundaries

Each advance installs a boundary that supersedes the one in force and carries its list of
incidents.  The links between boundaries form chains, a superseded boundary has handed its
list on, and the boundary in force lists what was prepared since its source last had none.
-/

namespace StreamOtter

open FailureStore

/-- A boundary names one that is stored and superseded, no two name the same, and no chain of
links returns to its start: the rank falls along each link. -/
structure Linked (boundaries : InsertionMap StoredBoundary.boundaryId) : Prop where
  target : ∀ a ∈ boundaries.values, ∀ boundaryId, a.supersedes = some boundaryId →
    ∃ b ∈ boundaries.values, b.boundaryId = boundaryId ∧ b.state = .superseded
  unique : ∀ a ∈ boundaries.values, ∀ b ∈ boundaries.values, ∀ boundaryId,
    a.supersedes = some boundaryId → b.supersedes = some boundaryId → a = b
  ranked : ∃ rank : String → ℕ, ∀ a ∈ boundaries.values, ∀ boundaryId,
    a.supersedes = some boundaryId → rank boundaryId < rank a.boundaryId
  handedOn : ∀ a ∈ boundaries.values, a.state = .superseded → a.failureIds = []

theorem linked_empty : Linked .empty := by
  refine ⟨?_, ?_, ⟨fun _ => 0, ?_⟩, ?_⟩ <;> simp

section Links

variable {boundaries : InsertionMap StoredBoundary.boundaryId} {boundary : StoredBoundary}

/-- A boundary after one was ended, and the boundary it was before. -/
theorem exists_before_end
    (hmem : boundary ∈ boundaries.values) {retirement : Retirement} {time : String}
    {a : StoredBoundary} (ha : a ∈ (boundaries.set (endBoundary retirement time boundary)).values) :
    ∃ b ∈ boundaries.values, b.boundaryId = a.boundaryId ∧ b.supersedes = a.supersedes ∧
      (a = b ∨ b = boundary ∧ a = endBoundary retirement time boundary) := by
  rcases InsertionMap.mem_set.mp ha with rfl | ⟨ha, -⟩
  · exact ⟨boundary, hmem, rfl, rfl, .inr ⟨rfl, rfl⟩⟩
  · exact ⟨a, ha, rfl, rfl, .inl rfl⟩

theorem mem_after_end
    {retirement : Retirement} {time : String} {a : StoredBoundary}
    (ha : a ∈ boundaries.values) (hne : a.boundaryId ≠ boundary.boundaryId) :
    a ∈ (boundaries.set (endBoundary retirement time boundary)).values :=
  InsertionMap.mem_set.mpr (.inr ⟨ha, hne⟩)

/-- Ending a boundary in force keeps the links. -/
theorem Linked.end
    (h : Linked boundaries) (hmem : boundary ∈ boundaries.values)
    (hstate : boundary.state = .inForce) (retirement : Retirement) (time : String) :
    Linked (boundaries.set (endBoundary retirement time boundary)) := by
  constructor
  · intro a ha boundaryId hlink
    obtain ⟨a', ha', -, hsame, -⟩ := exists_before_end hmem ha
    obtain ⟨b, hb, hid, hsuperseded⟩ := h.target a' ha' boundaryId (hsame.trans hlink)
    refine ⟨b, mem_after_end hb ?_, hid, hsuperseded⟩
    intro hequal
    have heq := InsertionMap.eq_of_mem hb hmem hequal
    rw [heq, hstate] at hsuperseded
    cases hsuperseded
  · intro a ha b hb boundaryId hlinkA hlinkB
    obtain ⟨a', ha', hidA, hsameA, -⟩ := exists_before_end hmem ha
    obtain ⟨b', hb', hidB, hsameB, -⟩ := exists_before_end hmem hb
    have heq := h.unique a' ha' b' hb' boundaryId (hsameA.trans hlinkA) (hsameB.trans hlinkB)
    apply InsertionMap.eq_of_mem ha hb
    rw [← hidA, ← hidB, heq]
  · obtain ⟨rank, hrank⟩ := h.ranked
    refine ⟨rank, ?_⟩
    intro a ha boundaryId hlink
    obtain ⟨a', ha', hid, hsame, -⟩ := exists_before_end hmem ha
    rw [← hid]
    exact hrank a' ha' boundaryId (hsame.trans hlink)
  · intro a ha hsuperseded
    obtain ⟨a', ha', -, -, rfl | ⟨rfl, rfl⟩⟩ := exists_before_end hmem ha
    · exact h.handedOn a ha' hsuperseded
    · unfold endBoundary at hsuperseded ⊢
      by_cases hmode : retirement.mode = .superseded
      · simp [hmode]
      · simp [hmode] at hsuperseded

/-- A fresh boundary in force may name a superseded boundary that nobody names. -/
theorem Linked.add
    (h : Linked boundaries) (hfresh : boundaries.get boundary.boundaryId = none)
    (hstate : boundary.state = .inForce)
    (htarget : ∀ boundaryId, boundary.supersedes = some boundaryId →
      ∃ b ∈ boundaries.values, b.boundaryId = boundaryId ∧ b.state = .superseded)
    (hunnamed : ∀ a ∈ boundaries.values, ∀ boundaryId, a.supersedes = some boundaryId →
      boundary.supersedes ≠ some boundaryId) :
    Linked (boundaries.set boundary) := by
  have hother : ∀ b ∈ boundaries.values, b.boundaryId ≠ boundary.boundaryId :=
    InsertionMap.get_eq_none.mp hfresh
  have hkept : ∀ b ∈ boundaries.values, b ∈ (boundaries.set boundary).values := fun b hb =>
    InsertionMap.mem_set.mpr (.inr ⟨hb, hother b hb⟩)
  constructor
  · intro a ha boundaryId hlink
    rcases InsertionMap.mem_set.mp ha with rfl | ⟨ha, -⟩
    · obtain ⟨b, hb, hfound⟩ := htarget boundaryId hlink
      exact ⟨b, hkept b hb, hfound⟩
    · obtain ⟨b, hb, hfound⟩ := h.target a ha boundaryId hlink
      exact ⟨b, hkept b hb, hfound⟩
  · intro a ha b hb boundaryId hlinkA hlinkB
    rcases InsertionMap.mem_set.mp ha with rfl | ⟨hstored, -⟩
    · rcases InsertionMap.mem_set.mp hb with rfl | ⟨hb, -⟩
      · rfl
      · exact absurd hlinkA (hunnamed b hb boundaryId hlinkB)
    · rcases InsertionMap.mem_set.mp hb with rfl | ⟨hb, -⟩
      · exact absurd hlinkB (hunnamed a hstored boundaryId hlinkA)
      · exact h.unique a hstored b hb boundaryId hlinkA hlinkB
  · obtain ⟨rank, hrank⟩ := h.ranked
    -- Nobody names the fresh boundary, so its rank is free.
    refine ⟨Function.update rank boundary.boundaryId
      ((boundary.supersedes.map rank).getD 0 + 1), ?_⟩
    have hold : ∀ a ∈ boundaries.values, ∀ value,
        Function.update rank boundary.boundaryId value a.boundaryId = rank a.boundaryId :=
      fun a ha value => Function.update_of_ne (hother a ha) _ _
    intro a ha boundaryId hlink
    rcases InsertionMap.mem_set.mp ha with rfl | ⟨ha, -⟩
    · obtain ⟨b, hb, rfl, -⟩ := htarget boundaryId hlink
      rw [hold b hb, Function.update_self, hlink]
      simp
    · obtain ⟨b, hb, rfl, -⟩ := h.target a ha boundaryId hlink
      rw [hold b hb, hold a ha]
      exact hrank a ha _ hlink
  · intro a ha hsuperseded
    rcases InsertionMap.mem_set.mp ha with rfl | ⟨ha, -⟩
    · rw [hstate] at hsuperseded
      cases hsuperseded
    · exact h.handedOn a ha hsuperseded

/-- Installing a boundary in the place of the prior one keeps the links. -/
theorem Linked.install
    {time : String} {prior : Option StoredBoundary}
    (h : Linked boundaries)
    (hprior : ∀ b, prior = some b ↔ InForce boundaries boundary.sourceId b)
    (hfresh : boundaries.get boundary.boundaryId = none) (hstate : boundary.state = .inForce)
    (hlink : boundary.supersedes = prior.map (·.boundaryId)) :
    Linked (Journal.install time prior boundary boundaries) := by
  have hfresh' : (Journal.supersede time prior boundaries).get boundary.boundaryId = none :=
    supersede_fresh hprior hfresh
  unfold Journal.install
  cases prior with
  | none =>
      apply h.add hfresh hstate
      · intro boundaryId hnamed
        rw [hlink] at hnamed
        cases hnamed
      · intro a ha boundaryId _
        rw [hlink]
        simp
  | some old =>
      have hold := (hprior old).mp rfl
      have hended : Linked (Journal.supersede time (some old) boundaries) :=
        h.end hold.1 hold.2.2 supersession time
      apply hended.add hfresh' hstate
      · intro boundaryId hnamed
        rw [hlink] at hnamed
        obtain rfl : old.boundaryId = boundaryId := by simpa using hnamed
        exact ⟨_, InsertionMap.mem_set.mpr (.inl rfl), rfl, rfl⟩
      · intro a ha boundaryId hnamed hboth
        rw [hlink] at hboth
        obtain rfl : old.boundaryId = boundaryId := by simpa using hboth
        obtain ⟨a', ha', -, hsame, -⟩ := exists_before_end hold.1 ha
        obtain ⟨b, hb, hid, hsuperseded⟩ := h.target a' ha' _ (hsame.trans hnamed)
        rw [InsertionMap.eq_of_mem hb hold.1 hid, hold.2.2] at hsuperseded
        cases hsuperseded

end Links

/-! ### What was prepared -/

/-- The incident of a source that the answer reports as prepared. -/
def StoreReply.preparedFor (sourceId : String) : StoreReply → List String
  | .prepared record _ => if record.sourceId = sourceId then [record.failureId] else []
  | _ => []

/-- For each source the incidents whose advance was prepared since it last had no boundary in
force, after one more answer. -/
def preparedAfter (reply : StoreReply) (inForce : String → Option StoredBoundary)
    (prepared : String → List String) (sourceId : String) : List String :=
  if inForce sourceId = none then [] else prepared sourceId ++ reply.preparedFor sourceId

theorem preparedAfter_none
    {reply : StoreReply} {inForce : String → Option StoredBoundary}
    {prepared : String → List String} {sourceId : String} (h : inForce sourceId = none) :
    preparedAfter reply inForce prepared sourceId = [] := by
  simp [preparedAfter, h]

theorem preparedAfter_some
    {reply : StoreReply} {inForce : String → Option StoredBoundary}
    {prepared : String → List String} {sourceId : String} {boundary : StoredBoundary}
    (h : inForce sourceId = some boundary) :
    preparedAfter reply inForce prepared sourceId =
      prepared sourceId ++ reply.preparedFor sourceId := by
  simp [preparedAfter, h]

section FirstOccurrences

variable {α : Type} [DecidableEq α]

theorem eraseDups_concat (l : List α) (a : α) :
    (l ++ [a]).eraseDups = if a ∈ l then l.eraseDups else l.eraseDups ++ [a] := by
  rw [List.eraseDups_append]
  by_cases hmem : a ∈ l
  · simp [List.removeAll, hmem]
  · simp [List.removeAll, hmem, List.eraseDups_cons]

theorem mem_eraseDups {l : List α} {a : α} : a ∈ l.eraseDups ↔ a ∈ l := by
  induction l using List.reverseRecOn with
  | nil => simp
  | append_singleton l b ih =>
      rw [eraseDups_concat, List.mem_append, List.mem_singleton]
      by_cases hmem : b ∈ l
      · rw [if_pos hmem, ih]
        constructor
        · exact .inl
        · rintro (ha | rfl)
          · exact ha
          · exact hmem
      · rw [if_neg hmem, List.mem_append, List.mem_singleton, ih]

end FirstOccurrences

/-- The lists of the boundaries in force are the incidents prepared meanwhile. -/
structure Journal.Chained (j : Journal) (prepared : String → List String) : Prop where
  linked : Linked j.boundaries
  idle : ∀ sourceId, j.boundary sourceId = none → prepared sourceId = []
  owed : ∀ sourceId boundary, j.boundary sourceId = some boundary →
    boundary.failureIds = (prepared sourceId).eraseDups

/-- How a boundary that was in force stopped being in force. -/
inductive EndedBy (view : StoreView) (c : StoreCall) (view' : StoreView)
    (boundary : StoredBoundary) : Prop
  | superseded (input : PrepareAdvance) (next : StoredBoundary)
      (hcall : c = .prepareAdvance input) (hnext : view'.boundary boundary.sourceId = some next)
      (hlink : next.supersedes = some boundary.boundaryId)
      (hcarries : boundary.failureIds <+: next.failureIds)
  | retired (expectedRevision : ℕ) (retirement : Retirement) (time : String)
      (hcall : c = .retireBoundary boundary.boundaryId expectedRevision retirement time)
      (hsettled : ∀ failureId ∈ boundary.failureIds, ∀ record,
        view.get failureId = some record → record.state = .opened →
          record.progress ∉ [.held, .retrying, .advancePending, .uncertain])
  | claimed (projectId : String) (sources : List SourceIdentity) (time : String)
      (source : SourceIdentity) (hcall : c = .claim projectId sources time)
      (hsource : source ∈ sources) (hsourceId : source.sourceId = boundary.sourceId)
      (hgeneration : source.generation ≠ boundary.generation)
      (hidle : view.opened boundary.sourceId = [])

namespace Journal

/-- An accepted call of a store that the abstract store stands for; a claim may leave out
sources whose generation stays. -/
inductive Accepts (le : String → String → Bool) (limit : ℕ) (j : Journal) :
    StoreCall → StoreReply → Journal → Prop
  | call {c : StoreCall} {reply : StoreReply} {j' : Journal}
      (h : j.call le limit c = .ok (reply, j')) : Accepts le limit j c reply j'
  | claim {projectId time : String} {sources claimed : List SourceIdentity}
      (h : claimed.Sublist sources) :
      Accepts le limit j (.claim projectId sources time) .claimed (j.claim time claimed)

section Chains

variable {j j' : Journal} {prepared : String → List String}

theorem Accepts.sound
    {le : String → String → Bool} {limit : ℕ} {c : StoreCall} {reply : StoreReply}
    (hstep : Accepts le limit j c reply j') (h : j.Sound) : j'.Sound := by
  cases hstep with
  | call hok => exact h.call hok
  | claim _ => exact h.claim _ _

/-- The boundaries in force after one of them was ended. -/
theorem boundary_end
    (h : j.Sound) {boundary : StoredBoundary}
    (hin : InForce j.boundaries boundary.sourceId boundary)
    {retirement : Retirement} {time : String}
    (hboundaries : j'.boundaries = j.boundaries.set (endBoundary retirement time boundary))
    (sourceId : String) :
    j'.boundary sourceId =
      if sourceId = boundary.sourceId then none else j.boundary sourceId := by
  have hone : OneInForce j'.boundaries := by
    rw [hboundaries]
    exact h.oneInForce.end hin retirement time
  ext b
  rw [boundary_eq_some hone, hboundaries, inForce_end h.oneInForce hin]
  by_cases hsource : sourceId = boundary.sourceId
  · simp [hsource]
  · rw [if_neg hsource, boundary_eq_some h.oneInForce]
    simp [hsource]

/-- The boundaries in force after a new one was installed. -/
theorem boundary_install
    (h : j.Sound) {boundary : StoredBoundary} {time : String}
    (hfresh : j.boundaries.get boundary.boundaryId = none) (hstate : boundary.state = .inForce)
    (hboundaries : j'.boundaries =
      install time (j.boundary boundary.sourceId) boundary j.boundaries) (sourceId : String) :
    j'.boundary sourceId =
      if sourceId = boundary.sourceId then some boundary else j.boundary sourceId := by
  have hprior : ∀ b, j.boundary boundary.sourceId = some b ↔
      InForce j.boundaries boundary.sourceId b := fun b => boundary_eq_some h.oneInForce
  have hone : OneInForce j'.boundaries := by
    rw [hboundaries]
    exact h.oneInForce.install hprior hfresh hstate
  ext b
  rw [boundary_eq_some hone, hboundaries, inForce_install h.oneInForce hprior hfresh hstate]
  by_cases hsource : sourceId = boundary.sourceId
  · simp [hsource, eq_comm]
  · rw [if_neg hsource, if_neg hsource, boundary_eq_some h.oneInForce]

theorem prepareAdvance_boundary
    (h : j.Sound) {input : PrepareAdvance} {reply : StoreReply}
    (hok : j.prepareAdvance input = .ok (reply, j')) :
    ∃ context record, ∀ sourceId, j'.boundary sourceId =
      if sourceId = record.sourceId then
        some (nextBoundary input record (j.boundary record.sourceId) context)
      else j.boundary sourceId := by
  obtain ⟨context, record, -, -, -, -, -, -, hfresh, -, hafter⟩ := prepareAdvance_ok hok
  have hboundaries : j'.boundaries = install input.time (j.boundary record.sourceId)
      (nextBoundary input record (j.boundary record.sourceId) context) j.boundaries := by
    rw [hafter]
  exact ⟨context, record, boundary_install h hfresh rfl hboundaries⟩

theorem chained_initial : initial.Chained fun _ => [] := by
  constructor
  · exact linked_empty
  · intro sourceId _
    rfl
  · intro sourceId boundary hboundary
    simp [Journal.boundary, initial] at hboundary

/-- A call that ends boundaries and prepares nothing. -/
theorem Chained.of_ended
    (h : j.Chained prepared) (hlinked : Linked j'.boundaries)
    (hboundary : ∀ sourceId, j'.boundary sourceId = none ∨ j'.boundary sourceId = j.boundary sourceId)
    {reply : StoreReply} (hreply : ∀ sourceId, reply.preparedFor sourceId = []) :
    j'.Chained (preparedAfter reply j'.boundary prepared) := by
  constructor
  · exact hlinked
  · intro sourceId hnone
    exact preparedAfter_none hnone
  · intro sourceId boundary hfound
    rw [preparedAfter_some hfound, hreply, List.append_nil]
    rcases hboundary sourceId with hnone | hsame
    · rw [hnone] at hfound
      cases hfound
    · exact h.owed sourceId boundary (hsame ▸ hfound)

/-- A call that leaves the boundaries alone and prepares nothing. -/
theorem Chained.of_same
    (h : j.Chained prepared) (hboundaries : j'.boundaries = j.boundaries) {reply : StoreReply}
    (hreply : ∀ sourceId, reply.preparedFor sourceId = []) :
    j'.Chained (preparedAfter reply j'.boundary prepared) := by
  apply h.of_ended _ _ hreply
  · rw [hboundaries]
    exact h.linked
  · intro sourceId
    right
    unfold Journal.boundary
    rw [hboundaries]

/-- An advance lists its incident after those of the boundary it supersedes. -/
theorem Chained.install
    (h : j.Chained prepared) (hsound : j.Sound) {input : PrepareAdvance} {record : IncidentRecord}
    {context : String} (hfresh : j.boundaries.get input.boundaryId = none)
    (hboundaries : j'.boundaries = Journal.install input.time (j.boundary record.sourceId)
      (nextBoundary input record (j.boundary record.sourceId) context) j.boundaries)
    {advanced : IncidentRecord} (hfailureId : advanced.failureId = record.failureId)
    (hsourceId : advanced.sourceId = record.sourceId) {boundary : StoredBoundary} :
    j'.Chained (preparedAfter (.prepared advanced boundary) j'.boundary prepared) := by
  have hboundary := boundary_install hsound hfresh rfl hboundaries
  have hprior : ∀ b, j.boundary record.sourceId = some b ↔
      InForce j.boundaries record.sourceId b := fun b => boundary_eq_some hsound.oneInForce
  constructor
  · rw [hboundaries]
    exact h.linked.install hprior hfresh rfl rfl
  · intro sourceId hnone
    exact preparedAfter_none hnone
  · intro sourceId b hfound
    rw [preparedAfter_some hfound]
    simp only [StoreReply.preparedFor, hsourceId, hfailureId]
    rw [hboundary] at hfound
    by_cases hsource : sourceId = record.sourceId
    · subst hsource
      obtain rfl : nextBoundary input record (j.boundary record.sourceId) context = b := by
        simpa [nextBoundary] using hfound
      rw [if_pos rfl, eraseDups_concat]
      have hlist : ((j.boundary record.sourceId).map (·.failureIds)).getD [] =
          (prepared record.sourceId).eraseDups := by
        cases hprev : j.boundary record.sourceId with
        | none => rw [h.idle _ hprev]; rfl
        | some prior => exact h.owed _ _ hprev
      unfold nextBoundary
      dsimp only
      rw [hlist]
      simp only [mem_eraseDups]
    · rw [if_neg (by simpa [nextBoundary] using hsource)] at hfound
      rw [if_neg (Ne.symm hsource), List.append_nil]
      exact h.owed sourceId b hfound

theorem Chained.retireBoundary
    (h : j.Chained prepared) (hsound : j.Sound) {boundaryId time : String}
    {expectedRevision : ℕ} {retirement : Retirement} {reply : StoreReply}
    (hok : j.retireBoundary boundaryId expectedRevision retirement time = .ok (reply, j')) :
    j'.Chained (preparedAfter reply j'.boundary prepared) := by
  obtain ⟨boundary, hfound, hstate, -, -, rfl, rfl⟩ := retireBoundary_ok hok
  have hmem := InsertionMap.mem_of_get hfound
  apply h.of_ended (h.linked.end hmem hstate retirement time)
  · intro sourceId
    rw [boundary_end hsound ⟨hmem, rfl, hstate⟩ rfl]
    by_cases hsource : sourceId = boundary.sourceId
    · exact .inl (if_pos hsource)
    · exact .inr (if_neg hsource)
  · intro sourceId
    rfl

theorem claimSource_incidents (time : String) (source : SourceIdentity) :
    (j.claimSource time source).incidents = j.incidents := by
  unfold claimSource
  split
  · rfl
  · split <;> rfl

/-- The boundary in force of a source that a claim of one source ends. -/
theorem claimSource_boundary
    (hsound : j.Sound) (time : String) (source : SourceIdentity) (sourceId : String) :
    (j.claimSource time source).boundary sourceId = j.boundary sourceId ∨
      (j.claimSource time source).boundary sourceId = none ∧
        ∀ boundary, j.boundary sourceId = some boundary → source.sourceId = sourceId ∧
          source.generation ≠ boundary.generation ∧ j.opened sourceId = [] := by
  unfold claimSource
  cases hfound : j.boundary source.sourceId with
  | none => exact .inl rfl
  | some boundary =>
      have hin := (boundary_eq_some hsound.oneInForce).mp hfound
      have hsource : boundary.sourceId = source.sourceId := hin.2.1
      rw [← hsource] at hin
      dsimp only
      by_cases hkeep : boundary.generation = source.generation ∨ j.opened source.sourceId ≠ []
      · rw [if_pos hkeep]
        exact .inl rfl
      · rw [if_neg hkeep, boundary_end hsound hin rfl]
        by_cases hsame : sourceId = boundary.sourceId
        · rw [if_pos hsame]
          obtain ⟨hgeneration, hopened⟩ := not_or.mp hkeep
          right
          refine ⟨rfl, ?_⟩
          intro other hother
          rw [hsame, hsource, hfound] at hother
          cases hother
          rw [hsame, hsource]
          exact ⟨rfl, Ne.symm hgeneration, not_not.mp hopened⟩
        · rw [if_neg hsame]
          exact .inl rfl

theorem linked_claimSource
    (h : Linked j.boundaries) (hsound : j.Sound) (time : String) (source : SourceIdentity) :
    Linked (j.claimSource time source).boundaries := by
  unfold claimSource
  cases hfound : j.boundary source.sourceId with
  | none => exact h
  | some boundary =>
      have hin := (boundary_eq_some hsound.oneInForce).mp hfound
      dsimp only
      split
      · exact h
      · exact h.end hin.1 hin.2.2 _ _

/-- A claim ends a boundary for one of its sources, which has a new generation and nothing
open. -/
theorem claim_boundary
    (hsound : j.Sound) (time : String) (sources : List SourceIdentity) (sourceId : String) :
    (j.claim time sources).boundary sourceId = j.boundary sourceId ∨
      (j.claim time sources).boundary sourceId = none ∧
        ∀ boundary, j.boundary sourceId = some boundary → ∃ source ∈ sources,
          source.sourceId = sourceId ∧ source.generation ≠ boundary.generation ∧
            j.opened sourceId = [] := by
  unfold claim
  induction sources generalizing j with
  | nil => exact .inl rfl
  | cons source rest ih =>
      have hopened : (j.claimSource time source).opened sourceId = j.opened sourceId := by
        unfold opened
        rw [claimSource_incidents]
      rw [List.foldl_cons]
      rcases claimSource_boundary hsound time source sourceId with hsame | ⟨hnone, hends⟩
      · rcases ih (hsound.claimSource time source) with hrest | ⟨hrest, hends⟩
        · exact .inl (hrest.trans hsame)
        · right
          refine ⟨hrest, ?_⟩
          intro boundary hboundary
          obtain ⟨other, hother, hclaimed⟩ := hends boundary (hsame.trans hboundary)
          rw [hopened] at hclaimed
          exact ⟨other, List.mem_cons_of_mem _ hother, hclaimed⟩
      · right
        constructor
        · rcases ih (hsound.claimSource time source) with hrest | ⟨hrest, -⟩
          · exact hrest.trans hnone
          · exact hrest
        · intro boundary hboundary
          exact ⟨source, List.mem_cons_self, hends boundary hboundary⟩

theorem linked_claim
    (h : Linked j.boundaries) (hsound : j.Sound) (time : String) (sources : List SourceIdentity) :
    Linked (j.claim time sources).boundaries := by
  unfold claim
  induction sources generalizing j with
  | nil => exact h
  | cons source rest ih =>
      exact ih (linked_claimSource h hsound time source) (hsound.claimSource time source)

theorem Chained.claim
    (h : j.Chained prepared) (hsound : j.Sound) (time : String) (sources : List SourceIdentity) :
    (j.claim time sources).Chained
      (preparedAfter .claimed (j.claim time sources).boundary prepared) := by
  apply h.of_ended (linked_claim h.linked hsound time sources)
  · intro sourceId
    rcases claim_boundary hsound time sources sourceId with hsame | ⟨hnone, -⟩
    · exact .inr hsame
    · exact .inl hnone
  · intro sourceId
    rfl

/-- What an accepted call may do to the boundaries. -/
theorem Accepts.boundaries
    {le : String → String → Bool} {limit : ℕ} {c : StoreCall} {reply : StoreReply}
    (hstep : Accepts le limit j c reply j') :
    j'.boundaries = j.boundaries ∧ (∀ sourceId, reply.preparedFor sourceId = []) ∨
      (∃ input, c = .prepareAdvance input ∧ j.prepareAdvance input = .ok (reply, j')) ∨
      (∃ boundaryId expectedRevision retirement time,
        c = .retireBoundary boundaryId expectedRevision retirement time ∧
          j.retireBoundary boundaryId expectedRevision retirement time = .ok (reply, j')) ∨
      ∃ projectId sources claimed time, c = .claim projectId sources time ∧
        claimed.Sublist sources ∧ reply = .claimed ∧ j' = j.claim time claimed := by
  cases hstep with
  | claim hsublist => exact .inr (.inr (.inr ⟨_, _, _, _, rfl, hsublist, rfl, rfl⟩))
  | call hok =>
      cases c with
      | claim projectId sources time =>
          cases hok
          exact .inr (.inr (.inr ⟨_, _, _, _, rfl, List.Sublist.refl _, rfl, rfl⟩))
      | prepareAdvance input => exact .inr (.inl ⟨input, rfl, hok⟩)
      | retireBoundary boundaryId expectedRevision retirement time =>
          exact .inr (.inr (.inl ⟨_, _, _, _, rfl, hok⟩))
      | observe observation =>
          obtain ⟨hreply, hafter⟩ := Prod.ext_iff.mp (Except.ok.inj hok)
          dsimp only at hreply hafter
          rw [← hreply, ← hafter]
          unfold observe
          left
          split
          · exact ⟨rfl, fun _ => rfl⟩
          · exact ⟨rfl, fun _ => rfl⟩
      | update failureId expectedRevision patch event =>
          obtain ⟨existing, -, -, rfl, rfl⟩ := update_ok hok
          exact .inl ⟨rfl, fun _ => rfl⟩
      | updateCircuit sourceId expectedRevision next =>
          obtain ⟨rfl, rfl⟩ := updateCircuit_ok hok
          exact .inl ⟨rfl, fun _ => rfl⟩
      | beginOperation input =>
          rcases beginOperation_ok hok with ⟨_, _, -, -, rfl, rfl⟩ |
            ⟨operation, dropped, -, -, rfl, rfl⟩
          · exact .inl ⟨rfl, fun _ => rfl⟩
          · exact .inl ⟨rfl, fun _ => rfl⟩
      | finishOperation operationId state result time =>
          obtain ⟨operation, canonical, -, -, rfl, rfl⟩ := finishOperation_ok hok
          exact .inl ⟨rfl, fun _ => rfl⟩
      | abandonPendingOperations time =>
          cases hok
          exact .inl ⟨rfl, fun _ => rfl⟩

theorem Accepts.chained
    {le : String → String → Bool} {limit : ℕ} {c : StoreCall} {reply : StoreReply}
    (hstep : Accepts le limit j c reply j') (hsound : j.Sound) (h : j.Chained prepared) :
    j'.Chained (preparedAfter reply j'.boundary prepared) := by
  rcases hstep.boundaries with ⟨hsame, hreply⟩ | ⟨input, -, hok⟩ | ⟨_, _, _, _, -, hok⟩ |
    ⟨_, _, claimed, time, -, -, rfl, rfl⟩
  · exact h.of_same hsame hreply
  · obtain ⟨context, record, -, -, -, -, -, -, hfresh, rfl, rfl⟩ := prepareAdvance_ok hok
    exact h.install hsound hfresh rfl rfl rfl
  · exact h.retireBoundary hsound hok
  · exact h.claim hsound time claimed

theorem heldRefusal_none
    {boundaryId : String} {record : IncidentRecord} (h : heldRefusal boundaryId record = none)
    (hopen : record.state = .opened) :
    record.progress ∉ [.held, .retrying, .advancePending, .uncertain] := by
  unfold heldRefusal at h
  rw [if_neg (by simp [hopen])] at h
  cases hprogress : record.progress <;> simp [hprogress] at h ⊢

/-- A boundary in force stays as it is, or it ends in one of three ways. -/
theorem Accepts.ended
    {le : String → String → Bool} {limit : ℕ} {c : StoreCall} {reply : StoreReply}
    (hstep : Accepts le limit j c reply j') (hsound : j.Sound) {boundary : StoredBoundary}
    (hboundary : j.boundary boundary.sourceId = some boundary) :
    j'.boundary boundary.sourceId = some boundary ∨ EndedBy j.view c j'.view boundary := by
  rcases hstep.boundaries with ⟨hsame, -⟩ | ⟨input, rfl, hok⟩ |
    ⟨boundaryId, expectedRevision, retirement, time, rfl, hok⟩ |
    ⟨projectId, sources, claimed, time, rfl, hsublist, -, rfl⟩
  · left
    unfold Journal.boundary at hboundary ⊢
    rw [hsame, hboundary]
  · obtain ⟨context, record, hafter⟩ := prepareAdvance_boundary hsound hok
    by_cases hsource : boundary.sourceId = record.sourceId
    · right
      rw [hsource] at hboundary
      apply EndedBy.superseded input _ rfl ((hafter _).trans (if_pos hsource))
      · simp [nextBoundary, hboundary]
      · unfold nextBoundary
        simp only [hboundary, Option.map_some, Option.getD_some]
        split
        · exact List.prefix_rfl
        · exact List.prefix_append _ _
    · left
      rw [hafter]
      exact (if_neg hsource).trans hboundary
  · obtain ⟨retired, hfound, hstate, -, hheld, -, hafter⟩ := retireBoundary_ok hok
    have hmem := InsertionMap.mem_of_get hfound
    have hboundaries : j'.boundaries = j.boundaries.set (endBoundary retirement time retired) := by
      rw [hafter]
    by_cases hsource : boundary.sourceId = retired.sourceId
    · have hin := (boundary_eq_some hsound.oneInForce).mp hboundary
      obtain rfl : boundary = retired :=
        hsound.oneInForce boundary.sourceId boundary retired hin ⟨hmem, hsource.symm, hstate⟩
      obtain rfl := InsertionMap.key_of_get hfound
      right
      apply EndedBy.retired expectedRevision retirement time rfl
      intro failureId hlisted record hrecord hopen
      exact heldRefusal_none (hheld failureId hlisted record hrecord) hopen
    · left
      rw [boundary_end hsound ⟨hmem, rfl, hstate⟩ hboundaries, if_neg hsource, hboundary]
  · rcases claim_boundary hsound time claimed boundary.sourceId with hsame | ⟨-, hends⟩
    · exact .inl (hsame.trans hboundary)
    · obtain ⟨source, hsource, hid, hgeneration, hopened⟩ := hends boundary hboundary
      exact .inr (.claimed projectId sources time source rfl (hsublist.mem hsource) hid
        hgeneration hopened)

end Chains

end Journal

/-! ### Runs of a store -/

/-- The runs of a store, with what was prepared meanwhile. A refused call changes nothing. -/
inductive StoreRun {σ : Type}
    (answers : σ → StoreCall → Except Refusal (StoreReply × σ) → Prop) (view : σ → StoreView)
    (initial : σ) : σ → (String → List String) → Prop
  | start : StoreRun answers view initial initial fun _ => []
  | accepted {s s' : σ} {prepared : String → List String} {c : StoreCall} {reply : StoreReply}
      (h : StoreRun answers view initial s prepared) (hanswer : answers s c (.ok (reply, s'))) :
      StoreRun answers view initial s' (preparedAfter reply (view s').boundary prepared)
  | refused {s : σ} {prepared : String → List String} {c : StoreCall} {refusal : Refusal}
      (h : StoreRun answers view initial s prepared) (hanswer : answers s c (.error refusal)) :
      StoreRun answers view initial s prepared

/-- The link from a boundary to the one it supersedes. -/
def Supersedes (view : StoreView) (boundaryId superseded : String) : Prop :=
  ∃ boundary, view.getBoundary boundaryId = some boundary ∧
    boundary.supersedes = some superseded

structure BoundaryChain (view : StoreView) (prepared : String → List String) : Prop where
  oneInForce : ∀ a b boundary other, view.getBoundary a = some boundary →
    view.getBoundary b = some other → boundary.state = .inForce → other.state = .inForce →
      boundary.sourceId = other.sourceId → a = b
  inForce : ∀ sourceId boundary, view.boundary sourceId = some boundary ↔
    view.getBoundary boundary.boundaryId = some boundary ∧ boundary.sourceId = sourceId ∧
      boundary.state = .inForce
  acyclic : ∀ boundaryId, ¬Relation.TransGen (Supersedes view) boundaryId boundaryId
  supersededOnce : ∀ a b boundaryId, Supersedes view a boundaryId →
    Supersedes view b boundaryId → a = b
  handedOn : ∀ boundaryId boundary, view.getBoundary boundaryId = some boundary →
    boundary.state = .superseded → boundary.failureIds = []
  owed : ∀ sourceId boundary, view.boundary sourceId = some boundary →
    boundary.failureIds = (prepared sourceId).eraseDups

/-- What every run of a store keeps, and how its boundaries end. -/
structure KeepsChain {σ : Type}
    (answers : σ → StoreCall → Except Refusal (StoreReply × σ) → Prop) (view : σ → StoreView)
    (initial : σ) : Prop where
  chain : ∀ s prepared, StoreRun answers view initial s prepared →
    BoundaryChain (view s) prepared
  ended : ∀ s prepared c reply s' boundary, StoreRun answers view initial s prepared →
    answers s c (.ok (reply, s')) → (view s).boundary boundary.sourceId = some boundary →
      (view s').boundary boundary.sourceId = some boundary ∨
        EndedBy (view s) c (view s') boundary

theorem Linked.acyclic
    {j : Journal} (h : Linked j.boundaries) (boundaryId : String) :
    ¬Relation.TransGen (Supersedes j.view) boundaryId boundaryId := by
  obtain ⟨rank, hrank⟩ := h.ranked
  have hfalls : ∀ a b, Relation.TransGen (Supersedes j.view) a b → rank b < rank a := by
    intro a b hlinks
    induction hlinks with
    | single hlink =>
        obtain ⟨boundary, hfound, hnamed⟩ := hlink
        obtain rfl := InsertionMap.key_of_get hfound
        exact hrank boundary (InsertionMap.mem_of_get hfound) _ hnamed
    | tail _ hlink ih =>
        obtain ⟨boundary, hfound, hnamed⟩ := hlink
        obtain rfl := InsertionMap.key_of_get hfound
        have hlast := hrank boundary (InsertionMap.mem_of_get hfound) _ hnamed
        omega
  intro hcycle
  exact absurd (hfalls _ _ hcycle) (Nat.lt_irrefl _)

theorem Journal.Chained.chain
    {j : Journal} {prepared : String → List String} (h : j.Chained prepared) (hsound : j.Sound) :
    BoundaryChain j.view prepared := by
  have hone := hsound.oneInForce
  constructor
  · intro a b boundary other ha hb hstate hother hsource
    obtain ⟨hmem, rfl⟩ := InsertionMap.get_eq_some.mp ha
    obtain ⟨hmem', rfl⟩ := InsertionMap.get_eq_some.mp hb
    rw [hone boundary.sourceId boundary other ⟨hmem, rfl, hstate⟩ ⟨hmem', hsource.symm, hother⟩]
  · intro sourceId boundary
    show j.boundary sourceId = some boundary ↔
      j.boundaries.get boundary.boundaryId = some boundary ∧ _
    rw [boundary_eq_some hone, InsertionMap.get_eq_some]
    constructor
    · rintro ⟨hmem, hsource, hstate⟩
      exact ⟨⟨hmem, rfl⟩, hsource, hstate⟩
    · rintro ⟨⟨hmem, -⟩, hsource, hstate⟩
      exact ⟨hmem, hsource, hstate⟩
  · exact h.linked.acyclic
  · rintro a b boundaryId ⟨boundary, ha, hlinkA⟩ ⟨other, hb, hlinkB⟩
    obtain ⟨hmem, rfl⟩ := InsertionMap.get_eq_some.mp ha
    obtain ⟨hmem', rfl⟩ := InsertionMap.get_eq_some.mp hb
    rw [h.linked.unique boundary hmem other hmem' boundaryId hlinkA hlinkB]
  · intro boundaryId boundary hfound
    exact h.linked.handedOn boundary (InsertionMap.mem_of_get hfound)
  · exact h.owed

section Simulation

variable {σ : Type} {answers : σ → StoreCall → Except Refusal (StoreReply × σ) → Prop}
  {view : σ → StoreView} {initial : σ} {represents : σ → Journal → Prop}
  {le : String → String → Bool} {limit : ℕ}

/-- A store that refines the abstract one keeps the chain. -/
theorem keepsChain_of_simulation
    (hinitial : represents initial Journal.initial)
    (hview : ∀ s j, represents s j → j.Sound → view s = j.view)
    (hstep : ∀ s j c reply s', represents s j → j.Sound → answers s c (.ok (reply, s')) →
      ∃ j', j.Accepts le limit c reply j' ∧ represents s' j') :
    KeepsChain answers view initial := by
  have hrun : ∀ s prepared, StoreRun answers view initial s prepared →
      ∃ j, represents s j ∧ j.Sound ∧ j.Chained prepared := by
    intro s prepared hrun
    induction hrun with
    | start => exact ⟨_, hinitial, Journal.sound_initial, Journal.chained_initial⟩
    | accepted _ hanswer ih =>
        obtain ⟨j, hrepresents, hsound, hchained⟩ := ih
        obtain ⟨j', haccepts, hrepresents'⟩ := hstep _ j _ _ _ hrepresents hsound hanswer
        have hsound' := haccepts.sound hsound
        refine ⟨j', hrepresents', hsound', ?_⟩
        rw [hview _ j' hrepresents' hsound']
        exact haccepts.chained hsound hchained
    | refused _ _ ih => exact ih
  constructor
  · intro s prepared h
    obtain ⟨j, hrepresents, hsound, hchained⟩ := hrun s prepared h
    rw [hview s j hrepresents hsound]
    exact hchained.chain hsound
  · intro s prepared c reply s' boundary h hanswer hboundary
    obtain ⟨j, hrepresents, hsound, hchained⟩ := hrun s prepared h
    obtain ⟨j', haccepts, hrepresents'⟩ := hstep s j c reply s' hrepresents hsound hanswer
    rw [hview s j hrepresents hsound] at hboundary ⊢
    rw [hview s' j' hrepresents' (haccepts.sound hsound)]
    exact haccepts.ended hsound hboundary

theorem Agrees.accepted
    {exceeded : Prop} {reply : StoreReply} {s' : σ}
    {answer : Except Refusal (StoreReply × Journal)}
    (h : Agrees represents exceeded (.ok (reply, s')) answer) :
    ∃ j', answer = .ok (reply, j') ∧ represents s' j' := by
  cases h with
  | done hrepresents => exact ⟨_, rfl, hrepresents⟩

end Simulation

theorem MemoryIncidentStore.Represents.accepts
    {limits : MemoryLimits} {s s' : MemoryIncidentStore} {j : Journal} {c : StoreCall}
    {reply : StoreReply} (h : s.Represents j) (hsound : j.Sound)
    (hok : s.call limits c = .ok (reply, s')) :
    ∃ j', j.Accepts codeUnitLe limits.maxOperations c reply j' ∧ s'.Represents j' := by
  have hagrees : Agrees Represents (¬Fits limits s c) (s.call limits c) _ := h.call hsound c
  rw [hok] at hagrees
  obtain ⟨j', hjournal, hrepresents⟩ := hagrees.accepted
  exact ⟨j', .call hjournal, hrepresents⟩

theorem SqliteIncidentStore.Represents.accepts
    {limits : SqliteLimits} {conditions : SqliteConditions} {s s' : SqliteIncidentStore}
    {j : Journal} {c : StoreCall} {reply : StoreReply} (h : s.Represents j) (hsound : j.Sound)
    (hok : s.call limits conditions c = .ok (reply, s')) :
    ∃ j', j.Accepts codePointLe limits.maxOperations c reply j' ∧ s'.Represents j' := by
  by_cases hclaim : ∃ projectId sources time, c = .claim projectId sources time
  · obtain ⟨projectId, sources, time, rfl⟩ := hclaim
    obtain ⟨rfl, claimed, hsublist, hrepresents⟩ := h.claim hsound hok
    exact ⟨_, .claim hsublist, hrepresents⟩
  · have hagrees : Agrees Represents (Hindered conditions j c) (s.call limits conditions c) _ :=
      h.call hsound c fun projectId sources time hc => hclaim ⟨projectId, sources, time, hc⟩
    rw [hok] at hagrees
    obtain ⟨j', hjournal, hrepresents⟩ := hagrees.accepted
    exact ⟨j', .call hjournal, hrepresents⟩

/-- Both stores keep the chain of boundaries in every run, whatever the conditions of the
SQLite store at each call. -/
theorem stores_keep_chain (memory : MemoryLimits) (sqlite : SqliteLimits) (projectId : String) :
    KeepsChain (fun s c answer => MemoryIncidentStore.call memory s c = answer)
        MemoryIncidentStore.view .initial ∧
      KeepsChain
        (fun s c answer => ∃ conditions, SqliteIncidentStore.call sqlite conditions s c = answer)
        SqliteIncidentStore.view (.initial projectId) := by
  constructor
  · apply keepsChain_of_simulation MemoryIncidentStore.represents_initial
    · intro s j hrepresents hsound
      exact hrepresents.view hsound
    · intro s j c reply s' hrepresents hsound hok
      exact hrepresents.accepts hsound hok
  · apply keepsChain_of_simulation (SqliteIncidentStore.represents_initial projectId)
    · intro s j hrepresents hsound
      exact hrepresents.view hsound
    · rintro s j c reply s' hrepresents hsound ⟨conditions, hok⟩
      exact hrepresents.accepts hsound hok

end StreamOtter
