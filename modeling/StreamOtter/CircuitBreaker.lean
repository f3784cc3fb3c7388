import StreamOtter.ServiceOrigins
import StreamOtter.RecentUses

/-!
# The circuit breaker of automatic advances

The circuit of a source logs when advances past its incidents were prepared.  An incident that
is advanced again moves its entry, so the recent part of the log has an entry for each incident
that was advanced past recently, and a guard is asked only while there are fewer than the limit.
-/

namespace StreamOtter

open FailureStore Relation RecentUses

namespace FailureService

variable {texts : RecordTexts} {f f' : FailureService} {e : Event} {settings : ServiceSettings}
  {sourceId : String} {s s' : StoreAccess} {record : IncidentRecord} {j j' : Journal}

open StoreAccess

/-! ### The log of a circuit -/

/-- Whether a time is in the window that ends now, or after it. -/
def within (now windowMs time : ℕ) : Bool := decide ((now : ℤ) - time < windowMs)

theorem within_mono {now now' windowMs time : ℕ} (hle : now ≤ now')
    (h : within now' windowMs time) : within now windowMs time := by
  unfold within at h ⊢
  have hwithin := of_decide_eq_true h
  exact decide_eq_true (by omega)

theorem within_upward {now windowMs earlier later : ℕ} (hle : earlier ≤ later)
    (h : within now windowMs earlier) : within now windowMs later := by
  unfold within at h ⊢
  have hwithin := of_decide_eq_true h
  exact decide_eq_true (by omega)

theorem toISOString_injective : Function.Injective IsoTime.toISOString := by
  intro time time' h
  have hparsed := congrArg IsoTime.parse h
  simpa using hparsed

theorem forget_map (last : Option ℕ) (times : List ℕ) :
    forget (last.map IsoTime.toISOString) (times.map IsoTime.toISOString) =
      (forget last times).map IsoTime.toISOString := by
  cases last with
  | none => rfl
  | some time => exact (List.map_erase toISOString_injective times).symm

theorem recentAdvances_forget (now windowMs : ℕ) (own : Option String) (advances : List String) :
    recentAdvances now windowMs own advances = (forget own advances).filter fun entry =>
      (IsoTime.parse entry).any (within now windowMs) := by
  have hfilter : ∀ entry : String, (do
      let time ← IsoTime.parse entry
      pure (time : ℤ)).any (fun time : ℤ => decide ((now : ℤ) - time < windowMs)) =
        (IsoTime.parse entry).any (within now windowMs) := by
    intro entry
    cases IsoTime.parse entry <;> rfl
  cases own <;> exact List.filter_congr fun entry _ => hfilter entry

theorem recentAdvances_map (now windowMs : ℕ) (last : Option ℕ) (times : List ℕ) :
    recentAdvances now windowMs (last.map IsoTime.toISOString) (times.map IsoTime.toISOString) =
      ((forget last times).filter (within now windowMs)).map IsoTime.toISOString := by
  have hprinted : ((fun entry => (IsoTime.parse entry).any (within now windowMs)) ∘
      IsoTime.toISOString) = within now windowMs := by
    funext time
    rw [Function.comp_apply, IsoTime.parse_toISOString, Option.any_some]
  rw [recentAdvances_forget, forget_map, List.filter_map, hprinted]

/-- The newest entries, with the new one. -/
def logged (last : Option ℕ) (time : ℕ) (times : List ℕ) : List ℕ :=
  (forget last times ++ [time]).drop ((forget last times ++ [time]).length - maxCircuitAdvances)

theorem countedAdvance_map {circuit : CircuitState} {last : Option ℕ} {time : ℕ} {times : List ℕ}
    (h : circuit.advances = times.map IsoTime.toISOString) :
    (countedAdvance (IsoTime.toISOString time) (last.map IsoTime.toISOString) circuit).advances =
      (logged last time times).map IsoTime.toISOString := by
  have hcounted : (countedAdvance (IsoTime.toISOString time) (last.map IsoTime.toISOString)
      circuit).advances = capAdvances
        (forget (last.map IsoTime.toISOString) circuit.advances ++ [IsoTime.toISOString time]) := by
    cases last <;> rfl
  have happend : (forget last times).map IsoTime.toISOString ++ [IsoTime.toISOString time] =
      (forget last times ++ [time]).map IsoTime.toISOString := by
    rw [List.map_append, List.map_singleton]
  rw [hcounted, h, forget_map, happend]
  unfold capAdvances logged
  rw [List.length_map, List.map_drop]

/-! ### The last advance past an incident -/

/-- When the last advance past an incident of the source was prepared, as the boundary that it
names says. -/
def lastAdvance (j : Journal) (sourceId failureId : String) : Option ℕ :=
  (j.incidents.get failureId).bind fun record =>
    if record.sourceId = sourceId then (ownTime j record).bind IsoTime.parse else none

/-- Every boundary has the time of its advance, which has come. -/
def Stamped (j : Journal) (now : ℕ) : Prop :=
  ∀ boundaryId boundary, j.boundaries.get boundaryId = some boundary →
    ∃ time ≤ now, boundary.createdAt = IsoTime.toISOString time

theorem Stamped.ownTime {now : ℕ} (h : Stamped j now) (record : IncidentRecord) :
    ownTime j record = ((ownTime j record).bind IsoTime.parse).map IsoTime.toISOString := by
  unfold FailureService.ownTime
  cases record.boundaryId with
  | none => rfl
  | some boundaryId =>
      dsimp only [Option.bind_some]
      cases hget : j.boundaries.get boundaryId with
      | none => rfl
      | some boundary =>
          obtain ⟨time, -, hcreated⟩ := h boundaryId boundary hget
          simp only [Option.map_some, Option.bind_some]
          rw [hcreated, IsoTime.parse_toISOString, Option.map_some]

/-- The boundary that an incident names stays, so its time does. -/
theorem ownTime_of_stay (hstay : BoundariesStay j.boundaries j'.boundaries)
    (hbounded : Bounded j record) : ownTime j' record = ownTime j record := by
  unfold ownTime
  cases hnames : record.boundaryId with
  | none => rfl
  | some boundaryId =>
      obtain ⟨boundary, hget, -⟩ := hbounded.stored boundaryId hnames
      obtain ⟨boundary', hget', -, hcreated⟩ := hstay boundaryId boundary hget
      simp [hget, hget', hcreated]

/-- A change that prepares no advance past an incident of the source. -/
structure Untouched (f : FailureService) (e : Event) (sourceId : String) (j j' : Journal) :
    Prop where
  boundaries : SameBoundaries j.boundaries j'.boundaries
  lasts : ∀ failureId, lastAdvance j' sourceId failureId = lastAdvance j sourceId failureId
  circuit : j'.circuits sourceId = j.circuits sourceId ∨
    (j'.circuits sourceId).state = .opened ∧ ∃ answer record policy summary evidence known,
      e = .written sourceId answer ∧
        f.tasks sourceId = some (.writing record policy summary evidence known)

theorem Untouched.rfl : Untouched f e sourceId j j :=
  ⟨fun _ => by rfl, fun _ => by rfl, .inl (by rfl)⟩

theorem Untouched.trans {j'' : Journal} (h : Untouched f e sourceId j j')
    (h' : Untouched f e sourceId j' j'') : Untouched f e sourceId j j'' := by
  refine ⟨h.boundaries.trans h'.boundaries,
    fun failureId => (h'.lasts failureId).trans (h.lasts failureId), ?_⟩
  rcases h'.circuit with hsame | hopened
  · rw [hsame]
    exact h.circuit
  · exact .inr hopened

theorem ownTime_congr (hboundaries : SameBoundaries j.boundaries j'.boundaries)
    {record' : IncidentRecord} (hnames : record'.boundaryId = record.boundaryId) :
    ownTime j' record' = ownTime j record := by
  unfold ownTime
  rw [hnames]
  cases record.boundaryId with
  | none => rfl
  | some boundaryId =>
      have hcreated := congrArg (Option.map Prod.snd) (hboundaries boundaryId)
      simpa [Option.map_map, Function.comp_def, boundaryOrigin] using hcreated

/-- An incident that a change moves, unless it prepares an advance, names the same boundary. -/
theorem Moved.names {boundaries : InsertionMap StoredBoundary.boundaryId}
    {before after : IncidentRecord} (h : Moved texts f e boundaries (some before) after)
    (hguarded : ∀ source answer boundaryId, e ≠ .guarded source answer boundaryId) :
    after.boundaryId = before.boundaryId := by
  cases h with
  | same => rfl
  | @patched _ patch time hmakes =>
      show patch.boundaryId.getD before.boundaryId = before.boundaryId
      rw [hmakes.boundaryId]
      rfl
  | again => exact observedAgain_boundaryId _ _
  | prepared hevent => exact absurd hevent (hguarded _ _ _)

theorem Change.lasts (h : Change texts f e j j')
    (hguarded : ∀ source answer boundaryId, e ≠ .guarded source answer boundaryId)
    (hboundaries : SameBoundaries j.boundaries j'.boundaries) (failureId : String) :
    lastAdvance j' sourceId failureId = lastAdvance j sourceId failureId := by
  unfold lastAdvance
  rcases h.moves failureId with ⟨hnone, hnone'⟩ | ⟨after, hget', hmoved⟩
  · rw [hnone, hnone', Option.bind_none, Option.bind_none]
  · rw [hget']
    cases hget : j.incidents.get failureId with
    | none =>
        rw [hget] at hmoved
        cases hmoved with
        | first hobserves => simp [newIncident, ownTime]
    | some before =>
        rw [hget] at hmoved
        have hsame := hmoved.sameOrigin
        have hnames := hmoved.names hguarded
        dsimp only [Option.bind_some]
        rw [hsame.sourceId, ownTime_congr hboundaries hnames]

theorem claim_circuits (time : String) (sources : List SourceIdentity) (j : Journal) :
    (j.claim time sources).circuits = j.circuits := by
  unfold Journal.claim
  induction sources generalizing j with
  | nil => rfl
  | cons source rest ih =>
      rw [List.foldl_cons, ih]
      unfold Journal.claimSource
      dsimp only
      repeat' split
      all_goals rfl

theorem observe_journal (observation : NewObservation) (j : Journal) :
    (j.observe observation).2.boundaries = j.boundaries ∧
      (j.observe observation).2.circuits = j.circuits := by
  unfold Journal.observe
  split
  · exact ⟨rfl, rfl⟩
  · exact ⟨rfl, rfl⟩

theorem Change.untouched (h : Change texts f e j j')
    (hguarded : ∀ source answer boundaryId, e ≠ .guarded source answer boundaryId)
    (hreopens : ∀ revision reason, .reopenCircuit revision reason ∉ f.chains sourceId) :
    Untouched f e sourceId j j' := by
  have hsame : j'.boundaries = j.boundaries → SameBoundaries j.boundaries j'.boundaries := by
    intro hboundaries boundaryId
    rw [hboundaries]
  have hlasts := @Change.lasts texts f e sourceId j j' h hguarded
  cases h with
  | patched => exact ⟨hsame rfl, hlasts (hsame rfl), .inl rfl⟩
  | observed =>
      have hboundaries := hsame (observe_journal _ j).1
      refine ⟨hboundaries, hlasts hboundaries, .inl ?_⟩
      rw [(observe_journal _ j).2]
  | prepared hevent => exact absurd hevent (hguarded _ _ _)
  | @circuitOpened _ source answer written policy summary evidence known revision next reply hevent
      htask hopened hcall =>
      obtain ⟨-, rfl⟩ := Journal.updateCircuit_ok hcall
      refine ⟨hsame rfl, hlasts (hsame rfl), ?_⟩
      by_cases hsource : sourceId = source
      · subst hsource
        right
        dsimp only
        rw [Function.update_self]
        exact ⟨hopened, answer, written, policy, summary, evidence, known, hevent, htask⟩
      · exact .inl (Function.update_of_ne hsource _ _)
  | @circuitClosed _ source reason expectedRevision revision rest next reply hevent hchain hcall =>
      obtain ⟨-, rfl⟩ := Journal.updateCircuit_ok hcall
      refine ⟨hsame rfl, hlasts (hsame rfl), .inl (Function.update_of_ne ?_ _ _)⟩
      rintro rfl
      apply hreopens expectedRevision reason
      rw [hchain]
      exact List.mem_cons_self
  | retired hcall =>
      obtain ⟨boundary, hget, -, -, -, -, rfl⟩ := Journal.retireBoundary_ok hcall
      have hboundaries := sameBoundaries_end (InsertionMap.mem_of_get hget)
      exact ⟨hboundaries _ _, hlasts (hboundaries _ _), .inl rfl⟩
  | claimed time sources _ =>
      have hboundaries := sameBoundaries_claim time sources j
      refine ⟨hboundaries, hlasts hboundaries, .inl ?_⟩
      rw [claim_circuits]

theorem changes_untouched (h : ReflTransGen (Change texts f e) j j')
    (hguarded : ∀ source answer boundaryId, e ≠ .guarded source answer boundaryId)
    (hreopens : ∀ revision reason, .reopenCircuit revision reason ∉ f.chains sourceId) :
    Untouched f e sourceId j j' := by
  induction h with
  | refl => exact .rfl
  | tail _ hchange ih => exact ih.trans (Change.untouched hchange hguarded hreopens)

/-! ### The limit -/

/-- The circuit logs times, in order, which cover the recent advances of the source. -/
structure Counts (windowMs : ℕ) (sourceId : String) (j : Journal) (now : ℕ) (times : List ℕ) :
    Prop where
  advances : (j.circuits sourceId).advances = times.map IsoTime.toISOString
  sorted : times.Pairwise (· ≤ ·)
  past : ∀ time ∈ times, time ≤ now
  covers : Covers (within now windowMs) (lastAdvance j sourceId) times

theorem Counts.later {windowMs now now' : ℕ} {times : List ℕ}
    (h : Counts windowMs sourceId j now times) (hle : now ≤ now') :
    Counts windowMs sourceId j now' times :=
  ⟨h.advances, h.sorted, fun time hmem => (h.past time hmem).trans hle,
    h.covers.shrink fun _ => within_mono hle⟩

/-- Until the circuit is open, it counts the advances of its source. -/
structure Limited (windowMs : ℕ) (sourceId : String) (j : Journal) (now : ℕ) : Prop where
  stamped : Stamped j now
  counts : (j.circuits sourceId).state = .opened ∨ ∃ times, Counts windowMs sourceId j now times

theorem Stamped.later {now now' : ℕ} (h : Stamped j now) (hle : now ≤ now') : Stamped j now' := by
  intro boundaryId boundary hget
  obtain ⟨time, hpast, hcreated⟩ := h boundaryId boundary hget
  exact ⟨time, hpast.trans hle, hcreated⟩

theorem Stamped.same {now : ℕ} (h : Stamped j now)
    (hsame : SameBoundaries j.boundaries j'.boundaries) : Stamped j' now := by
  intro boundaryId boundary hget
  have horigin := hsame boundaryId
  rw [hget] at horigin
  obtain ⟨before, hbefore, hcreated⟩ := Option.map_eq_some_iff.mp horigin.symm
  obtain ⟨time, hpast, hat⟩ := h boundaryId before hbefore
  exact ⟨time, hpast, (congrArg Prod.snd hcreated).symm.trans hat⟩

theorem Limited.later {windowMs now now' : ℕ} (h : Limited windowMs sourceId j now)
    (hle : now ≤ now') : Limited windowMs sourceId j now' := by
  refine ⟨h.stamped.later hle, ?_⟩
  rcases h.counts with hopened | ⟨times, hcounts⟩
  · exact .inl hopened
  · exact .inr ⟨times, hcounts.later hle⟩

/-- What counts the advances of a source goes on counting while none is prepared. -/
theorem Counts.kept {windowMs now : ℕ} {times : List ℕ} (h : Counts windowMs sourceId j now times)
    (hcircuit : j'.circuits sourceId = j.circuits sourceId)
    (hlasts : ∀ failureId, lastAdvance j' sourceId failureId = lastAdvance j sourceId failureId) :
    Counts windowMs sourceId j' now times := by
  have hlast : lastAdvance j' sourceId = lastAdvance j sourceId := funext hlasts
  refine ⟨?_, h.sorted, h.past, ?_⟩
  · rw [hcircuit]
    exact h.advances
  · rw [hlast]
    exact h.covers

theorem Limited.untouched {windowMs now : ℕ} (h : Limited windowMs sourceId j now)
    (huntouched : Untouched f e sourceId j j') : Limited windowMs sourceId j' now := by
  refine ⟨h.stamped.same huntouched.boundaries, ?_⟩
  rcases huntouched.circuit with hsame | ⟨hopened, -⟩
  · rcases h.counts with hopened | ⟨times, hcounts⟩
    · exact .inl (by rw [hsame]; exact hopened)
    · exact .inr ⟨times, hcounts.kept hsame huntouched.lasts⟩
  · exact .inl hopened

/-- The circuit was found closed, with fewer recent advances of other incidents than the
limit. -/
structure Room (limit : AdvanceLimit) (sourceId failureId : String) (j : Journal) (now : ℕ) :
    Prop where
  closed : (j.circuits sourceId).state = .closed
  recent : ∃ moment ≤ now, (recentAdvances moment limit.windowMs
    ((lastAdvance j sourceId failureId).map IsoTime.toISOString)
      (j.circuits sourceId).advances).length < limit.incidents

theorem Room.kept {limit : AdvanceLimit} {failureId : String} {now now' : ℕ}
    (h : Room limit sourceId failureId j now) (hle : now ≤ now')
    (hcircuit : j'.circuits sourceId = j.circuits sourceId)
    (hlasts : ∀ failureId, lastAdvance j' sourceId failureId = lastAdvance j sourceId failureId) :
    Room limit sourceId failureId j' now' := by
  obtain ⟨hclosed, moment, hmoment, hrecent⟩ := h
  constructor
  · rw [hcircuit]
    exact hclosed
  · rw [hcircuit, hlasts failureId]
    exact ⟨moment, hmoment.trans hle, hrecent⟩

theorem lastAdvance_of_get {failureId : String}
    (hget : j.incidents.get failureId = some record) :
    lastAdvance j record.sourceId failureId = (ownTime j record).bind IsoTime.parse := by
  unfold lastAdvance
  rw [hget, Option.bind_some, if_pos rfl]

theorem Admits.room {now now' : ℕ}
    (h : Admits settings record.sourceId record j now) (hle : now ≤ now')
    (hstamped : Stamped j now') (hget : j.incidents.get record.failureId = some record) :
    Room (settings.source record.sourceId).policy.automaticAdvanceLimit record.sourceId
      record.failureId j now' := by
  refine ⟨h.closed, now, hle, ?_⟩
  rw [lastAdvance_of_get hget, ← hstamped.ownTime record]
  exact h.recent

/-- An advance past the incident was prepared at the time. -/
structure AdvancedPast (record : IncidentRecord) (boundaryId : String) (time : ℕ) (j j' : Journal) :
    Prop where
  fresh : j.boundaries.get boundaryId = none
  created : ∀ boundary, j'.boundaries.get boundaryId = some boundary →
    boundary.createdAt = IsoTime.toISOString time
  boundaries : ∀ other, other ≠ boundaryId →
    (j'.boundaries.get other).map boundaryOrigin = (j.boundaries.get other).map boundaryOrigin
  last : lastAdvance j' record.sourceId record.failureId = some time
  others : ∀ sourceId failureId, sourceId ≠ record.sourceId ∨ failureId ≠ record.failureId →
    lastAdvance j' sourceId failureId = lastAdvance j sourceId failureId
  names : ∀ failureId after, failureId ≠ record.failureId →
    j'.incidents.get failureId = some after → after.boundaryId ≠ some boundaryId
  circuit : j'.circuits record.sourceId = countedAdvance (IsoTime.toISOString time)
    (ownTime j record) (j.circuits record.sourceId)
  circuits : ∀ sourceId, sourceId ≠ record.sourceId → j'.circuits sourceId = j.circuits sourceId

theorem earlierAdvance_of_stay {boundaries : InsertionMap StoredBoundary.boundaryId}
    (hstay : BoundariesStay j.boundaries boundaries) (hbounded : Bounded j record) :
    Journal.earlierAdvance boundaries record = ownTime j record := by
  unfold Journal.earlierAdvance ownTime
  cases hnames : record.boundaryId with
  | none => rfl
  | some boundaryId =>
      obtain ⟨boundary, hget, -⟩ := hbounded.stored boundaryId hnames
      obtain ⟨boundary', hget', -, hcreated⟩ := hstay boundaryId boundary hget
      simp [hget, hget', hcreated]

theorem supersede_same {prior : Option StoredBoundary} {time : String}
    {boundaries : InsertionMap StoredBoundary.boundaryId}
    (hprior : ∀ boundary ∈ prior, boundary ∈ boundaries.values) :
    SameBoundaries boundaries (Journal.supersede time prior boundaries) := by
  unfold Journal.supersede
  cases prior with
  | none => exact fun _ => rfl
  | some boundary => exact sameBoundaries_end (hprior boundary rfl) _ _

theorem prepareAdvance_past {input : PrepareAdvance} {reply : StoreReply} {time : ℕ}
    (hcall : j.prepareAdvance input = .ok (reply, j'))
    (hget : j.incidents.get input.failureId = some record)
    (htime : input.time = IsoTime.toISOString time) (hbounded : JournalBounded j) :
    AdvancedPast record input.boundaryId time j j' := by
  have hstay := @next_boundaries j j' ⟨.prepareAdvance input, reply, hcall⟩
  obtain ⟨context, existing, -, hfound, -, -, -, -, hfresh, -, hafter⟩ :=
    Journal.prepareAdvance_ok hcall
  obtain rfl : record = existing := Option.some.inj (hget.symm.trans hfound)
  have hid : record.failureId = input.failureId := InsertionMap.key_of_get hget
  have hincidents : ∀ failureId, failureId ≠ record.failureId →
      j'.incidents.get failureId = j.incidents.get failureId := by
    intro failureId hother
    rw [hafter]
    exact InsertionMap.get_set_ne j.incidents hother
  have hkept : ∀ sourceId failureId, failureId ≠ record.failureId →
      lastAdvance j' sourceId failureId = lastAdvance j sourceId failureId := by
    intro sourceId failureId hother
    unfold lastAdvance
    rw [hincidents failureId hother]
    cases hother : j.incidents.get failureId with
    | none => rw [Option.bind_none, Option.bind_none]
    | some other =>
        rw [Option.bind_some, Option.bind_some,
          ownTime_of_stay hstay (hbounded failureId other hother)]
  have hstored : ∃ boundary, j'.boundaries.get input.boundaryId = some boundary ∧
      boundary.createdAt = IsoTime.toISOString time := by
    rw [hafter]
    exact ⟨_, InsertionMap.get_set_self _ (nextBoundary _ _ _ _), htime⟩
  have hself : j'.incidents.get record.failureId = some (advancedIncident input record).1 := by
    rw [hafter]
    exact InsertionMap.get_set_self j.incidents _
  refine ⟨hfresh, ?_, ?_, ?_, ?_, ?_, ?_, ?_⟩
  · intro boundary hboundary
    obtain ⟨stored, hget', hcreated⟩ := hstored
    obtain rfl := Option.some.inj (hget'.symm.trans hboundary)
    exact hcreated
  · intro other hother
    have hsuperseded : SameBoundaries j.boundaries
        (Journal.supersede input.time (j.boundary record.sourceId) j.boundaries) :=
      supersede_same fun _ => boundary_mem
    rw [hafter]
    show ((Journal.install _ _ _ _).get other).map boundaryOrigin = _
    unfold Journal.install
    have hne : other ≠ (nextBoundary input record (j.boundary record.sourceId) context).boundaryId :=
      hother
    rw [InsertionMap.get_set_ne _ hne]
    exact hsuperseded other
  · obtain ⟨stored, hget', hcreated⟩ := hstored
    have hsource : (advancedIncident input record).1.sourceId = record.sourceId := rfl
    unfold lastAdvance
    rw [hself, Option.bind_some, if_pos hsource]
    show ((j'.boundaries.get input.boundaryId).map _).bind _ = _
    rw [hget', Option.map_some, Option.bind_some, hcreated, IsoTime.parse_toISOString]
  · rintro sourceId failureId (hsource | hother)
    · by_cases hsame : failureId = record.failureId
      · unfold lastAdvance
        rw [hsame, hself, hid, hget, Option.bind_some, Option.bind_some, if_neg (Ne.symm hsource)]
        exact if_neg (Ne.symm hsource)
      · exact hkept sourceId failureId hsame
    · exact hkept sourceId failureId hother
  · intro failureId after hother hafter' hnames
    rw [hincidents failureId hother] at hafter'
    obtain ⟨boundary, hboundary, -⟩ := (hbounded failureId after hafter').stored _ hnames
    rw [hfresh] at hboundary
    cases hboundary
  · rw [hafter, ← htime]
    dsimp only
    rw [Function.update_self, earlierAdvance_of_stay _ (hbounded _ _ hget)]
    rw [hafter] at hstay
    exact hstay
  · intro sourceId hsource
    rw [hafter]
    exact Function.update_of_ne hsource _ _

theorem length_filter_le_of_within {moment now windowMs : ℕ} (hle : moment ≤ now)
    (times : List ℕ) :
    (times.filter (within now windowMs)).length ≤ (times.filter (within moment windowMs)).length :=
  (List.monotone_filter_right times fun _ => within_mono hle).length_le

/-- An advance that there was room for is counted. -/
theorem Counts.advanced
    {limit : AdvanceLimit} {boundaryId : String} {now now' time : ℕ} {times : List ℕ}
    (h : Counts limit.windowMs record.sourceId j now times)
    (hroom : Room limit record.sourceId record.failureId j now)
    (hpast : AdvancedPast record boundaryId time j j')
    (hown : ownTime j record =
      (lastAdvance j record.sourceId record.failureId).map IsoTime.toISOString)
    (hle : now ≤ time) (htime : time ≤ now') :
    ∃ times', Counts limit.windowMs record.sourceId j' now' times' := by
  obtain ⟨-, moment, hmoment, hrecent⟩ := hroom
  rw [h.advances, recentAdvances_map, List.length_map] at hrecent
  generalize hlast : lastAdvance j record.sourceId record.failureId = last at hown hrecent
  have hothers : ∀ other ∈ forget last times, other ≤ now :=
    fun other hother => h.past other ((forget_sublist last times).subset hother)
  have hsorted : (forget last times ++ [time]).Pairwise (· ≤ ·) := by
    rw [List.pairwise_append]
    refine ⟨h.sorted.sublist (forget_sublist last times), List.pairwise_singleton _ _, ?_⟩
    intro other hother new hnew
    rw [List.mem_singleton.mp hnew]
    exact (hothers other hother).trans hle
  have hfew : ((forget last times ++ [time]).filter (within now' limit.windowMs)).length ≤
      maxCircuitAdvances := by
    have hrecent' := @length_filter_le_of_within moment now' limit.windowMs
      ((hmoment.trans hle).trans htime) (forget last times)
    have hone : ([time].filter (within now' limit.windowMs)).length ≤ 1 :=
      List.length_filter_le _ _
    have hrange := limit.incidents_range.2
    rw [List.filter_append, List.length_append]
    unfold maxCircuitAdvances
    omega
  refine ⟨logged last time times, ?_, hsorted.sublist (List.drop_sublist _ _), ?_, ?_⟩
  · rw [hpast.circuit, hown]
    exact countedAdvance_map h.advances
  · intro other hother
    rcases List.mem_append.mp (List.mem_of_mem_drop hother) with hbefore | hnew
    · exact ((hothers other hbefore).trans hle).trans htime
    · rw [List.mem_singleton.mp hnew]
      exact htime
  · have hcovers : Covers (within now' limit.windowMs) (lastAdvance j record.sourceId) times :=
      h.covers.shrink fun _ => within_mono (hle.trans htime)
    have hused : Covers (within now' limit.windowMs) (lastAdvance j' record.sourceId)
        (forget last times ++ [time]) := by
      rw [← hlast]
      exact hcovers.use (fun other hother => hpast.others _ other (.inr hother)) hpast.last
    exact hused.newest hsorted (fun _ _ => within_upward) hfew

/-- Where there was room, fewer other incidents than the limit were advanced past recently. -/
theorem Counts.few
    {limit : AdvanceLimit} {failureId : String} {now time : ℕ} {times : List ℕ}
    (h : Counts limit.windowMs sourceId j now times) (hroom : Room limit sourceId failureId j now)
    (hle : now ≤ time) {failureIds : Finset String} (hothers : failureId ∉ failureIds)
    (hrecent : ∀ other ∈ failureIds, ∃ last, lastAdvance j sourceId other = some last ∧
      within time limit.windowMs last) : failureIds.card < limit.incidents := by
  obtain ⟨-, moment, hmoment, hfew⟩ := hroom
  rw [h.advances, recentAdvances_map, List.length_map] at hfew
  have hcovers : Covers (within time limit.windowMs) (lastAdvance j sourceId) times :=
    h.covers.shrink fun _ => within_mono hle
  have hwithout : Covers (within time limit.windowMs)
      (Function.update (lastAdvance j sourceId) failureId none)
      (forget (lastAdvance j sourceId failureId) times) :=
    hcovers.without (fun other hother => Function.update_of_ne hother _ _) (Function.update_self ..)
  have hcard : failureIds.card ≤ ((forget (lastAdvance j sourceId failureId) times).filter
      (within time limit.windowMs)).length := by
    apply hwithout.card_le
    intro other hother
    have hne : other ≠ failureId := by
      rintro rfl
      exact hothers hother
    rw [Function.update_of_ne hne]
    exact hrecent other hother
  have hshrinks := @length_filter_le_of_within moment time limit.windowMs (hmoment.trans hle)
    (forget (lastAdvance j sourceId failureId) times)
  omega

/-! ### Steps -/

/-- The readings of the clock never decrease. -/
def Steady (s : StoreAccess) : Prop := (s.now :: s.readings).Pairwise (· ≤ ·)

theorem Steady.goesOn (h : Steady s) (hlater : GoesOn s s') : Steady s' :=
  List.Pairwise.sublist (List.IsSuffix.sublist hlater) h

theorem Steady.le (h : Steady s) (hlater : GoesOn s s') : s.now ≤ s'.now := by
  have hmem : s'.now ∈ s.now :: s.readings := (List.IsSuffix.subset hlater) List.mem_cons_self
  rcases List.mem_cons.mp hmem with heq | hreading
  · exact heq.ge
  · exact (List.pairwise_cons.mp h).1 _ hreading

/-- An advance past an incident of the source was prepared: it names a boundary that is new,
with the time. -/
def AdvancePrepared (f f' : FailureService) (sourceId failureId : String) (time : ℕ) : Prop :=
  ∃ record boundaryId boundary, f'.store.journal.incidents.get failureId = some record ∧
    record.sourceId = sourceId ∧ record.boundaryId = some boundaryId ∧
      f.store.journal.boundaries.get boundaryId = none ∧
        f'.store.journal.boundaries.get boundaryId = some boundary ∧
          boundary.createdAt = IsoTime.toISOString time

/-- What holds of a source, as long as its limit is the same and no operator asks for its
circuit to be reopened. -/
structure Breaker (limit : AdvanceLimit) (sourceId : String) (f : FailureService) : Prop where
  settings : (f.settings.source sourceId).policy.automaticAdvanceLimit = limit
  chain : ∀ revision reason, Job.reopenCircuit revision reason ∉ f.chains sourceId
  limited : Limited limit.windowMs sourceId f.store.journal f.store.now
  guarding : ∀ pending prior, f.tasks sourceId = some (.guarding pending prior) →
    Room limit sourceId pending.failureId f.store.journal f.store.now

/-- What a step does to the advances: none is prepared, or one is, for which there was room if
it is the source's. -/
def Advances (limit : AdvanceLimit) (sourceId : String) (f f' : FailureService) : Prop :=
  (∃ e, Untouched f e sourceId f.store.journal f'.store.journal) ∨
    ∃ record boundaryId time, AdvancedPast record boundaryId time f.store.journal
        f'.store.journal ∧ f.store.now ≤ time ∧ time ≤ f'.store.now ∧
      (record.sourceId = sourceId →
        Room limit sourceId record.failureId f.store.journal f.store.now)

theorem Untouched.circuit_of_task (h : Untouched f e sourceId j j')
    (htask : ∀ record policy summary evidence known,
      f.tasks sourceId ≠ some (.writing record policy summary evidence known)) :
    j'.circuits sourceId = j.circuits sourceId := by
  rcases h.circuit with hsame | ⟨-, _, record, policy, summary, evidence, known, -, hwriting⟩
  · exact hsame
  · exact absurd hwriting (htask record policy summary evidence known)

/-- The incident that a guard is asked about is of the source. -/
theorem Coherent.guarding_source (h : Coherent texts f) {pending : IncidentRecord}
    {prior : Option StoredBoundary} (htask : f.tasks sourceId = some (.guarding pending prior))
    (hget : f.store.journal.incidents.get pending.failureId = some pending) :
    pending.sourceId = sourceId := by
  obtain ⟨position, hid⟩ := h.tasks sourceId _ htask pending rfl
  have hnamed : Named texts pending := h.named _ _ hget
  exact (failureId_inj (hnamed.symm.trans hid)).1

theorem Breaker.continues
    {limit : AdvanceLimit} (h : Breaker limit sourceId f) (hcoherent : Coherent texts f')
    (hsteady : Steady f.store) (hstepped : Stepped texts f e f')
    (hcontinues : Continues texts f e f')
    (hguarded : ∀ source answer boundaryId, e ≠ .guarded source answer boundaryId)
    (hreopen : ∀ revision reason, e ≠ .run sourceId (.reopenCircuit revision reason)) :
    Breaker limit sourceId f' ∧ Advances limit sourceId f f' := by
  have huntouched := changes_untouched hstepped.journal hguarded h.chain
  have hle := hsteady.le hstepped.clock
  refine ⟨⟨?_, ?_, (h.limited.untouched huntouched).later hle, ?_⟩, .inl ⟨e, huntouched⟩⟩
  · rw [hcontinues.settings]
    exact h.settings
  · intro revision reason hjob
    rcases hcontinues.chains sourceId _ hjob with hbefore | hqueues
    · exact h.chain revision reason hbefore
    · cases hqueues with
      | asked hrun => exact hreopen revision reason hrun
  · intro pending prior htask
    rcases hstepped.tasks sourceId _ htask with ⟨hbefore, -⟩ | henters
    · exact (h.guarding pending prior hbefore).kept hle
        (huntouched.circuit_of_task (by simp [hbefore])) huntouched.lasts
    · cases henters with
      | guarding hevent hwriting hguards =>
          obtain ⟨pending, prior, hsame, -, hget, -, moment, hbegan, hlater, hadmits⟩ := hguards
          cases hsame
          obtain rfl := hcoherent.guarding_source htask hget
          have hmoment := (hsteady.goesOn hbegan).le hlater
          have hstamped := (h.limited.untouched huntouched).stamped.later hle
          rw [← h.settings]
          exact hadmits.room hmoment hstamped hget

theorem Breaker.guarded
    {limit : AdvanceLimit} (h : Breaker limit sourceId f) (hcoherent : Coherent texts f)
    (hsteady : Steady f.store) {source boundaryId : String} {answer : HandlerAnswer}
    (hcontinues : Continues texts f (.guarded source answer boundaryId)
      (f.afterGuard texts source answer boundaryId)) :
    Breaker limit sourceId (f.afterGuard texts source answer boundaryId) ∧
      Advances limit sourceId f (f.afterGuard texts source answer boundaryId) := by
  have hrests : Breaker limit sourceId f ∧ Advances limit sourceId f f :=
    ⟨h, .inl ⟨.stop, .rfl⟩⟩
  cases htask : f.tasks source with
  | none =>
      unfold afterGuard
      rw [htask]
      exact hrests
  | some task =>
      cases task with
      | writing | advancing | confirming | retiring =>
          unfold afterGuard
          rw [htask]
          exact hrests
      | guarding pending prior =>
          have hchain : ∀ revision reason, Job.reopenCircuit revision reason ∉
              (f.afterGuard texts source answer boundaryId).chains sourceId := by
            intro revision reason hjob
            rcases hcontinues.chains sourceId _ hjob with hbefore | hqueues
            · exact h.chain revision reason hbefore
            · cases hqueues with
              | asked hrun => cases hrun
          have hsettings : ((f.afterGuard texts source answer boundaryId).settings.source
              sourceId).policy.automaticAdvanceLimit = limit := by
            rw [hcontinues.settings]
            exact h.settings
          obtain ⟨hquiet, htasks⟩ | ⟨prepared, hprepares, htasks⟩ :=
            @afterGuard_cases texts f source hcoherent.snapshots pending prior htask answer boundaryId
          · have huntouched : Untouched f .stop sourceId f.store.journal
                (f.afterGuard texts source answer boundaryId).store.journal :=
              changes_untouched (ReflTransGen.mono
                (fun _ _ => @Change.of_quiet texts f .stop _ _) _ _ hquiet.journal) (by simp) h.chain
            have hle := hsteady.le hquiet.clock
            refine ⟨⟨hsettings, hchain, (h.limited.untouched huntouched).later hle, ?_⟩,
              .inl ⟨.stop, huntouched⟩⟩
            intro waiting prior' hwaiting
            rw [htasks] at hwaiting
            by_cases hsource : sourceId = source
            · subst hsource
              rw [Function.update_self] at hwaiting
              cases hwaiting
            · rw [Function.update_of_ne hsource] at hwaiting
              exact (h.guarding waiting prior' hwaiting).kept hle
                (huntouched.circuit_of_task (by simp [hwaiting])) huntouched.lasts
          · obtain ⟨input, reply, moment, hcall, hid, hboundary, htime, hbegan, hlater, -⟩ :=
              hprepares.called
            have hget := hprepares.current
            have hpast : AdvancedPast pending input.boundaryId moment.now f.store.journal
                (f.afterGuard texts source answer boundaryId).store.journal :=
              prepareAdvance_past hcall (hid.symm ▸ hget) htime hcoherent.bounded
            have hof := hcoherent.guarding_source htask hget
            have hle := hsteady.le hbegan
            have hle' := (hsteady.goesOn hbegan).le hlater
            have hroom : pending.sourceId = sourceId →
                Room limit sourceId pending.failureId f.store.journal f.store.now := by
              intro hsource
              apply h.guarding pending prior
              rw [← hsource, hof]
              exact htask
            have hstamped : Stamped (f.afterGuard texts source answer boundaryId).store.journal
                (f.afterGuard texts source answer boundaryId).store.now := by
              intro other boundary hother
              by_cases hnew : other = input.boundaryId
              · subst hnew
                exact ⟨moment.now, hle', hpast.created boundary hother⟩
              · have horigin := hpast.boundaries other hnew
                rw [hother] at horigin
                obtain ⟨before, hbefore, hcreated⟩ := Option.map_eq_some_iff.mp horigin.symm
                obtain ⟨time, hold, hat⟩ := h.limited.stamped other before hbefore
                exact ⟨time, (hold.trans hle).trans hle',
                  (congrArg Prod.snd hcreated).symm.trans hat⟩
            refine ⟨⟨hsettings, hchain, ⟨hstamped, ?_⟩, ?_⟩,
              .inr ⟨pending, input.boundaryId, moment.now, hpast, hle, hle', hroom⟩⟩
            · by_cases hsource : pending.sourceId = sourceId
              · have hroom' := hroom hsource
                subst hsource
                rcases h.limited.counts with hopened | ⟨times, hcounts⟩
                · rw [hroom'.closed] at hopened
                  cases hopened
                · refine .inr (hcounts.advanced hroom' hpast ?_ hle hle')
                  rw [lastAdvance_of_get hget]
                  exact h.limited.stamped.ownTime pending
              · have hcircuit := hpast.circuits sourceId (Ne.symm hsource)
                rcases h.limited.counts with hopened | ⟨times, hcounts⟩
                · exact .inl (by rw [hcircuit]; exact hopened)
                · exact .inr ⟨times, (hcounts.kept hcircuit fun failureId =>
                    hpast.others sourceId failureId (.inl (Ne.symm hsource))).later
                      (hle.trans hle')⟩
            · intro waiting prior' hwaiting
              rw [htasks] at hwaiting
              by_cases hsource : sourceId = source
              · subst hsource
                rw [Function.update_self] at hwaiting
                cases hwaiting
              · rw [Function.update_of_ne hsource] at hwaiting
                have hother : sourceId ≠ pending.sourceId := by
                  rw [hof]
                  exact hsource
                exact (h.guarding waiting prior' hwaiting).kept (hle.trans hle')
                  (hpast.circuits sourceId hother) fun failureId =>
                    hpast.others sourceId failureId (.inl hother)

/-- What a call throws and the clock reads does not matter to what is prepared. -/
theorem Advances.of_given {limit : AdvanceLimit} {o : Occurrence}
    (h : Advances limit sourceId (f.given o) f') : Advances limit sourceId f f' := by
  rcases h with ⟨e, huntouched⟩ | hprepared
  · exact .inl ⟨e, huntouched.boundaries, huntouched.lasts, huntouched.circuit⟩
  · exact .inr hprepared

theorem Breaker.step
    {limit : AdvanceLimit} (h : Breaker limit sourceId f) (hcoherent : Coherent texts f)
    (o : Occurrence) (hclock : (f.store.now :: o.readings).Pairwise (· ≤ ·))
    (hlimit : ∀ settings offsets, o.event = .restart settings offsets →
      (settings.source sourceId).policy.automaticAdvanceLimit = limit)
    (hreopen : ∀ revision reason, o.event ≠ .run sourceId (.reopenCircuit revision reason)) :
    Breaker limit sourceId (step texts f o) ∧ Advances limit sourceId f (step texts f o) ∧
      (step texts f o).store.now ∈ f.store.now :: o.readings := by
  have hgiven : Breaker limit sourceId (f.given o) := ⟨h.settings, h.chain, h.limited, h.guarding⟩
  have hsteady : Steady (f.given o).store := hclock
  have hread : ∀ {s : StoreAccess}, GoesOn (f.given o).store s →
      s.now ∈ f.store.now :: o.readings :=
    fun hlater => (List.IsSuffix.subset hlater) List.mem_cons_self
  have hafter := hcoherent.step o
  have hstep := @step_cases texts f hcoherent.snapshots o
  generalize FailureService.step texts f o = f' at hafter hstep ⊢
  cases hstep with
  | @restarted settings offsets hevent =>
      obtain ⟨hwrote, htasks⟩ := @restart_wrote texts (f.given o) (.restart settings offsets)
        settings offsets rfl (f.given o).store
      obtain ⟨hsettings, -, hchains⟩ := @restart_settings settings offsets (f.given o).store
      have huntouched : Untouched (f.given o) (.restart settings offsets) sourceId
          f.store.journal (restart settings offsets (f.given o).store).store.journal :=
        changes_untouched hwrote.journal (by simp) hgiven.chain
      refine ⟨⟨?_, ?_, (h.limited.untouched huntouched).later (hsteady.le hwrote.clock), ?_⟩,
        Advances.of_given (.inl ⟨_, huntouched⟩), hread hwrote.clock⟩
      · rw [hsettings]
        exact hlimit settings offsets hevent
      · rw [hchains]
        simp
      · intro pending prior htask
        rw [htasks] at htask
        cases htask
  | nothing => exact ⟨hgiven, .inl ⟨.stop, .rfl⟩, List.mem_cons_self⟩
  | handled hstarted hpossible hrestart hresult hstepped hcontinues =>
      have hmem := hread hstepped.clock
      by_cases hguarded : ∃ source answer boundaryId, o.event = .guarded source answer boundaryId
      · obtain ⟨source, answer, boundaryId, hevent⟩ := hguarded
        rw [hevent] at hresult hcontinues
        subst hresult
        obtain ⟨hbreaker, hadvances⟩ :=
          hgiven.guarded (hcoherent.given o) hsteady hcontinues
        exact ⟨hbreaker, Advances.of_given hadvances, hmem⟩
      · obtain ⟨hbreaker, hadvances⟩ := hgiven.continues hafter hsteady hstepped hcontinues
          (fun source answer boundaryId hevent => hguarded ⟨source, answer, boundaryId, hevent⟩)
          hreopen
        exact ⟨hbreaker, Advances.of_given hadvances, hmem⟩

theorem Stamped.lastAdvance_le {now : ℕ} (h : Stamped j now) {failureId : String} {last : ℕ}
    (hlast : lastAdvance j sourceId failureId = some last) : last ≤ now := by
  obtain ⟨record, -, hlast⟩ := Option.bind_eq_some_iff.mp hlast
  split at hlast
  · unfold FailureService.ownTime at hlast
    obtain ⟨createdAt, hcreated, hparsed⟩ := Option.bind_eq_some_iff.mp hlast
    obtain ⟨boundaryId, -, hboundary⟩ := Option.bind_eq_some_iff.mp hcreated
    obtain ⟨boundary, hget, rfl⟩ := Option.map_eq_some_iff.mp hboundary
    obtain ⟨time, hpast, hat⟩ := h boundaryId boundary hget
    rw [hat, IsoTime.parse_toISOString] at hparsed
    obtain rfl := Option.some.inj hparsed
    exact hpast
  · cases hlast

section Advances

variable {limit : AdvanceLimit} {failureId : String} {time : ℕ}

/-- An incident that was advanced past has a last advance that is not earlier. -/
theorem Advances.last_le (h : Advances limit sourceId f f')
    (hstamped : Stamped f.store.journal f.store.now) {last : ℕ}
    (hlast : lastAdvance f.store.journal sourceId failureId = some last) :
    ∃ last' ≥ last, lastAdvance f'.store.journal sourceId failureId = some last' := by
  rcases h with ⟨e, huntouched⟩ | ⟨record, boundaryId, time, hpast, hle, -, -⟩
  · exact ⟨last, le_rfl, (huntouched.lasts failureId).trans hlast⟩
  · by_cases hsame : sourceId ≠ record.sourceId ∨ failureId ≠ record.failureId
    · exact ⟨last, le_rfl, (hpast.others sourceId failureId hsame).trans hlast⟩
    · obtain ⟨rfl, rfl⟩ : sourceId = record.sourceId ∧ failureId = record.failureId := by tauto
      exact ⟨time, (hstamped.lastAdvance_le hlast).trans hle, hpast.last⟩

/-- The advance that a step prepares is the one past the incident, and there was room for it. -/
theorem Advances.prepared (h : Advances limit sourceId f f')
    (hprepared : AdvancePrepared f f' sourceId failureId time) :
    Room limit sourceId failureId f.store.journal f.store.now ∧ f.store.now ≤ time ∧
      (∀ other other', AdvancePrepared f f' sourceId other other' → other = failureId) ∧
        lastAdvance f'.store.journal sourceId failureId = some time := by
  -- The step's advance is the one past any incident that names a new boundary.
  have hmade : ∀ failureId time, AdvancePrepared f f' sourceId failureId time →
      ∃ record boundaryId, AdvancedPast record boundaryId time f.store.journal f'.store.journal ∧
        f.store.now ≤ time ∧ record.sourceId = sourceId ∧ record.failureId = failureId ∧
          Room limit sourceId failureId f.store.journal f.store.now ∧
            ∀ record' boundaryId' time', AdvancedPast record' boundaryId' time' f.store.journal
              f'.store.journal → record'.failureId = failureId := by
    rintro failureId time ⟨after, boundaryId, boundary, hget, hsource, hnames, hnone, hstored, hat⟩
    have hunique : ∀ record' boundaryId' time', AdvancedPast record' boundaryId' time'
        f.store.journal f'.store.journal → boundaryId' = boundaryId ∧
          record'.failureId = failureId := by
      intro record' boundaryId' time' hpast
      have hid : boundaryId' = boundaryId := by
        by_contra hne
        have horigin := hpast.boundaries boundaryId (Ne.symm hne)
        rw [hnone, hstored] at horigin
        cases horigin
      refine ⟨hid, ?_⟩
      by_contra hne
      exact hpast.names failureId after (Ne.symm hne) hget (by rw [hid]; exact hnames)
    rcases h with ⟨e, huntouched⟩ | ⟨record, boundaryId', time', hpast, hle, -, hroom⟩
    · have horigin := huntouched.boundaries boundaryId
      rw [hnone, hstored] at horigin
      cases horigin
    · obtain ⟨rfl, rfl⟩ := hunique record boundaryId' time' hpast
      have hcreated := hpast.created boundary hstored
      obtain rfl : time' = time := toISOString_injective (hcreated.symm.trans hat)
      have hof : record.sourceId = sourceId := by
        by_contra hne
        have hlast := hpast.last
        have hother := hpast.others sourceId record.failureId (.inl (Ne.symm hne))
        unfold lastAdvance at hlast
        rw [hget, Option.bind_some, if_neg] at hlast
        · cases hlast
        · rw [hsource]
          exact Ne.symm hne
      exact ⟨record, boundaryId', hpast, hle, hof, rfl, hroom hof,
        fun record' boundaryId' time' hpast' => (hunique record' boundaryId' time' hpast').2⟩
  obtain ⟨record, boundaryId, hpast, hle, rfl, rfl, hroom, -⟩ := hmade failureId time hprepared
  refine ⟨hroom, hle, ?_, hpast.last⟩
  intro other other' hother
  obtain ⟨_, _, _, -, -, -, -, hunique⟩ := hmade other other' hother
  exact (hunique _ _ _ hpast).symm

/-- An open circuit stays open. -/
theorem Advances.opened (h : Advances limit sourceId f f')
    (hopened : (f.store.journal.circuits sourceId).state = .opened) :
    (f'.store.journal.circuits sourceId).state = .opened := by
  rcases h with ⟨e, huntouched⟩ | ⟨record, boundaryId, time, hpast, -, -, hroom⟩
  · rcases huntouched.circuit with hsame | ⟨hopened', -⟩
    · rw [hsame]
      exact hopened
    · exact hopened'
  · by_cases hsource : record.sourceId = sourceId
    · have hclosed := (hroom hsource).closed
      rw [hopened] at hclosed
      cases hclosed
    · rw [hpast.circuits sourceId (Ne.symm hsource)]
      exact hopened

end Advances

/-! ### Runs -/

/-- The clock never goes back, the limit of the source stays the same, and no operator asks for
its circuit to be reopened. -/
structure Undisturbed (limit : AdvanceLimit) (sourceId : String) (occurrences : List Occurrence) :
    Prop where
  clock : (occurrences.flatMap (·.readings)).Pairwise (· ≤ ·)
  limit : ∀ o ∈ occurrences, ∀ settings offsets, o.event = .restart settings offsets →
    (settings.source sourceId).policy.automaticAdvanceLimit = limit
  reopens : ∀ o ∈ occurrences, ∀ revision reason,
    o.event ≠ .run sourceId (.reopenCircuit revision reason)

theorem Undisturbed.before {limit : AdvanceLimit} {occurrences later : List Occurrence}
    (h : Undisturbed limit sourceId (occurrences ++ later)) :
    Undisturbed limit sourceId occurrences := by
  refine ⟨?_, fun o hmem => h.limit o (List.mem_append_left _ hmem),
    fun o hmem => h.reopens o (List.mem_append_left _ hmem)⟩
  have hclock := h.clock
  rw [List.flatMap_append, List.pairwise_append] at hclock
  exact hclock.1

/-- The next step reads the clock where it stands, or later. -/
theorem Undisturbed.steady {limit : AdvanceLimit} {occurrences : List Occurrence} {o : Occurrence}
    {now : ℕ} (h : Undisturbed limit sourceId (occurrences ++ [o]))
    (hnow : now ∈ 0 :: occurrences.flatMap (·.readings)) :
    (now :: o.readings).Pairwise (· ≤ ·) := by
  have hclock := h.clock
  rw [List.flatMap_append, List.flatMap_singleton, List.pairwise_append] at hclock
  obtain ⟨-, hreadings, hbetween⟩ := hclock
  refine List.pairwise_cons.mpr ⟨?_, hreadings⟩
  intro reading hreading
  rcases List.mem_cons.mp hnow with hzero | hbefore
  · rw [hzero]
    exact Nat.zero_le reading
  · exact hbetween _ hbefore reading hreading

/-- An advance past an incident of the source was prepared at the time, in some step. -/
def PreparedIn (texts : RecordTexts) (settings : ServiceSettings) (occurrences : List Occurrence)
    (sourceId failureId : String) (time : ℕ) : Prop :=
  ∃ before o later, occurrences = before ++ o :: later ∧
    AdvancePrepared (after texts settings before) (after texts settings (before ++ [o])) sourceId
      failureId time

theorem preparedIn_concat {occurrences : List Occurrence} {o : Occurrence} {failureId : String}
    {time : ℕ} (h : PreparedIn texts settings (occurrences ++ [o]) sourceId failureId time) :
    PreparedIn texts settings occurrences sourceId failureId time ∨
      AdvancePrepared (after texts settings occurrences)
        (after texts settings (occurrences ++ [o])) sourceId failureId time := by
  obtain ⟨before, o', later, hrun, hprepared⟩ := h
  cases later using List.reverseRecOn with
  | nil =>
      obtain ⟨rfl, hlast⟩ := List.append_inj' hrun rfl
      obtain rfl := (List.cons.inj hlast).1
      exact .inr hprepared
  | append_singleton later last =>
      have hsplit : occurrences ++ [o] = (before ++ o' :: later) ++ [last] := by
        rw [hrun]
        simp
      obtain ⟨rfl, -⟩ := List.append_inj' hsplit rfl
      exact .inl ⟨before, o', later, rfl, hprepared⟩

section Runs

variable {occurrences : List Occurrence}

theorem after_breaker (texts : RecordTexts)
    (h : Undisturbed (settings.source sourceId).policy.automaticAdvanceLimit sourceId occurrences) :
    Breaker (settings.source sourceId).policy.automaticAdvanceLimit sourceId
        (after texts settings occurrences) ∧
      (after texts settings occurrences).store.now ∈ 0 :: occurrences.flatMap (·.readings) := by
  induction occurrences using List.reverseRecOn with
  | nil =>
      refine ⟨⟨rfl, by simp [after, run, initial, fresh], ⟨?_, .inr ⟨[], ?_⟩⟩, ?_⟩, ?_⟩
      · intro boundaryId boundary hget
        cases hget
      · exact ⟨rfl, .nil, by simp, covers_of_none fun _ => rfl⟩
      · intro pending prior htask
        cases htask
      · exact List.mem_cons_self
  | append_singleton occurrences o ih =>
      obtain ⟨hbreaker, hnow⟩ := ih h.before
      have hmem : o ∈ occurrences ++ [o] := List.mem_append_right _ (List.mem_singleton_self o)
      obtain ⟨hafter, -, hread⟩ := hbreaker.step (after_coherent texts settings occurrences) o
        (h.steady hnow) (h.limit o hmem) (h.reopens o hmem)
      rw [after_concat]
      refine ⟨hafter, ?_⟩
      rw [List.flatMap_append, List.flatMap_singleton]
      rcases List.mem_cons.mp hread with hsame | hnew
      · rw [hsame]
        rcases List.mem_cons.mp hnow with hzero | hbefore
        · rw [hzero]
          exact List.mem_cons_self
        · exact List.mem_cons_of_mem _ (List.mem_append_left _ hbefore)
      · exact List.mem_cons_of_mem _ (List.mem_append_right _ hnew)

/-- The steps of an undisturbed run. -/
theorem after_advances (texts : RecordTexts) {o : Occurrence}
    (h : Undisturbed (settings.source sourceId).policy.automaticAdvanceLimit sourceId
      (occurrences ++ [o])) :
    Advances (settings.source sourceId).policy.automaticAdvanceLimit sourceId
      (after texts settings occurrences) (after texts settings (occurrences ++ [o])) := by
  obtain ⟨hbreaker, hnow⟩ := after_breaker texts h.before
  have hmem : o ∈ occurrences ++ [o] := List.mem_append_right _ (List.mem_singleton_self o)
  rw [after_concat]
  exact (hbreaker.step (after_coherent texts settings occurrences) o (h.steady hnow)
    (h.limit o hmem) (h.reopens o hmem)).2.1

/-- The last advance past an incident is not earlier than any that was prepared. -/
theorem preparedIn_last
    (h : Undisturbed (settings.source sourceId).policy.automaticAdvanceLimit sourceId occurrences)
    {failureId : String} {time : ℕ}
    (hprepared : PreparedIn texts settings occurrences sourceId failureId time) :
    ∃ last ≥ time, lastAdvance (after texts settings occurrences).store.journal sourceId
      failureId = some last := by
  induction occurrences using List.reverseRecOn with
  | nil =>
      obtain ⟨before, o, later, hrun, -⟩ := hprepared
      simp at hrun
  | append_singleton occurrences o ih =>
      have hadvances := after_advances texts h
      rcases preparedIn_concat hprepared with hbefore | hnow
      · obtain ⟨last, hle, hlast⟩ := ih h.before hbefore
        obtain ⟨last', hle', hlast'⟩ :=
          hadvances.last_le (after_breaker texts h.before).1.limited.stamped hlast
        exact ⟨last', hle.trans hle', hlast'⟩
      · exact ⟨time, le_rfl, (hadvances.prepared hnow).2.2.2⟩

/-- In a window of the limit's length, no more incidents are advanced past than the limit. -/
theorem card_preparedIn_le
    (h : Undisturbed (settings.source sourceId).policy.automaticAdvanceLimit sourceId occurrences)
    (start : ℕ) (failureIds : Finset String)
    (hprepared : ∀ failureId ∈ failureIds, ∃ time, start ≤ time ∧
      time < start + (settings.source sourceId).policy.automaticAdvanceLimit.windowMs ∧
        PreparedIn texts settings occurrences sourceId failureId time) :
    failureIds.card ≤ (settings.source sourceId).policy.automaticAdvanceLimit.incidents := by
  induction occurrences using List.reverseRecOn with
  | nil =>
      have hempty : failureIds = ∅ := by
        apply Finset.eq_empty_of_forall_notMem
        intro failureId hmem
        obtain ⟨time, -, -, before, o, later, hrun, -⟩ := hprepared failureId hmem
        simp at hrun
      rw [hempty]
      exact Nat.zero_le _
  | append_singleton occurrences o ih =>
      have hadvances := after_advances texts h
      by_cases hlast : ∃ failureId ∈ failureIds, ∃ time, start ≤ time ∧
          time < start + (settings.source sourceId).policy.automaticAdvanceLimit.windowMs ∧
            AdvancePrepared (after texts settings occurrences)
              (after texts settings (occurrences ++ [o])) sourceId failureId time
      · -- The step prepares the last advance of the window; the others were prepared before it.
        obtain ⟨failureId, hmem, time, hstart, hend, hnow⟩ := hlast
        obtain ⟨hroom, hle, hunique, -⟩ := hadvances.prepared hnow
        obtain ⟨hbreaker, -⟩ := after_breaker texts h.before
        obtain ⟨times, hcounts⟩ : ∃ times, Counts
            (settings.source sourceId).policy.automaticAdvanceLimit.windowMs sourceId
            (after texts settings occurrences).store.journal
            (after texts settings occurrences).store.now times := by
          rcases hbreaker.limited.counts with hopened | hcounts
          · rw [hroom.closed] at hopened
            cases hopened
          · exact hcounts
        have hfew := hcounts.few hroom hle (Finset.notMem_erase failureId failureIds) (by
          intro other hother
          obtain ⟨hne, hother⟩ := Finset.mem_erase.mp hother
          obtain ⟨time', hstart', hend', hprepared'⟩ := hprepared other hother
          rcases preparedIn_concat hprepared' with hbefore | hsame
          · obtain ⟨last, hlast, hgot⟩ := preparedIn_last h.before hbefore
            refine ⟨last, hgot, ?_⟩
            unfold within
            exact decide_eq_true (by omega)
          · exact absurd (hunique other time' hsame) hne)
        rw [Finset.card_erase_of_mem hmem] at hfew
        omega
      · apply ih h.before
        intro failureId hmem
        obtain ⟨time, hstart, hend, hprepared'⟩ := hprepared failureId hmem
        rcases preparedIn_concat hprepared' with hbefore | hnow
        · exact ⟨time, hstart, hend, hbefore⟩
        · exact absurd ⟨failureId, hmem, time, hstart, hend, hnow⟩ hlast

/-- A circuit that is open stays open. -/
theorem after_opened {middle : List Occurrence}
    (h : Undisturbed (settings.source sourceId).policy.automaticAdvanceLimit sourceId
      (occurrences ++ middle))
    (hopened : ((after texts settings occurrences).store.journal.circuits sourceId).state =
      .opened) :
    ((after texts settings (occurrences ++ middle)).store.journal.circuits sourceId).state =
      .opened := by
  induction middle using List.reverseRecOn with
  | nil =>
      rw [List.append_nil]
      exact hopened
  | append_singleton middle o ih =>
      rw [← List.append_assoc] at h ⊢
      exact (after_advances texts h).opened (ih h.before)

/-- While the clock does not go back, the limit is the same and no operator reopens the circuit,
a window of the limit's length has at most as many incidents with a prepared advance as the
limit, and once the circuit is open no advance is prepared. -/
theorem advances_bounded (texts : RecordTexts) (settings : ServiceSettings) (sourceId : String)
    (occurrences : List Occurrence)
    (h : Undisturbed (settings.source sourceId).policy.automaticAdvanceLimit sourceId
      occurrences) :
    (∀ (start : ℕ) (failureIds : Finset String), (∀ failureId ∈ failureIds, ∃ time, start ≤ time ∧
        time < start + (settings.source sourceId).policy.automaticAdvanceLimit.windowMs ∧
          PreparedIn texts settings occurrences sourceId failureId time) →
        failureIds.card ≤ (settings.source sourceId).policy.automaticAdvanceLimit.incidents) ∧
      ∀ before middle o later, occurrences = before ++ middle ++ o :: later →
        ((after texts settings before).store.journal.circuits sourceId).state = .opened →
          ∀ failureId time, ¬ AdvancePrepared (after texts settings (before ++ middle))
            (after texts settings (before ++ middle ++ [o])) sourceId failureId time := by
  refine ⟨card_preparedIn_le h, ?_⟩
  intro before middle o later hrun hopened failureId time hprepared
  have hsplit : occurrences = (before ++ middle ++ [o]) ++ later := by
    rw [hrun]
    simp
  rw [hsplit] at h
  have hroom := ((after_advances texts h.before).prepared hprepared).1
  have hstill := after_opened h.before.before hopened
  rw [hroom.closed] at hstill
  cases hstill

end Runs

/-- One order is advanced past. -/
def advancedRun : List Occurrence :=
  calmly [.restart (ordersUnder .quarantineResync) fun _ _ _ => .ok none,
    .check "orders" (orderAt 5 [1]), .failed "orders" (orderAt 5 [1]),
    .held "orders" (orderAt 5 [1]) invalidOrder, .begin "orders",
    .written "orders" (.acknowledged 0 0), .guarded "orders" recoverableAnswer "b1"]

theorem undisturbed_advancedRun : Undisturbed defaultAdvanceLimit "orders" advancedRun := by
  refine ⟨by simp [advancedRun, calmly], ?_, by simp [advancedRun, calmly]⟩
  intro o hmem settings offsets hevent
  simp only [advancedRun, calmly, List.map_cons, List.map_nil, List.mem_cons, List.not_mem_nil,
    or_false] at hmem
  rcases hmem with rfl | rfl | rfl | rfl | rfl | rfl | rfl <;> cases hevent
  rfl

theorem advances_bounded_once :
    PreparedIn plainTexts (ordersUnder .quarantineResync) advancedRun "orders"
        (plainTexts.failureId "orders" "1" (.kafka "orders" 0 5)) 0 ∧
      ({plainTexts.failureId "orders" "1" (.kafka "orders" 0 5)} : Finset String).card ≤ 5 := by
  have hprepared : PreparedIn plainTexts (ordersUnder .quarantineResync) advancedRun "orders"
      (plainTexts.failureId "orders" "1" (.kafka "orders" 0 5)) 0 := by
    have hadvanced : ((after plainTexts (ordersUnder .quarantineResync)
        advancedRun).store.journal.incidents.get
          (plainTexts.failureId "orders" "1" (.kafka "orders" 0 5))).any (fun record =>
        decide (record.sourceId = "orders" ∧ record.boundaryId = some "b1")) = true := by
      decide +kernel
    have hfresh : ((after plainTexts (ordersUnder .quarantineResync)
        (advancedRun.take 6)).store.journal.boundaries.get "b1").isNone = true := by
      decide +kernel
    have hstored : ((after plainTexts (ordersUnder .quarantineResync)
        advancedRun).store.journal.boundaries.get "b1").any (fun boundary =>
          decide (boundary.createdAt = IsoTime.toISOString 0)) = true := by
      decide +kernel
    obtain ⟨record, hget, hrecord⟩ := (Option.any_eq_true _ _).mp hadvanced
    obtain ⟨boundary, hboundary, hcreated⟩ := (Option.any_eq_true _ _).mp hstored
    obtain ⟨hsource, hnames⟩ := of_decide_eq_true hrecord
    exact ⟨advancedRun.take 6, _, [], rfl, record, "b1", boundary, hget, hsource, hnames,
      Option.isNone_iff_eq_none.mp hfresh, hboundary, of_decide_eq_true hcreated⟩
  refine ⟨hprepared, (advances_bounded plainTexts (ordersUnder .quarantineResync) "orders"
    advancedRun undisturbed_advancedRun).1 0 _ ?_⟩
  intro failureId hmem
  obtain rfl := Finset.mem_singleton.mp hmem
  exact ⟨0, le_rfl, by decide, hprepared⟩

end FailureService

end StreamOtter
