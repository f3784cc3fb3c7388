import StreamOtter.ServerCourses
import StreamOtter.GatewaySessions

/-!
# The attempts of a gateway

What a stretch of one subscription does to the suspended attempts of all: it begins one,
resumes one or none of its own, and leaves those of the others, whose generations it may
raise by disposing them.
-/

namespace StreamOtter

/-- An attempt of the subscription `member` of a session, by its generation. -/
structure Ticket where
  session : ℕ
  member : ℕ
  generation : ℕ
  deriving DecidableEq, Repr

namespace GatewayState

def subscription (g : GatewayState) (i j : ℕ) : Option ServerSubscription :=
  (g.sessions[i]?).bind fun session => (session.members[j]?).map Member.subscription

def pendingAt (g : GatewayState) (i j : ℕ) : List Attempt :=
  (g.subscription i j).elim [] ServerSubscription.pending

def generationAt (g : GatewayState) (i j : ℕ) : ℕ :=
  (g.subscription i j).elim 0 ServerSubscription.generation

/-- The attempt that a stretch resumes. -/
def proceedingAt (g : GatewayState) (i j : ℕ) (action : ServerStep) : Option Attempt :=
  (g.subscription i j).bind fun s => s.proceeding action

/-- The attempt of the ticket waits there. -/
def Awaits (g : GatewayState) (t : Ticket) (waiting : Await) : Prop :=
  ⟨t.generation, waiting⟩ ∈ g.pendingAt t.session t.member

/-- The attempts of a subscription have different generations, and none to come. -/
structure Orderly (g : GatewayState) : Prop where
  distinct : ∀ i j, ((g.pendingAt i j).map Attempt.generation).Nodup
  dated : ∀ i j, ∀ attempt ∈ g.pendingAt i j, attempt.generation ≤ g.generationAt i j

/-- No attempt is begun or resumed, but subscriptions may be disposed. -/
structure Rests (g g' : GatewayState) : Prop where
  pending : ∀ i j, g'.pendingAt i j = g.pendingAt i j
  generation : ∀ i j, g.generationAt i j ≤ g'.generationAt i j

variable {g g' g'' : GatewayState} {i j : ℕ} {limits : GatewayLimits}

theorem Rests.refl (g : GatewayState) : Rests g g := ⟨fun _ _ => rfl, fun _ _ => Nat.le_refl _⟩

theorem Rests.trans (h : Rests g g') (h' : Rests g' g'') : Rests g g'' where
  pending := fun i j => (h'.pending i j).trans (h.pending i j)
  generation := fun i j => Nat.le_trans (h.generation i j) (h'.generation i j)

theorem rests_of_subscription (h : ∀ i j, g'.subscription i j = g.subscription i j) : Rests g g' where
  pending := fun i j => by rw [pendingAt, pendingAt, h]
  generation := fun i j => by rw [generationAt, generationAt, h]

section Update

variable {stretch : Member → ServerSubscription → ServerSubscription}

theorem update_absent (habsent : g.subscription i j = none) : g.update i j stretch = g := by
  unfold update
  split
  · rfl
  · case h_2 session hsession =>
      split
      · rfl
      · case h_2 m hm =>
          rw [subscription, hsession, Option.bind_some, hm] at habsent
          cases habsent

/-- The subscription that is updated, as it is loaded and as it is stored. -/
theorem update_present (stretch : Member → ServerSubscription → ServerSubscription)
    {s : ServerSubscription} (hpresent : g.subscription i j = some s) :
    ∃ m loaded, loaded.pending = s.pending ∧ loaded.generation = s.generation ∧
      (∀ action, loaded.proceeding action = s.proceeding action) ∧
      (g.update i j stretch).subscription i j = some (stretch m loaded) := by
  obtain ⟨session, hsession, hmember⟩ := Option.bind_eq_some_iff.mp hpresent
  obtain ⟨m, hm, rfl⟩ := Option.map_eq_some_iff.mp hmember
  refine ⟨m, m.loaded session.closed session.level g.level, rfl, rfl, fun _ => rfl, ?_⟩
  have hi : i < g.sessions.length := (List.getElem?_eq_some_iff.mp hsession).1
  have hj : j < session.members.length := (List.getElem?_eq_some_iff.mp hm).1
  simp [update, hsession, hm, stored, subscription, List.getElem?_set_self hi,
    List.getElem?_set_self hj]

theorem update_elsewhere {i' j' : ℕ} (hother : ¬(i' = i ∧ j' = j)) :
    (g.update i j stretch).subscription i' j' = g.subscription i' j' := by
  unfold update
  split
  · rfl
  · case h_2 session hsession =>
      split
      · rfl
      · case h_2 m hm =>
          by_cases hi : i' = i
          · subst hi
            have hj : j ≠ j' := fun hsame => hother ⟨rfl, hsame.symm⟩
            have hlt : i' < g.sessions.length := (List.getElem?_eq_some_iff.mp hsession).1
            simp [stored, subscription, List.getElem?_set_self hlt, hsession,
              List.getElem?_set_ne hj]
          · have hne : i ≠ i' := fun hsame => hi hsame.symm
            simp [stored, subscription, List.getElem?_set_ne hne]

end Update

theorem disposeHeld_pending (s : ServerSubscription) : (disposeHeld s).pending = s.pending := by
  unfold disposeHeld ServerSubscription.dispose
  split_ifs <;> rfl

theorem disposeHeld_generation (s : ServerSubscription) :
    s.generation ≤ (disposeHeld s).generation := by
  unfold disposeHeld ServerSubscription.dispose
  split_ifs
  · exact Nat.le_refl _
  · exact Nat.le_succ _
  · exact Nat.le_refl _

theorem rests_dispose (g : GatewayState) (i j : ℕ) : Rests g (g.update i j fun _ => disposeHeld) := by
  cases hpresent : g.subscription i j with
  | none =>
      rw [update_absent hpresent]
      exact Rests.refl g
  | some s =>
      obtain ⟨m, loaded, hpending, hgeneration, -, hstored⟩ :=
        update_present (fun _ => disposeHeld) hpresent
      constructor
      · intro i' j'
        by_cases hhere : i' = i ∧ j' = j
        · obtain ⟨rfl, rfl⟩ := hhere
          rw [pendingAt, pendingAt, hstored, hpresent]
          exact (disposeHeld_pending loaded).trans hpending
        · rw [pendingAt, pendingAt, update_elsewhere hhere]
      · intro i' j'
        by_cases hhere : i' = i ∧ j' = j
        · obtain ⟨rfl, rfl⟩ := hhere
          rw [generationAt, generationAt, hstored, hpresent]
          show s.generation ≤ _
          rw [← hgeneration]
          exact disposeHeld_generation loaded
        · rw [generationAt, generationAt, update_elsewhere hhere]

theorem rests_disposeAll (g : GatewayState) (i : ℕ) : Rests g (g.disposeAll i) := by
  unfold disposeAll
  split
  · exact Rests.refl g
  · case h_2 session hsession =>
      clear hsession
      generalize List.range session.members.length = indices
      induction indices generalizing g with
      | nil => exact Rests.refl g
      | cons j rest ih => exact (rests_dispose g i j).trans (ih _)

theorem subscription_connect (i j : ℕ) :
    (g.step limits .connect).subscription i j = g.subscription i j := by
  unfold subscription
  rcases Nat.lt_trichotomy i g.sessions.length with hlt | rfl | hgt
  · rw [show (g.step limits .connect).sessions[i]? = g.sessions[i]? from
      List.getElem?_append_left hlt]
  · simp [step]
  · rw [List.getElem?_eq_none (Nat.le_of_lt hgt), List.getElem?_eq_none]
    show (g.sessions ++ [_]).length ≤ i
    rw [List.length_append, List.length_singleton]
    exact hgt

/-- A session whose subscriptions stay, perhaps with a new one that has no attempts. -/
theorem rests_setSession {session session' : SessionState} (hsession : g.sessions[i]? = some session)
    {new : List Member} (hmembers : session'.members = session.members ++ new)
    (hnew : ∀ m ∈ new, m.subscription.pending = [] ∧ m.subscription.generation = 0) :
    Rests g (g.setSession i session') := by
  have hlt : i < g.sessions.length := (List.getElem?_eq_some_iff.mp hsession).1
  have hother : ∀ i' j, i' ≠ i →
      (g.setSession i session').subscription i' j = g.subscription i' j := by
    intro i' j hi
    rw [subscription, subscription, setSession, List.getElem?_set_ne hi.symm]
  have hhere : ∀ j, (g.setSession i session').subscription i j =
      (session'.members[j]?).map Member.subscription := by
    intro j
    rw [subscription, setSession, List.getElem?_set_self hlt, Option.bind_some]
  have hbefore : ∀ j, g.subscription i j = (session.members[j]?).map Member.subscription := by
    intro j
    rw [subscription, hsession, Option.bind_some]
  -- A subscription that was not there before had neither attempts nor a generation.
  have hcases : ∀ j, (g.setSession i session').subscription i j = g.subscription i j ∨
      g.subscription i j = none ∧ ∀ s ∈ (g.setSession i session').subscription i j,
        s.pending = [] ∧ s.generation = 0 := by
    intro j
    rw [hhere, hbefore, hmembers]
    by_cases hj : j < session.members.length
    · left
      rw [List.getElem?_append_left hj]
    · right
      rw [List.getElem?_eq_none (Nat.le_of_not_lt hj)]
      refine ⟨rfl, ?_⟩
      intro s hs
      obtain ⟨m, hm, rfl⟩ := Option.map_eq_some_iff.mp hs
      rw [List.getElem?_append_right (Nat.le_of_not_lt hj)] at hm
      exact hnew m (List.mem_of_getElem? hm)
  constructor
  · intro i' j
    by_cases hi : i' = i
    · subst hi
      rcases hcases j with hsame | ⟨hnone, hempty⟩
      · rw [pendingAt, pendingAt, hsame]
      · rw [pendingAt, pendingAt, hnone]
        cases hadded : (g.setSession i' session').subscription i' j with
        | none => rfl
        | some s => exact (hempty s hadded).1
    · rw [pendingAt, pendingAt, hother i' j hi]
  · intro i' j
    by_cases hi : i' = i
    · subst hi
      rcases hcases j with hsame | ⟨hnone, -⟩
      · rw [generationAt, generationAt, hsame]
      · rw [generationAt, hnone]
        exact Nat.zero_le _
    · rw [generationAt, generationAt, hother i' j hi]

theorem rests_subscribed {channel : String} {channelVersion : ℕ} {source : SourceRuntime} :
    Rests g (g.subscribed limits i channel channelVersion source) := by
  unfold subscribed
  split
  · exact Rests.refl g
  · case h_2 session hsession =>
      split
      · exact Rests.refl g
      · apply rests_setSession hsession rfl
        intro m hm
        rw [List.mem_singleton.mp hm]
        exact ⟨rfl, rfl⟩

theorem rests_closed : Rests g (g.closed i) := by
  unfold closed
  split
  · exact Rests.refl g
  · case h_2 session hsession =>
      split
      · exact Rests.refl g
      · refine Rests.trans ?_ (rests_disposeAll _ i)
        exact rests_setSession hsession (List.append_nil _).symm (List.forall_mem_nil _)

/-- What a stretch of one subscription does to the attempts. -/
inductive Moves (g g' : GatewayState) (i j : ℕ) (action : ServerStep) : Prop
  | rests (hstill : g.proceedingAt i j action = none) (h : Rests g g')
  | begins (hstill : g.proceedingAt i j action = none)
      (hpending : g'.pendingAt i j =
        g.pendingAt i j ++ [⟨g.generationAt i j + 1, .authorizeHandler⟩])
      (hgeneration : g.generationAt i j + 1 ≤ g'.generationAt i j)
  | proceeds (attempt : Attempt) (index : ℕ) (suspended : Option Await)
      (hproceeding : g.proceedingAt i j action = some attempt)
      (hindex : (g.pendingAt i j)[index]? = some attempt)
      (hpending : g'.pendingAt i j = (g.pendingAt i j).eraseIdx index ++
        suspended.toList.map (Attempt.mk attempt.generation))
      (hnext : ∀ waiting ∈ suspended, ServerSubscription.Follows attempt.waiting waiting)

/-- What it does to those of the others. -/
structure Spares (g g' : GatewayState) (i j : ℕ) : Prop where
  pending : ∀ i' j', ¬(i' = i ∧ j' = j) → g'.pendingAt i' j' = g.pendingAt i' j'
  generation : ∀ i' j', g.generationAt i' j' ≤ g'.generationAt i' j'

theorem Rests.spares (h : Rests g g') : Spares g g' i j :=
  ⟨fun i' j' _ => h.pending i' j', h.generation⟩

theorem moves_update (input : ServerInput) :
    Moves g (g.update i j fun m s => s.step (m.config limits) input) i j input.step ∧
      Spares g (g.update i j fun m s => s.step (m.config limits) input) i j := by
  cases hpresent : g.subscription i j with
  | none =>
      rw [update_absent hpresent]
      refine ⟨.rests ?_ (Rests.refl g), (Rests.refl g).spares⟩
      rw [proceedingAt, hpresent]
      rfl
  | some s =>
      obtain ⟨m, loaded, hpending, hgeneration, hproceeding, hstored⟩ :=
        update_present (fun m s => s.step (m.config limits) input) hpresent
      have hbefore : g.pendingAt i j = loaded.pending := by
        rw [hpending, pendingAt, hpresent]
        rfl
      have hreached : g.generationAt i j = loaded.generation := by
        rw [hgeneration, generationAt, hpresent]
        rfl
      have hfound : g.proceedingAt i j input.step = loaded.proceeding input.step := by
        rw [hproceeding, proceedingAt, hpresent]
        rfl
      set g' := g.update i j fun m s => s.step (m.config limits) input
      have hafter : g'.pendingAt i j = (loaded.step (m.config limits) input).pending := by
        rw [pendingAt, hstored]
        rfl
      have hgrown : g'.generationAt i j = (loaded.step (m.config limits) input).generation := by
        rw [generationAt, hstored]
        rfl
      have hcourse : ServerSubscription.Course (m.config limits).limits.maxSyncAttempts loaded input.step
          (loaded.step (m.config limits) input) := ServerSubscription.course_step input.step
      have hspares : loaded.generation ≤ (loaded.step (m.config limits) input).generation →
          Spares g g' i j := by
        intro hle
        constructor
        · intro i' j' hother
          rw [pendingAt, pendingAt, update_elsewhere hother]
        · intro i' j'
          by_cases hhere : i' = i ∧ j' = j
          · obtain ⟨rfl, rfl⟩ := hhere
            rw [hreached, hgrown]
            exact hle
          · rw [generationAt, generationAt, update_elsewhere hhere]
      cases hcourse with
      | stretch h hstill =>
          have hspared := hspares h.generation
          refine ⟨.rests (hfound.trans hstill) ⟨fun i' j' => ?_, hspared.generation⟩, hspared⟩
          by_cases hhere : i' = i ∧ j' = j
          · obtain ⟨rfl, rfl⟩ := hhere
            rw [hafter, hbefore, h.pending]
          · exact hspared.pending i' j' hhere
      | begins t h hstill hsame hlevel =>
          have hle : loaded.generation + 1 ≤ (loaded.step (m.config limits) input).generation :=
            hlevel ▸ h.generation
          refine ⟨.begins (hfound.trans hstill) ?_ ?_, hspares (Nat.le_trans (Nat.le_succ _) hle)⟩
          · rw [hafter, hbefore, hreached, h.pending, hsame, hlevel]
          · rw [hreached, hgrown]
            exact hle
      | proceeds attempt index hattempt hindex _ _ h =>
          obtain ⟨suspended, hsuspended, hnext⟩ := h.pending
          refine ⟨.proceeds attempt index suspended (hfound.trans hattempt) (hbefore ▸ hindex) ?_ hnext,
            hspares h.generation⟩
          rw [hafter, hbefore, hsuspended]
          rfl
      | postponed attempt index hattempt hindex _ _ h =>
          obtain ⟨suspended, hsuspended, hnext⟩ := h.pending
          refine ⟨.proceeds attempt index suspended (hfound.trans hattempt) (hbefore ▸ hindex) ?_ hnext,
            hspares h.generation⟩
          rw [hafter, hbefore, hsuspended]
          rfl

theorem Moves.trans_rests {action : ServerStep} (h : Moves g g' i j action) (hrests : Rests g' g'') :
    Moves g g'' i j action := by
  cases h with
  | rests hstill h => exact .rests hstill (h.trans hrests)
  | begins hstill hpending hgeneration =>
      refine .begins hstill ?_ (Nat.le_trans hgeneration (hrests.generation i j))
      rw [hrests.pending, hpending]
  | proceeds attempt index suspended hproceeding hindex hpending hnext =>
      refine .proceeds attempt index suspended hproceeding hindex ?_ hnext
      rw [hrests.pending, hpending]

theorem Spares.trans_rests (h : Spares g g' i j) (hrests : Rests g' g'') : Spares g g'' i j where
  pending := fun i' j' hother => (hrests.pending i' j').trans (h.pending i' j' hother)
  generation := fun i' j' => Nat.le_trans (h.generation i' j') (hrests.generation i' j')

/-- A session that closes in the stretch disposes its other subscriptions after it. -/
theorem moves_stretched (limits : GatewayLimits) (g : GatewayState) (i j : ℕ)
    (input : ServerInput) :
    Moves g (g.stretched limits i j input) i j input.step ∧
      Spares g (g.stretched limits i j input) i j := by
  unfold stretched
  split
  · case isTrue hforeign =>
      refine ⟨.rests ?_ (Rests.refl g), (Rests.refl g).spares⟩
      obtain ⟨action, readings⟩ := input
      cases action with
      | elsewhere connection gateway =>
          unfold proceedingAt
          cases g.subscription i j <;> rfl
      | _ => cases hforeign
  · have hupdated : Moves g (g.update i j fun m s => s.step (m.config limits) input) i j input.step ∧
        Spares g (g.update i j fun m s => s.step (m.config limits) input) i j := moves_update input
    dsimp only
    split
    · exact ⟨hupdated.1.trans_rests (rests_disposeAll _ i),
        hupdated.2.trans_rests (rests_disposeAll _ i)⟩
    · exact hupdated

/-- An attempt resumed at the semaphore calls the handler when it is current and has a permit. -/
theorem pending_resumePermit {s : ServerSubscription} {config : ServerConfig} {readings : Readings}
    {index generation : ℕ} {acquired : Bool}
    (hindex : s.pending[index]? = some ⟨generation, .permit⟩) :
    (s.step config ⟨.resumePermit index acquired, readings⟩).pending =
      s.pending.eraseIdx index ++
        if acquired && generation = s.generation then
          [⟨generation, .snapshotHandler s.source.boundary⟩]
        else [] := by
  have hresumed : s.step config ⟨.resumePermit index acquired, readings⟩ =
      (s.taken index).afterPermit config.limits readings generation acquired := by
    show s.resume index _ = _
    unfold ServerSubscription.resume
    rw [hindex]
    rfl
  have hfailed : ServerSubscription.Calmly
      (ServerSubscription.Ordinary config.limits.maxSyncAttempts s.attempts) (s.taken index)
      ((s.taken index).attemptFailed config.limits readings .timeout) :=
    (ServerSubscription.Calmly.refl (s.taken index)).attemptFailed rfl
  rw [hresumed]
  unfold ServerSubscription.afterPermit
  rw [show (s.taken index).generation = s.generation from rfl]
  by_cases hcurrent : generation = s.generation
  · rw [if_neg (not_not.mpr hcurrent)]
    cases acquired
    · rw [if_pos (by decide), hfailed.pending]
      exact (List.append_nil _).symm
    · rw [if_neg (by decide), if_pos (by simpa using hcurrent)]
      rfl
  · rw [if_pos hcurrent, if_neg (by simp [hcurrent])]
    exact (List.append_nil _).symm

theorem pendingAt_resumePermit (limits : GatewayLimits) (readings : Readings) (acquired : Bool)
    {index : ℕ} {attempt : Attempt}
    (hproceeding : g.proceedingAt i j (.resumePermit index true) = some attempt) :
    attempt.waiting = .permit ∧ (g.pendingAt i j)[index]? = some attempt ∧
      ∃ boundary, (g.stretched limits i j ⟨.resumePermit index acquired, readings⟩).pendingAt i j =
        (g.pendingAt i j).eraseIdx index ++
          if acquired && attempt.generation = g.generationAt i j then
            [⟨attempt.generation, .snapshotHandler boundary⟩]
          else [] := by
  obtain ⟨s, hpresent, hs⟩ := Option.bind_eq_some_iff.mp hproceeding
  obtain ⟨hindex, hresumes⟩ := Option.filter_eq_some_iff.mp hs
  obtain ⟨generation, waiting⟩ := attempt
  obtain rfl : waiting = .permit := by
    cases waiting <;> first
      | rfl
      | cases hresumes
  have hbefore : g.pendingAt i j = s.pending := by
    rw [pendingAt, hpresent]
    rfl
  have hreached : g.generationAt i j = s.generation := by
    rw [generationAt, hpresent]
    rfl
  obtain ⟨m, loaded, hpending, hgeneration, -, hstored⟩ := update_present (fun m s =>
    s.step (m.config limits) ⟨.resumePermit index acquired, readings⟩) hpresent
  have hloaded : loaded.pending[index]? = some ⟨generation, .permit⟩ := hpending ▸ hindex
  refine ⟨rfl, hbefore ▸ hindex, loaded.source.boundary, ?_⟩
  rw [hbefore, hreached, ← hpending, ← hgeneration, ← pending_resumePermit hloaded]
  have hupdated : (g.update i j fun m s =>
      s.step (m.config limits) ⟨.resumePermit index acquired, readings⟩).pendingAt i j =
      (loaded.step (m.config limits) ⟨.resumePermit index acquired, readings⟩).pending := by
    rw [pendingAt, hstored]
    rfl
  rw [← hupdated]
  unfold stretched
  split
  · case isTrue hforeign => cases hforeign
  · dsimp only
    split
    · exact (rests_disposeAll _ i).pending i j
    · rfl

/-- Among attempts of different generations, those other than one are those of others. -/
theorem mem_eraseIdx_iff {pending : List Attempt} {index : ℕ} {attempt other : Attempt}
    (hdistinct : (pending.map Attempt.generation).Nodup) (hindex : pending[index]? = some attempt) :
    other ∈ pending.eraseIdx index ↔ other ∈ pending ∧ other.generation ≠ attempt.generation := by
  obtain ⟨hlt, hget⟩ := List.getElem?_eq_some_iff.mp hindex
  have hperm := List.getElem_cons_eraseIdx_perm hlt
  rw [hget] at hperm
  have hnodup : ((attempt :: pending.eraseIdx index).map Attempt.generation).Nodup :=
    (hperm.map Attempt.generation).nodup_iff.mpr hdistinct
  rw [List.map_cons, List.nodup_cons] at hnodup
  constructor
  · intro hother
    refine ⟨List.mem_of_mem_eraseIdx hother, fun hsame => hnodup.1 ?_⟩
    exact List.mem_map.mpr ⟨other, hother, hsame⟩
  · rintro ⟨hother, hdifferent⟩
    rcases List.mem_cons.mp (hperm.mem_iff.mpr hother) with rfl | hrest
    · exact absurd rfl hdifferent
    · exact hrest

theorem Rests.awaits (h : Rests g g') {t : Ticket} {waiting : Await} :
    g'.Awaits t waiting ↔ g.Awaits t waiting := by
  rw [Awaits, Awaits, h.pending]

theorem awaits_begins
    (hpending : g'.pendingAt i j =
      g.pendingAt i j ++ [⟨g.generationAt i j + 1, .authorizeHandler⟩])
    (hspares : Spares g g' i j) {t : Ticket} {waiting : Await} :
    g'.Awaits t waiting ↔
      g.Awaits t waiting ∨ t = ⟨i, j, g.generationAt i j + 1⟩ ∧ waiting = .authorizeHandler := by
  obtain ⟨i', j', generation⟩ := t
  by_cases hhere : i' = i ∧ j' = j
  · obtain ⟨rfl, rfl⟩ := hhere
    simp [Awaits, hpending]
  · have hother : (⟨i', j', generation⟩ : Ticket) ≠ ⟨i, j, g.generationAt i j + 1⟩ := by
      rintro hsame
      cases hsame
      exact hhere ⟨rfl, rfl⟩
    simp [Awaits, hspares.pending i' j' hhere, hother]

theorem awaits_proceeds {attempt : Attempt} {index : ℕ} {suspended : Option Await}
    (horderly : g.Orderly) (hindex : (g.pendingAt i j)[index]? = some attempt)
    (hpending : g'.pendingAt i j = (g.pendingAt i j).eraseIdx index ++
      suspended.toList.map (Attempt.mk attempt.generation))
    (hspares : Spares g g' i j) {t : Ticket} {waiting : Await} :
    g'.Awaits t waiting ↔ g.Awaits t waiting ∧ t ≠ ⟨i, j, attempt.generation⟩ ∨
      t = ⟨i, j, attempt.generation⟩ ∧ suspended = some waiting := by
  obtain ⟨i', j', generation⟩ := t
  by_cases hhere : i' = i ∧ j' = j
  · obtain ⟨rfl, rfl⟩ := hhere
    rw [Awaits, Awaits, hpending, List.mem_append, mem_eraseIdx_iff (horderly.distinct i' j') hindex]
    simp [and_comm, eq_comm]
  · have hother : (⟨i', j', generation⟩ : Ticket) ≠ ⟨i, j, attempt.generation⟩ := by
      rintro hsame
      cases hsame
      exact hhere ⟨rfl, rfl⟩
    simp [Awaits, hspares.pending i' j' hhere, hother]

theorem Orderly.unique (h : g.Orderly) {t : Ticket} {waiting waiting' : Await}
    (hwaits : g.Awaits t waiting) (hwaits' : g.Awaits t waiting') : waiting = waiting' := by
  have hsame := List.inj_on_of_nodup_map (h.distinct t.session t.member) hwaits hwaits' rfl
  exact congrArg Attempt.waiting hsame

theorem Orderly.rests (h : g.Orderly) (hrests : Rests g g') : g'.Orderly where
  distinct := fun i j => hrests.pending i j ▸ h.distinct i j
  dated := fun i j attempt hattempt => Nat.le_trans
    (h.dated i j attempt (hrests.pending i j ▸ hattempt)) (hrests.generation i j)

theorem Orderly.moves {action : ServerStep} (h : g.Orderly) (hmoves : Moves g g' i j action)
    (hspares : Spares g g' i j) : g'.Orderly := by
  have helsewhere : ∀ i' j', ¬(i' = i ∧ j' = j) →
      ((g'.pendingAt i' j').map Attempt.generation).Nodup ∧
        ∀ attempt ∈ g'.pendingAt i' j', attempt.generation ≤ g'.generationAt i' j' := by
    intro i' j' hother
    rw [hspares.pending i' j' hother]
    refine ⟨h.distinct i' j', fun attempt hattempt => ?_⟩
    exact Nat.le_trans (h.dated i' j' attempt hattempt) (hspares.generation i' j')
  have hhere : ((g'.pendingAt i j).map Attempt.generation).Nodup ∧
      ∀ attempt ∈ g'.pendingAt i j, attempt.generation ≤ g'.generationAt i j := by
    have hgrown := hspares.generation i j
    cases hmoves with
    | rests hstill hrests =>
        rw [hrests.pending]
        exact ⟨h.distinct i j, fun attempt hattempt => Nat.le_trans (h.dated i j attempt hattempt) hgrown⟩
    | begins hstill hpending hgeneration =>
        rw [hpending]
        constructor
        · rw [List.map_append]
          apply List.Nodup.append (h.distinct i j) (List.nodup_singleton _)
          intro generation hold hnew
          obtain ⟨attempt, hattempt, rfl⟩ := List.mem_map.mp hold
          have hle := h.dated i j attempt hattempt
          rw [List.mem_singleton.mp hnew] at hle
          exact Nat.not_succ_le_self _ hle
        · intro attempt hattempt
          rcases List.mem_append.mp hattempt with hold | hnew
          · exact Nat.le_trans (h.dated i j attempt hold) hgrown
          · rw [List.mem_singleton.mp hnew]
            exact hgeneration
    | proceeds attempt index suspended hproceeding hindex hpending hnext =>
        have hrest : ∀ other ∈ (g.pendingAt i j).eraseIdx index,
            other ∈ g.pendingAt i j ∧ other.generation ≠ attempt.generation :=
          fun other hother => (mem_eraseIdx_iff (h.distinct i j) hindex).mp hother
        rw [hpending]
        constructor
        · rw [List.map_append]
          apply List.Nodup.append
          · exact (h.distinct i j).sublist ((List.eraseIdx_sublist _ _).map _)
          · cases suspended
            · exact List.nodup_nil
            · exact List.nodup_singleton _
          · intro generation hold hagain
            obtain ⟨other, hother, rfl⟩ := List.mem_map.mp hold
            apply (hrest other hother).2
            cases suspended
            · cases hagain
            · exact List.mem_singleton.mp hagain
        · intro other hother
          apply Nat.le_trans _ hgrown
          rcases List.mem_append.mp hother with hold | hagain
          · exact h.dated i j other (hrest other hold).1
          · obtain ⟨waiting, -, rfl⟩ := List.mem_map.mp hagain
            exact h.dated i j attempt (List.mem_of_getElem? hindex)
  constructor
  · intro i' j'
    by_cases hsame : i' = i ∧ j' = j
    · obtain ⟨rfl, rfl⟩ := hsame
      exact hhere.1
    · exact (helsewhere i' j' hsame).1
  · intro i' j'
    by_cases hsame : i' = i ∧ j' = j
    · obtain ⟨rfl, rfl⟩ := hsame
      exact hhere.2
    · exact (helsewhere i' j' hsame).2

end GatewayState

end StreamOtter
