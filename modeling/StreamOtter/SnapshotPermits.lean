import StreamOtter.Semaphore
import StreamOtter.GatewayAttempts
import StreamOtter.SyncProtocol

/-!
# Conservation of the snapshot permits

The semaphore that bounds the snapshot handlers running at one time, beside the sessions of
the gateway.  An attempt asks for a permit when its source is ready, waits for it, and calls
the handler or gives the permit back; when the handler has settled the permit is released.
Every permit is held by an attempt or free, nobody waits while one is free, and what was granted
is released once.
-/

namespace StreamOtter

structure SnapshotPermits where
  gateway : GatewayState
  ledger : Ledger Ticket
  deriving DecidableEq, Repr

inductive PermitInput
  /-- Anything but a resumption at the semaphore.  `late` says that the deadline has passed where
  the stretch asks for a permit. -/
  | gateway (input : GatewayInput) (late : Bool)
  /-- The attempt at `index` resumes at the semaphore with what its request resolved to. -/
  | resume (i j index : ℕ) (readings : Readings)
  /-- The timer of a waiter fires. -/
  | deadline (ticket : Ticket)

namespace SnapshotPermits

def initial (limits : GatewayLimits) (permits : ℕ) : SnapshotPermits :=
  ⟨GatewayState.initial limits, Ledger.initial permits⟩

/-- `onAbort`: the signal of a waiter is aborted when its attempt is superseded. -/
def aborted (p : SnapshotPermits) : SnapshotPermits :=
  { p with
    ledger := p.ledger.drop fun t => p.gateway.generationAt t.session t.member ≠ t.generation }

/-- `await this.#core.snapshots.acquire(signal, deadline)`, where the stretch has come to it. -/
def requested (gateway : GatewayState) (late : Bool) (t : Ticket) (l : Ledger Ticket) :
    Ledger Ticket :=
  if (gateway.pendingAt t.session t.member).contains ⟨t.generation, .permit⟩ then
    l.request (gateway.generationAt t.session t.member ≠ t.generation) late t
  else l

/-- A stretch.  The permit of a settled handler is released before anything else is done. -/
def stretched (limits : GatewayLimits) (i j : ℕ) (input : ServerInput) (late : Bool)
    (p : SnapshotPermits) : SnapshotPermits :=
  let gateway := p.gateway.step limits (.stretch i j input)
  match p.gateway.proceedingAt i j input.step with
  | some ⟨_, .permit⟩ => p
  | some ⟨generation, .authorized⟩ =>
      aborted ⟨gateway, requested gateway late ⟨i, j, generation⟩ p.ledger⟩
  | some ⟨generation, .snapshotHandler _⟩ =>
      aborted ⟨gateway, p.ledger.finish ⟨i, j, generation⟩⟩
  | _ => aborted ⟨gateway, p.ledger⟩

/-- A request is answered.  A superseded attempt releases what it was granted. -/
def answered (limits : GatewayLimits) (index : ℕ) (readings : Readings) (t : Ticket)
    (p : SnapshotPermits) : SnapshotPermits :=
  match p.ledger.settled.find? fun entry => entry.1 = t with
  | none => p
  | some (_, acquired) =>
      aborted
        ⟨p.gateway.step limits (.stretch t.session t.member ⟨.resumePermit index acquired, readings⟩),
          p.ledger.resume t acquired (t.generation = p.gateway.generationAt t.session t.member)⟩

def resumed (limits : GatewayLimits) (i j index : ℕ) (readings : Readings) (p : SnapshotPermits) :
    SnapshotPermits :=
  match p.gateway.proceedingAt i j (.resumePermit index true) with
  | none => p
  | some attempt => p.answered limits index readings ⟨i, j, attempt.generation⟩

def step (limits : GatewayLimits) (p : SnapshotPermits) : PermitInput → SnapshotPermits
  | .gateway (.stretch i j input) late => p.stretched limits i j input late
  | .gateway input _ => aborted ⟨p.gateway.step limits input, p.ledger⟩
  | .resume i j index readings => p.resumed limits i j index readings
  | .deadline ticket => { p with ledger := p.ledger.drop fun t => t = ticket }

/-- Every interleaving of stretches, settlements, aborts and deadlines. -/
def machine (limits : GatewayLimits) : Machine SnapshotPermits PermitInput where
  step := step limits
  allowed := fun _ _ => True

/-- The ledger knows where the attempts of the gateway are. -/
structure Tracked (maximum : ℕ) (p : SnapshotPermits) : Prop where
  orderly : p.gateway.Orderly
  balanced : p.ledger.Balanced maximum []
  awaiting : ∀ t, t ∈ p.ledger.awaiting ↔ p.gateway.Awaits t .permit
  awaitingDistinct : p.ledger.awaiting.Nodup
  running : ∀ t, t ∈ p.ledger.running ↔ ∃ boundary, p.gateway.Awaits t (.snapshotHandler boundary)
  runningDistinct : p.ledger.running.Nodup
  dated : ∀ t ∈ p.ledger.tickets, t.generation ≤ p.gateway.generationAt t.session t.member
  /-- An attempt that has yet to ask for a permit has no ticket. -/
  fresh : ∀ t ∈ p.ledger.tickets, ∀ waiting, p.gateway.Awaits t waiting →
    waiting ≠ .authorizeHandler ∧ waiting ≠ .authorized

variable {maximum : ℕ} {p : SnapshotPermits} {g' : GatewayState} {i j : ℕ}

theorem Tracked.drop (h : p.Tracked maximum) (leaving : Ticket → Bool) :
    Tracked maximum { p with ledger := p.ledger.drop leaving } where
  orderly := h.orderly
  balanced := h.balanced.drop leaving
  awaiting := fun t => Ledger.awaiting_drop.mem_iff.trans (h.awaiting t)
  awaitingDistinct := Ledger.awaiting_drop.nodup_iff.mpr h.awaitingDistinct
  running := h.running
  runningDistinct := h.runningDistinct
  dated := fun t ht => h.dated t (Ledger.tickets_drop.mem_iff.mp ht)
  fresh := fun t ht => h.fresh t (Ledger.tickets_drop.mem_iff.mp ht)

theorem Tracked.rests (h : p.Tracked maximum) (hrests : GatewayState.Rests p.gateway g') :
    Tracked maximum ⟨g', p.ledger⟩ where
  orderly := h.orderly.rests hrests
  balanced := h.balanced
  awaiting := fun t => (h.awaiting t).trans hrests.awaits.symm
  awaitingDistinct := h.awaitingDistinct
  running := fun t => (h.running t).trans (exists_congr fun _ => hrests.awaits.symm)
  runningDistinct := h.runningDistinct
  dated := fun t ht => Nat.le_trans (h.dated t ht) (hrests.generation t.session t.member)
  fresh := fun t ht waiting hwaits => h.fresh t ht waiting (hrests.awaits.mp hwaits)

/-- An attempt begins, of a generation that no ticket has. -/
theorem Tracked.begins (h : p.Tracked maximum) (horderly : g'.Orderly)
    (hpending : g'.pendingAt i j =
      p.gateway.pendingAt i j ++ [⟨p.gateway.generationAt i j + 1, .authorizeHandler⟩])
    (hspares : GatewayState.Spares p.gateway g' i j) : Tracked maximum ⟨g', p.ledger⟩ := by
  have hawaits : ∀ t waiting, waiting ≠ .authorizeHandler →
      (g'.Awaits t waiting ↔ p.gateway.Awaits t waiting) := by
    intro t waiting hwaiting
    rw [GatewayState.awaits_begins hpending hspares]
    exact ⟨fun hcases => hcases.resolve_right fun hnew => hwaiting hnew.2, .inl⟩
  refine ⟨horderly, h.balanced, ?_, h.awaitingDistinct, ?_, h.runningDistinct, ?_, ?_⟩
  · intro t
    exact (h.awaiting t).trans (hawaits t .permit (by simp)).symm
  · intro t
    exact (h.running t).trans (exists_congr fun boundary => (hawaits t _ (by simp)).symm)
  · intro t ht
    exact Nat.le_trans (h.dated t ht) (hspares.generation t.session t.member)
  · intro t ht waiting hwaits
    rcases (GatewayState.awaits_begins hpending hspares).mp hwaits with hold | ⟨rfl, -⟩
    · exact h.fresh t ht waiting hold
    · exact absurd (h.dated _ ht) (Nat.not_succ_le_self _)

/-- An attempt goes on, with what the ledger makes of its ticket. -/
theorem Tracked.proceeds {attempt : Attempt} {index : ℕ} {suspended : Option Await}
    {l : Ledger Ticket} (h : p.Tracked maximum) (horderly : g'.Orderly)
    (hindex : (p.gateway.pendingAt i j)[index]? = some attempt)
    (hpending : g'.pendingAt i j = (p.gateway.pendingAt i j).eraseIdx index ++
      suspended.toList.map (Attempt.mk attempt.generation))
    (hnext : ∀ waiting ∈ suspended, ServerSubscription.Follows attempt.waiting waiting)
    (hspares : GatewayState.Spares p.gateway g' i j)
    (hbalanced : l.Balanced maximum [])
    (hawaiting : ∀ t, t ∈ l.awaiting ↔ t ∈ p.ledger.awaiting ∧ t ≠ ⟨i, j, attempt.generation⟩ ∨
      t = ⟨i, j, attempt.generation⟩ ∧ suspended = some .permit)
    (hawaitingDistinct : l.awaiting.Nodup)
    (hrunning : ∀ t, t ∈ l.running ↔ t ∈ p.ledger.running ∧ t ≠ ⟨i, j, attempt.generation⟩ ∨
      t = ⟨i, j, attempt.generation⟩ ∧ ∃ boundary, suspended = some (.snapshotHandler boundary))
    (hrunningDistinct : l.running.Nodup)
    (htickets : ∀ t ∈ l.tickets, t ∈ p.ledger.tickets ∨
      t = ⟨i, j, attempt.generation⟩ ∧ suspended = some .permit) :
    Tracked maximum ⟨g', l⟩ := by
  have hawaits : ∀ t waiting, g'.Awaits t waiting ↔
      p.gateway.Awaits t waiting ∧ t ≠ ⟨i, j, attempt.generation⟩ ∨
        t = ⟨i, j, attempt.generation⟩ ∧ suspended = some waiting := fun t waiting =>
    GatewayState.awaits_proceeds h.orderly hindex hpending hspares
  have hwaited : p.gateway.Awaits ⟨i, j, attempt.generation⟩ attempt.waiting :=
    List.mem_of_getElem? hindex
  refine ⟨horderly, hbalanced, ?_, hawaitingDistinct, ?_, hrunningDistinct, ?_, ?_⟩
  · intro t
    rw [hawaits, hawaiting, h.awaiting]
  · intro t
    rw [hrunning, h.running]
    simp only [hawaits, exists_or, exists_and_right, exists_and_left]
  · intro t ht
    rcases htickets t ht with hold | ⟨rfl, -⟩
    · exact Nat.le_trans (h.dated t hold) (hspares.generation t.session t.member)
    · exact Nat.le_trans (h.orderly.dated i j attempt (List.mem_of_getElem? hindex))
        (hspares.generation i j)
  · intro t ht waiting hwaits
    rcases (hawaits t waiting).mp hwaits with ⟨hold, hother⟩ | ⟨rfl, hsuspended⟩
    · rcases htickets t ht with hknown | ⟨hsame, -⟩
      · exact h.fresh t hknown waiting hold
      · exact absurd hsame hother
    · rcases htickets _ ht with hknown | ⟨-, hpermit⟩
      · have hearly := h.fresh _ hknown _ hwaited
        have hfollows := hnext waiting hsuspended
        generalize attempt.waiting = before at hearly hfollows
        cases hfollows with
        | authorized => exact absurd rfl hearly.1
        | permit => exact absurd rfl hearly.2
        | rechecked | snapshotHandler | recheckHandler => simp
      · rw [hsuspended] at hpermit
        obtain rfl : waiting = .permit := Option.some.inj hpermit
        simp

theorem Tracked.aborted (h : p.Tracked maximum) : p.aborted.Tracked maximum := h.drop _

section Stretches

variable {attempt : Attempt} {index : ℕ} {suspended : Option Await}
  (h : p.Tracked maximum) (horderly : g'.Orderly)
  (hindex : (p.gateway.pendingAt i j)[index]? = some attempt)
  (hpending : g'.pendingAt i j = (p.gateway.pendingAt i j).eraseIdx index ++
    suspended.toList.map (Attempt.mk attempt.generation))
  (hnext : ∀ waiting ∈ suspended, ServerSubscription.Follows attempt.waiting waiting)
  (hspares : GatewayState.Spares p.gateway g' i j)

include h hindex

/-- Only an attempt that waits at the semaphore has a request to be answered. -/
theorem Tracked.not_awaiting (hwaiting : attempt.waiting ≠ .permit) :
    ⟨i, j, attempt.generation⟩ ∉ p.ledger.awaiting := by
  intro hmem
  have hwaits : p.gateway.Awaits ⟨i, j, attempt.generation⟩ .permit := (h.awaiting _).mp hmem
  exact hwaiting (h.orderly.unique (List.mem_of_getElem? hindex) hwaits)

/-- Only one that waits for its handler runs. -/
theorem Tracked.not_running (hwaiting : ∀ boundary, attempt.waiting ≠ .snapshotHandler boundary) :
    ⟨i, j, attempt.generation⟩ ∉ p.ledger.running := by
  intro hmem
  obtain ⟨boundary, hwaits⟩ := (h.running _).mp hmem
  exact hwaiting boundary (h.orderly.unique (List.mem_of_getElem? hindex) hwaits)

include horderly hpending hnext hspares

/-- An attempt that neither waits at the semaphore nor comes to it. -/
theorem Tracked.passes (hpermit : attempt.waiting ≠ .permit)
    (hhandler : ∀ boundary, attempt.waiting ≠ .snapshotHandler boundary)
    (hunasked : suspended ≠ some .permit) : Tracked maximum ⟨g', p.ledger⟩ := by
  have hwaiting := h.not_awaiting hindex hpermit
  have hrunning := h.not_running hindex hhandler
  refine h.proceeds horderly hindex hpending hnext hspares h.balanced ?_ h.awaitingDistinct ?_
    h.runningDistinct fun t ht => .inl ht
  · intro t
    constructor
    · intro ht
      exact .inl ⟨ht, fun hsame => hwaiting (hsame ▸ ht)⟩
    · rintro (⟨ht, -⟩ | ⟨-, hasked⟩)
      · exact ht
      · exact absurd hasked hunasked
  · intro t
    constructor
    · intro ht
      exact .inl ⟨ht, fun hsame => hrunning (hsame ▸ ht)⟩
    · rintro (⟨ht, -⟩ | ⟨-, boundary, hcalls⟩)
      · exact ht
      · have hfollows := hnext _ hcalls
        generalize attempt.waiting = before at hpermit hfollows
        cases hfollows
        exact absurd rfl hpermit

/-- An attempt that comes to the semaphore asks for a permit. -/
theorem Tracked.requested (hauthorized : attempt.waiting = .authorized) (late : Bool) :
    Tracked maximum ⟨g', SnapshotPermits.requested g' late ⟨i, j, attempt.generation⟩ p.ledger⟩ := by
  have hpermit : attempt.waiting ≠ .permit := by rw [hauthorized]; simp
  have hhandler : ∀ boundary, attempt.waiting ≠ .snapshotHandler boundary := by
    rw [hauthorized]
    simp
  have hawaits : g'.Awaits ⟨i, j, attempt.generation⟩ .permit ↔ suspended = some .permit := by
    rw [GatewayState.awaits_proceeds h.orderly hindex hpending hspares]
    simp
  unfold SnapshotPermits.requested
  split
  · case isTrue hcomes =>
      have hsuspended : suspended = some .permit := hawaits.mp (List.contains_iff_mem.mp hcomes)
      have hnew : (⟨i, j, attempt.generation⟩ : Ticket) ∉ p.ledger.tickets := by
        intro hknown
        have hwaits : p.gateway.Awaits ⟨i, j, attempt.generation⟩ attempt.waiting :=
          List.mem_of_getElem? hindex
        exact (h.fresh _ hknown _ hwaits).2 hauthorized
      have hwaiting := h.not_awaiting hindex hpermit
      have hrunning := h.not_running hindex hhandler
      apply h.proceeds horderly hindex hpending hnext hspares (h.balanced.request hnew)
      · intro t
        rw [Ledger.awaiting_request.mem_iff, List.mem_cons]
        constructor
        · rintro (rfl | ht)
          · exact .inr ⟨rfl, hsuspended⟩
          · exact .inl ⟨ht, fun hsame => hwaiting (hsame ▸ ht)⟩
        · rintro (⟨ht, -⟩ | ⟨rfl, -⟩)
          · exact .inr ht
          · exact .inl rfl
      · exact Ledger.awaiting_request.nodup_iff.mpr
          (List.nodup_cons.mpr ⟨hwaiting, h.awaitingDistinct⟩)
      · intro t
        rw [Ledger.running_request]
        constructor
        · intro ht
          exact .inl ⟨ht, fun hsame => hrunning (hsame ▸ ht)⟩
        · rintro (⟨ht, -⟩ | ⟨-, boundary, hcalls⟩)
          · exact ht
          · rw [hsuspended] at hcalls
            cases hcalls
      · rw [Ledger.running_request]
        exact h.runningDistinct
      · intro t ht
        rcases List.mem_cons.mp (Ledger.tickets_request.mem_iff.mp ht) with rfl | hold
        · exact .inr ⟨rfl, hsuspended⟩
        · exact .inl hold
  · case isFalse hgone =>
      apply h.passes horderly hindex hpending hnext hspares hpermit hhandler
      intro hsuspended
      exact hgone (List.contains_iff_mem.mpr (hawaits.mpr hsuspended))

/-- An attempt whose handler has settled releases its permit. -/
theorem Tracked.finishes {boundary : Option BoundaryId}
    (hhandler : attempt.waiting = .snapshotHandler boundary) :
    Tracked maximum ⟨g', p.ledger.finish ⟨i, j, attempt.generation⟩⟩ := by
  have hpermit : attempt.waiting ≠ .permit := by rw [hhandler]; simp
  have hwaiting := h.not_awaiting hindex hpermit
  have hrunning : (⟨i, j, attempt.generation⟩ : Ticket) ∈ p.ledger.running := by
    refine (h.running _).mpr ⟨boundary, ?_⟩
    rw [← hhandler]
    exact List.mem_of_getElem? hindex
  have hnone : ∀ waiting, suspended = some waiting →
      waiting ≠ .permit ∧ ∀ boundary, waiting ≠ .snapshotHandler boundary := by
    intro waiting hsuspended
    have hfollows := hnext waiting hsuspended
    rw [hhandler] at hfollows
    cases hfollows
    simp
  apply h.proceeds horderly hindex hpending hnext hspares (h.balanced.finish hrunning)
  · intro t
    rw [Ledger.awaiting_finish.mem_iff]
    constructor
    · intro ht
      exact .inl ⟨ht, fun hsame => hwaiting (hsame ▸ ht)⟩
    · rintro (⟨ht, -⟩ | ⟨-, hasked⟩)
      · exact ht
      · exact absurd rfl (hnone _ hasked).1
  · exact Ledger.awaiting_finish.nodup_iff.mpr h.awaitingDistinct
  · intro t
    rw [Ledger.running_finish, h.runningDistinct.mem_erase_iff]
    constructor
    · rintro ⟨hother, ht⟩
      exact .inl ⟨ht, hother⟩
    · rintro (⟨ht, hother⟩ | ⟨-, boundary', hcalls⟩)
      · exact ⟨hother, ht⟩
      · exact absurd rfl ((hnone _ hcalls).2 boundary')
  · rw [Ledger.running_finish]
    exact h.runningDistinct.erase _
  · intro t ht
    exact .inl (Ledger.tickets_finish.mem_iff.mp ht)

end Stretches

theorem Tracked.stretched {limits : GatewayLimits} {input : ServerInput} {late : Bool}
    (h : p.Tracked maximum) : (p.stretched limits i j input late).Tracked maximum := by
  obtain ⟨hmoves, hspares⟩ := GatewayState.moves_stretched limits p.gateway i j input
  have horderly := h.orderly.moves hmoves hspares
  have hstill : p.gateway.proceedingAt i j input.step = none →
      Tracked maximum ⟨p.gateway.stretched limits i j input, p.ledger⟩ →
        (p.stretched limits i j input late).Tracked maximum := by
    intro hnone htracked
    unfold SnapshotPermits.stretched
    dsimp only
    rw [hnone]
    exact htracked.aborted
  cases hmoves with
  | rests hnone hrests => exact hstill hnone (h.rests hrests)
  | begins hnone hpending hgeneration => exact hstill hnone (h.begins horderly hpending hspares)
  | proceeds attempt index suspended hproceeding hindex hpending hnext =>
      obtain ⟨generation, waiting⟩ := attempt
      have hpasses : waiting ≠ .permit → (∀ boundary, waiting ≠ .snapshotHandler boundary) →
          suspended ≠ some .permit →
          Tracked maximum ⟨p.gateway.stretched limits i j input, p.ledger⟩ :=
        h.passes horderly hindex hpending hnext hspares
      unfold SnapshotPermits.stretched
      dsimp only
      rw [hproceeding]
      cases waiting with
      | permit => exact h
      | authorized =>
          exact (h.requested horderly hindex hpending hnext hspares rfl late).aborted
      | snapshotHandler boundary =>
          exact (h.finishes horderly hindex hpending hnext hspares rfl).aborted
      | authorizeHandler =>
          apply Tracked.aborted
          apply hpasses (by simp) (by simp)
          intro hasked
          cases hnext _ hasked
      | recheckHandler boundary snapshot =>
          apply Tracked.aborted
          apply hpasses (by simp) (by simp)
          intro hasked
          cases hnext _ hasked
      | rechecked boundary snapshot =>
          apply Tracked.aborted
          apply hpasses (by simp) (by simp)
          intro hasked
          cases hnext _ hasked

/-- An attempt whose request was answered calls its handler, or is done with the semaphore. -/
theorem Tracked.answered {limits : GatewayLimits} {index : ℕ} {readings : Readings}
    {attempt : Attempt} (h : p.Tracked maximum)
    (hproceeding : p.gateway.proceedingAt i j (.resumePermit index true) = some attempt) :
    (p.answered limits index readings ⟨i, j, attempt.generation⟩).Tracked maximum := by
  unfold SnapshotPermits.answered
  split
  · exact h
  · case h_2 t acquired hfound =>
      have hticket := List.find?_some hfound
      obtain rfl : t = ⟨i, j, attempt.generation⟩ := of_decide_eq_true hticket
      have hmem := List.mem_of_find?_eq_some hfound
      apply Tracked.aborted
      obtain ⟨hwaiting, hindex, boundary, hpending⟩ := GatewayState.pendingAt_resumePermit
        limits readings acquired hproceeding
      obtain ⟨hmoves, hspares⟩ := GatewayState.moves_stretched limits p.gateway i j
        ⟨.resumePermit index acquired, readings⟩
      have horderly := h.orderly.moves hmoves hspares
      set goesOn : Bool := decide (attempt.generation = p.gateway.generationAt i j)
      set suspended : Option Await :=
        if acquired && goesOn then some (.snapshotHandler boundary) else none with hsuspended
      have hsuspends : ∀ w, suspended = some w →
          (acquired && goesOn) = true ∧ w = .snapshotHandler boundary := by
        intro w hw
        rw [hsuspended] at hw
        split at hw
        · case isTrue hgoes => exact ⟨hgoes, (Option.some.inj hw).symm⟩
        · cases hw
      set resumed := p.ledger.resume ⟨i, j, attempt.generation⟩ acquired goesOn
      have hawaiting : p.ledger.awaiting.Perm (⟨i, j, attempt.generation⟩ :: resumed.awaiting) :=
        Ledger.awaiting_resume hmem
      have hdistinct := List.nodup_cons.mp (hawaiting.nodup_iff.mp h.awaitingDistinct)
      have hrunning := h.not_running hindex (by rw [hwaiting]; simp)
      have hafter : (p.gateway.stretched limits i j
          ⟨.resumePermit index acquired, readings⟩).pendingAt i j =
            (p.gateway.pendingAt i j).eraseIdx index ++
              suspended.toList.map (Attempt.mk attempt.generation) := by
        rw [hpending, hsuspended]
        split_ifs <;> rfl
      refine h.proceeds horderly hindex hafter ?_ hspares (h.balanced.resume hmem)
        ?_ hdistinct.2 ?_ ?_ ?_
      · intro w hw
        rw [hwaiting, (hsuspends w hw).2]
        exact .snapshotHandler boundary
      · intro t
        rw [hawaiting.mem_iff, List.mem_cons]
        constructor
        · intro ht
          exact .inl ⟨.inr ht, fun hsame => hdistinct.1 (hsame ▸ ht)⟩
        · rintro (⟨rfl | ht, hother⟩ | ⟨-, hasked⟩)
          · exact absurd rfl hother
          · exact ht
          · cases (hsuspends _ hasked).2
      · intro t
        rw [Ledger.running_resume, List.mem_append]
        constructor
        · rintro (ht | hnew)
          · exact .inl ⟨ht, fun hsame => hrunning (hsame ▸ ht)⟩
          · split at hnew
            · case isTrue hgoes =>
                exact .inr ⟨List.mem_singleton.mp hnew, boundary, by rw [hsuspended, if_pos hgoes]⟩
            · cases hnew
        · rintro (⟨ht, -⟩ | ⟨rfl, boundary', hcalls⟩)
          · exact .inl ht
          · right
            rw [if_pos (hsuspends _ hcalls).1]
            exact List.mem_singleton_self _
      · rw [Ledger.running_resume]
        split_ifs
        · exact List.Nodup.append h.runningDistinct (List.nodup_singleton _)
            (by simpa using hrunning)
        · rw [List.append_nil]
          exact h.runningDistinct
      · intro t ht
        exact .inl (Ledger.tickets_resume.mem_iff.mp ht)

theorem Tracked.step {limits : GatewayLimits} (h : p.Tracked maximum) (input : PermitInput) :
    (p.step limits input).Tracked maximum := by
  cases input with
  | gateway input late =>
      cases input with
      | stretch i j input => exact h.stretched
      | connect =>
          exact (h.rests (GatewayState.rests_of_subscription GatewayState.subscription_connect)).aborted
      | subscribe i channel channelVersion source =>
          exact (h.rests GatewayState.rests_subscribed).aborted
      | close i => exact (h.rests GatewayState.rests_closed).aborted
  | resume i j index readings =>
      show (p.resumed limits i j index readings).Tracked maximum
      unfold SnapshotPermits.resumed
      split
      · exact h
      · case h_2 attempt hproceeding => exact h.answered hproceeding
  | deadline ticket => exact h.drop _

/-- Every waiter's attempt is the current one of its subscription. -/
def Current (p : SnapshotPermits) : Prop :=
  ∀ t ∈ p.ledger.semaphore.waiters, p.gateway.generationAt t.session t.member = t.generation

theorem current_aborted (p : SnapshotPermits) : p.aborted.Current := by
  intro t ht
  have hstays := (Ledger.waiters_drop.mp ht).2
  exact not_not.mp (of_decide_eq_false hstays)

theorem Current.step {limits : GatewayLimits} (h : p.Current) (input : PermitInput) :
    (p.step limits input).Current := by
  cases input with
  | gateway input late =>
      cases input with
      | stretch i j input =>
          show (p.stretched limits i j input late).Current
          unfold SnapshotPermits.stretched
          dsimp only
          split
          · exact h
          all_goals exact current_aborted _
      | connect | subscribe | close => exact current_aborted _
  | resume i j index readings =>
      show (p.resumed limits i j index readings).Current
      unfold SnapshotPermits.resumed
      split
      · exact h
      · unfold SnapshotPermits.answered
        split
        · exact h
        · exact current_aborted _
  | deadline ticket =>
      intro t ht
      exact h t (Ledger.waiters_drop.mp ht).1

/-- The attempt of the ticket is at the semaphore, or at its handler. -/
def Occupied (g : GatewayState) (t : Ticket) : Prop :=
  g.Awaits t .permit ∨ ∃ boundary, g.Awaits t (.snapshotHandler boundary)

/-- What holds of the permits between any two stretches. -/
structure Conserved (maximum : ℕ) (p : SnapshotPermits) : Prop where
  /-- Permits free and permits held. -/
  level : p.ledger.semaphore.available + p.ledger.holders.length = maximum
  idle : p.ledger.semaphore.waiters ≠ [] → p.ledger.semaphore.available = 0
  /-- Every permit that was granted is held or was released. -/
  accounted : p.ledger.granted.Perm (p.ledger.released ++ p.ledger.holders)
  grantedOnce : p.ledger.granted.Nodup
  held : ∀ t ∈ p.ledger.holders, Occupied p.gateway t
  /-- Whichever way an attempt has gone, its permit was released once. -/
  releasedOnce : ∀ t ∈ p.ledger.granted, ¬Occupied p.gateway t → p.ledger.released.count t = 1
  /-- An attempt whose wait was aborted or timed out has no permit. -/
  refused : ∀ t ∈ p.ledger.refused, t ∉ p.ledger.granted ∧ t ∉ p.ledger.holders
  waiting : ∀ t ∈ p.ledger.semaphore.waiters, p.gateway.Awaits t .permit ∧
    p.gateway.generationAt t.session t.member = t.generation
  /-- No wakeup is lost. -/
  decided : ∀ t, p.gateway.Awaits t .permit →
    t ∈ p.ledger.semaphore.waiters ∨ ∃ acquired, (t, acquired) ∈ p.ledger.settled

theorem Tracked.conserved (h : p.Tracked maximum) (hcurrent : p.Current) : p.Conserved maximum := by
  have hgranted : p.ledger.granted.Nodup := (List.nodup_append.mp h.balanced.distinct).1
  have hall : (p.ledger.released ++ p.ledger.holders).Nodup :=
    h.balanced.grants.nodup_iff.mp hgranted
  have hheld : ∀ t ∈ p.ledger.holders, Occupied p.gateway t := by
    intro t ht
    rcases List.mem_append.mp ht with hacquired | hrunning
    · obtain ⟨entry, hentry, rfl⟩ := List.mem_map.mp hacquired
      refine .inl ((h.awaiting _).mp (List.mem_append_right _ ?_))
      exact List.mem_map_of_mem (List.mem_filter.mp hentry).1
    · exact .inr ((h.running t).mp hrunning)
  refine ⟨h.balanced.level, h.balanced.idle, h.balanced.grants, hgranted, hheld, ?_, ?_, ?_, ?_⟩
  · intro t ht hgone
    rcases List.mem_append.mp (h.balanced.grants.mem_iff.mp ht) with hreleased | hholder
    · exact List.count_eq_one_of_mem (List.nodup_append.mp hall).1 hreleased
    · exact absurd (hheld t hholder) hgone
  · intro t ht
    have hapart : t ∉ p.ledger.granted := fun hmem =>
      (List.nodup_append.mp h.balanced.distinct).2.2 t hmem t (List.mem_append_left _ ht) rfl
    exact ⟨hapart, fun hholder =>
      hapart (h.balanced.grants.mem_iff.mpr (List.mem_append_right _ hholder))⟩
  · intro t ht
    exact ⟨(h.awaiting t).mp (List.mem_append_left _ ht), hcurrent t ht⟩
  · intro t ht
    rcases List.mem_append.mp ((h.awaiting t).mpr ht) with hwaiting | hsettled
    · exact .inl hwaiting
    · obtain ⟨entry, hentry, rfl⟩ := List.mem_map.mp hsettled
      exact .inr ⟨entry.2, hentry⟩

/-- In every run of any number of sessions and subscriptions the permits are conserved. -/
theorem permitsConserved_after (limits : GatewayLimits) (permits : ℕ) (inputs : List PermitInput) :
    ((machine limits).after (initial limits permits) inputs).Conserved permits := by
  have hinitial : (initial limits permits).Tracked permits ∧ (initial limits permits).Current := by
    refine ⟨⟨⟨fun i j => ?_, fun i j => ?_⟩, Ledger.initial_balanced permits, fun t => ?_, List.nodup_nil,
      fun t => ?_, List.nodup_nil, List.forall_mem_nil _, List.forall_mem_nil _⟩, List.forall_mem_nil _⟩
    · exact List.nodup_nil
    · exact List.forall_mem_nil _
    · exact ⟨fun ht => absurd ht List.not_mem_nil, fun ht => absurd ht List.not_mem_nil⟩
    · exact ⟨fun ht => absurd ht List.not_mem_nil, fun ⟨_, ht⟩ => absurd ht List.not_mem_nil⟩
  have hafter := Machine.invariant (m := machine limits)
    (P := fun p => p.Tracked permits ∧ p.Current)
    (fun p input ⟨htracked, hcurrent⟩ _ => ⟨htracked.step input, hcurrent.step input⟩) hinitial
    ((machine limits).admits_of_allowed (fun _ _ => trivial) _ inputs)
  exact hafter.1.conserved hafter.2

end SnapshotPermits

end StreamOtter
