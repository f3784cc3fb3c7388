import StreamOtter.ServerResumptions
import StreamOtter.SyncProtocol

/-!
# Superseded attempts

An attempt whose generation is no longer the current one leaves the subscription as it
is, wherever it is resumed, as long as every resumption on the word of an earlier
`#authorize` is fresh.  One that is not revives a subscription that has ended.
-/

namespace StreamOtter

namespace ServerSubscription

/-- Nothing changed that a superseded attempt must leave alone. -/
structure Untouched (s s' : ServerSubscription) : Prop where
  phase : s'.phase = s.phase
  epoch : s'.epoch = s.epoch
  routed : s'.routed = s.routed
  budget : s'.budget = s.budget
  trace : s'.trace = s.trace

instance (s s' : ServerSubscription) : Decidable (s.Untouched s') :=
  decidable_of_iff (s'.phase = s.phase ∧ s'.epoch = s.epoch ∧ s'.routed = s.routed ∧
    s'.budget = s.budget ∧ s'.trace = s.trace)
    ⟨fun ⟨hphase, hepoch, hrouted, hbudget, htrace⟩ => ⟨hphase, hepoch, hrouted, hbudget, htrace⟩,
      fun h => ⟨h.phase, h.epoch, h.routed, h.budget, h.trace⟩⟩

/-- The subscription was failed or disposed, or waits for its source. -/
def Interrupted (s : ServerSubscription) : Prop :=
  s.phase = .terminated ∨ s.phase = .waitingSource

/-- In the last step of a run, an attempt that was superseded before, in particular one
that was waiting when the subscription was interrupted, changes nothing. -/
structure SupersededInert (m : Machine ServerSubscription ServerInput) (s : ServerSubscription)
    (inputs : List ServerInput) (input : ServerInput) : Prop where
  superseded :
    ∀ attempt ∈ (m.after s inputs).resumed input.step,
      attempt.generation ≠ (m.after s inputs).generation →
        (m.after s inputs).Untouched (m.after s (inputs ++ [input]))
  interrupted :
    ∀ earlier later, inputs = earlier ++ later → (m.after s earlier).Interrupted →
      ∀ attempt ∈ (m.after s inputs).resumed input.step,
        attempt.generation ∈ (m.after s earlier).pending.map Attempt.generation →
          (m.after s inputs).Untouched (m.after s (inputs ++ [input]))

/-- The interleavings in which every resumption on the word of `#authorize` is fresh. -/
def freshMachine (config : ServerConfig) : Machine ServerSubscription ServerInput where
  step := step config
  allowed := fun s input => s.Fresh input.step

instance (config : ServerConfig) (s : ServerSubscription) (input : ServerInput) :
    Decidable ((freshMachine config).allowed s input) :=
  inferInstanceAs (Decidable (s.Fresh input.step))

instance (config : ServerConfig) (s : ServerSubscription) (input : ServerInput) :
    Decidable ((machine config).allowed s input) :=
  inferInstanceAs (Decidable True)

variable {s : ServerSubscription} {config : ServerConfig} {readings : Readings}

/-- At most an attempt has been taken out of the pending ones. -/
def Unmoved (s s' : ServerSubscription) : Prop := s' = s ∨ ∃ index, s' = s.taken index

theorem Unmoved.untouched {s' : ServerSubscription} (h : s.Unmoved s') : s.Untouched s' := by
  rcases h with rfl | ⟨index, rfl⟩
  · exact ⟨rfl, rfl, rfl, rfl, rfl⟩
  · exact ⟨rfl, rfl, rfl, rfl, rfl⟩

/-- The code compares generations after both handler calls and after the permit. -/
theorem superseded_step {action : ServerStep} {attempt : Attempt} (hfresh : s.Fresh action)
    (hresumed : attempt ∈ s.resumed action) (hstale : attempt.generation ≠ s.generation) :
    s.Unmoved (s.step config ⟨action, readings⟩) := by
  have hunresumed : ∀ index (continuation : Attempt →
      Option (ServerSubscription → ServerSubscription)), attempt ∈ s.pending[index]? →
      (∀ proceed, continuation attempt = some proceed → proceed (s.taken index) = s.taken index) →
      s.Unmoved (s.resume index continuation) := by
    intro index continuation hindex hunchanged
    apply resume_induction (P := s.Unmoved) (.inl rfl)
    intro other proceed hother hproceed
    obtain rfl : attempt = other := Option.some.inj (hindex.symm.trans hother)
    exact .inr ⟨index, hunchanged proceed hproceed⟩
  cases action with
  | resumeAuthorize index outcome revoked =>
      apply hunresumed index _ hresumed
      intro proceed hproceed
      obtain ⟨next, -, rfl⟩ := resumeAuthorize_eq_some hproceed
      have hunchanged : (s.taken index).afterAuthorizeHandler config.limits readings
          attempt.generation outcome revoked = (s.taken index, false) := if_pos hstale
      simp only [hunchanged, awaitAuthorized]
      rfl
  | resumeAuthorized index =>
      apply hunresumed index _ hresumed
      intro proceed hproceed
      have htrusting : attempt.waiting.afterAuthorize = true := by
        rcases resumeAuthorized_eq_some hproceed with ⟨hwaiting, -⟩ | ⟨_, _, hwaiting, -⟩ <;>
          rw [hwaiting] <;> rfl
      exact absurd (hfresh attempt hresumed htrusting) hstale
  | resumePermit index acquired =>
      apply hunresumed index _ hresumed
      intro proceed hproceed
      obtain ⟨-, rfl⟩ := resumePermit_eq_some hproceed
      exact if_pos hstale
  | resumeSnapshot index outcome =>
      apply hunresumed index _ hresumed
      intro proceed hproceed
      obtain ⟨boundary, -, rfl⟩ := resumeSnapshot_eq_some hproceed
      exact if_pos hstale
  | _ => simp [resumed] at hresumed

/-- No attempt that waits in an interrupted subscription is current. -/
theorem Steady.interrupted {extra : List ℕ} {floor : ℕ} (h : s.Steady extra floor)
    (hinterrupted : s.Interrupted) : ∀ attempt ∈ s.pending, attempt.generation < s.generation := by
  apply h.spent
  · rcases hinterrupted with hphase | hphase <;> rw [hphase] <;> simp
  · rcases hinterrupted with hphase | hphase <;> rw [hphase] <;> simp

theorem steady_after {extra : List ℕ} {floor : ℕ} {inputs : List ServerInput}
    (h : s.Steady extra floor) (hrun : (freshMachine config).Admits s inputs) :
    ((freshMachine config).after s inputs).Steady extra floor :=
  Machine.invariant (fun _ input h hfresh => h.step input.step hfresh) h hrun

/-- Generations only grow in a fresh run. -/
theorem generation_le_after {extra : List ℕ} {floor : ℕ} {inputs : List ServerInput}
    (h : s.Steady extra floor) (hrun : (freshMachine config).Admits s inputs) :
    s.generation ≤ ((freshMachine config).after s inputs).generation := by
  have hreached : s.Steady extra s.generation :=
    ⟨h.attempts, h.jobs, h.distinct, h.fits, h.jobsFit, h.flying, h.queued, h.holds, Nat.le_refl _⟩
  exact (steady_after hreached hrun).reached

/-- In every fresh run superseded attempts are inert. -/
theorem supersededInert_after (config : ServerConfig) (budget : SubscriptionBudget)
    (source : SourceRuntime) (inputs : List ServerInput) (input : ServerInput)
    (hrun : (freshMachine config).Admits (initial budget source) (inputs ++ [input])) :
    SupersededInert (freshMachine config) (initial budget source) inputs input := by
  obtain ⟨hinputs, hfresh, -⟩ := ((freshMachine config).admits_append _ _ _).mp hrun
  have hlast : ∀ attempt ∈ ((freshMachine config).after (initial budget source) inputs).resumed
      input.step, attempt.generation ≠
        ((freshMachine config).after (initial budget source) inputs).generation →
      ((freshMachine config).after (initial budget source) inputs).Untouched
        ((freshMachine config).after (initial budget source) (inputs ++ [input])) := by
    intro attempt hresumed hstale
    rw [Machine.after_concat]
    exact (superseded_step hfresh hresumed hstale).untouched
  constructor
  · exact hlast
  · intro earlier later hsplit hinterrupted attempt hresumed hwaiting
    subst hsplit
    obtain ⟨hearlier, hlater⟩ := ((freshMachine config).admits_append _ _ _).mp hinputs
    have hsteady := steady_after (initial_steady budget source) hearlier
    have hgrown := generation_le_after hsteady hlater
    rw [← Machine.after_append] at hgrown
    obtain ⟨old, hold, hsame⟩ := List.mem_map.mp hwaiting
    have hspent := hsteady.interrupted hinterrupted old hold
    apply hlast attempt hresumed
    rw [← hsame]
    exact Nat.ne_of_lt (Nat.lt_of_lt_of_le hspent hgrown)

section Sample

/-- A subscription revoked while its `authorize` handler runs. -/
def revokedRun : List ServerInput :=
  [.start, .callHandler 0, .revoke].map (⟨·, prompt⟩)

theorem supersededInert_revokedRun :
    SupersededInert (freshMachine sampleConfig) (initial sampleBudget sampleSource) revokedRun
      ⟨.resumeAuthorize 0 .allowed false, prompt⟩ :=
  supersededInert_after sampleConfig sampleBudget sampleSource revokedRun _ (by decide)

/-- A revocation between the return of `#authorize` and the resumption of its caller:
the failed subscription enters the routing index again and announces a new epoch. -/
theorem revoked_attempt_revives :
    ¬ ∀ (config : ServerConfig) (budget : SubscriptionBudget) (source : SourceRuntime)
      (inputs : List ServerInput) (input : ServerInput),
      (machine config).Admits (initial budget source) (inputs ++ [input]) →
        SupersededInert (machine config) (initial budget source) inputs input := by
  intro hclaim
  have hinert := hclaim sampleConfig sampleBudget sampleSource
    ([.start, .callHandler 0, .resumeAuthorize 0 .allowed false, .revoke].map (⟨·, prompt⟩))
    ⟨.resumeAuthorized 0, prompt⟩ (by decide)
  have huntouched := hinert.superseded ⟨1, .authorized⟩ (by decide) (by decide)
  revert huntouched
  decide

end Sample

end ServerSubscription

end StreamOtter
