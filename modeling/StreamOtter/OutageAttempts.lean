import StreamOtter.ServerCourses
import StreamOtter.SyncProtocol

/-!
# Attempts that an outage takes away

A subscription gives up after a number of attempts.  An attempt that finds its source
unavailable when `#authorize` has returned is taken back, so waiting does not count.  One that
an outage cuts short while it runs stays counted; without such outages every attempt counted
is one that failed for a reason of its own.
-/

namespace StreamOtter

/-- The attempts begun since the subscription was last live or resynchronized, by their
generations, and the attempts that an outage postponed or cut short. -/
structure AttemptTally where
  begun : List ℕ
  postponed : List ℕ
  cut : List ℕ
  deriving DecidableEq, Repr

namespace AttemptTally

def empty : AttemptTally := ⟨[], [], []⟩

/-- The attempts begun and not postponed. -/
def kept (tally : AttemptTally) : List ℕ :=
  tally.begun.filter fun generation => !tally.postponed.contains generation

/-- The attempts begun and neither postponed nor cut short. -/
def counted (tally : AttemptTally) : List ℕ :=
  tally.kept.filter fun generation => !tally.cut.contains generation

end AttemptTally

/-- Without those in another list, a list of distinct elements loses at most as many. -/
theorem length_le_filter_contains {xs ys : List ℕ} (hxs : xs.Nodup) :
    xs.length ≤ (xs.filter fun x => !ys.contains x).length + ys.length := by
  have hlost : (xs.filter fun x => !!ys.contains x).length ≤ ys.length := by
    apply List.Subperm.length_le
    apply List.subperm_of_subset (hxs.filter _)
    intro x hx
    simpa using (List.mem_filter.mp hx).2
  have hsplit := List.length_eq_length_filter_add (l := xs) fun x => !ys.contains x
  omega

def Phase.synchronizing : Phase → Bool
  | .authorizing | .capturing | .snapshotSent | .draining => true
  | _ => false

namespace ServerSubscription

/-- The attempts that a step began. -/
def begunBy (s s' : ServerSubscription) : List ℕ :=
  (s'.pending.map Attempt.generation).filter (s.generation < ·)

/-- The attempts that end because the source becomes unavailable. -/
def cutBy (s : ServerSubscription) : ServerStep → List ℕ
  | .setSourceStatus status _ =>
      if s.registered && s.source.ready && status ≠ .healthy && s.phase.synchronizing then
        [s.generation]
      else []
  | _ => []

/-- The subscription was live or was explicitly resynchronized. -/
def afresh (s s' : ServerSubscription) (action : ServerStep) : Bool :=
  (s.added s').any Observation.isLive || s.resynced s' action

end ServerSubscription

/-- The tally after a step. -/
def AttemptTally.next (s s' : ServerSubscription) (action : ServerStep) (tally : AttemptTally) :
    AttemptTally :=
  let earlier := if s.afresh s' action then .empty else tally
  { begun := earlier.begun ++ s.begunBy s'
    postponed := earlier.postponed ++ s.postponedBy action
    cut := earlier.cut ++ s.cutBy action }

/-- A subscription with the tally of its run. -/
structure Tallied where
  subscription : ServerSubscription
  tally : AttemptTally
  deriving DecidableEq, Repr

namespace ServerSubscription

variable {s s' t : ServerSubscription} {A : Observation → Prop} {maximum : ℤ} {action : ServerStep}

/-- No attempt is of a generation to come. -/
def Dated (s : ServerSubscription) : Prop :=
  ∀ attempt ∈ s.pending, attempt.generation ≤ s.generation

theorem begunBy_eq_nil (hdated : s.Dated) (hpending : ∀ attempt ∈ s'.pending,
    attempt ∈ s.pending ∨ attempt.generation ≤ s.generation) : s.begunBy s' = [] := by
  apply List.filter_eq_nil_iff.mpr
  intro generation hgeneration
  obtain ⟨attempt, hattempt, rfl⟩ := List.mem_map.mp hgeneration
  have hle : attempt.generation ≤ s.generation := by
    rcases hpending attempt hattempt with hold | hle
    · exact hdated attempt hold
    · exact hle
  simpa using hle

/-- What a step does to the counter, the tally and the attempts. -/
structure Tallies (maximum : ℤ) (action : ServerStep) (s s' : ServerSubscription) : Prop where
  generation : s.generation ≤ s'.generation
  dated : s'.Dated
  begun : s.begunBy s' = [] ∨ s.begunBy s' = [s.generation + 1] ∧ s.postponedBy action = []
  /-- The counter starts again, or goes on. -/
  attempts :
    s'.attempts ≤ (s.begunBy s').length ∨
      s.afresh s' action = false ∧
        s'.attempts + (s.postponedBy action).length ≤ s.attempts + (s.begunBy s').length
  givesUp : ∀ o ∈ s.added s', o.givesUp = true → maximum ≤ s'.attempts

theorem Stretch.tallies (h : Stretch maximum s s') (hdated : s.Dated)
    (hpostponed : s.postponedBy action = []) (hresynced : s.resynced s' action = false) :
    Tallies maximum action s s' := by
  obtain ⟨new, htrace, hcounter, hgives⟩ := h.trace
  have hadded : s.added s' = new := added_eq htrace
  have hbegun : s.begunBy s' = [] := by
    apply begunBy_eq_nil hdated
    intro attempt hattempt
    rw [h.pending] at hattempt
    exact .inl hattempt
  refine ⟨h.generation, ?_, .inl hbegun, ?_, ?_⟩
  · intro attempt hattempt
    rw [h.pending] at hattempt
    exact Nat.le_trans (hdated attempt hattempt) h.generation
  · rw [hbegun, hpostponed]
    rcases hcounter with ⟨hsame, hlive⟩ | hzero
    · have hafresh : s.afresh s' action = false := by
        rw [afresh, hadded, hresynced, Bool.or_false]
        simpa using hlive
      exact .inr ⟨hafresh, by rw [hsame]⟩
    · exact .inl (by rw [hzero]; rfl)
  · rw [hadded]
    exact hgives

theorem Begins.tallies (h : Begins t s') (hdated : s.Dated) (hpending : t.pending = s.pending)
    (hgeneration : t.generation = s.generation)
    (htrace : ∃ new, t.trace = s.trace ++ new ∧ ∀ o ∈ new, o.isLive = false ∧ o.givesUp = false)
    (hpostponed : s.postponedBy action = [])
    (hattempts : t.attempts = 0 ∨ t.attempts = s.attempts ∧ s.resynced s' action = false) :
    Tallies maximum action s s' := by
  obtain ⟨new, hbefore, hnew⟩ := htrace
  obtain ⟨new', hafter, hnew'⟩ := h.trace
  have hplain : ∀ o ∈ new ++ new', o.isLive = false ∧ o.givesUp = false := by
    intro o ho
    rcases List.mem_append.mp ho with hfirst | hsecond
    · exact hnew o hfirst
    · exact hnew' o hsecond
  have hadded : s.added s' = new ++ new' :=
    added_eq (by rw [hafter, hbefore, List.append_assoc])
  have hnext : s.generation + 1 ≤ s'.generation := hgeneration ▸ h.generation
  have hsuspended : s'.pending = s.pending ++ [⟨s.generation + 1, .authorizeHandler⟩] := by
    rw [h.pending, hpending, hgeneration]
  have hbegun : s.begunBy s' = [s.generation + 1] := by
    have hold : s.begunBy s = [] := begunBy_eq_nil hdated fun attempt hattempt => .inl hattempt
    rw [begunBy] at hold ⊢
    rw [hsuspended, List.map_append, List.filter_append, hold]
    simp
  refine ⟨Nat.le_trans (Nat.le_succ _) hnext, ?_, .inr ⟨hbegun, hpostponed⟩, ?_, ?_⟩
  · intro attempt hattempt
    rw [hsuspended] at hattempt
    rcases List.mem_append.mp hattempt with hold | hsame
    · exact Nat.le_trans (hdated attempt hold) (Nat.le_trans (Nat.le_succ _) hnext)
    · rw [List.mem_singleton.mp hsame]
      exact hnext
  · rw [hbegun, hpostponed]
    rcases hattempts with hzero | ⟨hsame, hresynced⟩
    · exact .inl (by rw [h.attempts, hzero]; exact Int.le_refl _)
    · have hafresh : s.afresh s' action = false := by
        rw [afresh, hadded, hresynced, Bool.or_false]
        exact List.any_eq_false.mpr fun o ho => by simp [hplain o ho]
      exact .inr ⟨hafresh, by rw [h.attempts, hsame, List.length_nil, List.length_singleton]; omega⟩
  · intro o ho hgives
    rw [hadded] at ho
    rw [(hplain o ho).2] at hgives
    cases hgives

/-- What a resumed attempt does, by the number by which it changes the counter. -/
theorem Proceeds.tallies {change : ℤ} {next : Await → Prop} {attempt : Attempt} {index : ℕ}
    (h : Proceeds A change attempt.generation next (s.taken index) s') (hdated : s.Dated)
    (hindex : s.pending[index]? = some attempt) (hquiet : ∀ o, A o → o.isLive = false)
    (hgives : ∀ o, A o → o.givesUp = true → maximum ≤ s'.attempts)
    (hchange : change + (s.postponedBy action).length ≤ 0)
    (hresynced : s.resynced s' action = false) :
    Tallies maximum action s s' := by
  obtain ⟨suspended, hpending, -⟩ := h.pending
  obtain ⟨new, htrace, hnew⟩ := h.trace
  have hadded : s.added s' = new := added_eq htrace
  have hcurrent : attempt.generation ≤ s.generation := hdated attempt (List.mem_of_getElem? hindex)
  have hwithin : ∀ other ∈ s'.pending, other ∈ s.pending ∨ other.generation ≤ s.generation := by
    intro other hother
    rw [hpending] at hother
    rcases List.mem_append.mp hother with hold | hagain
    · exact .inl (List.mem_of_mem_eraseIdx hold)
    · obtain ⟨waiting, -, rfl⟩ := List.mem_map.mp hagain
      exact .inr hcurrent
  have hbegun : s.begunBy s' = [] := begunBy_eq_nil hdated hwithin
  refine ⟨h.generation, ?_, .inl hbegun, .inr ⟨?_, ?_⟩, ?_⟩
  · intro other hother
    apply Nat.le_trans _ h.generation
    rcases hwithin other hother with hold | hle
    · exact hdated other hold
    · exact hle
  · rw [afresh, hadded, hresynced, Bool.or_false]
    simpa using fun o ho => hquiet o (hnew o ho)
  · have hcounter : s'.attempts = s.attempts + change := h.attempts
    rw [hbegun, hcounter, List.length_nil]
    omega
  · rw [hadded]
    exact fun o ho => hgives o (hnew o ho)

theorem Course.tallies (h : Course maximum s action s') (hdated : s.Dated) :
    Tallies maximum action s s' := by
  cases h with
  | stretch h hstill hresynced => exact h.tallies hdated (postponedBy_still hstill) hresynced
  | begins t h hstill hpending hgeneration htrace hattempts =>
      exact h.tallies hdated hpending hgeneration htrace (postponedBy_still hstill) hattempts
  | proceeds attempt index hproceeding hindex hpostponed hresynced h =>
      apply h.tallies hdated hindex (fun o ho => ho.1) _ _ hresynced
      · intro o ho hgives
        rw [h.attempts, Int.add_zero]
        exact ho.2 hgives
      · rw [hpostponed]
        exact Int.le_refl 0
  | postponed attempt index hproceeding hindex hpostponed hresynced h =>
      apply h.tallies hdated hindex (fun o ho => ho.1) _ _ hresynced
      · intro o ho hgives
        rw [ho.2] at hgives
        cases hgives
      · rw [hpostponed]
        exact Int.le_refl 0

end ServerSubscription

namespace AttemptTally

variable {tally : AttemptTally}

/-- A tally with some attempts more. -/
theorem kept_append {begun postponed : List ℕ} (cut : List ℕ) (hdistinct : tally.begun.Nodup)
    (hnew : ∀ generation ∈ begun, generation ∉ tally.postponed)
    (hone : begun = [] ∨ postponed = []) :
    tally.kept.length + begun.length ≤
      (AttemptTally.kept ⟨tally.begun ++ begun, tally.postponed ++ postponed, cut⟩).length +
        postponed.length := by
  rcases hone with rfl | rfl
  · have hkept : AttemptTally.kept ⟨tally.begun ++ [], tally.postponed ++ postponed, cut⟩ =
        tally.kept.filter fun generation => !postponed.contains generation := by
      simp only [kept, List.append_nil, List.filter_filter, List.contains_append, Bool.not_or,
        Bool.and_comm]
    rw [hkept, List.length_nil, Nat.add_zero]
    exact length_le_filter_contains (hdistinct.filter _)
  · have hall : begun.filter (fun generation => !tally.postponed.contains generation) = begun := by
      apply List.filter_eq_self.mpr
      intro generation hgeneration
      simpa using hnew generation hgeneration
    simp only [kept, List.append_nil, List.filter_append, hall, List.length_append]
    omega

theorem kept_length_le (hdistinct : tally.begun.Nodup) :
    tally.kept.length ≤ tally.counted.length + tally.cut.length :=
  length_le_filter_contains (hdistinct.filter _)

end AttemptTally

/-- The counter counts no more attempts than were begun and not postponed. -/
structure Tallied.Covered (t : Tallied) : Prop where
  dated : t.subscription.Dated
  distinct : t.tally.begun.Nodup
  begun : ∀ generation ∈ t.tally.begun, generation ≤ t.subscription.generation
  postponed : ∀ generation ∈ t.tally.postponed, generation ≤ t.subscription.generation
  attempts : t.subscription.attempts ≤ t.tally.kept.length

namespace ServerSubscription

theorem postponedBy_le {s : ServerSubscription} (hdated : s.Dated) (action : ServerStep) :
    ∀ generation ∈ s.postponedBy action, generation ≤ s.generation := by
  intro generation hgeneration
  unfold postponedBy at hgeneration
  split at hgeneration
  · case h_1 generation' hproceeding =>
      split at hgeneration
      · cases hgeneration
      · rw [List.mem_singleton.mp hgeneration]
        exact hdated _ (mem_pending_of_proceeding hproceeding)
  · cases hgeneration

/-- The counter after a step, from the tally that the step goes on with. -/
theorem Tallies.covered {maximum : ℤ} {action : ServerStep} {s s' : ServerSubscription}
    {tally earlier : AttemptTally} (h : Tallies maximum action s s') (ht : Tallied.Covered ⟨s, tally⟩)
    (hearlier : earlier = if s.afresh s' action then .empty else tally) :
    Tallied.Covered ⟨s', tally.next s s' action⟩ := by
  have hdistinct : earlier.begun.Nodup := by
    rw [hearlier]
    split
    · exact List.nodup_nil
    · exact ht.distinct
  have hbegun : ∀ generation ∈ earlier.begun, generation ≤ s.generation := by
    rw [hearlier]
    split
    · exact fun _ hmem => by cases hmem
    · exact ht.begun
  have hpostponed : ∀ generation ∈ earlier.postponed, generation ≤ s.generation := by
    rw [hearlier]
    split
    · exact fun _ hmem => by cases hmem
    · exact ht.postponed
  have hnext : tally.next s s' action = ⟨earlier.begun ++ s.begunBy s',
      earlier.postponed ++ s.postponedBy action, earlier.cut ++ s.cutBy action⟩ := by
    rw [hearlier]
    rfl
  rw [hnext]
  have hnew : ∀ generation ∈ s.begunBy s', s.generation < generation := by
    intro generation hmem
    exact of_decide_eq_true (List.mem_filter.mp hmem).2
  have hone : s.begunBy s' = [] ∨ s.postponedBy action = [] := h.begun.imp id And.right
  have hfresh : ∀ generation ∈ s.begunBy s', generation ∉ earlier.postponed := by
    intro generation hmem hold
    exact absurd (hpostponed generation hold) (Nat.not_le_of_lt (hnew generation hmem))
  refine ⟨h.dated, ?_, ?_, ?_, ?_⟩
  · apply List.Nodup.append hdistinct
    · rcases h.begun with hnone | ⟨hsome, -⟩
      · rw [hnone]
        exact List.nodup_nil
      · rw [hsome]
        exact List.nodup_singleton _
    · intro generation hold hmem
      exact absurd (hbegun generation hold) (Nat.not_le_of_lt (hnew generation hmem))
  · intro generation hmem
    rcases List.mem_append.mp hmem with hold | hbegins
    · exact Nat.le_trans (hbegun generation hold) h.generation
    · obtain ⟨attempt, hattempt, rfl⟩ := List.mem_map.mp (List.mem_filter.mp hbegins).1
      exact h.dated attempt hattempt
  · intro generation hmem
    apply Nat.le_trans _ h.generation
    rcases List.mem_append.mp hmem with hold | hlate
    · exact hpostponed generation hold
    · exact postponedBy_le ht.dated action generation hlate
  · have hkept := AttemptTally.kept_append (earlier.cut ++ s.cutBy action) hdistinct hfresh hone
    refine Int.le_trans (show s'.attempts ≤ _ from ?_)
      (Int.ofNat_le.mpr (Nat.sub_le_of_le_add hkept))
    rcases h.attempts with hagain | ⟨hafresh, hgoes⟩
    · rcases hone with hnone | hnone
      · rw [hnone] at hagain
        exact Int.le_trans hagain (Int.natCast_nonneg _)
      · rw [hnone, List.length_nil]
        omega
    · have hsame : earlier = tally := by rw [hearlier, hafresh]; rfl
      have hcounter : s.attempts ≤ earlier.kept.length := hsame ▸ ht.attempts
      omega

/-- Every interleaving of stretches, with the tally of its attempts. -/
def tallyMachine (config : ServerConfig) : Machine Tallied ServerInput where
  step := fun t input =>
    ⟨t.subscription.step config input,
      t.tally.next t.subscription (t.subscription.step config input) input.step⟩
  allowed := fun _ _ => True

/-- A subscription that gives up in this step has begun its maximum of attempts that no outage
postponed or cut short. -/
def OutagesConsumeNothing (config : ServerConfig) (t : Tallied) (input : ServerInput) : Prop :=
  (∃ o ∈ t.subscription.added ((tallyMachine config).step t input).subscription,
      o.givesUp = true) →
    config.limits.maxSyncAttempts ≤ (((tallyMachine config).step t input).tally.counted.length : ℤ)

instance (config : ServerConfig) (t : Tallied) (input : ServerInput) :
    Decidable (OutagesConsumeNothing config t input) :=
  inferInstanceAs (Decidable (_ → _))

/-- The subscription as its session starts it, with nothing counted. -/
def untallied (budget : SubscriptionBudget) (source : SourceRuntime) : Tallied :=
  ⟨initial budget source, .empty⟩

theorem covered_after (config : ServerConfig) (budget : SubscriptionBudget)
    (source : SourceRuntime) (inputs : List ServerInput) :
    ((tallyMachine config).after (untallied budget source) inputs).Covered := by
  have hinitial : (untallied budget source).Covered :=
    ⟨List.forall_mem_nil _, List.nodup_nil, List.forall_mem_nil _, List.forall_mem_nil _,
      Int.le_refl 0⟩
  refine Machine.invariant (P := Tallied.Covered) ?_ hinitial
    ((tallyMachine config).admits_of_allowed (fun _ _ => trivial) _ inputs)
  intro t input ht _
  exact ((course_step input.step).tallies ht.dated).covered ht rfl

/-- In every run: a subscription gives up only after its maximum of attempts, counting those
that no outage postponed, provided none since it was last live or resynchronized was cut short
by one. -/
theorem outagesConsumeNothing_after (config : ServerConfig) (budget : SubscriptionBudget)
    (source : SourceRuntime) (inputs : List ServerInput) (input : ServerInput)
    (huncut : ((tallyMachine config).after (untallied budget source) (inputs ++ [input])).tally.cut =
      []) :
    OutagesConsumeNothing config ((tallyMachine config).after (untallied budget source) inputs)
      input := by
  rintro ⟨o, ho, hgives⟩
  have hafter := covered_after config budget source (inputs ++ [input])
  have hcourse : Course config.limits.maxSyncAttempts _ input.step
      (((tallyMachine config).after (untallied budget source) inputs).subscription.step config
        input) := course_step input.step
  have hstep := hcourse.tallies (covered_after config budget source inputs).dated
  rw [Machine.after_concat] at huncut hafter
  have hkept := AttemptTally.kept_length_le hafter.distinct
  rw [huncut, List.length_nil, Nat.add_zero] at hkept
  calc config.limits.maxSyncAttempts
      ≤ _ := hstep.givesUp o ho hgives
    _ ≤ _ := hafter.attempts
    _ ≤ _ := Int.ofNat_le.mpr hkept

section Sample

/-- The client of `sampleConfig` has three attempts; each of these finds no permit in time. -/
def timedOutRun : List ServerInput :=
  [.start, .callHandler 0, .resumeAuthorize 0 .allowed false, .resumeAuthorized 0,
    .resumePermit 0 false, .retry, .callHandler 0, .resumeAuthorize 0 .allowed false,
    .resumeAuthorized 0, .resumePermit 0 false, .retry, .callHandler 0,
    .resumeAuthorize 0 .allowed false, .resumeAuthorized 0].map (⟨·, prompt⟩)

theorem outagesConsumeNothing_timedOutRun :
    OutagesConsumeNothing sampleConfig
      ((tallyMachine sampleConfig).after (untallied sampleBudget sampleSource) timedOutRun)
      ⟨.resumePermit 0 false, prompt⟩ :=
  outagesConsumeNothing_after sampleConfig sampleBudget sampleSource timedOutRun _
    (by decide +kernel)

/-- The source fails and recovers while two attempts are authorizing; the third finds no permit
in time, and is the only one that failed. -/
def flappingRun : List ServerInput :=
  [.start, .setSourceStatus .degraded none, .setSourceStatus .healthy none,
    .setSourceStatus .degraded none, .setSourceStatus .healthy none, .callHandler 2,
    .resumeAuthorize 2 .allowed false, .resumeAuthorized 2].map (⟨·, prompt⟩)

theorem outages_exhaust_attempts :
    ¬ ∀ (config : ServerConfig) (budget : SubscriptionBudget) (source : SourceRuntime)
      (inputs : List ServerInput) (input : ServerInput),
      OutagesConsumeNothing config ((tallyMachine config).after (untallied budget source) inputs)
        input := by
  intro hclaim
  have hsample := hclaim sampleConfig sampleBudget sampleSource flappingRun
    ⟨.resumePermit 2 false, prompt⟩
  revert hsample
  decide +kernel

end Sample

end ServerSubscription

end StreamOtter
