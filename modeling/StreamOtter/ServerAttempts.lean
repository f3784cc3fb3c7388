import StreamOtter.ServerDelivery
import Mathlib.Data.List.Perm.Basic

/-!
# Suspended attempts

An attempt is taken out of the pending ones when it resumes, and may be suspended
again further on.  The invariant knows where an attempt of the current generation can
wait; every other one finds that it was superseded.
-/

namespace StreamOtter

namespace ServerSubscription

variable {s : ServerSubscription} {limits : Limits} {readings : Readings} {attempt : Attempt}
  {index : ℕ}

theorem Bookkeeping.taken (hbook : s.Bookkeeping) (index : ℕ) : (s.taken index).Bookkeeping where
  sessionOpen := hbook.sessionOpen
  unexpired := hbook.unexpired
  disciplined := hbook.disciplined
  announcedFresh := hbook.announcedFresh
  epochFresh := hbook.epochFresh
  admittedAnnounced := hbook.admittedAnnounced
  generations := fun attempt hmem => hbook.generations attempt (List.mem_of_mem_eraseIdx hmem)
  distinct := hbook.distinct.sublist ((List.eraseIdx_sublist s.pending index).map _)
  earlierOver := hbook.earlierOver
  ordered := hbook.ordered
  calledRouted := hbook.calledRouted

/-- No other pending attempt has the generation of the one that resumes. -/
theorem Bookkeeping.taken_distinct (hbook : s.Bookkeeping)
    (hindex : s.pending[index]? = some attempt) :
    ∀ other ∈ (s.taken index).pending, other.generation ≠ attempt.generation := by
  obtain ⟨hlt, hget⟩ := List.getElem?_eq_some_iff.mp hindex
  have hperm := List.getElem_cons_eraseIdx_perm hlt
  rw [hget] at hperm
  have hdistinct : ((attempt :: s.pending.eraseIdx index).map Attempt.generation).Nodup :=
    (hperm.map Attempt.generation).nodup_iff.mpr hbook.distinct
  rw [List.map_cons, List.nodup_cons] at hdistinct
  intro other hmem hsame
  exact hdistinct.1 (List.mem_map.mpr ⟨other, hmem, hsame⟩)

theorem Open.taken (hopen : s.Open) (index : ℕ) : (s.taken index).Open where
  bookkeeping := hopen.bookkeeping.taken index
  phased := hopen.phased.inert
  attempts :=
    ⟨fun attempt hmem => hopen.attempts.current attempt (List.mem_of_mem_eraseIdx hmem),
      fun attempt hmem => hopen.attempts.trusting attempt (List.mem_of_mem_eraseIdx hmem),
      hopen.attempts.snapshotJobs⟩

theorem Calm.taken (hcalm : s.Calm) (index : ℕ) : (s.taken index).Calm :=
  ⟨fun attempt hmem => hcalm.untrusting attempt (List.mem_of_mem_eraseIdx hmem), hcalm.jobs⟩

/-- Once an attempt that trusts an earlier `#authorize` resumes, no other one does. -/
theorem Open.calm_taken (hopen : s.Open) (hindex : s.pending[index]? = some attempt)
    (htrust : attempt.waiting.afterAuthorize = true) : (s.taken index).Calm := by
  have hmem : attempt ∈ s.pending := List.mem_of_getElem? hindex
  obtain ⟨hcurrent, hjobs⟩ := hopen.attempts.trusting attempt hmem htrust
  refine ⟨fun other hother => ?_, hjobs⟩
  have hne := hopen.bookkeeping.taken_distinct hindex other hother
  by_contra htrusting
  have hsame := hopen.attempts.trusting other (List.mem_of_mem_eraseIdx hother)
    (Bool.not_eq_false _ ▸ htrusting)
  exact hne (hsame.1.trans hcurrent.symm)

section Suspension

variable {generation : ℕ} {waiting : Await}

/-- An attempt of the current generation is suspended where its phase lets it wait. -/
theorem Open.suspend (hopen : s.Open) (hgeneration : generation = s.generation)
    (hnew : ∀ other ∈ s.pending, other.generation ≠ generation) (hfits : s.Fits waiting)
    (htrusted : waiting.afterAuthorize = true → s.jobs = []) :
    (s.suspend generation waiting).Open := by
  have hmem : ∀ attempt ∈ (s.suspend generation waiting).pending,
      attempt ∈ s.pending ∨ attempt = ⟨generation, waiting⟩ := by
    intro attempt h
    simpa [ServerSubscription.suspend] using h
  have hbook := hopen.bookkeeping
  refine ⟨?_, hopen.phased.inert, ?_⟩
  · constructor
    · exact hbook.sessionOpen
    · exact hbook.unexpired
    · exact hbook.disciplined
    · exact hbook.announcedFresh
    · exact hbook.epochFresh
    · exact hbook.admittedAnnounced
    · intro attempt h
      rcases hmem attempt h with h | rfl
      · exact hbook.generations attempt h
      · exact hgeneration.le
    · have hfresh : generation ∉ s.pending.map Attempt.generation := by
        intro h
        obtain ⟨attempt, hattempt, hsame⟩ := List.mem_map.mp h
        exact hnew attempt hattempt hsame
      show (List.map Attempt.generation (s.pending ++ [⟨generation, waiting⟩])).Nodup
      rw [List.map_append]
      exact List.Nodup.append hbook.distinct (by simp) (by simpa using hfresh)
    · exact hbook.earlierOver
    · exact hbook.ordered
    · exact hbook.calledRouted
  · constructor
    · intro attempt h hcurrent
      rcases hmem attempt h with h | rfl
      · exact absurd (hcurrent.trans hgeneration.symm) (hnew attempt h)
      · exact hfits
    · intro attempt h htrust
      rcases hmem attempt h with h | rfl
      · exact hopen.attempts.trusting attempt h htrust
      · exact ⟨hgeneration, htrusted htrust⟩
    · exact hopen.attempts.snapshotJobs

theorem Open.invoke (hopen : s.Open) (hcalm : s.Calm) (generation : ℕ) (handler : Handler)
    (hrouted : handler = .snapshot → s.routed = true) : (s.invoke generation handler).Open := by
  refine ⟨hopen.bookkeeping.of_ledger rfl, hopen.phased.inert, ?_⟩
  constructor
  · exact hopen.attempts.current
  · intro attempt hmem htrust
    rw [hcalm.untrusting attempt hmem] at htrust
    cases htrust
  · intro job hmem hsnapshot
    have hjobs : job ∈ s.jobs ++ [⟨generation, handler⟩] := hmem
    rw [hcalm.jobs, List.nil_append, List.mem_singleton] at hjobs
    rw [hjobs] at hsnapshot
    exact hrouted hsnapshot

end Suspension

section Handlers

variable {generation : ℕ}

theorem Open.resumeAuthorize {outcome : AuthorizeOutcome} {revoked : Bool} {next : Await}
    (hopen : s.Open) (hcalm : s.Calm)
    (hnew : ∀ other ∈ s.pending, other.generation ≠ generation)
    (hfits : generation = s.generation → s.Fits next) :
    (awaitAuthorized generation next
      (s.afterAuthorizeHandler limits readings generation outcome revoked)).Sound := by
  have hrefused : ∀ s' : ServerSubscription, s'.Sound →
      (awaitAuthorized generation next (s', false)).Sound := fun s' h => h
  unfold ServerSubscription.afterAuthorizeHandler
  split
  · exact hrefused _ (.opened hopen)
  · case isFalse hcurrent =>
      have hgeneration : generation = s.generation := not_not.mp hcurrent
      cases outcome with
      | aborted => exact hrefused _ (.opened hopen)
      | timeout => exact hrefused _ (hopen.bookkeeping.attemptFailed hcalm)
      | error => exact hrefused _ (hopen.fail hcalm)
      | denied => exact hrefused _ (hopen.fail hcalm)
      | allowed =>
          dsimp only
          rcases canDeliver_cases limits readings .authorize
            hopen.bookkeeping.disciplined with ⟨torn, htorn, heq⟩ | heq | ⟨-, heq⟩
          · rw [heq]
            exact hrefused _ htorn.sound
          · rw [heq]
            exact hrefused _ (.expired rfl hopen.bookkeeping.disciplined hcalm.untrusting)
          · rw [heq]
            cases revoked with
            | true => exact hrefused _ (hopen.fail hcalm)
            | false =>
                exact .opened (hopen.suspend hgeneration hnew (hfits hgeneration)
                  fun _ => hcalm.jobs)

theorem Open.afterPermit {acquired : Bool} (hopen : s.Open) (hcalm : s.Calm)
    (hnew : ∀ other ∈ s.pending, other.generation ≠ generation)
    (hfits : generation = s.generation → s.phase = .capturing) :
    (s.afterPermit limits readings generation acquired).Sound := by
  unfold ServerSubscription.afterPermit
  split
  · exact .opened hopen
  · case isFalse hcurrent =>
      have hgeneration : generation = s.generation := not_not.mp hcurrent
      have hphase := hfits hgeneration
      split
      · exact hopen.bookkeeping.attemptFailed hcalm
      · have hrouted : s.routed = true := by
          have hphased := hopen.phased
          unfold Phased at hphased
          rw [hphase] at hphased
          exact hphased.streaming.routed
        have hinvoked := hopen.invoke hcalm generation .snapshot fun _ => hrouted
        exact .opened (hinvoked.suspend hgeneration hnew hphase (by simp [Await.afterAuthorize]))

theorem Open.afterSnapshotHandler {boundary : Option BoundaryId} {outcome : SnapshotOutcome}
    (hopen : s.Open) (hcalm : s.Calm)
    (hnew : ∀ other ∈ s.pending, other.generation ≠ generation)
    (hfits : generation = s.generation → s.phase = .capturing) :
    (s.afterSnapshotHandler limits readings generation boundary outcome).Sound := by
  unfold ServerSubscription.afterSnapshotHandler
  split
  · exact .opened hopen
  · case isFalse hcurrent =>
      have hgeneration : generation = s.generation := not_not.mp hcurrent
      have hphase := hfits hgeneration
      cases outcome with
      | aborted => exact .opened hopen
      | timeout => exact hopen.bookkeeping.attemptFailed hcalm
      | error => exact hopen.fail hcalm
      | malformed => exact hopen.fail hcalm
      | ok snapshot =>
          dsimp only
          split
          · exact hopen.fail hcalm
          · split
            · exact hopen.bookkeeping.attemptFailed hcalm
            · split
              · exact hopen.bookkeeping.attemptFailed hcalm
              · case isFalse hnotOlder =>
                  have hfresh : ∀ revision, s.lastDelivered = some revision →
                      revision ≤ snapshot.revision := by
                    intro revision hrevision
                    simpa [hrevision] using hnotOlder
                  have hinvoked := hopen.invoke hcalm generation .authorize (by simp)
                  exact .opened (hinvoked.suspend hgeneration hnew ⟨hphase, hfresh⟩
                    (by simp [Await.afterAuthorize]))

end Handlers

end ServerSubscription

end StreamOtter
