import StreamOtter.StreamClientAdoption

/-!
# One connection at a time

The client keeps one adopted connection, leaves a working one alone but for refreshes and
explicit reconnects, and closes every other connection it opens.  An adoption does not
cancel an armed reconnect timer, so all of it is owed to adoptions that find none.
-/

namespace StreamOtter

namespace StreamClient

/-- What is asked of the connections of a client. -/
structure SingleConnection (s : StreamClient) : Prop where
  /-- Only the client's own connection is adopted and open. -/
  one : ∀ connection key, .adopted connection key ∈ s.trace →
    (s.connections connection).closed = false → s.connection = some connection
  /-- While it has one, no reconnect timer is armed. -/
  idle : ∀ connection, s.connection = some connection →
    ∀ timer ∈ s.timers, timer.2 ≠ .reconnect
  /-- No attempt has been started beside a working connection but a refresh or an explicit
  reconnect. -/
  alone : .started .retry true ∉ s.trace
  /-- Every connection opened so far was adopted or closed, or its attempt still waits. -/
  kept : ∀ connection < s.nextConnection, (s.connections connection).closed = true ∨
    (∃ key, .adopted connection key ∈ s.trace) ∨
      ∃ id attempt, s.attempts id = some attempt ∧ attempt.awaits = some connection
  /-- The attempt adopts or closes it, as soon as the handshake is over. -/
  ends : ∀ id attempt connection now script, s.attempts id = some attempt →
    attempt.awaits = some connection → (s.connections connection).ready ≠ .pending →
      ((s.step ⟨.resume id now, script⟩).connections connection).closed = true ∨
        ∃ key, .adopted connection key ∈ (s.step ⟨.resume id now, script⟩).trace

/-- The invariant behind it. -/
structure Orderly (s : StreamClient) : Prop where
  sound : s.Sound
  disciplined : s.Disciplined
  one : ∀ connection key, .adopted connection key ∈ s.trace →
    (s.connections connection).closed = false → s.connection = some connection
  adopted : ∀ connection, s.connection = some connection →
    ∃ key, .adopted connection key ∈ s.trace

section Preservation

variable {s s' : StreamClient}

theorem Orderly.moves {orderly firm : Prop} (h : s.Orderly) (ho : orderly)
    (hmoves : s.Moves orderly firm s') : s'.Orderly := by
  obtain ⟨more, htrace, hplain⟩ := hmoves.grown
  refine ⟨hmoves.sound, hmoves.disciplined ho h.disciplined, ?_, ?_⟩
  · intro connection key hmem hopen
    have hbefore : (s.connections connection).closed = false := by
      by_contra hclosed
      have hafter := hmoves.lost connection (by simpa using hclosed)
      rw [hopen] at hafter
      cases hafter
    have hadopted : .adopted connection key ∈ s.trace := by
      rw [htrace] at hmem
      refine (List.mem_append.mp hmem).resolve_right fun hmem => ?_
      exact absurd (hplain _ hmem) (by simp [ClientRecord.plain])
    rcases hmoves.dropped connection (h.one connection key hadopted hbefore) with hkept | hclosed
    · exact hkept
    · rw [hopen] at hclosed
      cases hclosed
  · intro connection hsome
    obtain ⟨key, hmem⟩ := h.adopted connection (hmoves.connection connection hsome)
    exact ⟨key, htrace ▸ List.mem_append_left _ hmem⟩

/-- A record that is no attempt and no adoption. -/
theorem Orderly.record {o : ClientRecord} (h : s.Orderly) (hsame : s'.trace = s.trace ++ [o])
    (hsound : s'.Sound) (hconnection : s'.connection = s.connection) (htimers : s'.timers = s.timers)
    (hattempts : s'.attempts = s.attempts) (hgeneration : s'.generation = s.generation)
    (hconnections : s'.connections = s.connections) (hstarted : o ≠ .started .retry true)
    (hadopted : ∀ connection key, o ≠ .adopted connection key) : s'.Orderly := by
  have hold : ∀ other, other ≠ o → other ∈ s'.trace → other ∈ s.trace := by
    intro other hne hmem
    rw [hsame] at hmem
    exact (List.mem_append.mp hmem).resolve_right fun hmem => hne (List.mem_singleton.mp hmem)
  refine ⟨hsound, ⟨?_, ?_, ?_⟩, ?_, ?_⟩
  · rw [htimers, hconnection]
    exact h.disciplined.rests
  · rw [hattempts, hgeneration, hconnection]
    exact h.disciplined.apart
  · exact fun hmem => h.disciplined.alone (hold _ hstarted.symm hmem)
  · intro connection key hmem hopen
    rw [hconnections] at hopen
    rw [hconnection]
    exact h.one connection key (hold _ (hadopted connection key).symm hmem) hopen
  · intro connection hsome
    rw [hconnection] at hsome
    obtain ⟨key, hmem⟩ := h.adopted connection hsome
    exact ⟨key, hsame ▸ List.mem_append_left _ hmem⟩

/-- The adopted connection takes the place of every other. -/
theorem Orderly.adopts {connection : ConnectionId} {hello : Hello} (h : s.Orderly)
    (hidle : ∀ timer ∈ s.timers, timer.2 ≠ .reconnect) (hadopts : s.Adopts connection hello s') :
    s'.Orderly := by
  obtain ⟨more, htrace, hplain⟩ := hadopts.grown
  refine ⟨hadopts.sound, hadopts.disciplined hidle h.disciplined, ?_, ?_⟩
  · intro other key hmem hopen
    have hheld : other = connection → s'.connection = some other := by
      rintro rfl
      rcases hadopts.held with hkept | hclosed
      · exact hkept
      · rw [hopen] at hclosed
        cases hclosed
    by_cases hnew : other = connection
    · exact hheld hnew
    · have hadopted : .adopted other key ∈ s.trace := by
        rw [htrace] at hmem
        rcases List.mem_append.mp hmem with hmem | hmem
        · exact hmem
        · rcases List.mem_cons.mp hmem with heq | hmem
          · cases heq
            exact absurd rfl hnew
          · exact absurd (hplain _ hmem) (by simp [ClientRecord.plain])
      have hbefore : (s.connections other).closed = false := by
        by_contra hclosed
        have hafter := hadopts.lost other (by simpa using hclosed)
        rw [hopen] at hafter
        cases hafter
      have hclosed := hadopts.previous other (h.one other key hadopted hbefore) hnew
      rw [hopen] at hclosed
      cases hclosed
  · intro other hsome
    obtain rfl := hadopts.adopted other hsome
    exact ⟨hello.identityKey, by rw [htrace]; simp⟩

theorem Orderly.stepped {event : ClientEvent} (h : s.Orderly) (hstepped : s.Stepped event s')
    (hidle : s.adopting event = true → ∀ timer ∈ s.timers, timer.2 ≠ .reconnect) : s'.Orderly := by
  have hd := h.disciplined
  cases hstepped with
  | moves hmoves => exact h.moves hd hmoves
  | registers id mid hbefore _ _ hafter =>
      have hmid := h.moves hd hbefore
      have htracked : (mid.track id).Orderly :=
        hmid.record rfl (sound_track hmid.sound) rfl rfl rfl rfl rfl (by simp) (by simp)
      exact htracked.moves hd hafter
  | adopts connection hello mid hadopting hadopts hafter =>
      exact (h.adopts (hidle hadopting) hadopts).moves hd hafter
  | dispatches connection id _ _ hafter =>
      have hdispatched : (s.emit (.dispatched connection id)).Orderly :=
        h.record rfl (sound_emit h.sound) rfl rfl rfl rfl rfl (by simp) (by simp)
      exact hdispatched.moves hd hafter
  | delivers connection id _ _ _ hafter =>
      have hdispatched : (s.emit (.dispatched connection id)).Orderly :=
        h.record rfl (sound_emit h.sound) rfl rfl rfl rfl rfl (by simp) (by simp)
      have hdelivered : ((s.emit (.dispatched connection id)).emit (.delivered id connection)).Orderly :=
        hdispatched.record rfl (sound_emit hdispatched.sound) rfl rfl rfl rfl rfl (by simp) (by simp)
      exact hdelivered.moves hd hafter

end Preservation

/-- The attempt that opened a connection adopts or closes it. -/
theorem resume_ends {s : StreamClient} {id : AttemptId} {attempt : ConnectAttempt}
    {connection : ConnectionId} (now : ℤ) (script : List (List ClientReaction)) (h : s.Sound)
    (hmem : s.attempts id = some attempt) (hawaits : attempt.awaits = some connection)
    (hready : (s.connections connection).ready ≠ .pending) :
    ((s.step ⟨.resume id now, script⟩).connections connection).closed = true ∨
      ∃ key, .adopted connection key ∈ (s.step ⟨.resume id now, script⟩).trace := by
  have hscript : s.Moves True True { s with script := script } := moves_script h
  have hstep : s.step ⟨.resume id now, script⟩ =
      resume (application script.length) id attempt connection now { s with script := script } := by
    simp [step, handle, hmem, hawaits]
  rw [hstep]
  rcases (honest_application script.length).resume_cases now hscript.sound hmem hawaits hready with
    ⟨-, hclosed⟩ | ⟨-, hello, mid, hadopts, hafter⟩
  · exact .inl hclosed
  · obtain ⟨more, htrace, -⟩ := hadopts.grown
    obtain ⟨rest, htrace', -⟩ := hafter.grown
    exact .inr ⟨hello.identityKey, by rw [htrace', htrace]; simp⟩

theorem Orderly.singleConnection {s : StreamClient} (h : s.Orderly) : s.SingleConnection where
  one := h.one
  idle := by
    intro connection hsome timer hmem hkind
    rw [h.disciplined.rests timer hmem hkind] at hsome
    cases hsome
  alone := h.disciplined.alone
  kept := by
    intro connection hborn
    by_cases hclosed : (s.connections connection).closed = true
    · exact .inl hclosed
    · rcases h.sound.awaited connection hborn (by simpa using hclosed) with hadopted | hawaited
      · exact .inr (.inl (h.adopted connection hadopted))
      · exact .inr (.inr hawaited)
  ends := fun _ _ _ now script hmem hawaits hready =>
    resume_ends now script h.sound hmem hawaits hready

/-- The machine in which no adoption finds an armed reconnect timer. -/
def timely : Machine StreamClient StreamClientInput where
  step := step
  allowed := fun s input => s.adopting input.event = true → ∀ timer ∈ s.timers, timer.2 ≠ .reconnect

instance (s : StreamClient) (input : StreamClientInput) : Decidable (timely.allowed s input) :=
  inferInstanceAs (Decidable (s.adopting input.event = true →
    ∀ timer ∈ s.timers, timer.2 ≠ ClientTimer.reconnect))

theorem singleConnection_after (inputs : List StreamClientInput)
    (hrun : timely.Admits initial inputs) : (timely.after initial inputs).SingleConnection := by
  have horderly : (timely.after initial inputs).Orderly := by
    apply Machine.invariant (P := Orderly) _ _ hrun
    · intro s input h hallowed
      have hscript : s.Moves True True { s with script := input.script } := moves_script h.sound
      exact (h.moves trivial hscript).stepped (stepped_step input h.sound) hallowed
    · exact ⟨sound_initial, ⟨by simp [initial], by simp [initial], by simp [initial]⟩,
        by simp [initial], by simp [initial]⟩
  exact horderly.singleConnection

/-- A client whose connection has been up until it is time to refresh it. -/
def refreshingRun : List StreamClientInput :=
  [⟨.call .subscribe, []⟩, ⟨.register 0, []⟩, ⟨.token 0 none 0, []⟩,
    ⟨.hello 0 ⟨"tenant/alice", some 100000⟩, []⟩, ⟨.resume 0 0, []⟩, ⟨.timer 0, []⟩,
    ⟨.token 1 none 70000, []⟩, ⟨.hello 1 ⟨"tenant/alice", none⟩, []⟩]

/-- The refreshed connection takes the place of the previous one. -/
theorem singleConnection_refresh :
    timely.Admits initial (refreshingRun ++ [⟨.resume 1 70000, []⟩]) ∧
      (timely.after initial (refreshingRun ++ [⟨.resume 1 70000, []⟩])).connection = some 1 ∧
      (timely.after initial (refreshingRun ++ [⟨.resume 1 70000, []⟩])).SingleConnection := by
  have hrun : timely.Admits initial (refreshingRun ++ [⟨.resume 1 70000, []⟩]) := by decide
  exact ⟨hrun, by decide, singleConnection_after _ hrun⟩

/-- The connection drops while its refresh is on its way, which arms the reconnect timer;
the refresh is adopted, and the timer stays armed beside it. -/
theorem singleConnection_fails : ¬ ∀ inputs, (machine.after initial inputs).SingleConnection := by
  intro h
  have hidle := (h (refreshingRun ++ [⟨.drop 0, []⟩, ⟨.resume 1 70000, []⟩])).idle 1 (by decide)
    (1, .reconnect) (by decide)
  exact hidle rfl

end StreamClient

end StreamOtter
