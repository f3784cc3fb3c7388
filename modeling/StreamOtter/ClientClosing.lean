import StreamOtter.StreamClientAdoption

/-!
# `close()` of the client

Listeners can call `close()` in the middle of the client's own stretches.  It is permanent
unless it comes from a notification whose following statements do not look whether it was
called, or a timer that is still armed has been forgotten.
-/

namespace StreamOtter

namespace StreamClient

/-- After `close()` nothing is left of the client's work, and nothing comes after. -/
structure ClosedForGood (s : StreamClient) : Prop where
  state : s.closed = true → s.state = .closed
  timers : s.closed = true → s.timers = []
  connection : s.closed = true → s.connection = none
  detached : s.closed = true → ∀ id, (s.managed id).attached = none
  /-- A connection that is still open waits for the attempt that will close it. -/
  late : s.closed = true → ∀ connection < s.nextConnection,
    (s.connections connection).closed = false →
      ∃ id attempt, s.attempts id = some attempt ∧ attempt.awaits = some connection ∧
        attempt.generation ≠ s.generation
  last : s.trace.Pairwise fun earlier later => earlier.isClosed → later.final

section Preservation

variable {event : ClientEvent} {s s' : StreamClient}

theorem Permanent.open_of_connection {connection : ConnectionId} (h : s.Permanent)
    (hconnection : s.connection = some connection) : s.closed = false := by
  by_contra hclosed
  have hshut := h.shut (by simpa using hclosed)
  rw [hshut.connection] at hconnection
  cases hconnection

theorem Permanent.stepped (h : s.Permanent) (hstepped : s.Stepped event s') (hnot : ¬ s'.Undone) :
    s'.Permanent := by
  have hbefore : ∀ {mid : StreamClient}, mid.Moves s.Disciplined s.Permanent s' → ¬ mid.Undone := by
    intro mid hmoves hundone
    obtain ⟨more, htrace, -⟩ := hmoves.grown
    exact hnot (hundone.grows ⟨more, htrace⟩)
  cases hstepped with
  | moves hmoves => exact hmoves.permanent h hnot h
  | registers id mid hqueued hopen _ hafter =>
      have htracked : ¬ (mid.track id).Undone := hbefore hafter
      have hmid := hqueued.permanent h (fun hundone => htracked (hundone.grows ⟨_, rfl⟩)) h
      have hregistered : (mid.track id).Permanent :=
        hmid.of_open hopen rfl rfl (by simp [ClientRecord.isClosed]) hmid.held
      exact hafter.permanent h hnot hregistered
  | adopts connection hello mid _ hadopts hafter =>
      have hadopted := hadopts.permanent (hbefore hafter) h
      exact hafter.permanent h hnot hadopted.1
  | dispatches connection id hconnection _ hafter =>
      have hopen := h.open_of_connection hconnection
      have hdispatched : (s.emit (.dispatched connection id)).Permanent :=
        h.of_open hopen rfl rfl (by simp [ClientRecord.isClosed]) h.held
      exact hafter.permanent h hnot hdispatched
  | delivers connection id hconnection _ _ hafter =>
      have hopen := h.open_of_connection hconnection
      have hdispatched : (s.emit (.dispatched connection id)).Permanent :=
        h.of_open hopen rfl rfl (by simp [ClientRecord.isClosed]) h.held
      have hdelivered : ((s.emit (.dispatched connection id)).emit (.delivered id connection)).Permanent :=
        hdispatched.of_open hopen rfl rfl (by simp [ClientRecord.isClosed]) h.held
      exact hafter.permanent h hnot hdelivered

end Preservation

theorem Permanent.closedForGood {s : StreamClient} (h : s.Permanent) (hsound : s.Sound) :
    s.ClosedForGood where
  state := fun hclosed => (h.shut hclosed).state
  timers := fun hclosed =>
    h.held.timers_nil (h.shut hclosed).reconnectTimer (h.shut hclosed).refreshTimer
  connection := fun hclosed => (h.shut hclosed).connection
  detached := by
    intro hclosed id
    by_contra hne
    obtain ⟨connection, hattached⟩ := Option.ne_none_iff_exists'.mp hne
    have hmem := hsound.tracked id connection hattached
    rw [(h.shut hclosed).subscriptions] at hmem
    cases hmem
  late := by
    intro hclosed connection hborn hopen
    rcases hsound.awaited connection hborn hopen with hadopted | ⟨id, attempt, hmem, hawaits⟩
    · rw [(h.shut hclosed).connection] at hadopted
      cases hadopted
    · exact ⟨id, attempt, hmem, hawaits, hsound.past hclosed id attempt hmem⟩
  last := h.quiet.last

/-- The machine without the steps that undo a call of `close()`. -/
def heedful : Machine StreamClient StreamClientInput where
  step := step
  allowed := fun s input => ¬ (s.step input).Undone

instance (s : StreamClient) (input : StreamClientInput) : Decidable (heedful.allowed s input) :=
  inferInstanceAs (Decidable (¬ (s.step input).Undone))

theorem closedForGood_after (inputs : List StreamClientInput) (hrun : heedful.Admits initial inputs) :
    (heedful.after initial inputs).ClosedForGood := by
  have hinvariant : (heedful.after initial inputs).Sound ∧ (heedful.after initial inputs).Permanent := by
    apply Machine.invariant (P := fun s => s.Sound ∧ s.Permanent) _ _ hrun
    · rintro s input ⟨hsound, hpermanent⟩ hallowed
      have hstepped := stepped_step input hsound
      have hscript : s.Moves True True { s with script := input.script } := moves_script hsound
      have hbefore : ¬ Undone { s with script := input.script } :=
        fun hundone => hallowed (hundone.grows hstepped.grown)
      exact ⟨hstepped.sound, (hscript.permanent trivial hbefore hpermanent).stepped hstepped hallowed⟩
    · refine ⟨sound_initial, ⟨?_, ?_⟩, ?_, ?_⟩
      · simp [initial]
      · simp [initial]
      · simp [Held, initial]
      · simp [initial]
  exact hinvariant.2.closedForGood hinvariant.1

/-- A client with one subscription, connected under a token without an expiry. -/
def connectedRun : List StreamClientInput :=
  [⟨.call .subscribe, []⟩, ⟨.register 0, []⟩, ⟨.token 0 none 0, []⟩,
    ⟨.hello 0 ⟨"tenant/alice", none⟩, []⟩, ⟨.resume 0 0, []⟩]

/-- The application closes the client when its connection drops, from a listener of the
subscription's state. -/
theorem closedForGood_drop :
    heedful.Admits initial (connectedRun ++ [⟨.drop 0, [[⟨[.close], false⟩]]⟩]) ∧
      (heedful.after initial (connectedRun ++ [⟨.drop 0, [[⟨[.close], false⟩]]⟩])).closed = true ∧
      (heedful.after initial (connectedRun ++ [⟨.drop 0, [[⟨[.close], false⟩]]⟩])).ClosedForGood := by
  have hrun : heedful.Admits initial (connectedRun ++ [⟨.drop 0, [[⟨[.close], false⟩]]⟩]) := by
    decide
  exact ⟨hrun, by decide, closedForGood_after _ hrun⟩

/-- It closes the client from a listener of the client's state instead, when the client
reports that it is reconnecting: the reconnect timer is armed all the same. -/
theorem closedForGood_fails : ¬ ∀ inputs, (machine.after initial inputs).ClosedForGood := by
  intro h
  have htimers := (h (connectedRun ++ [⟨.drop 0, [[], [⟨[.close], false⟩]]⟩])).timers (by decide)
  exact absurd htimers (by decide)

end StreamClient

end StreamOtter
