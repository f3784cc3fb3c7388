import StreamOtter.StreamClientAdoption

/-!
# Identity isolation

A subscription delivers only what comes under one identity: when a connection of another
identity is adopted, every subscription tracked before ends before a frame of that
connection reaches anyone.
-/

namespace StreamOtter

/-- The identity an adoption brings. -/
def ClientRecord.identity : ClientRecord → Option String
  | .adopted _ identityKey => some identityKey
  | _ => none

/-- The identity of the last adoption. -/
def lastIdentity (trace : List ClientRecord) : Option String :=
  (trace.filterMap ClientRecord.identity).getLast?

/-- An entry of a list that is not in its second half is in the first. -/
theorem eq_append_of_not_mem {α : Type*} {xs ys before after : List α} {x : α}
    (h : xs ++ ys = before ++ x :: after) (hx : x ∉ ys) :
    ∃ rest, xs = before ++ x :: rest ∧ after = rest ++ ys := by
  rcases List.append_eq_append_iff.mp h with ⟨middle, -, hys⟩ | ⟨middle, hxs, hrest⟩
  · apply absurd _ hx
    rw [hys]
    simp
  · cases middle with
    | nil =>
        apply absurd _ hx
        rw [show ys = x :: after by simpa using hrest.symm]
        simp
    | cons first rest =>
        obtain ⟨rfl, rfl⟩ := List.cons.inj hrest
        exact ⟨rest, hxs, rfl⟩

theorem lastIdentity_append {trace more : List ClientRecord}
    (hmore : ∀ o ∈ more, o.identity = none) : lastIdentity (trace ++ more) = lastIdentity trace := by
  have hnil : more.filterMap ClientRecord.identity = [] :=
    List.filterMap_eq_nil_iff.mpr hmore
  unfold lastIdentity
  rw [List.filterMap_append, hnil, List.append_nil]

theorem lastIdentity_adopted {trace : List ClientRecord} {connection : ConnectionId} {key : String} :
    lastIdentity (trace ++ [.adopted connection key]) = some key := by
  simp [lastIdentity, ClientRecord.identity]

theorem identity_of_plain {o : ClientRecord} (h : o.plain = true) : o.identity = none := by
  cases o <;> first | rfl | exact absurd h (by simp [ClientRecord.plain])

namespace StreamClient

/-- The subscription is over, delivers nothing in `after`, and has ended before the first
frame there. -/
structure Silenced (s : StreamClient) (id : SubscriptionId) (before after : List ClientRecord) :
    Prop where
  terminal : (s.managed id).terminal = true
  silent : ∀ connection, .delivered id connection ∉ after
  ended : ∀ middle connection receiver rest, after = middle ++ .dispatched connection receiver :: rest →
    .ended id ∈ before ++ middle

/-- An account switch silences the subscriptions tracked before it. -/
def Switches (s : StreamClient) (trace : List ClientRecord) : Prop :=
  ∀ before connection key after, trace = before ++ .adopted connection key :: after →
    ∀ previous, lastIdentity before = some previous → previous ≠ key →
      ∀ id, .registered id ∈ before → s.Silenced id before after

/-- The invariant. -/
structure Isolated (s : StreamClient) : Prop where
  sound : s.Sound
  current : ∀ connection, s.connection = some connection →
    ∃ hello, (s.connections connection).ready = .resolved hello ∧
      s.identityKey = some hello.identityKey
  registered : ∀ id, .registered id ∈ s.trace → id ∈ s.subscriptions ∨ (s.managed id).terminal = true
  taken : ∀ id connection, .delivered id connection ∈ s.trace →
    id ∈ s.subscriptions ∨ (s.managed id).terminal = true
  origin : ∀ id, ∃ key,
    (∀ connection, .delivered id connection ∈ s.trace →
      ∃ hello, (s.connections connection).ready = .resolved hello ∧ hello.identityKey = key) ∧
    ((s.managed id).terminal = true ∨ (∀ connection, .delivered id connection ∉ s.trace) ∨
      s.identityKey = some key)
  identity : lastIdentity s.trace = s.identityKey
  adopted : ∀ connection key, .adopted connection key ∈ s.trace →
    ∃ hello, (s.connections connection).ready = .resolved hello ∧ hello.identityKey = key
  switches : s.Switches s.trace

section Preservation

variable {s s' : StreamClient}

theorem plain_mem {more : List ClientRecord} {o : ClientRecord} (hmore : ∀ o ∈ more, o.plain = true)
    (ho : o.plain = false) : o ∉ more := by
  intro hmem
  rw [hmore o hmem] at ho
  cases ho

/-- A subscription stays silent as long as it delivers nothing more. -/
theorem Silenced.append {id : SubscriptionId} {o : ClientRecord} {before after more : List ClientRecord}
    (h : s.Silenced id before after) (hended : .ended id ∈ before ++ o :: after)
    (ho : o ≠ .ended id)
    (hterminal : (s.managed id).terminal = true → (s'.managed id).terminal = true)
    (hdelivered : ∀ connection, .delivered id connection ∉ more) :
    s'.Silenced id before (after ++ more) := by
  refine ⟨hterminal h.terminal, ?_, ?_⟩
  · intro connection hmem
    rcases List.mem_append.mp hmem with hmem | hmem
    · exact h.silent connection hmem
    · exact hdelivered connection hmem
  · intro middle connection receiver later hlater
    have hrecord : .ended id ∈ before ++ after := by
      simpa [Ne.symm ho] using hended
    rcases List.append_eq_append_iff.mp hlater with ⟨extra, rfl, -⟩ | ⟨extra, hrest, hsuffix⟩
    · rw [← List.append_assoc]
      exact List.mem_append_left _ hrecord
    · cases extra with
      | nil =>
          rw [List.append_nil] at hrest
          exact hrest ▸ hrecord
      | cons first extra =>
          obtain ⟨rfl, -⟩ := List.cons.inj hsuffix
          exact h.ended middle connection receiver extra hrest

/-- Records that are no adoptions, and no deliveries of a subscription that is over, change
nothing about earlier switches. -/
theorem Switches.append {more : List ClientRecord} (h : s.Switches s.trace) (hsound : s.Sound)
    (hterminal : ∀ id, (s.managed id).terminal = true → (s'.managed id).terminal = true)
    (hadopted : ∀ connection key, .adopted connection key ∉ more)
    (hdelivered : ∀ id connection, (s.managed id).terminal = true →
      .delivered id connection ∉ more) : s'.Switches (s.trace ++ more) := by
  intro before connection key after heq previous hprevious hne id hregistered
  obtain ⟨rest, htrace, rfl⟩ := eq_append_of_not_mem heq (hadopted connection key)
  have hsilenced := h before connection key rest htrace previous hprevious hne id hregistered
  apply hsilenced.append (htrace ▸ hsound.ended id hsilenced.terminal) (by simp) (hterminal id)
  exact fun other => hdelivered id other hsilenced.terminal

/-- What a stretch without adoptions and frames keeps. -/
theorem Isolated.moves {orderly firm : Prop} (h : s.Isolated) (hmoves : s.Moves orderly firm s') :
    s'.Isolated := by
  obtain ⟨more, htrace, hplain⟩ := hmoves.grown
  have hold : ∀ o : ClientRecord, o.plain = false → o ∈ s'.trace → o ∈ s.trace := by
    intro o ho hmem
    rw [htrace] at hmem
    exact (List.mem_append.mp hmem).resolve_right (plain_mem hplain ho)
  have htracked : ∀ id, id ∈ s.subscriptions ∨ (s.managed id).terminal = true →
      id ∈ s'.subscriptions ∨ (s'.managed id).terminal = true := by
    rintro id (hmem | hdone)
    · by_cases hstill : id ∈ s'.subscriptions
      · exact .inl hstill
      · exact .inr (hmoves.left id hmem hstill)
    · exact .inr (hmoves.terminal id hdone)
  constructor
  · exact hmoves.sound
  · intro connection hsome
    obtain ⟨hello, hready, hkey⟩ := h.current connection (hmoves.connection connection hsome)
    exact ⟨hello, hmoves.resolved connection hello hready, hmoves.identity.trans hkey⟩
  · exact fun id hmem => htracked id (h.registered id (hold _ rfl hmem))
  · exact fun id connection hmem => htracked id (h.taken id connection (hold _ rfl hmem))
  · intro id
    obtain ⟨key, hfrom, hstatus⟩ := h.origin id
    refine ⟨key, ?_, ?_⟩
    · intro connection hmem
      obtain ⟨hello, hready, hkey⟩ := hfrom connection (hold _ rfl hmem)
      exact ⟨hello, hmoves.resolved connection hello hready, hkey⟩
    · rcases hstatus with hdone | hnone | hkey
      · exact .inl (hmoves.terminal id hdone)
      · exact .inr (.inl fun connection hmem => hnone connection (hold _ rfl hmem))
      · exact .inr (.inr (hmoves.identity.trans hkey))
  · rw [htrace, lastIdentity_append fun o hmem => identity_of_plain (hplain o hmem), h.identity,
      hmoves.identity]
  · intro connection key hmem
    obtain ⟨hello, hready, hkey⟩ := h.adopted connection key (hold _ rfl hmem)
    exact ⟨hello, hmoves.resolved connection hello hready, hkey⟩
  · rw [htrace]
    apply h.switches.append h.sound hmoves.terminal
    · exact fun connection key => plain_mem hplain rfl
    · exact fun id connection _ => plain_mem hplain rfl

theorem Isolated.track {id : SubscriptionId} (h : s.Isolated) : (s.track id).Isolated := by
  have hsubset : s.subscriptions ⊆ (s.track id).subscriptions := by
    intro other hmem
    unfold StreamClient.track
    dsimp only [emit]
    split
    · exact hmem
    · exact List.mem_append_left _ hmem
  have hold : ∀ o : ClientRecord, o ≠ .registered id → o ∈ (s.track id).trace → o ∈ s.trace := by
    intro o hne hmem
    exact (List.mem_append.mp hmem).resolve_right fun hmem => hne (List.mem_singleton.mp hmem)
  constructor
  · exact sound_track h.sound
  · exact h.current
  · intro other hmem
    by_cases hnew : other = id
    · exact .inl (hnew ▸ mem_track)
    · exact (h.registered other (hold _ (by simpa using hnew) hmem)).imp_left fun hmem => hsubset hmem
  · intro other connection hmem
    exact (h.taken other connection (hold _ (by simp) hmem)).imp_left fun hmem => hsubset hmem
  · intro other
    obtain ⟨key, hfrom, hstatus⟩ := h.origin other
    refine ⟨key, fun connection hmem => hfrom connection (hold _ (by simp) hmem), ?_⟩
    exact hstatus.imp_right fun hstatus => hstatus.imp_left fun hnone connection hmem =>
      hnone connection (hold _ (by simp) hmem)
  · exact (lastIdentity_append (by simp [ClientRecord.identity])).trans h.identity
  · exact fun connection key hmem => h.adopted connection key (hold _ (by simp) hmem)
  · apply h.switches.append h.sound
    · exact fun _ hdone => hdone
    · simp
    · simp

/-- A frame goes to a subscription. -/
theorem Isolated.dispatch {connection : ConnectionId} {id : SubscriptionId} (h : s.Isolated) :
    (s.emit (.dispatched connection id)).Isolated := by
  have hold : ∀ o : ClientRecord, o ≠ .dispatched connection id →
      o ∈ (s.emit (.dispatched connection id)).trace → o ∈ s.trace := by
    intro o hne hmem
    exact (List.mem_append.mp hmem).resolve_right fun hmem => hne (List.mem_singleton.mp hmem)
  constructor
  · exact { h.sound with ended := fun other hdone => List.mem_append_left _ (h.sound.ended other hdone) }
  · exact h.current
  · exact fun other hmem => h.registered other (hold _ (by simp) hmem)
  · exact fun other source hmem => h.taken other source (hold _ (by simp) hmem)
  · intro other
    obtain ⟨key, hfrom, hstatus⟩ := h.origin other
    refine ⟨key, fun source hmem => hfrom source (hold _ (by simp) hmem), ?_⟩
    exact hstatus.imp_right fun hstatus => hstatus.imp_left fun hnone source hmem =>
      hnone source (hold _ (by simp) hmem)
  · exact (lastIdentity_append (by simp [ClientRecord.identity])).trans h.identity
  · exact fun source key hmem => h.adopted source key (hold _ (by simp) hmem)
  · apply h.switches.append h.sound
    · exact fun _ hdone => hdone
    · simp
    · simp

/-- A tracked subscription delivers what comes on the adopted connection. -/
theorem Isolated.deliver {connection : ConnectionId} {id : SubscriptionId} (h : s.Isolated)
    (hconnection : s.connection = some connection) (htracked : id ∈ s.subscriptions)
    (hlive : (s.managed id).terminal = false) : (s.emit (.delivered id connection)).Isolated := by
  have hcases : ∀ o : ClientRecord, o ∈ (s.emit (.delivered id connection)).trace →
      o ∈ s.trace ∨ o = .delivered id connection := by
    intro o hmem
    exact (List.mem_append.mp hmem).imp_right List.mem_singleton.mp
  have hold : ∀ o : ClientRecord, o ≠ .delivered id connection →
      o ∈ (s.emit (.delivered id connection)).trace → o ∈ s.trace :=
    fun o hne hmem => (hcases o hmem).resolve_right hne
  obtain ⟨hello, hready, hidentity⟩ := h.current connection hconnection
  constructor
  · exact { h.sound with ended := fun other hdone => List.mem_append_left _ (h.sound.ended other hdone) }
  · exact h.current
  · exact fun other hmem => h.registered other (hold _ (by simp) hmem)
  · intro other source hmem
    rcases hcases _ hmem with hmem | hnew
    · exact h.taken other source hmem
    · cases hnew
      exact .inl htracked
  · intro other
    by_cases hother : other = id
    · subst hother
      refine ⟨hello.identityKey, ?_, .inr (.inr hidentity)⟩
      intro source hmem
      rcases hcases _ hmem with hmem | hnew
      · obtain ⟨key, hfrom, hstatus⟩ := h.origin other
        have hkey : key = hello.identityKey := by
          rcases hstatus with hdone | hnone | hkey
          · rw [hlive] at hdone
            cases hdone
          · exact absurd hmem (hnone source)
          · exact Option.some.inj (hkey.symm.trans hidentity)
        exact hkey ▸ hfrom source hmem
      · cases hnew
        exact ⟨hello, hready, rfl⟩
    · obtain ⟨key, hfrom, hstatus⟩ := h.origin other
      have hne : ∀ source, ClientRecord.delivered other source ≠ .delivered id connection := by
        intro source heq
        cases heq
        exact hother rfl
      refine ⟨key, fun source hmem => hfrom source (hold _ (hne source) hmem), ?_⟩
      exact hstatus.imp_right fun hstatus => hstatus.imp_left fun hnone source hmem =>
        hnone source (hold _ (hne source) hmem)
  · exact (lastIdentity_append (by simp [ClientRecord.identity])).trans h.identity
  · exact fun source key hmem => h.adopted source key (hold _ (by simp) hmem)
  · apply h.switches.append h.sound
    · exact fun _ hdone => hdone
    · simp
    · intro other source hdone hmem
      cases List.mem_singleton.mp hmem
      rw [hlive] at hdone
      cases hdone

/-- On an adoption, the subscriptions of another identity are over. -/
theorem Isolated.adopts {connection : ConnectionId} {hello : Hello} (h : s.Isolated)
    (hadopts : s.Adopts connection hello s') : s'.Isolated := by
  obtain ⟨more, htrace, hplain⟩ := hadopts.grown
  have hold : ∀ o : ClientRecord, o.plain = false → o ≠ .adopted connection hello.identityKey →
      o ∈ s'.trace → o ∈ s.trace := by
    intro o ho hne hmem
    rw [htrace] at hmem
    rcases List.mem_append.mp hmem with hmem | hmem
    · exact hmem
    · rcases List.mem_cons.mp hmem with heq | hmem
      · exact absurd heq hne
      · exact absurd hmem (plain_mem hplain ho)
  have htracked : ∀ id, id ∈ s.subscriptions ∨ (s.managed id).terminal = true →
      id ∈ s'.subscriptions ∨ (s'.managed id).terminal = true := by
    rintro id (hmem | hdone)
    · by_cases hstill : id ∈ s'.subscriptions
      · exact .inl hstill
      · exact .inr (hadopts.left id hmem hstill)
    · exact .inr (hadopts.terminal id hdone)
  have hresolved := hadopts.resolved connection hello hadopts.working
  constructor
  · exact hadopts.sound
  · intro other hother
    obtain rfl := hadopts.adopted other hother
    exact ⟨hello, hresolved, hadopts.identity⟩
  · exact fun id hmem => htracked id (h.registered id (hold _ rfl (by simp) hmem))
  · exact fun id source hmem => htracked id (h.taken id source (hold _ rfl (by simp) hmem))
  · intro id
    obtain ⟨key, hfrom, hstatus⟩ := h.origin id
    refine ⟨key, ?_, ?_⟩
    · intro source hmem
      obtain ⟨hello', hready, hkey⟩ := hfrom source (hold _ rfl (by simp) hmem)
      exact ⟨hello', hadopts.resolved source hello' hready, hkey⟩
    · rcases hstatus with hdone | hnone | hkey
      · exact .inl (hadopts.terminal id hdone)
      · exact .inr (.inl fun source hmem => hnone source (hold _ rfl (by simp) hmem))
      · by_cases hsame : key = hello.identityKey
        · exact .inr (.inr (hsame ▸ hadopts.identity))
        · by_cases hsilent : ∀ source, .delivered id source ∉ s.trace
          · exact .inr (.inl fun source hmem => hsilent source (hold _ rfl (by simp) hmem))
          · simp only [not_forall, not_not] at hsilent
            obtain ⟨source, hmem⟩ := hsilent
            rcases h.taken id source hmem with hmem | hdone
            · exact .inl (hadopts.switched key hkey hsame id hmem)
            · exact .inl (hadopts.terminal id hdone)
  · have heq : s'.trace = (s.trace ++ [.adopted connection hello.identityKey]) ++ more := by
      rw [htrace, List.append_assoc]
      rfl
    rw [heq, lastIdentity_append fun o hmem => identity_of_plain (hplain o hmem), lastIdentity_adopted,
      hadopts.identity]
  · intro other key hmem
    by_cases hnew : ClientRecord.adopted other key = .adopted connection hello.identityKey
    · cases hnew
      exact ⟨hello, hresolved, rfl⟩
    · obtain ⟨hello', hready, hkey⟩ := h.adopted other key (hold _ rfl hnew hmem)
      exact ⟨hello', hadopts.resolved other hello' hready, hkey⟩
  · rw [htrace]
    intro before other key after heq previous hprevious hne id hregistered
    have hsplit : s.trace = before ∧ key = hello.identityKey ∧ after = more ∨
        ∃ rest, s.trace = before ++ .adopted other key :: rest ∧
          after = rest ++ .adopted connection hello.identityKey :: more := by
      rcases List.append_eq_append_iff.mp heq with ⟨extra, hbefore, hsuffix⟩ | ⟨extra, hbefore, hsuffix⟩
      · cases extra with
        | nil =>
            obtain ⟨hrecord, hmore⟩ := List.cons.inj hsuffix
            cases hrecord
            exact .inl ⟨by simpa using hbefore.symm, rfl, hmore.symm⟩
        | cons first extra =>
            obtain ⟨-, hmore⟩ := List.cons.inj hsuffix
            have hmem : ClientRecord.adopted other key ∈ more := by
              rw [hmore]
              simp
            exact absurd hmem (plain_mem hplain rfl)
      · cases extra with
        | nil =>
            obtain ⟨hrecord, hmore⟩ := List.cons.inj hsuffix
            cases hrecord
            exact .inl ⟨by simpa using hbefore, rfl, hmore⟩
        | cons first extra =>
            obtain ⟨rfl, hafter⟩ := List.cons.inj hsuffix
            exact .inr ⟨extra, hbefore, hafter⟩
    rcases hsplit with ⟨rfl, rfl, rfl⟩ | ⟨rest, hs, rfl⟩
    · -- This adoption is the switch.
      rw [h.identity] at hprevious
      refine ⟨?_, fun source => plain_mem hplain rfl, ?_⟩
      · rcases h.registered id hregistered with hmem | hdone
        · exact hadopts.switched previous hprevious hne id hmem
        · exact hadopts.terminal id hdone
      · intro middle source receiver rest hmiddle
        have hmem : ClientRecord.dispatched source receiver ∈ after := by
          rw [hmiddle]
          simp
        exact absurd hmem (plain_mem hplain rfl)
    · have hsilenced := h.switches before other key rest hs previous hprevious hne id hregistered
      apply hsilenced.append (hs ▸ h.sound.ended id hsilenced.terminal) (by simp) (hadopts.terminal id)
      intro source hmem
      rcases List.mem_cons.mp hmem with heq | hmem
      · cases heq
      · exact absurd hmem (plain_mem hplain rfl)

/-- One event, with a sound application in place. -/
theorem Isolated.stepped {event : ClientEvent} (h : s.Isolated) (hstepped : s.Stepped event s') :
    s'.Isolated := by
  cases hstepped with
  | moves hmoves => exact h.moves hmoves
  | registers id mid hbefore _ _ hafter => exact ((h.moves hbefore).track).moves hafter
  | adopts connection hello mid _ hadopts hafter => exact (h.adopts hadopts).moves hafter
  | dispatches connection id _ _ hafter => exact (h.dispatch).moves hafter
  | delivers connection id hconnection htracked hlive hafter =>
      have hdispatched : (s.emit (.dispatched connection id)).Isolated := h.dispatch
      exact (hdispatched.deliver hconnection htracked hlive).moves hafter

end Preservation

theorem isolated_initial : initial.Isolated where
  sound := sound_initial
  current := by simp [initial]
  registered := by simp [initial]
  taken := by simp [initial]
  origin := fun _ => ⟨"", by simp [initial], by simp [initial]⟩
  identity := rfl
  adopted := by simp [initial]
  switches := by simp [Switches, initial]

/-- What the application may rely on. -/
structure IdentityIsolation (s : StreamClient) : Prop where
  one : ∀ id, ∃ key, ∀ connection, .delivered id connection ∈ s.trace →
    ∃ hello, (s.connections connection).ready = .resolved hello ∧ hello.identityKey = key
  adopted : ∀ connection key, .adopted connection key ∈ s.trace →
    ∃ hello, (s.connections connection).ready = .resolved hello ∧ hello.identityKey = key
  switches : s.Switches s.trace

/-- Whatever happens to the client, every subscription delivers under one identity, and an
account switch silences the subscriptions tracked before it. -/
theorem identityIsolation_after (inputs : List StreamClientInput) :
    (machine.after initial inputs).IdentityIsolation := by
  have hisolated : (machine.after initial inputs).Isolated := by
    apply Machine.invariant (P := Isolated) _ isolated_initial
      (machine.admits_of_allowed (fun _ _ => trivial) initial inputs)
    intro s input h _
    have hscript : s.Moves True True { s with script := input.script } := moves_script h.sound
    exact (h.moves hscript).stepped (stepped_step input h.sound)
  refine ⟨?_, hisolated.adopted, hisolated.switches⟩
  intro id
  obtain ⟨key, hfrom, -⟩ := hisolated.origin id
  exact ⟨key, hfrom⟩

end StreamClient

end StreamOtter
