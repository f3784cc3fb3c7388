import StreamOtter.ClientDelivery
import StreamOtter.Link

/-!
# How the SDK follows the gateway

While the subscription heeds an epoch of its connection, it has delivered exactly the data
frames of that epoch that reached it.  Whatever makes it miss one, also from inside a
listener, makes it wait for another epoch, leave the connection or end.
-/

namespace StreamOtter

/-- The epochs announced by the messages that arrived, in order. -/
def heardEpochs (seen : List GatewayMessage) : List Epoch :=
  seen.filterMap fun
    | .state ⟨epoch, .synchronizing, _⟩ => some epoch
    | _ => none

/-- The data frames of one epoch that arrived, in order. -/
def heardData (epoch : Epoch) (seen : List GatewayMessage) : List DataFrame :=
  seen.filterMap fun
    | .data frame => if frame.epoch = epoch then some frame else none
    | _ => none

/-- Every receipt of the epoch confirms a delivered frame. -/
def ReceiptsDelivered (epoch : Epoch) (trace : List ClientObservation) : Prop :=
  ∀ sequence, ClientObservation.receipted epoch sequence ∈ trace →
    ∃ connection frame, ClientObservation.delivered connection frame ∈ trace ∧
      frame.epoch = epoch ∧ frame.sequence = sequence

theorem heardEpochs_append (seen rest : List GatewayMessage) :
    heardEpochs (seen ++ rest) = heardEpochs seen ++ heardEpochs rest := by
  simp [heardEpochs]

theorem heardData_append (epoch : Epoch) (seen rest : List GatewayMessage) :
    heardData epoch (seen ++ rest) = heardData epoch seen ++ heardData epoch rest := by
  simp [heardData]

theorem heardEpochs_silent {message : GatewayMessage}
    (hsilent : ∀ epoch reason, message ≠ .state ⟨epoch, .synchronizing, reason⟩) :
    heardEpochs [message] = [] := by
  rcases message with ⟨epoch, state, reason⟩ | frame | _ | ⟨requestId, answer⟩
  · cases state with
    | synchronizing => exact absurd rfl (hsilent epoch reason)
    | _ => rfl
  all_goals rfl

theorem ReceiptsDelivered.append {epoch : Epoch} {trace rest : List ClientObservation}
    (h : ReceiptsDelivered epoch trace)
    (hrest : ∀ sequence, ClientObservation.receipted epoch sequence ∉ rest) :
    ReceiptsDelivered epoch (trace ++ rest) := by
  intro sequence hmem
  rcases List.mem_append.mp hmem with hmem | hmem
  · obtain ⟨connection, frame, hdelivered, hframe⟩ := h sequence hmem
    exact ⟨connection, frame, List.mem_append_left _ hdelivered, hframe⟩
  · exact absurd hmem (hrest sequence)

/-- What a subscription records while it hears `seen` on its connection, whose epochs are
all at least `first`. -/
structure Recorded (first : Epoch) (seen : List GatewayMessage)
    (trace : List ClientObservation) : Prop where
  accepted : ∀ epoch, ClientObservation.synchronizing epoch ∈ trace →
    epoch < first ∨ epoch ∈ heardEpochs seen
  receipts : ∀ epoch sequence, ClientObservation.receipted epoch sequence ∈ trace →
    ClientObservation.synchronizing epoch ∈ trace
  reported : ∀ before epoch, before ++ [.live epoch] <+: trace → ReceiptsDelivered epoch before

/-- An event that is neither the start of an epoch, a receipt nor a turn to live. -/
def ClientObservation.passing : ClientObservation → Bool
  | .synchronizing _ | .receipted _ _ | .live _ => false
  | _ => true

namespace Recorded

variable {first : Epoch} {seen : List GatewayMessage} {trace : List ClientObservation}

theorem passing {o : ClientObservation} (h : Recorded first seen trace) (ho : o.passing = true) :
    Recorded first seen (trace ++ [o]) where
  accepted := by
    intro epoch hmem
    rcases List.mem_append.mp hmem with hmem | hmem
    · exact h.accepted epoch hmem
    · rw [← List.mem_singleton.mp hmem] at ho
      cases ho
  receipts := by
    intro epoch sequence hmem
    rcases List.mem_append.mp hmem with hmem | hmem
    · exact List.mem_append_left _ (h.receipts epoch sequence hmem)
    · rw [← List.mem_singleton.mp hmem] at ho
      cases ho
  reported := by
    intro before epoch hpre
    rcases List.prefix_concat_iff.mp hpre with hsame | hpre
    · rw [← List.singleton_inj.mp (List.append_inj_right' hsame rfl)] at ho
      cases ho
    · exact h.reported before epoch hpre

theorem receipted {epoch : Epoch} {sequence : ℕ} (h : Recorded first seen trace)
    (hadopted : ClientObservation.synchronizing epoch ∈ trace) :
    Recorded first seen (trace ++ [.receipted epoch sequence]) where
  accepted := by
    intro other hmem
    rcases List.mem_append.mp hmem with hmem | hmem
    · exact h.accepted other hmem
    · cases List.mem_singleton.mp hmem
  receipts := by
    intro other number hmem
    rcases List.mem_append.mp hmem with hmem | hmem
    · exact List.mem_append_left _ (h.receipts other number hmem)
    · cases List.mem_singleton.mp hmem
      exact List.mem_append_left _ hadopted
  reported := by
    intro before other hpre
    rcases List.prefix_concat_iff.mp hpre with hsame | hpre
    · cases List.singleton_inj.mp (List.append_inj_right' hsame rfl)
    · exact h.reported before other hpre

theorem live {epoch : Epoch} (h : Recorded first seen trace)
    (hdelivered : ReceiptsDelivered epoch trace) :
    Recorded first seen (trace ++ [.live epoch]) where
  accepted := by
    intro other hmem
    rcases List.mem_append.mp hmem with hmem | hmem
    · exact h.accepted other hmem
    · cases List.mem_singleton.mp hmem
  receipts := by
    intro other sequence hmem
    rcases List.mem_append.mp hmem with hmem | hmem
    · exact List.mem_append_left _ (h.receipts other sequence hmem)
    · cases List.mem_singleton.mp hmem
  reported := by
    intro before other hpre
    rcases List.prefix_concat_iff.mp hpre with hsame | hpre
    · cases List.singleton_inj.mp (List.append_inj_right' hsame rfl)
      rw [List.append_inj_left' hsame rfl]
      exact hdelivered
    · exact h.reported before other hpre

theorem hears (h : Recorded first seen trace) (message : GatewayMessage) :
    Recorded first (seen ++ [message]) trace where
  accepted := by
    intro epoch hmem
    rw [heardEpochs_append]
    exact (h.accepted epoch hmem).imp_right fun hheard => List.mem_append_left _ hheard
  receipts := h.receipts
  reported := h.reported

theorem synchronizing {epoch : Epoch} {reason : Option ErrorCode} (h : Recorded first seen trace) :
    Recorded first (seen ++ [.state ⟨epoch, .synchronizing, reason⟩])
      (trace ++ [.synchronizing epoch]) where
  accepted := by
    intro other hmem
    rw [heardEpochs_append]
    rcases List.mem_append.mp hmem with hmem | hmem
    · exact (h.accepted other hmem).imp_right fun hheard => List.mem_append_left _ hheard
    · cases List.mem_singleton.mp hmem
      exact .inr (List.mem_append_right _ (List.mem_singleton.mpr rfl))
  receipts := by
    intro other sequence hmem
    rcases List.mem_append.mp hmem with hmem | hmem
    · exact List.mem_append_left _ (h.receipts other sequence hmem)
    · cases List.mem_singleton.mp hmem
  reported := by
    intro before other hpre
    rcases List.prefix_concat_iff.mp hpre with hsame | hpre
    · cases List.singleton_inj.mp (List.append_inj_right' hsame rfl)
    · exact h.reported before other hpre

/-- Nothing was receipted in an epoch that was not announced before. -/
theorem unreceipted {epoch : Epoch} (h : Recorded first seen trace) (hfirst : first ≤ epoch)
    (hnew : epoch ∉ heardEpochs seen) (sequence : ℕ) :
    ClientObservation.receipted epoch sequence ∉ trace := by
  intro hmem
  rcases h.accepted epoch (h.receipts epoch sequence hmem) with hlt | hheard
  · exact absurd hfirst (Nat.not_le.mpr hlt)
  · exact hnew hheard

end Recorded

namespace ClientSubscription

/-- The subscription heeds an epoch that the gateway announced on this connection. -/
def Attuned (connection : ConnectionId) (s : ClientSubscription) : Prop :=
  s.terminal = false ∧ s.attached = some connection ∧ s.connected connection = true ∧
    s.awaitingEpoch = false

/-- It has delivered what arrived of the epoch announced last. -/
def Following (seen : List GatewayMessage) (s : ClientSubscription) : Prop :=
  ∃ epoch, s.epoch = some epoch ∧ (heardEpochs seen).getLast? = some epoch ∧
    deliveriesSince s.trace = heardData epoch seen ∧ ReceiptsDelivered epoch s.trace ∧
    (s.state = .live → ∃ reason, GatewayMessage.state ⟨epoch, .live, reason⟩ ∈ seen)

/-- What holds also between a frame the subscription rejects and what it does about it. -/
structure Oriented (first : Epoch) (connection : ConnectionId) (seen : List GatewayMessage)
    (s : ClientSubscription) : Prop where
  recorded : Recorded first seen s.trace
  bound : ∀ other, s.attached = some other → other ≤ connection
  adopted : ∀ epoch, s.epoch = some epoch → ClientObservation.synchronizing epoch ∈ s.trace
  pending : s.resyncPending = true → s.awaitingEpoch = true
  knows : s.Attuned connection → s.serverKnows = true
  live : s.state = .live →
    s.terminal = false ∧ s.awaitingEpoch = false ∧ s.attached = some connection

structure Tracks (first : Epoch) (connection : ConnectionId) (seen : List GatewayMessage)
    (s : ClientSubscription) : Prop extends Oriented first connection seen s where
  following : s.Attuned connection → s.Following seen

variable {s s' : ClientSubscription} {first : Epoch} {connection : ConnectionId}
  {seen : List GatewayMessage}

theorem Attuned.of_alike (hsame : s.Alike s') (h : s'.Attuned connection) :
    s.Attuned connection := by
  obtain ⟨hview, hdropped⟩ := hsame
  simp only [view, Prod.mk.injEq] at hview
  obtain ⟨-, -, -, hterminal, hattached, -, -, -, hawaiting, -⟩ := hview
  obtain ⟨hopen, hbinding, hconnected, hready⟩ := h
  refine ⟨hterminal ▸ hopen, hattached ▸ hbinding, ?_, hawaiting ▸ hready⟩
  simp only [connected, decide_eq_true_eq] at hconnected ⊢
  exact fun hmem => hconnected (hdropped hmem)

theorem not_attuned_of_awaiting (hawaiting : s.awaitingEpoch = true) : ¬s.Attuned connection := by
  rintro ⟨-, -, -, hready⟩
  rw [hawaiting] at hready
  cases hready

theorem not_attuned_of_terminal (hterminal : s.terminal = true) : ¬s.Attuned connection := by
  rintro ⟨hopen, -⟩
  rw [hterminal] at hopen
  cases hopen

theorem not_attuned_of_detached (hattached : s.attached ≠ some connection) :
    ¬s.Attuned connection := fun h => hattached h.2.1

theorem Oriented.of_alike (h : s.Oriented first connection seen) (hsame : s.Alike s') :
    s'.Oriented first connection seen := by
  have hattuned : s'.Attuned connection → s.Attuned connection := Attuned.of_alike hsame
  have hview := hsame.1
  simp only [view, Prod.mk.injEq] at hview
  obtain ⟨-, -, hstate, hterminal, hattached, hknows, hepoch, hpending, hawaiting, -, -, -,
    htrace⟩ := hview
  constructor
  · rw [htrace]; exact h.recorded
  · rw [hattached]; exact h.bound
  · rw [hepoch, htrace]; exact h.adopted
  · rw [hpending, hawaiting]; exact h.pending
  · rw [hknows]; exact fun hs' => h.knows (hattuned hs')
  · rw [hstate, hterminal, hawaiting, hattached]; exact h.live

/-- The subscription waits for an epoch or is over, and is not live. -/
theorem Oriented.idles {o : ClientObservation} (h : s.Oriented first connection seen)
    (ho : o.passing = true) (htrace : s'.trace = s.trace ++ [o])
    (hbound : ∀ other, s'.attached = some other → other ≤ connection)
    (hepoch : s'.epoch = none ∨ s'.epoch = s.epoch)
    (hpending : s'.resyncPending = true → s'.awaitingEpoch = true)
    (hidle : s'.awaitingEpoch = true ∨ s'.terminal = true) (hstate : s'.state ≠ .live) :
    s'.Oriented first connection seen where
  recorded := htrace ▸ h.recorded.passing ho
  bound := hbound
  adopted := by
    intro epoch hs'
    rw [htrace]
    rcases hepoch with hnone | hsame
    · rw [hnone] at hs'
      cases hs'
    · exact List.mem_append_left _ (h.adopted epoch (hsame ▸ hs'))
  pending := hpending
  knows := by
    rintro ⟨hopen, -, -, hready⟩
    rcases hidle with hawaiting | hterminal
    · rw [hawaiting] at hready
      cases hready
    · rw [hterminal] at hopen
      cases hopen
  live := fun hlive => absurd hlive hstate

/-- The subscription waits for an epoch or is over; nothing is recorded. -/
theorem Oriented.rests (h : s.Oriented first connection seen) (htrace : s'.trace = s.trace)
    (hattached : s'.attached = s.attached) (hepoch : s'.epoch = s.epoch)
    (hawaiting : s'.awaitingEpoch = true) (hstate : s'.state ≠ .live) :
    s'.Oriented first connection seen where
  recorded := htrace ▸ h.recorded
  bound := hattached ▸ h.bound
  adopted := by
    rw [hepoch, htrace]
    exact h.adopted
  pending := fun _ => hawaiting
  knows := fun hs' => absurd hs' (not_attuned_of_awaiting hawaiting)
  live := fun hlive => absurd hlive hstate

theorem Oriented.not_live_of_terminal (h : s.Oriented first connection seen)
    (hterminal : s.terminal = true) : s.state ≠ .live := by
  intro hlive
  have hopen := (h.live hlive).1
  rw [hterminal] at hopen
  cases hopen

theorem pending_of_withState (state : SubscriptionState) (reason : Option ErrorCode)
    (hpending : (s.withState state reason).resyncPending = true) : s.resyncPending = true := by
  simp only [withState, Bool.and_eq_true] at hpending
  exact hpending.1

theorem robust_oriented :
    Robust (· ≤ connection) (Oriented first connection seen) where
  same := Oriented.of_alike
  bound := fun h hattached => h.bound _ hattached
  attach := by
    intro s other hother _ h
    refine h.idles (o := .attached other) rfl rfl ?_ (.inl rfl) ?_ (.inl rfl) (by simp [withState])
    · intro attached hattached
      cases hattached
      exact hother
    · intro _
      rfl
  detach := by
    intro s reason h
    refine h.idles (o := .detached) rfl rfl ?_ (.inr rfl) ?_ (.inl rfl) (by simp [withState])
    · intro attached hattached
      cases hattached
    · intro _
      rfl
  drop := by
    intro s hkept h
    refine h.idles (o := .detached) rfl rfl ?_ (.inr rfl) ?_ (.inl rfl) ?_
    · intro attached hattached
      cases hattached
    · intro _
      rfl
    · show s.state ≠ .live
      rcases hkept with hterminal | hstate
      · exact h.not_live_of_terminal hterminal
      · simp [hstate]
  ask := by
    intro s other _ h
    refine h.idles (o := .replacing s.epoch) rfl rfl h.bound (.inr rfl) ?_ (.inl rfl)
      (by simp [withState])
    intro _
    rfl
  ask_stale := by
    intro s other _ hkept h
    refine h.idles (o := .replacing s.epoch) rfl rfl h.bound (.inr rfl) ?_ (.inl rfl) ?_
    · intro _
      rfl
    · show s.state ≠ .live
      rcases hkept with hstate | hterminal
      · simp [hstate]
      · exact h.not_live_of_terminal hterminal
  finish := by
    intro s known state reason hstate _ h
    refine h.idles (o := .detached) rfl rfl ?_ (.inr rfl) ?_ (.inr rfl) ?_
    · intro attached hattached
      cases hattached
    · exact fun hpending => h.pending (pending_of_withState state reason hpending)
    · show state ≠ .live
      rcases hstate with rfl | rfl <;> simp
  know := by
    intro s h
    exact ⟨h.recorded, h.bound, h.adopted, h.pending, fun _ => rfl, h.live⟩
  settle := by
    intro s state reason _ hlive _ _ h
    exact ⟨h.recorded, h.bound, h.adopted, fun hpending => h.pending (pending_of_withState state reason hpending),
      h.knows, fun hs => absurd hs hlive⟩
  abandon := by
    intro s reason _ h
    exact h.rests rfl rfl rfl rfl (by simp [withState])
  refuse := by
    intro s state reason hstate _ h
    refine h.rests rfl rfl rfl rfl ?_
    show state ≠ .live
    rcases hstate with rfl | rfl <;> simp
  refuse_over := by
    intro s hterminal h
    exact h.rests rfl rfl rfl rfl (h.not_live_of_terminal hterminal)

theorem robust_tracks : Robust (· ≤ connection) (Tracks first connection seen) where
  same := by
    intro s s' h hsame
    refine ⟨robust_oriented.same h.toOriented hsame, ?_⟩
    intro hattuned
    obtain ⟨epoch, hepoch, hlast, hdata, hdelivered, hlive⟩ :=
      h.following (Attuned.of_alike hsame hattuned)
    have hview := hsame.1
    simp only [view, Prod.mk.injEq] at hview
    obtain ⟨-, -, hstate, -, -, -, hepoch', -, -, -, -, -, htrace⟩ := hview
    refine ⟨epoch, hepoch'.trans hepoch, hlast, ?_, ?_, ?_⟩
    · rw [htrace]; exact hdata
    · rw [htrace]; exact hdelivered
    · rw [hstate]; exact hlive
  bound := fun h hattached => h.bound _ hattached
  attach := fun s other hother hopen h =>
    ⟨robust_oriented.attach s other hother hopen h.toOriented,
      fun hs => absurd hs (not_attuned_of_awaiting rfl)⟩
  detach := fun s reason h =>
    ⟨robust_oriented.detach s reason h.toOriented,
      fun hs => absurd hs (not_attuned_of_awaiting rfl)⟩
  drop := fun s hkept h =>
    ⟨robust_oriented.drop s hkept h.toOriented,
      fun hs => absurd hs (not_attuned_of_awaiting rfl)⟩
  ask := fun s other hattached h =>
    ⟨robust_oriented.ask s other hattached h.toOriented,
      fun hs => absurd hs (not_attuned_of_awaiting rfl)⟩
  ask_stale := fun s other hattached hkept h =>
    ⟨robust_oriented.ask_stale s other hattached hkept h.toOriented,
      fun hs => absurd hs (not_attuned_of_awaiting rfl)⟩
  finish := fun s known state reason hstate hopen h =>
    ⟨robust_oriented.finish s known state reason hstate hopen h.toOriented,
      fun hs => absurd hs (not_attuned_of_terminal rfl)⟩
  know := fun s h => ⟨robust_oriented.know s h.toOriented, h.following⟩
  settle := by
    intro s state reason hopen hlive hclosed hfailed h
    refine ⟨robust_oriented.settle s state reason hopen hlive hclosed hfailed h.toOriented, ?_⟩
    intro hattuned
    obtain ⟨epoch, hepoch, hlast, hdata, hdelivered, -⟩ := h.following hattuned
    exact ⟨epoch, hepoch, hlast, hdata, hdelivered, fun hs => absurd hs hlive⟩
  abandon := fun s reason hopen h =>
    ⟨robust_oriented.abandon s reason hopen h.toOriented,
      fun hs => absurd hs (not_attuned_of_awaiting rfl)⟩
  refuse := fun s state reason hstate hopen h =>
    ⟨robust_oriented.refuse s state reason hstate hopen h.toOriented,
      fun hs => absurd hs (not_attuned_of_awaiting rfl)⟩
  refuse_over := fun s hterminal h =>
    ⟨robust_oriented.refuse_over s hterminal h.toOriented,
      fun hs => absurd hs (not_attuned_of_awaiting rfl)⟩

/-- What was recorded stays recorded. -/
theorem stable_recorded (o : ClientObservation) :
    Stable (fun _ => True) (fun s : ClientSubscription => o ∈ s.trace) where
  same := by
    intro s s' h hsame
    have hview := hsame.1
    simp only [view, Prod.mk.injEq] at hview
    exact hview.2.2.2.2.2.2.2.2.2.2.2.2 ▸ h
  bound := fun _ _ => trivial
  attach := fun _ _ _ _ h => List.mem_append_left _ h
  detach := fun _ _ h => List.mem_append_left _ h
  drop := fun _ _ h => List.mem_append_left _ h
  ask := fun _ _ _ h => List.mem_append_left _ h
  ask_stale := fun _ _ _ _ h => List.mem_append_left _ h
  finish := fun _ _ _ _ _ _ h => List.mem_append_left _ h

theorem stable_unattuned :
    Stable (fun _ => True) (fun s : ClientSubscription => ¬s.Attuned connection) where
  same := fun h hsame hattuned => h (Attuned.of_alike hsame hattuned)
  bound := fun _ _ => trivial
  attach := fun _ _ _ _ _ => not_attuned_of_awaiting rfl
  detach := fun _ _ _ => not_attuned_of_awaiting rfl
  drop := fun _ _ _ => not_attuned_of_awaiting rfl
  ask := fun _ _ _ _ => not_attuned_of_awaiting rfl
  ask_stale := fun _ _ _ _ _ => not_attuned_of_awaiting rfl
  finish := fun _ _ _ _ _ _ _ => not_attuned_of_terminal rfl

/-- The subscription has announced that its view is stale and not yet acted on it. -/
def Yielding (connection : ConnectionId) (s : ClientSubscription) : Prop :=
  s.Attuned connection → s.state = .stale

theorem stable_yielding :
    Stable (fun _ => True) (fun s : ClientSubscription => s.Yielding connection) where
  same := by
    intro s s' h hsame hattuned
    have hview := hsame.1
    simp only [view, Prod.mk.injEq] at hview
    rw [hview.2.2.1]
    exact h (Attuned.of_alike hsame hattuned)
  bound := fun _ _ => trivial
  attach := fun _ _ _ _ _ hs => absurd hs (not_attuned_of_awaiting rfl)
  detach := fun _ _ _ hs => absurd hs (not_attuned_of_awaiting rfl)
  drop := fun _ _ _ hs => absurd hs (not_attuned_of_awaiting rfl)
  ask := fun _ _ _ _ hs => absurd hs (not_attuned_of_awaiting rfl)
  ask_stale := fun _ _ _ _ _ hs => absurd hs (not_attuned_of_awaiting rfl)
  finish := fun _ _ _ _ _ _ _ hs => absurd hs (not_attuned_of_terminal rfl)

section Rejecting

variable {l : Listeners} (hl : Preserves (fun s => ¬s.Attuned connection) l)

include hl

/-- A stale subscription that asks for a fresh synchronization waits for its epoch. -/
theorem Oriented.requestFreshSynchronization (h : s.Oriented first connection seen)
    (hyielding : s.Yielding connection) :
    ¬(s.requestFreshSynchronization l).Attuned connection := by
  unfold ClientSubscription.requestFreshSynchronization
  split
  · case h_1 hnone =>
      apply not_attuned_of_detached
      rw [hnone]
      simp
  · case h_2 other hattached =>
      split
      · case isTrue hdown =>
          rintro ⟨-, hbinding, hconnected, -⟩
          rw [hattached] at hbinding
          cases hbinding
          simp [hconnected] at hdown
      · split
        · case isTrue hunknown =>
            have hunattuned : ¬s.Attuned connection := by
              intro hattuned
              simp [h.knows hattuned] at hunknown
            split
            · exact hunattuned
            · exact hl.attach stable_unattuned trivial hunattuned
        · split
          · case isTrue hjoined =>
              intro hattuned
              have hstale := hyielding hattuned
              have hidle : s.resyncPending = false := by
                by_contra hpending
                have hawaiting := h.pending (by simpa using hpending)
                exact not_attuned_of_awaiting hawaiting hattuned
              simp [hstale, hidle] at hjoined
          · apply stable_unattuned.same _ (alike_request _ _)
            split
            · apply hl.setState
              · intro _ _
                exact not_attuned_of_awaiting rfl
              · intro _
                exact not_attuned_of_awaiting rfl
            · exact not_attuned_of_awaiting rfl

/-- A rejected frame makes the subscription wait for another epoch, or ends its use of the
connection. -/
theorem Oriented.localSyncFailure (horiented : Preserves (Oriented first connection seen) l)
    (hyields : Preserves (Yielding connection) l) {code : ErrorCode}
    (h : s.Oriented first connection seen) :
    ¬(s.localSyncFailure l code).Attuned connection := by
  have hreported : (l.report s).Oriented first connection seen := horiented.report s h
  unfold ClientSubscription.localSyncFailure
  dsimp only
  split
  · case isTrue hterminal => exact not_attuned_of_terminal hterminal
  · case isFalse hopen =>
      have hterminal : (l.report s).countFailure.terminal = false := Bool.eq_false_iff.mpr hopen
      have hcounted : (l.report s).countFailure.Oriented first connection seen :=
        hreported.of_alike (.of_eq rfl rfl)
      split
      · apply hl.setState
        · intro _ _
          exact not_attuned_of_awaiting rfl
        · intro _
          exact not_attuned_of_awaiting rfl
      · apply Oriented.requestFreshSynchronization hl
        · apply horiented.setState_open hterminal
          exact robust_oriented.settle _ _ _ hterminal (by simp) (by simp) (by simp) hcounted
        · apply hyields.setState_open hterminal
          intro _
          rfl

end Rejecting

section Hearing

/-- What the connection promises of a message: an announced epoch is new on it. -/
def Announces (first : Epoch) (seen : List GatewayMessage) : GatewayMessage → Prop
  | .state ⟨epoch, .synchronizing, _⟩ =>
      first ≤ epoch ∧ epoch ∉ heardEpochs seen ∧ heardData epoch seen = []
  | _ => True

theorem Oriented.hears (h : s.Oriented first connection seen) (message : GatewayMessage) :
    s.Oriented first connection (seen ++ [message]) :=
  ⟨h.recorded.hears message, h.bound, h.adopted, h.pending, h.knows, h.live⟩

/-- A message of no interest to the epoch the subscription follows. -/
theorem Tracks.hears {message : GatewayMessage} (h : s.Tracks first connection seen)
    (hpassed : s.Attuned connection → heardEpochs [message] = [] ∧
      ∀ epoch, s.epoch = some epoch → heardData epoch [message] = []) :
    s.Tracks first connection (seen ++ [message]) := by
  refine ⟨h.toOriented.hears message, ?_⟩
  intro hattuned
  obtain ⟨epoch, hepoch, hlast, hdata, hdelivered, hlive⟩ := h.following hattuned
  obtain ⟨hsilent, hother⟩ := hpassed hattuned
  refine ⟨epoch, hepoch, ?_, ?_, hdelivered, ?_⟩
  · rw [heardEpochs_append, hsilent, List.append_nil]
    exact hlast
  · rw [heardData_append, hother epoch hepoch, List.append_nil]
    exact hdata
  · intro hstate
    obtain ⟨reason, hmem⟩ := hlive hstate
    exact ⟨reason, List.mem_append_left _ hmem⟩

variable {l : Listeners}

theorem Tracks.handleState
    (hl : ∀ seen, Preserves (Tracks first connection seen) l) {frame : SubscriptionFrame}
    (h : s.Tracks first connection seen) (hconnected : s.connected connection = true)
    (hannounces : Announces first seen (.state frame)) :
    (s.handleState l connection frame).Tracks first connection (seen ++ [.state frame]) := by
  by_cases hframe : frame.state = .synchronizing
  · obtain ⟨epoch, state, reason⟩ := frame
    cases hframe
    obtain ⟨hfirst, hnew, hnone⟩ := hannounces
    unfold ClientSubscription.handleState
    split
    · case isTrue hignored =>
        refine ⟨h.toOriented.hears _, ?_⟩
        rintro ⟨hopen, hattached, -⟩
        simp [hopen, hattached] at hignored
    · case isFalse hheeded =>
        simp only [Bool.or_eq_true, decide_eq_true_eq, not_or, not_not] at hheeded
        obtain ⟨hopen, hattached⟩ := hheeded
        have hterminal : s.terminal = false := Bool.eq_false_iff.mpr hopen
        dsimp only
        rw [if_pos rfl, if_neg]
        · apply (hl _).setState_open
          · exact hterminal
          · refine ⟨⟨h.recorded.synchronizing, h.bound, ?_, ?_, fun _ => rfl, ?_⟩, ?_⟩
            · intro other hother
              cases hother
              exact List.mem_append_right _ (List.mem_singleton.mpr rfl)
            · intro hpending
              simp [withState, acceptEpoch, ClientSubscription.emit] at hpending
            · intro hlive
              cases hlive
            · intro _
              refine ⟨epoch, rfl, ?_, ?_, ?_, ?_⟩
              · rw [heardEpochs_append]
                exact List.getLast?_concat
              · rw [heardData_append, hnone]
                show deliveriesSince (s.trace ++ [.synchronizing epoch]) = _
                rw [deliveriesSince_concat]
                rfl
              · intro sequence hmem
                rcases List.mem_append.mp hmem with hmem | hmem
                · exact absurd hmem (h.recorded.unreceipted hfirst hnew sequence)
                · cases List.mem_singleton.mp hmem
              · intro hlive
                cases hlive
        · rintro ⟨hepoch, hready⟩
          have hattuned : s.Attuned connection :=
            ⟨hterminal, hattached, hconnected, by simpa using hready⟩
          obtain ⟨followed, hfollowed, hlast, -⟩ := h.following hattuned
          rw [hfollowed] at hepoch
          cases hepoch
          exact hnew (List.mem_of_getLast? hlast)
  · have hheard : s.Tracks first connection (seen ++ [.state frame]) := by
      apply h.hears
      intro _
      refine ⟨heardEpochs_silent ?_, fun _ _ => rfl⟩
      intro epoch reason hsame
      cases hsame
      exact hframe rfl
    apply (hl _).handleState robust_tracks hheard
    · exact fun _ _ hsynchronizing _ => absurd hsynchronizing hframe
    · intro hattached hterminal hstate hawaiting hepoch
      have hattuned : s.Attuned connection := ⟨hterminal, hattached, hconnected, hawaiting⟩
      obtain ⟨epoch, hfollowed, hlast, hdata, hdelivered, -⟩ := hheard.following hattuned
      have hsame : epoch = frame.epoch := by
        rw [hfollowed] at hepoch
        exact hepoch
      have hreported := hheard.recorded.live hdelivered
      refine ⟨⟨hsame ▸ hreported, hheard.bound, ?_, ?_, fun _ => rfl, ?_⟩, ?_⟩
      · intro other hother
        exact List.mem_append_left _ (hheard.adopted other hother)
      · exact fun hpending => hheard.pending (pending_of_withState .live none hpending)
      · exact fun _ => ⟨hterminal, hawaiting, hattached⟩
      · intro _
        refine ⟨epoch, hfollowed, hlast, ?_, ?_, ?_⟩
        · show deliveriesSince (s.trace ++ [.live frame.epoch]) = _
          rw [deliveriesSince_concat]
          exact hdata
        · apply hdelivered.append
          simp
        · intro _
          refine ⟨frame.reason, List.mem_append_right _ (List.mem_singleton.mpr ?_)⟩
          rw [hsame, ← hstate]

/-- A receipt of an epoch the subscription accepted. -/
theorem Oriented.receipt {epoch : Epoch} {sequence : ℕ} (h : s.Oriented first connection seen)
    (hadopted : ClientObservation.synchronizing epoch ∈ s.trace) :
    (s.receipt connection epoch sequence).Oriented first connection seen := by
  unfold ClientSubscription.receipt
  split
  · refine ⟨h.recorded.receipted hadopted, h.bound, ?_, h.pending, h.knows, h.live⟩
    intro other hother
    exact List.mem_append_left _ (h.adopted other hother)
  · exact h

theorem attuned_receipt {epoch : Epoch} {sequence : ℕ}
    (h : (s.receipt connection epoch sequence).Attuned connection) : s.Attuned connection := by
  unfold ClientSubscription.receipt at h
  split at h
  · exact h
  · exact h

/-- A receipt of a delivered frame. -/
theorem Tracks.receipt {frame : DataFrame} (h : s.Tracks first connection seen)
    (hadopted : ClientObservation.synchronizing frame.epoch ∈ s.trace)
    (hdelivered : ClientObservation.delivered connection frame ∈ s.trace) :
    (s.receipt connection frame.epoch frame.sequence).Tracks first connection seen := by
  refine ⟨h.toOriented.receipt hadopted, ?_⟩
  intro hattuned
  obtain ⟨epoch, hepoch, hlast, hdata, hreceipts, hlive⟩ := h.following (attuned_receipt hattuned)
  unfold ClientSubscription.receipt
  split
  · refine ⟨epoch, hepoch, hlast, ?_, ?_, hlive⟩
    · show deliveriesSince (s.trace ++ [.receipted frame.epoch frame.sequence]) = _
      rw [deliveriesSince_concat]
      exact hdata
    · intro sequence hmem
      rcases List.mem_append.mp hmem with hmem | hmem
      · obtain ⟨other, earlier, hearlier, hsame⟩ := hreceipts sequence hmem
        exact ⟨other, earlier, List.mem_append_left _ hearlier, hsame⟩
      · cases List.mem_singleton.mp hmem
        exact ⟨connection, frame, List.mem_append_left _ hdelivered, rfl, rfl⟩
  · exact ⟨epoch, hepoch, hlast, hdata, hreceipts, hlive⟩

/-- The next frame of the epoch is delivered. -/
theorem Tracks.acceptFrame {frame : DataFrame} (h : s.Tracks first connection seen)
    (hepoch : s.epoch = some frame.epoch) :
    ((({ s with serverKnows := true } : ClientSubscription).emit (.heard frame)).acceptFrame
      connection frame).Tracks first connection (seen ++ [.data frame]) := by
  have hrecorded : Recorded first (seen ++ [.data frame])
      (s.trace ++ [.heard frame] ++ [.delivered connection frame]) :=
    ((h.recorded.hears _).passing (o := .heard frame) rfl).passing
      (o := .delivered connection frame) rfl
  refine ⟨⟨hrecorded, h.bound, ?_, h.pending, fun _ => rfl, h.live⟩, ?_⟩
  · intro other hother
    exact List.mem_append_left _ (List.mem_append_left _ (h.adopted other hother))
  · intro hattuned
    obtain ⟨epoch, hfollowed, hlast, hdata, hreceipts, hlive⟩ := h.following hattuned
    rw [hepoch] at hfollowed
    cases hfollowed
    refine ⟨frame.epoch, hepoch, ?_, ?_, ?_, ?_⟩
    · rw [heardEpochs_append, heardEpochs_silent (by simp), List.append_nil]
      exact hlast
    · show deliveriesSince (s.trace ++ [.heard frame] ++ [.delivered connection frame]) = _
      rw [deliveriesSince_concat, deliveriesSince_concat, heardData_append]
      dsimp only
      rw [hdata]
      simp [heardData]
    · apply ReceiptsDelivered.append
      · apply hreceipts.append
        simp
      · simp
    · intro hstate
      obtain ⟨reason, hmem⟩ := hlive hstate
      exact ⟨reason, List.mem_append_left _ hmem⟩

theorem Tracks.handleData {depth : ℕ} {frame : DataFrame}
    (h : s.Tracks first connection seen) :
    (s.handleData (listeners depth) connection frame).Tracks first connection
      (seen ++ [.data frame]) := by
  have hl : Preserves (Tracks first connection (seen ++ [.data frame])) (listeners depth) :=
    robust_tracks.toStable.listeners depth
  have hheard : ((({ s with serverKnows := true } : ClientSubscription).emit
      (.heard frame))).Oriented first connection (seen ++ [.data frame]) := by
    refine ⟨(h.recorded.hears _).passing rfl, h.bound, ?_, h.pending, fun _ => rfl, h.live⟩
    intro other hother
    exact List.mem_append_left _ (h.adopted other hother)
  unfold ClientSubscription.handleData
  split
  · case isTrue hignored =>
      refine ⟨h.toOriented.hears _, ?_⟩
      rintro ⟨hopen, hattached, -⟩
      simp [hopen, hattached] at hignored
  · dsimp only
    split
    · case isTrue hpassed =>
        have hunattuned : s.epoch = some frame.epoch → ¬s.Attuned connection := by
          intro hepoch
          rcases hpassed with hawaiting | hother
          · exact not_attuned_of_awaiting hawaiting
          · exact absurd hepoch hother
        split
        · case isTrue hepoch =>
            refine ⟨hheard.receipt (hheard.adopted _ hepoch), ?_⟩
            exact fun hattuned => absurd (attuned_receipt hattuned) (hunattuned hepoch)
        · case isFalse hother =>
            refine ⟨hheard, ?_⟩
            intro hattuned
            have hpassing : s.Tracks first connection (seen ++ [.data frame]) := by
              apply h.hears
              intro _
              refine ⟨heardEpochs_silent (by simp), ?_⟩
              intro epoch hepoch
              have hne : frame.epoch ≠ epoch := by
                rintro rfl
                exact hother hepoch
              simp [heardData, hne]
            obtain ⟨epoch, hfollowed, hlast, hdata, hreceipts, hlive⟩ :=
              hpassing.following hattuned
            refine ⟨epoch, hfollowed, hlast, ?_, ?_, hlive⟩
            · show deliveriesSince (s.trace ++ [.heard frame]) = _
              rw [deliveriesSince_concat]
              exact hdata
            · apply hreceipts.append
              simp
    · case isFalse hready =>
        simp only [not_or, not_not, Bool.not_eq_true] at hready
        split
        · have horiented : Preserves (Oriented first connection (seen ++ [.data frame]))
              (listeners depth) := robust_oriented.toStable.listeners depth
          refine ⟨horiented.localSyncFailure robust_oriented hheard, ?_⟩
          intro hattuned
          exact absurd hattuned (Oriented.localSyncFailure (stable_unattuned.listeners depth)
            horiented (stable_yielding.listeners depth) hheard)
        · have haccepted := h.acceptFrame hready.2
          generalize hstate : (({ s with serverKnows := true } : ClientSubscription).emit
            (.heard frame)).acceptFrame connection frame = accepted at haccepted
          have htrace : accepted.trace =
              s.trace ++ [.heard frame] ++ [.delivered connection frame] := by
            rw [← hstate]
            rfl
          have hadopted : ClientObservation.synchronizing frame.epoch ∈ accepted.trace := by
            rw [htrace]
            exact List.mem_append_left _ (hheard.adopted _ hready.2)
          have hdelivered : ClientObservation.delivered connection frame ∈ accepted.trace := by
            rw [htrace]
            exact List.mem_append_right _ (List.mem_singleton.mpr rfl)
          have hnotified := hl.notify accepted haccepted
          have hstill := ((stable_recorded _).listeners depth).notify accepted hadopted
          have hkept := ((stable_recorded _).listeners depth).notify accepted hdelivered
          split
          · case h_1 s' heq =>
              rw [heq] at hnotified
              exact hnotified
          · case h_2 s' heq =>
              rw [heq] at hnotified hstill hkept
              exact hnotified.receipt hstill hkept

end Hearing

/-- A frame arrives on the connection. -/
theorem Tracks.arrives {message : GatewayMessage} {script : List (List Reaction)}
    (h : s.Tracks first connection seen) (hconnected : s.connected connection = true)
    (hframe : message.isFrame = true) (hannounces : Announces first seen message) :
    (s.step ⟨Link.arrival connection message, script⟩).Tracks first connection
      (seen ++ [message]) := by
  have hscripted : Tracks first connection seen { s with script := script } :=
    robust_tracks.same h (.of_eq rfl rfl)
  cases message with
  | state frame =>
      apply hscripted.handleState
      · exact hconnected
      · exact hannounces
      · exact fun _ => robust_tracks.toStable.listeners script.length
  | data frame => exact hscripted.handleData
  | error =>
      have hheard : Tracks first connection (seen ++ [.error]) { s with script := script } :=
        hscripted.hears fun _ => ⟨rfl, fun _ _ => rfl⟩
      exact (robust_tracks.toStable.listeners script.length).handleError hheard
  | answer requestId answer => cases hframe

/-- Anything but a frame or a change of connection. -/
theorem Tracks.steps {event : ClientStep} {script : List (List Reaction)}
    (h : s.Tracks first connection seen) (hattach : ∀ other, event ≠ .attach other)
    (hstate : ∀ other frame, event ≠ .state other frame)
    (hdata : ∀ other frame, event ≠ .data other frame) :
    (s.step ⟨event, script⟩).Tracks first connection seen := by
  have hscripted : Tracks first connection seen { s with script := script } :=
    robust_tracks.same h (.of_eq rfl rfl)
  apply robust_tracks.handle (robust_tracks.toStable.listeners script.length) hscripted
  · exact fun other hevent => absurd hevent (hattach other)
  · exact hstate
  · exact hdata

/-- The subscription is attached to a new connection, on which only newer epochs come. -/
theorem Tracks.attaches {next : ConnectionId} {start : Epoch} {script : List (List Reaction)}
    (h : s.Tracks first connection seen) (hnext : connection ≤ next)
    (hfirst : first ≤ start) (hheard : ∀ epoch ∈ heardEpochs seen, epoch < start) :
    (s.step ⟨.attach next, script⟩).Tracks start next [] := by
  have hrecorded : Recorded start [] s.trace := by
    refine ⟨?_, h.recorded.receipts, h.recorded.reported⟩
    intro epoch hmem
    rcases h.recorded.accepted epoch hmem with hlt | hmem
    · exact .inl (hlt.trans_le hfirst)
    · exact .inl (hheard epoch hmem)
  have hbound : ∀ other, s.attached = some other → other ≤ next :=
    fun other hattached => (h.bound other hattached).trans hnext
  show Tracks start next [] (ClientSubscription.attach (listeners script.length) next
    { s with script := script })
  unfold ClientSubscription.attach
  split
  · case isTrue hterminal =>
      refine ⟨⟨hrecorded, hbound, h.adopted, h.pending, ?_, ?_⟩, ?_⟩
      · exact fun hattuned => absurd hattuned (not_attuned_of_terminal hterminal)
      · exact fun hlive => absurd hlive (h.not_live_of_terminal hterminal)
      · exact fun hattuned => absurd hattuned (not_attuned_of_terminal hterminal)
  · case isFalse hopen =>
      have hl : Preserves (Tracks start next []) (listeners script.length) :=
        robust_tracks.toStable.listeners script.length
      have hset : Tracks start next [] (({ s with script := script } : ClientSubscription).attaching
          next |>.setState (listeners script.length) .authorizing none false) := by
        apply hl.setState_open
        · exact Bool.eq_false_iff.mpr hopen
        · refine ⟨⟨hrecorded.passing (o := .attached next) rfl, ?_, ?_, ?_, ?_, ?_⟩, ?_⟩
          · intro other hattached
            cases hattached
            exact Nat.le_refl _
          · intro epoch hepoch
            cases hepoch
          · exact fun _ => rfl
          · exact fun hattuned => absurd hattuned (not_attuned_of_awaiting rfl)
          · intro hlive
            cases hlive
          · exact fun hattuned => absurd hattuned (not_attuned_of_awaiting rfl)
      exact robust_tracks.same hset (alike_request _ _)

end ClientSubscription

end StreamOtter
