import StreamOtter.Revocation
import Mathlib.Data.List.Pairwise

/-!
# Revocation is complete

Every revocation of a session or a subject is in the log until expiry or the log's bound
drops it, so a session opened while the log still holds it is closed at once.  The invariant
says for each open session which revocations may match it: only those that the log had
forgotten when the session was opened.
-/

namespace StreamOtter

namespace RevocationEntry

/-- At the log's position `n` the entry may have been dropped: a bound's worth of
revocations was recorded since, or one that came after its retention. -/
def Forgotten (retentionMs : ℕ) (history : List RevocationEntry) (n : ℕ)
    (entry : RevocationEntry) : Prop :=
  entry.seq + maxRevocationEntries ≤ n ∨
    ∃ later ∈ history, entry.seq < later.seq ∧ later.seq ≤ n ∧
      entry.time + retentionMs < later.time

theorem Forgotten.mono
    {retentionMs n n' : ℕ} {history history' : List RevocationEntry} {entry : RevocationEntry}
    (h : entry.Forgotten retentionMs history n) (hn : n ≤ n') (hsub : history ⊆ history') :
    entry.Forgotten retentionMs history' n' := by
  rcases h with hbound | ⟨later, hlater, hafter, hupto, hexpired⟩
  · left
    omega
  · exact .inr ⟨later, hsub hlater, hafter, Nat.le_trans hupto hn, hexpired⟩

end RevocationEntry

namespace RevocationLog

/-- The log keeps what it has not had reason to forget. -/
structure Keeps (retentionMs : ℕ) (history : List RevocationEntry) (log : RevocationLog) :
    Prop where
  recorded : ∀ entry ∈ history, entry.seq ≤ log.sequence
  ordered : log.entries.Pairwise fun a b => a.seq < b.seq
  held : ∀ entry ∈ log.entries, entry.seq ≤ log.sequence
  kept : ∀ entry ∈ history,
    entry ∈ log.entries ∨ entry.Forgotten retentionMs history log.sequence

theorem keeps_empty (retentionMs : ℕ) : Keeps retentionMs [] .empty := by
  constructor <;> simp [empty]

/-- In a list of increasing positions the first one is as far from the bound as the list is
long. -/
theorem length_le_of_ordered
    {entries : List RevocationEntry} {n : ℕ}
    (hordered : entries.Pairwise fun a b => a.seq < b.seq)
    (hheld : ∀ entry ∈ entries, entry.seq ≤ n) :
    ∀ entry ∈ entries.head?, entry.seq + entries.length ≤ n + 1 := by
  induction entries with
  | nil => simp
  | cons first rest ih =>
      intro entry hentry
      obtain rfl : first = entry := by simpa using hentry
      have hfirst := List.pairwise_cons.mp hordered
      cases rest with
      | nil =>
          have hle := hheld first (by simp)
          simp only [List.length_cons, List.length_nil]
          omega
      | cons second rest =>
          have hrest := ih hfirst.2 (fun e he => hheld e (by simp [he])) second (by simp)
          have hlt := hfirst.1 second (by simp)
          simp only [List.length_cons] at hrest ⊢
          omega

theorem pruned_sublist (retentionMs now : ℕ) (log : RevocationLog) :
    (log.pruned retentionMs now).Sublist log.entries := by
  unfold pruned
  dsimp only
  split
  · exact (List.tail_sublist _).trans List.filter_sublist
  · exact List.filter_sublist

theorem mem_tail_or_head
    {entries : List RevocationEntry} {entry : RevocationEntry} (hentry : entry ∈ entries) :
    entry ∈ entries.head? ∨ entry ∈ entries.tail := by
  cases entries with
  | nil => simp at hentry
  | cons first rest =>
      rcases List.mem_cons.mp hentry with rfl | hrest
      · simp
      · exact .inr hrest

theorem Keeps.add
    {retentionMs now : ℕ} {history : List RevocationEntry} {log : RevocationLog}
    (h : log.Keeps retentionMs history) (selector : Revocation)
    (canonicalParams : Option String) :
    (log.add retentionMs now selector canonicalParams).Keeps retentionMs
      (history ++ [⟨log.sequence + 1, now, selector, canonicalParams⟩]) := by
  have hsublist := log.pruned_sublist retentionMs now
  constructor
  · intro entry hentry
    rcases List.mem_append.mp hentry with hold | hnew
    · exact Nat.le_trans (h.recorded entry hold) (Nat.le_succ _)
    · obtain rfl := List.mem_singleton.mp hnew
      exact le_rfl
  · simp only [RevocationLog.add]
    rw [List.pairwise_append]
    refine ⟨h.ordered.sublist hsublist, by simp, ?_⟩
    intro entry hentry new hnew
    obtain rfl := List.mem_singleton.mp hnew
    have hle := h.held entry (hsublist.subset hentry)
    dsimp only
    omega
  · intro entry hentry
    rcases List.mem_append.mp hentry with hold | hnew
    · exact Nat.le_trans (h.held entry (hsublist.subset hold)) (Nat.le_succ _)
    · obtain rfl := List.mem_singleton.mp hnew
      exact le_rfl
  · intro entry hentry
    rcases List.mem_append.mp hentry with hold | hnew
    · rcases h.kept entry hold with hin | hforgotten
      · by_cases hfresh : now - entry.time ≤ retentionMs
        · have hfiltered : entry ∈ log.entries.filter fun e => now - e.time ≤ retentionMs := by
            exact List.mem_filter.mpr ⟨hin, by simpa using hfresh⟩
          by_cases hfull : maxRevocationEntries ≤
              (log.entries.filter fun e => now - e.time ≤ retentionMs).length
          · rcases mem_tail_or_head hfiltered with hhead | htail
            · right
              left
              have hlength := length_le_of_ordered
                (h.ordered.sublist List.filter_sublist)
                (fun e he => h.held e (List.filter_sublist.subset he)) entry hhead
              simp only [RevocationLog.add]
              omega
            · left
              simp only [RevocationLog.add, pruned, if_pos hfull]
              exact List.mem_append_left _ htail
          · left
            simp only [RevocationLog.add, pruned, if_neg hfull]
            exact List.mem_append_left _ hfiltered
        · right
          right
          refine ⟨⟨log.sequence + 1, now, selector, canonicalParams⟩, by simp, ?_, le_rfl, ?_⟩
          · exact Nat.lt_succ_of_le (h.recorded entry hold)
          · dsimp only
            omega
      · exact .inr (hforgotten.mono (Nat.le_succ _) (by simp))
    · left
      obtain rfl := List.mem_singleton.mp hnew
      simp [RevocationLog.add]

theorem not_ends_of_revokedSince
    {log : RevocationLog} {sinceSeq : ℕ} {principal : Principal}
    (hclear : log.revokedSince sinceSeq principal none = false) {entry : RevocationEntry}
    (hentry : entry ∈ log.entries) (hafter : sinceSeq < entry.seq) :
    ¬entry.selector.Ends principal := by
  rintro ⟨hkind, hmatches⟩
  unfold revokedSince at hclear
  rw [List.any_eq_false] at hclear
  apply hclear entry hentry
  have hrevokes : revokes entry principal none = true := by
    unfold revokes
    rw [hmatches]
    cases hselector : entry.selector with
    | channel => simp [hselector, Revocation.isChannel] at hkind
    | session => rfl
    | subject => rfl
  simp [hrevokes, hafter]

end RevocationLog

namespace Gateway

/-- A revocation of this principal since the handshake began was recorded before the session
was opened, and the log had dropped it by then. -/
def Excused (c : GatewayConfig) (g : Gateway) (session : ClientSession)
    (entry : RevocationEntry) : Prop :=
  entry.seq ≤ session.openedSeq ∧
    entry.Forgotten c.retentionMs g.history session.openedSeq

/-- No revocation misses a session that the log could have known about. -/
structure RevocationComplete (c : GatewayConfig) (g : Gateway) : Prop where
  /-- Right after a revocation of a session or subject no session it names is open. -/
  revoked : ∀ now selector, selector.isChannel = false →
    ∀ session ∈ (g.revoke c now selector).sessions,
      selector.matchesPrincipal session.principal = false
  /-- An open session was not revoked since its handshake began. -/
  sessions : ∀ session ∈ g.sessions, ∀ entry ∈ g.history, session.beganSeq < entry.seq →
    entry.selector.Ends session.principal → g.Excused c session entry
  /-- Nor was a session that received a data frame, when it received it. -/
  frames : ∀ frame ∈ g.sent, ∀ entry ∈ g.history, frame.1.beganSeq < entry.seq →
    entry.seq ≤ frame.2 → entry.selector.Ends frame.1.principal → g.Excused c frame.1 entry

/-- The invariant. -/
structure Revoking (c : GatewayConfig) (g : Gateway) : Prop where
  keeps : g.log.Keeps c.retentionMs g.history
  opened : ∀ session ∈ g.sessions, session.openedSeq ≤ g.log.sequence
  sent : ∀ frame ∈ g.sent, frame.2 ≤ g.log.sequence ∧ frame.1.openedSeq ≤ g.log.sequence
  sessions : ∀ session ∈ g.sessions, ∀ entry ∈ g.history, session.beganSeq < entry.seq →
    entry.selector.Ends session.principal → g.Excused c session entry
  frames : ∀ frame ∈ g.sent, ∀ entry ∈ g.history, frame.1.beganSeq < entry.seq →
    entry.seq ≤ frame.2 → entry.selector.Ends frame.1.principal → g.Excused c frame.1 entry

variable {c : GatewayConfig} {g g' : Gateway}

theorem revoking_initial : initial.Revoking c := by
  constructor
  · exact RevocationLog.keeps_empty c.retentionMs
  all_goals simp [initial]

/-- A step that records nothing and opens and sends nothing. -/
theorem Revoking.of_quiet
    (h : g.Revoking c) (hlog : g'.log = g.log) (hhistory : g'.history = g.history)
    (hsent : g'.sent = g.sent)
    (hsessions : ∀ session' ∈ g'.sessions, ∃ session ∈ g.sessions,
      session'.principal = session.principal ∧ session'.beganSeq = session.beganSeq ∧
        session'.openedSeq = session.openedSeq) :
    g'.Revoking c := by
  constructor
  · rw [hlog, hhistory]
    exact h.keeps
  · intro session' hsession'
    obtain ⟨session, hsession, -, -, hopened⟩ := hsessions session' hsession'
    rw [hlog, hopened]
    exact h.opened session hsession
  · rw [hlog, hsent]
    exact h.sent
  · intro session' hsession' entry hentry hafter hends
    obtain ⟨session, hsession, hprincipal, hbegan, hopened⟩ := hsessions session' hsession'
    rw [hhistory] at hentry
    rw [hbegan] at hafter
    rw [hprincipal] at hends
    have hexcused := h.sessions session hsession entry hentry hafter hends
    unfold Excused at hexcused ⊢
    rw [hopened, hhistory]
    exact hexcused
  · rw [hsent]
    intro frame hframe entry hentry hafter hupto hends
    rw [hhistory] at hentry
    have hexcused := h.frames frame hframe entry hentry hafter hupto hends
    unfold Excused at hexcused ⊢
    rw [hhistory]
    exact hexcused

theorem Revoking.of_same_sessions
    (h : g.Revoking c) (hlog : g'.log = g.log) (hhistory : g'.history = g.history)
    (hsent : g'.sent = g.sent) (hsessions : g'.sessions ⊆ g.sessions) :
    g'.Revoking c :=
  h.of_quiet hlog hhistory hsent fun session hsession =>
    ⟨session, hsessions hsession, rfl, rfl, rfl⟩

theorem Revoking.conclude
    (h : g.Revoking c) (id : ℕ) (result : HandshakeResult) :
    (g.conclude id result).1.Revoking c := by
  unfold Gateway.conclude
  split
  · exact h
  · split
    · exact h
    · exact h.of_same_sessions rfl rfl rfl (List.Subset.refl _)

theorem Revoking.authenticateHandshake
    (h : g.Revoking c) (now : ℕ) (input : HandshakeInput) :
    (g.authenticateHandshake c now input).1.Revoking c := by
  unfold Gateway.authenticateHandshake
  split
  · exact h
  · have hnumbered : { g with nextId := g.nextId + 1 }.Revoking c :=
      h.of_same_sessions rfl rfl rfl (List.Subset.refl _)
    dsimp only
    split
    · split
      · split
        · exact hnumbered
        · exact hnumbered.conclude _ _
      · exact hnumbered
    · exact h.of_same_sessions rfl rfl rfl (List.Subset.refl _)

theorem Revoking.settle
    (h : g.Revoking c) (now id : ℕ) (outcome : AuthenticateOutcome) :
    (g.settle c now id outcome).1.Revoking c := by
  unfold Gateway.settle
  split
  · exact h
  · have hawaited : { g with pending := g.pending.filter (·.1 ≠ id) }.Revoking c :=
      h.of_same_sessions rfl rfl rfl (List.Subset.refl _)
    dsimp only
    split
    · exact hawaited.of_same_sessions rfl rfl rfl (List.Subset.refl _)
    · exact hawaited
    · exact hawaited
    · exact hawaited
    · split
      · exact hawaited
      · exact hawaited.conclude _ _

theorem Revoking.openSession
    (h : g.Revoking c) (id : ℕ) :
    (g.openSession id).Revoking c := by
  unfold Gateway.openSession
  split
  · exact h
  · rename_i found result hfound
    have hclaimed : { g with authenticated := g.authenticated.filter (·.1 ≠ id) }.Revoking c :=
      h.of_same_sessions rfl rfl rfl (List.Subset.refl _)
    dsimp only
    split
    · exact hclaimed
    · rename_i hallowed
      have hclear : g.log.revokedSince result.revocationSeq result.principal none = false := by
        simp only [Bool.or_eq_true, not_or] at hallowed
        simpa using hallowed.2
      constructor
      · exact h.keeps
      · intro session hsession
        rcases List.mem_append.mp hsession with hold | hnew
        · exact h.opened session hold
        · obtain rfl := List.mem_singleton.mp hnew
          exact le_rfl
      · exact h.sent
      · intro session hsession entry hentry hafter hends
        rcases List.mem_append.mp hsession with hold | hnew
        · exact h.sessions session hold entry hentry hafter hends
        · obtain rfl := List.mem_singleton.mp hnew
          refine ⟨h.keeps.recorded entry hentry, ?_⟩
          rcases h.keeps.kept entry hentry with hin | hforgotten
          · exact absurd hends
              (RevocationLog.not_ends_of_revokedSince hclear hin hafter)
          · exact hforgotten
      · exact h.frames

theorem revokeSession_some
    {selector : Revocation} {canonicalParams : Option String}
    {session session' : ClientSession}
    (hkept : revokeSession selector canonicalParams session = some session') :
    session'.principal = session.principal ∧ session'.beganSeq = session.beganSeq ∧
      session'.openedSeq = session.openedSeq ∧ ¬selector.Ends session.principal := by
  unfold revokeSession at hkept
  split at hkept
  · rename_i hmatches
    obtain rfl := Option.some.inj hkept
    refine ⟨rfl, rfl, rfl, ?_⟩
    rintro ⟨-, hends⟩
    simp [hends] at hmatches
  · split at hkept
    · rename_i hchannel
      obtain rfl := Option.some.inj hkept
      refine ⟨rfl, rfl, rfl, ?_⟩
      rintro ⟨hkind, -⟩
      simp [hkind] at hchannel
    · cases hkept

theorem Excused.mono
    {session : ClientSession} {entry : RevocationEntry} (h : g.Excused c session entry)
    (hsub : g.history ⊆ g'.history) :
    g'.Excused c session entry :=
  ⟨h.1, h.2.mono le_rfl hsub⟩

theorem Revoking.revoke
    (h : g.Revoking c) (now : ℕ) (selector : Revocation) :
    (g.revoke c now selector).Revoking c := by
  have hsub : g.history ⊆ (g.revoke c now selector).history := by
    intro entry hentry
    simp [Gateway.revoke, hentry]
  constructor
  · exact h.keeps.add selector _
  · intro session' hsession'
    obtain ⟨session, hsession, hkept⟩ := List.mem_filterMap.mp hsession'
    obtain ⟨-, -, hopened, -⟩ := revokeSession_some hkept
    rw [hopened]
    exact Nat.le_trans (h.opened session hsession) (Nat.le_succ _)
  · intro frame hframe
    obtain ⟨hupto, hopened⟩ := h.sent frame hframe
    exact ⟨Nat.le_trans hupto (Nat.le_succ _), Nat.le_trans hopened (Nat.le_succ _)⟩
  · intro session' hsession' entry hentry hafter hends
    obtain ⟨session, hsession, hkept⟩ := List.mem_filterMap.mp hsession'
    obtain ⟨hprincipal, hbegan, hopened, hspared⟩ := revokeSession_some hkept
    rw [hprincipal] at hends
    rw [hbegan] at hafter
    rcases List.mem_append.mp hentry with hold | hnew
    · have hexcused := (h.sessions session hsession entry hold hafter hends).mono hsub
      unfold Excused at hexcused ⊢
      rw [hopened]
      exact hexcused
    · obtain rfl := List.mem_singleton.mp hnew
      exact absurd hends hspared
  · intro frame hframe entry hentry hafter hupto hends
    rcases List.mem_append.mp hentry with hold | hnew
    · exact (h.frames frame hframe entry hold hafter hupto hends).mono hsub
    · obtain rfl := List.mem_singleton.mp hnew
      have hsent := (h.sent frame hframe).1
      dsimp only at hupto
      omega

theorem Revoking.data
    (h : g.Revoking c) (id : ℕ) :
    (g.step c (.data id)).Revoking c := by
  constructor
  · exact h.keeps
  · exact h.opened
  · intro frame hframe
    rcases List.mem_append.mp hframe with hold | hnew
    · exact h.sent frame hold
    · obtain ⟨session, hsession, rfl⟩ := List.mem_map.mp hnew
      exact ⟨le_rfl, h.opened session (List.mem_filter.mp hsession).1⟩
  · exact h.sessions
  · intro frame hframe entry hentry hafter hupto hends
    rcases List.mem_append.mp hframe with hold | hnew
    · exact h.frames frame hold entry hentry hafter hupto hends
    · obtain ⟨session, hsession, rfl⟩ := List.mem_map.mp hnew
      exact h.sessions session (List.mem_filter.mp hsession).1 entry hentry hafter hends

theorem Revoking.step
    (h : g.Revoking c) (event : GatewayEvent) :
    (g.step c event).Revoking c := by
  cases event with
  | handshake now input => exact h.authenticateHandshake now input
  | settled now id outcome => exact h.settle now id outcome
  | opened id => exact h.openSession id
  | revoked now selector => exact h.revoke now selector
  | data id => exact h.data id
  | released => exact h.of_same_sessions rfl rfl rfl (List.Subset.refl _)
  | dropped id => exact h.of_same_sessions rfl rfl rfl (List.Subset.refl _)
  | previews tokens sessions => exact h.of_same_sessions rfl rfl rfl (List.Subset.refl _)
  | ended id => exact h.of_same_sessions rfl rfl rfl List.filter_sublist.subset
  | stop => exact h.of_same_sessions rfl rfl rfl (List.nil_subset _)
  | subscribed id contract =>
      have hsessions : ∀ session' ∈ (g.step c (.subscribed id contract)).sessions,
          ∃ session ∈ g.sessions, session'.principal = session.principal ∧
            session'.beganSeq = session.beganSeq ∧ session'.openedSeq = session.openedSeq := by
        intro session' hsession'
        obtain ⟨session, hsession, rfl⟩ := List.mem_map.mp hsession'
        refine ⟨session, hsession, ?_⟩
        split <;> exact ⟨rfl, rfl, rfl⟩
      exact h.of_quiet rfl rfl rfl hsessions

theorem Revoking.complete (h : g.Revoking c) : g.RevocationComplete c := by
  constructor
  · intro now selector hkind session' hsession'
    obtain ⟨session, hsession, hkept⟩ := List.mem_filterMap.mp hsession'
    obtain ⟨hprincipal, -, -, hspared⟩ := revokeSession_some hkept
    rw [hprincipal]
    cases hmatches : selector.matchesPrincipal session.principal with
    | false => rfl
    | true => exact absurd ⟨hkind, hmatches⟩ hspared
  · exact h.sessions
  · exact h.frames

/-- In every run every session that is open and every session that receives a data frame is
one that no revocation since its handshake began names, but for those the log had dropped
when the session was opened. -/
theorem revocationComplete_after (c : GatewayConfig) (events : List GatewayEvent) :
    ((machine c).after initial events).RevocationComplete c := by
  apply Revoking.complete
  exact (machine c).invariant (fun _ event h _ => h.step event) revoking_initial
    ((machine c).admits_of_allowed (fun _ _ => trivial) _ events)

section Flood

def sampleConfig : GatewayConfig where
  production := false
  allowedOrigins := []
  maxConnections := 10
  retentionMs := 60000
  channel := fun _ => none
  canonicalJson := fun _ => ""
  parseUtcTimestamp := fun _ => some 1

def samplePrincipal : Principal := ⟨"subject", "tenant", "session", 1⟩

def sampleInput : HandshakeInput :=
  ⟨none, .object [("token", .string "token"), ("protocolVersion", .number true "1")]⟩

def sampleValue : JsValue :=
  .object [("subject", .string "subject"), ("tenantId", .string "tenant"),
    ("sessionId", .string "session"), ("claims", .object [])]

def otherSession : Revocation := .session "tenant" "other"

/-- One handshake is pending; its principal was revoked first and other sessions `n` times
after that, all in one millisecond. -/
structure Flooded (n : ℕ) (g : Gateway) : Prop where
  running : g.running = true
  pending : g.pending = [(0, 0)]
  authenticated : g.authenticated = []
  revoked : ∃ entry ∈ g.history, entry.seq = 1 ∧ entry.selector = .session "tenant" "session"
  sequence : g.log.sequence = n + 1
  length : g.log.entries.length = min (n + 1) maxRevocationEntries
  ordered : g.log.entries.Pairwise fun a b => a.seq < b.seq
  instant : ∀ entry ∈ g.log.entries, entry.time = 0
  recent : ∀ entry ∈ g.log.entries, 0 < entry.seq ∧ n + 1 < entry.seq + maxRevocationEntries
  others : ∀ entry ∈ g.log.entries, entry.seq ≠ 1 → entry.selector = otherSession
  held : ∀ entry ∈ g.log.entries, entry.seq ≤ n + 1

theorem flooded_zero :
    Flooded 0 ((machine sampleConfig).after initial
      [.handshake 0 sampleInput, .revoked 0 (.session "tenant" "session")]) := by
  have hstate : (machine sampleConfig).after initial
      [.handshake 0 sampleInput, .revoked 0 (.session "tenant" "session")] =
        { initial with
          pending := [(0, 0)]
          nextId := 1
          log := ⟨[⟨1, 0, .session "tenant" "session", none⟩], 1⟩
          history := [⟨1, 0, .session "tenant" "session", none⟩] } := by
    rfl
  rw [hstate]
  constructor <;> simp [initial, maxRevocationEntries]

theorem Flooded.step
    {n : ℕ} (h : Flooded n g) :
    Flooded (n + 1) (g.step sampleConfig (.revoked 0 otherSession)) := by
  have hfresh : g.log.entries.filter (fun entry => 0 - entry.time ≤ sampleConfig.retentionMs) =
      g.log.entries := by
    rw [List.filter_eq_self]
    intro entry _
    simp
  have hpruned : g.log.pruned sampleConfig.retentionMs 0 =
      if maxRevocationEntries ≤ g.log.entries.length then g.log.entries.tail
      else g.log.entries := by
    unfold RevocationLog.pruned
    rw [hfresh]
  have hentries : (g.step sampleConfig (.revoked 0 otherSession)).log.entries =
      g.log.pruned sampleConfig.retentionMs 0 ++
        [⟨g.log.sequence + 1, 0, otherSession, none⟩] := rfl
  have hsublist := g.log.pruned_sublist sampleConfig.retentionMs 0
  have hrecent : ∀ entry ∈ g.log.pruned sampleConfig.retentionMs 0,
      n + 2 < entry.seq + maxRevocationEntries := by
    intro entry hentry
    have hbefore := h.recent entry (hsublist.subset hentry)
    rw [hpruned] at hentry
    split at hentry
    · cases hlog : g.log.entries with
      | nil => simp [hlog] at hentry
      | cons first rest =>
          have hfirst := h.recent first (by simp [hlog])
          have hordered := h.ordered
          rw [hlog] at hentry hordered
          have hlt := (List.pairwise_cons.mp hordered).1 entry hentry
          omega
    · rename_i hroom
      have hlength := h.length
      omega
  constructor
  · exact h.running
  · exact h.pending
  · exact h.authenticated
  · obtain ⟨entry, hentry, hseq, hselector⟩ := h.revoked
    exact ⟨entry, List.mem_append_left _ hentry, hseq, hselector⟩
  · show g.log.sequence + 1 = n + 1 + 1
    rw [h.sequence]
  · rw [hentries, hpruned]
    have hlength := h.length
    unfold maxRevocationEntries at hlength ⊢
    split
    · simp only [List.length_append, List.length_tail, List.length_singleton]
      omega
    · simp only [List.length_append, List.length_singleton]
      omega
  · rw [hentries, List.pairwise_append]
    refine ⟨h.ordered.sublist hsublist, by simp, ?_⟩
    intro entry hentry new hnew
    obtain rfl := List.mem_singleton.mp hnew
    have hle := h.held entry (hsublist.subset hentry)
    have hsequence := h.sequence
    dsimp only
    omega
  · rw [hentries]
    intro entry hentry
    rcases List.mem_append.mp hentry with hold | hnew
    · exact h.instant entry (hsublist.subset hold)
    · obtain rfl := List.mem_singleton.mp hnew
      rfl
  · rw [hentries]
    intro entry hentry
    rcases List.mem_append.mp hentry with hold | hnew
    · exact ⟨(h.recent entry (hsublist.subset hold)).1, hrecent entry hold⟩
    · obtain rfl := List.mem_singleton.mp hnew
      have hsequence := h.sequence
      dsimp only [maxRevocationEntries]
      omega
  · rw [hentries]
    intro entry hentry hne
    rcases List.mem_append.mp hentry with hold | hnew
    · exact h.others entry (hsublist.subset hold) hne
    · obtain rfl := List.mem_singleton.mp hnew
      rfl
  · rw [hentries]
    intro entry hentry
    rcases List.mem_append.mp hentry with hold | hnew
    · exact Nat.le_trans (h.held entry (hsublist.subset hold)) (Nat.le_succ _)
    · obtain rfl := List.mem_singleton.mp hnew
      have hsequence := h.sequence
      dsimp only
      omega

theorem Flooded.after
    {n : ℕ} (h : Flooded n g) (k : ℕ) :
    Flooded (n + k) ((machine sampleConfig).after g
      (List.replicate k (.revoked 0 otherSession))) := by
  induction k generalizing n g with
  | zero => exact h
  | succ k ih =>
      rw [List.replicate_succ, Machine.after_cons]
      have hnext := ih h.step
      rw [show n + (k + 1) = n + 1 + k by omega]
      exact hnext

/-- A bound's worth of other revocations while one handshake is pending. -/
def floodedRun : List GatewayEvent :=
  [.handshake 0 sampleInput, .revoked 0 (.session "tenant" "session")] ++
    List.replicate maxRevocationEntries (.revoked 0 otherSession) ++
      [.settled 0 0 (.ok sampleValue), .opened 0]

theorem Flooded.opens
    (h : Flooded maxRevocationEntries g) :
    ∃ session ∈ ((machine sampleConfig).after g
        [.settled 0 0 (.ok sampleValue), .opened 0]).sessions,
      session.principal = samplePrincipal ∧ session.beganSeq = 0 ∧
        ((machine sampleConfig).after g
          [.settled 0 0 (.ok sampleValue), .opened 0]).history = g.history := by
  have hclear : g.log.revokedSince 0 samplePrincipal none = false := by
    unfold RevocationLog.revokedSince
    rw [List.any_eq_false]
    intro entry hentry
    have hne : entry.seq ≠ 1 := by
      have hrecent := (h.recent entry hentry).2
      omega
    simp [RevocationLog.revokes, h.others entry hentry hne, otherSession,
      Revocation.matchesPrincipal, samplePrincipal]
  have hchecked : checkedPrincipal sampleConfig 0 sampleValue = .ok samplePrincipal := by
    rfl
  have hsettled : (g.settle sampleConfig 0 0 (.ok sampleValue)).1 =
      { g with
        pending := []
        authenticated := [(0, ⟨samplePrincipal, none, 0⟩)] } := by
    have hvalue : sampleValue ≠ .null := by simp [sampleValue]
    unfold Gateway.settle
    rw [h.pending]
    simp only [sampleValue] at hchecked ⊢
    simp [hchecked, Gateway.conclude, hclear, h.running, h.authenticated]
  refine ⟨⟨0, samplePrincipal, none, [], 0, g.log.sequence⟩, ?_, rfl, rfl, ?_⟩
  · show _ ∈ ((g.settle sampleConfig 0 0 (.ok sampleValue)).1.openSession 0).sessions
    rw [hsettled]
    simp [Gateway.openSession, h.running, hclear]
  · show ((g.settle sampleConfig 0 0 (.ok sampleValue)).1.openSession 0).history = _
    rw [hsettled]
    simp [Gateway.openSession, h.running, hclear]

/-- The session stays open though its principal was revoked while the handshake was
pending. -/
theorem flooded_session_stays_open :
    ∃ session ∈ ((machine sampleConfig).after initial floodedRun).sessions,
      ∃ entry ∈ ((machine sampleConfig).after initial floodedRun).history,
        session.beganSeq < entry.seq ∧ entry.selector.Ends session.principal := by
  have hflooded := flooded_zero.after maxRevocationEntries
  rw [Nat.zero_add] at hflooded
  obtain ⟨session, hsession, hprincipal, hbegan, hhistory⟩ := hflooded.opens
  obtain ⟨entry, hentry, hseq, hselector⟩ := hflooded.revoked
  unfold floodedRun
  rw [Machine.after_append, Machine.after_append]
  refine ⟨session, hsession, entry, ?_, ?_, ?_⟩
  · rw [hhistory]
    exact hentry
  · omega
  · rw [hselector, hprincipal]
    exact ⟨rfl, by decide⟩

end Flood

end Gateway

end StreamOtter
