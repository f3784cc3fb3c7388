import StreamOtter.ServiceOrigins
import StreamOtter.Machine

/-!
# Where an incident's evidence is

The operator service reads the original bytes of an incident back from where they were captured:
the store's local spool, or the quarantine topic, to which each acknowledged write appended a
copy.  Copies expire in both.
-/

namespace StreamOtter

open FailureStore FailureService ByteCodec Relation

/-- `LOCAL_EVIDENCE_RETENTION_MS`. -/
def localEvidenceRetentionMs : ℕ := 7 * 24 * 60 * 60 * 1000

def completenessText : EvidenceCompleteness → String
  | .complete => "complete"
  | .incomplete => "incomplete"
  | .unavailable => "unavailable"
  | .expired => "expired"

/-- `Evidence` of the operator service. -/
inductive EvidenceRead
  | found (raw : RawEvidence)
  | missing (expired : Bool) (message : String)

/-- `quarantineCoordinateIssue`. -/
def quarantineCoordinateIssue (place : ℕ × ℕ) : Option String :=
  if 2 ^ 31 - 1 < place.1 then some "the quarantine partition is not a valid partition number"
  else if 2 ^ 63 - 1 < place.2 then
    some "the quarantine offset is not a decimal Kafka offset"
  else none

/-- A gateway over its store and the quarantine topic. -/
structure EvidenceHost where
  service : FailureService
  topic : ℕ × ℕ → Option WireRecord
  /-- The earliest retained offset of each partition. -/
  low : ℕ → ℕ

namespace EvidenceHost

variable (texts : RecordTexts)

/-- `read` of the quarantine reader, as the operator service reports it. -/
def readCopy (failureId expectedHash : String) (place : ℕ × ℕ) (h : EvidenceHost) : EvidenceRead :=
  match quarantineCoordinateIssue place with
  | some issue => .missing false ("The quarantine topic could not be read: " ++ issue)
  | none =>
      if place.2 < h.low place.1 then
        .missing true ("The quarantined copy has expired from the topic: the record is below the partition's earliest retained offset " ++
          toString (h.low place.1) ++ " (removed by retention or deletion)")
      else
        let read :=
          match h.topic place with
          | none => QuarantineRead.mismatch "no record at that offset: the partition skips it"
          | some copy =>
              verifyQuarantineRecord texts.sha256Hex (kafkaDecode copy) failureId expectedHash
        match read with
        | .found evidence => .found evidence
        | .mismatch reason =>
            .missing false
              ("The record at the quarantine coordinates is not this incident's evidence: " ++ reason)

/-- The part of `#evidence` for local fixture evidence. -/
def readSpool (now : ℕ) (record : IncidentRecord) (h : EvidenceHost) : EvidenceRead :=
  match h.service.store.evidence record.failureId with
  | none =>
      if (IsoTime.parse record.firstObservedAt).any fun first =>
          (localEvidenceRetentionMs : ℤ) ≤ now - first then
        .missing true "The local fixture evidence has expired; it is kept for 7 days."
      else .missing false "The local fixture evidence is no longer stored."
  | some raw =>
      if raw.evidenceHash texts.sha256Hex ≠ record.evidence.hash then
        .missing false "The stored local evidence does not match the captured evidence hash."
      else .found raw

/-- `#evidence`. -/
def evidence (now : ℕ) (record : IncidentRecord) (h : EvidenceHost) : EvidenceRead :=
  if record.evidence.completeness ≠ .complete then
    .missing false ("Evidence was " ++ completenessText record.evidence.completeness ++
      " at capture, so the original bytes are not available.")
  else
    match record.evidence.location with
    | .local => h.readSpool texts now record
    | .none => .missing false "No original bytes were captured for this incident."
    | .kafka =>
        match record.quarantine, record.quarantineCoordinates with
        | .acknowledged, some place =>
            if !h.service.settings.quarantine then
              .missing false "No quarantine reader is available on this gateway."
            else h.readCopy texts record.failureId record.evidence.hash place
        | _, _ =>
            .missing false "The quarantine topic never acknowledged a copy of this record, so there is nothing to read back."

/-- What an acknowledged write appends to the topic, and where. -/
def appended (f : FailureService) (e : Event) : Option ((ℕ × ℕ) × WireRecord) :=
  match e with
  | .written sourceId (.acknowledged partition offset) =>
      match f.tasks sourceId with
      | some (.writing record _ _ evidence none) =>
          match publish ⟨evidence, record.failureId, texts.envelope record⟩ with
          | .ok message => some ((partition, offset), kafkaEncode message)
          | .error _ => none
      | _ => none
  | _ => none

end EvidenceHost

/-- `headers` are those that KafkaJS gave the record which the event is about. -/
inductive HostStep
  | service (o : Occurrence) (headers : Option HeaderObject)
  | expire (partition low : ℕ)
  | prune (failureId : String)

namespace EvidenceHost

variable (texts : RecordTexts)

def initial (settings : ServiceSettings) : EvidenceHost where
  service := FailureService.initial settings
  topic _ := none
  low _ := 0

/-- The topic after the event. -/
def grown (e : Event) (h : EvidenceHost) : ℕ × ℕ → Option WireRecord :=
  match appended texts h.service e with
  | some (place, copy) => Function.update h.topic place (some copy)
  | none => h.topic

def step (h : EvidenceHost) : HostStep → EvidenceHost
  | .service o _ =>
      { h with
        service := FailureService.step texts h.service o
        topic := h.grown texts o.event }
  | .expire partition low => { h with low := Function.update h.low partition low }
  | .prune failureId =>
      { h with
        service := { h.service with
          store := { h.service.store with
            evidence := Function.update h.service.store.evidence failureId none } } }

/-- The record that an event holds, with its source. -/
def heldBy : Event → Option (String × Delivery)
  | .held sourceId input _ => some (sourceId, input)
  | _ => none

/-- A Kafka record's headers are flattened from what KafkaJS gave, and no place of the topic is
given twice. -/
def Allowed (h : EvidenceHost) : HostStep → Prop
  | .service o headers =>
      (∀ held ∈ heldBy o.event, (h.service.settings.source held.1).kind = .kafka →
        held.2.headers = flattenKafkaHeaders headers) ∧
      ∀ copy ∈ appended texts h.service o.event,
        h.topic copy.1 = none ∧ quarantineCoordinateIssue copy.1 = none
  | .expire _ _ | .prune _ => True

/-- Where a source of the position's kind captures. -/
def captureLocation : Position → EvidenceLocation
  | .kafka _ _ _ => .kafka
  | .fixture _ => .local

/-- The copy that the incident names is still where it was written, and within reach. -/
def Retains (h : EvidenceHost) (record : IncidentRecord) : Prop :=
  match record.position with
  | .fixture _ => h.service.store.evidence record.failureId ≠ none
  | .kafka _ _ _ =>
      h.service.settings.quarantine = true ∧
        ∀ place ∈ record.quarantineCoordinates, h.low place.1 ≤ place.2

/-- An incident with an acknowledged copy names where it was written, and while it is retained the
bytes that are read back have the recorded hash. -/
def EvidenceCoherent (h : EvidenceHost) : Prop :=
  ∀ failureId record, h.service.store.journal.incidents.get failureId = some record →
    record.quarantine = .acknowledged →
      record.evidence.location = captureLocation record.position ∧
        ∀ now, h.Retains record → ∃ raw, h.evidence texts now record = .found raw ∧
          raw.evidenceHash texts.sha256Hex = record.evidence.hash

/-- The stored incident of the record whose disposition the step begins, if a copy of it may be
written. -/
def recaptured (f : FailureService) (sourceId : String) : Option IncidentRecord :=
  match f.tasks sourceId, f.chains sourceId with
  | none, .dispose input outcome :: _ =>
      let source := f.settings.source sourceId
      let policy := policyFor source.policy outcome.failureClass
      let summary := f.settings.summarize texts sourceId (rawEvidence input) policy
      if f.queued (sourceId, input.position) = some true ∨ policy = .pause ∨
          summary.completeness ≠ .complete ∨ f.store.fault.1.isSome then none
      else
        (f.store.journal.incidents.get
          (texts.failureId sourceId source.generation input.position)).filter fun existing =>
            (existing.evidence.hash = "" || existing.evidence.hash = summary.hash) &&
              (f.settings.clusterMismatch sourceId existing).isNone
  | _, _ => none

def begun : Event → Option String
  | .begin sourceId => some sourceId
  | _ => none

/-- An incident that is quarantined after another observation was captured whole by the first. -/
def CapturedWhole (h : EvidenceHost) : HostStep → Prop
  | .service o _ =>
      ∀ sourceId ∈ begun o.event, ∀ existing ∈ recaptured texts (h.service.given o) sourceId,
        existing.evidence.location ≠ .none ∧ existing.evidence.completeness = .complete
  | .expire _ _ | .prune _ => True

end EvidenceHost

/-! ### What a disposition writes -/

namespace FailureService

open StoreAccess

variable {texts : RecordTexts} {settings : ServiceSettings} {sourceId : String}
  {record : IncidentRecord} {s : StoreAccess}

theorem captureRecord_matches
    {policy : FailurePolicy} {summary : EvidenceSummary} {raw : Option RawEvidence} {task : Task}
    (h : (captureRecord settings texts sourceId record policy summary raw s).1 = some task) :
    settings.clusterMismatch sourceId record = none := by
  unfold captureRecord holdOnClusterMismatch at h
  cases hmismatch : settings.clusterMismatch sourceId record with
  | none => rfl
  | some mismatch =>
      rw [hmismatch] at h
      cases h

theorem quarantineRecord_matches
    {policy : FailurePolicy} {summary : EvidenceSummary} {raw : Option RawEvidence} {task : Task}
    (h : (quarantineRecord settings texts sourceId record policy summary raw s).1 = some task) :
    settings.clusterMismatch sourceId record = none := by
  unfold quarantineRecord at h
  split at h
  · cases h
  · exact captureRecord_matches h

theorem clusterMismatch_congr {other : IncidentRecord} (h : record.clusterId = other.clusterId) :
    settings.clusterMismatch sourceId record = settings.clusterMismatch sourceId other := by
  unfold ServiceSettings.clusterMismatch
  rw [h]

theorem nowIso_fault (s : StoreAccess) : s.nowIso.2.fault.1 = s.fault.1 := by
  unfold nowIso dateNow
  split
  · rfl
  · unfold fault
    dsimp only
    split <;> rfl

theorem call_served {c : StoreCall} {reply : StoreReply} {s' : StoreAccess}
    (h : s.call c = (.ok reply, s')) : s.fault.1 = none := by
  unfold call at h
  rcases hfault : s.fault with ⟨thrown, s₁⟩
  rw [hfault] at h
  cases thrown with
  | none => rfl
  | some message => cases h

theorem failedAgain_cluster (hknown : s.journal.Known record) :
    (failedAgain record s).1.clusterId = record.clusterId := by
  unfold failedAgain
  split
  · obtain ⟨s₁, hupdate, -⟩ | ⟨time, s₁, hupdate, -⟩ :=
      update_cases hknown { progress := some .held } .held "the retried record failed again"
    · rw [hupdate]
    · rw [hupdate]
      rfl
  · rfl

/-- What a disposition found before it came to write a copy. -/
theorem dispose_writes {f : FailureService} {input : Delivery} {outcome : Pause} {task : Task}
    (h : (dispose texts sourceId input outcome f).1 = some task) :
    f.queued (sourceId, input.position) ≠ some true ∧ f.store.fault.1 = none ∧
      ∀ existing, f.store.journal.incidents.get
          (texts.failureId sourceId (f.settings.source sourceId).generation input.position) =
            some existing →
        f.settings.clusterMismatch sourceId existing = none := by
  unfold dispose at h
  dsimp only at h
  split at h
  · cases h
  rename_i hqueued
  refine ⟨hqueued, ?_⟩
  generalize hpolicy : policyFor (f.settings.source sourceId).policy outcome.failureClass = policy at h
  generalize hsummary : f.settings.summarize texts sourceId (rawEvidence input) policy = summary at h
  have hclock := f.store.nowIso_same
  have hthrows := nowIso_fault f.store
  rcases htime : f.store.nowIso with ⟨observedAt, s₁⟩
  rw [htime] at h hclock hthrows
  dsimp only at h hclock hthrows
  generalize hobservation :
    observationOf f.settings texts sourceId input outcome policy summary observedAt = observation at h
  obtain ⟨refusal, s₂, hcall, -⟩ | ⟨reply, s₂, hcall, -, -, haccepted⟩ :=
    call_cases (.observe observation) s₁
  · rw [hcall] at h
    cases h
  refine ⟨hthrows ▸ call_served hcall, ?_⟩
  intro existing hexisting
  rw [hcall] at h
  rw [hclock.journal] at haccepted
  have hobserve := Except.ok.inj haccepted
  have hreply := congrArg Prod.fst hobserve
  have hafter := congrArg Prod.snd hobserve
  dsimp only at hreply hafter
  cases reply with
  | observed result =>
      dsimp only at h
      split at h
      · cases h
      · have hid : observation.failureId =
            texts.failureId sourceId (f.settings.source sourceId).generation input.position := by
          rw [← hobservation]
          rfl
        have hcluster : result.record.clusterId = existing.clusterId := by
          unfold Journal.observe at hreply
          rw [hid, hexisting] at hreply
          obtain rfl := StoreReply.observed.inj hreply
          exact (sameOrigin_observedAgain observation existing).clusterId
        have hknown := (observe_known observation hreply).1
        rw [hafter] at hknown
        have hagain := @failedAgain_cluster result.record { s₂ with journalError := none } hknown
        have hmatches := quarantineRecord_matches h
        rwa [clusterMismatch_congr (hagain.trans hcluster)] at hmatches
  | claimed | updated _ | prepared _ _ | retired _ | circuit _ | begun _ _ | finished _
  | abandoned _ => cases h

end FailureService

/-! ### What every run keeps -/

namespace EvidenceHost

/-- The capture names no store but that of the position's kind, and a whole capture has a hash. -/
structure Summarized (record : IncidentRecord) : Prop where
  location : record.evidence.location = .none ∨
    record.evidence.location = captureLocation record.position
  hash : record.evidence.completeness = .complete → record.evidence.hash ≠ ""

/-- The copy that the incident names reads back. -/
structure Copied (texts : RecordTexts) (topic : ℕ × ℕ → Option WireRecord)
    (record : IncidentRecord) : Prop where
  complete : record.evidence.completeness = .complete
  location : record.evidence.location = captureLocation record.position
  copy : record.evidence.location = .kafka → ∃ place copy evidence,
    record.quarantineCoordinates = some place ∧ quarantineCoordinateIssue place = none ∧
      topic place = some copy ∧
        verifyQuarantineRecord texts.sha256Hex (kafkaDecode copy) record.failureId
          record.evidence.hash = .found evidence

/-- A copy of the incident is being written. -/
structure Writes (texts : RecordTexts) (captured : IncidentRecord) (evidence : RawEvidence)
    (answer : Option QuarantineOutcome) (stored : IncidentRecord) : Prop where
  complete : stored.evidence.completeness = .complete
  location : stored.evidence.location = captureLocation stored.position
  hash : evidence.evidenceHash texts.sha256Hex = stored.evidence.hash
  kafka : stored.evidence.location = .kafka →
    (∃ headers, evidence.headers = flattenKafkaHeaders headers) ∧
      ∀ coordinates, answer ≠ some (.acknowledged coordinates)
  published : answer = none →
    ∃ message, publish ⟨evidence, captured.failureId, texts.envelope captured⟩ = .ok message

def Arrived (source : SourceSettings) (input : Delivery) : Prop :=
  delivers source input = true ∧
    (source.kind = .kafka → ∃ headers, input.headers = flattenKafkaHeaders headers)

structure Kept (texts : RecordTexts) (h : EvidenceHost) : Prop where
  coherent : Coherent texts h.service
  summarized : ∀ failureId record, h.service.store.journal.incidents.get failureId = some record →
    Summarized record
  copied : ∀ failureId record, h.service.store.journal.incidents.get failureId = some record →
    record.quarantine = .acknowledged → Copied texts h.topic record
  spool : ∀ failureId raw, h.service.store.evidence failureId = some raw →
    ∃ record, h.service.store.journal.incidents.get failureId = some record ∧
      raw.evidenceHash texts.sha256Hex = record.evidence.hash
  chains : ∀ sourceId input outcome, .dispose input outcome ∈ h.service.chains sourceId →
    Arrived (h.service.settings.source sourceId) input
  writing : ∀ sourceId captured policy summary evidence answer stored,
    h.service.tasks sourceId = some (.writing captured policy summary evidence answer) →
      h.service.store.journal.incidents.get captured.failureId = some stored →
        Writes texts captured evidence answer stored

variable {texts : RecordTexts} {h : EvidenceHost} {f f' : FailureService} {e : Event}
  {sourceId : String} {j' : Journal} {topic : ℕ × ℕ → Option WireRecord}

theorem observedAgain_quarantine (observation : NewObservation) (existing : IncidentRecord) :
    (observedAgain observation existing).1.quarantine = existing.quarantine ∧
      (observedAgain observation existing).1.quarantineCoordinates =
        existing.quarantineCoordinates := by
  unfold observedAgain reopened applyPolicy
  dsimp only
  constructor <;> (repeat' split) <;> rfl

theorem Summarized.of_sameOrigin {before after : IncidentRecord} (h : Summarized before)
    (hsame : SameOrigin before after) : Summarized after := by
  constructor
  · rw [hsame.evidence, hsame.position]
    exact h.location
  · rw [hsame.evidence]
    exact h.hash

theorem Writes.of_sameOrigin {captured before after : IncidentRecord} {evidence : RawEvidence}
    {answer : Option QuarantineOutcome} (h : Writes texts captured evidence answer before)
    (hsame : SameOrigin before after) : Writes texts captured evidence answer after := by
  constructor
  · rw [hsame.evidence]
    exact h.complete
  · rw [hsame.evidence, hsame.position]
    exact h.location
  · rw [hsame.evidence]
    exact h.hash
  · rw [hsame.evidence]
    exact h.kafka
  · exact h.published

/-- Only the coordinates of a copy can go on. -/
theorem Copied.of_sameOrigin {before after : IncidentRecord} (h : Copied texts topic before)
    (hsame : SameOrigin before after)
    (hcoordinates : after.quarantineCoordinates = before.quarantineCoordinates) :
    Copied texts topic after := by
  constructor
  · rw [hsame.evidence]
    exact h.complete
  · rw [hsame.evidence, hsame.position]
    exact h.location
  · rw [hsame.evidence, hsame.failureId, hcoordinates]
    exact h.copy

theorem Copied.mono {record : IncidentRecord} {topic' : ℕ × ℕ → Option WireRecord}
    (h : Copied texts topic record)
    (hmore : ∀ place copy, topic place = some copy → topic' place = some copy) :
    Copied texts topic' record := by
  refine { h with copy := fun hlocation => ?_ }
  obtain ⟨place, copy, evidence, hcoordinates, hissue, hcopy, hfound⟩ := h.copy hlocation
  exact ⟨place, copy, evidence, hcoordinates, hissue, hmore place copy hcopy, hfound⟩

theorem evidenceHash_ne_empty (sha256Hex : Bytes → String) (evidence : RawEvidence) :
    evidence.evidenceHash sha256Hex ≠ "" := by
  intro hempty
  have hlength := congrArg String.length hempty
  simp [RawEvidence.evidenceHash] at hlength

/-- What a summary says of evidence that was delivered. -/
theorem summarize_cases (settings : ServiceSettings) (raw : Option RawEvidence)
    (policy : FailurePolicy) :
    let summary := settings.summarize texts sourceId raw policy
    (summary.location = .none ∨ summary.location =
      if (settings.source sourceId).kind = .fixture then .local else .kafka) ∧
    (policy ≠ .pause → summary.completeness = .complete → summary.location =
      if (settings.source sourceId).kind = .fixture then .local else .kafka) ∧
    (summary.completeness = .complete → summary.hash ≠ "") ∧
    (∀ evidence ∈ raw, summary.hash = evidence.evidenceHash texts.sha256Hex) := by
  intro summary
  cases raw with
  | none => simp [summary, ServiceSettings.summarize]
  | some evidence =>
      refine ⟨?_, ?_, fun _ => evidenceHash_ne_empty _ _, ?_⟩
      · simp only [summary, ServiceSettings.summarize]
        split
        · exact .inl rfl
        · exact .inr rfl
      · intro hpolicy _
        simp only [summary, ServiceSettings.summarize, if_neg hpolicy]
      · rintro other ⟨⟩
        rfl

theorem captureLocation_of_delivers {source : SourceSettings} {input : Delivery}
    (h : delivers source input = true) :
    (if source.kind = .fixture then EvidenceLocation.local else .kafka) =
      captureLocation input.position := by
  unfold delivers at h
  cases hkind : source.kind <;> cases hposition : input.position <;>
    simp_all [captureLocation]

theorem changes_summarized
    (hchanges : ReflTransGen (Change texts f e) f.store.journal j')
    (hchains : ∀ sourceId input outcome, .dispose input outcome ∈ f.chains sourceId →
      Arrived (f.settings.source sourceId) input)
    (hsummarized : ∀ failureId record, f.store.journal.incidents.get failureId = some record →
      Summarized record) :
    ∀ failureId record, j'.incidents.get failureId = some record → Summarized record := by
  refine changes_keep hchanges ?_ hsummarized
  intro boundaries before after hbefore hmoved
  cases before with
  | some record => exact (hbefore record rfl).of_sameOrigin hmoved.sameOrigin
  | none =>
      cases hmoved with
      | @first sourceId _ hobserves =>
          obtain ⟨input, outcome, rest, observedAt, -, -, hchain, rfl⟩ := hobserves
          have harrived := hchains sourceId input outcome (hchain ▸ List.mem_cons_self)
          have hsummary := @summarize_cases texts sourceId f.settings (rawEvidence input)
            (policyFor (f.settings.source sourceId).policy outcome.failureClass)
          rw [captureLocation_of_delivers harrived.1] at hsummary
          exact ⟨hsummary.1, hsummary.2.2.1⟩

/-- The acknowledged write of a copy leaves it in the topic. -/
theorem Writes.copied
    {captured before : IncidentRecord} {policy : FailurePolicy} {summary : EvidenceSummary}
    {evidence : RawEvidence} {known : Option QuarantineOutcome} {answer : PublishAnswer}
    {coordinates : Option (ℕ × ℕ)} (h : Writes texts captured evidence known before)
    (hid : before.failureId = captured.failureId)
    (htask : f.tasks sourceId = some (.writing captured policy summary evidence known))
    (hanswer : known.getD answer.outcome = .acknowledged coordinates)
    (happended : ∀ place copy, appended texts f (.written sourceId answer) = some (place, copy) →
      topic place = some copy ∧ quarantineCoordinateIssue place = none) (time : String) :
    Copied texts topic (patched (acknowledgedPatch coordinates) time before) := by
  refine ⟨h.complete, h.location, fun hkafka => ?_⟩
  obtain ⟨⟨headers, hheaders⟩, hunanswered⟩ := h.kafka hkafka
  cases known with
  | some outcome =>
      obtain rfl : outcome = .acknowledged coordinates := hanswer
      exact absurd rfl (hunanswered coordinates)
  | none =>
      obtain ⟨message, hmessage⟩ := h.published rfl
      cases answer with
      | unknown reason => cases hanswer
      | failed reason => cases hanswer
      | acknowledged partition offset =>
          obtain rfl := QuarantineOutcome.acknowledged.inj hanswer
          have hcopy : appended texts f (.written sourceId (.acknowledged partition offset)) =
              some ((partition, offset), kafkaEncode message) := by
            simp [appended, htask, hmessage]
          obtain ⟨htopic, hissue⟩ := happended _ _ hcopy
          have hround := quarantine_round_trip texts.sha256Hex evidence.key evidence.value headers
            captured.failureId (texts.envelope captured)
          rw [← hheaders] at hround
          dsimp only at hround
          split at hround
          · rw [show publish ⟨evidence, captured.failureId, texts.envelope captured⟩ = _ from hround]
              at hmessage
            cases hmessage
          · obtain ⟨sent, hsent, hfound⟩ := hround
            obtain rfl := Except.ok.inj (hmessage.symm.trans hsent)
            refine ⟨(partition, offset), _, evidence, rfl, hissue, htopic, ?_⟩
            show verifyQuarantineRecord _ _ before.failureId before.evidence.hash = _
            rw [hid, ← h.hash]
            exact hfound

theorem changes_copied (hsnapshots : f.Snapshots)
    (hchanges : ReflTransGen (Change texts f e) f.store.journal j')
    (hwriting : ∀ sourceId captured policy summary evidence answer stored,
      f.tasks sourceId = some (.writing captured policy summary evidence answer) →
        f.store.journal.incidents.get captured.failureId = some stored →
          Writes texts captured evidence answer stored)
    (happended : ∀ place copy, appended texts f e = some (place, copy) →
      topic place = some copy ∧ quarantineCoordinateIssue place = none)
    (hcopied : ∀ failureId record, f.store.journal.incidents.get failureId = some record →
      record.quarantine = .acknowledged → Copied texts topic record) :
    ∀ failureId record, j'.incidents.get failureId = some record →
      record.quarantine = .acknowledged → Copied texts topic record := by
  induction hchanges with
  | refl => exact hcopied
  | tail hearlier hchange ih =>
      intro failureId record hget hacknowledged
      have hmoved := Change.moved hchange hget
      cases hbefore : (InsertionMap.get _ failureId) with
      | none =>
          rw [hbefore] at hmoved
          cases hmoved with
          | first => cases hacknowledged
      | some before =>
          rw [hbefore] at hmoved
          have hkept : record.quarantine = before.quarantine →
              record.quarantineCoordinates = before.quarantineCoordinates →
                Copied texts topic record := fun hquarantine hcoordinates =>
            (ih failureId before hbefore (hquarantine ▸ hacknowledged)).of_sameOrigin
              hmoved.sameOrigin hcoordinates
          cases hmoved with
          | same => exact hkept rfl rfl
          | again =>
              exact hkept (observedAgain_quarantine _ _).1 (observedAgain_quarantine _ _).2
          | prepared => exact hkept rfl rfl
          | @patched _ patch time hmakes =>
              cases hmakes with
              | quiet h =>
                  cases hquarantine : patch.quarantine with
                  | none =>
                      refine hkept ?_ ?_
                      · simp [patched, hquarantine]
                      · simp [patched, h.coordinates]
                  | some quarantine =>
                      have hother := h.quarantine quarantine hquarantine
                      simp only [patched, hquarantine, Option.getD_some] at hacknowledged
                      exact absurd hacknowledged hother
              | processed | guardPending | returned | uncertain | advanced => exact hkept rfl rfl
              | acknowledged hevent htask hanswer hid =>
                  subst hevent
                  obtain ⟨stored, hstored, -⟩ := hsnapshots _ _ htask
                  obtain ⟨middle, hmiddle, hsame⟩ := changes_sameOrigin hearlier hstored
                  have hidBefore := InsertionMap.key_of_get hbefore
                  obtain rfl : middle = before := by
                    rw [← hid, hidBefore, hbefore] at hmiddle
                    exact (Option.some.inj hmiddle).symm
                  have hwrites := (hwriting _ _ _ _ _ _ stored htask hstored).of_sameOrigin hsame
                  exact hwrites.copied hid htask hanswer happended time

theorem recaptured_of_begun {input : Delivery} {outcome : Pause} {rest : List Job} {task : Task}
    {existing : IncidentRecord} {policy : FailurePolicy} {summary : EvidenceSummary}
    (hidle : f.tasks sourceId = none) (hchain : f.chains sourceId = .dispose input outcome :: rest)
    (htask : (f.beginNext texts sourceId).tasks sourceId = some task)
    (hpolicy : policy = policyFor (f.settings.source sourceId).policy outcome.failureClass)
    (hsummary : summary = f.settings.summarize texts sourceId (rawEvidence input) policy)
    (hquarantines : policy ≠ .pause) (hwhole : summary.completeness = .complete)
    (hget : f.store.journal.incidents.get
      (texts.failureId sourceId (f.settings.source sourceId).generation input.position) =
        some existing)
    (hhash : existing.evidence.hash = "" ∨ existing.evidence.hash = summary.hash) :
    recaptured texts f sourceId = some existing := by
  have hwrites : (dispose texts sourceId input outcome
      { f with chains := Function.update f.chains sourceId rest }).1 = some task := by
    simp only [beginNext, hidle, hchain, beginJob] at htask
    simpa using htask
  obtain ⟨hqueued, hserved, hmatches⟩ := dispose_writes hwrites
  have hmatch := hmatches existing hget
  subst hsummary hpolicy
  simp only [recaptured, hidle, hchain]
  rw [if_neg (by simp_all), hget]
  simp_all

theorem rawEvidence_headers {input : Delivery} {evidence : RawEvidence}
    (h : rawEvidence input = some evidence) : evidence.headers = input.headers := by
  unfold rawEvidence at h
  dsimp only at h
  split at h
  · rw [← Option.some.inj h]
  · rw [← Option.some.inj h]
  · cases h

/-- A first observation captures what it summarizes. -/
theorem first_evidence {input : Delivery} {outcome : Pause} {rest : List Job}
    {policy : FailurePolicy} {summary : EvidenceSummary} {failureId : String}
    (hchanges : ReflTransGen (Change texts f (.begin sourceId)) f.store.journal j')
    (hchain : f.chains sourceId = .dispose input outcome :: rest)
    (hpolicy : policy = policyFor (f.settings.source sourceId).policy outcome.failureClass)
    (hsummary : summary = f.settings.summarize texts sourceId (rawEvidence input) policy)
    (hbefore : f.store.journal.incidents.get failureId = none) (stored : IncidentRecord)
    (hstored : j'.incidents.get failureId = some stored) : stored.evidence = summary := by
  have hkept := @changes_keep texts f (.begin sourceId) _ _
    (fun record => record.failureId = failureId → record.evidence = summary) hchanges ?_ ?_
  · exact hkept failureId stored hstored (InsertionMap.key_of_get hstored)
  · intro boundaries before after hrecords hmoved hid
    cases before with
    | some record =>
        have hsame := hmoved.sameOrigin
        rw [hsame.evidence]
        exact hrecords record rfl (hsame.failureId ▸ hid)
    | none =>
        cases hmoved with
        | first hobserves =>
            obtain ⟨input', outcome', rest', observedAt, hevent, -, hchain', rfl⟩ := hobserves
            obtain rfl := Event.begin.inj hevent
            obtain ⟨hjob, -⟩ := List.cons.inj (hchain.symm.trans hchain')
            obtain ⟨rfl, rfl⟩ := Job.dispose.inj hjob
            subst hsummary hpolicy
            rfl
  · intro other record hget hid
    rw [← InsertionMap.key_of_get hget, hid, hbefore] at hget
    cases hget

/-- A copy whose writing begins is of an incident that was captured whole. -/
theorem writes_of_begun {input : Delivery} {outcome : Pause} {rest : List Job}
    {captured stored : IncidentRecord} {policy : FailurePolicy} {summary : EvidenceSummary}
    {evidence : RawEvidence} {answer : Option QuarantineOutcome}
    (hcoherent : Coherent texts f') (harrived : Arrived (f.settings.source sourceId) input)
    (hsummarized : ∀ failureId record, f.store.journal.incidents.get failureId = some record →
      Summarized record)
    (hchanges : ReflTransGen (Change texts f (.begin sourceId)) f.store.journal f'.store.journal)
    (hidle : f.tasks sourceId = none) (hchain : f.chains sourceId = .dispose input outcome :: rest)
    (htask : (f.beginNext texts sourceId).tasks sourceId =
      some (.writing captured policy summary evidence answer))
    (hwhole : ∀ existing ∈ recaptured texts f sourceId,
      existing.evidence.location ≠ .none ∧ existing.evidence.completeness = .complete)
    (hcopy : CopyOf texts f sourceId input outcome f'.store captured policy summary evidence answer)
    (hstored : f'.store.journal.incidents.get captured.failureId = some stored) :
    Writes texts captured evidence answer stored := by
  obtain ⟨hpolicy, hsummary, record, hid, horigin, hhash, hcaptures⟩ := hcopy
  have hnamed := hcoherent.named _ _ hstored
  have hstoredId := InsertionMap.key_of_get hstored
  obtain ⟨-, -, hposition⟩ := failureId_inj
    (hnamed.symm.trans (hstoredId.trans (hcaptures.id.trans hid)))
  have hcases := @summarize_cases texts sourceId f.settings (rawEvidence input) policy
  rw [← hsummary, captureLocation_of_delivers harrived.1] at hcases
  obtain ⟨-, hplace, hsummaryHash, hraw⟩ := hcases
  have hevidence := hraw evidence hcaptures.raw
  have hheaders := rawEvidence_headers hcaptures.raw
  have horigin' : stored.evidence.completeness = .complete ∧
      stored.evidence.location = captureLocation stored.position ∧
        stored.evidence.hash = summary.hash := by
    cases hbefore : f.store.journal.incidents.get record.failureId with
    | none =>
        have hfirst := first_evidence hchanges hchain hpolicy hsummary hbefore stored
          (hcaptures.id ▸ hstored)
        rw [hfirst, hposition]
        exact ⟨hcaptures.complete, hplace hcaptures.policy hcaptures.complete, rfl⟩
    | some existing =>
        obtain ⟨after, hafter, hsame⟩ := changes_sameOrigin hchanges hbefore
        obtain rfl := Option.some.inj (hafter.symm.trans (hcaptures.id ▸ hstored))
        rw [hbefore] at horigin
        have hexisting : record.evidence = existing.evidence := horigin
        rw [hexisting] at hhash
        have hnonempty := hsummaryHash hcaptures.complete
        have hagrees : existing.evidence.hash = "" ∨ existing.evidence.hash = summary.hash := by
          rcases hhash with hnone | hnone | hsame
          · exact .inl hnone
          · exact absurd hnone hnonempty
          · exact .inr hsame
        obtain ⟨hplaced, hcomplete⟩ := hwhole existing
          (recaptured_of_begun hidle hchain htask hpolicy hsummary hcaptures.policy
            hcaptures.complete (hid ▸ hbefore) hagrees)
        have hsound := hsummarized _ existing hbefore
        rw [hsame.evidence, hsame.position]
        exact ⟨hcomplete, hsound.location.resolve_left hplaced,
          hagrees.resolve_left (hsound.hash hcomplete)⟩
  obtain ⟨hcomplete, hlocation, hstoredHash⟩ := horigin'
  refine ⟨hcomplete, hlocation, (hstoredHash.trans hevidence).symm, ?_,
    fun hnone => (hcaptures.began.published hnone).2⟩
  intro hkafka
  have hkind : (f.settings.source sourceId).kind = .kafka := by
    rw [hlocation, hposition, ← captureLocation_of_delivers harrived.1] at hkafka
    split at hkafka
    · cases hkafka
    · cases hkind : (f.settings.source sourceId).kind <;> simp_all
  refine ⟨hheaders ▸ harrived.2 hkind, ?_⟩
  rintro coordinates rfl
  rw [(hcaptures.began.stored coordinates rfl).2.1] at hkind
  cases hkind

theorem Kept.stepped {o : Occurrence} (hkept : Kept texts h)
    (hstepped : Stepped texts (h.service.given o) e f') (hcoherent : Coherent texts f')
    (hmore : ∀ place copy, h.topic place = some copy → topic place = some copy)
    (happended : ∀ place copy, appended texts h.service e = some (place, copy) →
      topic place = some copy ∧ quarantineCoordinateIssue place = none)
    (hchains : ∀ sourceId input outcome, .dispose input outcome ∈ f'.chains sourceId →
      Arrived (f'.settings.source sourceId) input)
    (henters : ∀ sourceId captured policy summary evidence answer stored,
      f'.tasks sourceId = some (.writing captured policy summary evidence answer) →
        Enters texts (h.service.given o) e sourceId f'.store
          (.writing captured policy summary evidence answer) →
        f'.store.journal.incidents.get captured.failureId = some stored →
          Writes texts captured evidence answer stored) :
    Kept texts { h with service := f', topic := topic } := by
  have hwriting : ∀ sourceId captured policy summary evidence answer stored,
      f'.tasks sourceId = some (.writing captured policy summary evidence answer) →
        f'.store.journal.incidents.get captured.failureId = some stored →
          Writes texts captured evidence answer stored := by
    intro sourceId captured policy summary evidence answer stored htask hstored
    rcases hstepped.tasks sourceId _ htask with ⟨hbefore, -⟩ | hnew
    · obtain ⟨first, hfirst, -⟩ := hkept.coherent.snapshots _ _ hbefore
      obtain ⟨after, hafter, hsame⟩ := changes_sameOrigin hstepped.journal hfirst
      obtain rfl := Option.some.inj (hafter.symm.trans hstored)
      exact (hkept.writing _ _ _ _ _ _ first hbefore hfirst).of_sameOrigin hsame
    · exact henters _ _ _ _ _ _ stored htask hnew hstored
  have hspooled : ∀ failureId raw, h.service.store.evidence failureId = some raw →
      ∃ record, f'.store.journal.incidents.get failureId = some record ∧
        raw.evidenceHash texts.sha256Hex = record.evidence.hash := by
    intro failureId raw hraw
    obtain ⟨record, hget, hhash⟩ := hkept.spool failureId raw hraw
    obtain ⟨after, hafter, hsame⟩ := changes_sameOrigin hstepped.journal hget
    exact ⟨after, hafter, by rw [hsame.evidence, hhash]⟩
  refine
    { coherent := hcoherent
      summarized := changes_summarized hstepped.journal hkept.chains hkept.summarized
      copied := ?_, spool := ?_, chains := hchains, writing := hwriting }
  · refine changes_copied (f := h.service.given o) hkept.coherent.snapshots hstepped.journal
      hkept.writing happended ?_
    intro failureId record hget hacknowledged
    exact (hkept.copied failureId record hget hacknowledged).mono hmore
  · rcases hstepped.evidence with hsame | ⟨sourceId, captured, policy, summary, evidence, htask, -, hset⟩
    · show ∀ failureId raw, f'.store.evidence failureId = some raw → _
      rw [hsame]
      exact hspooled
    · intro failureId raw hraw
      rw [hset] at hraw
      by_cases hid : failureId = captured.failureId
      · subst hid
        rw [Function.update_self] at hraw
        obtain rfl := Option.some.inj hraw
        obtain ⟨stored, hstored, -⟩ := hcoherent.snapshots _ _ htask
        exact ⟨stored, hstored, (hwriting _ _ _ _ _ _ stored htask hstored).hash⟩
      · rw [Function.update_of_ne hid] at hraw
        exact hspooled failureId raw hraw

/-- What a disposition begins to write was captured whole. -/
theorem Kept.begun {o : Occurrence} (hkept : Kept texts h) (hcoherent : Coherent texts f')
    (hresult : f' = (h.service.given o).handle texts o.event)
    (hstepped : Stepped texts (h.service.given o) o.event f')
    (hwhole : ∀ sourceId ∈ begun o.event,
      ∀ existing ∈ recaptured texts (h.service.given o) sourceId,
        existing.evidence.location ≠ .none ∧ existing.evidence.completeness = .complete)
    {captured stored : IncidentRecord} {policy : FailurePolicy} {summary : EvidenceSummary}
    {evidence : RawEvidence} {answer : Option QuarantineOutcome}
    (htask : f'.tasks sourceId = some (.writing captured policy summary evidence answer))
    (henters : Enters texts (h.service.given o) o.event sourceId f'.store
      (.writing captured policy summary evidence answer))
    (hstored : f'.store.journal.incidents.get captured.failureId = some stored) :
    Writes texts captured evidence answer stored := by
  cases henters with
  | @writing input outcome rest _ _ _ _ _ hevent hchain hcopy =>
      have hbegun : f' = (h.service.given o).beginNext texts sourceId := by
        rw [hresult, hevent]
        rfl
      cases hidle : h.service.tasks sourceId with
      | some task =>
          have hsame : f' = h.service.given o := by
            rw [hbegun]
            unfold beginNext
            rw [show (h.service.given o).tasks sourceId = some task from hidle]
          rw [hsame] at htask hstored
          exact hkept.writing _ _ _ _ _ _ stored htask hstored
      | none =>
          have harrived := hkept.chains sourceId input outcome
            (by rw [show h.service.chains sourceId = _ from hchain]; exact List.mem_cons_self)
          refine writes_of_begun (f := h.service.given o) hcoherent harrived hkept.summarized
            (hevent ▸ hstepped.journal) hidle hchain (hbegun ▸ htask)
            (hwhole sourceId (by simp [hevent, EvidenceHost.begun])) hcopy hstored

/-- A copy takes a place that was free. -/
theorem grown_keeps (hfresh : ∀ copy ∈ appended texts h.service e, h.topic copy.1 = none) :
    (∀ place copy, h.topic place = some copy → h.grown texts e place = some copy) ∧
      ∀ place copy, appended texts h.service e = some (place, copy) →
        h.grown texts e place = some copy := by
  unfold grown
  cases hcopy : appended texts h.service e with
  | none => exact ⟨fun _ _ hbefore => hbefore, fun _ _ hnone => by cases hnone⟩
  | some added =>
      have hfree := hfresh added hcopy
      constructor
      · intro place copy hbefore
        have hne : place ≠ added.1 := by
          rintro rfl
          rw [hfree] at hbefore
          cases hbefore
        dsimp only
        rw [Function.update_of_ne hne]
        exact hbefore
      · rintro place copy ⟨⟩
        exact Function.update_self ..

theorem kept_step {input : HostStep} (hkept : Kept texts h) (hallowed : h.Allowed texts input)
    (hwhole : h.CapturedWhole texts input) : Kept texts (h.step texts input) := by
  cases input with
  | expire partition low =>
      exact ⟨hkept.coherent, hkept.summarized, hkept.copied, hkept.spool, hkept.chains,
        hkept.writing⟩
  | prune failureId =>
      have hcoherent := hkept.coherent
      refine ⟨⟨hcoherent.snapshots, hcoherent.named, hcoherent.bounded, hcoherent.current,
        hcoherent.tasks, hcoherent.prepared, hcoherent.advancing⟩, hkept.summarized, hkept.copied,
        ?_, hkept.chains, hkept.writing⟩
      intro other raw hraw
      simp only [step, Function.update_apply] at hraw
      split at hraw
      · cases hraw
      · exact hkept.spool other raw hraw
  | service o headers =>
      obtain ⟨hheaders, hfresh⟩ := hallowed
      have hcoherent := hkept.coherent.step o
      have hstep := @step_cases texts h.service hkept.coherent.snapshots o
      obtain ⟨hmore, hadded⟩ := grown_keeps fun copy hcopy => (hfresh copy hcopy).1
      have happended : ∀ place copy, appended texts h.service o.event = some (place, copy) →
          h.grown texts o.event place = some copy ∧ quarantineCoordinateIssue place = none :=
        fun place copy hcopy => ⟨hadded place copy hcopy, (hfresh _ hcopy).2⟩
      unfold EvidenceHost.step
      dsimp only
      generalize FailureService.step texts h.service o = f' at hstep hcoherent
      cases hstep with
      | @restarted settings offsets hevent =>
          have hstepped : Stepped texts (h.service.given o) o.event
              (restart settings offsets (h.service.given o).store) := by
            rw [hevent]
            exact restart_stepped
          refine hkept.stepped hstepped hcoherent hmore happended ?_ ?_
          · intro sourceId input outcome hjob
            rw [(restart_settings _).2.2] at hjob
            cases hjob
          · intro sourceId captured policy summary evidence answer stored _ henters
            cases henters with
            | writing hbegin =>
                rw [hevent] at hbegin
                cases hbegin
      | nothing =>
          exact ⟨hcoherent, hkept.summarized,
            fun failureId record hget hacknowledged =>
              (hkept.copied failureId record hget hacknowledged).mono hmore,
            hkept.spool, hkept.chains, hkept.writing⟩
      | handled _ hpossible _ hresult hstepped hcontinues =>
          refine hkept.stepped hstepped hcoherent hmore happended ?_ ?_
          · intro sourceId input outcome hjob
            rw [hcontinues.settings]
            rcases hcontinues.chains sourceId _ hjob with hold | hqueues
            · exact hkept.chains sourceId input outcome hold
            · cases hqueues with
              | disposed hevent =>
                  rw [hevent] at hpossible
                  unfold possible at hpossible
                  rw [Bool.and_eq_true] at hpossible
                  refine ⟨hpossible.2, fun hkind => ⟨headers, ?_⟩⟩
                  exact hheaders (sourceId, input) (by simp [hevent, heldBy]) hkind
              | asked hevent =>
                  rw [hevent] at hpossible
                  unfold possible at hpossible
                  rw [Bool.and_eq_true] at hpossible
                  cases hpossible.2
          · intro sourceId captured policy summary evidence answer stored htask henters hstored
            exact hkept.begun hcoherent hresult hstepped hwhole htask henters hstored

theorem kept_initial (settings : ServiceSettings) : Kept texts (initial settings) := by
  refine ⟨coherent_initial, ?_, ?_, ?_, ?_, ?_⟩
  · intro failureId record hget
    cases hget
  · intro failureId record hget
    cases hget
  · intro failureId raw hraw
    cases hraw
  · intro sourceId input outcome hjob
    cases hjob
  · intro sourceId captured policy summary evidence answer stored htask
    cases htask

theorem verify_hash {sha256Hex : Bytes → String} {message : KafkaMessage}
    {failureId expectedHash : String} {evidence : RawEvidence}
    (hfound : verifyQuarantineRecord sha256Hex message failureId expectedHash = .found evidence) :
    evidence.evidenceHash sha256Hex = expectedHash := by
  unfold verifyQuarantineRecord at hfound
  dsimp only at hfound
  split at hfound
  · cases hfound
  · cases hfound
  · split at hfound
    · cases hfound
    · split at hfound
      · cases hfound
      · rename_i hhash
        obtain rfl := QuarantineRead.found.inj hfound
        exact not_not.mp hhash

theorem Kept.evidenceCoherent (hkept : Kept texts h) : h.EvidenceCoherent texts := by
  intro failureId record hget hacknowledged
  have hcopied := hkept.copied failureId record hget hacknowledged
  refine ⟨hcopied.location, fun now hretains => ?_⟩
  unfold EvidenceHost.evidence
  rw [if_neg (not_not.mpr hcopied.complete)]
  have hid := InsertionMap.key_of_get hget
  cases hposition : record.position with
  | fixture index =>
      have hlocation : record.evidence.location = .local := by
        rw [hcopied.location, hposition]
        rfl
      unfold Retains at hretains
      rw [hposition] at hretains
      obtain ⟨raw, hraw⟩ := Option.ne_none_iff_exists'.mp hretains
      obtain ⟨stored, hstored, hhash⟩ := hkept.spool _ raw hraw
      obtain rfl := Option.some.inj (hstored.symm.trans (hid ▸ hget))
      refine ⟨raw, ?_, hhash⟩
      simp [hlocation, readSpool, hraw, hhash]
  | kafka topic partition offset =>
      have hlocation : record.evidence.location = .kafka := by
        rw [hcopied.location, hposition]
        rfl
      unfold Retains at hretains
      rw [hposition] at hretains
      obtain ⟨place, copy, raw, hcoordinates, hissue, htopic, hfound⟩ := hcopied.copy hlocation
      have hlow := hretains.2 place hcoordinates
      refine ⟨raw, ?_, verify_hash hfound⟩
      simp [hlocation, hacknowledged, hcoordinates, hretains.1, readCopy, hissue,
        Nat.not_lt.mpr hlow, htopic, hfound]

/-! ### Runs -/

section Runs

instance (texts : RecordTexts) (h : EvidenceHost) : (input : HostStep) →
    Decidable (h.Allowed texts input)
  | .service _ _ => inferInstanceAs (Decidable (_ ∧ _))
  | .expire _ _ | .prune _ => .isTrue trivial

instance (texts : RecordTexts) (h : EvidenceHost) : (input : HostStep) →
    Decidable (h.CapturedWhole texts input)
  | .service o _ => inferInstanceAs (Decidable (∀ sourceId ∈ EvidenceHost.begun o.event,
      ∀ existing ∈ recaptured texts (h.service.given o) sourceId,
        existing.evidence.location ≠ .none ∧ existing.evidence.completeness = .complete))
  | .expire _ _ | .prune _ => .isTrue trivial

def machine (texts : RecordTexts) : Machine EvidenceHost HostStep where
  step := step texts
  allowed := Allowed texts

/-- Runs that quarantine no record whose incident was not captured whole at first. -/
def wholeMachine (texts : RecordTexts) : Machine EvidenceHost HostStep where
  step := step texts
  allowed h input := h.Allowed texts input ∧ h.CapturedWhole texts input

instance (texts : RecordTexts) (h : EvidenceHost) (input : HostStep) :
    Decidable ((machine texts).allowed h input) :=
  inferInstanceAs (Decidable (h.Allowed texts input))

instance (texts : RecordTexts) (h : EvidenceHost) (input : HostStep) :
    Decidable ((wholeMachine texts).allowed h input) :=
  inferInstanceAs (Decidable (h.Allowed texts input ∧ h.CapturedWhole texts input))

theorem evidenceCoherent_after (texts : RecordTexts) (settings : ServiceSettings)
    (inputs : List HostStep) (hrun : (wholeMachine texts).Admits (initial settings) inputs) :
    ((wholeMachine texts).after (initial settings) inputs).EvidenceCoherent texts := by
  have hkept : Kept texts ((wholeMachine texts).after (initial settings) inputs) := by
    refine Machine.invariant (P := Kept texts) ?_ (kept_initial settings) hrun
    exact fun _ _ h hallowed => kept_step h hallowed.1 hallowed.2
  exact hkept.evidenceCoherent

/-- A process under the policy holds record 5, and its copy is acknowledged if there is one. -/
def heldUnder (policy : FailurePolicy) (offset : ℕ) : List HostStep :=
  (calmly [.restart (ordersUnder policy) fun _ _ _ => .ok none,
    .held "orders" (orderAt 5 [1]) invalidOrder, .begin "orders",
    .written "orders" (.acknowledged 0 offset)]).map fun o => .service o none

theorem evidenceCoherent_heldAgain :
    ((wholeMachine plainTexts).after (initial (ordersUnder .quarantineHold))
      (heldUnder .quarantineHold 0 ++ (heldUnder .pause 1 ++ (heldUnder .quarantineResync 1 ++
        [.expire 0 1])))).EvidenceCoherent plainTexts := by
  apply evidenceCoherent_after
  decide +kernel

/-- The record is held under `pause` first, and then quarantined: its copy is acknowledged, and the
operator is told that no bytes were captured. -/
theorem quarantined_after_pause :
    ¬ ∀ (texts : RecordTexts) (settings : ServiceSettings) (inputs : List HostStep),
      (machine texts).Admits (initial settings) inputs →
        ((machine texts).after (initial settings) inputs).EvidenceCoherent texts := by
  intro hclaim
  have hrun : (machine plainTexts).Admits (initial (ordersUnder .pause))
      (heldUnder .pause 0 ++ heldUnder .quarantineHold 0) := by
    decide +kernel
  have hcoherent := hclaim _ _ _ hrun
  generalize hhost : (machine plainTexts).after (initial (ordersUnder .pause))
    (heldUnder .pause 0 ++ heldUnder .quarantineHold 0) = host at hcoherent
  have hstored : (host.service.store.journal.incidents.get
      (plainTexts.failureId "orders" "1" (.kafka "orders" 0 5))).any (fun record =>
        decide (record.quarantine = .acknowledged ∧ record.evidence.location = .none)) = true := by
    rw [← hhost]
    decide +kernel
  obtain ⟨record, hget, hmarked⟩ := (Option.any_eq_true _ _).mp hstored
  obtain ⟨hacknowledged, hnone⟩ := of_decide_eq_true hmarked
  have hlocation := (hcoherent _ record hget hacknowledged).1
  rw [hnone] at hlocation
  cases hposition : record.position <;> rw [hposition] at hlocation <;> cases hlocation

end Runs

end EvidenceHost

end StreamOtter
