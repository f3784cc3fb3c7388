import StreamOtter.RecordPreparation
import Mathlib.Data.List.Perm.Basic
import Mathlib.Data.List.Flatten

/-!
# What a record's verdict depends on

The problems of a record are stated once for all its channels and outputs, without an
order.  `prepare` is compared with them, and the one kind of record for which it misses a
problem is singled out: outputs of one routing key and revision with different data, below
the highest revision of that key, which the conflict scan overlooks when a higher revision
comes between them.
-/

namespace StreamOtter

/-- What a channel's map handler answered in the attempt that decided. -/
abbrev MapResult := Channel × MapOutcome

def MapResult.items (result : MapResult) : List JsValue :=
  match result.2 with
  | .ok (.array items) => items
  | _ => []

namespace Pipeline

variable (p : Pipeline)

def validOutputs (result : MapResult) : List RoutedOutput :=
  result.items.filterMap fun item => (p.buildOutput result.1 item).toOption

def recordOutputs (results : List MapResult) : List RoutedOutput :=
  results.flatMap p.validOutputs

/-- A throw, a timeout, an answer that is no array or one that is too long. -/
def MapperFails (result : MapResult) : Prop :=
  match result.2 with
  | .ok (.array items) => p.limits.maxMapOutputs < items.length
  | _ => True

def OutputFails (failureClass : FailureClass) (result : MapResult) : Prop :=
  ∃ item ∈ result.items, ∃ message,
    p.buildOutput result.1 item = .error ⟨failureClass, message⟩

end Pipeline

/-- Two outputs of one routing key and revision with different data. -/
def Inconsistent (outputs : List RoutedOutput) : Prop :=
  ∃ a ∈ outputs, ∃ b ∈ outputs,
    a.key = b.key ∧ a.revision = b.revision ∧ a.dataHash ≠ b.dataHash

/-- The same at the highest revision of the key. -/
def InconsistentAtTop (outputs : List RoutedOutput) : Prop :=
  ∃ a ∈ outputs, ∃ b ∈ outputs,
    a.key = b.key ∧ a.revision = b.revision ∧ a.dataHash ≠ b.dataHash ∧
      ∀ c ∈ outputs, c.key = a.key → c.revision ≤ a.revision

/-- An output that contradicts the latest state of a capturing subscriber. -/
def Contradicts (router : RoutingKey → List ServerSubscription) (outputs : List RoutedOutput) :
    Prop :=
  ∃ output ∈ outputs, ∃ s ∈ router output.key, s.conflicts output.revision output.dataHash = true

namespace Pipeline

variable (p : Pipeline)

/-- The problems that do not depend on how outputs of one record compare. -/
def Faulty (router : RoutingKey → List ServerSubscription) (results : List MapResult) : Prop :=
  (∃ result ∈ results, p.MapperFails result) ∨
    (∃ result ∈ results, p.OutputFails .routingInvalid result) ∨
      Contradicts router (p.recordOutputs results)

/-- A problem no quarantine policy may pass. -/
def IntegrityFailure (router : RoutingKey → List ServerSubscription)
    (results : List MapResult) : Prop :=
  p.Faulty router results ∨ Inconsistent (p.recordOutputs results)

def PayloadFails (results : List MapResult) : Prop :=
  ∃ result ∈ results, p.OutputFails .payloadSchema result

end Pipeline

inductive RecordVerdict
  | ok | eligible | notEligible | abandoned
  deriving DecidableEq, Repr

def Prepared.verdict : Prepared → RecordVerdict
  | .ok _ => .ok
  | .problem found => if found.failureClass.Eligible then .eligible else .notEligible
  | .abandon => .abandoned

/-- The same answer of the same channel, up to the order of its outputs. -/
def SameAnswer (a b : MapResult) : Prop :=
  a.1 = b.1 ∧
    (a.2 = b.2 ∨ ∃ items items', a.2 = .ok (.array items) ∧ b.2 = .ok (.array items') ∧
      items.Perm items')

/-- The same channels with the same answers, in another order of channels and of each
channel's outputs. -/
def Reordered (results results' : List MapResult) : Prop :=
  ∃ shuffled : List MapResult,
    List.Forall₂ SameAnswer results shuffled ∧ shuffled.Perm results'

/-- Everything one evaluation of a record reads. -/
structure Evaluation where
  pipeline : Pipeline
  input : SourceInput
  retries : ℕ
  mapping : Mapping
  router : RoutingKey → List ServerSubscription

namespace Evaluation

def prepared (e : Evaluation) : Prepared :=
  e.pipeline.prepare e.input e.retries e.mapping e.router

/-- What the channels answered in the attempt that decided, had all been asked. -/
def results (e : Evaluation) : List MapResult :=
  e.pipeline.channels.map fun channel =>
    (channel, e.mapping.invoke (e.pipeline.mapRecord e.mapping e.retries 0).2 channel)

/-- The record was decoded, failure handling is configured and the evaluation ran to its
end. -/
def Completed (e : Evaluation) : Prop :=
  e.pipeline.failureHandling = true ∧ (∃ value, e.pipeline.decode e.input = .ok value) ∧
    e.prepared.verdict ≠ .abandoned

/-- Evaluations that differ in the order of the channels, in that of their outputs, and in
what happened before the deciding attempt. -/
def Rearranged (e e' : Evaluation) : Prop :=
  e'.pipeline.limits = e.pipeline.limits ∧ e'.pipeline.encoding = e.pipeline.encoding ∧
    e'.router = e.router ∧ Reordered e.results e'.results

/-- What is asked of one evaluation: the class that may be quarantined is reported exactly
when nothing else is wrong, success exactly when nothing is, the verdict does not depend on
the order, and either every output is admitted or none. -/
structure Classified (e : Evaluation) : Prop where
  eligible : (∃ problem, e.prepared = .problem problem ∧ problem.failureClass = .payloadSchema) ↔
    e.pipeline.PayloadFails e.results ∧ ¬e.pipeline.IntegrityFailure e.router e.results
  ok : e.prepared.verdict = .ok ↔
    ¬e.pipeline.PayloadFails e.results ∧ ¬e.pipeline.IntegrityFailure e.router e.results
  unordered : ∀ e' : Evaluation, e'.Completed → e.Rearranged e' →
    e'.prepared.verdict = e.prepared.verdict
  whole : ∀ limits readings subscribers,
    processPrepared limits readings e.prepared subscribers = ([], subscribers) ∨
      ((∀ result ∈ e.results, ∀ item ∈ result.items, ∃ output,
          e.pipeline.buildOutput result.1 item = .ok output) ∧
        processPrepared limits readings e.prepared subscribers =
          (e.pipeline.recordOutputs e.results,
            admitOutputs limits readings 0 (e.pipeline.recordOutputs e.results) subscribers))

/-- The inconsistency of the record, if it has one, shows whatever the order. -/
def Exposed (e : Evaluation) : Prop :=
  Inconsistent (e.pipeline.recordOutputs e.results) →
    e.pipeline.Faulty e.router e.results ∨
      InconsistentAtTop (e.pipeline.recordOutputs e.results)

end Evaluation

/-! ### The conflict scan -/

section Scan

variable {router : RoutingKey → List ServerSubscription}

/-- `seen` holds for each routing key of `done` its highest revision, whose outputs agree. -/
structure Leads (seen : RoutingKey → Option Tail) (done : List RoutedOutput) : Prop where
  fresh : ∀ key, seen key = none → ∀ a ∈ done, a.key ≠ key
  first : ∀ key e, seen key = some e →
    ∃ a ∈ done, a.key = key ∧ a.revision = e.revision ∧ a.dataHash = e.dataHash
  highest : ∀ key e, seen key = some e → ∀ a ∈ done, a.key = key → a.revision ≤ e.revision
  agrees : ∀ key e, seen key = some e → ∀ a ∈ done, a.key = key →
    a.revision = e.revision → a.dataHash = e.dataHash

theorem leads_nil : Leads (fun _ => none) [] := by
  constructor <;> simp

namespace Pipeline

theorem remember_other
    {seen : RoutingKey → Option Tail} {output : RoutedOutput} {key : RoutingKey}
    (hkey : key ≠ output.key) :
    remember seen output key = seen key := by
  unfold remember
  split
  · exact Function.update_of_ne hkey _ _
  · rfl

theorem remember_fresh
    {seen : RoutingKey → Option Tail} {output : RoutedOutput}
    (hseen : seen output.key = none) :
    remember seen output output.key = some ⟨output.revision, output.dataHash⟩ := by
  simp [remember, hseen]

theorem remember_higher
    {seen : RoutingKey → Option Tail} {output : RoutedOutput} {e : Tail}
    (hseen : seen output.key = some e) (hlt : e.revision < output.revision) :
    remember seen output output.key = some ⟨output.revision, output.dataHash⟩ := by
  simp [remember, hseen, hlt]

theorem remember_lower
    {seen : RoutingKey → Option Tail} {output : RoutedOutput} {e : Tail}
    (hseen : seen output.key = some e) (hle : output.revision ≤ e.revision) :
    remember seen output = seen := by
  unfold remember
  rw [if_neg]
  simpa [hseen] using hle

/-- What the table holds after an output is this output or what it held before. -/
theorem remember_cases
    {seen : RoutingKey → Option Tail} {output : RoutedOutput} {key : RoutingKey} {e : Tail}
    (he : remember seen output key = some e) :
    seen key = some e ∨
      (key = output.key ∧ e = ⟨output.revision, output.dataHash⟩ ∧
        ∀ e' ∈ seen output.key, e'.revision < output.revision) := by
  by_cases hkey : key = output.key
  · subst hkey
    cases hseen : seen output.key with
    | none =>
        right
        rw [remember_fresh hseen] at he
        exact ⟨rfl, (Option.some.inj he).symm, by simp⟩
    | some e' =>
        by_cases hlt : e'.revision < output.revision
        · right
          rw [remember_higher hseen hlt] at he
          refine ⟨rfl, (Option.some.inj he).symm, ?_⟩
          intro e'' he''
          obtain rfl : e' = e'' := Option.some.inj he''
          exact hlt
        · left
          rw [remember_lower hseen (Nat.le_of_not_lt hlt), hseen] at he
          exact he
  · left
    rwa [remember_other hkey] at he

theorem remember_ne_none
    {seen : RoutingKey → Option Tail} {output : RoutedOutput} {key : RoutingKey}
    (hnone : remember seen output key = none) :
    seen key = none ∧ key ≠ output.key := by
  by_cases hkey : key = output.key
  · exfalso
    subst hkey
    cases hseen : seen output.key with
    | none => simp [remember_fresh hseen] at hnone
    | some e =>
        by_cases hlt : e.revision < output.revision
        · simp [remember_higher hseen hlt] at hnone
        · rw [remember_lower hseen (Nat.le_of_not_lt hlt), hseen] at hnone
          cases hnone
  · rw [remember_other hkey] at hnone
    exact ⟨hnone, hkey⟩

end Pipeline

/-- The table after an output that conflicts with nothing. -/
theorem Leads.concat
    {seen : RoutingKey → Option Tail} {done : List RoutedOutput} {output : RoutedOutput}
    (hleads : Leads seen done)
    (hagrees : ∀ e ∈ seen output.key, e.revision = output.revision →
      e.dataHash = output.dataHash) :
    Leads (Pipeline.remember seen output) (done ++ [output]) := by
  have hhighest : ∀ key e, Pipeline.remember seen output key = some e →
      ∀ a ∈ done ++ [output], a.key = key →
        a.revision ≤ e.revision ∧ (a.revision = e.revision → a.dataHash = e.dataHash) := by
    intro key e he a ha hak
    rcases Pipeline.remember_cases he with hold | ⟨rfl, rfl, hlower⟩
    · rcases List.mem_append.mp ha with hdone | hlast
      · exact ⟨hleads.highest key e hold a hdone hak, hleads.agrees key e hold a hdone hak⟩
      · obtain rfl : a = output := by simpa using hlast
        subst hak
        have hle : a.revision ≤ e.revision := by
          by_contra hlt
          rw [Pipeline.remember_higher hold (Nat.lt_of_not_le hlt)] at he
          have hsame : a.revision = e.revision := congrArg Tail.revision (Option.some.inj he)
          exact hlt (Nat.le_of_eq hsame)
        exact ⟨hle, fun heq => (hagrees e hold heq.symm).symm⟩
    · rcases List.mem_append.mp ha with hdone | hlast
      · cases hseen : seen output.key with
        | none => exact absurd hak (hleads.fresh _ hseen a hdone)
        | some e =>
            have hlt : a.revision < output.revision :=
              lt_of_le_of_lt (hleads.highest _ e hseen a hdone hak) (hlower e hseen)
            exact ⟨Nat.le_of_lt hlt, fun heq => absurd heq (Nat.ne_of_lt hlt)⟩
      · obtain rfl : a = output := by simpa using hlast
        exact ⟨le_rfl, fun _ => rfl⟩
  constructor
  · intro key hnone a ha
    obtain ⟨hold, hkey⟩ := Pipeline.remember_ne_none hnone
    rcases List.mem_append.mp ha with hdone | hlast
    · exact hleads.fresh key hold a hdone
    · obtain rfl : a = output := by simpa using hlast
      exact hkey.symm
  · intro key e he
    rcases Pipeline.remember_cases he with hold | ⟨rfl, rfl, -⟩
    · obtain ⟨a, ha, hfirst⟩ := hleads.first key e hold
      exact ⟨a, by simp [ha], hfirst⟩
    · exact ⟨output, by simp, rfl, rfl, rfl⟩
  · exact fun key e he a ha hak => (hhighest key e he a ha hak).1
  · exact fun key e he a ha hak => (hhighest key e he a ha hak).2

namespace Pipeline

/-- What the scan compares an output with. -/
def Clashes (router : RoutingKey → List ServerSubscription) (seen : RoutingKey → Option Tail)
    (output : RoutedOutput) : Prop :=
  (∃ e ∈ seen output.key, e.revision = output.revision ∧ e.dataHash ≠ output.dataHash) ∨
    ∃ s ∈ router output.key, s.conflicts output.revision output.dataHash = true

theorem findConflict_cons
    (router : RoutingKey → List ServerSubscription) (seen : RoutingKey → Option Tail)
    (output : RoutedOutput) (rest : List RoutedOutput) :
    (Clashes router seen output ∧
        findConflict router seen (output :: rest) = some (conflictProblem output)) ∨
      (¬Clashes router seen output ∧
        findConflict router seen (output :: rest) =
          findConflict router (remember seen output) rest) := by
  have hiff : ((seen output.key).any
        (fun e => e.revision = output.revision && e.dataHash != output.dataHash) ||
      (router output.key).any
        (ServerSubscription.conflicts output.revision output.dataHash)) = true ↔
      Clashes router seen output := by
    simp [Clashes, Option.any_eq_true]
  by_cases hclash : Clashes router seen output
  · left
    refine ⟨hclash, ?_⟩
    unfold findConflict
    rw [if_pos (hiff.mpr hclash)]
  · right
    refine ⟨hclash, ?_⟩
    rw [findConflict]
    rw [if_neg (mt hiff.mp hclash)]

/-- A scan that finds nothing has compared every output with the highest revision of its
key and with every subscriber. -/
theorem findConflict_none
    {seen : RoutingKey → Option Tail} {done rest : List RoutedOutput}
    (hleads : Leads seen done) (hnone : findConflict router seen rest = none) :
    (∃ seen', Leads seen' (done ++ rest)) ∧ ¬Contradicts router rest := by
  induction rest generalizing seen done with
  | nil =>
      refine ⟨⟨seen, by simpa using hleads⟩, ?_⟩
      simp [Contradicts]
  | cons output rest ih =>
      rcases findConflict_cons router seen output rest with ⟨-, hfound⟩ | ⟨hclash, hnext⟩
      · rw [hfound] at hnone
        cases hnone
      · rw [hnext] at hnone
        have hagrees : ∀ e ∈ seen output.key, e.revision = output.revision →
            e.dataHash = output.dataHash := by
          intro e he hrev
          by_contra hne
          exact hclash (.inl ⟨e, he, hrev, hne⟩)
        obtain ⟨⟨seen', hall⟩, hrest⟩ := ih (hleads.concat hagrees) hnone
        refine ⟨⟨seen', by simpa using hall⟩, ?_⟩
        rintro ⟨a, ha, s, hs, hconflict⟩
        rcases List.mem_cons.mp ha with rfl | ha
        · exact hclash (.inr ⟨s, hs, hconflict⟩)
        · exact hrest ⟨a, ha, s, hs, hconflict⟩

theorem not_inconsistentAtTop_of_leads
    {seen : RoutingKey → Option Tail} {outputs : List RoutedOutput}
    (hleads : Leads seen outputs) :
    ¬InconsistentAtTop outputs := by
  rintro ⟨a, ha, b, hb, hkey, hrev, hdata, htop⟩
  cases he : seen a.key with
  | none => exact hleads.fresh _ he a ha rfl
  | some e =>
      obtain ⟨c, hc, hckey, hcrev, -⟩ := hleads.first _ e he
      have hca : c.revision ≤ a.revision := htop c hc hckey
      have hae : a.revision ≤ e.revision := hleads.highest _ e he a ha rfl
      have heq : a.revision = e.revision := le_antisymm hae (hcrev ▸ hca)
      have hadata := hleads.agrees _ e he a ha rfl heq
      have hbdata := hleads.agrees _ e he b hb hkey.symm (hrev ▸ heq)
      exact hdata (hadata.trans hbdata.symm)

/-- What the scan finds is there. -/
theorem findConflict_some
    {seen : RoutingKey → Option Tail} {done rest : List RoutedOutput} {problem : Problem}
    (hleads : Leads seen done) (hsome : findConflict router seen rest = some problem) :
    problem.failureClass = .revisionConflict ∧
      (Inconsistent (done ++ rest) ∨ Contradicts router rest) := by
  induction rest generalizing seen done with
  | nil => simp [findConflict] at hsome
  | cons output rest ih =>
      rcases findConflict_cons router seen output rest with ⟨hclash, hfound⟩ | ⟨hclash, hnext⟩
      · rw [hfound] at hsome
        obtain rfl : conflictProblem output = problem := Option.some.inj hsome
        refine ⟨rfl, ?_⟩
        rcases hclash with ⟨e, he, hrev, hdata⟩ | ⟨s, hs, hconflict⟩
        · left
          obtain ⟨a, ha, hakey, harev, hadata⟩ := hleads.first _ e he
          refine ⟨a, by simp [ha], output, by simp, hakey, harev.trans hrev, ?_⟩
          rw [hadata]
          exact hdata
        · exact .inr ⟨output, by simp, s, hs, hconflict⟩
      · rw [hnext] at hsome
        have hagrees : ∀ e ∈ seen output.key, e.revision = output.revision →
            e.dataHash = output.dataHash := by
          intro e he hrev
          by_contra hne
          exact hclash (.inl ⟨e, he, hrev, hne⟩)
        obtain ⟨hclass, hreason⟩ := ih (hleads.concat hagrees) hsome
        refine ⟨hclass, ?_⟩
        rcases hreason with hin | ⟨a, ha, hs⟩
        · exact .inl (by simpa using hin)
        · exact .inr ⟨a, List.mem_cons_of_mem _ ha, hs⟩

/-- With every key's highest revision first, only an inconsistency there is found. -/
theorem findConflict_descending
    {outputs done rest : List RoutedOutput} {seen : RoutingKey → Option Tail}
    (hsplit : outputs = done ++ rest)
    (hleads : Leads seen done)
    (hdescending : outputs.Pairwise fun a b => a.key = b.key → b.revision ≤ a.revision)
    (htop : ∀ key, ∀ e ∈ seen key, ∀ a ∈ outputs, a.key = key → a.revision ≤ e.revision)
    (hcalm : ¬Contradicts router outputs) (hagree : ¬InconsistentAtTop outputs) :
    findConflict router seen rest = none := by
  induction rest generalizing seen done with
  | nil => rfl
  | cons output rest ih =>
      have hmem : output ∈ outputs := by simp [hsplit]
      rcases findConflict_cons router seen output rest with ⟨hclash, -⟩ | ⟨hclash, hnext⟩
      · exfalso
        rcases hclash with ⟨e, he, hrev, hdata⟩ | ⟨s, hs, hconflict⟩
        · obtain ⟨a, ha, hakey, harev, hadata⟩ := hleads.first _ e he
          apply hagree
          refine ⟨a, by simp [hsplit, ha], output, hmem, hakey, harev.trans hrev, ?_, ?_⟩
          · rw [hadata]
            exact hdata
          · intro c hc hck
            rw [harev]
            exact htop output.key e he c hc (hck.trans hakey)
        · exact hcalm ⟨output, hmem, s, hs, hconflict⟩
      · rw [hnext]
        have hagrees : ∀ e ∈ seen output.key, e.revision = output.revision →
            e.dataHash = output.dataHash := by
          intro e he hrev
          by_contra hne
          exact hclash (.inl ⟨e, he, hrev, hne⟩)
        have hsplit' : outputs = (done ++ [output]) ++ rest := by simp [hsplit]
        apply ih hsplit' (hleads.concat hagrees)
        intro key e he a ha hak
        rcases remember_cases he with hold | ⟨rfl, rfl, hlower⟩
        · exact htop key e hold a ha hak
        · cases hseen : seen output.key with
          | some e' =>
              have hle := htop output.key e' hseen output hmem rfl
              exact absurd (hlower e' hseen) (not_lt.mpr hle)
          | none =>
              have hfirst := hleads.fresh _ hseen
              rw [hsplit] at ha hdescending
              rcases List.mem_append.mp ha with hdone | hrest
              · exact absurd hak (hfirst a hdone)
              · rcases List.mem_cons.mp hrest with rfl | hrest
                · exact le_rfl
                · have htail := (List.pairwise_append.mp hdescending).2.1
                  exact (List.pairwise_cons.mp htail).1 a hrest hak.symm

end Pipeline

end Scan

/-! ### Building and mapping -/

namespace Pipeline

variable {p : Pipeline}

/-- A rejected output either fails its routing checks or, after them, its payload schema. -/
theorem buildOutput_error
    {channel : Channel} {item : JsValue} {problem : OutputProblem}
    (herror : p.buildOutput channel item = .error problem) :
    problem.failureClass = .routingInvalid ∨ problem.failureClass = .payloadSchema := by
  unfold buildOutput at herror
  dsimp only at herror
  repeat' split at herror
  all_goals cases herror
  all_goals simp

/-- What the outputs of one channel add to the accumulators. -/
structure Gathered (p : Pipeline) (channel : Channel) (items : List JsValue)
    (batch batch' : Batch) : Prop where
  routed : ∀ item ∈ items, ∀ message,
    p.buildOutput channel item ≠ .error ⟨.routingInvalid, message⟩
  outputs : batch'.outputs = batch.outputs ++
    items.filterMap fun item => (p.buildOutput channel item).toOption
  eligible : batch'.eligible = none ↔ batch.eligible = none ∧
    ∀ item ∈ items, ∀ message, p.buildOutput channel item ≠ .error ⟨.payloadSchema, message⟩
  payload : ∀ q ∈ batch'.eligible, q ∈ batch.eligible ∨ q.failureClass = .payloadSchema

theorem mapOutputs_ok
    (hfailure : p.failureHandling = true) {channel : Channel} {items : List JsValue} {index : ℕ}
    {batch batch' : Batch} (hok : p.mapOutputs channel index items batch = .ok batch') :
    Gathered p channel items batch batch' := by
  induction items generalizing index batch with
  | nil =>
      obtain rfl : batch = batch' := by simpa [mapOutputs] using hok
      exact ⟨by simp, by simp, by simp, fun q hq => .inl hq⟩
  | cons item items ih =>
      unfold mapOutputs at hok
      cases hbuilt : p.buildOutput channel item with
      | ok output =>
          simp only [hbuilt] at hok
          have hrest := ih hok
          constructor
          · simpa [hbuilt] using hrest.routed
          · simp [hrest.outputs, hbuilt, Except.toOption]
          · simpa [hbuilt] using hrest.eligible
          · exact hrest.payload
      | error problem =>
          simp only [hbuilt, hfailure] at hok
          split at hok
          · cases hok
          · rename_i heligible
            have hrest := ih hok
            have hclass : problem.failureClass = .payloadSchema := by
              rcases buildOutput_error hbuilt with hrouting | hpayload
              · exfalso
                apply heligible
                rw [hrouting]
                decide
              · exact hpayload
            have hproblem : problem = ⟨.payloadSchema, problem.message⟩ := by
              rw [← hclass]
            constructor
            · intro other hother message
              rcases List.mem_cons.mp hother with rfl | hother
              · rw [hbuilt, hproblem]
                simp
              · exact hrest.routed other hother message
            · simp [hrest.outputs, hbuilt, Except.toOption]
            · constructor
              · intro hnone
                have := (hrest.eligible.mp hnone).1
                simp at this
              · rintro ⟨-, hall⟩
                exact absurd (hbuilt.trans (congrArg Except.error hproblem))
                  (hall item (by simp) problem.message)
            · intro q hq
              rcases hrest.payload q hq with hbefore | hpayload
              · cases heligible' : batch.eligible with
                | none =>
                    simp only [heligible', Option.none_or, Option.mem_some_iff] at hbefore
                    subst hbefore
                    exact .inr hclass
                | some first =>
                    left
                    simpa [heligible'] using hbefore
              · exact .inr hpayload

theorem mapOutputs_error
    (hfailure : p.failureHandling = true) {channel : Channel} {items : List JsValue} {index : ℕ}
    {batch : Batch} {problem : Problem}
    (herror : p.mapOutputs channel index items batch = .error problem) :
    ¬problem.failureClass.Eligible ∧
      ∃ item ∈ items, ∃ message,
        p.buildOutput channel item = .error ⟨.routingInvalid, message⟩ := by
  induction items generalizing index batch with
  | nil => simp [mapOutputs] at herror
  | cons item items ih =>
      unfold mapOutputs at herror
      cases hbuilt : p.buildOutput channel item with
      | ok output =>
          simp only [hbuilt] at herror
          obtain ⟨hclass, other, hother, hfails⟩ := ih herror
          exact ⟨hclass, other, by simp [hother], hfails⟩
      | error found =>
          simp only [hbuilt, hfailure] at herror
          split at herror
          · rename_i hineligible
            have hnot : ¬found.failureClass.Eligible := by simpa using hineligible
            cases herror
            refine ⟨hnot, item, by simp, found.message, ?_⟩
            rcases buildOutput_error hbuilt with hrouting | hpayload
            · rw [hbuilt, ← hrouting]
            · exact absurd (hpayload ▸ by decide) hnot
          · obtain ⟨hclass, other, hother, hfails⟩ := ih herror
            exact ⟨hclass, other, by simp [hother], hfails⟩

/-- What a whole attempt has gathered. -/
structure GatheredAll (p : Pipeline) (results : List MapResult) (batch batch' : Batch) :
    Prop where
  answered : ∀ result ∈ results, ¬p.MapperFails result
  routed : ∀ result ∈ results, ¬p.OutputFails .routingInvalid result
  outputs : batch'.outputs = batch.outputs ++ p.recordOutputs results
  eligible : batch'.eligible = none ↔ batch.eligible = none ∧ ¬p.PayloadFails results
  payload : ∀ q ∈ batch'.eligible, q ∈ batch.eligible ∨ q.failureClass = .payloadSchema

theorem mapChannels_mapped
    (hfailure : p.failureHandling = true) {invoke : Channel → MapOutcome} {again : Bool}
    {channels : List Channel} {batch batch' : Batch}
    (hmapped : p.mapChannels invoke again channels batch = .mapped batch') :
    GatheredAll p (channels.map fun channel => (channel, invoke channel)) batch batch' := by
  induction channels generalizing batch with
  | nil =>
      obtain rfl : batch = batch' := by simpa [mapChannels] using hmapped
      exact ⟨by simp, by simp, by simp [recordOutputs], by simp [PayloadFails],
        fun q hq => .inl hq⟩
  | cons channel channels ih =>
      unfold mapChannels at hmapped
      split at hmapped
      · cases hmapped
      · cases hmapped
      · split at hmapped <;> cases hmapped
      · rename_i items hinvoked
        split at hmapped
        · cases hmapped
        · rename_i hlength
          split at hmapped
          · cases hmapped
          · rename_i between houtputs
            have hhere := mapOutputs_ok hfailure houtputs
            have hrest := ih hmapped
            have hitems : MapResult.items (channel, invoke channel) = items := by
              simp [MapResult.items, hinvoked]
            constructor
            · intro result hresult
              rcases List.mem_cons.mp hresult with rfl | hresult
              · simpa [MapperFails, hinvoked] using hlength
              · exact hrest.answered result hresult
            · intro result hresult
              rcases List.mem_cons.mp hresult with rfl | hresult
              · rintro ⟨item, hitem, message, hfails⟩
                rw [hitems] at hitem
                exact hhere.routed item hitem message hfails
              · exact hrest.routed result hresult
            · rw [hrest.outputs, hhere.outputs]
              simp [recordOutputs, validOutputs, hitems]
            · rw [hrest.eligible, hhere.eligible]
              simp [PayloadFails, OutputFails, hitems]
              tauto
            · intro q hq
              rcases hrest.payload q hq with hq | hpayload
              · exact hhere.payload q hq
              · exact .inr hpayload
      · cases hmapped

theorem mapChannels_problem
    (hfailure : p.failureHandling = true) {invoke : Channel → MapOutcome} {again : Bool}
    {channels : List Channel} {batch : Batch} {problem : Problem}
    (hproblem : p.mapChannels invoke again channels batch = .problem problem) :
    ¬problem.failureClass.Eligible ∧
      ∃ result ∈ channels.map fun channel => (channel, invoke channel),
        p.MapperFails result ∨ p.OutputFails .routingInvalid result := by
  induction channels generalizing batch with
  | nil => simp [mapChannels] at hproblem
  | cons channel channels ih =>
      unfold mapChannels at hproblem
      split at hproblem
      · cases hproblem
      · rename_i hinvoked
        cases hproblem
        exact ⟨by simp, (channel, invoke channel), by simp, .inl (by simp [MapperFails, hinvoked])⟩
      · rename_i transient summary hinvoked
        split at hproblem
        · cases hproblem
        · cases hproblem
          refine ⟨?_, (channel, invoke channel), by simp, .inl (by simp [MapperFails, hinvoked])⟩
          cases transient <;> simp
      · rename_i items hinvoked
        split at hproblem
        · rename_i hlength
          cases hproblem
          refine ⟨by simp, (channel, invoke channel), by simp, .inl ?_⟩
          simpa [MapperFails, hinvoked] using hlength
        · split at hproblem
          · rename_i found houtputs
            cases hproblem
            obtain ⟨hclass, item, hitem, hfails⟩ := mapOutputs_error hfailure houtputs
            refine ⟨hclass, (channel, invoke channel), by simp, .inr ⟨item, ?_, hfails⟩⟩
            simpa [MapResult.items, hinvoked] using hitem
          · obtain ⟨hclass, result, hresult, hfails⟩ := ih hproblem
            exact ⟨hclass, result, List.mem_cons_of_mem _ hresult, hfails⟩
      · rename_i value hnot hinvoked
        cases hproblem
        refine ⟨by simp, (channel, invoke channel), by simp, .inl ?_⟩
        unfold MapperFails
        split
        · rename_i items hitems
          exact absurd (hinvoked.symm.trans hitems) (by simpa using hnot items)
        · trivial

/-- The attempts end with the deciding one, or are abandoned. -/
theorem mapRecord_decides (mapping : Mapping) (retries attempt : ℕ) :
    (p.mapRecord mapping retries attempt).1 = .abandon ∨
      ∃ again, (p.mapRecord mapping retries attempt).1 =
        p.mapChannels (mapping.invoke (p.mapRecord mapping retries attempt).2) again p.channels
          ⟨[], none⟩ := by
  induction retries generalizing attempt with
  | zero =>
      unfold mapRecord
      split
      · exact .inl rfl
      · exact .inr ⟨_, rfl⟩
  | succ retries ih =>
      unfold mapRecord
      split
      · dsimp only
        split
        · exact ih (attempt + 1)
        · exact .inl rfl
      · exact .inr ⟨_, rfl⟩

end Pipeline

/-! ### What the order does not change -/

theorem SameAnswer.symm {a b : MapResult} (h : SameAnswer a b) : SameAnswer b a := by
  obtain ⟨hchannel, hoverall | ⟨items, items', ha, hb, hperm⟩⟩ := h
  · exact ⟨hchannel.symm, .inl hoverall.symm⟩
  · exact ⟨hchannel.symm, .inr ⟨items', items, hb, ha, hperm.symm⟩⟩

theorem SameAnswer.mem_items
    {a b : MapResult} (h : SameAnswer a b) {item : JsValue} (hitem : item ∈ a.items) :
    item ∈ b.items := by
  obtain ⟨-, hoverall | ⟨items, items', ha, hb, hperm⟩⟩ := h
  · simpa [MapResult.items, hoverall] using hitem
  · have hin : item ∈ items := by simpa [MapResult.items, ha] using hitem
    simpa [MapResult.items, hb] using hperm.mem_iff.mp hin

/-- Each answer of one list has its like in the other. -/
def Covered (results results' : List MapResult) : Prop :=
  ∀ a ∈ results, ∃ b ∈ results', SameAnswer a b

theorem Covered.of_forall₂
    {results results' : List MapResult} (h : List.Forall₂ SameAnswer results results') :
    Covered results results' ∧ Covered results' results := by
  induction h with
  | nil => simp [Covered]
  | @cons a b results results' hab _ ih =>
      constructor
      · intro c hc
        rcases List.mem_cons.mp hc with rfl | hc
        · exact ⟨b, by simp, hab⟩
        · obtain ⟨d, hd, hcd⟩ := ih.1 c hc
          exact ⟨d, List.mem_cons_of_mem _ hd, hcd⟩
      · intro c hc
        rcases List.mem_cons.mp hc with rfl | hc
        · exact ⟨a, by simp, hab.symm⟩
        · obtain ⟨d, hd, hcd⟩ := ih.2 c hc
          exact ⟨d, List.mem_cons_of_mem _ hd, hcd⟩

theorem Reordered.covered
    {results results' : List MapResult} (h : Reordered results results') :
    Covered results results' ∧ Covered results' results := by
  obtain ⟨shuffled, hsame, hperm⟩ := h
  obtain ⟨hforth, hback⟩ := Covered.of_forall₂ hsame
  constructor
  · intro a ha
    obtain ⟨b, hb, hab⟩ := hforth a ha
    exact ⟨b, hperm.mem_iff.mp hb, hab⟩
  · exact fun b hb => hback b (hperm.mem_iff.mpr hb)

/-- Two pipelines that build the same outputs. -/
structure Alike (p p' : Pipeline) : Prop where
  limits : p'.limits = p.limits
  encoding : p'.encoding = p.encoding

theorem Alike.symm {p p' : Pipeline} (h : Alike p p') : Alike p' p :=
  ⟨h.limits.symm, h.encoding.symm⟩

theorem Alike.buildOutput
    {p p' : Pipeline} (h : Alike p p') (channel : Channel) (item : JsValue) :
    p'.buildOutput channel item = p.buildOutput channel item := by
  unfold Pipeline.buildOutput
  rw [h.limits, h.encoding]

section Reordering

variable {p p' : Pipeline} {results results' : List MapResult}
  {router : RoutingKey → List ServerSubscription}

theorem Covered.outputFails
    (hcovered : Covered results results') (halike : Alike p p') {failureClass : FailureClass}
    (hfails : ∃ result ∈ results, p.OutputFails failureClass result) :
    ∃ result ∈ results', p'.OutputFails failureClass result := by
  obtain ⟨a, ha, item, hitem, message, hbuilt⟩ := hfails
  obtain ⟨b, hb, hab⟩ := hcovered a ha
  refine ⟨b, hb, item, hab.mem_items hitem, message, ?_⟩
  rw [halike.buildOutput, ← hab.1]
  exact hbuilt

theorem Covered.mapperFails
    (hcovered : Covered results results') (halike : Alike p p')
    (hfails : ∃ result ∈ results, p.MapperFails result) :
    ∃ result ∈ results', p'.MapperFails result := by
  obtain ⟨a, ha, hfails⟩ := hfails
  obtain ⟨b, hb, hab⟩ := hcovered a ha
  refine ⟨b, hb, ?_⟩
  obtain ⟨-, hoverall | ⟨items, items', hitems, hitems', hperm⟩⟩ := hab
  · simpa [Pipeline.MapperFails, halike.limits, hoverall] using hfails
  · simp only [Pipeline.MapperFails, hitems] at hfails
    simpa [Pipeline.MapperFails, halike.limits, hitems', hperm.length_eq] using hfails

theorem Covered.mem_recordOutputs
    (hcovered : Covered results results') (halike : Alike p p') {output : RoutedOutput}
    (hmem : output ∈ p.recordOutputs results) :
    output ∈ p'.recordOutputs results' := by
  simp only [Pipeline.recordOutputs, Pipeline.validOutputs, List.mem_flatMap,
    List.mem_filterMap] at hmem ⊢
  obtain ⟨a, ha, item, hitem, hbuilt⟩ := hmem
  obtain ⟨b, hb, hab⟩ := hcovered a ha
  refine ⟨b, hb, item, hab.mem_items hitem, ?_⟩
  rw [halike.buildOutput, ← hab.1]
  exact hbuilt

theorem Reordered.mem_recordOutputs
    (h : Reordered results results') (halike : Alike p p') (output : RoutedOutput) :
    output ∈ p'.recordOutputs results' ↔ output ∈ p.recordOutputs results :=
  ⟨h.covered.2.mem_recordOutputs halike.symm, h.covered.1.mem_recordOutputs halike⟩

theorem Reordered.inconsistent
    (h : Reordered results results') (halike : Alike p p') :
    Inconsistent (p'.recordOutputs results') ↔ Inconsistent (p.recordOutputs results) := by
  simp only [Inconsistent, h.mem_recordOutputs halike]

theorem Reordered.inconsistentAtTop
    (h : Reordered results results') (halike : Alike p p') :
    InconsistentAtTop (p'.recordOutputs results') ↔
      InconsistentAtTop (p.recordOutputs results) := by
  simp only [InconsistentAtTop, h.mem_recordOutputs halike]

theorem Reordered.payloadFails
    (h : Reordered results results') (halike : Alike p p') :
    p'.PayloadFails results' ↔ p.PayloadFails results :=
  ⟨h.covered.2.outputFails halike.symm, h.covered.1.outputFails halike⟩

theorem Reordered.faulty
    (h : Reordered results results') (halike : Alike p p') :
    p'.Faulty router results' ↔ p.Faulty router results := by
  have hmapper : (∃ result ∈ results', p'.MapperFails result) ↔
      ∃ result ∈ results, p.MapperFails result :=
    ⟨h.covered.2.mapperFails halike.symm, h.covered.1.mapperFails halike⟩
  have hrouting : (∃ result ∈ results', p'.OutputFails .routingInvalid result) ↔
      ∃ result ∈ results, p.OutputFails .routingInvalid result :=
    ⟨h.covered.2.outputFails halike.symm, h.covered.1.outputFails halike⟩
  have hcontradicts : Contradicts router (p'.recordOutputs results') ↔
      Contradicts router (p.recordOutputs results) := by
    simp only [Contradicts, h.mem_recordOutputs halike]
  simp only [Pipeline.Faulty, hmapper, hrouting, hcontradicts]

end Reordering

/-! ### Every key's highest revision first -/

namespace Pipeline

variable {p : Pipeline}

theorem buildOutput_key
    {channel : Channel} {item : JsValue} {output : RoutedOutput}
    (hok : p.buildOutput channel item = .ok output) :
    output.key.channel = channel.name := by
  unfold buildOutput at hok
  dsimp only at hok
  repeat' split at hok
  all_goals cases hok
  all_goals rfl

/-- The revision of the output an item becomes. -/
def rank (p : Pipeline) (channel : Channel) (item : JsValue) : Revision :=
  match p.buildOutput channel item with
  | .ok output => output.revision
  | .error _ => 0

def descending (p : Pipeline) (channel : Channel) (items : List JsValue) : List JsValue :=
  items.mergeSort fun a b => p.rank channel b ≤ p.rank channel a

/-- The same answer with the highest revisions first. -/
def descendingOutcome (p : Pipeline) (channel : Channel) : MapOutcome → MapOutcome
  | .ok (.array items) => .ok (.array (p.descending channel items))
  | outcome => outcome

theorem sameAnswer_descending (channel : Channel) (outcome : MapOutcome) :
    SameAnswer (channel, outcome) (channel, p.descendingOutcome channel outcome) := by
  refine ⟨rfl, ?_⟩
  unfold descendingOutcome
  split
  · rename_i items
    exact .inr ⟨items, _, rfl, rfl, (List.mergeSort_perm _ _).symm⟩
  · exact .inl rfl

theorem pairwise_descending (channel : Channel) (items : List JsValue) :
    (p.descending channel items).Pairwise fun a b => p.rank channel b ≤ p.rank channel a := by
  have htrans : ∀ a b c, decide (p.rank channel b ≤ p.rank channel a) = true →
      decide (p.rank channel c ≤ p.rank channel b) = true →
      decide (p.rank channel c ≤ p.rank channel a) = true := by
    intro a b c hab hbc
    simp only [decide_eq_true_eq] at hab hbc ⊢
    exact le_trans hbc hab
  have htotal : ∀ a b, (decide (p.rank channel b ≤ p.rank channel a) ||
      decide (p.rank channel a ≤ p.rank channel b)) = true := by
    intro a b
    simpa using Nat.le_total (p.rank channel b) (p.rank channel a)
  simpa [descending] using List.pairwise_mergeSort htrans htotal items

end Pipeline

namespace Pipeline

variable {p : Pipeline}

theorem descending_validOutputs (channel : Channel) (outcome : MapOutcome) :
    (p.validOutputs (channel, p.descendingOutcome channel outcome)).Pairwise
      fun a b => b.revision ≤ a.revision := by
  unfold descendingOutcome
  split
  · rename_i items
    unfold validOutputs
    rw [List.pairwise_filterMap]
    apply (pairwise_descending (p := p) channel items).imp
    intro a b hrank output houtput output' houtput'
    cases ha : p.buildOutput channel a with
    | error problem => simp [ha, Except.toOption] at houtput
    | ok built =>
        cases hb : p.buildOutput channel b with
        | error problem => simp [hb, Except.toOption] at houtput'
        | ok built' =>
            simp only [ha, Except.toOption, Option.some.injEq] at houtput
            simp only [hb, Except.toOption, Option.some.injEq] at houtput'
            subst houtput
            subst houtput'
            simpa [rank, ha, hb] using hrank
  · rename_i hnot
    have hitems : MapResult.items (channel, outcome) = [] := by
      unfold MapResult.items
      split
      · rename_i items hitems
        exact absurd hitems (by simpa using hnot items)
      · rfl
    simp [validOutputs, hitems]

/-- Outputs of different channels never share a routing key. -/
theorem descending_recordOutputs (invoke : Channel → MapOutcome) :
    (p.recordOutputs (p.channels.map fun channel =>
      (channel, p.descendingOutcome channel (invoke channel)))).Pairwise
        fun a b => a.key = b.key → b.revision ≤ a.revision := by
  have hkey : ∀ result output, output ∈ p.validOutputs result →
      output.key.channel = result.1.name := by
    intro result output houtput
    obtain ⟨item, -, hbuilt⟩ := List.mem_filterMap.mp houtput
    cases hcase : p.buildOutput result.1 item with
    | error problem => simp [hcase, Except.toOption] at hbuilt
    | ok built =>
        simp only [hcase, Except.toOption, Option.some.injEq] at hbuilt
        subst hbuilt
        exact buildOutput_key hcase
  unfold recordOutputs
  rw [List.pairwise_flatMap]
  constructor
  · intro result hresult
    obtain ⟨channel, -, rfl⟩ := List.mem_map.mp hresult
    apply (descending_validOutputs channel (invoke channel)).imp
    intro a b hle _
    exact hle
  · rw [List.pairwise_map]
    have hnames : p.channels.Pairwise fun a b => a.name ≠ b.name :=
      List.pairwise_map.mp p.distinct
    apply hnames.imp
    intro channel channel' hne a ha b hb hsame
    have hchannel := hkey _ a ha
    have hchannel' := hkey _ b hb
    rw [hsame, hchannel'] at hchannel
    exact absurd hchannel.symm hne

end Pipeline

/-! ### The verdict -/

namespace Evaluation

variable {e : Evaluation}

/-- A completed evaluation reports a problem found while mapping, or reaches the scan. -/
theorem Completed.mapped
    (hcompleted : e.Completed) :
    (∃ q, e.prepared = .problem q ∧ ¬q.failureClass.Eligible ∧
        ∃ result ∈ e.results, e.pipeline.MapperFails result ∨
          e.pipeline.OutputFails .routingInvalid result) ∨
      ∃ batch, e.pipeline.GatheredAll e.results ⟨[], none⟩ batch ∧
        e.prepared = Pipeline.conclude e.router batch := by
  obtain ⟨hfailure, ⟨value, hdecoded⟩, hnot⟩ := hcompleted
  have hprepared : e.prepared =
      Pipeline.afterAttempts e.router (e.pipeline.mapRecord e.mapping e.retries 0).1 :=
    Pipeline.prepare_decoded _ hdecoded _ _ _
  rcases e.pipeline.mapRecord_decides e.mapping e.retries 0 with habandon | ⟨again, hdecides⟩
  · rw [hprepared, habandon] at hnot
    exact absurd rfl hnot
  · cases hattempted : (e.pipeline.mapRecord e.mapping e.retries 0).1 with
    | mapped batch =>
        right
        rw [hattempted] at hprepared hdecides
        exact ⟨batch, Pipeline.mapChannels_mapped hfailure hdecides.symm, hprepared⟩
    | problem q =>
        left
        rw [hattempted] at hprepared hdecides
        obtain ⟨hclass, hfails⟩ := Pipeline.mapChannels_problem hfailure hdecides.symm
        exact ⟨q, hprepared, hclass, hfails⟩
    | retry =>
        rw [hprepared, hattempted] at hnot
        exact absurd rfl hnot
    | abandon =>
        rw [hprepared, hattempted] at hnot
        exact absurd rfl hnot

/-- What a batch means for the verdict, once the scan has found nothing. -/
theorem conclude_calm
    {batch : Batch} (hgathered : e.pipeline.GatheredAll e.results ⟨[], none⟩ batch)
    (hcalm : Pipeline.findConflict e.router (fun _ => none)
      (e.pipeline.recordOutputs e.results) = none) :
    (∃ q, Pipeline.conclude e.router batch = .problem q ∧ q.failureClass = .payloadSchema ∧
        e.pipeline.PayloadFails e.results) ∨
      (Pipeline.conclude e.router batch = .ok (e.pipeline.recordOutputs e.results) ∧
        ¬e.pipeline.PayloadFails e.results) := by
  have houtputs : batch.outputs = e.pipeline.recordOutputs e.results := by
    simpa using hgathered.outputs
  unfold Pipeline.conclude
  rw [houtputs, hcalm]
  cases heligible : batch.eligible with
  | none =>
      right
      exact ⟨rfl, (hgathered.eligible.mp heligible).2⟩
  | some q =>
      left
      have hclass : q.failureClass = .payloadSchema := by
        simpa using hgathered.payload q heligible
      refine ⟨q, rfl, hclass, ?_⟩
      by_contra hpayload
      have hnone := hgathered.eligible.mpr ⟨rfl, hpayload⟩
      rw [heligible] at hnone
      cases hnone

/-- The three kinds of verdict, and what each of them shows. -/
theorem Completed.verdicts
    (hcompleted : e.Completed) :
    (∃ q, e.prepared = .problem q ∧ ¬q.failureClass.Eligible ∧
        e.pipeline.IntegrityFailure e.router e.results) ∨
      (¬e.pipeline.Faulty e.router e.results ∧
        ¬InconsistentAtTop (e.pipeline.recordOutputs e.results) ∧
        ((∃ q, e.prepared = .problem q ∧ q.failureClass = .payloadSchema ∧
            e.pipeline.PayloadFails e.results) ∨
          (e.prepared = .ok (e.pipeline.recordOutputs e.results) ∧
            ¬e.pipeline.PayloadFails e.results))) := by
  rcases hcompleted.mapped with ⟨q, hq, hclass, result, hresult, hfails⟩ | ⟨batch, hgathered, hq⟩
  · left
    refine ⟨q, hq, hclass, .inl ?_⟩
    rcases hfails with hmapper | hrouting
    · exact .inl ⟨result, hresult, hmapper⟩
    · exact .inr (.inl ⟨result, hresult, hrouting⟩)
  · have houtputs : batch.outputs = e.pipeline.recordOutputs e.results := by
      simpa using hgathered.outputs
    cases hscan : Pipeline.findConflict e.router (fun _ => none)
        (e.pipeline.recordOutputs e.results) with
    | some q =>
        left
        obtain ⟨hclass, hreason⟩ := Pipeline.findConflict_some leads_nil hscan
        refine ⟨q, ?_, by simp [hclass], ?_⟩
        · rw [hq]
          simp [Pipeline.conclude, houtputs, hscan]
        · rcases hreason with hinconsistent | hcontradicts
          · exact .inr (by simpa using hinconsistent)
          · exact .inl (.inr (.inr hcontradicts))
    | none =>
        right
        obtain ⟨⟨seen, hleads⟩, hcalm⟩ := Pipeline.findConflict_none leads_nil hscan
        refine ⟨?_, Pipeline.not_inconsistentAtTop_of_leads (by simpa using hleads), ?_⟩
        · rintro (⟨result, hresult, hfails⟩ | ⟨result, hresult, hfails⟩ | hcontradicts)
          · exact hgathered.answered result hresult hfails
          · exact hgathered.routed result hresult hfails
          · exact hcalm hcontradicts
        · rw [hq]
          exact conclude_calm hgathered hscan

/-- An inconsistency that shows is reported, and nothing is reported without a problem. -/
theorem Completed.verdict_of_exposed
    (hcompleted : e.Completed) (hexposed : e.Exposed) :
    (e.prepared.verdict = .notEligible ∧ e.pipeline.IntegrityFailure e.router e.results) ∨
      (¬e.pipeline.IntegrityFailure e.router e.results ∧
        ((e.prepared.verdict = .eligible ∧ e.pipeline.PayloadFails e.results ∧
            ∃ q, e.prepared = .problem q ∧ q.failureClass = .payloadSchema) ∨
          (e.prepared = .ok (e.pipeline.recordOutputs e.results) ∧
            ¬e.pipeline.PayloadFails e.results))) := by
  rcases hcompleted.verdicts with ⟨q, hq, hclass, hintegrity⟩ | ⟨hfaulty, htop, hrest⟩
  · left
    refine ⟨?_, hintegrity⟩
    rw [hq]
    simp only [Prepared.verdict, if_neg hclass]
  · right
    constructor
    · rintro (hfaulty' | hinconsistent)
      · exact hfaulty hfaulty'
      · rcases hexposed hinconsistent with hfaulty' | htop'
        · exact hfaulty hfaulty'
        · exact htop htop'
    · rcases hrest with ⟨q, hq, hclass, hpayload⟩ | hok
      · left
        refine ⟨?_, hpayload, q, hq, hclass⟩
        rw [hq]
        simp [Prepared.verdict, hclass]
      · exact .inr hok

theorem Rearranged.exposed
    {e' : Evaluation} (h : e.Rearranged e') (hexposed : e.Exposed) :
    e'.Exposed := by
  obtain ⟨hlimits, hencoding, hrouter, hreordered⟩ := h
  have halike : Alike e.pipeline e'.pipeline := ⟨hlimits, hencoding⟩
  intro hinconsistent
  rw [hreordered.inconsistent halike] at hinconsistent
  rw [hrouter, hreordered.faulty halike, hreordered.inconsistentAtTop halike]
  exact hexposed hinconsistent

theorem Rearranged.integrityFailure
    {e' : Evaluation} (h : e.Rearranged e') :
    e'.pipeline.IntegrityFailure e'.router e'.results ↔
      e.pipeline.IntegrityFailure e.router e.results := by
  obtain ⟨hlimits, hencoding, hrouter, hreordered⟩ := h
  have halike : Alike e.pipeline e'.pipeline := ⟨hlimits, hencoding⟩
  simp only [Pipeline.IntegrityFailure, hrouter, hreordered.faulty halike,
    hreordered.inconsistent halike]

/-- The same evaluation with every key's highest revision first. -/
def arranged (e : Evaluation) : Evaluation :=
  { e with
    retries := 0
    mapping := ⟨fun _ channel => e.pipeline.descendingOutcome channel
      (e.mapping.invoke (e.pipeline.mapRecord e.mapping e.retries 0).2 channel), fun _ => true⟩ }

theorem results_arranged (e : Evaluation) :
    e.arranged.results = e.pipeline.channels.map fun channel =>
      (channel, e.pipeline.descendingOutcome channel
        (e.mapping.invoke (e.pipeline.mapRecord e.mapping e.retries 0).2 channel)) := by
  rfl

theorem rearranged_arranged (e : Evaluation) : e.Rearranged e.arranged := by
  refine ⟨rfl, rfl, rfl, e.arranged.results, ?_, List.Perm.refl _⟩
  rw [results_arranged]
  unfold results
  induction e.pipeline.channels with
  | nil => exact .nil
  | cons channel channels ih => exact .cons (Pipeline.sameAnswer_descending _ _) ih

/-- With an array from every channel an attempt runs to its end. -/
theorem mapChannels_answered
    {p : Pipeline} {invoke : Channel → MapOutcome} {again : Bool} {channels : List Channel}
    {batch : Batch}
    (hanswered : ∀ channel ∈ channels, ¬p.MapperFails (channel, invoke channel)) :
    p.mapChannels invoke again channels batch ≠ .abandon ∧
      p.mapChannels invoke again channels batch ≠ .retry := by
  induction channels generalizing batch with
  | nil => simp [Pipeline.mapChannels]
  | cons channel channels ih =>
      have hhere := hanswered channel (by simp)
      have hrest : ∀ batch, p.mapChannels invoke again channels batch ≠ .abandon ∧
          p.mapChannels invoke again channels batch ≠ .retry := fun batch =>
        ih fun other hother => hanswered other (List.mem_cons_of_mem _ hother)
      unfold Pipeline.MapperFails at hhere
      unfold Pipeline.mapChannels
      cases hinvoked : invoke channel with
      | aborted => simp [hinvoked] at hhere
      | timeout => simp [hinvoked] at hhere
      | error transient summary => simp [hinvoked] at hhere
      | ok mapped =>
          cases mapped with
          | array items =>
              dsimp only
              split
              · simp
              · split
                · simp
                · exact hrest _
          | _ => simp [hinvoked] at hhere

theorem completed_arranged
    (hcompleted : e.Completed) (hfaulty : ¬e.pipeline.Faulty e.router e.results) :
    e.arranged.Completed := by
  obtain ⟨hfailure, hdecoded, -⟩ := hcompleted
  refine ⟨hfailure, hdecoded, ?_⟩
  have halike : Alike e.pipeline e.arranged.pipeline := ⟨rfl, rfl⟩
  have hcalm : ¬e.arranged.pipeline.Faulty e.router e.arranged.results := by
    rwa [(rearranged_arranged e).2.2.2.faulty halike]
  obtain ⟨value, hvalue⟩ := hdecoded
  have hanswered : ∀ channel ∈ e.pipeline.channels,
      ¬e.pipeline.MapperFails (channel, e.arranged.mapping.invoke 0 channel) := by
    intro channel hchannel hfails
    exact hcalm (.inl ⟨_, List.mem_map_of_mem hchannel, hfails⟩)
  have hended : e.pipeline.mapChannels (e.arranged.mapping.invoke 0) false
        e.pipeline.channels ⟨[], none⟩ ≠ .abandon ∧
      e.pipeline.mapChannels (e.arranged.mapping.invoke 0) false
        e.pipeline.channels ⟨[], none⟩ ≠ .retry := mapChannels_answered hanswered
  have hmap : (e.arranged.pipeline.mapRecord e.arranged.mapping e.arranged.retries 0).1 =
      e.pipeline.mapChannels (e.arranged.mapping.invoke 0) false e.pipeline.channels
        ⟨[], none⟩ := by
    show (e.pipeline.mapRecord e.arranged.mapping 0 0).1 = _
    unfold Pipeline.mapRecord
    cases hattempted : e.pipeline.mapChannels (e.arranged.mapping.invoke 0) false
        e.pipeline.channels ⟨[], none⟩ with
    | retry => exact absurd hattempted hended.2
    | _ => simp [hattempted]
  have hprepared : e.arranged.prepared =
      Pipeline.afterAttempts e.router (e.pipeline.mapChannels (e.arranged.mapping.invoke 0)
        false e.pipeline.channels ⟨[], none⟩) := by
    have hdecoded : e.arranged.pipeline.decode e.arranged.input = .ok value := hvalue
    rw [← hmap]
    exact Pipeline.prepare_decoded _ hdecoded _ _ _
  rw [hprepared]
  cases hattempted : e.pipeline.mapChannels (e.arranged.mapping.invoke 0) false
      e.pipeline.channels ⟨[], none⟩ with
  | abandon => exact absurd hattempted hended.1
  | retry => exact absurd hattempted hended.2
  | problem q =>
      simp only [Pipeline.afterAttempts, Prepared.verdict]
      split <;> simp
  | mapped batch =>
      simp only [Pipeline.afterAttempts, Pipeline.conclude]
      repeat' split
      all_goals
        simp only [Prepared.verdict]
        try split
      all_goals simp

/-- An inconsistency that does not show is missed in some order. -/
theorem arranged_verdict
    (hcompleted : e.Completed) (hfaulty : ¬e.pipeline.Faulty e.router e.results)
    (htop : ¬InconsistentAtTop (e.pipeline.recordOutputs e.results)) :
    e.arranged.prepared.verdict ≠ .notEligible := by
  have halike : Alike e.pipeline e.arranged.pipeline := ⟨rfl, rfl⟩
  have hreordered := (rearranged_arranged e).2.2.2
  have hcalm : ¬e.arranged.pipeline.Faulty e.arranged.router e.arranged.results := by
    show ¬e.arranged.pipeline.Faulty e.router e.arranged.results
    rwa [hreordered.faulty halike]
  rcases (completed_arranged hcompleted hfaulty).mapped with
    ⟨q, -, -, result, hresult, hfails⟩ | ⟨batch, hgathered, hq⟩
  · exfalso
    apply hcalm
    rcases hfails with hmapper | hrouting
    · exact .inl ⟨result, hresult, hmapper⟩
    · exact .inr (.inl ⟨result, hresult, hrouting⟩)
  · have hscan : Pipeline.findConflict e.arranged.router (fun _ => none)
        (e.arranged.pipeline.recordOutputs e.arranged.results) = none := by
      have hsplit : e.arranged.pipeline.recordOutputs e.arranged.results =
          [] ++ e.arranged.pipeline.recordOutputs e.arranged.results := rfl
      apply Pipeline.findConflict_descending hsplit leads_nil
      · rw [results_arranged]
        exact Pipeline.descending_recordOutputs _
      · simp
      · exact fun hcontradicts => hcalm (.inr (.inr hcontradicts))
      · rwa [hreordered.inconsistentAtTop halike]
    rw [hq]
    rcases conclude_calm hgathered hscan with ⟨q, hproblem, hclass, -⟩ | ⟨hok, -⟩
    · rw [hproblem]
      simp [Prepared.verdict, hclass]
    · rw [hok]
      simp [Prepared.verdict]

theorem Completed.classified
    (hcompleted : e.Completed) (hexposed : e.Exposed) :
    e.Classified := by
  have hverdict := hcompleted.verdict_of_exposed hexposed
  constructor
  · constructor
    · rintro ⟨q, hq, hclass⟩
      rcases hverdict with ⟨hnot, -⟩ | ⟨hintegrity, ⟨-, hpayload, -⟩ | ⟨hok, -⟩⟩
      · rw [hq] at hnot
        simp [Prepared.verdict, hclass] at hnot
      · exact ⟨hpayload, hintegrity⟩
      · rw [hq] at hok
        cases hok
    · rintro ⟨hpayload, hintegrity⟩
      rcases hverdict with ⟨-, hfails⟩ | ⟨-, ⟨-, -, hq⟩ | ⟨-, hnot⟩⟩
      · exact absurd hfails hintegrity
      · exact hq
      · exact absurd hpayload hnot
  · constructor
    · intro hok
      rcases hverdict with ⟨hnot, -⟩ | ⟨hintegrity, ⟨heligible, -⟩ | ⟨-, hpayload⟩⟩
      · rw [hok] at hnot
        cases hnot
      · rw [hok] at heligible
        cases heligible
      · exact ⟨hpayload, hintegrity⟩
    · rintro ⟨hpayload, hintegrity⟩
      rcases hverdict with ⟨-, hfails⟩ | ⟨-, ⟨-, hfails, -⟩ | ⟨hok, -⟩⟩
      · exact absurd hfails hintegrity
      · exact absurd hfails hpayload
      · rw [hok]
        rfl
  · intro e' hcompleted' hrearranged
    have hverdict' := hcompleted'.verdict_of_exposed (hrearranged.exposed hexposed)
    have hintegrity := hrearranged.integrityFailure
    have hpayload : e'.pipeline.PayloadFails e'.results ↔ e.pipeline.PayloadFails e.results :=
      hrearranged.2.2.2.payloadFails ⟨hrearranged.1, hrearranged.2.1⟩
    rw [hintegrity, hpayload] at hverdict'
    rcases hverdict with ⟨hnot, hfails⟩ | ⟨hcalm, ⟨heligible, hpay, -⟩ | ⟨hok, hpay⟩⟩
    · rcases hverdict' with ⟨hnot', -⟩ | ⟨hcalm', -⟩
      · rw [hnot, hnot']
      · exact absurd hfails hcalm'
    · rcases hverdict' with ⟨-, hfails'⟩ | ⟨-, ⟨heligible', -⟩ | ⟨-, hpay'⟩⟩
      · exact absurd hfails' hcalm
      · rw [heligible, heligible']
      · exact absurd hpay hpay'
    · rcases hverdict' with ⟨-, hfails'⟩ | ⟨-, ⟨-, hpay', -⟩ | ⟨hok', -⟩⟩
      · exact absurd hfails' hcalm
      · exact absurd hpay' hpay
      · rw [hok, hok']
        rfl
  · intro limits readings subscribers
    rcases hverdict with ⟨hnot, -⟩ | ⟨hintegrity, ⟨-, -, q, hq, -⟩ | ⟨hok, hpayload⟩⟩
    · left
      cases hprepared : e.prepared with
      | ok outputs =>
          rw [hprepared] at hnot
          cases hnot
      | problem q => rfl
      | abandon => rfl
    · left
      rw [hq]
      rfl
    · right
      constructor
      · intro result hresult item hitem
        cases hbuilt : e.pipeline.buildOutput result.1 item with
        | ok output => exact ⟨output, rfl⟩
        | error problem =>
            exfalso
            have hfails : e.pipeline.OutputFails problem.failureClass result :=
              ⟨item, hitem, problem.message, hbuilt⟩
            rcases Pipeline.buildOutput_error hbuilt with hrouting | hschema
            · rw [hrouting] at hfails
              exact hintegrity (.inl (.inr (.inl ⟨result, hresult, hfails⟩)))
            · rw [hschema] at hfails
              exact hpayload ⟨result, hresult, hfails⟩
      · rw [hok]
        rfl

/-- A record is classified as it should be, in every order, exactly when an inconsistency
between its outputs, if there is one, shows in every order. -/
theorem classified_iff_exposed
    (hcompleted : e.Completed) :
    e.Classified ↔ e.Exposed := by
  constructor
  · intro hclassified hinconsistent
    by_contra hhidden
    have hfaulty : ¬e.pipeline.Faulty e.router e.results := fun h => hhidden (.inl h)
    have htop : ¬InconsistentAtTop (e.pipeline.recordOutputs e.results) :=
      fun h => hhidden (.inr h)
    have hintegrity : e.pipeline.IntegrityFailure e.router e.results := .inr hinconsistent
    rcases hcompleted.verdicts with ⟨q, hq, hclass, -⟩ | ⟨-, -, ⟨q, hq, hclass, -⟩ | ⟨hok, -⟩⟩
    · have hnot : e.prepared.verdict = .notEligible := by
        rw [hq]
        simp only [Prepared.verdict, if_neg hclass]
      have hsame := hclassified.unordered e.arranged (completed_arranged hcompleted hfaulty)
        (rearranged_arranged e)
      exact arranged_verdict hcompleted hfaulty htop (hsame.trans hnot)
    · exact (hclassified.eligible.mp ⟨q, hq, hclass⟩).2 hintegrity
    · have hverdict : e.prepared.verdict = .ok := by
        rw [hok]
        rfl
      exact (hclassified.ok.mp hverdict).2 hintegrity
  · exact hcompleted.classified

section Example

/-- The encoding of the examples: data are strings, which stand for their own hashes. -/
def plainEncoding : Encoding where
  parse := fun _ => none
  jsonBytes := fun _ => 0
  frameBytes := fun _ _ => 0
  sha256Hex := fun
    | .string text => text
    | _ => ""

def ordersChannel : Channel where
  name := "orders"
  version := 1
  canonicalizeParams := fun _ => .ok "\x7b\x7d"
  validatePayload := fun _ => none

def stateOutput (revision data : String) : JsValue :=
  .object [("tenantId", .string "tenant"), ("params", .object []), ("revision", .string revision),
    ("data", .string data)]

/-- One record whose handler answers with these outputs, while nobody subscribes. -/
def recordOf (items : List JsValue) : Evaluation where
  pipeline :=
    { limits := ⟨1048576, 65536, 100⟩
      encoding := plainEncoding
      failureHandling := true
      channels := [ordersChannel]
      distinct := by simp }
  input := ⟨some .null, none⟩
  retries := 0
  mapping := ⟨fun _ _ => .ok (.array items), fun _ => true⟩
  router := fun _ => []

/-- Revision 1 with two different data, and revision 2 between them. -/
def hiddenRecord : Evaluation :=
  recordOf [stateOutput "1" "a", stateOutput "2" "x", stateOutput "1" "b"]

theorem hiddenRecord_verdict : hiddenRecord.prepared.verdict = .ok := by
  rfl

theorem hiddenRecord_completed : hiddenRecord.Completed := by
  refine ⟨rfl, ⟨.null, rfl⟩, ?_⟩
  rw [hiddenRecord_verdict]
  simp

def stateFrame (revision : Revision) (data : String) : RoutedOutput :=
  ⟨ordersChannel, ⟨"orders", 1, "tenant", "\x7b\x7d"⟩,
    ⟨⟨⟨"orders", 1, .update, revision⟩, 0, data⟩, rfl⟩⟩

theorem hiddenRecord_outputs :
    hiddenRecord.pipeline.recordOutputs hiddenRecord.results =
      [stateFrame 1 "a", stateFrame 2 "x", stateFrame 1 "b"] := by
  rfl

theorem hiddenRecord_misclassified : hiddenRecord.Completed ∧ ¬hiddenRecord.Classified := by
  refine ⟨hiddenRecord_completed, ?_⟩
  intro hclassified
  apply (hclassified.ok.mp hiddenRecord_verdict).2
  right
  rw [hiddenRecord_outputs]
  exact ⟨stateFrame 1 "a", by simp, stateFrame 1 "b", by simp, rfl, rfl, by decide⟩

def plainRecord : Evaluation := recordOf [stateOutput "1" "a", stateOutput "2" "b"]

theorem plainRecord_completed : plainRecord.Completed :=
  ⟨rfl, ⟨.null, rfl⟩, by rw [show plainRecord.prepared.verdict = .ok from rfl]; simp⟩

theorem classified_iff_exposed_plainRecord :
    plainRecord.Completed ∧ (plainRecord.Classified ↔ plainRecord.Exposed) :=
  ⟨plainRecord_completed, classified_iff_exposed plainRecord_completed⟩

end Example

end Evaluation

end StreamOtter
