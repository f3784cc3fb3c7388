import StreamOtter.JsonText
import StreamOtter.IncidentPaging

/-!
# The trace buffer

A translation of `TraceBuffer`: the newest traces within a count and a byte limit, read page
by page with cursors that name the last trace that was looked at.
-/

namespace StreamOtter

open Ecma

inductive TraceStage
  | source | validate | map | authorize | snapshot | queue | send | receipt | commit
  deriving DecidableEq, Repr

inductive TraceOutcome
  | ok | filtered | rejected | failed
  deriving DecidableEq, Repr

def TraceStage.name : TraceStage → Text
  | .source => units "source"
  | .validate => units "validate"
  | .map => units "map"
  | .authorize => units "authorize"
  | .snapshot => units "snapshot"
  | .queue => units "queue"
  | .send => units "send"
  | .receipt => units "receipt"
  | .commit => units "commit"

def TraceOutcome.name : TraceOutcome → Text
  | .ok => units "ok"
  | .filtered => units "filtered"
  | .rejected => units "rejected"
  | .failed => units "failed"

structure TraceInput where
  requestId : Text
  stage : TraceStage
  outcome : TraceOutcome
  sourceId : Option Text := none
  channel : Option Text := none
  subscriptionId : Option Text := none
  errorCode : Option Text := none
  deriving DecidableEq, Repr

structure Trace where
  id : Text
  time : Text
  input : TraceInput
  deriving DecidableEq, Repr

def textField (name : String) (value : Text) : List (Text × Json Empty) :=
  [(units name, .string value)]

def optionalField (name : String) (value : Option Text) : List (Text × Json Empty) :=
  value.elim [] (textField name)

def Trace.json (trace : Trace) : Json Empty :=
  .object (textField "id" trace.id ++ textField "at" trace.time ++
    textField "requestId" trace.input.requestId ++ textField "stage" trace.input.stage.name ++
    textField "outcome" trace.input.outcome.name ++
    optionalField "sourceId" trace.input.sourceId ++ optionalField "channel" trace.input.channel ++
    optionalField "subscriptionId" trace.input.subscriptionId ++
    optionalField "errorCode" trace.input.errorCode)

def utf8ByteLength : Text → ℕ
  | [] => 0
  | [u] => if u.toNat < 0x80 then 1 else if u.toNat < 0x800 then 2 else 3
  | u :: v :: rest =>
      if u.toNat < 0x80 then utf8ByteLength (v :: rest) + 1
      else if u.toNat < 0x800 then utf8ByteLength (v :: rest) + 2
      else if isLead u && isTrail v then utf8ByteLength rest + 4
      else utf8ByteLength (v :: rest) + 3

/-- `utf8ByteLength(JSON.stringify(trace))`. -/
def Trace.size (trace : Trace) : ℕ :=
  utf8ByteLength (trace.json.stringify fun n : Empty => nomatch n)

/-- Six random bytes in base64url. -/
structure RunId where
  bytes : ByteCodec.Bytes
  length : bytes.length = 6

def RunId.text (runId : RunId) : String := ByteCodec.base64Url runId.bytes

structure TraceEntry where
  seq : ℕ
  trace : Trace
  bytes : ℕ
  deriving DecidableEq, Repr

structure TraceBuffer where
  maxEntries : ℕ
  maxBytes : ℕ
  runId : RunId
  entries : List TraceEntry := []
  head : ℕ := 0
  bytes : ℤ := 0
  nextSeq : ℕ := 1

namespace TraceBuffer

def size (b : TraceBuffer) : ℕ := b.entries.length - b.head

/-- The entries that have not been evicted. -/
def retained (b : TraceBuffer) : List TraceEntry := b.entries.drop b.head

/-- The eviction loop over the retained entries: where the head comes to stand, and the bytes
that are left. -/
def evict (maxEntries maxBytes : ℕ) : List TraceEntry → ℕ → ℤ → ℕ × ℤ
  | [], head, bytes => (head, bytes)
  | dropped :: rest, head, bytes =>
      if maxEntries < rest.length + 1 ∨ (maxBytes : ℤ) < bytes then
        evict maxEntries maxBytes rest (head + 1) (bytes - dropped.bytes)
      else (head, bytes)

def compacted (b : TraceBuffer) : TraceBuffer :=
  if 1024 < b.head ∧ b.entries.length < b.head * 2 then
    { b with entries := b.retained, head := 0 }
  else b

def traceOf (b : TraceBuffer) (time : Text) (input : TraceInput) : Trace :=
  ⟨units b.runId.text ++ 0x2d :: units (toString b.nextSeq), time, input⟩

def record (b : TraceBuffer) (time : Text) (input : TraceInput) : TraceBuffer :=
  let trace := b.traceOf time input
  let entries := b.entries ++ [⟨b.nextSeq, trace, trace.size⟩]
  let evicted :=
    evict b.maxEntries b.maxBytes (entries.drop b.head) b.head (b.bytes + trace.size)
  { b with
    entries := entries
    head := evicted.1
    bytes := evicted.2
    nextSeq := b.nextSeq + 1 }.compacted

def cursorFor (b : TraceBuffer) (seq : ℕ) : String :=
  ByteCodec.base64Url (ByteCodec.utf8 (b.runId.text ++ ":" ++ toString seq))

inductive PageError
  | malformed | expired
  deriving DecidableEq, Repr

def isIdChar (c : Char) : Bool := c.isAlphanum || c = '_' || c = '-'

/-- `/^([A-Za-z0-9_-]+):(\d{1,15})$/`. -/
def matchCursor (decoded : List Char) : Option (List Char × ℕ) :=
  let id := decoded.takeWhile isIdChar
  match decoded.dropWhile isIdChar with
  | ':' :: digits =>
      if id ≠ [] ∧ 1 ≤ digits.length ∧ digits.length ≤ 15 ∧ digits.all Char.isDigit then
        some (id, Nat.ofDigitChars 10 digits 0)
      else none
  | _ => none

def parseCursor (b : TraceBuffer) (cursor : String) : Except PageError ℕ :=
  match matchCursor (ByteCodec.ofUtf8 (ByteCodec.ofBase64Url cursor)).toList with
  | none => .error .malformed
  | some (id, seq) => if id ≠ b.runId.text.toList then .error .expired else .ok seq

/-- The filters of a query. -/
structure Filter where
  sourceId : Option Text := none
  channel : Option Text := none
  outcome : Option TraceOutcome := none

def Filter.wants (filter : Filter) (trace : Trace) : Bool :=
  filter.sourceId.all (fun id => trace.input.sourceId = some id) &&
    (filter.channel.all (fun channel => trace.input.channel = some channel) &&
    filter.outcome.all fun outcome => trace.input.outcome = outcome)

structure Page where
  items : List Trace
  nextCursor : String
  deriving DecidableEq, Repr

/-- The loop from the newest entry backwards. -/
def newest (wants : Trace → Bool) : ℕ → List TraceEntry → List Trace
  | 0, _ | _, [] => []
  | limit + 1, entry :: older =>
      if wants entry.trace then entry.trace :: newest wants limit older
      else newest wants (limit + 1) older

/-- The loop from a cursor on: the traces found, and the last entry looked at. -/
def following (wants : Trace → Bool) (limit : ℕ) :
    List TraceEntry → List Trace → ℕ → List Trace × ℕ
  | [], items, last => (items, last)
  | entry :: later, items, _ =>
      if wants entry.trace then
        if limit ≤ items.length + 1 then (items ++ [entry.trace], entry.seq)
        else following wants limit later (items ++ [entry.trace]) entry.seq
      else following wants limit later items entry.seq

def oldestSeq (b : TraceBuffer) : ℕ := (b.entries[b.head]?.map TraceEntry.seq).getD b.nextSeq

def page (b : TraceBuffer) (filter : Filter) (limit : ℕ) (cursor : Option String) :
    Except PageError Page :=
  match cursor with
  | none =>
      .ok ⟨(newest filter.wants limit b.retained.reverse).reverse, b.cursorFor (b.nextSeq - 1)⟩
  | some cursor =>
      match b.parseCursor cursor with
      | .error error => .error error
      | .ok after =>
          if after + 1 < b.oldestSeq then .error .expired
          else
            let start := b.head + (after + 1 - b.oldestSeq)
            let found := following filter.wants limit (b.entries.drop start) [] after
            .ok ⟨found.1, b.cursorFor found.2⟩

/-! ## The retained traces -/

/-- The entries of traces recorded after so many others. -/
def numbered : ℕ → List Trace → List TraceEntry
  | _, [] => []
  | earlier, trace :: later => ⟨earlier + 1, trace, trace.size⟩ :: numbered (earlier + 1) later

theorem numbered_append (earlier : ℕ) (traces later : List Trace) :
    numbered earlier (traces ++ later) =
      numbered earlier traces ++ numbered (earlier + traces.length) later := by
  induction traces generalizing earlier with
  | nil => rfl
  | cons trace traces ih =>
      rw [List.cons_append, numbered, numbered, ih, List.length_cons, List.cons_append]
      congr 3
      omega

theorem drop_numbered (earlier count : ℕ) (traces : List Trace) :
    (numbered earlier traces).drop count = numbered (earlier + count) (traces.drop count) := by
  induction count generalizing earlier traces with
  | zero => rfl
  | succ count ih =>
      cases traces with
      | nil => simp [numbered]
      | cons trace traces =>
          rw [numbered, List.drop_succ_cons, List.drop_succ_cons, ih]
          congr 1
          omega

theorem length_numbered (earlier : ℕ) (traces : List Trace) :
    (numbered earlier traces).length = traces.length := by
  induction traces generalizing earlier with
  | nil => rfl
  | cons trace traces ih => rw [numbered, List.length_cons, ih, List.length_cons]

/-- The bytes of some entries. -/
def bytesOf : List TraceEntry → ℤ
  | [] => 0
  | entry :: later => entry.bytes + bytesOf later

theorem bytesOf_append (entries later : List TraceEntry) :
    bytesOf (entries ++ later) = bytesOf entries + bytesOf later := by
  induction entries with
  | nil => simp [bytesOf]
  | cons entry entries ih =>
      rw [List.cons_append, bytesOf, bytesOf, ih]
      omega

/-- The loop drops the oldest entries until both limits hold. -/
theorem evict_spec (maxEntries maxBytes : ℕ) (entries : List TraceEntry) (head : ℕ) :
    ∃ count ≤ entries.length,
      evict maxEntries maxBytes entries head (bytesOf entries) =
        (head + count, bytesOf (entries.drop count)) ∧
      (entries.drop count).length ≤ maxEntries ∧ bytesOf (entries.drop count) ≤ maxBytes := by
  induction entries generalizing head with
  | nil => exact ⟨0, le_refl 0, rfl, Nat.zero_le _, Int.natCast_nonneg _⟩
  | cons dropped rest ih =>
      rw [evict]
      split
      · obtain ⟨count, hcount, heq, hlength, hbytes⟩ := ih (head + 1)
        have hrest : bytesOf (dropped :: rest) - dropped.bytes = bytesOf rest := by
          rw [bytesOf]
          omega
        refine ⟨count + 1, Nat.succ_le_succ hcount, ?_, hlength, hbytes⟩
        rw [hrest, heq, List.drop_succ_cons, Nat.add_right_comm, Nat.add_assoc]
      · rename_i hfits
        refine ⟨0, Nat.zero_le _, rfl, ?_, ?_⟩
        · rw [List.drop_zero, List.length_cons]
          omega
        · rw [List.drop_zero]
          omega

/-- What the buffer holds of the traces recorded so far. -/
structure Holds (b : TraceBuffer) (history : List Trace) (evicted : ℕ) : Prop where
  head : b.head ≤ b.entries.length
  nextSeq : b.nextSeq = history.length + 1
  within : evicted ≤ history.length
  retained : b.retained = numbered evicted (history.drop evicted)
  bytes : b.bytes = bytesOf b.retained
  count : b.retained.length ≤ b.maxEntries
  limit : b.bytes ≤ b.maxBytes

@[simp] theorem retained_compacted (b : TraceBuffer) : b.compacted.retained = b.retained := by
  unfold compacted
  split
  · simp [retained]
  · rfl

theorem Holds.compacted {b : TraceBuffer} {history : List Trace} {evicted : ℕ}
    (h : Holds b history evicted) : Holds b.compacted history evicted := by
  have hretained := retained_compacted b
  unfold TraceBuffer.compacted at hretained ⊢
  split
  · rename_i hfar
    rw [if_pos hfar] at hretained
    exact ⟨Nat.zero_le _, h.nextSeq, h.within, hretained.trans h.retained,
      h.bytes.trans (congrArg bytesOf hretained.symm), by rw [hretained]; exact h.count, h.limit⟩
  · exact h

/-- The step lemma. -/
theorem Holds.record {b : TraceBuffer} {history : List Trace} {evicted : ℕ}
    (h : Holds b history evicted) (time : Text) (input : TraceInput) :
    ∃ evicted', evicted ≤ evicted' ∧
      Holds (b.record time input) (history ++ [b.traceOf time input]) evicted' := by
  have hadded : (b.entries ++ [(⟨b.nextSeq, b.traceOf time input, (b.traceOf time input).size⟩ :
      TraceEntry)]).drop b.head = numbered evicted ((history ++ [b.traceOf time input]).drop
        evicted) := by
    have hkept := h.retained
    unfold TraceBuffer.retained at hkept
    rw [List.drop_append_of_le_length h.head, hkept, List.drop_append_of_le_length h.within,
      numbered_append, List.length_drop, numbered, numbered, h.nextSeq]
    congr 4
    have hle := h.within
    omega
  have hbytes : b.bytes + (b.traceOf time input).size =
      bytesOf ((b.entries ++ [(⟨b.nextSeq, b.traceOf time input, (b.traceOf time input).size⟩ :
        TraceEntry)]).drop b.head) := by
    rw [List.drop_append_of_le_length h.head, bytesOf_append, h.bytes]
    simp [bytesOf, TraceBuffer.retained]
  obtain ⟨count, hcount, heq, hlength, hlimit⟩ := evict_spec b.maxEntries b.maxBytes
    ((b.entries ++ [(⟨b.nextSeq, b.traceOf time input, (b.traceOf time input).size⟩ :
      TraceEntry)]).drop b.head) b.head
  have hhistory : evicted + count ≤ (history ++ [b.traceOf time input]).length := by
    rw [hadded, length_numbered, List.length_drop] at hcount
    have hle := h.within
    rw [List.length_append] at hcount ⊢
    omega
  refine ⟨evicted + count, Nat.le_add_right _ _, Holds.compacted ⟨?_, ?_, hhistory, ?_, ?_, ?_, ?_⟩⟩
  · rw [List.length_drop] at hcount
    have hle := h.head
    dsimp only
    rw [hbytes, heq]
    rw [List.length_append] at hcount ⊢
    dsimp only
    omega
  · dsimp only
    rw [h.nextSeq, List.length_append, List.length_singleton]
  · unfold TraceBuffer.retained
    dsimp only
    rw [hbytes, heq, ← List.drop_drop, hadded, drop_numbered, List.drop_drop]
  · unfold TraceBuffer.retained
    dsimp only
    rw [hbytes, heq, ← List.drop_drop]
  · unfold TraceBuffer.retained
    dsimp only
    rw [hbytes, heq, ← List.drop_drop]
    exact hlength
  · dsimp only
    rw [hbytes, heq]
    exact hlimit

theorem Holds.oldestSeq {b : TraceBuffer} {history : List Trace} {evicted : ℕ}
    (h : Holds b history evicted) : b.oldestSeq = evicted + 1 := by
  have hfirst : b.entries[b.head]? = b.retained.head? := by
    rw [TraceBuffer.retained, List.head?_drop]
  rw [TraceBuffer.oldestSeq, hfirst, h.retained]
  cases hkept : history.drop evicted with
  | nil =>
      have hlength := List.drop_eq_nil_iff.mp hkept
      have hle := h.within
      have hnext := h.nextSeq
      simp only [numbered, List.head?_nil, Option.map_none, Option.getD_none]
      omega
  | cons trace later => rfl

/-! ## Cursors -/

theorem length_sextets (runId : RunId) : (ByteCodec.sextets runId.bytes).length = 8 := by
  obtain ⟨bytes, hlength⟩ := runId
  match bytes, hlength with
  | [_, _, _, _, _, _], _ => rfl

theorem toList_text (runId : RunId) :
    runId.text.toList ≠ [] ∧ ∀ c ∈ runId.text.toList, isIdChar c := by
  have hall : ∀ value : Fin 64, isIdChar (ByteCodec.sextetChar value.val) = true := by
    decide +kernel
  unfold RunId.text ByteCodec.base64Url
  rw [String.toList_ofList]
  constructor
  · rw [← List.length_pos_iff, List.length_map, length_sextets runId]
    omega
  · intro c hc
    obtain ⟨value, hvalue, rfl⟩ := List.mem_map.mp hc
    exact hall ⟨value, ByteCodec.sextets_lt runId.bytes value hvalue⟩

/-- A cursor reads back while its number has at most fifteen digits. -/
theorem parseCursor_cursorFor (b : TraceBuffer) (seq : ℕ) :
    b.parseCursor (b.cursorFor seq) =
      if seq < 10 ^ 15 then .ok seq else .error .malformed := by
  obtain ⟨hnonempty, hid⟩ := toList_text b.runId
  have hdecoded : (b.runId.text ++ ":" ++ toString seq).toList =
      b.runId.text.toList ++ ':' :: Nat.toDigits 10 seq := by
    have hdigits : (toString seq).toList = Nat.toDigits 10 seq := by
      rw [Nat.toString_eq_ofList_toDigits, String.toList_ofList]
    rw [String.toList_append, String.toList_append, hdigits, List.append_assoc]
    rfl
  have htake : (b.runId.text.toList ++ ':' :: Nat.toDigits 10 seq).takeWhile isIdChar =
      b.runId.text.toList := by
    rw [List.takeWhile_append_of_pos hid, List.takeWhile_cons_of_neg (by decide), List.append_nil]
  have hdrop : (b.runId.text.toList ++ ':' :: Nat.toDigits 10 seq).dropWhile isIdChar =
      ':' :: Nat.toDigits 10 seq := by
    rw [List.dropWhile_append_of_pos hid, List.dropWhile_cons_of_neg (by decide)]
  have hpositive : 1 ≤ (Nat.toDigits 10 seq).length := Nat.length_toDigits_pos
  have hall : (Nat.toDigits 10 seq).all Char.isDigit = true := by
    rw [List.all_eq_true]
    intro c hc
    exact Nat.isDigit_of_mem_toDigits (by omega) (by omega) hc
  have hlength : (Nat.toDigits 10 seq).length ≤ 15 ↔ seq < 10 ^ 15 :=
    Nat.length_toDigits_le_iff (by omega) (by omega)
  have hvalue : Nat.ofDigitChars 10 (Nat.toDigits 10 seq) 0 = seq :=
    Nat.ofDigitChars_toDigits (by omega) (by omega)
  have hmatch : matchCursor (b.runId.text.toList ++ ':' :: Nat.toDigits 10 seq) =
      if seq < 10 ^ 15 then some (b.runId.text.toList, seq) else none := by
    unfold matchCursor
    rw [htake, hdrop]
    simp only [hpositive, hall, hlength, hvalue, hnonempty, ne_eq, not_false_eq_true, true_and,
      and_true]
  unfold parseCursor cursorFor
  rw [ByteCodec.ofBase64Url_base64Url, ByteCodec.ofUtf8_utf8, hdecoded, hmatch]
  by_cases hshort : seq < 10 ^ 15
  · simp only [if_pos hshort, ne_eq, not_true_eq_false, if_false]
  · simp only [if_neg hshort]

/-! ## Pages -/

/-- The traces wanted of those recorded after the first `start` and within the first `stop`. -/
def stretch (wants : Trace → Bool) (history : List Trace) (start stop : ℕ) : List Trace :=
  ((history.take stop).drop start).filter wants

theorem stretch_self (wants : Trace → Bool) (history : List Trace) (start : ℕ) :
    stretch wants history start start = [] := by
  simp [stretch]

theorem stretch_append (wants : Trace → Bool) {history : List Trace} {start middle stop : ℕ}
    (hstart : start ≤ middle) (hmiddle : middle ≤ stop) :
    stretch wants history start middle ++ stretch wants history middle stop =
      stretch wants history start stop := by
  have hsplit : (history.take stop).drop start =
      (history.take middle).drop start ++ (history.take stop).drop middle := by
    have htake := List.take_append_drop middle (history.take stop)
    rw [List.take_take, Nat.min_eq_left hmiddle] at htake
    by_cases hlength : middle ≤ history.length
    · conv_lhs => rw [← htake]
      rw [List.drop_append_of_le_length]
      rw [List.length_take]
      omega
    · have hall : history.take middle = history := List.take_of_length_le (by omega)
      have hall' : history.take stop = history := List.take_of_length_le (by omega)
      rw [hall, hall', List.drop_of_length_le (by omega : history.length ≤ middle),
        List.append_nil]
  unfold stretch
  rw [hsplit, List.filter_append]

theorem stretch_recorded (wants : Trace → Bool) {history : List Trace} {start stop : ℕ}
    (hstop : stop ≤ history.length) (trace : Trace) :
    stretch wants (history ++ [trace]) start stop = stretch wants history start stop := by
  unfold stretch
  rw [List.take_append_of_le_length hstop]

/-- The loop looks at a stretch of the traces and keeps those that are wanted; it stops at the
end or with a full page. -/
theorem following_spec (wants : Trace → Bool) (limit : ℕ) (traces : List Trace) (earlier : ℕ)
    (items : List Trace) (hitems : items.length < max limit 1) :
    ∃ count ≤ traces.length,
      following wants limit (numbered earlier traces) items earlier =
        (items ++ (traces.take count).filter wants, earlier + count) ∧
      (items ++ (traces.take count).filter wants).length ≤ max limit 1 ∧
      (count = traces.length ∨
        (items ++ (traces.take count).filter wants).length = max limit 1) := by
  induction traces generalizing earlier items with
  | nil =>
      refine ⟨0, le_refl 0, by simp [following, numbered], ?_, .inl rfl⟩
      simpa using hitems.le
  | cons trace later ih =>
      rw [numbered, following]
      by_cases hwanted : wants trace
      · rw [if_pos hwanted]
        split
        · rename_i hfull
          refine ⟨1, by simp, by simp [hwanted], ?_, .inr ?_⟩
          · simp only [List.take_succ_cons, List.take_zero, List.filter_cons_of_pos hwanted,
              List.filter_nil, List.length_append, List.length_singleton]
            omega
          · simp only [List.take_succ_cons, List.take_zero, List.filter_cons_of_pos hwanted,
              List.filter_nil, List.length_append, List.length_singleton]
            omega
        · rename_i hroom
          have hnext : (items ++ [trace]).length < max limit 1 := by
            rw [List.length_append, List.length_singleton]
            omega
          obtain ⟨count, hcount, heq, hle, hend⟩ := ih (earlier + 1) (items ++ [trace]) hnext
          have htaken : items ++ ((trace :: later).take (count + 1)).filter wants =
              items ++ [trace] ++ (later.take count).filter wants := by
            rw [List.take_succ_cons, List.filter_cons_of_pos hwanted, List.append_assoc]
            rfl
          refine ⟨count + 1, Nat.succ_le_succ hcount, ?_, by rw [htaken]; exact hle, ?_⟩
          · rw [htaken, heq, Nat.add_right_comm, Nat.add_assoc]
          · rw [htaken]
            exact hend.imp (fun hend => by rw [hend, List.length_cons]) id
      · rw [if_neg hwanted]
        obtain ⟨count, hcount, heq, hle, hend⟩ := ih (earlier + 1) items hitems
        have htaken : items ++ ((trace :: later).take (count + 1)).filter wants =
            items ++ (later.take count).filter wants := by
          rw [List.take_succ_cons, List.filter_cons_of_neg hwanted]
        refine ⟨count + 1, Nat.succ_le_succ hcount, ?_, by rw [htaken]; exact hle, ?_⟩
        · rw [htaken, heq, Nat.add_right_comm, Nat.add_assoc]
        · rw [htaken]
          exact hend.imp (fun hend => by rw [hend, List.length_cons]) id

/-- A page of a cursor that was returned. -/
theorem Holds.page {b : TraceBuffer} {history : List Trace} {evicted : ℕ}
    (h : Holds b history evicted) (filter : Filter) (limit : ℕ) {start : ℕ}
    (hstart : start ≤ history.length) (hdigits : start < 10 ^ 15) :
    (start < evicted ∧ b.page filter limit (some (b.cursorFor start)) = .error .expired) ∨
      (evicted ≤ start ∧ ∃ stop, start ≤ stop ∧ stop ≤ history.length ∧
        b.page filter limit (some (b.cursorFor start)) =
          .ok ⟨stretch filter.wants history start stop, b.cursorFor stop⟩ ∧
        (stretch filter.wants history start stop).length ≤ max limit 1 ∧
        (stop = history.length ∨
          (stretch filter.wants history start stop).length = max limit 1)) := by
  unfold TraceBuffer.page
  dsimp only
  rw [parseCursor_cursorFor, if_pos hdigits]
  dsimp only
  rw [h.oldestSeq]
  by_cases hexpired : start + 1 < evicted + 1
  · left
    rw [if_pos hexpired]
    exact ⟨by omega, rfl⟩
  · right
    have hentries : b.entries.drop (b.head + (start + 1 - (evicted + 1))) =
        numbered start (history.drop start) := by
      have hplace : evicted + (start + 1 - (evicted + 1)) = start := by omega
      have hretained := h.retained
      unfold TraceBuffer.retained at hretained
      rw [← List.drop_drop, hretained, drop_numbered, List.drop_drop, hplace]
    obtain ⟨count, hcount, heq, hle, hend⟩ :=
      following_spec filter.wants limit (history.drop start) start [] (by simp)
    rw [List.length_drop] at hcount hend
    have hstretch : [] ++ ((history.drop start).take count).filter filter.wants =
        stretch filter.wants history start (start + count) := by
      rw [List.nil_append, stretch, List.drop_take, Nat.add_sub_cancel_left]
    rw [hstretch] at heq hle hend
    refine ⟨by omega, start + count, by omega, by omega, ?_, hle, hend.imp (by omega) id⟩
    rw [if_neg hexpired, hentries, heq]

/-! ## Readers -/

section Runs

variable (maxEntries maxBytes : ℕ) (runId : RunId)

/-- The buffers of a run, with the traces recorded so far; reading changes nothing. -/
inductive Reached : TraceBuffer → List Trace → Prop
  | created : Reached { maxEntries, maxBytes, runId } []
  | recorded {b : TraceBuffer} {history : List Trace} (h : Reached b history) (time : Text)
      (input : TraceInput) : Reached (b.record time input) (history ++ [b.traceOf time input])

/-- The cursors that pages of the run have returned, whatever the filters and page sizes. -/
inductive Returned : TraceBuffer → List Trace → String → Prop
  | newest {b : TraceBuffer} {history : List Trace} {filter : Filter} {limit : ℕ} {page : Page}
      (h : Reached maxEntries maxBytes runId b history)
      (hpage : b.page filter limit none = .ok page) : Returned b history page.nextCursor
  | followed {b : TraceBuffer} {history : List Trace} {cursor : String} {filter : Filter}
      {limit : ℕ} {page : Page} (h : Returned b history cursor)
      (hpage : b.page filter limit (some cursor) = .ok page) : Returned b history page.nextCursor
  | recorded {b : TraceBuffer} {history : List Trace} {cursor : String}
      (h : Returned b history cursor) (time : Text) (input : TraceInput) :
      Returned (b.record time input) (history ++ [b.traceOf time input]) cursor

/-- A reader with one filter that started from a returned cursor and follows the next ones: the
buffer, the traces recorded so far, the first cursor, what was received and the cursor now. -/
inductive Reader (filter : Filter) :
    TraceBuffer → List Trace → String → List Trace → String → Prop
  | starts {b : TraceBuffer} {history : List Trace} {cursor : String}
      (h : Returned maxEntries maxBytes runId b history cursor) :
      Reader filter b history cursor [] cursor
  | recorded {b : TraceBuffer} {history : List Trace} {first cursor : String}
      {received : List Trace} (h : Reader filter b history first received cursor) (time : Text)
      (input : TraceInput) :
      Reader filter (b.record time input) (history ++ [b.traceOf time input]) first received cursor
  | followed {b : TraceBuffer} {history : List Trace} {first cursor : String}
      {received : List Trace} {limit : ℕ} {page : Page}
      (h : Reader filter b history first received cursor)
      (hpage : b.page filter limit (some cursor) = .ok page) :
      Reader filter b history first (received ++ page.items) page.nextCursor

variable {maxEntries maxBytes runId}

theorem Reached.holds {b : TraceBuffer} {history : List Trace}
    (h : Reached maxEntries maxBytes runId b history) :
    b.maxEntries = maxEntries ∧ b.maxBytes = maxBytes ∧ b.runId = runId ∧
      ∃ evicted, Holds b history evicted := by
  induction h with
  | created =>
      exact ⟨rfl, rfl, rfl, 0, le_refl 0, rfl, le_refl 0, rfl, rfl, Nat.zero_le _,
        Int.natCast_nonneg _⟩
  | recorded h time input ih =>
      obtain ⟨hentries, hbytes, hrun, evicted, hholds⟩ := ih
      obtain ⟨evicted', -, hholds'⟩ := hholds.record time input
      have hsame : ∀ b : TraceBuffer, b.compacted.maxEntries = b.maxEntries ∧
          b.compacted.maxBytes = b.maxBytes ∧ b.compacted.runId = b.runId := by
        intro b
        unfold TraceBuffer.compacted
        split <;> exact ⟨rfl, rfl, rfl⟩
      unfold TraceBuffer.record
      refine ⟨?_, ?_, ?_, evicted', hholds'⟩
      · exact (hsame _).1.trans hentries
      · exact (hsame _).2.1.trans hbytes
      · exact (hsame _).2.2.trans hrun

/-- A returned cursor names a place among the traces recorded so far. -/
def Places (b : TraceBuffer) (history : List Trace) (cursor : String) (place : ℕ) : Prop :=
  place ≤ history.length ∧ cursor = b.cursorFor place

theorem Places.recorded {b : TraceBuffer} {history : List Trace} {cursor : String} {place : ℕ}
    (h : Places b history cursor place) (time : Text) (input : TraceInput) :
    Places (b.record time input) (history ++ [b.traceOf time input]) cursor place := by
  have hrun : (b.record time input).runId = b.runId := by
    unfold TraceBuffer.record TraceBuffer.compacted
    dsimp only
    split <;> rfl
  refine ⟨?_, ?_⟩
  · have hle := h.1
    rw [List.length_append]
    omega
  · rw [h.2, cursorFor, cursorFor, hrun]

theorem Returned.reached {b : TraceBuffer} {history : List Trace} {cursor : String}
    (h : Returned maxEntries maxBytes runId b history cursor) :
    Reached maxEntries maxBytes runId b history := by
  induction h with
  | newest h _ => exact h
  | followed _ _ ih => exact ih
  | recorded _ time input ih => exact ih.recorded time input

/-- Only short cursors are followed. -/
theorem digits_of_page {b : TraceBuffer} {filter : Filter} {limit start : ℕ} {page : Page}
    (h : b.page filter limit (some (b.cursorFor start)) = .ok page) : start < 10 ^ 15 := by
  by_contra hlong
  unfold TraceBuffer.page at h
  dsimp only at h
  rw [parseCursor_cursorFor, if_neg hlong] at h
  cases h

/-- Where a followed cursor leads. -/
theorem Reached.followed {b : TraceBuffer} {history : List Trace}
    (h : Reached maxEntries maxBytes runId b history) {cursor : String} {start : ℕ}
    (hplace : Places b history cursor start) {filter : Filter} {limit : ℕ} {page : Page}
    (hpage : b.page filter limit (some cursor) = .ok page) :
    ∃ stop, start ≤ stop ∧ Places b history page.nextCursor stop ∧
      page.items = stretch filter.wants history start stop := by
  obtain ⟨-, -, -, evicted, hholds⟩ := h.holds
  obtain ⟨hstart, rfl⟩ := hplace
  rcases hholds.page filter limit hstart (digits_of_page hpage) with
    ⟨-, hexpired⟩ | ⟨-, stop, hle, hstop, hok, -, -⟩
  · rw [hpage] at hexpired
    cases hexpired
  · rw [hpage] at hok
    obtain rfl := Except.ok.inj hok
    exact ⟨stop, hle, ⟨hstop, rfl⟩, rfl⟩

theorem Returned.places {b : TraceBuffer} {history : List Trace} {cursor : String}
    (h : Returned maxEntries maxBytes runId b history cursor) :
    ∃ place, Places b history cursor place := by
  induction h with
  | @newest b history filter limit page h hpage =>
      obtain ⟨-, -, -, evicted, hholds⟩ := h.holds
      obtain rfl := Except.ok.inj hpage
      refine ⟨history.length, le_refl _, ?_⟩
      rw [hholds.nextSeq, Nat.add_sub_cancel]
  | followed h hpage ih =>
      obtain ⟨start, hplace⟩ := ih
      obtain ⟨stop, -, hstop, -⟩ := h.reached.followed hplace hpage
      exact ⟨stop, hstop⟩
  | recorded h time input ih =>
      obtain ⟨place, hplace⟩ := ih
      exact ⟨place, hplace.recorded time input⟩

/-- The run lemma: what a reader has received is what is wanted of the traces between its first
cursor and its cursor now. -/
theorem Reader.received {filter : Filter} {b : TraceBuffer} {history received : List Trace}
    {first cursor : String}
    (h : Reader maxEntries maxBytes runId filter b history first received cursor) :
    Reached maxEntries maxBytes runId b history ∧
      ∃ start stop, Places b history first start ∧ Places b history cursor stop ∧ start ≤ stop ∧
        received = stretch filter.wants history start stop := by
  induction h with
  | starts h =>
      obtain ⟨place, hplace⟩ := h.places
      exact ⟨h.reached, place, place, hplace, hplace, le_refl _, (stretch_self _ _ _).symm⟩
  | recorded h time input ih =>
      obtain ⟨hreached, start, stop, hfirst, hcursor, hle, hreceived⟩ := ih
      refine ⟨hreached.recorded time input, start, stop, hfirst.recorded time input,
        hcursor.recorded time input, hle, ?_⟩
      rw [hreceived, stretch_recorded _ hcursor.1]
  | followed h hpage ih =>
      obtain ⟨hreached, start, middle, hfirst, hcursor, hle, hreceived⟩ := ih
      obtain ⟨stop, hmiddle, hnext, hitems⟩ := hreached.followed hcursor hpage
      refine ⟨hreached, start, stop, hfirst, hnext, hle.trans hmiddle, ?_⟩
      rw [hreceived, hitems, stretch_append _ hle hmiddle]

/-- A trace recorded after a place is not among the retained ones any more. -/
def SomeEvicted (b : TraceBuffer) (history : List Trace) (place : ℕ) : Prop :=
  ∃ i, place ≤ i ∧ i < history.length ∧ ∀ entry ∈ b.retained, entry.seq ≠ i + 1

theorem mem_numbered {earlier : ℕ} {traces : List Trace} {entry : TraceEntry} :
    entry ∈ numbered earlier traces → earlier < entry.seq := by
  induction traces generalizing earlier with
  | nil => simp [numbered]
  | cons trace later ih =>
      rw [numbered, List.mem_cons]
      rintro (rfl | hmem)
      · exact Nat.lt_succ_self _
      · exact Nat.lt_of_succ_lt (ih hmem)

theorem exists_numbered {earlier i : ℕ} {traces : List Trace} (hle : earlier ≤ i)
    (hlt : i < earlier + traces.length) : ∃ entry ∈ numbered earlier traces, entry.seq = i + 1 := by
  induction traces generalizing earlier with
  | nil => simp at hlt; omega
  | cons trace later ih =>
      rw [numbered]
      by_cases hfirst : i = earlier
      · exact ⟨_, List.mem_cons_self, by rw [hfirst]⟩
      · rw [List.length_cons] at hlt
        obtain ⟨entry, hmem, hseq⟩ := @ih (earlier + 1) (by omega) (by omega)
        exact ⟨entry, List.mem_cons_of_mem _ hmem, hseq⟩

theorem Holds.someEvicted_iff {b : TraceBuffer} {history : List Trace} {evicted : ℕ}
    (h : Holds b history evicted) (place : ℕ) : SomeEvicted b history place ↔ place < evicted := by
  have hwithin := h.within
  constructor
  · rintro ⟨i, hplace, hlt, hgone⟩
    by_contra hnot
    obtain ⟨entry, hmem, hseq⟩ := @exists_numbered evicted i (history.drop evicted) (by omega)
      (by rw [List.length_drop]; omega)
    rw [← h.retained] at hmem
    exact hgone entry hmem hseq
  · intro hlt
    refine ⟨place, le_refl _, by omega, ?_⟩
    intro entry hmem heq
    rw [h.retained] at hmem
    have hafter := mem_numbered hmem
    omega

theorem exists_reached (maxEntries maxBytes : ℕ) (runId : RunId) (count : ℕ) :
    ∃ b history, Reached maxEntries maxBytes runId b history ∧ history.length = count := by
  induction count with
  | zero => exact ⟨_, [], .created, rfl⟩
  | succ count ih =>
      obtain ⟨b, history, hreached, hlength⟩ := ih
      refine ⟨_, _, hreached.recorded [] ⟨[], .source, .ok, none, none, none, none⟩, ?_⟩
      rw [List.length_append, hlength, List.length_singleton]

end Runs

def zeroRun : RunId := ⟨[0, 0, 0, 0, 0, 0], rfl⟩

/-- A buffer that holds two traces. -/
def emptyBuffer : TraceBuffer := { maxEntries := 2, maxBytes := 1000, runId := zeroRun }

end TraceBuffer

end StreamOtter
