import StreamOtter.ByteCodec
import Mathlib.Tactic.Common

/-!
# Framing of operator requests

A connection to the operator socket sends one request, a line that ends with a newline.  What
`serve` answers is decided while the chunks arrive; here it is compared with what the whole
stream of bytes says, which no split into chunks changes.
-/

namespace StreamOtter.OperatorFraming

open ByteCodec (Bytes)

/-- `OPERATOR_IPC_MAX_REQUEST_BYTES` -/
def maxRequestBytes : ℕ := 65_536

def newline : UInt8 := 0x0a

/-- How a connection that neither times out nor is closed is answered. -/
inductive Answer where
  | parsed (line : Bytes)
  | tooLong
  | unterminated
deriving DecidableEq, Repr

/-- The reading side of a connection, with what it has handed to `finish`. -/
structure Reader where
  chunks : List Bytes := []
  size : ℕ := 0
  done : Bool := false
  finished : List Answer := []

namespace Reader

def finish (r : Reader) (answer : Answer) : Reader :=
  { r with done := true, finished := r.finished ++ [answer] }

def push (r : Reader) (chunk : Bytes) : Reader :=
  { r with chunks := r.chunks ++ [chunk], size := r.size + chunk.length }

def onData (r : Reader) (chunk : Bytes) : Reader :=
  if r.done then r
  else
    match chunk.findIdx? (· == newline) with
    | none => if r.size + chunk.length ≥ maxRequestBytes then r.finish .tooLong else r.push chunk
    | some index =>
      if r.size + index + 1 > maxRequestBytes then r.finish .tooLong
      else r.finish (.parsed (r.chunks ++ [chunk.take index]).flatten)

def onEnd (r : Reader) : Reader := if r.done then r else r.finish .unterminated

end Reader

/-- The connection after these chunks and the end of the stream. -/
def serve (chunks : List Bytes) : Reader := (chunks.foldl Reader.onData {}).onEnd

/-! ## What the bytes say -/

/-- The bytes up to and including the first newline, all of them when there is none. -/
def upToNewline (bytes : Bytes) : Bytes :=
  match bytes.findIdx? (· == newline) with
  | some index => bytes.take (index + 1)
  | none => bytes

/-- The answer that bytes decide without an end. -/
def decided (bytes : Bytes) : Option Answer :=
  match bytes.findIdx? (· == newline) with
  | some index =>
    some (if index + 1 ≤ maxRequestBytes then .parsed (bytes.take index) else .tooLong)
  | none => if maxRequestBytes ≤ bytes.length then some .tooLong else none

/-- The answer to a stream. -/
def answer (bytes : Bytes) : Answer := (decided bytes).getD .unterminated

variable {bytes chunk line rest : Bytes} {chunks : List Bytes} {r : Reader} {reply : Answer}
  {index : ℕ}

/-- A decision stands whatever follows. -/
theorem decided_append (hdecided : decided bytes = some reply) :
    decided (bytes ++ chunk) = some reply := by
  unfold decided at hdecided ⊢
  rw [List.findIdx?_append]
  cases hindex : bytes.findIdx? (· == newline) with
  | some index =>
    have hlt : index < bytes.length := (List.findIdx?_eq_some_iff_getElem.mp hindex).1
    rw [hindex] at hdecided
    simpa [List.take_append_of_le_length (Nat.le_of_lt hlt)] using hdecided
  | none =>
    rw [hindex] at hdecided
    have hlong : maxRequestBytes ≤ bytes.length := by
      by_contra hshort
      simp [hshort] at hdecided
    have hreply : reply = .tooLong := by simpa [hlong] using hdecided.symm
    subst hreply
    cases hchunk : chunk.findIdx? (· == newline) with
    | some index =>
      have hover : ¬ index + bytes.length + 1 ≤ maxRequestBytes := by omega
      simp [hover]
    | none =>
      have hlonger : maxRequestBytes ≤ bytes.length + chunk.length := by omega
      simp [hlonger]

/-- The reader stands where the bytes that arrived say it should. -/
def Reads (r : Reader) (bytes : Bytes) : Prop :=
  match decided bytes with
  | some reply => r.done = true ∧ r.finished = [reply]
  | none => r.done = false ∧ r.finished = [] ∧ r.chunks.flatten = bytes ∧ r.size = bytes.length

theorem reads_empty : Reads {} [] := by
  have hundecided : decided [] = none := by decide
  simp [Reads, hundecided]

/-- One chunk: the comparisons with and without a newline meet at the same bound. -/
theorem reads_onData (hreads : Reads r bytes) (chunk : Bytes) :
    Reads (r.onData chunk) (bytes ++ chunk) := by
  unfold Reads at hreads
  cases hdecided : decided bytes with
  | some reply =>
    rw [hdecided] at hreads
    have hstays : r.onData chunk = r := by simp [Reader.onData, hreads.1]
    rw [hstays, Reads, decided_append hdecided]
    exact hreads
  | none =>
    rw [hdecided] at hreads
    obtain ⟨hopen, hnone, hchunks, hsize⟩ := hreads
    have hunseen : bytes.findIdx? (· == newline) = none := by
      cases hindex : bytes.findIdx? (· == newline) with
      | none => rfl
      | some index => simp [decided, hindex] at hdecided
    unfold Reads decided Reader.onData
    rw [List.findIdx?_append, hunseen, Option.none_or, hopen]
    cases hindex : chunk.findIdx? (· == newline) with
    | none =>
      simp only [Option.map_none, List.length_append, Bool.false_eq_true, if_false, hsize]
      by_cases hlong : bytes.length + chunk.length ≥ maxRequestBytes
      · simp [hlong, Reader.finish, hnone]
      · simp [hlong, Reader.push, hopen, hnone, hchunks, hsize]
    | some index =>
      simp only [Option.map_some, Bool.false_eq_true, if_false, hsize]
      by_cases hfits : index + bytes.length + 1 ≤ maxRequestBytes
      · have hwithin : ¬ bytes.length + index + 1 > maxRequestBytes := by omega
        have htake : (bytes ++ chunk).take (index + bytes.length) =
            bytes ++ chunk.take index := by
          rw [Nat.add_comm, List.take_length_add_append]
        simp [hfits, hwithin, Reader.finish, hnone, hchunks, htake]
      · have hover : bytes.length + index + 1 > maxRequestBytes := by omega
        simp [hfits, hover, Reader.finish, hnone]

theorem reads_foldl (hreads : Reads r bytes) (chunks : List Bytes) :
    Reads (chunks.foldl Reader.onData r) (bytes ++ chunks.flatten) := by
  induction chunks generalizing r bytes with
  | nil => simpa using hreads
  | cons chunk rest ih =>
    have hrest := ih (reads_onData hreads chunk)
    simpa using hrest

/-- A connection is answered once, with what the bytes say. -/
theorem finished_serve (chunks : List Bytes) :
    (serve chunks).finished = [answer chunks.flatten] := by
  have hreads := reads_foldl reads_empty chunks
  rw [List.nil_append] at hreads
  unfold Reads at hreads
  cases hdecided : decided chunks.flatten with
  | some reply =>
    rw [hdecided] at hreads
    simp [serve, Reader.onEnd, answer, hdecided, hreads.1, hreads.2]
  | none =>
    rw [hdecided] at hreads
    simp [serve, Reader.onEnd, Reader.finish, answer, hdecided, hreads.1, hreads.2.1]

/-- The bytes before the first newline, when there is one. -/
theorem exists_line (hmem : newline ∈ bytes) :
    ∃ line rest, bytes = line ++ newline :: rest ∧ newline ∉ line :=
  List.eq_append_cons_of_mem hmem

theorem findIdx_unterminated (hbytes : newline ∉ bytes) :
    bytes.findIdx? (· == newline) = none := by
  rw [List.findIdx?_eq_none_iff]
  intro byte hbyte
  simpa using fun heq : byte = newline => hbytes (heq ▸ hbyte)

theorem findIdx_line (hline : newline ∉ line) :
    (line ++ newline :: rest).findIdx? (· == newline) = some line.length := by
  simp [List.findIdx?_append, findIdx_unterminated hline, List.findIdx?_cons]

theorem upToNewline_unterminated (hbytes : newline ∉ bytes) : upToNewline bytes = bytes := by
  rw [upToNewline, findIdx_unterminated hbytes]

theorem upToNewline_line (hline : newline ∉ line) :
    upToNewline (line ++ newline :: rest) = line ++ [newline] := by
  rw [upToNewline, findIdx_line hline]
  dsimp only
  rw [List.take_length_add_append]
  rfl

theorem answer_line (hline : newline ∉ line) :
    answer (line ++ newline :: rest) =
      if (line ++ [newline]).length ≤ maxRequestBytes then .parsed line else .tooLong := by
  simp [answer, decided, findIdx_line hline]

theorem answer_unterminated (hbytes : newline ∉ bytes) :
    answer bytes = if maxRequestBytes ≤ bytes.length then .tooLong else .unterminated := by
  rw [answer, decided, findIdx_unterminated hbytes]
  dsimp only
  split <;> rfl

/-- What follows the first newline does not matter. -/
theorem answer_upToNewline (bytes : Bytes) : answer (upToNewline bytes) = answer bytes := by
  by_cases hmem : newline ∈ bytes
  · obtain ⟨line, rest, rfl, hline⟩ := exists_line hmem
    rw [upToNewline_line hline, answer_line hline, answer_line hline]
  · rw [upToNewline_unterminated hmem]

theorem answer_eq_parsed_iff :
    answer bytes = .parsed line ↔
      newline ∉ line ∧ upToNewline bytes = line ++ [newline] ∧
        (upToNewline bytes).length ≤ maxRequestBytes := by
  by_cases hmem : newline ∈ bytes
  · obtain ⟨first, rest, rfl, hfirst⟩ := exists_line hmem
    rw [answer_line hfirst, upToNewline_line hfirst]
    by_cases hfits : (first ++ [newline]).length ≤ maxRequestBytes
    · rw [if_pos hfits]
      constructor
      · rintro ⟨⟩
        exact ⟨hfirst, rfl, hfits⟩
      · rintro ⟨-, heq, -⟩
        rw [List.append_cancel_right heq]
    · rw [if_neg hfits]
      constructor
      · rintro ⟨⟩
      · rintro ⟨-, -, hlength⟩
        exact absurd hlength hfits
  · rw [answer_unterminated hmem, upToNewline_unterminated hmem]
    constructor
    · intro heq
      split at heq <;> contradiction
    · rintro ⟨-, rfl, -⟩
      exact absurd (by simp) hmem

/-- Every split of a stream is answered once, as the bytes up to the first newline or the end
say, and a line is parsed if and only if it is terminated within the limit. -/
theorem framing_chunkIndependent :
    (∀ chunks, (serve chunks).finished = [answer (upToNewline chunks.flatten)]) ∧
      ∀ chunks line, (serve chunks).finished = [.parsed line] ↔
        newline ∉ line ∧ (line ++ [newline]).length ≤ maxRequestBytes ∧
          ∃ rest, chunks.flatten = line ++ newline :: rest := by
  constructor
  · intro chunks
    rw [finished_serve, answer_upToNewline]
  · intro chunks line
    rw [finished_serve, List.singleton_inj, answer_eq_parsed_iff]
    constructor
    · rintro ⟨hline, hupTo, hfits⟩
      refine ⟨hline, by rwa [hupTo] at hfits, ?_⟩
      by_cases hmem : newline ∈ chunks.flatten
      · obtain ⟨first, rest, hbytes, hfirst⟩ := exists_line hmem
        rw [hbytes, upToNewline_line hfirst] at hupTo
        exact ⟨rest, by rw [hbytes, List.append_cancel_right hupTo]⟩
      · rw [upToNewline_unterminated hmem] at hupTo
        exact absurd (by rw [hupTo]; simp) hmem
    · rintro ⟨hline, hfits, rest, hbytes⟩
      rw [hbytes, upToNewline_line hline]
      exact ⟨hline, rfl, hfits⟩

end StreamOtter.OperatorFraming
