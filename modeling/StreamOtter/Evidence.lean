import StreamOtter.ByteCodec

/-!
# Captured evidence and its hash

The original bytes of a record and the bytes that its hash is taken of.  No two evidences have
the same pre-image: every field of a given length is read off the front of it, the count of
headers ends at the first byte that is no digit, and each header takes some bytes.
-/

namespace StreamOtter

open ByteCodec

@[ext] structure HeaderBytes where
  name : String
  value : Bytes
  deriving DecidableEq, Repr

/-- Original record bytes. -/
@[ext] structure RawEvidence where
  key : Option Bytes
  value : Option Bytes
  headers : List HeaderBytes
  deriving DecidableEq, Repr

/-- A presence byte, the length as a big-endian u64, then the bytes. -/
def lengthPrefixed : Option Bytes → Bytes
  | none => List.replicate 9 0
  | some bytes => 1 :: (bigEndian 8 bytes.length ++ bytes)

namespace RawEvidence

def headerImage (header : HeaderBytes) : Bytes :=
  lengthPrefixed (some (utf8 header.name)) ++ lengthPrefixed (some header.value)

/-- What `evidenceHash` feeds to the hash, in order. -/
def hashImage (evidence : RawEvidence) : Bytes :=
  utf8 "streamotter-evidence-v1" ++ (lengthPrefixed evidence.key ++
    (lengthPrefixed evidence.value ++
      (lengthPrefixed (some (utf8 (toString evidence.headers.length))) ++
        evidence.headers.flatMap headerImage)))

def evidenceHash (sha256Hex : Bytes → String) (evidence : RawEvidence) : String :=
  "sha256:" ++ sha256Hex evidence.hashImage

/-- Every field has a length that a u64 holds. -/
structure Bounded (evidence : RawEvidence) : Prop where
  key : ∀ bytes ∈ evidence.key, bytes.length < 2 ^ 64
  value : ∀ bytes ∈ evidence.value, bytes.length < 2 ^ 64
  names : ∀ header ∈ evidence.headers, (utf8 header.name).length < 2 ^ 64
  values : ∀ header ∈ evidence.headers, header.value.length < 2 ^ 64

/-- A length-prefixed field is read off the front. -/
theorem lengthPrefixed_append_inj
    {a b : Option Bytes} {rest rest' : Bytes} (ha : ∀ bytes ∈ a, bytes.length < 2 ^ 64)
    (hb : ∀ bytes ∈ b, bytes.length < 2 ^ 64)
    (h : lengthPrefixed a ++ rest = lengthPrefixed b ++ rest') : a = b ∧ rest = rest' := by
  cases a with
  | none =>
      cases b with
      | none => exact ⟨rfl, List.append_cancel_left h⟩
      | some bytes => simp [lengthPrefixed, List.replicate_succ] at h
  | some bytes =>
      cases b with
      | none => simp [lengthPrefixed, List.replicate_succ] at h
      | some other =>
          simp only [lengthPrefixed, List.cons_append, List.append_assoc, List.cons.injEq,
            true_and] at h
          have hsplit := List.append_inj h (by simp)
          have hlength : bytes.length = other.length :=
            bigEndian_inj (ha bytes rfl) (hb other rfl) hsplit.1
          have hfield := List.append_inj hsplit.2 hlength
          exact ⟨congrArg some hfield.1, hfield.2⟩

def isDigitByte (b : UInt8) : Bool := 0x30 ≤ b.toNat && b.toNat ≤ 0x39

theorem digits_of_toString (n : ℕ) : ∀ b ∈ utf8 (toString n), isDigitByte b = true := by
  intro b hb
  unfold utf8 at hb
  rw [Nat.toString_eq_ofList_toDigits, String.toList_ofList, List.mem_flatMap] at hb
  obtain ⟨c, hc, hbyte⟩ := hb
  have hdigit := Char.isDigit_iff_toNat.mp (Nat.isDigit_of_mem_toDigits (by omega) (by omega) hc)
  have hlow : 48 ≤ c.toNat := hdigit.1
  have hhigh : c.toNat ≤ 57 := hdigit.2
  have hencode : String.utf8EncodeChar c = [UInt8.ofNat c.toNat] := by
    unfold String.utf8EncodeChar
    exact if_pos (show c.toNat ≤ 0x7f by omega)
  rw [hencode, List.mem_singleton] at hbyte
  rw [hbyte, isDigitByte, UInt8.toNat_ofNat', Nat.mod_eq_of_lt (by omega)]
  simp [hlow, hhigh]

theorem headers_start (headers : List HeaderBytes) :
    ∀ b ∈ (headers.flatMap headerImage).head?, isDigitByte b = false := by
  cases headers with
  | nil => simp
  | cons header rest =>
      intro b hb
      obtain rfl : 1 = b := by simpa [headerImage, lengthPrefixed] using hb
      decide

/-- Digits end where no digit follows. -/
theorem digits_append_inj
    {digits digits' rest rest' : Bytes} (hdigits : ∀ b ∈ digits, isDigitByte b = true)
    (hdigits' : ∀ b ∈ digits', isDigitByte b = true)
    (hrest : ∀ b ∈ rest.head?, isDigitByte b = false)
    (hrest' : ∀ b ∈ rest'.head?, isDigitByte b = false)
    (h : digits ++ rest = digits' ++ rest') : digits = digits' ∧ rest = rest' := by
  have htake : ∀ digits rest : Bytes, (∀ b ∈ digits, isDigitByte b = true) →
      (∀ b ∈ rest.head?, isDigitByte b = false) →
        (digits ++ rest).takeWhile isDigitByte = digits := by
    intro digits rest hdigits hrest
    rw [List.takeWhile_append_of_pos hdigits]
    cases rest with
    | nil => simp
    | cons b tail => simp [hrest b rfl]
  have hequal : digits = digits' := by
    rw [← htake digits rest hdigits hrest, h, htake digits' rest' hdigits' hrest']
  rw [hequal] at h
  exact ⟨hequal, List.append_cancel_left h⟩

theorem headers_inj
    {headers others : List HeaderBytes}
    (hnames : ∀ header ∈ headers, (utf8 header.name).length < 2 ^ 64)
    (hvalues : ∀ header ∈ headers, header.value.length < 2 ^ 64)
    (hnames' : ∀ header ∈ others, (utf8 header.name).length < 2 ^ 64)
    (hvalues' : ∀ header ∈ others, header.value.length < 2 ^ 64)
    (h : headers.flatMap headerImage = others.flatMap headerImage) : headers = others := by
  induction headers generalizing others with
  | nil =>
      cases others with
      | nil => rfl
      | cons other rest => simp [headerImage, lengthPrefixed] at h
  | cons header rest ih =>
      cases others with
      | nil => simp [headerImage, lengthPrefixed] at h
      | cons other rest' =>
          rw [List.flatMap_cons, List.flatMap_cons, headerImage, headerImage, List.append_assoc,
            List.append_assoc] at h
          obtain ⟨hname, h⟩ := lengthPrefixed_append_inj
            (by simpa using hnames header List.mem_cons_self)
            (by simpa using hnames' other List.mem_cons_self) h
          obtain ⟨hvalue, h⟩ := lengthPrefixed_append_inj
            (by simpa using hvalues header List.mem_cons_self)
            (by simpa using hvalues' other List.mem_cons_self) h
          have hheader : header = other :=
            HeaderBytes.ext (utf8_inj (Option.some.inj hname)) (Option.some.inj hvalue)
          have hrest : rest = rest' := by
            apply ih _ _ _ _ h
            · exact fun header hmem => hnames header (List.mem_cons_of_mem _ hmem)
            · exact fun header hmem => hvalues header (List.mem_cons_of_mem _ hmem)
            · exact fun header hmem => hnames' header (List.mem_cons_of_mem _ hmem)
            · exact fun header hmem => hvalues' header (List.mem_cons_of_mem _ hmem)
          rw [hheader, hrest]

theorem count_append_inj
    {headers others : List HeaderBytes}
    (h : lengthPrefixed (some (utf8 (toString headers.length))) ++ headers.flatMap headerImage =
      lengthPrefixed (some (utf8 (toString others.length))) ++ others.flatMap headerImage) :
    headers.flatMap headerImage = others.flatMap headerImage := by
  -- The count is not read by its length but by its digits: a header starts with another byte.
  simp only [lengthPrefixed, List.cons_append, List.append_assoc, List.cons.injEq,
    true_and] at h
  have hsplit := (List.append_inj h (by simp)).2
  exact (digits_append_inj (digits_of_toString _) (digits_of_toString _) (headers_start _)
    (headers_start _) hsplit).2

/-- Two evidences have the same pre-image only if they are the same. -/
theorem hashImage_eq_iff {a b : RawEvidence} (ha : a.Bounded) (hb : b.Bounded) :
    a.hashImage = b.hashImage ↔ a = b := by
  constructor
  · intro h
    have hkey := lengthPrefixed_append_inj ha.key hb.key (List.append_cancel_left h)
    have hvalue := lengthPrefixed_append_inj ha.value hb.value hkey.2
    have hheaders := headers_inj ha.names ha.values hb.names hb.values
      (count_append_inj hvalue.2)
    exact RawEvidence.ext hkey.1 hvalue.1 hheaders
  · rintro rfl
    rfl

/-- A null key and an empty one have different pre-images. -/
theorem hashImage_null_empty :
    (⟨none, some [1], [⟨"a", [2]⟩]⟩ : RawEvidence).hashImage =
        (⟨some [], some [1], [⟨"a", [2]⟩]⟩ : RawEvidence).hashImage ↔
      (⟨none, some [1], [⟨"a", [2]⟩]⟩ : RawEvidence) = ⟨some [], some [1], [⟨"a", [2]⟩]⟩ := by
  have hlength : (utf8 "a").length = 1 := by decide
  apply hashImage_eq_iff
  · constructor <;> simp [hlength]
  · constructor <;> simp [hlength]

end RawEvidence

end StreamOtter
