import Mathlib.Data.Nat.Notation
import Mathlib.Algebra.Group.Nat.Defs
import Mathlib.Data.List.Induction

/-!
# Bytes: big-endian numbers and UTF-8

Numbers in a fixed number of bytes, most significant first, and texts as UTF-8.  Both are read
back as they were written; a text decoder that meets bytes of no text goes on, with replacement
characters.
-/

namespace ByteCodec

abbrev Bytes := List UInt8

/-! ### Numbers -/

/-- The lowest `width` bytes of a number, most significant first. -/
def bigEndian : ℕ → ℕ → Bytes
  | 0, _ => []
  | width + 1, n => bigEndian width (n / 256) ++ [UInt8.ofNat n]

def ofBigEndian (bytes : Bytes) : ℕ := bytes.foldl (fun n b => n * 256 + b.toNat) 0

@[simp] theorem length_bigEndian (width n : ℕ) : (bigEndian width n).length = width := by
  induction width generalizing n with
  | zero => rfl
  | succ width ih => simp [bigEndian, ih]

@[simp] theorem ofBigEndian_concat (bytes : Bytes) (b : UInt8) :
    ofBigEndian (bytes ++ [b]) = ofBigEndian bytes * 256 + b.toNat := by
  simp [ofBigEndian]

theorem ofBigEndian_bigEndian {width n : ℕ} (h : n < 256 ^ width) :
    ofBigEndian (bigEndian width n) = n := by
  induction width generalizing n with
  | zero =>
      obtain rfl : n = 0 := by simpa using h
      rfl
  | succ width ih =>
      have hdiv : n / 256 < 256 ^ width := by
        rw [Nat.div_lt_iff_lt_mul (by omega)]
        rwa [Nat.pow_succ] at h
      rw [bigEndian, ofBigEndian_concat, ih hdiv, UInt8.toNat_ofNat']
      omega

theorem ofBigEndian_lt (bytes : Bytes) : ofBigEndian bytes < 256 ^ bytes.length := by
  induction bytes using List.reverseRecOn with
  | nil => simp [ofBigEndian]
  | append_singleton bytes b ih =>
      rw [ofBigEndian_concat, List.length_append, List.length_singleton, Nat.pow_succ]
      have hb := b.toNat_lt
      omega

theorem bigEndian_ofBigEndian (bytes : Bytes) :
    bigEndian bytes.length (ofBigEndian bytes) = bytes := by
  induction bytes using List.reverseRecOn with
  | nil => rfl
  | append_singleton bytes b ih =>
      have hb := b.toNat_lt
      have hdiv : (ofBigEndian bytes * 256 + b.toNat) / 256 = ofBigEndian bytes := by omega
      rw [ofBigEndian_concat, List.length_append, List.length_singleton, bigEndian, hdiv, ih]
      congr 2
      apply UInt8.toNat_inj.mp
      rw [UInt8.toNat_ofNat']
      omega

theorem bigEndian_inj {width m n : ℕ} (hm : m < 256 ^ width) (hn : n < 256 ^ width)
    (h : bigEndian width m = bigEndian width n) : m = n := by
  rw [← ofBigEndian_bigEndian hm, ← ofBigEndian_bigEndian hn, h]

/-! ### Texts -/

def utf8 (text : String) : Bytes := text.toList.flatMap String.utf8EncodeChar

/-- A character of which some bytes are still owed. -/
structure Pending where
  codePoint : ℕ
  needed : ℕ
  lower : ℕ
  upper : ℕ
  deriving DecidableEq, Repr

def replacement : Char := Char.ofNat 0xFFFD

/-- The first byte of a character. -/
def firstByte (b : ℕ) : List Char × Option Pending :=
  if b ≤ 0x7F then ([Char.ofNat b], none)
  else if 0xC2 ≤ b ∧ b ≤ 0xDF then ([], some ⟨b - 0xC0, 1, 0x80, 0xBF⟩)
  else if 0xE0 ≤ b ∧ b ≤ 0xEF then
    ([], some ⟨b - 0xE0, 2, if b = 0xE0 then 0xA0 else 0x80, if b = 0xED then 0x9F else 0xBF⟩)
  else if 0xF0 ≤ b ∧ b ≤ 0xF4 then
    ([], some ⟨b - 0xF0, 3, if b = 0xF0 then 0x90 else 0x80, if b = 0xF4 then 0x8F else 0xBF⟩)
  else ([replacement], none)

/-- One byte: a byte that the pending character cannot take ends it and starts another. -/
def nextByte (pending : Option Pending) (b : ℕ) : List Char × Option Pending :=
  match pending with
  | none => firstByte b
  | some p =>
      if p.lower ≤ b ∧ b ≤ p.upper then
        let codePoint := p.codePoint * 64 + (b - 0x80)
        if p.needed = 1 then ([Char.ofNat codePoint], none)
        else ([], some ⟨codePoint, p.needed - 1, 0x80, 0xBF⟩)
      else (replacement :: (firstByte b).1, (firstByte b).2)

def decodeFrom : Option Pending → Bytes → List Char
  | none, [] => []
  | some _, [] => [replacement]
  | pending, b :: rest =>
      (nextByte pending b.toNat).1 ++ decodeFrom (nextByte pending b.toNat).2 rest

/-- The text of some bytes, with a replacement character where they are no UTF-8. -/
def ofUtf8 (bytes : Bytes) : String := String.ofList (decodeFrom none bytes)

theorem decodeFrom_cons (pending : Option Pending) (b : UInt8) (rest : Bytes) :
    decodeFrom pending (b :: rest) =
      (nextByte pending b.toNat).1 ++ decodeFrom (nextByte pending b.toNat).2 rest := by
  cases pending <;> rfl

/-- A code point is no surrogate. -/
theorem isScalar (c : Char) :
    c.val.toNat < 0xD800 ∨ 0xDFFF < c.val.toNat ∧ c.val.toNat < 0x110000 := c.valid

theorem ofNat_val (c : Char) : Char.ofNat c.val.toNat = c := Char.ofNat_toNat c

theorem nextByte_continues
    {codePoint needed lower upper b : ℕ} (hlower : lower ≤ b) (hupper : b ≤ upper)
    (hneeded : needed ≠ 1) :
    nextByte (some ⟨codePoint, needed, lower, upper⟩) b =
      ([], some ⟨codePoint * 64 + (b - 0x80), needed - 1, 0x80, 0xBF⟩) := by
  simp [nextByte, hlower, hupper, hneeded]

theorem nextByte_completes
    {codePoint needed lower upper b : ℕ} (hlower : lower ≤ b) (hupper : b ≤ upper)
    (hneeded : needed = 1) :
    nextByte (some ⟨codePoint, needed, lower, upper⟩) b =
      ([Char.ofNat (codePoint * 64 + (b - 0x80))], none) := by
  simp [nextByte, hlower, hupper, hneeded]

/-- A character is read back, whatever follows. -/
theorem decodeFrom_utf8EncodeChar (c : Char) (rest : Bytes) :
    decodeFrom none (String.utf8EncodeChar c ++ rest) = c :: decodeFrom none rest := by
  have hscalar := isScalar c
  have hchar := ofNat_val c
  unfold String.utf8EncodeChar
  generalize c.val.toNat = v at hscalar hchar
  by_cases hone : v ≤ 0x7f
  · have hbyte : (UInt8.ofNat v).toNat = v := by rw [UInt8.toNat_ofNat']; omega
    have hfirst : firstByte v = ([Char.ofNat v], none) := by simp [firstByte, hone]
    rw [if_pos hone, List.singleton_append, decodeFrom_cons, hbyte]
    show (firstByte v).1 ++ decodeFrom (firstByte v).2 rest = _
    rw [hfirst, hchar]
    rfl
  · have hlast : (UInt8.ofNat (v % 0x40 + 0x80)).toNat = v % 0x40 + 0x80 := by
      rw [UInt8.toNat_ofNat']; omega
    rw [if_neg hone]
    by_cases htwo : v ≤ 0x7ff
    · have hbyte : (UInt8.ofNat (v / 64 % 0x20 + 0xc0)).toNat = v / 64 + 0xc0 := by
        rw [UInt8.toNat_ofNat']; omega
      have hfirst : firstByte (v / 64 + 0xc0) = ([], some ⟨v / 64, 1, 0x80, 0xBF⟩) := by
        unfold firstByte
        rw [if_neg (by omega), if_pos (by omega), Nat.add_sub_cancel]
      have hcode : v / 64 * 64 + (v % 0x40 + 0x80 - 0x80) = v := by omega
      rw [if_pos htwo, List.cons_append, List.singleton_append, decodeFrom_cons, hbyte]
      show (firstByte _).1 ++ decodeFrom (firstByte _).2 _ = _
      rw [hfirst, decodeFrom_cons, hlast, nextByte_completes (by omega) (by omega) rfl, hcode,
        hchar]
      rfl
    · have hmiddle : (UInt8.ofNat (v / 64 % 0x40 + 0x80)).toNat = v / 64 % 0x40 + 0x80 := by
        rw [UInt8.toNat_ofNat']; omega
      rw [if_neg htwo]
      by_cases hthree : v ≤ 0xffff
      · have hbyte : (UInt8.ofNat (v / 4096 % 0x10 + 0xe0)).toNat = v / 4096 + 0xe0 := by
          rw [UInt8.toNat_ofNat']; omega
        have hfirst : firstByte (v / 4096 + 0xe0) = ([], some ⟨v / 4096, 2,
            if v / 4096 + 0xe0 = 0xE0 then 0xA0 else 0x80,
            if v / 4096 + 0xe0 = 0xED then 0x9F else 0xBF⟩) := by
          unfold firstByte
          rw [if_neg (by omega), if_neg (by omega), if_pos (by omega), Nat.add_sub_cancel]
        -- The bounds of the second byte leave out overlong forms and surrogates.
        have hlower : (if v / 4096 + 0xe0 = 0xE0 then 0xA0 else 0x80) ≤ v / 64 % 0x40 + 0x80 := by
          split <;> omega
        have hupper : v / 64 % 0x40 + 0x80 ≤ if v / 4096 + 0xe0 = 0xED then 0x9F else 0xBF := by
          split <;> omega
        have hcode : (v / 4096 * 64 + (v / 64 % 0x40 + 0x80 - 0x80)) * 64 +
            (v % 0x40 + 0x80 - 0x80) = v := by omega
        rw [if_pos hthree, List.cons_append, List.cons_append, List.singleton_append,
          decodeFrom_cons, hbyte]
        show (firstByte _).1 ++ decodeFrom (firstByte _).2 _ = _
        rw [hfirst, decodeFrom_cons, hmiddle, nextByte_continues hlower hupper (by decide),
          decodeFrom_cons, hlast, nextByte_completes (by omega) (by omega) rfl, hcode, hchar]
        rfl
      · have hsecond : (UInt8.ofNat (v / 4096 % 0x40 + 0x80)).toNat = v / 4096 % 0x40 + 0x80 := by
          rw [UInt8.toNat_ofNat']; omega
        have hbyte : (UInt8.ofNat (v / 262144 % 0x08 + 0xf0)).toNat = v / 262144 + 0xf0 := by
          rw [UInt8.toNat_ofNat']; omega
        have hfirst : firstByte (v / 262144 + 0xf0) = ([], some ⟨v / 262144, 3,
            if v / 262144 + 0xf0 = 0xF0 then 0x90 else 0x80,
            if v / 262144 + 0xf0 = 0xF4 then 0x8F else 0xBF⟩) := by
          unfold firstByte
          rw [if_neg (by omega), if_neg (by omega), if_neg (by omega), if_pos (by omega),
            Nat.add_sub_cancel]
        have hlower : (if v / 262144 + 0xf0 = 0xF0 then 0x90 else 0x80) ≤
            v / 4096 % 0x40 + 0x80 := by
          split <;> omega
        have hupper : v / 4096 % 0x40 + 0x80 ≤
            if v / 262144 + 0xf0 = 0xF4 then 0x8F else 0xBF := by
          split <;> omega
        have hcode : ((v / 262144 * 64 + (v / 4096 % 0x40 + 0x80 - 0x80)) * 64 +
            (v / 64 % 0x40 + 0x80 - 0x80)) * 64 + (v % 0x40 + 0x80 - 0x80) = v := by omega
        rw [if_neg hthree, List.cons_append, List.cons_append, List.cons_append,
          List.singleton_append, decodeFrom_cons, hbyte]
        show (firstByte _).1 ++ decodeFrom (firstByte _).2 _ = _
        rw [hfirst, decodeFrom_cons, hsecond, nextByte_continues hlower hupper (by decide),
          decodeFrom_cons, hmiddle, nextByte_continues (by omega) (by omega) (by decide),
          decodeFrom_cons, hlast, nextByte_completes (by omega) (by omega) rfl, hcode, hchar]
        rfl

/-- A text is read back from its bytes. -/
theorem ofUtf8_utf8 (text : String) : ofUtf8 (utf8 text) = text := by
  have hlist : ∀ characters : List Char,
      decodeFrom none (characters.flatMap String.utf8EncodeChar) = characters := by
    intro characters
    induction characters with
    | nil => rfl
    | cons c rest ih => rw [List.flatMap_cons, decodeFrom_utf8EncodeChar, ih]
  unfold ofUtf8 utf8
  rw [hlist, String.ofList_toList]

theorem utf8_inj {a b : String} (h : utf8 a = utf8 b) : a = b := by
  rw [← ofUtf8_utf8 a, ← ofUtf8_utf8 b, h]

end ByteCodec
