import StreamOtter.ByteCodec

/-!
# Bytes as base64url

Three bytes are four characters of six bits each, and a rest of one or two bytes is two or
three characters, without padding.  The reader takes either alphabet and passes over every
other character.
-/

namespace ByteCodec

def base64Alphabet : List Char :=
  "ABCDEFGHIJKLMNOPQRSTUVWXYZabcdefghijklmnopqrstuvwxyz0123456789-_".toList

def sextetChar (value : ℕ) : Char := base64Alphabet.getD value 'A'

def sextetOf (c : Char) : Option ℕ :=
  if 'A' ≤ c ∧ c ≤ 'Z' then some (c.toNat - 65)
  else if 'a' ≤ c ∧ c ≤ 'z' then some (c.toNat - 71)
  else if '0' ≤ c ∧ c ≤ '9' then some (c.toNat + 4)
  else if c = '-' ∨ c = '+' then some 62
  else if c = '_' ∨ c = '/' then some 63
  else none

/-- The bytes as six-bit values. -/
def sextets : Bytes → List ℕ
  | a :: b :: c :: rest =>
      a.toNat / 4 :: (a.toNat % 4 * 16 + b.toNat / 16) :: (b.toNat % 16 * 4 + c.toNat / 64) ::
        c.toNat % 64 :: sextets rest
  | [a, b] => [a.toNat / 4, a.toNat % 4 * 16 + b.toNat / 16, b.toNat % 16 * 4]
  | [a] => [a.toNat / 4, a.toNat % 4 * 16]
  | [] => []

def ofSextets : List ℕ → Bytes
  | w :: x :: y :: z :: rest =>
      UInt8.ofNat (w * 4 + x / 16) :: UInt8.ofNat (x % 16 * 16 + y / 4) ::
        UInt8.ofNat (y % 4 * 64 + z) :: ofSextets rest
  | [w, x, y] => [UInt8.ofNat (w * 4 + x / 16), UInt8.ofNat (x % 16 * 16 + y / 4)]
  | [w, x] => [UInt8.ofNat (w * 4 + x / 16)]
  | _ => []

def base64Url (bytes : Bytes) : String := String.ofList ((sextets bytes).map sextetChar)

def ofBase64Url (text : String) : Bytes := ofSextets (text.toList.filterMap sextetOf)

theorem sextetOf_sextetChar {value : ℕ} (h : value < 64) :
    sextetOf (sextetChar value) = some value := by
  have hall : ∀ value : Fin 64, sextetOf (sextetChar value) = some value.val := by decide +kernel
  exact hall ⟨value, h⟩

theorem sextets_lt (bytes : Bytes) : ∀ value ∈ sextets bytes, value < 64 := by
  fun_induction sextets bytes with
  | case1 a b c rest ih =>
      have ha := a.toNat_lt
      have hb := b.toNat_lt
      have hc := c.toNat_lt
      intro value hvalue
      simp only [List.mem_cons] at hvalue
      rcases hvalue with rfl | rfl | rfl | rfl | hrest
      · omega
      · omega
      · omega
      · omega
      · exact ih value hrest
  | case2 a b =>
      have ha := a.toNat_lt
      have hb := b.toNat_lt
      simp only [List.mem_cons, List.not_mem_nil, or_false]
      omega
  | case3 a =>
      have ha := a.toNat_lt
      simp only [List.mem_cons, List.not_mem_nil, or_false]
      omega
  | case4 => simp

theorem ofNat_of_eq {n : ℕ} {b : UInt8} (h : n = b.toNat) : UInt8.ofNat n = b := by
  rw [h, UInt8.ofNat_toNat]

theorem ofSextets_sextets (bytes : Bytes) : ofSextets (sextets bytes) = bytes := by
  fun_induction sextets bytes with
  | case1 a b c rest ih =>
      have ha := a.toNat_lt
      have hb := b.toNat_lt
      have hc := c.toNat_lt
      rw [ofSextets, ih]
      rw [@ofNat_of_eq _ a (by omega), @ofNat_of_eq _ b (by omega), @ofNat_of_eq _ c (by omega)]
  | case2 a b =>
      have ha := a.toNat_lt
      have hb := b.toNat_lt
      rw [ofSextets, @ofNat_of_eq _ a (by omega), @ofNat_of_eq _ b (by omega)]
  | case3 a =>
      have ha := a.toNat_lt
      rw [ofSextets, @ofNat_of_eq _ a (by omega)]
  | case4 => rfl

theorem ofBase64Url_base64Url (bytes : Bytes) : ofBase64Url (base64Url bytes) = bytes := by
  have hread : ∀ values : List ℕ, (∀ value ∈ values, value < 64) →
      (values.map sextetChar).filterMap sextetOf = values := by
    intro values hvalues
    induction values with
    | nil => rfl
    | cons value rest ih =>
        have hvalue := sextetOf_sextetChar (hvalues value List.mem_cons_self)
        rw [List.map_cons, List.filterMap_cons_some hvalue]
        rw [ih fun other hother => hvalues other (List.mem_cons_of_mem _ hother)]
  unfold ofBase64Url base64Url
  rw [String.toList_ofList, hread _ (sextets_lt bytes), ofSextets_sextets]

example : base64Url (utf8 "m:1") = "bTox" := by decide +kernel

end ByteCodec
