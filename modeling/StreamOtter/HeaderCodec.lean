import StreamOtter.Evidence

/-!
# The journal's header list encoding

A version byte, a u32 count, then for each header a u32 name length, the name, a u32 value
length and the value.  The decoder accepts exactly the images of lists of fields and reads
nothing past the end of the buffer.
-/

namespace StreamOtter

open ByteCodec

namespace HeaderCodec

/-! ### Encoding -/

/-- The four bytes of a u32; a larger number is a `RangeError`. -/
def writeUInt32BE (n : ℕ) : Option Bytes := if n < 2 ^ 32 then some (bigEndian 4 n) else none

def encodeFields : List HeaderBytes → Option Bytes
  | [] => some []
  | header :: rest => do
      let nameLength ← writeUInt32BE (utf8 header.name).length
      let valueLength ← writeUInt32BE header.value.length
      let restImage ← encodeFields rest
      some (nameLength ++ (utf8 header.name ++ (valueLength ++ (header.value ++ restImage))))

def encodeHeaders (headers : List HeaderBytes) : Option Bytes := do
  let count ← writeUInt32BE headers.length
  let fields ← encodeFields headers
  some (1 :: (count ++ fields))

/-! ### Decoding -/

/-- `corrupt` is the refusal `journal-corrupt`; `pastEnd` would be a read outside the buffer. -/
inductive HeadersFailure
  | corrupt
  | pastEnd
  deriving DecidableEq, Repr

def readUInt32BE (buffer : Bytes) (offset : ℕ) : Except HeadersFailure ℕ :=
  if offset + 4 ≤ buffer.length then .ok (ofBigEndian ((buffer.drop offset).take 4))
  else .error .pastEnd

def subarray (buffer : Bytes) (start stop : ℕ) : Except HeadersFailure Bytes :=
  if stop ≤ buffer.length then .ok ((buffer.drop start).take (stop - start))
  else .error .pastEnd

/-- The field at an offset, and the offset after it. -/
def takeField (buffer : Bytes) (offset : ℕ) : Except HeadersFailure (Bytes × ℕ) :=
  if offset + 4 > buffer.length then .error .corrupt
  else do
    let length ← readUInt32BE buffer offset
    if offset + 4 + length > buffer.length then .error .corrupt
    else
      let slice ← subarray buffer (offset + 4) (offset + 4 + length)
      .ok (slice, offset + 4 + length)

def takeHeaders (buffer : Bytes) : ℕ → ℕ → Except HeadersFailure (List (Bytes × Bytes) × ℕ)
  | 0, offset => .ok ([], offset)
  | count + 1, offset => do
      let (name, offset) ← takeField buffer offset
      let (value, offset) ← takeField buffer offset
      let (rest, offset) ← takeHeaders buffer count offset
      .ok ((name, value) :: rest, offset)

/-- The name bytes and values as they are stored. -/
def storedHeaders (buffer : Bytes) : Except HeadersFailure (List (Bytes × Bytes)) :=
  if buffer.length < 5 ∨ buffer.head? ≠ some 1 then .error .corrupt
  else do
    let count ← readUInt32BE buffer 1
    let (headers, offset) ← takeHeaders buffer count 5
    if offset ≠ buffer.length then .error .corrupt else .ok headers

def decodeHeaders (buffer : Bytes) : Except HeadersFailure (List HeaderBytes) :=
  (storedHeaders buffer).map fun fields =>
    fields.map fun field => ⟨ofUtf8 field.1, field.2⟩

/-! ### Images -/

def fieldImage (field : Bytes × Bytes) : Bytes :=
  bigEndian 4 field.1.length ++ (field.1 ++ (bigEndian 4 field.2.length ++ field.2))

def image (fields : List (Bytes × Bytes)) : Bytes :=
  1 :: (bigEndian 4 fields.length ++ fields.flatMap fieldImage)

/-- The count and every length fit in a u32. -/
structure Fits (fields : List (Bytes × Bytes)) : Prop where
  count : fields.length < 2 ^ 32
  lengths : ∀ field ∈ fields, field.1.length < 2 ^ 32 ∧ field.2.length < 2 ^ 32

def fieldOf (header : HeaderBytes) : Bytes × Bytes := (utf8 header.name, header.value)

theorem encodeFields_eq
    {headers : List HeaderBytes}
    (h : ∀ field ∈ headers.map fieldOf, field.1.length < 2 ^ 32 ∧ field.2.length < 2 ^ 32) :
    encodeFields headers = some ((headers.map fieldOf).flatMap fieldImage) := by
  induction headers with
  | nil => rfl
  | cons header rest ih =>
      have hheader := h (fieldOf header) List.mem_cons_self
      have hrest := ih fun field hfield => h field (List.mem_cons_of_mem _ hfield)
      have hname : writeUInt32BE (utf8 header.name).length =
          some (bigEndian 4 (utf8 header.name).length) := if_pos hheader.1
      have hvalue : writeUInt32BE header.value.length =
          some (bigEndian 4 header.value.length) := if_pos hheader.2
      simp [encodeFields, hname, hvalue, hrest, fieldImage, fieldOf]

theorem encodeHeaders_of_fits {headers : List HeaderBytes} (h : Fits (headers.map fieldOf)) :
    encodeHeaders headers = some (image (headers.map fieldOf)) := by
  have hcount : writeUInt32BE headers.length = some (bigEndian 4 headers.length) :=
    if_pos (by rw [← List.length_map fieldOf]; exact h.count)
  simp [encodeHeaders, hcount, encodeFields_eq h.lengths, image]

theorem writeUInt32BE_of_lt {n : ℕ} (h : n < 2 ^ 32) :
    writeUInt32BE n = some (bigEndian 4 n) := if_pos h

theorem writeUInt32BE_of_not_lt {n : ℕ} (h : ¬n < 2 ^ 32) : writeUInt32BE n = none := if_neg h

theorem lengths_of_encodeFields {headers : List HeaderBytes} {bytes : Bytes}
    (h : encodeFields headers = some bytes) :
    ∀ field ∈ headers.map fieldOf, field.1.length < 2 ^ 32 ∧ field.2.length < 2 ^ 32 := by
  induction headers generalizing bytes with
  | nil => simp
  | cons header rest ih =>
      unfold encodeFields at h
      by_cases hname : (utf8 header.name).length < 2 ^ 32
      · by_cases hvalue : header.value.length < 2 ^ 32
        · rw [writeUInt32BE_of_lt hname, writeUInt32BE_of_lt hvalue] at h
          cases hrest : encodeFields rest with
          | none =>
              rw [hrest] at h
              cases h
          | some restImage =>
              intro field hfield
              rcases List.mem_cons.mp hfield with rfl | hfield
              · exact ⟨hname, hvalue⟩
              · exact ih hrest field hfield
        · rw [writeUInt32BE_of_lt hname, writeUInt32BE_of_not_lt hvalue] at h
          cases h
      · rw [writeUInt32BE_of_not_lt hname] at h
        cases h

theorem fits_of_encodeHeaders {headers : List HeaderBytes} {bytes : Bytes}
    (h : encodeHeaders headers = some bytes) : Fits (headers.map fieldOf) := by
  unfold encodeHeaders at h
  by_cases hcount : headers.length < 2 ^ 32
  · rw [writeUInt32BE_of_lt hcount] at h
    cases hfields : encodeFields headers with
    | none =>
        rw [hfields] at h
        cases h
    | some fields => exact ⟨by rwa [List.length_map], lengths_of_encodeFields hfields⟩
  · rw [writeUInt32BE_of_not_lt hcount] at h
    cases h

/-! ### Reading -/

theorem readUInt32BE_of_drop
    {buffer rest : Bytes} {offset n : ℕ} (hn : n < 2 ^ 32)
    (h : buffer.drop offset = bigEndian 4 n ++ rest) : readUInt32BE buffer offset = .ok n := by
  have hlength := congrArg List.length h
  simp only [List.length_drop, List.length_append, length_bigEndian] at hlength
  unfold readUInt32BE
  rw [if_pos (by omega), h, List.take_append_of_le_length (by simp),
    List.take_of_length_le (by simp), ofBigEndian_bigEndian (by simpa using hn)]

/-- A field that stands at an offset is taken. -/
theorem takeField_of_drop
    {buffer field rest : Bytes} {offset : ℕ} (hfield : field.length < 2 ^ 32)
    (h : buffer.drop offset = bigEndian 4 field.length ++ (field ++ rest)) :
    takeField buffer offset = .ok (field, offset + 4 + field.length) ∧
      buffer.drop (offset + 4 + field.length) = rest := by
  have hlength := congrArg List.length h
  simp only [List.length_drop, List.length_append, length_bigEndian] at hlength
  have hafter : buffer.drop (offset + 4) = field ++ rest := by
    rw [← List.drop_drop, h, List.drop_append_of_le_length (by simp), List.drop_of_length_le
      (by simp), List.nil_append]
  have hslice : subarray buffer (offset + 4) (offset + 4 + field.length) = .ok field := by
    unfold subarray
    rw [if_pos (by omega), hafter, Nat.add_sub_cancel_left, List.take_left]
  constructor
  · unfold takeField
    rw [if_neg (by omega), readUInt32BE_of_drop hfield h]
    show (if offset + 4 + field.length > buffer.length then _ else _) = _
    rw [if_neg (by omega), hslice]
    rfl
  · rw [← List.drop_drop, hafter, List.drop_left]

/-- A field that is taken stands at its offset. -/
theorem takeField_ok
    {buffer field : Bytes} {offset next : ℕ} (h : takeField buffer offset = .ok (field, next)) :
    field.length < 2 ^ 32 ∧ offset ≤ next ∧ next ≤ buffer.length ∧
      buffer.drop offset = bigEndian 4 field.length ++ (field ++ buffer.drop next) := by
  unfold takeField at h
  by_cases hroom : offset + 4 > buffer.length
  · rw [if_pos hroom] at h
    cases h
  · have hread : readUInt32BE buffer offset = .ok (ofBigEndian ((buffer.drop offset).take 4)) :=
      if_pos (by omega)
    have hfour : ((buffer.drop offset).take 4).length = 4 := by
      rw [List.length_take, List.length_drop]
      omega
    have hsmall := ofBigEndian_lt ((buffer.drop offset).take 4)
    have hbytes := bigEndian_ofBigEndian ((buffer.drop offset).take 4)
    rw [hfour] at hsmall hbytes
    rw [if_neg hroom, hread] at h
    generalize ofBigEndian ((buffer.drop offset).take 4) = length at h hsmall hbytes
    change (if offset + 4 + length > buffer.length then _ else _) = _ at h
    by_cases hend : offset + 4 + length > buffer.length
    · rw [if_pos hend] at h
      cases h
    · have hslice : subarray buffer (offset + 4) (offset + 4 + length) =
          .ok ((buffer.drop (offset + 4)).take length) := by
        unfold subarray
        rw [if_pos (by omega), Nat.add_sub_cancel_left]
      rw [if_neg hend, hslice] at h
      obtain ⟨rfl, rfl⟩ := Prod.ext_iff.mp (Except.ok.inj h)
      dsimp only
      have hfield : ((buffer.drop (offset + 4)).take length).length = length := by
        rw [List.length_take, List.length_drop]
        omega
      have hlengthPart := List.take_append_drop 4 (buffer.drop offset)
      have hfieldPart := List.take_append_drop length (buffer.drop (offset + 4))
      rw [List.drop_drop] at hlengthPart hfieldPart
      refine ⟨by omega, by omega, by omega, ?_⟩
      rw [hfield, hbytes, hfieldPart, hlengthPart]

theorem takeField_error
    {buffer : Bytes} {offset : ℕ} {failure : HeadersFailure}
    (h : takeField buffer offset = .error failure) : failure = .corrupt := by
  unfold takeField at h
  by_cases hroom : offset + 4 > buffer.length
  · rw [if_pos hroom] at h
    cases h
    rfl
  · have hread : readUInt32BE buffer offset = .ok (ofBigEndian ((buffer.drop offset).take 4)) :=
      if_pos (by omega)
    rw [if_neg hroom, hread] at h
    generalize ofBigEndian ((buffer.drop offset).take 4) = length at h
    change (if offset + 4 + length > buffer.length then _ else _) = _ at h
    by_cases hend : offset + 4 + length > buffer.length
    · rw [if_pos hend] at h
      cases h
      rfl
    · have hslice : subarray buffer (offset + 4) (offset + 4 + length) =
          .ok ((buffer.drop (offset + 4)).take (offset + 4 + length - (offset + 4))) :=
        if_pos (by omega)
      rw [if_neg hend, hslice] at h
      cases h

theorem takeHeaders_succ
    {buffer name value : Bytes} {count offset afterName afterValue : ℕ}
    (hname : takeField buffer offset = .ok (name, afterName))
    (hvalue : takeField buffer afterName = .ok (value, afterValue)) :
    takeHeaders buffer (count + 1) offset =
      (takeHeaders buffer count afterValue).map fun taken => ((name, value) :: taken.1, taken.2) := by
  have hunfold : takeHeaders buffer (count + 1) offset =
      (takeField buffer offset).bind fun taken => (takeField buffer taken.2).bind fun taken' =>
        (takeHeaders buffer count taken'.2).bind fun rest =>
          .ok ((taken.1, taken'.1) :: rest.1, rest.2) := rfl
  rw [hunfold, hname]
  show ((takeField buffer afterName).bind _) = _
  rw [hvalue]
  show ((takeHeaders buffer count afterValue).bind _) = _
  cases takeHeaders buffer count afterValue <;> rfl

/-- A header is refused, or its two fields are taken. -/
theorem takeHeaders_cases (buffer : Bytes) (count offset : ℕ) :
    (∃ failure, takeHeaders buffer (count + 1) offset = .error failure ∧ failure = .corrupt) ∨
      ∃ name value afterName afterValue, takeField buffer offset = .ok (name, afterName) ∧
        takeField buffer afterName = .ok (value, afterValue) ∧
        takeHeaders buffer (count + 1) offset =
          (takeHeaders buffer count afterValue).map fun taken =>
            ((name, value) :: taken.1, taken.2) := by
  cases hname : takeField buffer offset with
  | error failure =>
      left
      refine ⟨failure, ?_, takeField_error hname⟩
      unfold takeHeaders
      rw [hname]
      rfl
  | ok taken =>
      obtain ⟨name, afterName⟩ := taken
      cases hvalue : takeField buffer afterName with
      | error failure =>
          left
          refine ⟨failure, ?_, takeField_error hvalue⟩
          unfold takeHeaders
          rw [hname]
          show ((takeField buffer afterName).bind _) = _
          rw [hvalue]
          rfl
      | ok taken' =>
          obtain ⟨value, afterValue⟩ := taken'
          exact .inr ⟨name, value, afterName, afterValue, rfl, hvalue,
            takeHeaders_succ hname hvalue⟩

theorem takeHeaders_of_drop
    {buffer rest : Bytes} {offset : ℕ} {fields : List (Bytes × Bytes)}
    (hfields : ∀ field ∈ fields, field.1.length < 2 ^ 32 ∧ field.2.length < 2 ^ 32)
    (h : buffer.drop offset = fields.flatMap fieldImage ++ rest) :
    ∃ next, takeHeaders buffer fields.length offset = .ok (fields, next) ∧
      buffer.drop next = rest := by
  induction fields generalizing offset with
  | nil => exact ⟨offset, rfl, h⟩
  | cons field tail ih =>
      have hfield := hfields field List.mem_cons_self
      rw [List.flatMap_cons, fieldImage] at h
      simp only [List.append_assoc] at h
      obtain ⟨hname, hafterName⟩ := takeField_of_drop hfield.1 h
      obtain ⟨hvalue, hafterValue⟩ := takeField_of_drop hfield.2 hafterName
      obtain ⟨next, htail, hnext⟩ :=
        ih (fun other hother => hfields other (List.mem_cons_of_mem _ hother)) hafterValue
      refine ⟨next, ?_, hnext⟩
      rw [List.length_cons, takeHeaders_succ hname hvalue, htail]
      rfl

theorem takeHeaders_ok
    {buffer : Bytes} {count offset next : ℕ} {fields : List (Bytes × Bytes)}
    (h : takeHeaders buffer count offset = .ok (fields, next)) :
    fields.length = count ∧
      (∀ field ∈ fields, field.1.length < 2 ^ 32 ∧ field.2.length < 2 ^ 32) ∧
      (offset ≤ buffer.length → next ≤ buffer.length) ∧
      buffer.drop offset = fields.flatMap fieldImage ++ buffer.drop next := by
  induction count generalizing offset fields with
  | zero =>
      obtain ⟨rfl, rfl⟩ := Prod.ext_iff.mp (Except.ok.inj h)
      simp
  | succ count ih =>
      rcases takeHeaders_cases buffer count offset with ⟨_, hrefused, -⟩ |
        ⟨name, value, afterName, afterValue, hname, hvalue, hsucc⟩
      · rw [hrefused] at h
        cases h
      · rw [hsucc] at h
        cases hrest : takeHeaders buffer count afterValue with
        | error failure =>
            rw [hrest] at h
            cases h
        | ok rest =>
            rw [hrest] at h
            obtain ⟨rfl, rfl⟩ := Prod.ext_iff.mp (Except.ok.inj h)
            obtain ⟨hnameFits, -, -, hnameDrop⟩ := takeField_ok hname
            obtain ⟨hvalueFits, -, hvalueEnd, hvalueDrop⟩ := takeField_ok hvalue
            obtain ⟨hcount, hfits, hend, hdrop⟩ := ih hrest
            refine ⟨by simp [hcount], ?_, fun _ => hend hvalueEnd, ?_⟩
            · intro field hfield
              rcases List.mem_cons.mp hfield with rfl | hfield
              · exact ⟨hnameFits, hvalueFits⟩
              · exact hfits field hfield
            · dsimp only
              rw [hnameDrop, hvalueDrop, hdrop, List.flatMap_cons, fieldImage]
              simp only [List.append_assoc]

theorem takeHeaders_error
    {buffer : Bytes} {count offset : ℕ} {failure : HeadersFailure}
    (h : takeHeaders buffer count offset = .error failure) : failure = .corrupt := by
  induction count generalizing offset with
  | zero => cases h
  | succ count ih =>
      rcases takeHeaders_cases buffer count offset with ⟨other, hrefused, hcorrupt⟩ |
        ⟨name, value, afterName, afterValue, -, -, hsucc⟩
      · rw [hrefused] at h
        cases h
        exact hcorrupt
      · rw [hsucc] at h
        cases hrest : takeHeaders buffer count afterValue with
        | error other =>
            rw [hrest] at h
            cases h
            exact ih hrest
        | ok rest =>
            rw [hrest] at h
            cases h

/-- The end of the decoding, after the last header. -/
def finish (buffer : Bytes) (taken : List (Bytes × Bytes) × ℕ) :
    Except HeadersFailure (List (Bytes × Bytes)) :=
  if taken.2 ≠ buffer.length then .error .corrupt else .ok taken.1

theorem storedHeaders_eq {buffer : Bytes} {count : ℕ}
    (hstart : ¬(buffer.length < 5 ∨ buffer.head? ≠ some 1))
    (hcount : readUInt32BE buffer 1 = .ok count) :
    storedHeaders buffer = (takeHeaders buffer count 5).bind (finish buffer) := by
  unfold storedHeaders
  rw [if_neg hstart, hcount]
  rfl

/-- The decoder reads the fields of an image. -/
theorem storedHeaders_image {fields : List (Bytes × Bytes)} (h : Fits fields) :
    storedHeaders (image fields) = .ok fields := by
  have hlength : (image fields).length = 5 + (fields.flatMap fieldImage).length := by
    rw [image, List.length_cons, List.length_append, length_bigEndian]
    omega
  have hcount : readUInt32BE (image fields) 1 = .ok fields.length :=
    readUInt32BE_of_drop h.count rfl
  have hdrop : (image fields).drop 5 = fields.flatMap fieldImage ++ [] := by
    rw [image, List.drop_succ_cons, List.drop_append_of_le_length (by simp),
      List.drop_of_length_le (by simp), List.nil_append, List.append_nil]
  obtain ⟨next, hheaders, hnext⟩ := takeHeaders_of_drop h.lengths hdrop
  have hend : next = (image fields).length := by
    have hle := (takeHeaders_ok hheaders).2.2.1 (by omega)
    have hge := List.drop_eq_nil_iff.mp hnext
    omega
  have hstart : ¬((image fields).length < 5 ∨ (image fields).head? ≠ some 1) := by
    rintro (hshort | hversion)
    · omega
    · exact hversion rfl
  rw [storedHeaders_eq hstart hcount, hheaders]
  exact if_neg (not_not.mpr hend)

/-- The decoder accepts nothing but images, and refuses the rest as corrupt. -/
theorem storedHeaders_cases (buffer : Bytes) :
    storedHeaders buffer = .error .corrupt ∨
      ∃ fields, storedHeaders buffer = .ok fields ∧ Fits fields ∧ buffer = image fields := by
  by_cases hstart : buffer.length < 5 ∨ buffer.head? ≠ some 1
  · exact .inl (if_pos hstart)
  · obtain ⟨hlong, hversion⟩ := not_or.mp hstart
    have hread : readUInt32BE buffer 1 = .ok (ofBigEndian ((buffer.drop 1).take 4)) :=
      if_pos (by omega)
    have hfour : ((buffer.drop 1).take 4).length = 4 := by
      rw [List.length_take, List.length_drop]
      omega
    have hsmall := ofBigEndian_lt ((buffer.drop 1).take 4)
    have hcount := bigEndian_ofBigEndian ((buffer.drop 1).take 4)
    rw [hfour] at hsmall hcount
    rw [storedHeaders_eq hstart hread]
    generalize ofBigEndian ((buffer.drop 1).take 4) = count at hsmall hcount
    cases hheaders : takeHeaders buffer count 5 with
    | error failure =>
        obtain rfl := takeHeaders_error hheaders
        exact .inl rfl
    | ok headers =>
        obtain ⟨hnumber, hlengths, -, hdrop⟩ := takeHeaders_ok hheaders
        by_cases hend : headers.2 = buffer.length
        · right
          refine ⟨headers.1, if_neg (not_not.mpr hend), ⟨by omega, hlengths⟩, ?_⟩
          have hfive := List.take_append_drop 4 (buffer.drop 1)
          rw [List.drop_drop, hdrop, hend, List.drop_length, List.append_nil, ← hcount] at hfive
          rw [image, hnumber, hfive]
          cases buffer with
          | nil => simp at hlong
          | cons b rest =>
              obtain rfl : b = 1 := by simpa using hversion
              rfl
        · exact .inl (if_pos hend)

/-! ### The codec -/

/-- The headers of some fields, their names read as texts. -/
def headersOf (fields : List (Bytes × Bytes)) : List HeaderBytes :=
  fields.map fun field => ⟨ofUtf8 field.1, field.2⟩

theorem headersOf_fieldOf (headers : List HeaderBytes) :
    headersOf (headers.map fieldOf) = headers := by
  induction headers with
  | nil => rfl
  | cons header rest ih =>
      show HeaderBytes.mk (ofUtf8 (utf8 header.name)) header.value ::
        headersOf (rest.map fieldOf) = header :: rest
      rw [ofUtf8_utf8, ih]

theorem fieldOf_headersOf
    {fields : List (Bytes × Bytes)} (h : ∀ field ∈ fields, ∃ name, field.1 = utf8 name) :
    (headersOf fields).map fieldOf = fields := by
  induction fields with
  | nil => rfl
  | cons field rest ih =>
      obtain ⟨name, hname⟩ := h field List.mem_cons_self
      have hrest := ih fun other hother => h other (List.mem_cons_of_mem _ hother)
      show (utf8 (ofUtf8 field.1), field.2) :: (headersOf rest).map fieldOf = field :: rest
      rw [hname, ofUtf8_utf8, ← hname, hrest]

/-- Every stored name is the UTF-8 of a text. -/
def ValidNames (buffer : Bytes) : Prop :=
  ∀ fields, storedHeaders buffer = .ok fields → ∀ field ∈ fields, ∃ name, field.1 = utf8 name

/-- Headers that fit in u32 fields are encoded, and decoded as they were; others are not
encoded. A byte string is refused, or it decodes to headers that encode to it. -/
theorem headerCodec :
    (∀ headers : List HeaderBytes, Fits (headers.map fieldOf) →
      ∃ bytes, encodeHeaders headers = some bytes ∧ decodeHeaders bytes = .ok headers) ∧
    (∀ headers : List HeaderBytes, ¬Fits (headers.map fieldOf) →
      encodeHeaders headers = none) ∧
    ∀ buffer : Bytes, decodeHeaders buffer = .error .corrupt ∨
      ∃ headers, decodeHeaders buffer = .ok headers ∧
        (ValidNames buffer → encodeHeaders headers = some buffer) := by
  refine ⟨?_, ?_, ?_⟩
  · intro headers h
    refine ⟨_, encodeHeaders_of_fits h, ?_⟩
    unfold decodeHeaders
    rw [storedHeaders_image h]
    exact congrArg Except.ok (headersOf_fieldOf headers)
  · intro headers h
    rw [Option.eq_none_iff_forall_ne_some]
    intro bytes hencoded
    exact h (fits_of_encodeHeaders hencoded)
  · intro buffer
    unfold decodeHeaders
    rcases storedHeaders_cases buffer with hrefused | ⟨fields, haccepted, hfits, hbuffer⟩
    · rw [hrefused]
      exact .inl rfl
    · right
      rw [haccepted]
      refine ⟨headersOf fields, rfl, ?_⟩
      intro hvalid
      have hfields := fieldOf_headersOf (hvalid fields haccepted)
      rw [← hfields] at hfits
      rw [encodeHeaders_of_fits hfits, hfields, hbuffer]

/-- A value of `2 ^ 32` bytes is not encoded. -/
theorem encodeHeaders_refuses :
    ∃ headers : List HeaderBytes,
      ¬∃ bytes, encodeHeaders headers = some bytes ∧ decodeHeaders bytes = .ok headers := by
  refine ⟨[⟨"a", List.replicate (2 ^ 32) 0⟩], ?_⟩
  rintro ⟨bytes, hencoded, -⟩
  have hlength := ((fits_of_encodeHeaders hencoded).lengths _ List.mem_cons_self).2
  simp only [fieldOf, List.length_replicate] at hlength
  omega

end HeaderCodec

end StreamOtter
