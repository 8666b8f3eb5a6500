import RoomAir.Proofs.Text.Utf8
import RoomAir.Text.Form

/-! Query strings written from a value read back as that value. -/

namespace RoomAir.Form

/-- A character that stands for itself in a query string, wherever it stands. -/
def IsPlain (c : Char) : Prop :=
  c.toNat < 0x80 ∧ c ≠ '%' ∧ c ≠ '+' ∧ c ≠ '&' ∧ c ≠ '=' ∧ c ≠ '#'

instance (c : Char) : Decidable (IsPlain c) :=
  inferInstanceAs (Decidable (_ ∧ _))

/-- An ASCII character is one byte. -/
theorem encodeChar_of_lt {c : Char} (ascii : c.toNat < 0x80) :
    Utf8.encodeChar c = [c.toNat.toUInt8] := by
  -- The first branch of the encoding is taken.
  simp [Utf8.encodeChar, ascii]

/-- A letter, a digit or an unreserved mark stands for itself. -/
theorem isPlain_of_isUnreserved : ∀ byte : UInt8, isUnreserved byte = true →
    IsPlain (Char.ofNat byte.toNat) ∧ (Char.ofNat byte.toNat).toNat = byte.toNat := by
  -- There are 256 bytes to look at.
  have all : ∀ value < 256, isUnreserved (UInt8.ofNat value) = true →
      IsPlain (Char.ofNat value) ∧ (Char.ofNat value).toNat = value := by
    decide +kernel
  intro byte unreserved
  exact all byte.toNat byte.toNat_lt (by rwa [UInt8.ofNat_toNat])

/-- Each half of a byte reads back from its digit. -/
theorem hexValue?_hexDigit : ∀ value < 16, hexValue? (hexDigit value) = some value := by
  decide

/-! ## Values -/

/-- A plain character is decoded as its byte. -/
theorem percentDecode_cons {c : Char} (plain : c ≠ '%') (rest : List Char) :
    percentDecode (c :: rest) = Utf8.encodeChar c ++ percentDecode rest := by
  -- Only a percent sign is looked at together with what follows it.
  rw [percentDecode]
  rintro high low later same -
  exact absurd same plain

/-- A percent-encoded byte is decoded as that byte. -/
theorem percentDecode_percentByte (byte : UInt8) (rest : List Char) :
    percentDecode (percentByte byte ++ rest) = byte :: percentDecode rest := by
  have size := byte.toNat_lt
  -- The two digits are the halves of the byte.
  have halves : byte.toNat / 16 * 16 + byte.toNat % 16 = byte.toNat := Nat.div_add_mod' _ _
  simp only [percentByte, List.cons_append, List.nil_append, percentDecode]
  rw [hexValue?_hexDigit _ (by omega), hexValue?_hexDigit _ (by omega)]
  simp only [halves, Nat.toUInt8, UInt8.ofNat_toNat]

/-- The characters that a byte is written as. -/
def encodedByte (byte : UInt8) : List Char :=
  if isUnreserved byte then [Char.ofNat byte.toNat] else percentByte byte

/-- A value is written byte by byte. -/
theorem toList_encode (value : String) :
    (encode value).toList = (Utf8.encode value).flatMap encodedByte := by
  -- `encodedByte` is the function that stands in the definition.
  rw [encode, String.toList_ofList]
  rfl

/-- Each digit of a percent-encoded byte is a plain character. -/
theorem isPlain_hexDigit : ∀ value < 16, IsPlain (hexDigit value) := by
  decide

/-- A written byte is plain but for percent signs. -/
theorem isPlain_of_mem_encodedByte {byte : UInt8} {c : Char} (member : c ∈ encodedByte byte) :
    c = '%' ∨ IsPlain c := by
  have size := byte.toNat_lt
  rw [encodedByte] at member
  split at member
  case isTrue unreserved =>
    -- The only character is the byte itself, which may stand in a query string.
    rw [List.mem_singleton.mp member]
    exact .inr (isPlain_of_isUnreserved byte unreserved).1
  case isFalse =>
    -- The percent sign itself is the only exception.
    simp only [percentByte, List.mem_cons, List.not_mem_nil, or_false] at member
    rcases member with rfl | rfl | rfl
    · exact .inl rfl
    · exact .inr (isPlain_hexDigit _ (by omega))
    · exact .inr (isPlain_hexDigit _ (by omega))

/-- An encoded value is plain but for percent signs. -/
theorem isPlain_of_mem_encode {value : String} {c : Char} (member : c ∈ (encode value).toList) :
    c = '%' ∨ IsPlain c := by
  rw [toList_encode] at member
  -- The character belongs to one of the written bytes.
  obtain ⟨byte, -, member⟩ := List.mem_flatMap.mp member
  exact isPlain_of_mem_encodedByte member

/-- Written bytes are decoded as those bytes. -/
theorem percentDecode_flatMap_encodedByte (bytes : Bytes) :
    percentDecode (bytes.flatMap encodedByte) = bytes := by
  induction bytes with
  | nil => rfl
  | cons byte bytes ih =>
    rw [List.flatMap_cons, encodedByte]
    split
    case isTrue unreserved =>
      -- A byte that was left alone is the one byte of its character.
      obtain ⟨plain, code⟩ := isPlain_of_isUnreserved byte unreserved
      rw [List.singleton_append, percentDecode_cons plain.2.1, encodeChar_of_lt plain.1, code, ih]
      simp [Nat.toUInt8]
    -- Any other byte was written as a percent sign and two digits.
    case isFalse => rw [percentDecode_percentByte, ih]

/-- Without pluses a form value is decoded as it stands. -/
theorem decode_of_forall_ne {value : List Char} (plain : ∀ c ∈ value, c ≠ '+') :
    decode value = Utf8.decodeLossy (percentDecode value) := by
  -- No plus is turned into a space, so nothing is changed before the decoding.
  have same : value.map (fun c => if c = '+' then ' ' else c) = value := by
    rw [List.map_congr_left (g := id), List.map_id]
    intro c member
    rw [if_neg (plain c member), id]
  rw [decode, same]

/-- A value that was encoded is decoded as that value. -/
theorem decode_encode (value : String) : decode (encode value).toList = value := by
  -- The percent signs and digits give back the bytes, and the bytes the characters.
  rw [decode_of_forall_ne, toList_encode, percentDecode_flatMap_encodedByte,
    Utf8.decodeLossy_encode]
  -- A space is not written as a plus, so no plus stands for one.
  intro c member
  rcases isPlain_of_mem_encode member with rfl | plain
  · decide
  · exact plain.2.2.1

/-- A text of plain characters is decoded as itself. -/
theorem decode_of_isPlain {value : List Char} (plain : ∀ c ∈ value, IsPlain c) :
    decode value = String.ofList value := by
  -- Nothing is decoded, so the bytes are those of the text.
  have bytes : percentDecode value = Utf8.encode (String.ofList value) := by
    rw [Utf8.encode, String.toList_ofList]
    induction value with
    | nil => rfl
    | cons c value ih =>
      rw [List.forall_mem_cons] at plain
      rw [percentDecode_cons plain.1.2.1, ih plain.2, List.flatMap_cons]
  -- The bytes are read back as the text that they are the bytes of.
  rw [decode_of_forall_ne fun c member => (plain c member).2.2.1, bytes,
    Utf8.decodeLossy_encode]

/-! ## Fields -/

/-- A text without a separator is one part. -/
theorem splitAt_of_notMem {separator : Char} {part : List Char} (absent : separator ∉ part) :
    splitAt separator part = [part] := by
  -- No character ends the part that it belongs to.
  induction part with
  | nil => rfl
  | cons c part ih =>
    rw [List.mem_cons, not_or] at absent
    rw [splitAt, ih absent.2]
    exact if_neg fun same => absent.1 same.symm

/-- A separator parts what stands before it from what stands after it. -/
theorem splitAt_append (separator : Char) (first second : List Char) :
    splitAt separator (first ++ separator :: second)
      = splitAt separator first ++ splitAt separator second := by
  -- There is always a first part, to which a character in front is added.
  have someParts : ∀ text, ∃ part parts, splitAt separator text = part :: parts := by
    intro text
    cases text with
    | nil => exact ⟨_, _, rfl⟩
    | cons c text =>
      rw [splitAt]
      split
      · exact ⟨_, _, rfl⟩
      · split <;> exact ⟨_, _, rfl⟩
  induction first with
  | nil =>
    obtain ⟨part, parts, split⟩ := someParts second
    -- The separator stands in front, so the part before it is empty.
    simp [splitAt, split]
  | cons c first ih =>
    -- Whether the character is a separator or goes on with the first part, both sides do the same.
    obtain ⟨part, parts, split⟩ := someParts first
    rw [List.cons_append, splitAt, ih, splitAt, split]
    by_cases same : c = separator <;> simp [same]

/-- Parts with a separator between each two are split into those parts again. -/
theorem splitAt_intercalate {separator : Char} {parts : List (List Char)}
    (absent : ∀ part ∈ parts, separator ∉ part) (nonempty : parts ≠ []) :
    splitAt separator ([separator].intercalate parts) = parts := by
  induction parts with
  | nil => exact absurd rfl nonempty
  | cons part parts ih =>
    rw [List.forall_mem_cons] at absent
    have single := splitAt_of_notMem absent.1
    cases parts with
    -- A single part has no separator behind it.
    | nil => rw [List.intercalate_singleton, single]
    | cons next parts =>
      -- The first separator is the one behind the first part.
      rw [List.intercalate_cons_cons, List.append_assoc, List.singleton_append, splitAt_append,
        single, ih absent.2 (List.cons_ne_nil _ _), List.singleton_append]

/-- The first equals sign parts a field's name from its value. -/
theorem field_append {name : List Char} (absent : '=' ∉ name) (value : List Char) :
    field (name ++ '=' :: value) = (decode name, decode value) := by
  -- The name is the run of characters before the equals sign.
  have front : ∀ c ∈ name, decide (c ≠ '=') = true := fun c member => by
    simpa using fun same : c = '=' => absent (same ▸ member)
  rw [field, List.takeWhile_append_of_pos front, List.dropWhile_append_of_pos front]
  -- What is left in front of the value is the equals sign, which is dropped.
  simp

end RoomAir.Form
