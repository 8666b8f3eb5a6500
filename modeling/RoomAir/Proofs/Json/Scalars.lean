import RoomAir.Proofs.Json.Numbers
import RoomAir.Proofs.Json.Strings

/-! JSON values that hold no other values read back as the values they were. -/

namespace RoomAir.Json

/-! ## What values begin with -/

/-- A character that a value may begin with. -/
def Opens (c : Char) : Prop :=
  c.isDigit = true ∨ c ∈ ['n', 't', 'f', '-', '"', '[', '\x7b']

/-- What a value begins with is a mark that separates and closes nothing. -/
theorem Opens.isMark {c : Char} (opens : Opens c) :
    IsMark c ∧ isSpace (ascii c) = false ∧ ascii c ≠ ascii ']' := by
  -- There are ten digits and seven other characters to look at.
  have words : ∀ c ∈ ['n', 't', 'f', '-', '"', '[', '\x7b'],
      IsMark c ∧ isSpace (ascii c) = false ∧ ascii c ≠ ascii ']' :=
    forall_mem_of_all (by decide)
  rcases opens with digit | word
  · exact of_isDigit digit (by decide)
  · exact words c word

/-- What spells a number begins with a digit. -/
theorem exists_of_numberText? {round : Decimal → Option Json} {negative : Bool}
    {text : List Char} {value : Json} (spells : numberText? round negative text = some value) :
    ∃ digit more, text = digit :: more ∧ digit.isDigit = true := by
  rw [numberText?] at spells
  cases text with
  -- Without any character there is no whole part.
  | nil => simp [isWholePart] at spells
  | cons c more =>
    -- Anything else in front would leave no digits before the point.
    refine ⟨c, more, rfl, ?_⟩
    by_contra other
    simp [other, isWholePart] at spells

/-- A whole number without its sign spells itself. -/
theorem numberText?_toDigits (round : Decimal → Option Json) (negative : Bool) (value : Nat) :
    numberText? round negative (Nat.toDigits 10 value)
      = some (.integer (if negative then -(value : Int) else value)) := by
  -- All characters are digits, so nothing is left for a fraction or an exponent.
  have all : ∀ c ∈ Nat.toDigits 10 value, c.isDigit = true := fun _ => isDigit_of_mem_toDigits
  have whole := takeWhile_run all (endsRun_nil _)
  have rest := dropWhile_run all (endsRun_nil _)
  -- The only digits with a zero in front are those of zero itself.
  have strict : isWholePart (Nat.toDigits 10 value) = true := by
    rcases Nat.eq_zero_or_pos value with rfl | positive
    · rfl
    · simpa using isWholePart_toDigits positive []
  rw [List.append_nil] at whole rest
  simp only [numberText?, whole, rest, strict, digitsValue_toDigits]
  rfl

/-- The text of a double without its sign spells the double. -/
theorem numberText?_shortest (x : Double) :
    numberText? (nearest? x.negative) x.negative (Decimal.shortest .toEven x).jsonChars
      = some (.number x) := by
  -- The shortest digits are rounded to the double that they were made for.
  rw [numberText?_jsonChars (roundsByValue_nearest? x.negative), nearest?,
    Decimal.ofDecimal?_shortest, Option.map_some]

/-- The text of a value begins with what opens a value. -/
theorem exists_chars_eq_cons (value : Json) : ∃ c more, value.chars = c :: more ∧ Opens c := by
  -- The digits of a number begin with one of ten characters.
  have digits (value : Nat) : ∃ c more, Nat.toDigits 10 value = c :: more ∧ Opens c := by
    obtain ⟨digit, more, same, isDigit⟩ :=
      exists_of_numberText? (numberText?_toDigits (nearest? false) false value)
    exact ⟨digit, more, same, .inl isDigit⟩
  cases value with
  -- Words, strings and lists begin with a character of their own.
  | null => exact ⟨'n', _, rfl, .inr (by decide)⟩
  | bool value =>
    cases value
    · exact ⟨'f', _, rfl, .inr (by decide)⟩
    · exact ⟨'t', _, rfl, .inr (by decide)⟩
  | integer value =>
    -- A number begins with its sign or with its first digit.
    rw [chars, integerChars]
    split
    · exact ⟨'-', _, rfl, .inr (by decide)⟩
    · exact digits _
  | number x =>
    -- A negative number begins with its sign, any other with its digits.
    rw [chars, Double.jsonText, String.toList_ofList, Double.signText]
    split
    · exact ⟨'-', _, rfl, .inr (by decide)⟩
    · obtain ⟨digit, more, same, isDigit⟩ := exists_of_numberText? (numberText?_shortest x)
      exact ⟨digit, more, same, .inl isDigit⟩
  | string value => exact ⟨'"', _, rfl, .inr (by decide)⟩
  | array items => exact ⟨'[', _, rfl, .inr (by decide)⟩
  | object members => exact ⟨'\x7b', _, rfl, .inr (by decide)⟩

/-- The bytes of a written value begin with one that separates and closes nothing. -/
theorem exists_bytes_eq_cons {value : Json} {bytes : Bytes}
    (written : Written value.chars bytes) :
    ∃ byte more, bytes = byte :: more ∧ isSpace byte = false ∧ byte ≠ ascii ']' := by
  -- What opens a value is never a stroke, so it is written as it is.
  obtain ⟨c, more, same, opens⟩ := exists_chars_eq_cons value
  obtain ⟨isMark, token⟩ := opens.isMark
  rw [same] at written
  obtain ⟨later, rfl, -⟩ := written.cons isMark
  exact ⟨ascii c, later, rfl, token⟩

/-! ## Reading them -/

section Scalars

variable {fuel depth : Nat} {text : List Char} {value : Json} {bytes rest : Bytes}

/-- Where there is no white space none is skipped. -/
theorem skipSpace_cons {byte : UInt8} (token : isSpace byte = false) (rest : Bytes) :
    skipSpace (byte :: rest) = byte :: rest := by
  -- The first byte is the one that is no white space.
  rw [skipSpace, List.dropWhile_cons_of_neg (by simp [token])]

/-- A byte that opens no list begins a value that holds no other value. -/
theorem readValue_scalar {numbers : NumberReader} {byte : UInt8} (token : isSpace byte = false)
    (notArray : byte ≠ ascii '[') (notObject : byte ≠ ascii '\x7b') (bytes : Bytes) :
    readValue numbers (fuel + 1) depth (byte :: bytes) = readScalar numbers byte bytes := by
  -- The byte is compared with the two that open lists, and then left to the values without parts.
  rw [readValue, skipSpace_cons token]
  dsimp only
  rw [if_neg (by simpa using notArray), if_neg (by simpa using notObject)]

/-- A value that begins with a digit is a number without a sign. -/
theorem readScalar_digit {numbers : NumberReader} {c : Char} (digit : c.isDigit = true)
    (bytes : Bytes) : readScalar numbers (ascii c) bytes = numbers false (ascii c :: bytes) := by
  -- A digit begins none of the words, and it is no sign either.
  have marks : (ascii c == ascii 'n') = false ∧ (ascii c == ascii 't') = false
      ∧ (ascii c == ascii 'f') = false ∧ (ascii c == ascii '-') = false
      ∧ isDigit (ascii c) = true := of_isDigit digit (by decide)
  simp only [readScalar, marks, Bool.false_eq_true, if_false, if_true]

/-- A number without a sign is read up to its end. -/
theorem readValue_unsigned (inNumber : ∀ c ∈ text, IsNumberChar c)
    (spells : numberText? (nearest? false) false text = some value)
    (ends : EndsRun isNumberByte rest) :
    readValue readExactNumber (fuel + 1) depth (text.flatMap Utf8.encodeChar ++ rest)
      = .ok (value, rest) := by
  -- The reader of numbers would take the whole text.
  have read := readExactNumber_append inNumber spells ends
  obtain ⟨digit, more, rfl, isDigit⟩ := exists_of_numberText? spells
  obtain ⟨isMark, token, -⟩ := Opens.isMark (.inl isDigit)
  -- A digit opens neither an array nor an object.
  have notList : ascii digit ≠ ascii '[' ∧ ascii digit ≠ ascii '\x7b' :=
    of_isDigit isDigit (by decide)
  -- Its first byte leads to the reader of numbers, which begins with that byte again.
  rw [List.flatMap_cons, Form.encodeChar_of_lt isMark.1, List.append_assoc,
    List.singleton_append] at read ⊢
  rw [readValue_scalar token notList.1 notList.2, readScalar_digit isDigit]
  exact read

/-- A number after a minus sign is read up to its end. -/
theorem readValue_minus (inNumber : ∀ c ∈ text, IsNumberChar c)
    (spells : numberText? (nearest? true) true text = some value)
    (ends : EndsRun isNumberByte rest) :
    readValue readExactNumber (fuel + 1) depth (('-' :: text).flatMap Utf8.encodeChar ++ rest)
      = .ok (value, rest) := by
  -- The first byte is the sign, and the reader of numbers takes what stands behind it.
  rw [← readExactNumber_append inNumber spells ends, List.flatMap_cons, List.append_assoc]
  exact readValue_scalar rfl (by decide) (by decide) _

/-- A whole number is read back. -/
theorem readValue_integer (value : Int) (ends : EndsRun isNumberByte rest) :
    readValue readExactNumber (fuel + 1) depth
      ((integerChars value).flatMap Utf8.encodeChar ++ rest) = .ok (.integer value, rest) := by
  -- The digits of the magnitude may all stand in a number.
  have inNumber : ∀ c ∈ Nat.toDigits 10 value.natAbs, IsNumberChar c :=
    fun _ member => .inl (isDigit_of_mem_toDigits member)
  rw [integerChars]
  -- The digits are those of the magnitude, from which the sign brings the number back.
  split
  case isTrue below =>
    have same : -(value.natAbs : Int) = value := by omega
    have spells := numberText?_toDigits (nearest? true) true value.natAbs
    rw [if_pos rfl, same] at spells
    exact readValue_minus inNumber spells ends
  case isFalse above =>
    have same : (value.natAbs : Int) = value := by omega
    have spells := numberText?_toDigits (nearest? false) false value.natAbs
    rw [if_neg Bool.false_ne_true, same] at spells
    exact readValue_unsigned inNumber spells ends

/-- A double is read back, its sign included. -/
theorem readValue_double (x : Double) (ends : EndsRun isNumberByte rest) :
    readValue readExactNumber (fuel + 1) depth (x.jsonText.toList.flatMap Utf8.encodeChar ++ rest)
      = .ok (.number x, rest) := by
  have inNumber : ∀ c ∈ (Decimal.shortest .toEven x).jsonChars,
      IsNumberChar c := fun _ => Decimal.isNumberChar_of_mem_jsonChars
  -- The sign is handed to the reader apart from the text.
  have spells := numberText?_shortest x
  rw [Double.jsonText, String.toList_ofList, Double.signText]
  -- Even a zero keeps its sign.
  cases sign : x.negative with
  | true =>
    rw [sign] at spells
    exact readValue_minus inNumber spells ends
  | false =>
    rw [sign] at spells
    exact readValue_unsigned inNumber spells ends

/-- A string is read back. -/
theorem readValue_string {text : String} (written : Written (quotedChars text) bytes) :
    readValue readExactNumber (fuel + 1) depth (bytes ++ rest) = .ok (.string text, rest) := by
  -- After the opening quote the reader of strings takes over.
  obtain ⟨inner, rfl, read⟩ := exists_quoted_bytes written
  rw [List.cons_append, readValue_scalar rfl (by decide) (by decide)]
  change (readString _).bind _ = _
  rw [read]
  rfl

/-- Digits and the marks of a number leave no place for a stroke. -/
theorem stroke_notMem_of_isNumberChar (inNumber : ∀ c ∈ text, IsNumberChar c) :
    '/' ∉ text := by
  -- A stroke is neither a digit nor one of the marks.
  intro member
  exact absurd (inNumber _ member) (by decide)

/-- A written value that holds no other value is read back. -/
theorem readValue_flat (written : Written value.chars bytes)
    (noArray : ∀ items, value ≠ .array items) (noObject : ∀ members, value ≠ .object members)
    (ends : EndsRun isNumberByte rest) :
    readValue readExactNumber (fuel + 1) depth (bytes ++ rest) = .ok (value, rest) := by
  cases value with
  | null =>
    -- The words have no stroke in them either, and their first letter tells them apart.
    rw [written.eq_of_notMem (by decide)]
    exact readValue_scalar (show isSpace (ascii 'n') = false from rfl) (by decide) (by decide) _
  | bool value =>
    cases value with
    | false =>
      rw [written.eq_of_notMem (by decide)]
      exact readValue_scalar (show isSpace (ascii 'f') = false from rfl) (by decide) (by decide) _
    | true =>
      rw [written.eq_of_notMem (by decide)]
      exact readValue_scalar (show isSpace (ascii 't') = false from rfl) (by decide) (by decide) _
  | integer value =>
    -- No number has a stroke in it, so there is one way to write it.
    have none : '/' ∉ integerChars value :=
      stroke_notMem_of_isNumberChar fun _ => isNumberChar_of_mem_integerChars
    rw [written.eq_of_notMem none]
    exact readValue_integer value ends
  | number x =>
    have none : '/' ∉ x.jsonText.toList :=
      stroke_notMem_of_isNumberChar fun _ => isNumberChar_of_mem_jsonText
    rw [written.eq_of_notMem none]
    exact readValue_double x ends
  | string text => exact readValue_string written
  -- Lists are excluded.
  | array items => exact absurd rfl (noArray items)
  | object members => exact absurd rfl (noObject members)

end Scalars

end RoomAir.Json
