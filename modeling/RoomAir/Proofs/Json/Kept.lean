import RoomAir.Proofs.Json.ReadBack

/-! Values in scripts are read back, also by the reader that limits depth and rounds twice. -/

namespace RoomAir.Json

/-! ## Whole numbers -/

section Whole

variable {depth : Nat} {rest : Bytes}

/-- Digits that stay below the limit are gathered into the number that they spell. -/
theorem gather_digits {digits : List Char} {start : Nat} (all : ∀ c ∈ digits, c.isDigit = true)
    (fits : Nat.ofDigitChars 10 digits start ≤ significandLimit) :
    gather start (digits.map ascii) = (Nat.ofDigitChars 10 digits start, 0) := by
  induction digits generalizing start with
  -- Without digits there is nothing to gather.
  | nil => rfl
  | cons c digits ih =>
    rw [List.forall_mem_cons] at all
    rw [Nat.ofDigitChars_cons] at fits ⊢
    -- The byte of a digit has the value that the character has.
    have value : digitValue (ascii c) = c.toNat - '0'.toNat := of_isDigit all.1 (by decide)
    -- The digits that come later only add to what has been gathered.
    have below : 10 * start + (c.toNat - '0'.toNat) ≤ significandLimit := by
      rw [Nat.ofDigitChars_eq_ofDigitChars_zero] at fits
      have power : 0 < 10 ^ digits.length := Nat.pow_pos (by decide)
      have grows := Nat.le_mul_of_pos_left (10 * start + (c.toNat - '0'.toNat)) power
      omega
    rw [List.map_cons, gather, value, Nat.mul_comm start, if_neg (Nat.not_lt.mpr below),
      ih all.2 fits]

/-- A whole number ends where nothing of a number follows. -/
theorem readAfterWhole_of_ends (negative : Bool) (value : Nat) (ends : EndsRun isNumberByte rest) :
    readAfterWhole negative value 0 rest = .ok (wholeNumber negative value, rest) := by
  cases rest with
  -- Nothing follows, so the number is a whole one.
  | nil => rfl
  | cons byte later =>
    -- What follows is neither a point nor the mark of an exponent.
    have other := (endsRun_isNumberByte ends).2 byte rfl
    rw [readAfterWhole, if_neg (ne_true_of_eq_false other.1),
      if_neg (ne_true_of_eq_false other.2), readWhole, if_pos rfl]

/-- A whole number of 64 bits is read as that number. -/
theorem takesNumber_toDigits (negative : Bool) {value : Nat} (fits : value ≤ significandLimit) :
    TakesNumber (readNumber negative) ((Nat.toDigits 10 value).map ascii)
      (wholeNumber negative value) := by
  intro rest ends
  -- What ends the number ends its digits first of all.
  have digitsEnd := (endsRun_isNumberByte ends).1
  rcases Nat.eq_zero_or_pos value with rfl | positive
  -- A zero stands alone.
  · exact (readNumber_zero rfl digitsEnd).trans (readAfterWhole_of_ends negative 0 ends)
  · have all : ∀ c ∈ Nat.toDigits 10 value, c.isDigit = true :=
      fun _ member => isDigit_of_mem_toDigits member
    have allBytes : ∀ byte ∈ (Nat.toDigits 10 value).map ascii, isDigit byte = true :=
      List.forall_mem_map.mpr fun c member => of_isDigit (all c member) (by decide)
    -- All digits together make up the number again, and none of them is left over.
    have gathered : gather 0 ((Nat.toDigits 10 value).map ascii) = (value, 0) := by
      rw [gather_digits all (by rwa [Nat.ofDigitChars_ten_toDigits]),
        Nat.ofDigitChars_ten_toDigits]
    have whole := takeWhile_run allBytes digitsEnd
    have after := dropWhile_run allBytes digitsEnd
    obtain ⟨digit, more, same, nonzero⟩ := exists_toDigits_eq_cons positive
    rw [same, List.map_cons] at whole after gathered allBytes ⊢
    -- The first digit is no zero, so all digits are gathered.
    have noZero : (ascii digit == ascii '0') = false := by
      have checked : digit ≠ '0' → (ascii digit == ascii '0') = false :=
        of_isDigit (all digit (by rw [same]; exact List.mem_cons_self ..)) (by decide)
      exact checked nonzero
    rw [List.cons_append] at whole after ⊢
    simp only [readNumber, noZero, Bool.false_eq_true, if_false,
      allBytes _ (List.mem_cons_self ..), if_true, whole, after, gathered]
    -- Nothing follows the digits, so the number is a whole one.
    exact readAfterWhole_of_ends negative value ends

/-- Whole numbers are read back if they fit 64 bits, with or without a sign. -/
theorem readsBack_integer {value : Int} (low : -2 ^ 63 ≤ value) (high : value < 2 ^ 64) :
    ReadsBack depth (.integer value) := by
  intro bytes written
  -- There is no stroke in a number, so it is written in one way only.
  have none : '/' ∉ integerChars value :=
    stroke_notMem_of_isNumberChar fun _ => isNumberChar_of_mem_integerChars
  have same : bytes = (integerChars value).flatMap Utf8.encodeChar := written.eq_of_notMem none
  -- Each digit is one byte.
  have small (c : Char) (member : c ∈ Nat.toDigits 10 value.natAbs) : c.toNat < 0x80 :=
    (isNumberByte_ascii (.inl (isDigit_of_mem_toDigits member))).1
  rw [same, integerChars]
  split
  case isTrue below =>
    -- The sign is followed by the digits of the magnitude.
    have digits := takesNumber_toDigits true
      (show value.natAbs ≤ significandLimit by rw [significandLimit]; omega)
    -- The reader keeps it as an integer, being no less than the smallest one.
    have signed : wholeNumber true value.natAbs = .integer value := by
      rw [wholeNumber, if_neg (by decide), if_pos (by omega)]
      congr 1
      omega
    rw [signed] at digits
    rw [List.flatMap_cons, flatMap_encodeChar_of_ascii small]
    exact .scalar rfl (by decide) (by decide) digits
  case isFalse above =>
    -- Without a sign the digits are those of the number itself.
    have digits := takesNumber_toDigits false
      (show value.natAbs ≤ significandLimit by rw [significandLimit]; omega)
    have unsigned : wholeNumber false value.natAbs = .integer value := by
      rw [wholeNumber, if_pos (by decide)]
      congr 1
      omega
    rw [unsigned] at digits
    rw [flatMap_encodeChar_of_ascii small]
    -- The first digit is looked at to see which kind of value begins.
    obtain ⟨digit, more, cons⟩ := List.exists_cons_of_ne_nil
      (Nat.toDigits_ne_nil : Nat.toDigits 10 value.natAbs ≠ [])
    have isDigit : digit.isDigit = true :=
      isDigit_of_mem_toDigits (cons ▸ List.mem_cons_self ..)
    -- A digit begins neither white space nor a list.
    have token : isSpace (ascii digit) = false ∧ ascii digit ≠ ascii '['
        ∧ ascii digit ≠ ascii '\x7b' := of_isDigit isDigit (by decide)
    rw [cons, List.map_cons] at digits ⊢
    refine .scalar token.1 token.2.1 token.2.2 fun rest ends => ?_
    rw [readScalar_digit isDigit]
    exact digits rest ends

end Whole

/-! ## Values of any shape -/

/-- Values whose numbers are kept, with lists that nest less deep than some depth. -/
inductive Kept : Nat → Json → Prop where
  | null {depth : Nat} : Kept depth .null
  | bool {depth : Nat} (value : Bool) : Kept depth (.bool value)
  | integer {depth : Nat} {value : Int} (low : -2 ^ 63 ≤ value) (high : value < 2 ^ 64) :
    Kept depth (.integer value)
  | number {depth : Nat} {x : Double} (survives : Survives x) : Kept depth (.number x)
  | string {depth : Nat} (text : String) : Kept depth (.string text)
  | array {depth : Nat} {items : List Json} (deep : 1 < depth)
    (each : ∀ item ∈ items, Kept (depth - 1) item) : Kept depth (.array items)
  | object {depth : Nat} {members : List (String × Json)} (deep : 1 < depth)
    (each : ∀ member ∈ members, Kept (depth - 1) member.2) : Kept depth (.object members)

variable {depth : Nat} {value : Json}

/-- Truth values are read back, each as its own word. -/
theorem readsBack_bool (value : Bool) : ReadsBack depth (.bool value) := by
  intro bytes written
  -- The words have no stroke in them, so each is written in one way.
  cases value with
  | true =>
    rw [written.eq_of_notMem (by decide)]
    have word : TakesNumber (readScalar readNumber (ascii 't'))
      ("rue".toList.flatMap Utf8.encodeChar) (.bool true) := fun rest _ => rfl
    exact .scalar rfl (by decide) (by decide) word
  | false =>
    rw [written.eq_of_notMem (by decide)]
    have word : TakesNumber (readScalar readNumber (ascii 'f'))
      ("alse".toList.flatMap Utf8.encodeChar) (.bool false) := fun rest _ => rfl
    exact .scalar rfl (by decide) (by decide) word

/-- An array is read back where its items are. -/
theorem readsBack_array {items : List Json} (deep : 1 < depth)
    (readBack : ∀ item ∈ items, ReadsBack (depth - 1) item) : ReadsBack depth (.array items) := by
  -- Only the content between the two brackets is left to be read.
  intro bytes written
  rw [chars] at written
  obtain ⟨inner, rfl, content⟩ := written.enclosed (by decide) (by decide)
  exact .array deep (takes_inArray readBack content)

/-- Kept values are read back, by induction on how they are kept. -/
theorem Kept.readsBack (kept : Kept depth value) : ReadsBack depth value := by
  -- Each kind of value has its lemma, and lists use that their items are read back.
  induction kept with
  | null => exact readsBack_null
  | bool value => exact readsBack_bool value
  | integer low high => exact readsBack_integer low high
  | number survives => exact readsBack_number survives
  | string text => exact readsBack_string text
  | array deep _ readBack => exact readsBack_array deep readBack
  | object deep _ readBack => exact readsBack_object deep readBack

/-- The text of a kept value in a script element is a document that is the value. -/
theorem Kept.isDocument_scriptText (kept : Kept depthLimit value) :
    IsDocument (Utf8.encode value.scriptText) value := by
  -- Backslashes before some strokes are what a written value may have.
  have written : Written value.chars (Utf8.encode value.scriptText) :=
    ⟨breakClosingTags value.chars, .breakClosingTags value.chars, by
      rw [Utf8.encode, scriptText, String.toList_ofList]⟩
  -- The reader is given three steps for each byte, and all levels that it allows.
  have read := kept.readsBack _ written (stepsFor (Utf8.encode value.scriptText)) depthLimit []
    (Nat.le_add_right _ _) (Nat.le_refl _) (endsRun_nil _)
  rw [List.append_nil] at read
  rw [IsDocument, Json.read, read]
  rfl

end RoomAir.Json
