import RoomAir.Json.Reader
import RoomAir.Proofs.Text.Form

/-! JSON strings that were written read back, whether or not their strokes are escaped. -/

namespace RoomAir.Json

/-- A text as it is written with a backslash before some of its strokes. -/
inductive StrokeEscaped : List Char → List Char → Prop where
  | nil : StrokeEscaped [] []
  | same (c : Char) {text written : List Char} :
    StrokeEscaped text written → StrokeEscaped (c :: text) (c :: written)
  | stroke {text written : List Char} :
    StrokeEscaped text written → StrokeEscaped ('/' :: text) ('\\' :: '/' :: written)

namespace StrokeEscaped

/-- A text may be written as it is. -/
theorem refl (text : List Char) : StrokeEscaped text text := by
  -- Character by character none gets a backslash.
  induction text with
  | nil => exact .nil
  | cons c text ih => exact .same c ih

/-- Only the strokes of closing tags get a backslash from the writer. -/
theorem breakClosingTags (text : List Char) : StrokeEscaped text (breakClosingTags text) := by
  -- The cases are those of the writer, which looks at two characters at once.
  induction text using breakClosingTags.induct with
  | case1 => exact .nil
  | case2 rest ih =>
    rw [Json.breakClosingTags]
    exact .same '<' (.stroke ih)
  | case3 c rest open_ ih =>
    rw [Json.breakClosingTags]
    · exact .same c ih
    · exact open_

/-- A text without strokes is written as it is. -/
theorem eq_of_notMem {text written : List Char} (escaped : StrokeEscaped text written)
    (none : '/' ∉ text) : written = text := by
  induction escaped with
  -- Where nothing was written, nothing has a stroke.
  | nil => rfl
  | same c _ ih => rw [ih fun member => none (List.mem_cons_of_mem _ member)]
  | stroke => exact absurd List.mem_cons_self none

/-- The two parts of a text are written one after the other. -/
theorem append {first second written : List Char}
    (escaped : StrokeEscaped (first ++ second) written) :
    ∃ front back, written = front ++ back ∧ StrokeEscaped first front
      ∧ StrokeEscaped second back := by
  -- The first part is used up character by character, each with its backslash if it has one.
  induction first generalizing written with
  | nil => exact ⟨[], written, rfl, .nil, escaped⟩
  | cons c first ih =>
    rw [List.cons_append] at escaped
    cases escaped with
    | same _ later =>
      obtain ⟨front, back, rfl, firstEscaped, secondEscaped⟩ := ih later
      exact ⟨c :: front, back, rfl, .same c firstEscaped, secondEscaped⟩
    | stroke later =>
      obtain ⟨front, back, rfl, firstEscaped, secondEscaped⟩ := ih later
      exact ⟨'\\' :: '/' :: front, back, rfl, .stroke firstEscaped, secondEscaped⟩

/-- A text that begins with something other than a stroke is written with the same beginning. -/
theorem cons {c : Char} {text written : List Char} (other : c ≠ '/')
    (escaped : StrokeEscaped (c :: text) written) :
    ∃ later, written = c :: later ∧ StrokeEscaped text later := by
  -- Only a stroke can have got a backslash, and the first character is none.
  cases escaped with
  | same _ later => exact ⟨_, rfl, later⟩
  | stroke => exact absurd rfl other

end StrokeEscaped

/-- Bytes that a text is written as, whether or not its strokes are escaped. -/
def Written (text : List Char) (bytes : Bytes) : Prop :=
  ∃ escaped, StrokeEscaped text escaped ∧ escaped.flatMap Utf8.encodeChar = bytes

/-- A character that is one byte and needs no backslash. -/
def IsMark (c : Char) : Prop :=
  c.toNat < 0x80 ∧ c ≠ '/'

instance (c : Char) : Decidable (IsMark c) :=
  inferInstanceAs (Decidable (_ ∧ _))

namespace Written

variable {text first second : List Char} {bytes : Bytes}

/-- An empty text is written as no bytes. -/
theorem eq_nil (written : Written [] bytes) : bytes = [] := by
  -- Nothing is escaped as nothing, and nothing has no bytes.
  obtain ⟨escaped, same, rfl⟩ := written
  cases same
  rfl

/-- A text without strokes has one way to be written. -/
theorem eq_of_notMem (written : Written text bytes) (none : '/' ∉ text) :
    bytes = text.flatMap Utf8.encodeChar := by
  -- Without strokes the characters are written as they are, and each has its bytes.
  obtain ⟨escaped, same, rfl⟩ := written
  rw [same.eq_of_notMem none]

/-- The two parts of a text are written one after the other. -/
theorem append (written : Written (first ++ second) bytes) :
    ∃ front back, bytes = front ++ back ∧ Written first front ∧ Written second back := by
  -- The parts have their own backslashes, and their bytes stand one behind the other.
  obtain ⟨escaped, same, rfl⟩ := written
  obtain ⟨front, back, rfl, firstSame, secondSame⟩ := same.append
  exact ⟨_, _, List.flatMap_append, ⟨front, firstSame, rfl⟩, ⟨back, secondSame, rfl⟩⟩

/-- A text that begins with a mark is written with that mark in front. -/
theorem cons {mark : Char} (isMark : IsMark mark) (written : Written (mark :: text) bytes) :
    ∃ later, bytes = ascii mark :: later ∧ Written text later := by
  -- The mark is no stroke, so it has no backslash, and it is one byte.
  obtain ⟨escaped, same, rfl⟩ := written
  obtain ⟨later, rfl, after⟩ := same.cons isMark.2
  refine ⟨later.flatMap Utf8.encodeChar, ?_, later, after, rfl⟩
  rw [List.flatMap_cons, Form.encodeChar_of_lt isMark.1]
  rfl

/-- A mark between two texts is written between them. -/
theorem separated {mark : Char} (isMark : IsMark mark)
    (written : Written (first ++ mark :: second) bytes) :
    ∃ front back, bytes = front ++ ascii mark :: back ∧ Written first front
      ∧ Written second back := by
  -- Behind the first text stands what begins with the mark.
  obtain ⟨front, rest, rfl, before, marked⟩ := written.append
  obtain ⟨back, rfl, after⟩ := marked.cons isMark
  exact ⟨front, back, rfl, before, after⟩

/-- A text between two marks is written between them. -/
theorem enclosed {opening closing : Char} (opens : IsMark opening) (closes : IsMark closing)
    (written : Written (opening :: text ++ [closing]) bytes) :
    ∃ inner, bytes = ascii opening :: (inner ++ [ascii closing]) ∧ Written text inner := by
  -- Behind the opening mark stands the text and behind it the closing one.
  obtain ⟨later, rfl, after⟩ := written.cons opens
  obtain ⟨inner, back, rfl, content, nothing⟩ := after.separated closes
  rw [nothing.eq_nil]
  exact ⟨inner, rfl, content⟩

end Written

/-! ## Contents of strings -/

/-- Bytes are read up to a closing quote, given enough steps, as the content of a string. -/
def StringReads (bytes content rest : Bytes) : Prop :=
  ∀ fuel, bytes.length < fuel → readStringBytes fuel bytes = .ok (content, rest)

namespace StringReads

/-- The closing quote ends a string. -/
theorem quote (rest : Bytes) : StringReads (ascii '"' :: rest) [] rest := by
  -- One step sees the quote.
  intro fuel enough
  obtain ⟨fuel, rfl⟩ : ∃ steps, fuel = steps + 1 := ⟨fuel - 1, by omega⟩
  rfl

/-- A byte that is neither a quote nor a backslash nor a control stands for itself. -/
theorem plain {byte : UInt8} {bytes content rest : Bytes} (notQuote : byte ≠ ascii '"')
    (notBackslash : byte ≠ ascii '\\') (noControl : 0x20 ≤ byte.toNat)
    (reads : StringReads bytes content rest) :
    StringReads (byte :: bytes) (byte :: content) rest := by
  intro fuel enough
  -- One step takes the byte, and the bytes behind it are fewer.
  rw [List.length_cons] at enough
  obtain ⟨fuel, rfl⟩ : ∃ steps, fuel = steps + 1 := ⟨fuel - 1, by omega⟩
  have later := reads fuel (by omega)
  -- None of the three tests of the reader applies.
  have above : ¬ byte < 0x20 := by
    rw [UInt8.lt_iff_toNat_lt]
    exact Nat.not_lt.mpr noControl
  rw [readStringBytes, if_neg (beq_eq_false_iff_ne.mpr notQuote ▸ Bool.false_ne_true),
    if_neg (beq_eq_false_iff_ne.mpr notBackslash ▸ Bool.false_ne_true), if_neg above, later]
  rfl

/-- An escape stands for what it is read as. -/
theorem escape {after found bytes content rest : Bytes}
    (escaped : readEscape after = .ok (found, bytes)) (shorter : bytes.length ≤ after.length)
    (reads : StringReads bytes content rest) :
    StringReads (ascii '\\' :: after) (found ++ content) rest := by
  -- The reader goes on after what the escape took, which is shorter by the backslash at least.
  intro fuel enough
  rw [List.length_cons] at enough
  obtain ⟨fuel, rfl⟩ : ∃ steps, fuel = steps + 1 := ⟨fuel - 1, by omega⟩
  have later := reads fuel (by omega)
  rw [readStringBytes, if_neg (by decide), if_pos (by decide), escaped]
  simp only [bind, Except.bind, later]

/-- An escape of one letter stands for one byte. -/
theorem mark (letter byte : UInt8) {bytes content rest : Bytes}
    (escaped : ∀ after, readEscape (letter :: after) = .ok ([byte], after))
    (reads : StringReads bytes content rest) :
    StringReads (ascii '\\' :: letter :: bytes) (byte :: content) rest :=
  -- The letter is taken with its backslash, so what is left is shorter.
  .escape (escaped bytes) (Nat.le_succ _) reads

end StringReads

/-- A hexadecimal digit is read as its value, and none of them is a stroke. -/
theorem hexValue?_hexDigit : ∀ value < 16,
    hexValue? (ascii (hexDigit value)) = some value ∧ hexDigit value ≠ '/'
      ∧ (hexDigit value).toNat < 0x80 := by
  decide

/-- The escape of a control character stands for that character. -/
theorem readEscape_control {c : Char} (control : c.toNat < 0x20) (rest : Bytes) :
    readEscape (ascii 'u' :: ascii '0' :: ascii '0' :: ascii (hexDigit (c.toNat / 16))
      :: ascii (hexDigit (c.toNat % 16)) :: rest) = .ok (Utf8.encodeChar c, rest) := by
  -- Two zeros and the two halves of the code make up the code.
  have zero : hexValue? (ascii '0') = some 0 := by decide
  have high := (hexValue?_hexDigit (c.toNat / 16) (by omega)).1
  have low := (hexValue?_hexDigit (c.toNat % 16) (by omega)).1
  have whole : ((0 * 16 + 0) * 16 + c.toNat / 16) * 16 + c.toNat % 16 = c.toNat := by omega
  have code : readHex (ascii '0' :: ascii '0' :: ascii (hexDigit (c.toNat / 16))
      :: ascii (hexDigit (c.toNat % 16)) :: rest) = .ok (c.toNat, rest) := by
    simp only [readHex, zero, high, low, whole]
  have unicode : readUnicode (ascii '0' :: ascii '0' :: ascii (hexDigit (c.toNat / 16))
      :: ascii (hexDigit (c.toNat % 16)) :: rest) = .ok (Utf8.encodeChar c, rest) := by
    rw [readUnicode, code]
    simp only [bind, Except.bind]
    -- The code of a control character is far below the surrogates.
    rw [if_neg (by omega), if_pos (by omega), Char.ofNat_toNat]
  rw [← unicode]
  rfl

/-- Every byte of a character that is not ASCII lies outside of ASCII. -/
theorem le_of_mem_encodeChar {c : Char} (wide : 0x80 ≤ c.toNat) {byte : UInt8}
    (member : byte ∈ Utf8.encodeChar c) : 0x80 ≤ byte.toNat := by
  -- The codes of characters end below this number.
  have scalar : c.toNat < 0x110000 := by
    have := c.valid
    simp only [UInt32.isValidChar, Nat.isValidChar] at this
    change c.val.toNat < 0x110000
    omega
  simp only [Utf8.encodeChar] at member
  -- Leading and continuation bytes alike have their upper bit set.
  generalize c.toNat = code at *
  rw [if_neg (by omega)] at member
  split at member
  · simp only [List.mem_cons, List.not_mem_nil, or_false] at member
    rcases member with rfl | rfl <;> rw [Utf8.toNat_toUInt8 (by omega)] <;> omega
  · split at member
    · simp only [List.mem_cons, List.not_mem_nil, or_false] at member
      rcases member with rfl | rfl | rfl <;> rw [Utf8.toNat_toUInt8 (by omega)] <;> omega
    · simp only [List.mem_cons, List.not_mem_nil, or_false] at member
      rcases member with rfl | rfl | rfl | rfl <;> rw [Utf8.toNat_toUInt8 (by omega)] <;> omega

/-- A character that needs no escape is read as its bytes. -/
theorem StringReads.char {c : Char} {bytes content rest : Bytes} (notQuote : c ≠ '"')
    (notBackslash : c ≠ '\\') (noControl : 0x20 ≤ c.toNat)
    (reads : StringReads bytes content rest) :
    StringReads (Utf8.encodeChar c ++ bytes) (Utf8.encodeChar c ++ content) rest := by
  -- What one byte needs, all bytes of the character have.
  have all (part : Bytes) (each : ∀ byte ∈ part, byte ≠ ascii '"' ∧ byte ≠ ascii '\\'
      ∧ 0x20 ≤ byte.toNat) : StringReads (part ++ bytes) (part ++ content) rest := by
    induction part with
    | nil => exact reads
    | cons byte part ih =>
      rw [List.forall_mem_cons] at each
      exact .plain each.1.1 each.1.2.1 each.1.2.2 (ih each.2)
  apply all
  intro byte member
  rcases Nat.lt_or_ge c.toNat 0x80 with small | wide
  · -- The one byte of an ASCII character is its code.
    rw [Form.encodeChar_of_lt small, List.mem_singleton] at member
    have size : byte.toNat = c.toNat := by
      rw [member, Utf8.toNat_toUInt8 (by omega)]
    refine ⟨?_, ?_, size ▸ noControl⟩
    · rintro rfl
      exact notQuote (Char.toNat_inj.mp (show c.toNat = '"'.toNat from size.symm))
    · rintro rfl
      exact notBackslash (Char.toNat_inj.mp (show c.toNat = '\\'.toNat from size.symm))
  · -- The quote, the backslash and the controls are all ASCII.
    have outside := le_of_mem_encodeChar wide member
    refine ⟨?_, ?_, by omega⟩
    · rintro rfl
      exact absurd outside (by decide)
    · rintro rfl
      exact absurd outside (by decide)

/-- Only a stroke is written with a stroke. -/
theorem stroke_notMem_escapeChar {c : Char} (other : c ≠ '/') : '/' ∉ escapeChar c := by
  -- Most characters are spelled by fixed marks, which are looked at.
  unfold escapeChar
  repeat' split
  any_goals decide
  · -- The digits of a code are no strokes.
    rename_i control
    have high := (hexValue?_hexDigit (c.toNat / 16) (by omega)).2.1
    have low := (hexValue?_hexDigit (c.toNat % 16) (by omega)).2.1
    simp [high.symm, low.symm]
  -- Any other character is written as it is, and it is no stroke.
  · simpa using other.symm

/-- A written character is read as its bytes, also where it is a stroke behind a backslash. -/
theorem StringReads.escapeChar {c : Char} {written bytes content rest : Bytes}
    (asWritten : Written (escapeChar c) written) (reads : StringReads bytes content rest) :
    StringReads (written ++ bytes) (Utf8.encodeChar c ++ content) rest := by
  by_cases stroke : c = '/'
  · -- A stroke stands for itself, and so does one with a backslash before it.
    subst stroke
    obtain ⟨escaped, same, rfl⟩ := asWritten
    cases same with
    | same _ later =>
      cases later
      exact StringReads.char (c := '/') (by decide) (by decide) (by decide) reads
    | stroke later =>
      cases later
      exact .mark (ascii '/') (ascii '/') (fun _ => rfl) reads
  · rw [asWritten.eq_of_notMem (stroke_notMem_escapeChar stroke)]
    -- The cases are those of the writer: first the escapes of one letter.
    unfold Json.escapeChar
    split
    case isTrue same =>
      subst same
      exact .mark (ascii '"') (ascii '"') (fun _ => rfl) reads
    split
    case isTrue same =>
      subst same
      exact .mark (ascii '\\') (ascii '\\') (fun _ => rfl) reads
    split
    case isTrue same =>
      subst same
      exact .mark (ascii 'b') 0x08 (fun _ => rfl) reads
    split
    case isTrue same =>
      subst same
      exact .mark (ascii 'f') 0x0C (fun _ => rfl) reads
    split
    case isTrue same =>
      subst same
      exact .mark (ascii 'n') 0x0A (fun _ => rfl) reads
    split
    case isTrue same =>
      subst same
      exact .mark (ascii 'r') 0x0D (fun _ => rfl) reads
    split
    case isTrue same =>
      subst same
      exact .mark (ascii 't') 0x09 (fun _ => rfl) reads
    split
    case isTrue control =>
      -- Any other control character is spelled by its code.
      have high := (hexValue?_hexDigit (c.toNat / 16) (by omega)).2.2
      have low := (hexValue?_hexDigit (c.toNat % 16) (by omega)).2.2
      have spelled : ['\\', 'u', '0', '0', hexDigit (c.toNat / 16), hexDigit (c.toNat % 16)].flatMap
          Utf8.encodeChar = [ascii '\\', ascii 'u', ascii '0', ascii '0',
            ascii (hexDigit (c.toNat / 16)), ascii (hexDigit (c.toNat % 16))] := by
        simp only [List.flatMap_cons, List.flatMap_nil, Form.encodeChar_of_lt high,
          Form.encodeChar_of_lt low]
        rfl
      rw [spelled]
      exact .escape (readEscape_control control bytes) (by simp; omega) reads
    case isFalse noControl =>
      -- What is left is written as it is.
      rw [List.flatMap_singleton]
      exact .char ‹_› ‹_› (by omega) reads

/-- A written string is read as its bytes up to the closing quote. -/
theorem StringReads.written {text : List Char} {bytes : Bytes}
    (asWritten : Written (text.flatMap Json.escapeChar) bytes) (rest : Bytes) :
    StringReads (bytes ++ ascii '"' :: rest) (text.flatMap Utf8.encodeChar) rest := by
  induction text generalizing bytes with
  | nil =>
    -- No characters are written before the quote.
    rw [asWritten.eq_nil]
    exact .quote rest
  | cons c text ih =>
    -- The bytes of the first character come before those of all others.
    rw [List.flatMap_cons] at asWritten
    obtain ⟨front, back, rfl, first, later⟩ := asWritten.append
    rw [List.append_assoc, List.flatMap_cons]
    exact .escapeChar first (ih later)

/-- A quoted text is read back after its opening quote. -/
theorem exists_quoted_bytes {text : String} {bytes : Bytes}
    (asWritten : Written (quotedChars text) bytes) :
    ∃ inner, bytes = ascii '"' :: inner
      ∧ ∀ rest, readString (inner ++ rest) = .ok (text, rest) := by
  -- The bytes between the quotes are those of the text, and they are decoded as it.
  obtain ⟨inner, rfl, content⟩ := asWritten.enclosed (by decide) (by decide)
  refine ⟨inner ++ [ascii '"'], rfl, fun rest => ?_⟩
  have read := StringReads.written content rest _ (Nat.lt_succ_self _)
  rw [List.append_assoc, List.singleton_append, readString, read]
  simp only [bind, Except.bind]
  rw [← Utf8.encode, Utf8.decode?_encode]

end RoomAir.Json
