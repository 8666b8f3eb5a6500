import RoomAir.Number.Literal
import RoomAir.Proofs.Number.Digits
import RoomAir.Proofs.Traversal

/-! Which texts are read as numbers: the signs, digits, points, exponents and names they are of. -/

namespace RoomAir

/-! ## Signs and digits -/

/-- The signs that a number may be written with. -/
def signs (negative : Bool) : List (List Char) :=
  if negative then [['-']] else [[], ['+']]

/-- A sign and then digits, at least one, spell a whole number. -/
inductive SignedDigits : List Char → Int → Prop where
  | spelled {negative : Bool} {sign digits : List Char} (signed : sign ∈ signs negative)
    (filled : digits ≠ []) (all : ∀ c ∈ digits, c.isDigit = true) :
    SignedDigits (sign ++ digits)
      (if negative then -(digitsValue digits : Int) else digitsValue digits)

namespace Literal

/-- What is left of a text after its sign has the sign before it. -/
theorem exists_sign (text : List Char) :
    ∃ sign ∈ signs (readSign text).1, text = sign ++ (readSign text).2 := by
  -- A minus sign, a plus sign, or no sign at all.
  rw [readSign.eq_def]
  split
  · exact ⟨['-'], by simp [signs], rfl⟩
  · exact ⟨['+'], by simp [signs], rfl⟩
  · exact ⟨[], by simp [signs], rfl⟩

/-- A sign is read off a text that has no other one. -/
theorem readSign_append {negative : Bool} {sign rest : List Char} (signed : sign ∈ signs negative)
    (unsigned : ∀ c ∈ rest.head?, c ≠ '-' ∧ c ≠ '+') :
    readSign (sign ++ rest) = (negative, rest) := by
  -- The first character of the rest would be taken for a sign if it were one.
  cases negative with
  | true =>
    -- There is only one sign of negative numbers.
    obtain rfl : sign = ['-'] := by simpa [signs] using signed
    rfl
  | false =>
    -- A number that is not negative is written with a plus sign or without one.
    obtain rfl | rfl : sign = [] ∨ sign = ['+'] := by simpa [signs] using signed
    · cases rest with
      | nil => rfl
      | cons c rest => simp [readSign, unsigned c rfl]
    · rfl

/-- A digit is no sign. -/
theorem unsigned_of_digits {digits : List Char} (all : ∀ c ∈ digits, c.isDigit = true) :
    ∀ c ∈ digits.head?, c ≠ '-' ∧ c ≠ '+' :=
  fun c first => of_isDigit (all c (List.mem_of_mem_head? first)) (by decide)

end Literal

/-! ## Whole numbers -/

namespace Whole

/-- The value of a digit in base ten. -/
def digitValue? (c : Char) : Option Nat :=
  if c.isDigit then some (c.toNat - '0'.toNat) else none

/-- In base ten only the ten digits have a value. -/
theorem digitValue?_eq (c : Char) : (Form.hexValue? c).filter (· < 10) = digitValue? c := by
  by_cases digit : c.isDigit = true
  · exact of_isDigit digit (by decide)
  -- The ten digits are the characters from zero to nine.
  · have noDigit : ¬ ('0' ≤ c ∧ c ≤ '9') :=
      fun between => digit (Char.isDigit_iff_toNat.mpr between)
    rw [digitValue?, if_neg digit, Form.hexValue?, if_neg noDigit]
    -- A letter stands for ten at least.
    split
    · simp
    · split <;> simp

/-- Digits alone, at least one, spell a number in base ten. -/
theorem digits?_eq_some_iff {text : List Char} {value : Nat} :
    digits? 10 text = some value
      ↔ text ≠ [] ∧ (∀ c ∈ text, c.isDigit = true) ∧ digitsValue text = value := by
  rw [digits?]
  simp only [digitValue?_eq]
  by_cases filled : text = []
  -- A text without characters spells nothing.
  · simp [filled]
  · rw [if_neg (by simpa using filled)]
    by_cases all : ∀ c ∈ text, c.isDigit = true
    -- Each digit has its value, so all of them have.
    · have read : (text.map digitValue?).mapM id
          = some (text.map fun c => c.toNat - '0'.toNat) := by
        refine mapM_eq_some ?_
        rw [List.map_id, List.map_map]
        exact List.map_congr_left fun c member => if_pos (all c member)
      rw [read]
      simp only [Option.map_some, List.foldl_map, Option.some.injEq]
      exact ⟨fun same => ⟨filled, all, same⟩, fun spelled => spelled.2.2⟩
    · -- A character that is no digit has no value.
      have unread : (text.map digitValue?).mapM id = none := by
        rw [← Option.not_isSome_iff_eq_none, isSome_mapM]
        intro each
        refine all fun c member => ?_
        have found := each _ (List.mem_map_of_mem member)
        by_contra other
        simp [digitValue?, other] at found
      rw [unread]
      simp [all]

/-- A text is read as a whole number of 64 bits exactly when it spells one. -/
theorem signed?_eq_some_iff {text : List Char} {value : Int} :
    signed? 10 text = some value
      ↔ SignedDigits text value ∧ -2 ^ 63 ≤ value ∧ value < 2 ^ 63 := by
  rw [signed?]
  simp only [Option.bind_eq_bind, Option.bind_eq_some_iff, digits?_eq_some_iff,
    Option.ite_none_right_eq_some, Option.some.injEq]
  constructor
  -- The sign that is read off stands in front of the digits.
  · rintro ⟨_, ⟨filled, all, rfl⟩, bounds, rfl⟩
    obtain ⟨sign, signed, same⟩ := Literal.exists_sign text
    have spelled := SignedDigits.spelled signed filled all
    rw [← same] at spelled
    exact ⟨spelled, bounds⟩
  -- A digit is no sign, so the sign that is written is the one that is read off.
  · rintro ⟨⟨signed, filled, all⟩, bounds⟩
    rw [Literal.readSign_append signed (Literal.unsigned_of_digits all)]
    exact ⟨_, ⟨filled, all, rfl⟩, bounds, rfl⟩

end Whole

/-! ## Floating point literals -/

namespace Literal

/-- What an exponent is written as: nothing, or its letter and a whole number. -/
inductive SpellsExponent : List Char → Int → Prop where
  | none : SpellsExponent [] 0
  | marked {mark : Char} {digits : List Char} {exponent : Int} (letter : mark = 'e' ∨ mark = 'E')
    (spelled : SignedDigits digits exponent) : SpellsExponent (mark :: digits) exponent

/-- The digits of a decimal, with a point before its fraction, which may be empty. -/
inductive SpellsDigits : List Char → List Char → List Char → Prop where
  | whole {whole : List Char} (filled : whole ≠ []) : SpellsDigits whole whole []
  | point {whole fraction : List Char} (filled : whole ≠ [] ∨ fraction ≠ []) :
    SpellsDigits (whole ++ '.' :: fraction) whole fraction

/-- How a literal is spelled: by a name in any case, or in decimal with a point and an exponent. -/
inductive Spells : List Char → Literal → Prop where
  | nan {negative : Bool} {sign name : List Char} (signed : sign ∈ signs negative)
    (named : name.map Char.toLower = "nan".toList) : Spells (sign ++ name) .nan
  | infinite {negative : Bool} {sign name : List Char} (signed : sign ∈ signs negative)
    (named : name.map Char.toLower = "inf".toList ∨ name.map Char.toLower = "infinity".toList) :
    Spells (sign ++ name) (.infinite negative)
  | decimal {negative : Bool} {sign digits whole fraction tail : List Char} {exponent : Int}
    (signed : sign ∈ signs negative) (written : SpellsDigits digits whole fraction)
    (all : ∀ c ∈ whole ++ fraction, c.isDigit = true) (scaled : SpellsExponent tail exponent) :
    Spells (sign ++ (digits ++ tail))
      (.decimal negative ⟨digitsValue (whole ++ fraction), exponent - fraction.length⟩)

/-- An exponent is read exactly when it is spelled. -/
theorem readExponent?_eq_some_iff {text : List Char} {exponent : Int} :
    readExponent? text = some exponent ↔ SignedDigits text exponent := by
  constructor
  · intro read
    simp only [readExponent?] at read
    split at read
    -- There are some digits, and nothing else, behind the sign.
    case isTrue => cases read
    case isFalse digits =>
      obtain ⟨sign, signed, same⟩ := exists_sign text
      obtain rfl := Option.some.inj read
      simp only [Bool.or_eq_true, List.isEmpty_iff, Bool.not_eq_true', not_or, Bool.not_eq_false,
        List.all_eq_true] at digits
      have spelled := SignedDigits.spelled signed digits.1 digits.2
      rwa [← same] at spelled
  · rintro ⟨signed, filled, all⟩
    -- The digits pass the test of the reader, since there are some and nothing else.
    have unmarked := List.all_eq_true.mpr all
    simp [readExponent?, readSign_append signed (unsigned_of_digits all), filled, unmarked]

/-- An exponent is read after its letter, and at the end of a text. -/
theorem readExponentPart?_eq_some_iff {text : List Char} {exponent : Int} :
    readExponentPart? text = some exponent ↔ SpellsExponent text exponent := by
  cases text with
  -- At the end of a text there is no exponent, which counts as zero.
  | nil =>
    constructor
    · intro read
      obtain rfl := Option.some.inj read
      exact .none
    · rintro ⟨⟩
      rfl
  -- Otherwise there has to be the letter, and behind it the exponent.
  | cons mark more =>
    rw [readExponentPart?]
    constructor
    · intro read
      split at read
      case isTrue letter => exact .marked letter (readExponent?_eq_some_iff.mp read)
      case isFalse => cases read
    · rintro (_ | ⟨letter, spelled⟩)
      rw [if_pos letter, readExponent?_eq_some_iff.mpr spelled]

/-- What an exponent is written as begins neither with a digit nor with a point. -/
theorem SpellsExponent.ends {tail : List Char} {exponent : Int}
    (scaled : SpellsExponent tail exponent) :
    EndsRun Char.isDigit tail ∧ splitFraction tail = ([], tail) := by
  cases scaled with
  -- Nothing is neither a digit nor a point.
  | none => exact ⟨endsRun_nil _, rfl⟩
  | marked letter =>
    -- The letters of exponents are neither digits nor points.
    rcases letter with rfl | rfl
    · exact ⟨endsRun_cons rfl _, rfl⟩
    · exact ⟨endsRun_cons rfl _, rfl⟩

/-- Digits are read as one number, of which those after the point are counted off. -/
theorem readMagnitude?_spelled {digits whole fraction tail : List Char} {exponent : Int}
    (written : SpellsDigits digits whole fraction)
    (all : ∀ c ∈ whole ++ fraction, c.isDigit = true) (scaled : SpellsExponent tail exponent) :
    readMagnitude? (digits ++ tail)
      = some ⟨digitsValue (whole ++ fraction), exponent - fraction.length⟩ := by
  obtain ⟨ends, noPoint⟩ := scaled.ends
  have read := readExponentPart?_eq_some_iff.mpr scaled
  cases written with
  -- Without a point all digits are in front, and the exponent follows them.
  | whole filled =>
    rw [List.append_nil] at all
    simp [readMagnitude?, takeWhile_run all ends, dropWhile_run all ends, noPoint, filled, read]
  -- The point ends the digits in front of it, and the exponent ends those behind it.
  | point filled =>
    rw [List.forall_mem_append] at all
    have point : EndsRun Char.isDigit ('.' :: (fraction ++ tail)) := endsRun_cons rfl _
    have some : (whole.isEmpty && fraction.isEmpty) = false := by
      rcases filled with filled | filled <;> simp [filled]
    simp [readMagnitude?, takeWhile_run all.1 point, dropWhile_run all.1 point, splitFraction,
      takeWhile_run all.2 ends, dropWhile_run all.2 ends, some, read]

/-- A text is its digits in front and what is left after them. -/
theorem exists_digits (text : List Char) :
    ∃ digits rest, text = digits ++ rest ∧ (∀ c ∈ digits, c.isDigit = true)
      ∧ text.takeWhile Char.isDigit = digits ∧ text.dropWhile Char.isDigit = rest :=
  -- The run of digits in front is the longest one, so the rest does not go on with it.
  ⟨_, _, List.takeWhile_append_dropWhile.symm, List.all_eq_true.mp List.all_takeWhile, rfl, rfl⟩

/-- A decimal without a sign is read only when it is spelled. -/
theorem exists_of_readMagnitude? {text : List Char} {value : Decimal}
    (read : readMagnitude? text = some value) :
    ∃ digits whole fraction tail exponent, text = digits ++ tail
      ∧ SpellsDigits digits whole fraction ∧ (∀ c ∈ whole ++ fraction, c.isDigit = true)
      ∧ SpellsExponent tail exponent
      ∧ value = ⟨digitsValue (whole ++ fraction), exponent - fraction.length⟩ := by
  obtain ⟨whole, rest, same, wholeDigits, front, after⟩ := exists_digits text
  simp only [readMagnitude?, front, after] at read
  rw [splitFraction.eq_def] at read
  split at read
  -- With a point the digits behind it are the fraction, which may be empty.
  case h_1 more =>
    obtain ⟨fraction, tail, rfl, fractionDigits, front, after⟩ := exists_digits more
    simp only [front, after] at read
    split at read
    case isTrue => cases read
    case isFalse filled =>
      obtain ⟨exponent, scaled, made⟩ := Option.bind_eq_some_iff.mp read
      refine ⟨whole ++ '.' :: fraction, whole, fraction, tail, exponent, by simp [same], .point ?_,
        List.forall_mem_append.mpr ⟨wholeDigits, fractionDigits⟩,
        readExponentPart?_eq_some_iff.mp scaled, (Option.some.inj made).symm⟩
      simpa [-not_and, not_and_or] using filled
  -- Without a point there is no fraction.
  case h_2 =>
    dsimp only at read
    split at read
    case isTrue => cases read
    case isFalse filled =>
      obtain ⟨exponent, scaled, made⟩ := Option.bind_eq_some_iff.mp read
      exact ⟨whole, whole, [], rest, exponent, same, .whole (by simpa using filled),
        by simpa using wholeDigits, readExponentPart?_eq_some_iff.mp scaled,
        (Option.some.inj made).symm⟩

/-- A decimal begins with a digit or a point. -/
theorem SpellsDigits.exists_cons {digits whole fraction : List Char}
    (written : SpellsDigits digits whole fraction)
    (all : ∀ c ∈ whole ++ fraction, c.isDigit = true) :
    ∃ c rest, digits = c :: rest ∧ (c.isDigit = true ∨ c = '.') := by
  cases written with
  -- The first digit in front is the first character.
  | whole filled =>
    obtain ⟨c, rest, rfl⟩ := List.exists_cons_of_ne_nil filled
    exact ⟨c, rest, rfl, .inl (all c (by simp))⟩
  -- Without digits in front the point is the first character.
  | point =>
    cases whole with
    | nil => exact ⟨'.', fraction, rfl, .inr rfl⟩
    | cons c rest => exact ⟨c, rest ++ '.' :: fraction, rfl, .inl (all c (by simp))⟩

/-- A name in any case begins with no sign. -/
theorem unsigned_of_name {name : List Char} {first : Char} {rest : List Char}
    (named : name.map Char.toLower = first :: rest) (letter : first ≠ '-' ∧ first ≠ '+') :
    ∀ c ∈ name.head?, c ≠ '-' ∧ c ≠ '+' := by
  obtain ⟨c, others, rfl, rfl, -⟩ := List.map_eq_cons_iff.mp named
  rintro _ ⟨⟩
  -- Signs are their own lower case.
  refine ⟨?_, ?_⟩
  · rintro rfl
    exact letter.1 rfl
  · rintro rfl
    exact letter.2 rfl

/-- A text is read as a literal exactly when it spells it. -/
theorem read?_eq_some_iff {text : List Char} {literal : Literal} :
    read? text = some literal ↔ Spells text literal := by
  constructor
  · intro read
    obtain ⟨sign, signed, same⟩ := exists_sign text
    simp only [read?] at read
    split at read
    -- The rest of the text is the first of the names.
    case isTrue named =>
      obtain rfl := Option.some.inj read
      rw [same]
      exact .nan signed named
    case isFalse =>
      split at read
      -- The rest of the text is one of the names of the infinite.
      case isTrue named =>
        obtain rfl := Option.some.inj read
        have spelled := Spells.infinite signed named
        rwa [← same] at spelled
      -- Otherwise the rest is a decimal.
      case isFalse =>
        obtain ⟨value, magnitude, rfl⟩ := Option.map_eq_some_iff.mp read
        obtain ⟨digits, whole, fraction, tail, exponent, body, written, all, scaled, rfl⟩ :=
          exists_of_readMagnitude? magnitude
        rw [body] at same
        have spelled := Spells.decimal signed written all scaled
        rwa [← same] at spelled
  · intro spelled
    cases spelled with
    | nan signed named =>
      -- The name begins with no sign, so the sign of the literal is read off before it.
      rw [read?, readSign_append signed (unsigned_of_name named (by decide))]
      exact if_pos named
    | @infinite _ _ name signed named =>
      have unsigned : ∀ c ∈ name.head?, c ≠ '-' ∧ c ≠ '+' :=
        named.elim (fun named => unsigned_of_name named (by decide))
          fun named => unsigned_of_name named (by decide)
      -- The names of the infinite are told apart from the other name.
      have other : name.map Char.toLower ≠ "nan".toList := by
        rcases named with named | named <;> rw [named] <;> decide
      rw [read?, readSign_append signed unsigned]
      exact (if_neg other).trans (if_pos named)
    | decimal signed written all scaled =>
      obtain ⟨first, rest, body, start⟩ := written.exists_cons all
      -- What begins with a digit or a point has no sign of its own and is no name.
      have apart : (first ≠ '-' ∧ first ≠ '+') ∧ first.toLower ≠ 'n' ∧ first.toLower ≠ 'i' := by
        rcases start with digit | rfl
        · exact of_isDigit digit (by decide)
        · decide
      have magnitude := readMagnitude?_spelled written all scaled
      rw [body, List.cons_append] at magnitude ⊢
      rw [read?, readSign_append signed (by simpa using apart.1)]
      simp [apart.2, magnitude]

end Literal

end RoomAir
