import RoomAir.Proofs.Json.Exact
import RoomAir.Proofs.Number.Digits
import RoomAir.Proofs.Number.Rounding

/-! Every layout of a number spells the number it was made from. -/

namespace RoomAir

/-- A number above zero is written without a zero in front. -/
theorem exists_toDigits_eq_cons {value : Nat} (positive : 0 < value) :
    ∃ digit digits, Nat.toDigits 10 value = digit :: digits ∧ digit ≠ '0' := by
  induction value using Nat.strongRecOn with
  | _ value ih =>
    rcases Nat.lt_or_ge value 10 with small | large
    -- A single digit is written as itself.
    · refine ⟨value.digitChar, [], Nat.toDigits_of_lt_base small, ?_⟩
      have nonzero : ∀ digit < 10, 0 < digit → digit.digitChar ≠ '0' := by decide
      exact nonzero value small positive
    · -- The last digit is written after those of the tenth part.
      -- The tenth part is above zero as well, so its digits do not begin with a zero.
      obtain ⟨digit, digits, tenth, nonzero⟩ :=
        ih (value / 10) (Nat.div_lt_self positive (by decide)) (by omega)
      refine ⟨digit, digits ++ [(value % 10).digitChar], ?_, nonzero⟩
      rw [Nat.toDigits_of_base_le (by decide) large, tenth, List.cons_append]

namespace Literal

/-- Digits on both sides of a point are read as one number, whose fraction is counted off. -/
theorem readMagnitude?_point {whole fraction tail : List Char} (digits : whole ≠ [])
    (wholeDigits : ∀ c ∈ whole, c.isDigit = true)
    (fractionDigits : ∀ c ∈ fraction, c.isDigit = true) (ends : EndsRun Char.isDigit tail) :
    readMagnitude? (whole ++ '.' :: (fraction ++ tail))
      = (readExponentPart? tail).map fun exponent =>
          ⟨digitsValue (whole ++ fraction), exponent - fraction.length⟩ := by
  -- The point ends the first run of digits, and the tail ends the second one.
  have point : EndsRun Char.isDigit ('.' :: (fraction ++ tail)) := endsRun_cons rfl _
  have filled : whole.isEmpty = false := List.isEmpty_eq_false_iff.mpr digits
  simp only [readMagnitude?, takeWhile_run wholeDigits point, dropWhile_run wholeDigits point,
    splitFraction, takeWhile_run fractionDigits ends, dropWhile_run fractionDigits ends, filled,
    Bool.false_and, Bool.false_eq_true, if_false]
  -- What the exponent is read as goes into both sides alike.
  cases readExponentPart? tail <;> rfl

/-- A text that begins with a digit is read as a number without a sign. -/
theorem read?_digit {digit : Char} (isDigit : digit.isDigit = true) (more : List Char) :
    read? (digit :: more) = (readMagnitude? (digit :: more)).map (.decimal false) := by
  -- Neither a sign nor the name of a special value begins with a digit.
  have noSign : digit ≠ '-' ∧ digit ≠ '+' := of_isDigit isDigit (by decide)
  have noName : digit.toLower ≠ 'n' ∧ digit.toLower ≠ 'i' := of_isDigit isDigit (by decide)
  have unsigned : readSign (digit :: more) = (false, digit :: more) := by
    simp [readSign, noSign]
  simp [read?, unsigned, noName]

/-- The letter of an exponent is followed by that exponent. -/
theorem readExponentPart?_mark (more : List Char) :
    readExponentPart? ('e' :: more) = readExponent? more := by
  simp [readExponentPart?]

/-- Digits before an exponent are read as a whole number. -/
theorem readMagnitude?_exponent {whole more : List Char} (digits : whole ≠ [])
    (wholeDigits : ∀ c ∈ whole, c.isDigit = true) :
    readMagnitude? (whole ++ 'e' :: more)
      = (readExponent? more).map fun exponent => ⟨digitsValue whole, exponent⟩ := by
  have mark : EndsRun Char.isDigit ('e' :: more) := endsRun_cons rfl _
  have filled : whole.isEmpty = false := List.isEmpty_eq_false_iff.mpr digits
  -- Without a point there is no fraction.
  have none : splitFraction ('e' :: more) = ([], 'e' :: more) := rfl
  simp only [readMagnitude?, takeWhile_run wholeDigits mark, dropWhile_run wholeDigits mark, none,
    filled, readExponentPart?_mark, Bool.false_and, Bool.false_eq_true, if_false]
  cases readExponent? more <;> simp

/-- An exponent is written with its sign. -/
theorem readExponent?_signed (exponent : Int) :
    readExponent? ((if exponent < 0 then '-' else '+') :: Nat.toDigits 10 exponent.natAbs)
      = some exponent := by
  -- Behind the sign there are digits only, and at least one.
  have all : (Nat.toDigits 10 exponent.natAbs).all Char.isDigit = true :=
    List.all_eq_true.mpr fun _ member => isDigit_of_mem_toDigits member
  have filled : (Nat.toDigits 10 exponent.natAbs).isEmpty = false :=
    List.isEmpty_eq_false_iff.mpr Nat.toDigits_ne_nil
  -- The sign that is written is the one that is read off again.
  split
  case isTrue below =>
    simp only [readExponent?, readSign, all, filled, digitsValue_toDigits]
    simp only [Bool.not_true, Bool.or_false, Bool.false_eq_true, if_false, if_true,
      Option.some.injEq]
    omega
  case isFalse =>
    simp only [readExponent?, readSign, all, filled, digitsValue_toDigits]
    simp only [Bool.not_true, Bool.or_false, Bool.false_eq_true, if_false, Option.some.injEq]
    omega

end Literal

namespace Json

/-- Digits that do not begin with a zero may stand before a point. -/
theorem isWholePart_cons {digit : Char} (nonzero : digit ≠ '0') (digits : List Char) :
    isWholePart (digit :: digits) = true := by
  rw [isWholePart]
  -- The cases of the test are looked at one by one, and the second one asks for a zero.
  · simpa using nonzero
  · rintro same -
    exact nonzero same

/-- A text with a point spells the double nearest to what its digits say. -/
theorem numberText?_point (round : Decimal → Option Json) (negative : Bool)
    {whole fraction tail : List Char} {exponent : Int}
    (strict : isWholePart whole = true) (wholeDigits : ∀ c ∈ whole, c.isDigit = true)
    (digits : fraction ≠ []) (fractionDigits : ∀ c ∈ fraction, c.isDigit = true)
    (ends : EndsRun Char.isDigit tail) (read : Literal.readExponentPart? tail = some exponent) :
    numberText? round negative (whole ++ '.' :: (fraction ++ tail))
      = round ⟨digitsValue (whole ++ fraction), exponent - fraction.length⟩ := by
  -- The point ends the digits in front of it, of which there is at least one.
  have point : EndsRun Char.isDigit ('.' :: (fraction ++ tail)) := endsRun_cons rfl _
  have some : whole ≠ [] := by
    rintro rfl
    simp [isWholePart] at strict
  -- At least one digit follows the point, as JSON asks.
  have followed : isPointPart ('.' :: (fraction ++ tail)) = true := by
    obtain ⟨digit, others, rfl⟩ := List.exists_cons_of_ne_nil digits
    exact fractionDigits digit (List.mem_cons_self ..)
  simp only [numberText?, takeWhile_run wholeDigits point, dropWhile_run wholeDigits point, strict,
    followed, Literal.readMagnitude?_point some wholeDigits fractionDigits ends, read,
    Bool.and_self, if_true, List.isEmpty_cons, Bool.false_eq_true, if_false, Option.map_some,
    Option.bind_some]

/-- A text with an exponent alone spells the double nearest to what its digits say. -/
theorem numberText?_exponent (round : Decimal → Option Json) (negative : Bool)
    {whole more : List Char} {exponent : Int}
    (strict : isWholePart whole = true) (wholeDigits : ∀ c ∈ whole, c.isDigit = true)
    (read : Literal.readExponent? more = some exponent) :
    numberText? round negative (whole ++ 'e' :: more)
      = round ⟨digitsValue whole, exponent⟩ := by
  -- The mark of the exponent ends the digits, and no point stands between them.
  have mark : EndsRun Char.isDigit ('e' :: more) := endsRun_cons rfl _
  -- A whole part is never empty.
  have some : whole ≠ [] := by
    rintro rfl
    simp [isWholePart] at strict
  have followed : isPointPart ('e' :: more) = true := rfl
  simp only [numberText?, takeWhile_run wholeDigits mark, dropWhile_run wholeDigits mark, strict,
    followed, Literal.readMagnitude?_exponent some wholeDigits, read, Bool.and_self, if_true,
    List.isEmpty_cons, Bool.false_eq_true, if_false, Option.map_some, Option.bind_some]

/-- The digit of zero is a digit. -/
theorem isDigit_of_mem_zero : ∀ c ∈ ['0'], c.isDigit = true :=
  forall_mem_of_all (by decide)

/-- A rounding for which only the value of a decimal counts, not how it is written. -/
structure RoundsByValue (round : Decimal → Option Json) : Prop where
  zero : ∀ exponent other : Int, round ⟨0, exponent⟩ = round ⟨0, other⟩
  shift : ∀ (digits count : Nat) (exponent : Int),
    round ⟨digits * 10 ^ count, exponent⟩ = round ⟨digits, exponent + count⟩

/-- Rounding to the nearest double goes by the value. -/
theorem roundsByValue_nearest? (negative : Bool) : RoundsByValue (nearest? negative) where
  zero exponent other := by
    -- Both are the zero of the sign.
    rw [nearest?, nearest?, Double.ofDecimal?_zero, Double.ofDecimal?_zero]
  shift digits count exponent := by
    -- Zeros at the end of the digits go into the exponent.
    rw [nearest?, nearest?, Double.ofDecimal?_mul_pow]

/-- The digits of a number above zero may stand before a point, whatever digits follow them. -/
theorem isWholePart_toDigits {value : Nat} (positive : 0 < value) (more : List Char) :
    isWholePart (Nat.toDigits 10 value ++ more) = true := by
  -- The first digit of a number above zero is no zero.
  obtain ⟨digit, digits, same, nonzero⟩ := exists_toDigits_eq_cons positive
  rw [same, List.cons_append]
  exact isWholePart_cons nonzero _

section Layouts

variable {round : Decimal → Option Json} (negative : Bool) {value : Decimal}

/-- A whole number written out before a point and a zero spells itself. -/
theorem numberText?_whole (byValue : RoundsByValue round) (positive : 0 < value.digits)
    (whole : 0 ≤ value.exponent) :
    numberText? round negative (value.positional ++ ['.', '0']) = round value := by
  obtain ⟨digits, exponent⟩ := value
  obtain ⟨count, rfl⟩ := Int.eq_ofNat_of_zero_le whole
  -- The exponent is spelled out as zeros, and one more of them follows the point.
  have nonzero : digits ≠ 0 := Nat.ne_of_gt positive
  have layout : Decimal.positional ⟨digits, count⟩
      = Nat.toDigits 10 digits ++ List.replicate count '0' := by
    simp [Decimal.positional, Decimal.digitsOf, nonzero]
  -- The zeros behind the digits make them ten times as large each.
  have spelled : digitsValue (Nat.toDigits 10 digits ++ List.replicate count '0' ++ ['0'])
      = digits * 10 ^ (count + 1) := by
    rw [List.append_assoc, ← List.replicate_succ', digitsValue_append, digitsValue_toDigits,
      digitsValue_replicate_zero, List.length_replicate, Nat.add_zero]
  -- Digits and zeros are digits.
  have all : ∀ c ∈ Nat.toDigits 10 digits ++ List.replicate count '0', c.isDigit = true := by
    intro c member
    rcases List.mem_append.mp member with member | member
    · exact isDigit_of_mem_toDigits member
    · rw [List.eq_of_mem_replicate member]
      rfl
  have read := numberText?_point round negative
    (isWholePart_toDigits positive (List.replicate count '0')) all (List.cons_ne_nil _ _)
    isDigit_of_mem_zero (endsRun_nil _) rfl
  rw [layout, show ['.', '0'] = '.' :: (['0'] ++ []) from rfl, read, spelled, byValue.shift]
  -- The zero after the point is counted off again.
  congr 2
  simp only [List.length_singleton]
  omega

/-- Digits padded with zeros so that one of them stands before the places, split at the point. -/
theorem isWholePart_padded {digits : Nat} (positive : 0 < digits) (places : Nat)
    {padded : List Char}
    (padding : padded = List.replicate (places + 1 - (Nat.toDigits 10 digits).length) '0'
      ++ Nat.toDigits 10 digits) :
    isWholePart (padded.take (padded.length - places)) = true := by
  -- Without its zeros the number begins with a digit that is no zero.
  obtain ⟨digit, others, same, nonzero⟩ := exists_toDigits_eq_cons positive
  rw [same] at padding
  rcases Nat.lt_or_ge places (digit :: others).length with long | short
  · -- Enough digits need no zeros, and the first of them is none.
    rw [Nat.sub_eq_zero_of_le long, List.replicate_zero, List.nil_append] at padding
    obtain ⟨count, size⟩ : ∃ count, (digit :: others).length - places = count + 1 :=
      ⟨(digit :: others).length - places - 1, by omega⟩
    rw [padding, size, List.take_succ_cons]
    exact isWholePart_cons nonzero _
  · -- Otherwise a single zero stands before the point.
    rw [Nat.succ_sub short, List.replicate_succ] at padding
    have size : padded.length - places = 1 := by
      rw [padding]
      simp only [List.length_append, List.length_cons, List.length_replicate] at short ⊢
      omega
    rw [size, padding]
    rfl

/-- A number with places after the point spells itself. -/
theorem numberText?_places (positive : 0 < value.digits) (broken : value.exponent < 0) :
    numberText? round negative value.positional = round value := by
  obtain ⟨digits, exponent⟩ := value
  obtain ⟨places, rfl⟩ : ∃ places : Nat, exponent = -((places + 1 : Nat) : Int) :=
    ⟨exponent.natAbs - 1, by dsimp only at broken; omega⟩
  -- The zeros in front make sure that a digit is left before the point.
  obtain ⟨padded, padding⟩ : ∃ padded, padded
      = List.replicate (places + 1 + 1 - (Nat.toDigits 10 digits).length) '0'
        ++ Nat.toDigits 10 digits := ⟨_, rfl⟩
  have size : places + 1 < padded.length := by
    rw [padding, List.length_append, List.length_replicate]
    omega
  -- All of these characters are digits, the zeros in front included.
  have allDigits : ∀ c ∈ padded, c.isDigit = true := by
    intro c member
    rw [padding] at member
    rcases List.mem_append.mp member with member | member
    · rw [List.eq_of_mem_replicate member]
      rfl
    · exact isDigit_of_mem_toDigits member
  -- The padded digits are split so many places before their end.
  have layout : Decimal.positional ⟨digits, -((places + 1 : Nat) : Int)⟩
      = padded.take (padded.length - (places + 1))
        ++ '.' :: (padded.drop (padded.length - (places + 1)) ++ []) := by
    simp only [Decimal.positional, Decimal.digitsOf]
    rw [if_neg (by omega), show (-(-((places + 1 : Nat) : Int))).toNat = places + 1 by omega,
      ← padding, List.append_nil]
  -- As many digits follow the point as the exponent says.
  have fraction : (padded.drop (padded.length - (places + 1))).length = places + 1 := by
    rw [List.length_drop]
    omega
  rw [layout, numberText?_point round negative
    (isWholePart_padded positive (places + 1) padding)
    (fun c member => allDigits c (List.mem_of_mem_take member))
    (List.ne_nil_of_length_pos (by omega))
    (fun c member => allDigits c (List.mem_of_mem_drop member)) (endsRun_nil _) rfl,
    List.take_append_drop, fraction, padding, digitsValue_append, digitsValue_replicate_zero,
    digitsValue_toDigits, Nat.zero_mul, Nat.zero_add, Int.zero_sub]

/-- A number with one digit before the point and an exponent spells itself. -/
theorem numberText?_scientific (positive : 0 < value.digits) :
    numberText? round negative value.scientific = round value := by
  obtain ⟨digits, exponent⟩ := value
  obtain ⟨digit, others, same, nonzero⟩ := exists_toDigits_eq_cons positive
  -- The digits spell the number that they are the digits of.
  have spelled : digitsValue (digit :: others) = digits := by
    rw [← same, digitsValue_toDigits]
  have allDigits : ∀ c ∈ digit :: others, c.isDigit = true := by
    intro c member
    exact isDigit_of_mem_toDigits (same ▸ member)
  rw [List.forall_mem_cons] at allDigits
  -- The first digit stands alone before the point.
  have lone : ∀ c ∈ [digit], c.isDigit = true := by
    simpa using allDigits.1
  cases others with
  | nil =>
    -- A single digit has no point after it.
    have layout : Decimal.scientific ⟨digits, exponent⟩ = [digit] ++ 'e'
        :: (if exponent < 0 then '-' else '+') :: Nat.toDigits 10 exponent.natAbs := by
      simp [Decimal.scientific, Decimal.digitsOf, same]
    rw [layout, numberText?_exponent round negative (isWholePart_cons nonzero []) lone
      (Literal.readExponent?_signed exponent), spelled]
  | cons second others =>
    -- The exponent that is written makes up for the digits behind the point.
    obtain ⟨shown, exponentShown⟩ :
        ∃ shown, shown = exponent + ((second :: others).length : Nat) := ⟨_, rfl⟩
    have layout : Decimal.scientific ⟨digits, exponent⟩
        = [digit] ++ '.' :: ((second :: others) ++ 'e'
          :: (if shown < 0 then '-' else '+') :: Nat.toDigits 10 shown.natAbs) := by
      simp [Decimal.scientific, Decimal.digitsOf, same, exponentShown]
    -- The exponent is read off with its sign.
    have tail : Literal.readExponentPart? ('e' :: (if shown < 0 then '-' else '+')
        :: Nat.toDigits 10 shown.natAbs) = some shown := by
      rw [Literal.readExponentPart?_mark, Literal.readExponent?_signed]
    rw [layout, numberText?_point round negative (isWholePart_cons nonzero []) lone
      (List.cons_ne_nil _ _) allDigits.2 (endsRun_cons rfl _) tail, List.singleton_append, spelled,
      exponentShown, Int.add_sub_cancel]

end Layouts

/-- The text of a JSON number spells the number. -/
theorem numberText?_jsonChars {round : Decimal → Option Json} (byValue : RoundsByValue round)
    (negative : Bool) (value : Decimal) :
    numberText? round negative value.jsonChars = round value := by
  obtain ⟨digits, exponent⟩ := value
  rw [Decimal.jsonChars]
  split
  case isTrue zero =>
    -- Zero is written the same whatever its exponent.
    obtain rfl : digits = 0 := zero
    rw [byValue.zero exponent (0 - 1)]
    have strict : isWholePart ['0'] = true := rfl
    exact numberText?_point round negative strict isDigit_of_mem_zero (List.cons_ne_nil _ _)
      isDigit_of_mem_zero (endsRun_nil _) rfl
  case isFalse nonzero =>
    -- A number above zero has a digit that is no zero.
    have positive : 0 < digits := Nat.pos_of_ne_zero nonzero
    -- Otherwise the layout depends on the size of the number.
    split
    -- Written out, the number is a whole one or has places behind the point.
    · split
      case isTrue whole => exact numberText?_whole negative byValue positive whole
      case isFalse broken => exact numberText?_places negative positive (by omega)
    -- Otherwise it is written with an exponent.
    · exact numberText?_scientific negative positive

end Json

end RoomAir
