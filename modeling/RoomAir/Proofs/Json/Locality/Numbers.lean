import Mathlib.Data.List.TakeWhile
import RoomAir.Proofs.Json.Locality.Strings
import RoomAir.Proofs.Json.Numbers

/-! A number in a document is read by itself, whatever follows that ends a number. -/

namespace RoomAir.Json

/-- A reader takes these bytes as what it finds where what follows them ends a number. -/
def TakesNumber (read : Bytes → Except Fault (α × Bytes)) (used : Bytes) (found : α) : Prop :=
  ∀ rest, EndsRun isNumberByte rest → read (used ++ rest) = .ok (found, rest)

section Numbers

variable {bytes rest : Bytes} {value : Json} {negative : Bool} {significand omitted : Nat}

/-! ## Runs of digits -/

/-- What ends a number ends its digits, and it is neither a point nor the mark of an exponent. -/
theorem endsRun_isNumberByte (ends : EndsRun isNumberByte rest) :
    EndsRun isDigit rest
      ∧ ∀ byte ∈ rest.head?, (byte == ascii '.') = false ∧ isExponentMark byte = false := by
  -- A byte that may not stand in a number is none of those that may.
  have parts (byte : UInt8) (other : isNumberByte byte = false) :
      isDigit byte = false ∧ (byte == ascii '.') = false ∧ isExponentMark byte = false := by
    simp only [isNumberByte, Bool.or_eq_false_iff] at other
    exact ⟨other.1.1.1.1, other.1.1.1.2, other.1.1.2⟩
  exact ⟨fun byte first => (parts byte (ends byte first)).1,
    fun byte first => (parts byte (ends byte first)).2⟩

/-- Digits up to what ends them are taken as a run, and what follows is left. -/
theorem digits_run (bytes : Bytes) {rest : Bytes} (ends : EndsRun isDigit rest) :
    (bytes.takeWhile isDigit ++ rest).takeWhile isDigit = bytes.takeWhile isDigit
      ∧ (bytes.takeWhile isDigit ++ rest).dropWhile isDigit = rest := by
  -- What is taken up to the end of a run are digits.
  have all : ∀ byte ∈ bytes.takeWhile isDigit, isDigit byte = true :=
    fun byte member => List.mem_takeWhile_imp member
  exact ⟨takeWhile_run all ends, dropWhile_run all ends⟩

/-- Digits that were read up to what ended them are read so again. -/
theorem endsRun_append {used : Bytes} (same : bytes.dropWhile isDigit = used ++ rest)
    {later : Bytes} (ends : EndsRun isDigit later) : EndsRun isDigit (used ++ later) := by
  -- If nothing was used, what follows ends the digits itself.
  cases used with
  | nil => exact ends
  | cons byte used =>
    -- Otherwise the first byte that was used had ended them.
    refine endsRun_cons ?_ _
    have first := List.head?_dropWhile_not isDigit bytes
    simpa [same] using first

/-! ## Exponents -/

/-- A number with a fraction or an exponent leaves what follows it alone. -/
theorem readScaled_eq_ok {exponent : Int}
    (read : readScaled negative significand exponent bytes = .ok (value, rest)) :
    bytes = rest
      ∧ ∀ later, readScaled negative significand exponent later = .ok (value, later) := by
  unfold readScaled at read ⊢
  -- Whether the number can be scaled does not depend on what follows it.
  generalize scaled? significand exponent = outcome at read ⊢
  cases outcome with
  | none => cases read
  | some x =>
    simp only [signed, Except.ok.injEq, Prod.mk.injEq] at read
    exact ⟨read.2, fun later => by rw [signed, read.1]⟩

/-- An exponent is gathered from its digits, whatever ends them. -/
theorem gatherExponent_eq_inl {start exponent : Nat}
    (gathered : gatherExponent start bytes = .inl (exponent, rest)) :
    rest = bytes.dropWhile isDigit ∧ ∀ later, EndsRun isDigit later →
      gatherExponent start (bytes.takeWhile isDigit ++ later) = .inl (exponent, later) := by
  -- Where no digit follows, the exponent is what has been gathered.
  have stop {later : Bytes} (ends : EndsRun isDigit later) (start : Nat) :
      gatherExponent start later = .inl (start, later) := by
    cases later with
    | nil => rfl
    | cons byte after => rw [gatherExponent, if_neg (by simp [ends byte rfl])]
  induction bytes generalizing start with
  -- No digits have been read, and none are taken.
  | nil =>
    obtain ⟨rfl, rfl⟩ := Prod.mk.inj (Sum.inl.inj gathered)
    exact ⟨rfl, fun later ends => stop ends _⟩
  | cons byte after ih =>
    rw [gatherExponent] at gathered
    -- The first byte is no digit, so the exponent ends before it.
    split at gathered
    case isFalse other =>
      obtain ⟨rfl, rfl⟩ := Prod.mk.inj (Sum.inl.inj gathered)
      rw [List.takeWhile_cons_of_neg other, List.dropWhile_cons_of_neg other]
      exact ⟨rfl, fun later ends => stop ends _⟩
    case isTrue digit =>
      -- A digit that leaves the exponent small enough is followed by the other digits.
      dsimp only at gathered
      split at gathered
      case isTrue => cases gathered
      case isFalse small =>
        obtain ⟨rfl, goesOn⟩ := ih gathered
        rw [List.takeWhile_cons_of_pos digit, List.dropWhile_cons_of_pos digit]
        refine ⟨rfl, fun later ends => ?_⟩
        rw [List.cons_append, gatherExponent, if_pos digit]
        dsimp only
        rw [if_neg small, goesOn later ends]

/-- Digits that make an exponent too large do so whatever ends them. -/
theorem gatherExponent_eq_inr {start : Nat} (gathered : gatherExponent start bytes = .inr rest) :
    rest.dropWhile isDigit = bytes.dropWhile isDigit ∧ ∀ later, EndsRun isDigit later →
      ∃ left, gatherExponent start (bytes.takeWhile isDigit ++ later) = .inr left
        ∧ left.dropWhile isDigit = later := by
  induction bytes generalizing start with
  -- Without digits no exponent is too large.
  | nil => cases gathered
  | cons byte after ih =>
    rw [gatherExponent] at gathered
    split at gathered
    -- Without a digit the exponent is what it was.
    case isFalse => cases gathered
    case isTrue digit =>
      rw [List.takeWhile_cons_of_pos digit, List.dropWhile_cons_of_pos digit]
      dsimp only at gathered
      split at gathered
      case isTrue large =>
        -- The digits after this one are passed over.
        obtain rfl := Sum.inr.inj gathered
        refine ⟨rfl, fun later ends => ⟨_, ?_, (digits_run after ends).2⟩⟩
        rw [List.cons_append, gatherExponent, if_pos digit]
        dsimp only
        rw [if_pos large]
      -- The exponent is not too large yet, so a later digit makes it so.
      case isFalse small =>
        obtain ⟨same, goesOn⟩ := ih gathered
        refine ⟨same, fun later ends => ?_⟩
        rw [List.cons_append, gatherExponent, if_pos digit]
        dsimp only
        rw [if_neg small]
        exact goesOn later ends

/-- The digits of an exponent are read up to what ends them. -/
theorem readPower_eq_ok {start : Int} {down : Bool}
    (read : readPower negative significand start down bytes = .ok (value, rest)) :
    rest = bytes.dropWhile isDigit ∧ ∀ later, EndsRun isDigit later →
      readPower negative significand start down (bytes.takeWhile isDigit ++ later)
        = .ok (value, later) := by
  cases bytes with
  -- An exponent has at least one digit.
  | nil => cases read
  | cons byte after =>
    rw [readPower] at read
    split at read
    case isFalse => cases read
    case isTrue digit =>
      -- The first digit stays in front of the others.
      have opens (later : Bytes) : (byte :: after).takeWhile isDigit ++ later
          = byte :: (after.takeWhile isDigit ++ later) := by
        rw [List.takeWhile_cons_of_pos digit, List.cons_append]
      split at read
      -- The exponent is gathered, and the number is scaled by it.
      case h_1 exponent left gathered =>
        obtain ⟨rfl, again⟩ := readScaled_eq_ok read
        obtain ⟨rfl, goesOn⟩ := gatherExponent_eq_inl gathered
        refine ⟨rfl, fun later ends => ?_⟩
        have gathers := goesOn later ends
        rw [opens] at gathers ⊢
        rw [readPower, if_pos digit, gathers]
        exact again later
      -- The exponent is too large, and the sign of it decides whether that is an error.
      case h_2 left gathered =>
        obtain ⟨same, goesOn⟩ := gatherExponent_eq_inr gathered
        split at read
        case isTrue => cases read
        case isFalse small =>
          -- An exponent too far down leaves zero, and none of its digits.
          obtain ⟨rfl, rfl⟩ := Prod.mk.inj (Except.ok.inj read)
          refine ⟨same, fun later ends => ?_⟩
          obtain ⟨others, gathers, drops⟩ := goesOn later ends
          rw [opens] at gathers ⊢
          rw [readPower, if_pos digit, gathers]
          dsimp only
          rw [if_neg small, drops]

/-- An exponent is read up to what ends its digits. -/
theorem exists_takesNumber_readExponent {start : Int}
    (read : readExponent negative significand start bytes = .ok (value, rest)) :
    ∃ used, bytes = used ++ rest
      ∧ TakesNumber (readExponent negative significand start) used value := by
  unfold readExponent at read
  split at read
  -- Behind the mark of an exponent something has to follow.
  case h_1 => cases read
  case h_2 byte after =>
    split at read
    -- The sign is taken before the digits.
    case isTrue plus =>
      obtain ⟨rfl, goesOn⟩ := readPower_eq_ok read
      refine ⟨byte :: after.takeWhile isDigit, by simp, fun later ends => ?_⟩
      rw [List.cons_append, readExponent, if_pos plus]
      exact goesOn later (endsRun_isNumberByte ends).1
    case isFalse noPlus =>
      split at read
      -- So is the other sign.
      case isTrue minus =>
        obtain ⟨rfl, goesOn⟩ := readPower_eq_ok read
        refine ⟨byte :: after.takeWhile isDigit, by simp, fun later ends => ?_⟩
        rw [List.cons_append, readExponent, if_neg noPlus, if_pos minus]
        exact goesOn later (endsRun_isNumberByte ends).1
      case isFalse noMinus =>
        -- Without a sign the exponent begins with a digit, which is none.
        have digit : isDigit byte = true := by
          by_contra other
          rw [readPower, if_neg other] at read
          cases read
        obtain ⟨rfl, goesOn⟩ := readPower_eq_ok read
        refine ⟨(byte :: after).takeWhile isDigit, List.takeWhile_append_dropWhile.symm,
          fun later ends => ?_⟩
        have power := goesOn later (endsRun_isNumberByte ends).1
        rw [List.takeWhile_cons_of_pos digit, List.cons_append] at power ⊢
        rw [readExponent, if_neg noPlus, if_neg noMinus]
        exact power

/-- What follows the digits of a number is read up to what ends the number. -/
theorem exists_takesNumber_readScale {exponent : Int}
    (read : readScale negative significand exponent bytes = .ok (value, rest)) :
    ∃ used, bytes = used ++ rest
      ∧ TakesNumber (readScale negative significand exponent) used value := by
  -- Without a mark the number ends here, and nothing is taken.
  have stop (scaled : readScaled negative significand exponent bytes = .ok (value, rest)) :
      ∃ used, bytes = used ++ rest
        ∧ TakesNumber (readScale negative significand exponent) used value := by
    obtain ⟨rfl, again⟩ := readScaled_eq_ok scaled
    refine ⟨[], rfl, fun later ends => ?_⟩
    cases later with
    | nil => exact again []
    | cons byte after =>
      -- What ends the number is no mark of an exponent either.
      have other := (endsRun_isNumberByte ends).2 byte rfl
      rw [List.nil_append, readScale, if_neg (ne_true_of_eq_false other.2)]
      exact again _
  cases bytes with
  | nil => exact stop read
  | cons byte after =>
    rw [readScale] at read
    split at read
    -- With a mark the exponent is taken behind it.
    case isTrue mark =>
      obtain ⟨used, rfl, takes⟩ := exists_takesNumber_readExponent read
      refine ⟨byte :: used, rfl, fun later ends => ?_⟩
      rw [List.cons_append, readScale, if_pos mark]
      exact takes later ends
    case isFalse => exact stop read

/-! ## Fractions and whole numbers -/

/-- A point is followed by digits and perhaps an exponent. -/
theorem exists_takesNumber_readFraction
    (read : readFraction negative significand omitted bytes = .ok (value, rest)) :
    ∃ used, bytes = used ++ rest
      ∧ TakesNumber (readFraction negative significand omitted) used value := by
  -- Digits and what stands behind them make up the whole.
  have parts : bytes.takeWhile isDigit ++ bytes.dropWhile isDigit = bytes :=
    List.takeWhile_append_dropWhile
  simp only [readFraction] at read
  split at read
  -- A point without digits behind it is an error.
  case isTrue none => split at read <;> cases read
  case isFalse some =>
    obtain ⟨used, same, takes⟩ := exists_takesNumber_readScale read
    refine ⟨bytes.takeWhile isDigit ++ used, ?_, fun later ends => ?_⟩
    · rw [List.append_assoc, ← same, parts]
    -- The digits are the same run before whatever follows, since what is used ends them too.
    · have run := digits_run bytes (endsRun_append same (endsRun_isNumberByte ends).1)
      simp only [readFraction, List.append_assoc, run]
      rw [if_neg some]
      exact takes later ends

/-- A number that ends with its whole part leaves what follows it alone. -/
theorem readWhole_eq_ok
    (read : readWhole negative significand omitted bytes = .ok (value, rest)) :
    bytes = rest
      ∧ ∀ later, readWhole negative significand omitted later = .ok (value, later) := by
  unfold readWhole at read ⊢
  split at read
  -- No digit was left out, so the number is a whole one.
  case isTrue all =>
    obtain ⟨rfl, rfl⟩ := Prod.mk.inj (Except.ok.inj read)
    exact ⟨rfl, fun later => by rw [if_pos all]⟩
  -- Digits were left out, and the number is scaled by as many powers of ten.
  case isFalse some =>
    obtain ⟨rfl, again⟩ := readScaled_eq_ok read
    exact ⟨rfl, fun later => by rw [if_neg some, again]⟩

/-- What follows the whole part of a number is read up to what ends the number. -/
theorem exists_takesNumber_readAfterWhole
    (read : readAfterWhole negative significand omitted bytes = .ok (value, rest)) :
    ∃ used, bytes = used ++ rest
      ∧ TakesNumber (readAfterWhole negative significand omitted) used value := by
  -- With neither a point nor a mark the number ends here.
  have stop (whole : readWhole negative significand omitted bytes = .ok (value, rest)) :
      ∃ used, bytes = used ++ rest
        ∧ TakesNumber (readAfterWhole negative significand omitted) used value := by
    obtain ⟨rfl, again⟩ := readWhole_eq_ok whole
    refine ⟨[], rfl, fun later ends => ?_⟩
    cases later with
    | nil => exact again []
    | cons byte after =>
      -- What ends the number is neither of the two.
      have other := (endsRun_isNumberByte ends).2 byte rfl
      rw [List.nil_append, readAfterWhole, if_neg (ne_true_of_eq_false other.1),
        if_neg (ne_true_of_eq_false other.2)]
      exact again _
  cases bytes with
  | nil => exact stop read
  | cons byte after =>
    rw [readAfterWhole] at read
    split at read
    -- The fraction is taken behind the point.
    case isTrue point =>
      obtain ⟨used, rfl, takes⟩ := exists_takesNumber_readFraction read
      refine ⟨byte :: used, rfl, fun later ends => ?_⟩
      rw [List.cons_append, readAfterWhole, if_pos point]
      exact takes later ends
    case isFalse noPoint =>
      split at read
      -- The exponent is taken behind its mark.
      case isTrue mark =>
        obtain ⟨used, rfl, takes⟩ := exists_takesNumber_readExponent read
        refine ⟨byte :: used, rfl, fun later ends => ?_⟩
        rw [List.cons_append, readAfterWhole, if_neg noPoint, if_pos mark]
        exact takes later ends
      case isFalse => exact stop read

/-- A zero in front stands alone, before what the number has after its whole part. -/
theorem readNumber_zero {byte : UInt8} (zero : (byte == ascii '0') = true)
    (alone : EndsRun isDigit bytes) :
    readNumber negative (byte :: bytes) = readAfterWhole negative 0 0 bytes := by
  -- The reader looks for a digit behind the zero, which would be an error.
  simp only [readNumber, if_pos zero]
  cases bytes with
  | nil => rfl
  | cons next later => exact if_neg (ne_true_of_eq_false (alone next rfl))

/-- A number is read up to what ends it, and it has at least one digit. -/
theorem exists_takesNumber_readNumber (read : readNumber negative bytes = .ok (value, rest)) :
    ∃ used, bytes = used ++ rest ∧ used ≠ [] ∧ TakesNumber (readNumber negative) used value := by
  cases bytes with
  -- There has to be a first byte.
  | nil => cases read
  | cons byte after =>
    by_cases zero : (byte == ascii '0') = true
    · -- After a zero there is no digit, or the number would not have been read.
      have alone : EndsRun isDigit after := by
        cases after with
        | nil => exact endsRun_nil _
        | cons next later =>
          refine endsRun_cons ?_ _
          by_contra digit
          rw [readNumber, if_pos zero] at read
          simp only [Bool.not_eq_false] at digit
          simp only [if_pos digit] at read
          cases read
      rw [readNumber_zero zero alone] at read
      obtain ⟨used, rfl, takes⟩ := exists_takesNumber_readAfterWhole read
      refine ⟨byte :: used, rfl, List.cons_ne_nil _ _, fun later ends => ?_⟩
      -- What was used does not begin with a digit, and neither does what follows it.
      have still : EndsRun isDigit (used ++ later) := by
        cases used with
        | nil => exact (endsRun_isNumberByte ends).1
        | cons next used => exact endsRun_cons (alone next rfl) _
      rw [List.cons_append, readNumber_zero zero still]
      exact takes later ends
    -- Any other digit begins a run of digits.
    · simp only [readNumber, if_neg zero] at read
      split at read
      case isFalse => cases read
      case isTrue digit =>
        obtain ⟨used, same, takes⟩ := exists_takesNumber_readAfterWhole read
        have parts := List.takeWhile_append_dropWhile (p := isDigit) (l := byte :: after)
        refine ⟨(byte :: after).takeWhile isDigit ++ used, ?_, ?_, fun later ends => ?_⟩
        · rw [List.append_assoc, ← same, parts]
        · rw [List.takeWhile_cons_of_pos digit]
          exact List.cons_ne_nil _ _
        -- The run is the same before whatever follows, since what is used behind it ends it.
        · have run := digits_run (byte :: after)
            (endsRun_append same (endsRun_isNumberByte ends).1)
          have read := takes later ends
          rw [List.takeWhile_cons_of_pos digit] at run read ⊢
          simp only [List.cons_append, List.append_assoc] at run read ⊢
          simp only [readNumber, if_neg zero, if_pos digit, run]
          exact read

end Numbers

end RoomAir.Json