import Mathlib.Data.Nat.Log
import RoomAir.Number.Decimal

/-! Rounding to doubles: it depends on the value alone, and the shortest digits round back. -/

namespace RoomAir

namespace Double

/-- Rounding to whole numbers depends on the quotient alone. -/
theorem roundHalfEven_mul_right (numerator denominator : Nat) {factor : Nat}
    (positive : 0 < factor) :
    roundHalfEven (numerator * factor) (denominator * factor)
      = roundHalfEven numerator denominator := by
  have whole : numerator * factor / (denominator * factor) = numerator / denominator :=
    Nat.mul_div_mul_right _ _ positive
  have twice : 2 * (numerator * factor % (denominator * factor))
      = 2 * (numerator % denominator) * factor := by
    rw [Nat.mul_mod_mul_right, Nat.mul_assoc]
  -- Both comparisons are scaled by the same factor.
  simp only [roundHalfEven, whole, twice, Nat.mul_lt_mul_right positive]

/-- A quotient that is whole is not rounded. -/
theorem roundHalfEven_mul_self (value : Nat) {denominator : Nat} (positive : 0 < denominator) :
    roundHalfEven (value * denominator) denominator = value := by
  -- Nothing is left over by the division, so neither comparison rounds up.
  simp [roundHalfEven, Nat.mul_div_cancel value positive, positive]

/-- The nearest double depends on the quotient alone. -/
theorem nearest?_mul_right (negative : Bool) (numerator denominator : Nat) {factor : Nat}
    (positive : 0 < factor) :
    nearest? negative (numerator * factor) (denominator * factor)
      = nearest? negative numerator denominator := by
  -- The scale is found from the quotient, and the rounding at that scale depends on it too.
  have whole : numerator * factor / (denominator * factor) = numerator / denominator :=
    Nat.mul_div_mul_right _ _ positive
  have rounded (scale : Nat) : roundHalfEven (numerator * factor) (denominator * factor * 2 ^ scale)
      = roundHalfEven numerator (denominator * 2 ^ scale) := by
    rw [Nat.mul_right_comm, roundHalfEven_mul_right _ _ positive]
  simp only [nearest?, whole, rounded]

/-- The scale of a double can be told from its size. -/
theorem log2_units_sub (x : Double) : Nat.log2 x.units - 52 = x.scale := by
  obtain ⟨negative, significand, scale, small, -, leading⟩ := x
  simp only [units]
  rcases leading with rfl | leading
  · -- At the smallest scale the significand may be small, but not too large.
    rw [Nat.pow_zero, Nat.mul_one]
    rcases Nat.eq_zero_or_pos significand with rfl | positive
    · rfl
    · have := (Nat.log2_lt (by omega)).mpr small
      omega
  · -- Above it the leading bit is the 53rd, so the size is known to the bit.
    have nonzero : significand * 2 ^ scale ≠ 0 :=
      Nat.mul_ne_zero (by omega) (Nat.two_pow_pos scale).ne'
    have above : 52 + scale ≤ Nat.log2 (significand * 2 ^ scale) := by
      rw [Nat.le_log2 nonzero, Nat.pow_add]
      exact Nat.mul_le_mul_right _ leading
    have below : Nat.log2 (significand * 2 ^ scale) < 53 + scale := by
      rw [Nat.log2_lt nonzero, Nat.pow_add]
      exact Nat.mul_lt_mul_of_pos_right small (Nat.two_pow_pos scale)
    omega

/-- The exact value of a double is rounded to that double. -/
theorem nearest?_units (x : Double) {denominator : Nat} (positive : 0 < denominator) :
    nearest? x.negative (x.units * denominator) denominator = some x := by
  have scale : Nat.log2 (x.units * denominator / denominator) - 52 = x.scale := by
    rw [Nat.mul_div_cancel _ positive, log2_units_sub]
  have significand :
      roundHalfEven (x.units * denominator) (denominator * 2 ^ x.scale) = x.significand := by
    rw [units, Nat.mul_assoc, Nat.mul_comm (2 ^ x.scale),
      roundHalfEven_mul_self _ (Nat.mul_pos positive (Nat.two_pow_pos _))]
  have canonical := x.canonical
  -- Scale and significand are those of the double itself, so no bit is carried.
  simp only [nearest?, scale, significand]
  rw [if_neg (by omega), ofParts?, dif_pos canonical]

/-- With an exponent that is not negative the digits are multiplied. -/
theorem ofDecimal?_natCast (negative : Bool) (digits places : Nat) :
    ofDecimal? negative digits places
      = nearest? negative (digits * 10 ^ places * unitsPerOne) 1 := by
  have below : (-(places : Int)).toNat = 0 := by omega
  -- The exponent has no negative part, so the denominator is one.
  rw [ofDecimal?, Int.toNat_natCast, below, Nat.pow_zero]

/-- With an exponent that is not positive the digits are divided. -/
theorem ofDecimal?_neg (negative : Bool) (digits places : Nat) :
    ofDecimal? negative digits (-(places : Int))
      = nearest? negative (digits * unitsPerOne) (10 ^ places) := by
  have below : (-(places : Int)).toNat = 0 := by omega
  -- The exponent has no positive part, so the digits are not multiplied.
  rw [ofDecimal?, below, Int.neg_neg, Int.toNat_natCast, Nat.pow_zero, Nat.mul_one]

/-- Zeros at the end of the digits count like a larger exponent. -/
theorem ofDecimal?_mul_pow (negative : Bool) (digits count : Nat) (exponent : Int) :
    ofDecimal? negative (digits * 10 ^ count) exponent
      = ofDecimal? negative digits (exponent + count) := by
  have power (count : Nat) : 0 < 10 ^ count := Nat.pow_pos (by decide)
  rcases Int.le_total 0 exponent with up | down
  · -- With the point to the right of the digits the two products are the same.
    obtain ⟨places, rfl⟩ := Int.eq_ofNat_of_zero_le up
    have sum : (places : Int) + count = (count + places : Nat) := by omega
    rw [sum, ofDecimal?_natCast, ofDecimal?_natCast, Nat.pow_add, Nat.mul_assoc digits]
  -- With the point inside of the digits or in front of them the places are taken from the zeros.
  · obtain ⟨places, same⟩ := Int.eq_ofNat_of_zero_le (Int.neg_nonneg_of_nonpos down)
    obtain rfl : exponent = -(places : Int) := by omega
    rw [ofDecimal?_neg]
    rcases Nat.le_total count places with few | many
    · -- The zeros take places away, in the numerator as in the denominator.
      have rest : -(places : Int) + count = -((places - count : Nat) : Int) := by omega
      have split : 10 ^ places = 10 ^ (places - count) * 10 ^ count := by
        rw [← Nat.pow_add, Nat.sub_add_cancel few]
      rw [rest, ofDecimal?_neg, split, Nat.mul_right_comm, nearest?_mul_right _ _ _ (power count)]
    · -- The zeros reach past the point.
      have rest : -(places : Int) + count = (count - places : Nat) := by omega
      have split : 10 ^ count = 10 ^ (count - places) * 10 ^ places := by
        rw [← Nat.pow_add, Nat.sub_add_cancel many]
      have scaled := nearest?_mul_right negative (digits * 10 ^ (count - places) * unitsPerOne) 1
        (power places)
      rw [rest, ofDecimal?_natCast, split, ← scaled, Nat.one_mul, ← Nat.mul_assoc digits,
        Nat.mul_right_comm _ (10 ^ places)]

/-- Nothing is nearest to zero but zero, whatever power of ten it is counted in. -/
theorem ofDecimal?_zero (negative : Bool) (exponent : Int) :
    ofDecimal? negative 0 exponent = some (zero negative) := by
  -- Zero counts no units, whatever it is divided by.
  have power : 0 < 10 ^ (-exponent).toNat := Nat.pow_pos (by decide)
  have value := nearest?_units (zero negative) power
  have none : (zero negative).units = 0 := by simp [zero, units]
  rw [none, Nat.zero_mul] at value
  rw [ofDecimal?, Nat.zero_mul, Nat.zero_mul]
  exact value

/-- A double of magnitude zero is the zero of its sign. -/
theorem eq_zero_of_isZero {x : Double} (none : x.isZero = true) : x = zero x.negative := by
  obtain ⟨negative, significand, scale, small, bound, leading⟩ := x
  obtain rfl : significand = 0 := by simpa [isZero] using none
  -- Without a leading bit only the smallest scale is canonical.
  obtain rfl : scale = 0 := by omega
  rfl

end Double

namespace Decimal

/-- Reading back is being rounded to the double. -/
theorem readsBack_iff (x : Double) (candidate : Decimal) :
    readsBack x candidate = true
      ↔ Double.ofDecimal? x.negative candidate.digits candidate.exponent = some x := by
  -- The reader of decimals is that rounding.
  rw [readsBack, beq_iff_eq]

/-- The nearer neighbour is one of the two. -/
theorem nearer_eq_or (tie : Tie) (numerator denominator digits : Nat) :
    nearer tie numerator denominator digits = digits
      ∨ nearer tie numerator denominator digits = digits + 1 := by
  -- A remainder below one half keeps the lower one, above it the upper; a tie is settled.
  simp only [nearer]
  split
  · exact .inl rfl
  · split
    · exact .inr rfl
    · cases tie with
      | toEven => exact ite_eq_or_eq _ _ _
      | up => exact .inr rfl

/-- What is picked passes. -/
theorem passes_of_pick {passes : Decimal → Bool} {below above preferred found : Decimal}
    (neighbour : preferred = below ∨ preferred = above)
    (picked : pick passes below above preferred = some found) : passes found = true := by
  unfold pick at picked
  -- The cases say which of the two neighbours pass.
  split at picked
  case h_1 lower _ => exact Option.some.inj picked ▸ lower
  case h_2 _ upper => exact Option.some.inj picked ▸ upper
  case h_3 => exact absurd picked (Option.some_ne_none _).symm
  case h_4 lower upper =>
    obtain rfl := Option.some.inj picked
    rcases neighbour with rfl | rfl
    · exact lower
    · exact upper

/-- What a grid yields reads back. -/
theorem readsBack_of_onGrid {x : Double} {tie : Tie} {exponent : Int} {found : Decimal}
    (grid : onGrid x tie exponent = some found) : readsBack x found = true := by
  -- The grid picks from the two neighbours of the double on it.
  refine passes_of_pick ?_ grid
  rcases nearer_eq_or tie (x.units * 10 ^ (-exponent).toNat)
    (Double.unitsPerOne * 10 ^ exponent.toNat)
    (x.units * 10 ^ (-exponent).toNat / (Double.unitsPerOne * 10 ^ exponent.toNat))
    with lower | upper
  · exact .inl (by rw [lower])
  · exact .inr (by rw [upper])

/-- The exact decimal value of a double reads back. -/
theorem readsBack_exact (x : Double) : readsBack x (exact x) = true := by
  rw [readsBack_iff, exact, Double.ofDecimal?_neg, Double.unitsPerOne]
  -- The number of places becomes a variable, so that no power is ever computed.
  generalize Double.halvings = places
  rw [Nat.mul_assoc, ← Nat.mul_pow]
  exact Double.nearest?_units x (Nat.pow_pos (by decide))

/-- Without its last zeros a decimal is rounded to the same double. -/
theorem ofDecimal?_normalize (negative : Bool) (fuel : Nat) (value : Decimal) :
    Double.ofDecimal? negative (normalize fuel value).digits (normalize fuel value).exponent
      = Double.ofDecimal? negative value.digits value.exponent := by
  induction fuel generalizing value with
  -- Without fuel no zero is taken away.
  | zero => rw [normalize]
  | succ fuel ih =>
    rw [normalize]
    split
    case isTrue ends =>
      -- Taking the zero away divides the digits by ten and adds one to the exponent.
      have whole : value.digits = value.digits / 10 * 10 ^ 1 := by omega
      rw [ih]
      conv_rhs => rw [whole, Double.ofDecimal?_mul_pow, Int.natCast_one]
    case isFalse => rw []

/-- The decimal that the digits are taken from reads back. -/
theorem readsBack_candidate (tie : Tie) (x : Double) : readsBack x (candidate tie x) = true := by
  rw [candidate]
  cases found : (List.range 17).findSome? fun (extra : Nat) =>
      onGrid x tie (pointPosition x - (extra + 1 : Nat)) with
  -- No grid yields digits, so those of the exact value are taken.
  | none => exact readsBack_exact x
  | some value =>
    -- Whatever was found was found on some grid.
    obtain ⟨extra, -, grid⟩ := List.exists_of_findSome?_eq_some found
    exact readsBack_of_onGrid grid

/-- The shortest digits of a double are rounded to that double. -/
theorem ofDecimal?_shortest (tie : Tie) (x : Double) :
    Double.ofDecimal? x.negative (shortest tie x).digits (shortest tie x).exponent = some x := by
  -- Zero is written as itself, and any other double by digits that read back.
  rw [shortest]
  cases none : x.isZero with
  -- There is one double of magnitude zero for each sign.
  | true =>
    rw [if_pos rfl, Double.ofDecimal?_zero, ← Double.eq_zero_of_isZero none]
  | false =>
    -- The zeros at the end may be taken away again.
    rw [if_neg Bool.false_ne_true, ofDecimal?_normalize]
    exact (readsBack_iff x _).mp (readsBack_candidate tie x)

end Decimal

end RoomAir
