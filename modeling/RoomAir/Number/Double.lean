/-! Finite binary64 numbers, held as exact multiples of the smallest positive one. -/

namespace RoomAir

/-- Powers of whole numbers are the usual ones, whatever algebra is imported beside them. -/
@[default_instance 20000]
instance (priority := high) powWhole {α : Type} [NatPow α] : Pow α Nat :=
  instPowNat

/-- A finite binary64 number: a sign and `significand * 2 ^ scale` units of `2 ^ -1074`. -/
structure Double where
  /-- The sign, kept for zero as well. -/
  negative : Bool
  /-- The significand, of at most 53 bits. -/
  significand : Nat
  /-- How many times the significand is doubled. -/
  scale : Nat
  /-- Above the smallest scale the leading bit is set, so each number has one form. -/
  canonical : significand < 2 ^ 53 ∧ scale ≤ 2045 ∧ (scale = 0 ∨ 2 ^ 52 ≤ significand)
  deriving DecidableEq

namespace Double

/-- The number one is halved this often to reach the unit. -/
def halvings : Nat := 1074

/-- The number one counts this many units. -/
def unitsPerOne : Nat := 2 ^ halvings

/-- The magnitude as a whole number of units. -/
def units (x : Double) : Nat :=
  x.significand * 2 ^ x.scale

/-- The number with the given parts, if they are in canonical form. -/
def ofParts? (negative : Bool) (significand scale : Nat) : Option Double :=
  if canonical : significand < 2 ^ 53 ∧ scale ≤ 2045 ∧ (scale = 0 ∨ 2 ^ 52 ≤ significand) then
    some { negative, significand, scale, canonical }
  else none

/-- Zero with the given sign. -/
def zero (negative : Bool) : Double :=
  { negative, significand := 0, scale := 0, canonical := by decide }

instance : Inhabited Double := ⟨zero false⟩

/-- Whether the magnitude is zero, whatever the sign. -/
def isZero (x : Double) : Bool :=
  x.significand == 0

/-- The same magnitude with the opposite sign. -/
def negate (x : Double) : Double :=
  { x with negative := !x.negative }

/-- The whole number nearest to a quotient, a half going to the even neighbour. -/
def roundHalfEven (numerator denominator : Nat) : Nat :=
  let whole := numerator / denominator
  let twice := 2 * (numerator % denominator)
  if twice < denominator then whole
  else if denominator < twice then whole + 1
  else whole + whole % 2

/-- The double nearest to a quotient counted in units, or nothing when it is out of range. -/
def nearest? (negative : Bool) (numerator denominator : Nat) : Option Double :=
  -- The scale leaves 53 bits of the whole part, or all of them when there are fewer.
  let scale := Nat.log2 (numerator / denominator) - 52
  let significand := roundHalfEven numerator (denominator * 2 ^ scale)
  -- Rounding up may carry into a 54th bit, which is then the only one set.
  if significand = 2 ^ 53 then ofParts? negative (2 ^ 52) (scale + 1)
  else ofParts? negative significand scale

/-- The double nearest to `digits * 10 ^ exponent`, or nothing when it is out of range. -/
def ofDecimal? (negative : Bool) (digits : Nat) (exponent : Int) : Option Double :=
  nearest? negative (digits * 10 ^ exponent.toNat * unitsPerOne) (10 ^ (-exponent).toNat)

/-- The product rounded to the nearest double. -/
def mul? (x y : Double) : Option Double :=
  nearest? (x.negative != y.negative) (x.units * y.units) unitsPerOne

/-- The quotient rounded to the nearest double, the divisor not being zero. -/
def div? (x y : Double) : Option Double :=
  nearest? (x.negative != y.negative) (x.units * unitsPerOne) y.units

/-- Whether the number is at most a whole number. -/
def atMost (x : Double) (bound : Nat) : Bool :=
  x.negative || decide (x.units ≤ bound * unitsPerOne)

/-- The nearest whole number to the magnitude, a half going away from zero. -/
def roundHalfAway (x : Double) : Nat :=
  (2 * x.units + unitsPerOne) / (2 * unitsPerOne)

end Double

end RoomAir
