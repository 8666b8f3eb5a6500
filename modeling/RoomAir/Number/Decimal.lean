import RoomAir.Number.Double

/-! The fewest decimal digits that read back as a double, and the texts they are laid out in. -/

namespace RoomAir

/-- A decimal magnitude `digits * 10 ^ exponent`. -/
structure Decimal where
  /-- The digits read as one whole number. -/
  digits : Nat
  /-- The power of ten they are counted in. -/
  exponent : Int
  deriving DecidableEq, Repr

/-- Where a value lies exactly between two shortest candidates, the neighbour that is taken. -/
inductive Tie where
  | toEven
  | up
  deriving DecidableEq, Repr

namespace Decimal

/-- The decimal digits of a natural number, most significant first. -/
def digitsOf (value : Nat) : List Char :=
  Nat.toDigits 10 value

/-- The same value with no trailing zero among its digits. -/
def normalize : Nat → Decimal → Decimal
  | 0, value => value
  | fuel + 1, value =>
    if value.digits ≠ 0 ∧ value.digits % 10 = 0 then
      normalize fuel ⟨value.digits / 10, value.exponent + 1⟩
    else value

/-- Whether a decimal magnitude reads back as the given double's magnitude. -/
def readsBack (x : Double) (candidate : Decimal) : Bool :=
  Double.ofDecimal? x.negative candidate.digits candidate.exponent == some x

/-- How many digits the double has before the decimal point, negative for leading zeros after it. -/
def pointPosition (x : Double) : Int :=
  -- Even the smallest double has a digit before the point once it is scaled this far.
  (digitsOf (x.units * 10 ^ 340 / Double.unitsPerOne)).length - 340

/-- The nearer of two neighbours `digits` and `digits + 1` of a quotient. -/
def nearer (tie : Tie) (numerator denominator digits : Nat) : Nat :=
  let twice := 2 * (numerator % denominator)
  if twice < denominator then digits
  else if denominator < twice then digits + 1
  else match tie with
    | .up => digits + 1
    | .toEven => if digits % 2 = 0 then digits else digits + 1

/-- Of two neighbours the one that passes, or the preferred one when both do. -/
def pick (passes : Decimal → Bool) (below above preferred : Decimal) : Option Decimal :=
  match passes below, passes above with
  | true, false => some below
  | false, true => some above
  | false, false => none
  | true, true => some preferred

/-- The shortest candidate on the grid of multiples of `10 ^ exponent`, if one reads back. -/
def onGrid (x : Double) (tie : Tie) (exponent : Int) : Option Decimal :=
  let numerator := x.units * 10 ^ (-exponent).toNat
  let denominator := Double.unitsPerOne * 10 ^ exponent.toNat
  let digits := numerator / denominator
  pick (readsBack x) ⟨digits, exponent⟩ ⟨digits + 1, exponent⟩
    ⟨nearer tie numerator denominator digits, exponent⟩

/-- The exact decimal value of a double. -/
def exact (x : Double) : Decimal :=
  ⟨x.units * 5 ^ Double.halvings, -Double.halvings⟩

/-- The first decimal that reads back as the double when digits are added one by one. -/
def candidate (tie : Tie) (x : Double) : Decimal :=
  -- Seventeen digits always suffice, so the exact value is never reached.
  let found := (List.range 17).findSome? fun (extra : Nat) =>
    onGrid x tie (pointPosition x - (extra + 1 : Nat))
  found.getD (exact x)

/-- The fewest digits that read back as the double, nearest to it among those. -/
def shortest (tie : Tie) (x : Double) : Decimal :=
  if x.isZero then ⟨0, 0⟩
  else normalize (digitsOf (candidate tie x).digits).length (candidate tie x)

/-- Digits with a decimal point and no exponent, a whole number having no point. -/
def positional (value : Decimal) : List Char :=
  let digits := digitsOf value.digits
  if 0 ≤ value.exponent then
    if value.digits = 0 then ['0'] else digits ++ List.replicate value.exponent.toNat '0'
  else
    let places := (-value.exponent).toNat
    let padded := List.replicate (places + 1 - digits.length) '0' ++ digits
    padded.take (padded.length - places) ++ '.' :: padded.drop (padded.length - places)

/-- One digit before the point and the exponent written with its sign. -/
def scientific (value : Decimal) : List Char :=
  let digits := digitsOf value.digits
  let exponent := value.exponent + (digits.length - 1 : Nat)
  let fraction := if digits.length = 1 then [] else '.' :: digits.drop 1
  digits.take 1 ++ fraction ++ 'e' :: (if exponent < 0 then '-' else '+') ::
    digitsOf exponent.natAbs

/-- The text of a JSON number: with a point or an exponent in every case. -/
def jsonChars (value : Decimal) : List Char :=
  let leading := value.exponent + ((digitsOf value.digits).length - 1 : Nat)
  -- Exponents from -5 up to 15 are written out in full.
  if value.digits = 0 then ['0', '.', '0']
  else if -5 ≤ leading ∧ leading < 16 then
    if 0 ≤ value.exponent then value.positional ++ ['.', '0'] else value.positional
  else value.scientific

end Decimal

namespace Double

/-- The minus sign of a negative number, zero included. -/
def signText (x : Double) : List Char :=
  if x.negative then ['-'] else []

/-- The text shown to readers of a page: shortest digits, never an exponent, no trailing `.0`. -/
def display (x : Double) : String :=
  String.ofList (x.signText ++ (Decimal.shortest .up x).positional)

/-- The text of a JSON number: the shortest digits after the sign. -/
def jsonText (x : Double) : String :=
  String.ofList (x.signText ++ (Decimal.shortest .toEven x).jsonChars)

end Double

end RoomAir
