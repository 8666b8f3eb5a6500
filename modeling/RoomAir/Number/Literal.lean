import RoomAir.Number.Decimal
import RoomAir.Text.Form

/-!
Numbers as texts spell them: floating point literals and whole numbers of 64 bits.

A literal has signs, exponents and names for the special values; a whole number has a base.
-/

namespace RoomAir

/-- A double including the values that are not finite. -/
inductive Extended where
  | finite (x : Double)
  | infinite (negative : Bool)
  | nan
  deriving DecidableEq

/-- The whole number that a run of digits spells. -/
def digitsValue (digits : List Char) : Nat :=
  digits.foldl (fun value digit => value * 10 + (digit.toNat - '0'.toNat)) 0

/-- What a floating point literal denotes before it is rounded to any precision. -/
inductive Literal where
  | decimal (negative : Bool) (value : Decimal)
  | infinite (negative : Bool)
  | nan
  deriving DecidableEq, Repr

namespace Literal

/-- An optional sign, and whether it was a minus. -/
def readSign : List Char → Bool × List Char
  | '-' :: rest => (true, rest)
  | '+' :: rest => (false, rest)
  | text => (false, text)

/-- The signed exponent that fills a text, which needs at least one digit. -/
def readExponent? (text : List Char) : Option Int :=
  let (negative, digits) := readSign text
  if digits.isEmpty || !digits.all Char.isDigit then none
  else
    let value : Int := digitsValue digits
    some (if negative then -value else value)

/-- The exponent after its letter, or zero at the end of a text. -/
def readExponentPart? : List Char → Option Int
  | [] => some 0
  | mark :: more => if mark = 'e' ∨ mark = 'E' then readExponent? more else none

/-- The digits after a point, if a text begins with one, and what follows them. -/
def splitFraction : List Char → List Char × List Char
  | '.' :: more => (more.takeWhile Char.isDigit, more.dropWhile Char.isDigit)
  | text => ([], text)

/-- An unsigned decimal that fills a text: digits on at least one side of an optional point. -/
def readMagnitude? (text : List Char) : Option Decimal := do
  let whole := text.takeWhile Char.isDigit
  let (fraction, rest) := splitFraction (text.dropWhile Char.isDigit)
  if whole.isEmpty && fraction.isEmpty then none
  else
    let exponent ← readExponentPart? rest
    -- Every digit after the point counts in a power of ten one smaller.
    some ⟨digitsValue (whole ++ fraction), exponent - fraction.length⟩

/-- The literal that fills a text, if the text is one. -/
def read? (text : List Char) : Option Literal :=
  let (negative, unsigned) := readSign text
  let name := unsigned.map Char.toLower
  if name = "nan".toList then some .nan
  else if name = "inf".toList ∨ name = "infinity".toList then some (.infinite negative)
  else (readMagnitude? unsigned).map (.decimal negative)

/-- The position of the leading digit, one for a value from one up to ten. -/
def leadingPosition (value : Decimal) : Int :=
  (Decimal.digitsOf value.digits).length + value.exponent

/-- The double nearest to the literal, beyond the finite range an infinity. -/
def toExtended : Literal → Extended
  | .nan => .nan
  | .infinite negative => .infinite negative
  | .decimal negative value =>
    -- Far outside the range the answer is known without forming the power of ten.
    if value.digits = 0 ∨ leadingPosition value < -400 then .finite (.zero negative)
    else if 400 < leadingPosition value then .infinite negative
    else match Double.ofDecimal? negative value.digits value.exponent with
      | some x => .finite x
      | none => .infinite negative

/-- The number of single precision nearest to the literal, beyond their range an infinity. -/
def toSingle : Literal → Extended
  | .nan => .nan
  | .infinite negative => .infinite negative
  | .decimal negative value =>
    if value.digits = 0 ∨ leadingPosition value < -400 then .finite (.zero negative)
    else if 400 < leadingPosition value then .infinite negative
    else
      -- The value is counted in units of the smallest single, of which 24 bits are kept.
      let numerator := value.digits * 10 ^ value.exponent.toNat * 2 ^ 149
      let denominator := 10 ^ (-value.exponent).toNat
      let scale := Nat.log2 (numerator / denominator) - 23
      let units := Double.roundHalfEven numerator (denominator * 2 ^ scale) * 2 ^ scale
      if 2 ^ (128 + 149) ≤ units then .infinite negative
      else match Double.nearest? negative (units * 2 ^ (1074 - 149)) 1 with
        | some x => .finite x
        | none => .infinite negative

/-- Whether the literal is above zero once it is rounded to single precision. -/
def positiveInSingle : Literal → Bool
  | .nan => false
  | .infinite negative => !negative
  | .decimal negative value =>
    -- Half of the smallest single rounds to zero and anything above it does not.
    if negative || value.digits = 0 || decide (leadingPosition value < -400) then false
    else if 400 < leadingPosition value then true
    else decide (10 ^ (-value.exponent).toNat
      < value.digits * 10 ^ value.exponent.toNat * 2 ^ 150)

end Literal

namespace Extended

/-- Whether the value is at most a whole number, which holds of no NaN. -/
def atMost : Extended → Nat → Bool
  | .finite x, bound => x.atMost bound
  | .infinite negative, _ => negative
  | .nan, _ => false

/-- The text shown for the value, with names for those that are not finite. -/
def display : Extended → String
  | .finite x => x.display
  | .infinite negative => if negative then "-inf" else "inf"
  | .nan => "NaN"

end Extended

end RoomAir

namespace RoomAir.Whole

/-- The number that a text of digits spells in a base of at most sixteen. -/
def digits? (base : Nat) (text : List Char) : Option Nat :=
  let values := text.map fun c => (Form.hexValue? c).filter (· < base)
  if text.isEmpty then none
  else (values.mapM id).map fun values => values.foldl (fun value digit => value * base + digit) 0

/-- The number that a text spells after an optional sign, if it fits 64 bits with a sign. -/
def signed? (base : Nat) (text : List Char) : Option Int := do
  let (negative, unsigned) := Literal.readSign text
  let magnitude ← digits? base unsigned
  let value : Int := if negative then -magnitude else magnitude
  if -2 ^ 63 ≤ value ∧ value < 2 ^ 63 then some value else none

/-- The number that a text spells after an optional plus, if it fits 64 bits without a sign. -/
def unsigned? (text : List Char) : Option Nat := do
  let unsigned := if text.head? = some '+' then text.drop 1 else text
  let value ← digits? 10 unsigned
  if value < 2 ^ 64 then some value else none

end RoomAir.Whole
