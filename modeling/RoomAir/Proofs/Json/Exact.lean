import RoomAir.Json.Reader

/-! JSON as a browser reads it: numbers are rounded once, and values nest as deep as they like. -/

namespace RoomAir.Json

/-- Whether digits may stand before a point: there are some, and a zero in front stands alone. -/
def isWholePart : List Char → Bool
  | [] => false
  | ['0'] => true
  | digit :: _ => digit ≠ '0'

/-- Whether a point, where there is one, has a digit after it. -/
def isPointPart : List Char → Bool
  | ['.'] => false
  | '.' :: digit :: _ => digit.isDigit
  | _ => true

/-- The number that an unsigned text spells, one with a point or an exponent being rounded. -/
def numberText? (round : Decimal → Option Json) (negative : Bool) (text : List Char) :
    Option Json :=
  let whole := text.takeWhile Char.isDigit
  let rest := text.dropWhile Char.isDigit
  if isWholePart whole && isPointPart rest then
    if rest.isEmpty then
      some (.integer (if negative then -(digitsValue whole : Int) else digitsValue whole))
    else (Literal.readMagnitude? text).bind round
  else none

/-- The double nearest to a decimal, as a value. -/
def nearest? (negative : Bool) (value : Decimal) : Option Json :=
  (Double.ofDecimal? negative value.digits value.exponent).map .number

/-- Whether a byte may stand inside a number. -/
def isNumberByte (byte : UInt8) : Bool :=
  isDigit byte || byte == ascii '.' || isExponentMark byte || byte == ascii '+'
    || byte == ascii '-'

/-- A number after its minus sign, which takes up all the bytes that may stand in one. -/
def readExactNumber : NumberReader := fun negative bytes =>
  let rest := bytes.dropWhile isNumberByte
  match numberText? (nearest? negative) negative
      ((bytes.takeWhile isNumberByte).map fun byte => Char.ofNat byte.toNat) with
  | some value => .ok (value, rest)
  | none => .error ⟨.invalidNumber, rest⟩

/-- The whole text as one value. -/
def readExactly (text : List Char) : Except Fault Json :=
  let bytes := text.flatMap Utf8.encodeChar
  (readValue readExactNumber (stepsFor bytes) (bytes.length + 1) bytes).bind complete

end RoomAir.Json
