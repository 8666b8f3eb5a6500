import RoomAir.Text.Utf8

/-! Query strings: percent-encoded values and the pairs of a submitted form. -/

namespace RoomAir.Form

/-- Whether a byte stands for itself in a percent-encoded value. -/
def isUnreserved (byte : UInt8) : Bool :=
  let c := Char.ofNat byte.toNat
  c.isAlphanum || c = '-' || c = '_' || c = '.' || c = '~'

/-- A hexadecimal digit in upper case. -/
def hexDigit (value : Nat) : Char :=
  if value < 10 then Char.ofNat ('0'.toNat + value) else Char.ofNat ('A'.toNat + (value - 10))

/-- The value of a hexadecimal digit in either case. -/
def hexValue? (c : Char) : Option Nat :=
  if '0' ≤ c ∧ c ≤ '9' then some (c.toNat - '0'.toNat)
  else if 'A' ≤ c ∧ c ≤ 'F' then some (c.toNat - 'A'.toNat + 10)
  else if 'a' ≤ c ∧ c ≤ 'f' then some (c.toNat - 'a'.toNat + 10)
  else none

/-- A byte as a percent sign and two hexadecimal digits. -/
def percentByte (byte : UInt8) : List Char :=
  ['%', hexDigit (byte.toNat / 16), hexDigit (byte.toNat % 16)]

/-- A value with every byte percent-encoded that is not unreserved. -/
def encode (value : String) : String :=
  String.ofList ((Utf8.encode value).flatMap fun byte =>
    if isUnreserved byte then [Char.ofNat byte.toNat] else percentByte byte)

/-- The bytes a percent-encoded value stands for, a malformed escape standing for itself. -/
def percentDecode : List Char → Bytes
  | [] => []
  | '%' :: high :: low :: rest =>
    match hexValue? high, hexValue? low with
    | some h, some l => (h * 16 + l).toUInt8 :: percentDecode rest
    -- The percent sign stands for itself, and what follows it is looked at afresh.
    | _, _ => '%'.toNat.toUInt8 :: percentDecode (high :: low :: rest)
  | c :: rest => Utf8.encodeChar c ++ percentDecode rest

/-- The text a form value stands for, in which a plus is a space. -/
def decode (value : List Char) : String :=
  Utf8.decodeLossy (percentDecode (value.map fun c => if c = '+' then ' ' else c))

/-- A text split at every occurrence of a separator. -/
def splitAt (separator : Char) : List Char → List (List Char)
  | [] => [[]]
  | c :: rest =>
    match splitAt separator rest with
    | [] => [[c]]
    | part :: parts => if c = separator then [] :: part :: parts else (c :: part) :: parts

/-- The name and value of one form field, the value being empty without an equals sign. -/
def field (segment : List Char) : String × String :=
  let name := segment.takeWhile (· ≠ '=')
  let value := (segment.dropWhile (· ≠ '=')).drop 1
  (decode name, decode value)

/-- The fields of a query string in order, empty segments standing for nothing. -/
def fields (query : String) : List (String × String) :=
  ((splitAt '&' query.toList).filter (fun segment => !segment.isEmpty)).map field

end RoomAir.Form
