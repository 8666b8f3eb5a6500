/-! Characters as UTF-8 bytes, and bytes read back with every malformed place marked. -/

namespace RoomAir

/-- A byte string. -/
abbrev Bytes := List UInt8

namespace Utf8

/-- The one to four bytes of a character. -/
def encodeChar (c : Char) : Bytes :=
  let code := c.toNat
  -- Every byte after the first holds six bits.
  let tail (value : Nat) : UInt8 := (0x80 + value % 64).toUInt8
  if code < 0x80 then [code.toUInt8]
  else if code < 0x800 then [(0xC0 + code / 64).toUInt8, tail code]
  else if code < 0x10000 then
    [(0xE0 + code / 4096).toUInt8, tail (code / 64), tail code]
  else [(0xF0 + code / 262144).toUInt8, tail (code / 4096), tail (code / 64), tail code]

/-- The bytes of a text. -/
def encode (text : String) : Bytes :=
  text.toList.flatMap encodeChar

/-- How many bytes a text takes. -/
def byteLength (text : String) : Nat :=
  text.toList.foldl (fun count c => count + (encodeChar c).length) 0

/-- Where a reader stands between two bytes. -/
inductive State where
  /-- Between characters. -/
  | boundary
  /-- Inside a character: the bytes that are owed, the range of the next, and the bits so far. -/
  | inside (owed low high value : Nat)
  deriving DecidableEq, Repr

/-- What a byte at a boundary begins: a whole character, the start of a longer one, or nothing. -/
def lead (byte : Nat) : List (Option Char) × State :=
  if byte < 0x80 then ([some (Char.ofNat byte)], .boundary)
  else if byte < 0xC2 then ([none], .boundary)
  else if byte < 0xE0 then ([], .inside 1 0x80 0xBF (byte - 0xC0))
  -- The narrower ranges keep out overlong forms, surrogates and values past the last character.
  else if byte = 0xE0 then ([], .inside 2 0xA0 0xBF 0)
  else if byte = 0xED then ([], .inside 2 0x80 0x9F 0xD)
  else if byte < 0xF0 then ([], .inside 2 0x80 0xBF (byte - 0xE0))
  else if byte = 0xF0 then ([], .inside 3 0x90 0xBF 0)
  else if byte < 0xF4 then ([], .inside 3 0x80 0xBF (byte - 0xF0))
  else if byte = 0xF4 then ([], .inside 3 0x80 0x8F 4)
  else ([none], .boundary)

/-- One byte: the characters it completes, `none` standing for a malformed place. -/
def step : State → Nat → List (Option Char) × State
  | .boundary, byte => lead byte
  | .inside owed low high value, byte =>
    if low ≤ byte ∧ byte ≤ high then
      let value := value * 64 + byte % 64
      if owed ≤ 1 then ([some (Char.ofNat value)], .boundary)
      else ([], .inside (owed - 1) 0x80 0xBF value)
    else
      -- The unfinished character is malformed and the byte is looked at afresh.
      let (found, next) := lead byte
      (none :: found, next)

/-- The characters of a byte string from a state on. -/
def scanFrom : State → Bytes → List (Option Char)
  | .boundary, [] => []
  -- A character that is cut off is malformed.
  | .inside .., [] => [none]
  | state, byte :: rest =>
    let (found, next) := step state byte.toNat
    found ++ scanFrom next rest

/-- The characters of a byte string, `none` standing for each malformed place. -/
def scan (bytes : Bytes) : List (Option Char) :=
  scanFrom .boundary bytes

/-- The text of a byte string that is well-formed throughout. -/
def decode? (bytes : Bytes) : Option String :=
  ((scan bytes).mapM id).map String.ofList

/-- The text of a byte string with U+FFFD for each malformed place. -/
def decodeLossy (bytes : Bytes) : String :=
  String.ofList ((scan bytes).map (·.getD '\uFFFD'))

/-- How many bytes precede the first malformed place. -/
def validLength (bytes : Bytes) : Nat :=
  (((scan bytes).takeWhile Option.isSome).filterMap id).foldl
    (fun count c => count + (encodeChar c).length) 0

end Utf8

end RoomAir
