import RoomAir.Json.Value
import RoomAir.Number.Literal
import RoomAir.Text.Utf8

/-! Reading JSON documents, with the place and the cause of the first fault. -/

namespace RoomAir

/-- Why a document is not the JSON that was asked for. -/
inductive JsonCause where
  | endInValue
  | endInList
  | endInObject
  | endInString
  | expectedValue
  | expectedWord
  | expectedColon
  | expectedCommaOrBracket
  | expectedCommaOrBrace
  | trailingComma
  | trailingCharacters
  | keyNotString
  | invalidNumber
  | numberOutOfRange
  | invalidEscape
  | invalidCodePoint
  | controlCharacter
  | loneSurrogate
  | endOfHexEscape
  | nestedTooDeep
  /-- The document is well-formed so far but begins with something other than an array. -/
  | notAnArray (found : String)
  deriving DecidableEq, Repr

namespace JsonCause

/-- The wording of a cause. -/
def message : JsonCause → String
  | .endInValue => "EOF while parsing a value"
  | .endInList => "EOF while parsing a list"
  | .endInObject => "EOF while parsing an object"
  | .endInString => "EOF while parsing a string"
  | .expectedValue => "expected value"
  | .expectedWord => "expected ident"
  | .expectedColon => "expected `:`"
  | .expectedCommaOrBracket => "expected `,` or `]`"
  | .expectedCommaOrBrace => "expected `,` or `\x7d`"
  | .trailingComma => "trailing comma"
  | .trailingCharacters => "trailing characters"
  | .keyNotString => "key must be a string"
  | .invalidNumber => "invalid number"
  | .numberOutOfRange => "number out of range"
  | .invalidEscape => "invalid escape"
  | .invalidCodePoint => "invalid unicode code point"
  | .controlCharacter => "control character (\\u0000-\\u001F) found while parsing a string"
  | .loneSurrogate => "lone leading surrogate in hex escape"
  | .endOfHexEscape => "unexpected end of hex escape"
  | .nestedTooDeep => "recursion limit exceeded"
  | .notAnArray found => "invalid type: " ++ found ++ ", expected a sequence"

end JsonCause

/-- A cause with the place where it was met, lines counted from one. -/
structure JsonError where
  cause : JsonCause
  line : Nat
  column : Nat
  deriving DecidableEq, Repr

/-- The wording of an error with its place. -/
def JsonError.message (error : JsonError) : String :=
  error.cause.message ++ " at line " ++ toString error.line ++ " column " ++ toString error.column

namespace Json

/-- A cause and the bytes that were left when it was met. -/
structure Fault where
  cause : JsonCause
  rest : Bytes

/-- The byte of an ASCII character. -/
abbrev ascii (c : Char) : UInt8 :=
  c.toNat.toUInt8

/-- Whether a byte separates tokens. -/
def isSpace (byte : UInt8) : Bool :=
  byte == ascii ' ' || byte == ascii '\n' || byte == ascii '\t' || byte == ascii '\r'

/-- The bytes after any white space. -/
def skipSpace (bytes : Bytes) : Bytes :=
  bytes.dropWhile isSpace

/-- Whether a byte is a decimal digit. -/
def isDigit (byte : UInt8) : Bool :=
  ascii '0' ≤ byte && byte ≤ ascii '9'

/-- The value of a decimal digit. -/
def digitValue (byte : UInt8) : Nat :=
  byte.toNat - '0'.toNat

/-- The letters that must follow the first one of a word that stands for a value. -/
def readWord (value : Json) : List Char → Bytes → Except Fault (Json × Bytes)
  | [], bytes => .ok (value, bytes)
  | _ :: _, [] => .error ⟨.endInValue, []⟩
  | letter :: letters, byte :: rest =>
    if byte == ascii letter then readWord value letters rest else .error ⟨.expectedWord, rest⟩

/-! ## Numbers -/

/-- The largest significand that is gathered exactly. -/
def significandLimit : Nat := 2 ^ 64 - 1

/-- Adds digits to a significand up to the limit, and counts those that are left out. -/
def gather : Nat → Bytes → Nat × Nat
  | value, [] => (value, 0)
  | value, digit :: digits =>
    let next := value * 10 + digitValue digit
    if significandLimit < next then (value, digits.length + 1) else gather next digits

/-- A positive or negative power of ten as a double, the exponent being at most 308. -/
def powerOfTen (exponent : Nat) : Double :=
  (Double.ofDecimal? false 1 exponent).getD (.zero false)

/-- Divides by `10 ^ exponent`, in steps that each round once. -/
def divideByPower : Nat → Double → Nat → Double
  | 0, x, _ => .zero x.negative
  | steps + 1, x, exponent =>
    if exponent ≤ 308 then (x.div? (powerOfTen exponent)).getD (.zero x.negative)
    else if x.isZero then x
    else
      let smaller := (x.div? (powerOfTen 308)).getD (.zero x.negative)
      divideByPower steps smaller (exponent - 308)

/-- A significand rounded once, then multiplied or divided by a power of ten and rounded again. -/
def scaled? (significand : Nat) (exponent : Int) : Option Double := do
  let x ← Double.ofDecimal? false significand 0
  if exponent < 0 then
    -- Two divisions by the largest power already leave nothing of any significand.
    some (divideByPower 4 x exponent.natAbs)
  else if exponent ≤ 308 then x.mul? (powerOfTen exponent.toNat)
  else if x.isZero then some x
  else none

/-- A magnitude with its sign, or a fault where it is out of range. -/
def signed (negative : Bool) (rest : Bytes) : Option Double → Except Fault (Json × Bytes)
  | some x => .ok (.number (if negative then x.negate else x), rest)
  | none => .error ⟨.numberOutOfRange, rest⟩

/-- A number with a fraction or an exponent. -/
def readScaled (negative : Bool) (significand : Nat) (exponent : Int) (rest : Bytes) :
    Except Fault (Json × Bytes) :=
  signed negative rest (scaled? significand exponent)

/-- The largest exponent that is gathered. -/
def exponentLimit : Nat := 2 ^ 31 - 1

/-- The digits of an exponent as a number, or the bytes after the digit that made it too large. -/
def gatherExponent : Nat → Bytes → Nat × Bytes ⊕ Bytes
  | value, [] => .inl (value, [])
  | value, byte :: rest =>
    if isDigit byte then
      let next := value * 10 + digitValue byte
      if exponentLimit < next then .inr rest else gatherExponent next rest
    else .inl (value, byte :: rest)

/-- The digits of an exponent after its sign, `down` saying that it was a minus. -/
def readPower (negative : Bool) (significand : Nat) (start : Int) (down : Bool) :
    Bytes → Except Fault (Json × Bytes)
  | [] => .error ⟨.endInValue, []⟩
  | byte :: rest =>
    if isDigit byte then
      match gatherExponent 0 (byte :: rest) with
      | .inl (value, rest) =>
        readScaled negative significand (if down then start - value else start + value) rest
      | .inr rest =>
        -- An exponent beyond the limit leaves nothing of a number, unless it makes it too large.
        if significand ≠ 0 ∧ !down then .error ⟨.numberOutOfRange, rest⟩
        else .ok (.number (.zero negative), rest.dropWhile isDigit)
    else .error ⟨.invalidNumber, rest⟩

/-- The exponent after its letter, and with it the number. -/
def readExponent (negative : Bool) (significand : Nat) (start : Int) (bytes : Bytes) :
    Except Fault (Json × Bytes) :=
  match bytes with
  | [] => readPower negative significand start false []
  | byte :: rest =>
    if byte == ascii '+' then readPower negative significand start false rest
    else if byte == ascii '-' then readPower negative significand start true rest
    else readPower negative significand start false (byte :: rest)

/-- Whether a byte is the letter of an exponent. -/
def isExponentMark (byte : UInt8) : Bool :=
  byte == ascii 'e' || byte == ascii 'E'

/-- What follows the digits of a number that is no whole one: an exponent or nothing. -/
def readScale (negative : Bool) (significand : Nat) (exponent : Int) :
    Bytes → Except Fault (Json × Bytes)
  | [] => readScaled negative significand exponent []
  | byte :: rest =>
    if isExponentMark byte then readExponent negative significand exponent rest
    else readScaled negative significand exponent (byte :: rest)

/-- What follows the point of a number. -/
def readFraction (negative : Bool) (significand omitted : Nat) (bytes : Bytes) :
    Except Fault (Json × Bytes) :=
  let digits := bytes.takeWhile isDigit
  let rest := bytes.dropWhile isDigit
  if digits.isEmpty then
    match rest with
    | [] => .error ⟨.endInValue, []⟩
    | _ :: later => .error ⟨.invalidNumber, later⟩
  else
    -- Digits past the limit do not count, so they leave the exponent alone.
    let (significand, ignored) := gather significand digits
    readScale negative significand (omitted - (digits.length - ignored : Nat)) rest

/-- A whole number: those that fit 64 bits stay exact and the others become doubles. -/
def wholeNumber (negative : Bool) (significand : Nat) : Json :=
  if !negative then .integer significand
  -- Zero with a minus sign is no whole number.
  else if 0 < significand ∧ significand ≤ 2 ^ 63 then .integer (-significand)
  else .number (((Double.ofDecimal? true significand 0)).getD (.zero true))

/-- A number that ends with its whole part, of which some digits may have been left out. -/
def readWhole (negative : Bool) (significand omitted : Nat) (rest : Bytes) :
    Except Fault (Json × Bytes) :=
  if omitted = 0 then .ok (wholeNumber negative significand, rest)
  else readScaled negative significand omitted rest

/-- What follows the whole part of a number. -/
def readAfterWhole (negative : Bool) (significand omitted : Nat) :
    Bytes → Except Fault (Json × Bytes)
  | [] => readWhole negative significand omitted []
  | byte :: rest =>
    if byte == ascii '.' then readFraction negative significand omitted rest
    else if isExponentMark byte then readExponent negative significand omitted rest
    else readWhole negative significand omitted (byte :: rest)

/-- A number after its minus sign, if it has one. -/
def readNumber (negative : Bool) (bytes : Bytes) : Except Fault (Json × Bytes) :=
  match bytes with
  | [] => .error ⟨.endInValue, []⟩
  | byte :: rest =>
    if byte == ascii '0' then
      -- A zero in front stands alone.
      match rest with
      | next :: later =>
        if isDigit next then .error ⟨.invalidNumber, later⟩
        else readAfterWhole negative 0 0 rest
      | [] => readAfterWhole negative 0 0 rest
    else if isDigit byte then
      let (significand, omitted) := gather 0 (bytes.takeWhile isDigit)
      readAfterWhole negative significand omitted (bytes.dropWhile isDigit)
    else .error ⟨.invalidNumber, rest⟩

/-! ## Strings -/

/-- The value of a hexadecimal digit in either case. -/
def hexValue? (byte : UInt8) : Option Nat :=
  if isDigit byte then some (digitValue byte)
  else if ascii 'a' ≤ byte && byte ≤ ascii 'f' then some (byte.toNat - 'a'.toNat + 10)
  else if ascii 'A' ≤ byte && byte ≤ ascii 'F' then some (byte.toNat - 'A'.toNat + 10)
  else none

/-- The code unit of four hexadecimal digits. -/
def readHex : Bytes → Except Fault (Nat × Bytes)
  | a :: b :: c :: d :: rest =>
    match hexValue? a, hexValue? b, hexValue? c, hexValue? d with
    | some a, some b, some c, some d => .ok (((a * 16 + b) * 16 + c) * 16 + d, rest)
    | _, _, _, _ => .error ⟨.invalidEscape, rest⟩
  | _ => .error ⟨.endInString, []⟩

/-- The second half of a surrogate pair, and with it the character's bytes. -/
def readTrailing (leading : Nat) : Bytes → Except Fault (Bytes × Bytes)
  | [] => .error ⟨.endInString, []⟩
  | [byte] =>
    if byte == ascii '\\' then .error ⟨.endInString, []⟩ else .error ⟨.endOfHexEscape, []⟩
  | first :: second :: rest =>
    if first != ascii '\\' then .error ⟨.endOfHexEscape, second :: rest⟩
    else if second != ascii 'u' then .error ⟨.endOfHexEscape, rest⟩
    else do
      let (trailing, rest) ← readHex rest
      if trailing < 0xDC00 ∨ 0xDFFF < trailing then .error ⟨.loneSurrogate, rest⟩
      else
        let code := (leading - 0xD800) * 1024 + (trailing - 0xDC00) + 0x10000
        .ok (Utf8.encodeChar (Char.ofNat code), rest)

/-- A character given by its code units, as its bytes. -/
def readUnicode (bytes : Bytes) : Except Fault (Bytes × Bytes) := do
  let (code, rest) ← readHex bytes
  -- The second half of a pair cannot come first.
  if 0xDC00 ≤ code ∧ code ≤ 0xDFFF then .error ⟨.loneSurrogate, rest⟩
  else if code < 0xD800 ∨ 0xDFFF < code then .ok (Utf8.encodeChar (Char.ofNat code), rest)
  else readTrailing code rest

/-- An escape after its backslash, as the bytes it stands for. -/
def readEscape : Bytes → Except Fault (Bytes × Bytes)
  | [] => .error ⟨.endInString, []⟩
  | byte :: rest =>
    if byte == ascii '"' || byte == ascii '\\' || byte == ascii '/' then .ok ([byte], rest)
    else if byte == ascii 'b' then .ok ([0x08], rest)
    else if byte == ascii 'f' then .ok ([0x0C], rest)
    else if byte == ascii 'n' then .ok ([0x0A], rest)
    else if byte == ascii 'r' then .ok ([0x0D], rest)
    else if byte == ascii 't' then .ok ([0x09], rest)
    else if byte == ascii 'u' then readUnicode rest
    else .error ⟨.invalidEscape, rest⟩

/-- The bytes a string stands for, up to its closing quote. -/
def readStringBytes : Nat → Bytes → Except Fault (Bytes × Bytes)
  | 0, bytes => .error ⟨.endInString, bytes⟩
  | _, [] => .error ⟨.endInString, []⟩
  | fuel + 1, byte :: rest =>
    if byte == ascii '"' then .ok ([], rest)
    else if byte == ascii '\\' then do
      let (found, rest) ← readEscape rest
      let (later, rest) ← readStringBytes fuel rest
      .ok (found ++ later, rest)
    else if byte < 0x20 then .error ⟨.controlCharacter, rest⟩
    else do
      let (later, rest) ← readStringBytes fuel rest
      .ok (byte :: later, rest)

/-- A string after its opening quote, whose bytes must be well-formed. -/
def readString (bytes : Bytes) : Except Fault (String × Bytes) := do
  let (content, rest) ← readStringBytes (bytes.length + 1) bytes
  match Utf8.decode? content with
  | some text => .ok (text, rest)
  | none =>
    -- The fault lies just past the first byte that is out of place.
    let left := rest.length + (content.length - Utf8.validLength content)
    .error ⟨.invalidCodePoint, bytes.drop (bytes.length - left)⟩

/-! ## Values -/

/-- How a number is read after its minus sign, `true` saying that there was one. -/
abbrev NumberReader :=
  Bool → Bytes → Except Fault (Json × Bytes)

section Values

variable (numbers : NumberReader)

/-- A value that begins with the given byte and holds no other value. -/
def readScalar (byte : UInt8) (rest : Bytes) : Except Fault (Json × Bytes) :=
  if byte == ascii 'n' then readWord .null "ull".toList rest
  else if byte == ascii 't' then readWord (.bool true) "rue".toList rest
  else if byte == ascii 'f' then readWord (.bool false) "alse".toList rest
  else if byte == ascii '-' then numbers true rest
  else if isDigit byte then numbers false (byte :: rest)
  else if byte == ascii '"' then do
    let (text, rest) ← readString rest
    .ok (.string text, rest)
  else .error ⟨.expectedValue, rest⟩

/-- The colon after a key. -/
def readColon (bytes : Bytes) : Except Fault (Unit × Bytes) :=
  match skipSpace bytes with
  | [] => .error ⟨.endInObject, []⟩
  | byte :: rest => if byte == ascii ':' then .ok ((), rest) else .error ⟨.expectedColon, rest⟩

mutual

/-- A value after any white space, which may nest `depth - 1` levels deep. -/
def readValue : Nat → Nat → Bytes → Except Fault (Json × Bytes)
  | 0, _, bytes => .error ⟨.endInValue, bytes⟩
  | fuel + 1, depth, bytes =>
    match skipSpace bytes with
    | [] => .error ⟨.endInValue, []⟩
    | byte :: rest =>
      if byte == ascii '[' then
        if depth ≤ 1 then .error ⟨.nestedTooDeep, rest⟩
        else do
          let (items, rest) ← readItems fuel (depth - 1) rest
          .ok (.array items, rest)
      else if byte == ascii '\x7b' then
        if depth ≤ 1 then .error ⟨.nestedTooDeep, rest⟩
        else do
          let (members, rest) ← readMembers fuel (depth - 1) rest
          .ok (.object members, rest)
      else readScalar numbers byte rest

/-- The items of an array after its opening bracket. -/
def readItems : Nat → Nat → Bytes → Except Fault (List Json × Bytes)
  | 0, _, bytes => .error ⟨.endInList, bytes⟩
  | fuel + 1, depth, bytes =>
    match skipSpace bytes with
    | [] => .error ⟨.endInList, []⟩
    | byte :: rest =>
      if byte == ascii ']' then .ok ([], rest) else readItemsOn fuel depth (byte :: rest)

/-- At least one item and the closing bracket. -/
def readItemsOn : Nat → Nat → Bytes → Except Fault (List Json × Bytes)
  | 0, _, bytes => .error ⟨.endInList, bytes⟩
  | fuel + 1, depth, bytes => do
    let (item, rest) ← readValue fuel depth bytes
    match skipSpace rest with
    | [] => .error ⟨.endInList, []⟩
    | byte :: rest =>
      if byte == ascii ']' then .ok ([item], rest)
      else if byte == ascii ',' then
        match skipSpace rest with
        | [] => .error ⟨.endInValue, []⟩
        | next :: later =>
          if next == ascii ']' then .error ⟨.trailingComma, later⟩
          else do
            let (items, rest) ← readItemsOn fuel depth (next :: later)
            .ok (item :: items, rest)
      else .error ⟨.expectedCommaOrBracket, rest⟩

/-- The members of an object after its opening brace. -/
def readMembers : Nat → Nat → Bytes → Except Fault (List (String × Json) × Bytes)
  | 0, _, bytes => .error ⟨.endInObject, bytes⟩
  | fuel + 1, depth, bytes =>
    match skipSpace bytes with
    | [] => .error ⟨.endInObject, []⟩
    | byte :: rest =>
      if byte == ascii '\x7d' then .ok ([], rest)
      else if byte == ascii '"' then readMembersOn fuel depth rest
      else .error ⟨.keyNotString, rest⟩

/-- At least one member, after the opening quote of its key, and the closing brace. -/
def readMembersOn : Nat → Nat → Bytes → Except Fault (List (String × Json) × Bytes)
  | 0, _, bytes => .error ⟨.endInObject, bytes⟩
  | fuel + 1, depth, bytes => do
    let (key, rest) ← readString bytes
    let ((), rest) ← readColon rest
    let (value, rest) ← readValue fuel depth rest
    match skipSpace rest with
    | [] => .error ⟨.endInObject, []⟩
    | byte :: rest =>
      if byte == ascii '\x7d' then .ok ([(key, value)], rest)
      else if byte == ascii ',' then
        match skipSpace rest with
        | [] => .error ⟨.endInValue, []⟩
        | next :: later =>
          if next == ascii '"' then do
            let (members, rest) ← readMembersOn fuel depth later
            .ok ((key, value) :: members, rest)
          else if next == ascii '\x7d' then .error ⟨.trailingComma, later⟩
          else .error ⟨.keyNotString, later⟩
      else .error ⟨.expectedCommaOrBrace, rest⟩

end

end Values

/-! ## Documents -/

/-- How deep values may nest, the outermost one included. -/
def depthLimit : Nat := 128

/-- Enough steps for any document: every three of them take at least one byte. -/
def stepsFor (document : Bytes) : Nat :=
  3 * document.length + 3

/-- The fault's place in its document: lines before it, and bytes since the last line feed. -/
def locate (document : Bytes) (fault : Fault) : JsonError :=
  let before := document.take (document.length - fault.rest.length)
  let sinceLine := before.reverse.takeWhile (· != ascii '\n')
  { cause := fault.cause, line := 1 + before.count (ascii '\n'), column := sinceLine.length }

/-- A value must be followed by nothing but white space. -/
def complete (found : α × Bytes) : Except Fault α :=
  match skipSpace found.2 with
  | [] => .ok found.1
  | _ :: rest => .error ⟨.trailingCharacters, rest⟩

/-- What a message calls a value of the wrong type, `quote` being how it shows a string. -/
def describe (quote : String → String) : Json → String
  | .null => "null"
  | .bool value => "boolean `" ++ (if value then "true" else "false") ++ "`"
  | .integer value => "integer `" ++ String.ofList (integerChars value) ++ "`"
  | .number value => "floating point `" ++ value.jsonText ++ "`"
  | .string value => "string " ++ quote value
  | .array _ => "sequence"
  | .object _ => "map"

/-- The whole document as one value. -/
def read (document : Bytes) : Except JsonError Json :=
  ((readValue readNumber (stepsFor document) depthLimit document).bind complete).mapError
    (locate document)

/-- The document's array, one that is a scalar being read first and an object being left unread. -/
def readTopArray (quote : String → String) (document : Bytes) : Except Fault (List Json) :=
  match skipSpace document with
  | [] => .error ⟨.endInValue, []⟩
  | byte :: rest =>
    if byte == ascii '[' then
      (readItems readNumber (stepsFor document) (depthLimit - 1) rest).bind complete
    else if byte == ascii '\x7b' then
      .error ⟨.notAnArray (describe quote (.object [])), byte :: rest⟩
    else do
      let (found, rest) ← readScalar readNumber byte rest
      .error ⟨.notAnArray (describe quote found), rest⟩

/-- The items of a document that is an array. -/
def readArray (quote : String → String) (document : Bytes) : Except JsonError (List Json) :=
  (readTopArray quote document).mapError (locate document)

end Json

end RoomAir
