import RoomAir.Config.Yaml.Token
import RoomAir.Number.Literal

/-! The tags and directives of YAML as they are spelled. -/

namespace RoomAir.Yaml

/-- Whether a character may stand in the address that a tag is. -/
def isAddressChar (c : Char) : Bool :=
  c.isAlphanum || c = '-' || "#;/?:@&=+$,_.!~*'()[]%".toList.contains c

/-- Whether a character may stand in a tag after its handle. -/
def isTagChar (c : Char) : Bool :=
  isAddressChar c && !isFlowMark c && c ≠ '!'

/-- How many bytes a character takes that begins with the given one. -/
def escapeWidth? (byte : Nat) : Option Nat :=
  if byte < 0x80 then some 1
  else if byte / 0x20 = 6 then some 2
  else if byte / 0x10 = 14 then some 3
  else if byte / 8 = 30 then some 4
  else none

/-- A byte spelled as a percent sign and two hexadecimal digits, and the text after it. -/
def escapedByte? : List Char → Option (Nat × List Char)
  | '%' :: high :: low :: rest => (Whole.digits? 16 [high, low]).map fun byte => (byte, rest)
  | _ => none

/-- The number that so many more bytes make after those that made a given one. -/
def escapedBytes? : Nat → Nat → List Char → Option (Nat × List Char)
  | 0, code, text => some (code, text)
  | count + 1, code, text => do
    let (byte, rest) ← escapedByte? text
    if byte / 0x40 ≠ 2 then none else escapedBytes? count (code * 256 + byte) rest

/-- The character whose code the bytes of an escape make side by side, and the text after it. -/
def escaped? (text : List Char) : Option (Char × List Char) := do
  let (byte, rest) ← escapedByte? text
  let width ← escapeWidth? byte
  let (code, rest) ← escapedBytes? (width - 1) byte rest
  if code.isValidChar then some (Char.ofNat code, rest) else none

/-- The characters of a class, escapes being carried out, and the text after them. -/
def address? (isPart : Char → Bool) : Nat → List Char → Option (List Char × List Char)
  | 0, _ => none
  | _, [] => some ([], [])
  | fuel + 1, c :: rest =>
    if !isPart c then some ([], c :: rest)
    else do
      let (found, rest) ← if c = '%' then escaped? (c :: rest) else some (c, rest)
      let (later, rest) ← address? isPart fuel rest
      some (found :: later, rest)

/-- A handle: a name between two exclamation marks, of which the second may be missing. -/
def handle? : List Char → Option (List Char × List Char)
  | '!' :: rest =>
    let name := '!' :: rest.takeWhile isNameChar
    match rest.dropWhile isNameChar with
    | '!' :: rest => some (name ++ ['!'], rest)
    | rest => some (name, rest)
  | _ => none

/-- Whether a handle is closed, so that it must stand for something. -/
def isClosed (handle : List Char) : Bool :=
  2 ≤ handle.length && handle.getLast? = some '!'

/-- A tag, which a space or, in the flow style, punctuation must follow. -/
def tag? (flow : Bool) (text : List Char) : Option (Token × List Char) := do
  let size := text.length + 1
  let (found, rest) ← match text with
    | '!' :: '<' :: rest => do
      let (suffix, rest) ← address? isAddressChar size rest
      let '>' :: rest := rest | none
      some (Token.tag "" (String.ofList suffix), rest)
    | _ => do
      let (handle, rest) ← handle? text
      let (suffix, rest) ← address? isTagChar size rest
      if isClosed handle then
        if suffix.isEmpty then none
        else some (Token.tag (String.ofList handle) (String.ofList suffix), rest)
      else
        -- A handle that is not closed is the beginning of a tag of the document's own.
        let name := handle.drop 1 ++ suffix
        if name.isEmpty then some (Token.tag "" "!", rest)
        else some (Token.tag "!" (String.ofList name), rest)
  if endsWord rest.head? || (flow && isFlowNext rest.head?) then some (found, rest) else none

/-! ## Directives -/

/-- A number of one to nine digits, and the text after it. -/
def versionPart? (text : List Char) : Option (List Char) :=
  let digits := text.takeWhile Char.isDigit
  if digits.isEmpty ∨ 9 < digits.length then none else some (text.drop digits.length)

/-- What a handle stands for, and the text after it. -/
def expansion? (text : List Char) : Option (List Char × List Char) :=
  match text with
  | '!' :: rest =>
    (address? isAddressChar (text.length + 1) rest).map fun (later, rest) => ('!' :: later, rest)
  | c :: _ => if isTagChar c then address? isAddressChar (text.length + 1) text else none
  | [] => none

/-- A directive after its percent sign, and the text after it; one of no known name is skipped. -/
def directive? (text : List Char) : Option (Token × List Char) := do
  let name := text.takeWhile isNameChar
  let rest := text.dropWhile isNameChar
  let after := rest.dropWhile isBlank
  if name.isEmpty ∨ !endsWord rest.head? then none
  else if name = "YAML".toList then
    let '.' :: rest ← versionPart? after | none
    some (.version, ← versionPart? rest)
  else if name = "TAG".toList then
    let (handle, rest) ← handle? after
    if handle.length ≠ 1 ∧ !isClosed handle then none
    else
      let (expansion, rest) ← expansion? (rest.dropWhile isBlank)
      if endsWord rest.head? then
        some (.handle (String.ofList handle) (String.ofList expansion), rest)
      else none
  else some (.handle "" "", rest.dropWhile (!isBreak ·))

end RoomAir.Yaml
