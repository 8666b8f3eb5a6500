import RoomAir.Number.Literal
import RoomAir.Text.Form
import RoomAir.Text.Punycode

/-! Hosts of web addresses, and the one spelling that stands for all spellings of a host. -/

namespace RoomAir

/-- What an address on the web leads to. -/
inductive Host where
  /-- A name, or several of them with points in between. -/
  | domain (name : List Char)
  /-- A number of 32 bits. -/
  | number (value : Nat)
  /-- Eight numbers of 16 bits. -/
  | pieces (values : List Nat)
  deriving DecidableEq, Repr

namespace Host

/-! ## Reading -/

/-- Whether a character may not stand in a domain. -/
def isForbidden (c : Char) : Bool :=
  c.toNat ≤ 0x20 || c = '\x7F' || "%#/:<>?@[\\]^|".toList.contains c

/-- A part of a number: in base sixteen or eight after its marker, or in base ten. -/
def part? (text : List Char) : Option Nat :=
  let inBase (base : Nat) (digits : List Char) : Option Nat :=
    if digits.isEmpty then some 0 else Whole.digits? base digits
  match text with
  | [] => none
  | '0' :: 'x' :: digits => inBase 16 digits
  | '0' :: 'X' :: digits => inBase 16 digits
  | '0' :: digit :: digits => inBase 8 (digit :: digits)
  | digits => inBase 10 digits

/-- The parts of a domain between its points, of which one at the end does not count. -/
def parts (name : List Char) : List (List Char) :=
  let parts := Form.splitAt '.' name
  if 1 < parts.length ∧ parts.getLast? = some [] then parts.dropLast else parts

/-- Whether a domain ends in a number, so that it must be one as a whole. -/
def isNumeric (name : List Char) : Bool :=
  match (parts name).getLast? with
  | some last => (!last.isEmpty && last.all Char.isDigit) || (part? last).isSome
  | none => false

/-- The number that at most four parts spell: each is a byte but the last, which takes the rest. -/
def number? (name : List Char) : Option Nat := do
  let values ← (parts name).mapM part?
  let last ← values.getLast?
  let bytes := values.dropLast
  if 3 < bytes.length ∨ bytes.any (255 < ·) ∨ 256 ^ (4 - bytes.length) ≤ last then none
  else
    let high := bytes.foldl (fun value byte => value * 256 + byte) 0
    some (high * 256 ^ (4 - bytes.length) + last)

/-- A piece of one to four hexadecimal digits. -/
def piece? (text : List Char) : Option Nat :=
  if 4 < text.length then none else Whole.digits? 16 text

/-- The two pieces that four bytes in base ten spell. -/
def byteWords? (text : List Char) : Option (List Nat) := do
  let bytes ← (Form.splitAt '.' text).mapM fun digits => do
    let value ← Whole.digits? 10 digits
    if 255 < value ∨ (digits.head? = some '0' ∧ 1 < digits.length) then none else some value
  match bytes with
  | [a, b, c, d] => some [a * 256 + b, c * 256 + d]
  | _ => none

/-- Pieces with colons in between, the last two of which may be spelled as bytes. -/
def pieceList? (text : List Char) : Option (List Nat) :=
  if text.isEmpty then some []
  else do
    let words := Form.splitAt ':' text
    let front ← words.dropLast.mapM piece?
    let last ← words.getLast?
    match piece? last with
    | some piece => some (front ++ [piece])
    | none => (byteWords? last).map (front ++ ·)

/-- A text split at the first double colon. -/
def splitGap? : List Char → Option (List Char × List Char)
  | ':' :: ':' :: rest => some ([], rest)
  | c :: rest => (splitGap? rest).map fun (front, back) => (c :: front, back)
  | [] => none

/-- The eight pieces that a text in brackets spells, a double colon standing for missing zeros. -/
def pieces? (text : List Char) : Option (List Nat) := do
  match splitGap? text with
  | none =>
    let values ← pieceList? text
    if values.length = 8 then some values else none
  | some (front, back) =>
    -- Bytes stand at the end of the whole text only.
    let front ← if front.contains '.' then none else pieceList? front
    let back ← pieceList? back
    let known := front.length + back.length
    if 7 < known then none else some (front ++ List.replicate (8 - known) 0 ++ back)

/-- A part of a domain, in punycode behind a marker unless all its characters are plain. -/
def plainPart (part : List Char) : List Char :=
  if part.all Punycode.isPlain then part else "xn--".toList ++ Punycode.encode part

/-- The host that a text spells, the characters of a domain being percent-encoded or not. -/
def ofText? (text : List Char) : Option Host :=
  match text with
  | '[' :: rest =>
    if rest.getLast? = some ']' then (pieces? rest.dropLast).map .pieces else none
  | _ => do
    let decoded ← Utf8.decode? (Form.percentDecode text)
    let spelled := decoded.toList.map Char.toLower
    let name := ['.'].intercalate ((Form.splitAt '.' spelled).map plainPart)
    if name.isEmpty ∨ name.any isForbidden then none
    else if isNumeric name then (number? name).map .number
    else some (.domain name)

/-! ## Writing -/

/-- A number as its four bytes. -/
def numberText (value : Nat) : List Char :=
  let byte (position : Nat) : List Char := Nat.toDigits 10 (value / 256 ^ position % 256)
  byte 3 ++ '.' :: byte 2 ++ '.' :: byte 1 ++ '.' :: byte 0

/-- The position and the length of the longest run of zeros, the first of equal ones. -/
def zeroRun (values : List Nat) : Nat × Nat :=
  (List.range values.length).foldl (fun best start =>
    let length := ((values.drop start).takeWhile (· = 0)).length
    if best.2 < length then (start, length) else best) (0, 0)

/-- Pieces with colons in between. -/
def joined (values : List Nat) : List Char :=
  List.intercalate [':'] (values.map (Nat.toDigits 16))

/-- Eight pieces, a double colon standing for the longest run of at least two zeros. -/
def piecesText (values : List Nat) : List Char :=
  let (start, length) := zeroRun values
  if length < 2 then joined values
  else joined (values.take start) ++ ':' :: ':' :: joined (values.drop (start + length))

/-- The host in its one spelling. -/
def text : Host → List Char
  | .domain name => name
  | .number value => numberText value
  | .pieces values => '[' :: piecesText values ++ [']']

end Host

end RoomAir
