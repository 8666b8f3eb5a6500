import RoomAir.Source.Host

/-! Addresses of web resources, and the one spelling that stands for all spellings of an address. -/

namespace RoomAir

/-- The parts of an address, those after the host each as it was written. -/
structure Address where
  /-- The name of the protocol. -/
  scheme : List Char
  host : Host
  /-- The port, unless it is the usual one. -/
  port : Option Nat
  /-- The path from its first stroke on, which may be missing. -/
  path : List Char
  query : Option (List Char)
  fragment : Option (List Char)
  deriving DecidableEq, Repr

namespace Address

/-- Whether a character may not stand in any part of an address. -/
def isForeign (c : Char) : Bool :=
  c.toNat ≤ 0x20 || 0x7F ≤ c.toNat || c = '"' || c = '<' || c = '>'

/-- Whether a character is percent-encoded in a path. -/
def isForeignToPath (c : Char) : Bool :=
  isForeign c || c = '#' || c = '?' || c = '\x60' || c = '\x7b' || c = '\x7d'

/-- Whether a character is percent-encoded in a query. -/
def isForeignToQuery (c : Char) : Bool :=
  isForeign c || c = '#' || c = '\''

/-- Whether a character is percent-encoded in a fragment. -/
def isForeignToFragment (c : Char) : Bool :=
  isForeign c || c = '\x60'

/-- A part with the characters of a class percent-encoded. -/
def encode (isForeign : Char → Bool) (part : List Char) : List Char :=
  part.flatMap fun c =>
    if isForeign c then (Utf8.encodeChar c).flatMap Form.percentByte else [c]

/-- Whether a character begins what follows the host. -/
def endsHost (c : Char) : Bool :=
  c = '/' || c = '\\' || c = '?' || c = '#'

/-- The port that is meant where an address names none. -/
def usualPort : Nat := 80

/-- The port that digits spell, which may be the usual one or missing. -/
def port? (digits : List Char) : Option (Option Nat) :=
  if !digits.all Char.isDigit then none
  else
    let value := digitsValue digits
    if digits.isEmpty ∨ value = usualPort then some none
    else if value < 2 ^ 16 then some (some value)
    else none

/-- The host and the port between the strokes and the path; what identifies a user is left out. -/
def authority? (text : List Char) : Option (Host × Option Nat) := do
  let place := (text.reverse.takeWhile (· ≠ '@')).reverse
  -- A colon inside of brackets belongs to the host.
  let bracketed := if place.head? = some '[' then place.takeWhile (· ≠ ']') else []
  let rest := place.drop bracketed.length
  let host := bracketed ++ rest.takeWhile (· ≠ ':')
  let port ← port? ((rest.dropWhile (· ≠ ':')).drop 1)
  some (← Host.ofText? host, port)

/-- The address that a text spells; blanks around it and tabs and line breaks do not count. -/
def ofText? (text : String) : Option Address := do
  let isControl (c : Char) : Bool := decide (c.toNat ≤ 0x20)
  let trimmed := ((text.toList.dropWhile isControl).reverse.dropWhile isControl).reverse
  let kept := trimmed.filter fun c => c ≠ '\t' ∧ c ≠ '\n' ∧ c ≠ '\r'
  let scheme := kept.takeWhile (· ≠ ':')
  let afterScheme := (kept.drop (scheme.length + 1)).dropWhile fun c => c = '/' ∨ c = '\\'
  let (host, port) ← authority? (afterScheme.takeWhile (!endsHost ·))
  let rest := afterScheme.dropWhile (!endsHost ·)
  let beforeFragment := rest.takeWhile (· ≠ '#')
  let path := beforeFragment.takeWhile (· ≠ '?')
  let after (mark : Char) (part : List Char) : Option (List Char) :=
    match part.dropWhile (· ≠ mark) with
    | [] => none
    | _ :: found => some found
  some {
    scheme := scheme.map Char.toLower
    host, port, path
    query := after '?' beforeFragment
    fragment := after '#' rest }

/-- Whether a segment means the folder that it stands in. -/
def isSingleDot (segment : List Char) : Bool :=
  let plain := segment.map Char.toLower
  plain == ['.'] || plain == "%2e".toList

/-- Whether a segment means the folder above the one that it stands in. -/
def isDoubleDot (segment : List Char) : Bool :=
  let plain := segment.map Char.toLower
  plain == "..".toList || plain == ".%2e".toList || plain == "%2e.".toList
    || plain == "%2e%2e".toList

/-- The segments after those that lead to a place, the dotted ones being carried out. -/
def resolve : List (List Char) → List (List Char) → List (List Char)
  | above, [] => above
  | above, segment :: later =>
    -- A dotted segment at the end leaves an empty one, which is the final stroke.
    let ending := if later.isEmpty then [[]] else []
    if isDoubleDot segment then resolve (above.dropLast ++ ending) later
    else if isSingleDot segment then resolve (above ++ ending) later
    else resolve (above ++ [segment]) later

/-- The path in its one spelling, a missing one being that of the root. -/
def pathText (address : Address) : List Char :=
  let strokes := address.path.map fun c => if c = '\\' then '/' else c
  let segments := resolve [] (Form.splitAt '/' (strokes.drop 1))
  segments.flatMap fun segment => '/' :: encode isForeignToPath segment

/-- An optional part behind its mark. -/
def partText (mark : Char) (isForeign : Char → Bool) : Option (List Char) → List Char
  | some part => mark :: encode isForeign part
  | none => []

/-- The port behind its colon. -/
def portText : Option Nat → List Char
  | some port => ':' :: Nat.toDigits 10 port
  | none => []

/-- The address in its one spelling. -/
def text (address : Address) : String :=
  String.ofList (address.scheme ++ "://".toList ++ address.host.text ++ portText address.port
    ++ address.pathText
    ++ partText '?' isForeignToQuery address.query
    ++ partText '#' isForeignToFragment address.fragment)

end Address

end RoomAir
