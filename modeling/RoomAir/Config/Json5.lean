import RoomAir.Config.Basic
import RoomAir.Number.Literal
import RoomAir.Text.Classes

/-! JSON5 documents. -/

namespace RoomAir.Json5

/-! ## Space -/

/-- Whether a character ends a line. -/
def endsLine (c : Char) : Bool :=
  c = '\n' || c = '\r' || c = '\u2028' || c = '\u2029'

/-- The code points of the spaces of all scripts. -/
def spaces : List Nat :=
  [0x20, 0xA0, 0x1680, 0x2000, 0x2001, 0x2002, 0x2003, 0x2004, 0x2005, 0x2006, 0x2007, 0x2008,
   0x2009, 0x200A, 0x202F, 0x205F, 0x3000]

/-- Whether a character may stand between words. -/
def isSpace (c : Char) : Bool :=
  c = '\t' || c = '\x0B' || c = '\x0C' || c = '\uFEFF' || endsLine c || spaces.contains c.toNat

/-- The text after the end of a comment. -/
def afterBlock? : List Char → Option (List Char)
  | [] => none
  | '*' :: '/' :: rest => some rest
  | _ :: rest => afterBlock? rest

/-- The text after space and as many comments as the fuel lasts for. -/
def skipFrom : Nat → List Char → List Char
  | 0, text => text
  | fuel + 1, text =>
    match text.dropWhile isSpace with
    | '/' :: '/' :: rest => skipFrom fuel (rest.dropWhile (!endsLine ·))
    | '/' :: '*' :: rest =>
      match afterBlock? rest with
      | some later => skipFrom fuel later
      | none => '/' :: '*' :: rest
    | rest => rest

/-- The text after space and comments. -/
def skip (text : List Char) : List Char :=
  skipFrom (text.length + 1) text

/-! ## Texts and names -/

/-- A unit of sixteen bits that four hexadecimal digits spell. -/
def unit? (text : List Char) : Option (Nat × List Char) := do
  let digits := text.take 4
  if digits.length < 4 then none else some (← Whole.digits? 16 digits, text.drop 4)

/-- The character that one unit spells, or two where the first is the high half of a pair. -/
def units? (text : List Char) : Option (Char × List Char) := do
  let (first, rest) ← unit? text
  if 0xD800 ≤ first ∧ first < 0xDC00 then
    let '\\' :: 'u' :: rest := rest | none
    let (second, rest) ← unit? rest
    if second < 0xDC00 ∨ 0xE000 ≤ second then none
    else some (Char.ofNat (0x10000 + (first - 0xD800) * 0x400 + (second - 0xDC00)), rest)
  else if first.isValidChar then some (Char.ofNat first, rest)
  else none

/-- What a letter stands for after a backslash; most characters stand for themselves. -/
def letterEscape : Char → Char
  | 'b' => '\x08'
  | 'f' => '\x0C'
  | 'n' => '\n'
  | 'r' => '\r'
  | 't' => '\t'
  | 'v' => '\x0B'
  | '0' => '\x00'
  | c => c

/-- What a backslash and the characters after it stand for; a line break stands for nothing. -/
def escape? : List Char → Option (List Char × List Char)
  | [] => none
  | '\r' :: '\n' :: rest => some ([], rest)
  | 'x' :: rest => do
    let digits := rest.take 2
    if digits.length < 2 then none
    else some ([Char.ofNat (← Whole.digits? 16 digits)], rest.drop 2)
  | 'u' :: rest => (units? rest).map fun (c, rest) => ([c], rest)
  | c :: rest =>
    if endsLine c then some ([], rest)
    else if c.isDigit ∧ c ≠ '0' then none
    else some ([letterEscape c], rest)

/-- A text up to its closing quote. -/
def quoted? (quote : Char) : Nat → List Char → Option (List Char × List Char)
  | 0, _ => none
  | _, [] => none
  | fuel + 1, c :: rest =>
    if c = quote then some ([], rest)
    else if c = '\\' then do
      let (found, rest) ← escape? rest
      let (later, rest) ← quoted? quote fuel rest
      some (found ++ later, rest)
    else if c = '\n' ∨ c = '\r' then none
    else (quoted? quote fuel rest).map fun (later, rest) => (c :: later, rest)

/-- Whether a name may begin with a character. -/
def startsName (c : Char) : Bool :=
  c = '$' || c = '_' || Letter.isLetter c

/-- Whether a character may follow in a name. -/
def continuesName (c : Char) : Bool :=
  startsName c || Letter.isMark c || c = '\u200C' || c = '\u200D'

/-- The characters of a name that may begin as the class says, and the text after it. -/
def nameFrom? (begins : Char → Bool) : Nat → List Char → Option (List Char × List Char)
  | 0, _ => none
  | fuel + 1, '\\' :: 'u' :: rest => do
    let (found, rest) ← units? rest
    let (later, rest) ← nameFrom? continuesName fuel rest
    some (found :: later, rest)
  | fuel + 1, c :: rest =>
    if begins c then (nameFrom? continuesName fuel rest).map fun (later, rest) => (c :: later, rest)
    else some ([], c :: rest)
  | _, [] => some ([], [])

/-- A key, which is a text or a name. -/
def key? (text : List Char) : Option (String × List Char) := do
  let (found, rest) ← match text with
    | '"' :: rest => quoted? '"' text.length rest
    | '\'' :: rest => quoted? '\'' text.length rest
    | _ => do
      let (name, rest) ← nameFrom? startsName (text.length + 1) text
      if name.isEmpty then none else some (name, rest)
  some (String.ofList found, rest)

/-! ## Numbers -/

/-- The characters of an exponent at the front of a text, if there is one. -/
def exponent (text : List Char) : List Char :=
  match text with
  | mark :: rest =>
    let sign := rest.take 1 |>.filter fun c => c = '+' || c = '-'
    let digits := (rest.drop sign.length).takeWhile Char.isDigit
    if (mark = 'e' ∨ mark = 'E') ∧ !digits.isEmpty then mark :: sign ++ digits else []
  | [] => []

/-- The characters of a decimal number without a sign at the front of a text. -/
def decimal? (text : List Char) : Option (List Char) :=
  -- A zero in front stands alone before the point.
  let whole := if text.head? = some '0' then ['0'] else text.takeWhile Char.isDigit
  match text.drop whole.length with
  | '.' :: rest =>
    let digits := rest.takeWhile Char.isDigit
    if whole.isEmpty ∧ digits.isEmpty then none
    else some (whole ++ '.' :: digits ++ exponent (rest.drop digits.length))
  | rest => if whole.isEmpty then none else some (whole ++ exponent rest)

/-- The number of 32 bits that is spelled after the mark of base sixteen. -/
def hexadecimal? (text : List Char) : Option (Config × List Char) := do
  let digits := text.takeWhile fun c => (Form.hexValue? c).isSome
  let value ← Whole.digits? 16 digits
  if value < 2 ^ 32 then some (.integer value, text.drop digits.length) else none

/-- The number that has a name, if the text begins with the name. -/
def named? (negative : Bool) (text : List Char) : Option (Extended × List Char) :=
  [("Infinity", Extended.infinite negative), ("NaN", .nan)].findSome? fun (name, value) =>
    if name.toList.isPrefixOf text then some (value, text.drop name.toList.length) else none

/-- What the characters of a decimal number mean: a whole number or a finite one. -/
def decimalValue? (characters : List Char) : Option Config :=
  if characters.any fun c => c = '.' || c = 'e' || c = 'E' then
    match (Literal.read? characters).map Literal.toExtended with
    | some (.finite value) => some (.float (.finite value))
    | _ => none
  else (Whole.signed? 10 characters).map .integer

/-- A number. -/
def number? (text : List Char) : Option (Config × List Char) :=
  match text with
  | '0' :: 'x' :: rest => hexadecimal? rest
  | '0' :: 'X' :: rest => hexadecimal? rest
  | _ =>
    let sign := text.take 1 |>.filter fun c => c = '+' || c = '-'
    let unsigned := text.drop sign.length
    match named? (sign = ['-']) unsigned with
    | some (value, rest) =>
      -- A plus does not go with a name.
      if sign = ['+'] then none else some (.float value, rest)
    | none => do
      let characters ← decimal? unsigned
      some (← decimalValue? (sign ++ characters), unsigned.drop characters.length)

/-! ## Documents -/

/-- The values that have names. -/
def words : List (String × Config) :=
  [("null", .null), ("true", .bool true), ("false", .bool false)]

mutual

/-- A value. -/
def value? : Nat → List Char → Option (Config × List Char)
  | 0, _ => none
  | fuel + 1, text =>
    let word := words.findSome? fun (name, value) =>
      if name.toList.isPrefixOf text then some (value, text.drop name.toList.length) else none
    match word, text with
    | some found, _ => some found
    | none, '[' :: rest => (items? fuel (skip rest)).map fun (items, rest) => (.list items, rest)
    | none, '\x7b' :: rest =>
      (members? fuel [] (skip rest)).map fun (members, rest) => (.table members, rest)
    | none, c :: rest =>
      if c = '"' ∨ c = '\'' then
        (quoted? c text.length rest).map fun (found, rest) => (.text (String.ofList found), rest)
      else number? text
    | none, [] => none

/-- The items of an array up to its closing bracket, a comma after each but perhaps the last. -/
def items? : Nat → List Char → Option (List Config × List Char)
  | 0, _ => none
  | fuel + 1, text =>
    match text with
    | ']' :: rest => some ([], rest)
    | _ => do
      let (item, rest) ← value? fuel text
      match skip rest with
      | ',' :: rest =>
        let (items, rest) ← items? fuel (skip rest)
        some (item :: items, rest)
      | ']' :: rest => some ([item], rest)
      | _ => none

/-- The members of an object up to its closing brace, the last of equal keys counting. -/
def members? : Nat → List (String × Config) → List Char →
    Option (List (String × Config) × List Char)
  | 0, _, _ => none
  | fuel + 1, members, text =>
    match text with
    | '\x7d' :: rest => some (members, rest)
    | _ => do
      let (key, rest) ← key? text
      let ':' :: rest := skip rest | none
      let (value, rest) ← value? fuel (skip rest)
      let members := Config.put key value members
      match skip rest with
      | ',' :: rest => members? fuel members (skip rest)
      | '\x7d' :: rest => some (members, rest)
      | _ => none

end

/-- The entries of a document's only value, which is an object. -/
def read? (document : String) : Option (List (String × Config)) := do
  let text := skip document.toList
  let (.table entries, rest) ← value? (2 * text.length + 2) text | none
  if (skip rest).isEmpty then some entries else none

end RoomAir.Json5
