import RoomAir.Number.Literal
import RoomAir.Text.Classes

/-! The words of RON: space and comments, names, texts, bytes and numbers. -/

namespace RoomAir.Ron

/-! ## Space -/

/-- Whether a character separates words. -/
def isSpace (c : Char) : Bool :=
  c = ' ' || (0x9 ≤ c.toNat && c.toNat ≤ 0xD) || c = '\u0085' || c = '\u200E' || c = '\u200F'
    || c = '\u2028' || c = '\u2029'

/-- The text after a comment that is inside of so many others. -/
def afterBlock? : Nat → List Char → Option (List Char)
  | _, [] => none
  | depth, '/' :: '*' :: rest => afterBlock? (depth + 1) rest
  | 0, '*' :: '/' :: rest => some rest
  | depth + 1, '*' :: '/' :: rest => afterBlock? depth rest
  | depth, _ :: rest => afterBlock? depth rest

/-- The text after space and as many comments as the fuel lasts for. -/
def skipFrom? : Nat → List Char → Option (List Char)
  | 0, text => some text
  | fuel + 1, text =>
    match text.dropWhile isSpace with
    | '/' :: '/' :: rest => skipFrom? fuel (rest.dropWhile (· ≠ '\n'))
    | '/' :: '*' :: rest => (afterBlock? 0 rest).bind (skipFrom? fuel)
    | '/' :: _ => none
    | rest => some rest

/-- The text after space and comments, all of which must be closed. -/
def skip? (text : List Char) : Option (List Char) :=
  skipFrom? (text.length + 1) text

/-! ## Names -/

/-- Whether a name may begin with a character. -/
def startsName (c : Char) : Bool :=
  c = '_' || Letter.startsIdentifier c

/-- Whether a character may stand in a name that is marked as one. -/
def isMarkedNameChar (c : Char) : Bool :=
  c = '.' || c = '+' || c = '-' || Letter.continuesIdentifier c

/-- Whether a text begins like a text or bytes with a letter in front. -/
def opensQuoted (text : List Char) : Bool :=
  ["b\"", "b'", "br#", "br\"", "r\"", "r#\"", "r##"].any fun mark => mark.toList.isPrefixOf text

/-- A name, and the text after it. -/
def name? (text : List Char) : Option (String × List Char) :=
  if opensQuoted text || !text.head?.any startsName then none
  else match text with
    | 'r' :: '#' :: rest =>
      let name := rest.takeWhile isMarkedNameChar
      if name.isEmpty then none
      else some (String.ofList name, rest.dropWhile isMarkedNameChar)
    | _ =>
      let name := text.takeWhile Letter.continuesIdentifier
      let rest := text.dropWhile Letter.continuesIdentifier
      -- Only a marked name may go on with a point or a sign.
      if rest.head?.any isMarkedNameChar then none else some (String.ofList name, rest)

/-- The text after a given word, unless the word goes on. -/
def afterWord? (word : String) (text : List Char) : Option (List Char) :=
  let rest := text.drop word.toList.length
  if word.toList.isPrefixOf text && !rest.head?.any Letter.continuesIdentifier then some rest
  else none

/-! ## Texts -/

/-- A byte of two hexadecimal digits. -/
def byte? : List Char → Option (UInt8 × List Char)
  | high :: low :: rest => do
    some ((← Whole.digits? 16 [high, low]).toUInt8, rest)
  | _ => none

/-- A character spelled by its bytes, of which some are known and so many more may follow. -/
def spelledByBytes? : Nat → Bytes → List Char → Option (Char × List Char)
  | more, known, text => do
    let (byte, rest) ← byte? text
    let bytes := known ++ [byte]
    match (Utf8.decode? bytes).bind (·.toList.head?), more, rest with
    | some c, _, _ => some (c, rest)
    | none, more + 1, '\\' :: 'x' :: rest => spelledByBytes? more bytes rest
    | none, _, _ => none

/-- A character spelled by one to six hexadecimal digits in braces. -/
def spelledByCode? : List Char → Option (Char × List Char)
  | '\x7b' :: rest => do
    let digits := rest.takeWhile (· ≠ '\x7d')
    let code ← Whole.digits? 16 digits
    if 6 < digits.length ∨ !code.isValidChar then none
    else some (Char.ofNat code, (rest.dropWhile (· ≠ '\x7d')).drop 1)
  | _ => none

/-- The character after a backslash, which up to so many bytes may spell. -/
def escape? (bytes : Nat) : List Char → Option (Char × List Char)
  | '\'' :: rest => some ('\'', rest)
  | '"' :: rest => some ('"', rest)
  | '\\' :: rest => some ('\\', rest)
  | 'n' :: rest => some ('\n', rest)
  | 'r' :: rest => some ('\r', rest)
  | 't' :: rest => some ('\t', rest)
  | '0' :: rest => some ('\x00', rest)
  | 'x' :: rest => spelledByBytes? (bytes - 1) [] rest
  | 'u' :: rest => spelledByCode? rest
  | _ => none

/-- A text up to its closing quote. -/
def quoted? : Nat → List Char → Option (List Char × List Char)
  | 0, _ => none
  | _, [] => none
  | _, '"' :: rest => some ([], rest)
  | fuel + 1, '\\' :: rest => do
    let (found, rest) ← escape? 4 rest
    let (later, rest) ← quoted? fuel rest
    some (found :: later, rest)
  | fuel + 1, c :: rest => (quoted? fuel rest).map fun (later, rest) => (c :: later, rest)

/-- Bytes up to their closing quote, those of characters being their encoding. -/
def quotedBytes? : Nat → List Char → Option (Bytes × List Char)
  | 0, _ => none
  | _, [] => none
  | _, '"' :: rest => some ([], rest)
  | fuel + 1, '\\' :: 'x' :: rest => do
    let (found, rest) ← byte? rest
    let (later, rest) ← quotedBytes? fuel rest
    some (found :: later, rest)
  | fuel + 1, '\\' :: rest => do
    let (found, rest) ← escape? 4 rest
    let (later, rest) ← quotedBytes? fuel rest
    some (Utf8.encodeChar found ++ later, rest)
  | fuel + 1, c :: rest =>
    (quotedBytes? fuel rest).map fun (later, rest) => (Utf8.encodeChar c ++ later, rest)

/-- What stands before a mark, and the text after the mark. -/
def before? (mark : List Char) : List Char → Option (List Char × List Char)
  | [] => none
  | c :: rest =>
    if mark.isPrefixOf (c :: rest) then some ([], (c :: rest).drop mark.length)
    else (before? mark rest).map fun (front, rest) => (c :: front, rest)

/-- A text without escapes: it ends at a quote with as many hashes as the opening one has. -/
def raw? (text : List Char) : Option (List Char × List Char) :=
  let hashes := text.takeWhile (· = '#')
  match text.drop hashes.length with
  | '"' :: rest => before? ('"' :: hashes) rest
  | _ => none

/-- A single character after its opening quote. -/
def character? (text : List Char) : Option (Char × List Char) := do
  let (found, rest) ← match text with
    | '\\' :: rest => escape? 1 rest
    | c :: rest => some (c, rest)
    | [] => none
  match rest with
  | '\'' :: rest => some (found, rest)
  | _ => none

/-- A single byte after its opening quote. -/
def byteCharacter? (text : List Char) : Option (UInt8 × List Char) := do
  let (found, rest) ← match text with
    | '\\' :: 'x' :: rest => byte? rest
    | _ => do
      let (c, rest) ← match text with
        | '\\' :: rest => escape? 1 rest
        | c :: rest => some (c, rest)
        | [] => none
      if c.toNat < 0x80 then some (c.toNat.toUInt8, rest) else none
  match rest with
  | '\'' :: rest => some (found, rest)
  | _ => none

/-! ## Numbers -/

/-- Whether a character may stand in a whole number after its sign. -/
def isWholeChar (c : Char) : Bool :=
  (Form.hexValue? c).isSome || c = '_'

/-- Whether a character may stand in a number with a fraction or an exponent after its sign. -/
def isFloatChar (c : Char) : Bool :=
  c.isDigit || c = 'e' || c = 'E' || c = '.' || c = '+' || c = '-' || c = '_'

/-- The widths of whole numbers under the names that may follow them: least and largest value. -/
def widths : List (String × Int × Int) :=
  [("i8", -2 ^ 7, 2 ^ 7 - 1), ("i16", -2 ^ 15, 2 ^ 15 - 1), ("i32", -2 ^ 31, 2 ^ 31 - 1),
   ("i64", -2 ^ 63, 2 ^ 63 - 1), ("u8", 0, 2 ^ 8 - 1), ("u16", 0, 2 ^ 16 - 1),
   ("u32", 0, 2 ^ 32 - 1), ("u64", 0, 2 ^ 64 - 1)]

/-- The base that a whole number is in, and the text after the mark of the base. -/
def base (text : List Char) : Nat × List Char :=
  match text with
  | '0' :: 'b' :: rest => (2, rest)
  | '0' :: 'o' :: rest => (8, rest)
  | '0' :: 'x' :: rest => (16, rest)
  | _ => (10, text)

/-- A whole number of 64 bits, or of the width that is named after it. -/
def whole? (text : List Char) : Option (Int × List Char) := do
  let (negative, unsigned) := Literal.readSign text
  let (base, digits) := base unsigned
  let spelled := digits.takeWhile isWholeChar
  let rest := digits.dropWhile isWholeChar
  if spelled.head? = some '_' then none
  else
    let magnitude ← Whole.digits? base (spelled.filter (· ≠ '_'))
    let value : Int := if negative then -magnitude else magnitude
    let (least, largest, rest) := match widths.findSome? fun (name, least, largest) =>
        (afterWord? name rest).map fun rest => (least, largest, rest) with
      | some found => found
      | none => (if negative then -2 ^ 63 else 0, if negative then 0 else 2 ^ 64 - 1, rest)
    if least ≤ value ∧ value ≤ largest then some (value, rest) else none

/-- A number's characters without underscores, each of which follows a digit or an exponent's mark
with nothing but signs and underscores between. -/
def withoutSpacing? : Bool → List Char → Option (List Char)
  | _, [] => some []
  | allowed, c :: rest =>
    if c = '_' then if allowed then withoutSpacing? true rest else none
    else
      let allowed := c.isDigit || c = 'e' || c = 'E' || (allowed && c ≠ '.')
      (withoutSpacing? allowed rest).map (c :: ·)

/-- The numbers that have names. -/
def namedNumber? (text : List Char) : Option (Extended × List Char) :=
  let (negative, unsigned) := Literal.readSign text
  [("inf", Extended.infinite negative), ("NaN", .nan)].findSome? fun (name, value) =>
    ["", "f32", "f64"].findSome? fun width =>
      (afterWord? (name ++ width) unsigned).map fun rest => (value, rest)

/-- A number that may have a fraction and an exponent, of the width that is named after it. -/
def float? (text : List Char) : Option (Extended × List Char) :=
  match namedNumber? text with
  | some found => some found
  | none => do
    let literal ← Literal.read? (← withoutSpacing? false (text.takeWhile isFloatChar))
    let rest := text.dropWhile isFloatChar
    match afterWord? "f32" rest, afterWord? "f64" rest with
    | some rest, _ => some (literal.toSingle, rest)
    | none, some rest => some (literal.toExtended, rest)
    | none, none => some (literal.toExtended, rest)

/-- Whether a number has more than what stands in whole numbers. -/
def looksFloat (text : List Char) : Bool :=
  let (_, unsigned) := Literal.readSign text
  (unsigned.takeWhile isWholeChar).length < (unsigned.takeWhile isFloatChar).length

end RoomAir.Ron
