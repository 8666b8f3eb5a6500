import RoomAir.Config.Basic
import RoomAir.Number.Literal
import RoomAir.Time.Calendar

/-! The scalars of TOML: strings, numbers, truth values, and dates and times kept as text. -/

namespace RoomAir.Toml

/-- Whether a character is a blank inside of a line. -/
def isBlank (c : Char) : Bool :=
  c = ' ' || c = '\t'

/-- A text without the blanks it begins with. -/
def skipBlanks (text : List Char) : List Char :=
  text.dropWhile isBlank

/-- The text after a line break. -/
def lineBreak? : List Char → Option (List Char)
  | '\n' :: rest => some rest
  | '\r' :: '\n' :: rest => some rest
  | _ => none

/-- Whether a character may stand as itself in strings and comments of one line. -/
def isPrintable (c : Char) : Bool :=
  c = '\t' || (0x20 ≤ c.toNat && c.toNat ≠ 0x7F)

/-- The text after blanks, line breaks and comments. -/
def skipLines : Nat → List Char → List Char
  | 0, text => text
  | fuel + 1, text =>
    match skipBlanks text with
    | '#' :: rest => skipLines fuel (rest.dropWhile isPrintable)
    | rest =>
      match lineBreak? rest with
      | some later => skipLines fuel later
      | none => rest

/-! ## Strings -/

/-- The character that a number of hexadecimal digits stands for. -/
def unicodeEscape? (count : Nat) (text : List Char) : Option (Char × List Char) := do
  let digits := text.take count
  if digits.length < count then none
  else
    let code ← Whole.digits? 16 digits
    if code.isValidChar then some (Char.ofNat code, text.drop count) else none

/-- The character after a backslash. -/
def escape? : List Char → Option (Char × List Char)
  | 'b' :: rest => some ('\x08', rest)
  | 't' :: rest => some ('\t', rest)
  | 'n' :: rest => some ('\n', rest)
  | 'f' :: rest => some ('\x0C', rest)
  | 'r' :: rest => some ('\r', rest)
  | 'e' :: rest => some ('\x1B', rest)
  | '"' :: rest => some ('"', rest)
  | '\\' :: rest => some ('\\', rest)
  | 'x' :: rest => unicodeEscape? 2 rest
  | 'u' :: rest => unicodeEscape? 4 rest
  | 'U' :: rest => unicodeEscape? 8 rest
  | _ => none

/-- The text after blanks and line breaks. -/
def skipSpace : Nat → List Char → List Char
  | 0, text => text
  | fuel + 1, text =>
    match lineBreak? (skipBlanks text) with
    | some rest => skipSpace fuel rest
    | none => skipBlanks text

/-- A string on one line up to its closing quote. -/
def lineString? (quote : Char) : Nat → List Char → Option (List Char × List Char)
  | _, [] => none
  | 0, _ => none
  | fuel + 1, c :: rest =>
    if c = quote then some ([], rest)
    -- Only double quotes enclose escapes.
    else if c = '\\' ∧ quote = '"' then do
      let (found, rest) ← escape? rest
      let (later, rest) ← lineString? quote fuel rest
      some (found :: later, rest)
    else if isPrintable c then do
      let (later, rest) ← lineString? quote fuel rest
      some (c :: later, rest)
    else none

/-- A string on several lines up to its three closing quotes, which two more may precede. -/
def blockString? (quote : Char) : Nat → List Char → Option (List Char × List Char)
  | _, [] => none
  | 0, _ => none
  | fuel + 1, c :: rest =>
    let run := (c :: rest).takeWhile (· = quote)
    if 3 ≤ run.length then
      if run.length ≤ 5 then some (run.drop 3, (c :: rest).drop run.length) else none
    else if c = '\\' ∧ quote = '"' then
      -- A backslash at the end of a line hides all space up to the next character.
      match lineBreak? (skipBlanks rest) with
      | some later => blockString? quote fuel (skipSpace later.length later)
      | none => do
        let (found, rest) ← escape? rest
        let (later, rest) ← blockString? quote fuel rest
        some (found :: later, rest)
    else if isPrintable c || (lineBreak? (c :: rest)).isSome then do
      let (later, rest) ← blockString? quote fuel rest
      some (c :: later, rest)
    else none

/-- A string that begins with the given quote. -/
def string? (quote : Char) (text : List Char) : Option (String × List Char) := do
  let inside := text.drop 1
  let (content, rest) ←
    if (inside.take 2).all (· = quote) ∧ 2 ≤ inside.length then
      -- A line break right after three opening quotes does not count.
      let block := inside.drop 2
      blockString? quote text.length ((lineBreak? block).getD block)
    else lineString? quote text.length inside
  some (String.ofList content, rest)

/-! ## Numbers -/

/-- The digits of a text in which single underscores stand between digits. -/
def spacedDigits? (isDigit : Char → Bool) (text : List Char) : Option (List Char) :=
  let groups := Form.splitAt '_' text
  if groups.all fun group => !group.isEmpty && group.all isDigit then some groups.flatten
  else none

/-- The digits of a decimal number, of which the first is zero only if it is alone. -/
def decimalDigits? (text : List Char) : Option (List Char) := do
  let digits ← spacedDigits? Char.isDigit text
  if digits.head? = some '0' ∧ 1 < digits.length then none else some digits

/-- A sign, which may be missing, and what follows it. -/
def splitSign (text : List Char) : List Char × List Char :=
  match text with
  | '+' :: rest => (['+'], rest)
  | '-' :: rest => (['-'], rest)
  | _ => ([], text)

/-- A whole number in one of the four bases; a sign goes with decimal digits only. -/
def integer? (text : List Char) : Option Int := do
  let inBase (base : Nat) (digits : List Char) : Option Int := do
    let isDigit (c : Char) : Bool := ((Form.hexValue? c).filter (· < base)).isSome
    Whole.signed? base (← spacedDigits? isDigit digits)
  match text with
  | '0' :: 'x' :: digits => inBase 16 digits
  | '0' :: 'o' :: digits => inBase 8 digits
  | '0' :: 'b' :: digits => inBase 2 digits
  | _ =>
    let (sign, digits) := splitSign text
    Whole.signed? 10 (sign ++ (← decimalDigits? digits))

/-- The exponent at the end of a number, which may be missing. -/
def exponent? : List Char → Option (List Char)
  | [] => some []
  | mark :: rest => do
    if mark ≠ 'e' ∧ mark ≠ 'E' then none
    else
      let (sign, digits) := splitSign rest
      some ('e' :: sign ++ (← spacedDigits? Char.isDigit digits))

/-- A number with a fraction, an exponent or both, or the name of a special value. -/
def float? (text : List Char) : Option Extended := do
  let (sign, unsigned) := splitSign text
  if unsigned = "inf".toList ∨ unsigned = "nan".toList then
    (Literal.read? text).map Literal.toExtended
  else
    let isPart (c : Char) : Bool := c.isDigit || c = '_'
    let whole ← decimalDigits? (unsigned.takeWhile isPart)
    let rest := unsigned.dropWhile isPart
    let (fraction, rest) ← match rest with
      | '.' :: more =>
        (spacedDigits? Char.isDigit (more.takeWhile isPart)).map fun digits =>
          ('.' :: digits, more.dropWhile isPart)
      | _ => if rest.isEmpty then none else some ([], rest)
    let exponent ← exponent? rest
    let literal ← Literal.read? (sign ++ whole ++ fraction ++ exponent)
    match literal.toExtended with
    -- A number too large for a double is no number.
    | .infinite _ => none
    | value => some value

/-! ## Dates and times -/

/-- A number of exactly so many digits up to a limit, and the text after it. -/
def clockField? (count limit : Nat) (text : List Char) : Option (Nat × List Char) := do
  let digits := text.take count
  if digits.length < count ∨ !digits.all Char.isDigit then none
  else if digitsValue digits ≤ limit then some (digitsValue digits, text.drop count)
  else none

/-- The text after one expected character. -/
def expect? (expected : Char) : List Char → Option (List Char)
  | [] => none
  | c :: rest => if c = expected then some rest else none

/-- The text after a date that exists. -/
def afterDate? (text : List Char) : Option (List Char) := do
  let (year, rest) ← clockField? 4 9999 text
  let (month, rest) ← clockField? 2 12 (← expect? '-' rest)
  let (day, rest) ← clockField? 2 31 (← expect? '-' rest)
  if (Date.mk year month day).isValid then some rest else none

/-- The fraction of a second, cut after nine digits and without needless zeros at its end. -/
def clockFraction? : List Char → Option (List Char × List Char)
  | '.' :: rest =>
    let digits := rest.takeWhile Char.isDigit
    let kept := ((digits.take 9).reverse.dropWhile (· = '0')).reverse
    if digits.isEmpty then none
    else some ('.' :: if kept.isEmpty then ['0'] else kept, rest.dropWhile Char.isDigit)
  | text => some ([], text)

/-- A time of day as it is kept, its seconds being optional, and the text after it. -/
def clock? (text : List Char) : Option (List Char × List Char) := do
  let (_, rest) ← clockField? 2 23 text
  let (_, rest) ← clockField? 2 59 (← expect? ':' rest)
  match rest with
  | ':' :: rest =>
    let (_, rest) ← clockField? 2 60 rest
    let (fraction, rest) ← clockFraction? rest
    some (text.take 8 ++ fraction, rest)
  | rest => some (text.take 5, rest)

/-- An offset from UTC that fills a text, as it is kept; it may be missing. -/
def offset? : List Char → Option (List Char)
  | [] => some []
  | ['Z'] => some ['Z']
  | ['z'] => some ['Z']
  | sign :: rest => do
    let (hours, later) ← clockField? 2 23 rest
    let (minutes, later) ← clockField? 2 59 (← expect? ':' later)
    if !later.isEmpty then none
    else if sign = '+' then some (sign :: rest)
    else if sign = '-' then
      -- Nothing behind UTC is written as nothing ahead of it.
      some ((if hours = 0 ∧ minutes = 0 then '+' else '-') :: rest)
    else none

/-- A date, a time of day or both that fill a text, as they are kept. -/
def dateTime? (text : List Char) : Option (List Char) :=
  match afterDate? text with
  | some [] => some text
  | some (separator :: rest) =>
    if separator = 'T' ∨ separator = 't' ∨ separator = ' ' then do
      let (clock, rest) ← clock? rest
      let offset ← offset? rest
      some (text.take 10 ++ 'T' :: clock ++ offset)
    else none
  | none => do
    let (clock, rest) ← clock? text
    if rest.isEmpty then some clock else none

/-! ## Words -/

/-- Whether a character may stand in a scalar that is not quoted. -/
def isWordChar (c : Char) : Bool :=
  c.isAlphanum || c = '+' || c = '-' || c = '_' || c = '.' || c = ':'

/-- The characters of a scalar that is not quoted, and the text after them. -/
def word (text : List Char) : List Char × List Char :=
  let first := text.takeWhile isWordChar
  let rest := text.dropWhile isWordChar
  match rest with
  | ' ' :: later =>
    -- One blank may stand between a date and a time.
    if afterDate? first = some [] ∧ later.head?.any Char.isDigit then
      (first ++ ' ' :: later.takeWhile isWordChar, later.dropWhile isWordChar)
    else (first, rest)
  | _ => (first, rest)

/-- What a scalar that is not quoted means. -/
def wordValue? (text : List Char) : Option Config :=
  if text = "true".toList then some (.bool true)
  else if text = "false".toList then some (.bool false)
  else match integer? text with
    | some value => some (.integer value)
    | none =>
      match float? text with
      | some value => some (.float value)
      | none => (dateTime? text).map fun kept => .text (String.ofList kept)

end RoomAir.Toml
