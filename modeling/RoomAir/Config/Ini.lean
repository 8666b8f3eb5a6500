import RoomAir.Config.Basic
import RoomAir.Number.Literal
import RoomAir.Text.Classes

/-! INI documents: texts under keys, in sections or before the first one. -/

namespace RoomAir.Ini

/-! ## Words -/

/-- The character that a letter stands for after a backslash; any other stands for itself. -/
def letterEscape : Char → Char
  | '0' => '\x00'
  | 'a' => '\x07'
  | 'b' => '\x08'
  | 't' => '\t'
  | 'r' => '\r'
  | 'n' => '\n'
  | c => c

/-- The character that four hexadecimal digits stand for, or three after a plus. -/
def codeEscape? (text : List Char) : Option (Char × List Char) := do
  let digits := text.take 4
  if digits.length < 4 then none
  else
    let code ← Whole.digits? 16 (if digits.head? = some '+' then digits.drop 1 else digits)
    if code.isValidChar then some (Char.ofNat code, text.drop 4) else none

/-- What is spelled up to the character that ends it, or up to the end of the document. -/
def spelled? (ends : Char → Bool) : Nat → List Char → Option (List Char × List Char)
  | _, [] => some ([], [])
  | 0, _ => none
  | fuel + 1, c :: rest =>
    if ends c then some ([], c :: rest)
    else if c ≠ '\\' then
      (spelled? ends fuel rest).map fun (later, rest) => (c :: later, rest)
    else match rest with
      | [] => some (['\\'], [])
      -- A backslash at the end of a line joins the next one to it.
      | '\n' :: rest => spelled? ends fuel rest
      | 'x' :: rest => do
        let (found, rest) ← codeEscape? rest
        let (later, rest) ← spelled? ends fuel rest
        some (found :: later, rest)
      | letter :: rest =>
        (spelled? ends fuel rest).map fun (later, rest) => (letterEscape letter :: later, rest)

/-- What is spelled up to one of some characters, which must come, and the text from it on. -/
def spelledUpTo? (ends : Char → Bool) (text : List Char) : Option (List Char × List Char) := do
  let (found, rest) ← spelled? ends text.length text
  if rest.isEmpty then none else some (found, rest)

/-! ## Values -/

/-- Whether a character ends a line. -/
def endsLine (c : Char) : Bool :=
  c = '\n' || c = '\r'

/-- A text without the white space that it ends with. -/
def trimEnd (text : List Char) : List Char :=
  (text.reverse.dropWhile Blank.isBlank).reverse

/-- A value: quoted parts in a row, and then what is left of the line. -/
def value? : Nat → List Char → Option (List Char × List Char)
  | _, [] => some ([], [])
  | 0, _ => none
  | fuel + 1, c :: rest =>
    if c = '"' ∨ c = '\'' then do
      let (part, rest) ← spelledUpTo? (· = c) rest
      let (later, rest) ← value? fuel (rest.drop 1)
      some (part ++ later, rest)
    else do
      let text := c :: rest
      let (part, rest) ← spelled? endsLine text.length text
      some (trimEnd part, rest)

/-- A value after its sign, without the white space at its front. -/
def valueAfterSign? (text : List Char) : Option (String × List Char) := do
  let start := text.dropWhile fun c => Blank.isBlank c && !endsLine c
  let isQuoted := start.head?.any fun c => c = '"' || c = '\''
  let (value, rest) ← value? (start.length + 1) start
  some (String.ofList (if isQuoted then value else Blank.trim value), rest)

/-! ## Documents -/

/-- What has been read: the entries, and the name of the section that is open. -/
structure Read where
  entries : List (String × Config)
  current : Option String

namespace Read

/-- Opens a section, which replaces one of the same name. -/
def openSection (name : String) (read : Read) : Read :=
  ⟨Config.put name (.table []) read.entries, some name⟩

/-- Puts a value into the section that is open, or beside the sections before the first one. -/
def put (key value : String) (read : Read) : Read :=
  match read.current with
  | none => { read with entries := Config.put key (.text value) read.entries }
  | some name =>
    let inside := ((read.entries.lookup name).getD .null).entries
    { read with
      entries := Config.put name (.table (Config.put key (.text value) inside)) read.entries }

end Read

/-- Whether the text after some white space begins a line, given whether the white space does. -/
def beginsLine (first : Bool) (space : List Char) : Bool :=
  match space.getLast? with
  | some c => c = '\n'
  | none => first

/-- The entries of a document, `first` saying whether the text is the beginning of a line. -/
def entries? : Nat → Bool → Read → List Char → Option (List (String × Config))
  | 0, _, _, _ => none
  | fuel + 1, first, read, text =>
    let first := beginsLine first (text.takeWhile Blank.isBlank)
    match Blank.skip text with
    | [] => some read.entries
    | c :: rest =>
      if c = ';' ∨ c = '#' then
        -- A comment takes a line of its own.
        if first then entries? fuel true read ((rest.dropWhile (· ≠ '\n')).drop 1) else none
      else if c = '[' then do
        let (name, rest) ← spelledUpTo? (· = ']') rest
        entries? fuel false (read.openSection (String.ofList (Blank.trim name))) (rest.drop 1)
      else do
        let (name, rest) ← spelledUpTo? (fun c => c = '=' || c = ':') (c :: rest)
        let key := Blank.trim name
        if key.isEmpty then none
        else
          let (value, rest) ← valueAfterSign? (rest.drop 1)
          entries? fuel false (read.put (String.ofList key) value) rest

/-- The entries of a document: its sections as tables, and the values before them. -/
def read? (document : String) : Option (List (String × Config)) :=
  let text := document.toList
  entries? (text.length + 1) true ⟨[], none⟩ text

end RoomAir.Ini
