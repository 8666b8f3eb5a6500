import RoomAir.Config.Toml.Scalar
import RoomAir.Config.Toml.Table

/-! TOML documents. -/

namespace RoomAir.Toml

/-- Whether a character may stand in a key that is not quoted. -/
def isKeyChar (c : Char) : Bool :=
  c.isAlphanum || c = '_' || c = '-'

/-- One part of a key. -/
def keyPart? (text : List Char) : Option (String × List Char) :=
  match text with
  | '"' :: rest =>
    (lineString? '"' text.length rest).map fun (key, rest) => (String.ofList key, rest)
  | '\'' :: rest =>
    (lineString? '\'' text.length rest).map fun (key, rest) => (String.ofList key, rest)
  | _ =>
    let key := text.takeWhile isKeyChar
    if key.isEmpty then none else some (String.ofList key, text.dropWhile isKeyChar)

/-- The parts of a key, and the text after it and any blanks. -/
def keyParts? : Nat → List Char → Option (List String × List Char)
  | 0, _ => none
  | fuel + 1, text => do
    let (part, rest) ← keyPart? (skipBlanks text)
    match skipBlanks rest with
    | '.' :: rest =>
      let (parts, rest) ← keyParts? fuel rest
      some (part :: parts, rest)
    | rest => some ([part], rest)

/-- The most parts that a key has, and the most collections that are one inside of another. -/
def deepest : Nat := 80

/-- A key with all its parts, and the text after it and any blanks. -/
def key? (text : List Char) : Option (List String × List Char) := do
  let (parts, rest) ← keyParts? text.length text
  if deepest < parts.length then none else some (parts, rest)

mutual

/-- A value in which collections go to a given depth at most. -/
def value? : Nat → Nat → List Char → Option (Config × List Char)
  | 0, _, _ => none
  | fuel + 1, depth, text =>
    match text, depth with
    | '"' :: _, _ => (string? '"' text).map fun (content, rest) => (.text content, rest)
    | '\'' :: _, _ => (string? '\'' text).map fun (content, rest) => (.text content, rest)
    | '[' :: _, 0 => none
    | '[' :: rest, depth + 1 =>
      (items? fuel depth rest).map fun (items, rest) => (.list items, rest)
    | '\x7b' :: _, 0 => none
    | '\x7b' :: rest, depth + 1 =>
      (inline? fuel depth [] rest).map fun (entries, rest) =>
        (.table (entriesConfig entries), rest)
    | _, _ =>
      let (word, rest) := word text
      (wordValue? word).map fun value => (value, rest)

/-- The items of an array up to its closing bracket, a comma after each but perhaps the last. -/
def items? : Nat → Nat → List Char → Option (List Config × List Char)
  | 0, _, _ => none
  | fuel + 1, depth, text =>
    match skipLines text.length text with
    | ']' :: rest => some ([], rest)
    | rest => do
      let (item, rest) ← value? fuel depth rest
      match skipLines rest.length rest with
      | ',' :: rest =>
        let (items, rest) ← items? fuel depth rest
        some (item :: items, rest)
      | ']' :: rest => some ([item], rest)
      | _ => none

/-- The pairs of an inline table up to its closing brace; a comma may come after the last. -/
def inline? : Nat → Nat → Entries → List Char → Option (Entries × List Char)
  | 0, _, _, _ => none
  | fuel + 1, depth, entries, text =>
    match skipLines text.length text with
    | '\x7d' :: rest => some (entries, rest)
    | rest => do
      let (path, rest) ← key? rest
      let '=' :: rest := skipLines rest.length rest | none
      let (content, rest) ← value? fuel depth (skipLines rest.length rest)
      let entries ← entries.assign? content path
      match skipLines rest.length rest with
      | ',' :: rest => inline? fuel depth entries rest
      | '\x7d' :: rest => some (entries, rest)
      | _ => none

end

/-- One statement of a document. -/
inductive Statement where
  | table (path : List String)
  /-- One more table of an array. -/
  | arrayTable (path : List String)
  | pair (path : List String) (content : Config)

/-- A header after its opening bracket, and the text after its closing one. -/
def header? (text : List Char) : Option (Statement × List Char) :=
  match text with
  | '[' :: rest => do
    let (path, rest) ← key? rest
    let ']' :: ']' :: rest := rest | none
    some (.arrayTable path, rest)
  | _ => do
    let (path, rest) ← key? text
    let ']' :: rest := rest | none
    some (.table path, rest)

/-- A key, an equals sign and a value. -/
def pair? (text : List Char) : Option (Statement × List Char) := do
  let (path, rest) ← key? text
  let '=' :: rest := rest | none
  let (content, rest) ← value? text.length deepest (skipBlanks rest)
  some (.pair path content, rest)

/-- The text after the end of a statement's line, which may have a comment. -/
def endOfLine? (text : List Char) : Option (List Char) :=
  let rest := match skipBlanks text with
    | '#' :: rest => rest.dropWhile isPrintable
    | rest => rest
  if rest.isEmpty then some [] else lineBreak? rest

/-- The statements of a document. -/
def statements? : Nat → List Char → Option (List Statement)
  | 0, _ => none
  | fuel + 1, text =>
    match skipLines text.length text with
    | [] => some []
    | rest => do
      let (statement, rest) ← match rest with
        | '[' :: rest => header? rest
        | _ => pair? rest
      let later ← statements? fuel (← endOfLine? rest)
      some (statement :: later)

/-- Carries out a statement, the path of the table that is open going along. -/
def enter? (state : List String × Entries) : Statement → Option (List String × Entries)
  | .pair path content =>
    (state.2.within? (Entries.assign? content path) state.1).map fun entries => (state.1, entries)
  | .table path => do
    let entries ← state.2.within? (Entries.define? (← path.getLast?)) path.dropLast
    some (path, entries)
  | .arrayTable path => do
    let entries ← state.2.within? (Entries.extend? (← path.getLast?)) path.dropLast
    some (path, entries)

/-- The entries of a document's root table, a mark of its encoding being left out. -/
def read? (document : String) : Option (List (String × Config)) := do
  let text := match document.toList with
    | '\uFEFF' :: rest => rest
    | text => text
  let statements ← statements? (text.length + 1) text
  let (_, entries) ← statements.foldlM enter? ([], [])
  some (entriesConfig entries)

end RoomAir.Toml
