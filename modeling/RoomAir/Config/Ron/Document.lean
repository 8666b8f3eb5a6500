import RoomAir.Config.Basic
import RoomAir.Config.Ron.Scalar

/-! RON documents. -/

namespace RoomAir.Ron

/-- A value as a document spells it. -/
inductive Value where
  | unit
  | bool (value : Bool)
  | integer (value : Int)
  | float (value : Extended)
  | text (value : String)
  | bytes (value : Bytes)
  | option (inner : Option Value)
  | list (items : List Value)
  | map (entries : List (Value × Value))

instance : Inhabited Value := ⟨.unit⟩

/-! ## Values as configurations -/

/-- The text of a key. -/
def Value.key? : Value → Option String
  | .text key => some key
  | .bytes key => Utf8.decode? key
  | _ => none

mutual

/-- The configuration that a value is, if each of its keys is a text. -/
def Value.toConfig? : Value → Option Config
  | .unit => some .null
  | .bool value => some (.bool value)
  | .integer value => some (.integer value)
  | .float value => some (.float value)
  | .text value => some (.text value)
  | .bytes value => some (.list (value.map fun byte => .integer byte.toNat))
  | .option none => some .null
  | .option (some inner) => inner.toConfig?
  | .list items => (itemConfigs? items).map .list
  | .map entries => (entryConfigs? [] entries).map .table

/-- The configurations that items are. -/
def itemConfigs? : List Value → Option (List Config)
  | [] => some []
  | item :: items => do
    let first ← item.toConfig?
    some (first :: (← itemConfigs? items))

/-- Entries put into a table, the last of equal keys counting. -/
def entryConfigs? (table : List (String × Config)) :
    List (Value × Value) → Option (List (String × Config))
  | [] => some table
  | (key, value) :: entries => do
    let name ← key.key?
    let value ← value.toConfig?
    entryConfigs? (Config.put name value table) entries

end

/-! ## Reading -/

/-- The most values that may be open at a time, a collection counting beside each of its parts. -/
def deepest : Nat := 128

/-- The values that stand for themselves as words. -/
def words : List (String × Value) :=
  [("true", .bool true), ("false", .bool false), ("None", .option none)]

/-- A value that is neither a collection nor a name. -/
def scalar? (text : List Char) : Option (Value × List Char) :=
  match text with
  | '"' :: rest =>
    (quoted? text.length rest).map fun (found, rest) => (.text (String.ofList found), rest)
  | 'r' :: rest => (raw? rest).map fun (found, rest) => (.text (String.ofList found), rest)
  | 'b' :: '"' :: rest =>
    (quotedBytes? text.length rest).map fun (found, rest) => (.bytes found, rest)
  | 'b' :: 'r' :: rest =>
    (raw? rest).map fun (found, rest) => (.bytes (found.flatMap Utf8.encodeChar), rest)
  | 'b' :: '\'' :: rest =>
    (byteCharacter? rest).map fun (found, rest) => (.integer found.toNat, rest)
  | '\'' :: rest =>
    (character? rest).map fun (found, rest) => (.text (String.ofList [found]), rest)
  | _ =>
    let float := (float? text).map fun (found, rest) => (Value.float found, rest)
    if looksFloat text then float
    -- A whole number that is too large is taken for one with a fraction.
    else ((whole? text).map fun (found, rest) => (.integer found, rest)).or float

/-- Whether the parts between parentheses have names, the opening one being left out. -/
def hasNames (text : List Char) : Bool :=
  match (skip? text).bind name? with
  | some (_, rest) => ((skip? rest).bind List.head?) = some ':'
  | none => false

/-- The text after space and perhaps a comma, and whether there was one. -/
def comma? (text : List Char) : Option (Bool × List Char) := do
  match ← skip? text with
  | ',' :: rest => some (true, ← skip? rest)
  | rest => some (false, rest)

mutual

/-- A value, below which so many more may be open. -/
def value? : Nat → Nat → List Char → Option (Value × List Char)
  | 0, _, _ => none
  | fuel + 1, depth, text =>
    match words.findSome? fun (word, value) => (afterWord? word text).map fun rest => (value, rest),
        text with
    | some found, _ => some found
    | none, '(' :: ')' :: rest => some (.unit, rest)
    | none, '(' :: _ => group? fuel depth text
    | none, '[' :: rest => do
      let depth + 1 := depth | none
      let (items, rest) ← items? fuel depth ']' rest
      some (.list items, rest)
    | none, '\x7b' :: rest => do
      let depth + 1 := depth | none
      let (entries, rest) ← entries? fuel depth [] rest
      some (.map entries, rest)
    | none, _ =>
      match afterWord? "Some" text, namedNumber? text, name? text with
      | some rest, _, _ => do
        let '(' :: rest ← skip? rest | none
        let depth + 1 := depth | none
        let (inner, rest) ← value? fuel depth (← skip? rest)
        let (_, ')' :: rest) ← comma? rest | none
        some (.option (some inner), rest)
      | none, some (number, rest), _ => some (.float number, rest)
      | none, none, some (_, rest) => do group? fuel depth (← skip? rest)
      | none, none, none => scalar? text

/-- What stands in parentheses after a name, which may be missing or have nothing after it. -/
def group? : Nat → Nat → List Char → Option (Value × List Char)
  | 0, _, _ => none
  | fuel + 1, depth, text =>
    match text with
    | '(' :: rest => do
      let depth + 1 := depth | none
      if hasNames rest then
        let (members, rest) ← members? fuel depth rest
        some (.map members, rest)
      else
        let (items, rest) ← items? fuel depth ')' rest
        some (.list items, rest)
    | _ => some (.unit, text)

/-- Values up to a closing mark, a comma after each but perhaps the last. -/
def items? : Nat → Nat → Char → List Char → Option (List Value × List Char)
  | 0, _, _, _ => none
  | fuel + 1, depth, close, text => do
    let text ← skip? text
    if text.head? = some close then some ([], text.drop 1)
    else
      let depth + 1 := depth | none
      let (item, rest) ← value? fuel depth text
      let (more, rest) ← comma? rest
      if more then
        let (items, rest) ← items? fuel (depth + 1) close rest
        some (item :: items, rest)
      else if rest.head? = some close then some ([item], rest.drop 1)
      else none

/-- Keys and values up to a closing brace, a comma after each pair but perhaps the last. -/
def entries? : Nat → Nat → List (Value × Value) → List Char →
    Option (List (Value × Value) × List Char)
  | 0, _, _, _ => none
  | fuel + 1, depth, entries, text => do
    let text ← skip? text
    if text.head? = some '\x7d' then some (entries, text.drop 1)
    else
      let depth + 1 := depth | none
      let (key, rest) ← value? fuel depth text
      let ':' :: rest ← skip? rest | none
      let (value, rest) ← value? fuel depth (← skip? rest)
      let entries := entries ++ [(key, value)]
      let (more, rest) ← comma? rest
      if more then entries? fuel (depth + 1) entries rest
      else if rest.head? = some '\x7d' then some (entries, rest.drop 1)
      else none

/-- Names and values up to a closing parenthesis, a comma after each but perhaps the last. -/
def members? : Nat → Nat → List Char → Option (List (Value × Value) × List Char)
  | 0, _, _ => none
  | fuel + 1, depth, text => do
    let text ← skip? text
    if text.head? = some ')' then some ([], text.drop 1)
    else
      let depth + 1 := depth | none
      let (name, rest) ← name? text
      let ':' :: rest ← skip? rest | none
      let (value, rest) ← value? fuel depth (← skip? rest)
      let (more, rest) ← comma? rest
      if more then
        let (members, rest) ← members? fuel (depth + 1) rest
        some ((.text name, value) :: members, rest)
      else if rest.head? = some ')' then some ([(.text name, value)], rest.drop 1)
      else none

end

/-! ## Documents -/

/-- The extensions that a document may ask for, none of which changes what is read here. -/
def extensions : List String :=
  ["unwrap_newtypes", "implicit_some", "unwrap_variant_newtypes", "explicit_struct_names"]

/-- The text after some marks in a row, space being skipped after each. -/
def afterMarks? : List String → List Char → Option (List Char)
  | [], text => some text
  | mark :: marks, text => do
    if mark.toList.isPrefixOf text then
      afterMarks? marks (← skip? (text.drop mark.toList.length))
    else none

/-- The text after the names of extensions with commas between. -/
def afterExtensions? : Nat → List Char → Option (List Char)
  | 0, _ => none
  | fuel + 1, text => do
    let (name, rest) ← name? text
    if !extensions.contains name then none
    else
      let (more, rest) ← comma? rest
      let continues := rest.head?.any Letter.continuesIdentifier
      if more && continues then afterExtensions? fuel rest
      else if continues then none
      else some rest

/-- The text after the lines at the front that ask for extensions. -/
def afterAttributes? : Nat → List Char → Option (List Char)
  | 0, _ => none
  | fuel + 1, text =>
    if text.head? ≠ some '#' then some text
    else do
      let rest ← afterMarks? ["#", "!", "[", "enable", "("] text
      let rest ← afterExtensions? rest.length rest
      afterAttributes? fuel (← afterMarks? [")", "]"] rest)

/-- The entries of a document's only value, which is a table. -/
def read? (document : String) : Option (List (String × Config)) := do
  let text ← afterAttributes? (document.length + 1) (← skip? document.toList)
  let (value, rest) ← value? (2 * text.length + 2) deepest text
  if !(← skip? rest).isEmpty then none
  else match ← value.toConfig? with
    | .table entries => some entries
    | _ => none

end RoomAir.Ron
