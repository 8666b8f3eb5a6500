import RoomAir.Config.Basic
import RoomAir.Number.Literal

/-! The nodes of YAML: what scalars mean, and mappings whose keys are nodes themselves. -/

namespace RoomAir.Yaml

/-- A node. -/
inductive Node where
  | null
  /-- What has no value: its tag says otherwise, or it is inside of itself. -/
  | invalid
  | bool (value : Bool)
  | integer (value : Int)
  /-- A number that is not whole or is marked as such, as it is spelled. -/
  | real (spelling : String)
  | text (content : String)
  | sequence (items : List Node)
  | mapping (entries : List (Node × Node))

instance : Inhabited Node := ⟨.null⟩

namespace Node

mutual

/-- Whether two nodes are the same key: numbers are compared as they are spelled. -/
def same : Node → Node → Bool
  | .null, .null => true
  | .invalid, .invalid => true
  | .bool left, .bool right => left == right
  | .integer left, .integer right => left == right
  | .real left, .real right => left == right
  | .text left, .text right => left == right
  | .sequence left, .sequence right => sameItems left right
  | .mapping left, .mapping right => sameEntries left right
  | _, _ => false

/-- Whether two sequences have the same items. -/
def sameItems : List Node → List Node → Bool
  | [], [] => true
  | left :: lefts, right :: rights => same left right && sameItems lefts rights
  | _, _ => false

/-- Whether two mappings have the same entries in the same order. -/
def sameEntries : List (Node × Node) → List (Node × Node) → Bool
  | [], [] => true
  | (key, value) :: lefts, (other, content) :: rights =>
    same key other && same value content && sameEntries lefts rights
  | _, _ => false

end

/-! ## Scalars -/

/-- A whole number in base sixteen or eight after its marker, or in base ten. -/
def integer? : List Char → Option Int
  | '0' :: 'x' :: digits => Whole.signed? 16 digits
  | '0' :: 'o' :: digits => Whole.signed? 8 digits
  -- A plus may stand before a sign of its own.
  | '+' :: number => Whole.signed? 10 number
  | number => Whole.signed? 10 number

/-- The names of the numbers that are not finite. -/
def specialNumbers : List String :=
  [".inf", ".Inf", ".INF", "+.inf", "+.Inf", "+.INF", "-.inf", "-.Inf", "-.INF",
   ".nan", ".NaN", ".NAN"]

/-- Whether a text spells a number, which may be one that is not finite. -/
def isReal (content : String) : Bool :=
  -- Words like `inf` have no digit and are texts.
  specialNumbers.contains content
    || (content.toList.any Char.isDigit && (Literal.read? content.toList).isSome)

/-- What a plain scalar without a tag means. -/
def ofPlain (content : String) : Node :=
  if ["", "~", "null"].contains content then .null
  else if ["true", "True", "TRUE"].contains content then .bool true
  else if ["false", "False", "FALSE"].contains content then .bool false
  else match integer? content.toList with
    | some value => .integer value
    | none => if isReal content then .real content else .text content

/-- What the tags stand for that need not be declared. -/
def commonTags : String := "tag:yaml.org,2002:"

/-- What a plain scalar means under one of the common tags. -/
def ofTagged (name content : String) : Node :=
  if name = "bool" then
    if content = "true" then .bool true else if content = "false" then .bool false else .invalid
  else if name = "int" then
    match Whole.signed? 10 content.toList with
    | some value => .integer value
    | none => .invalid
  else if name = "float" then if isReal content then .real content else .invalid
  else if name = "null" then if content = "~" ∨ content = "null" then .null else .invalid
  else .text content

/-- A tag: what its handle stands for, and what comes after the handle. -/
structure Tag where
  space : String
  name : String

/-- What a scalar means: one that is not plain, or has a tag of another kind, is a text. -/
def ofScalar (isPlain : Bool) (tag : Option Tag) (content : String) : Node :=
  if !isPlain then .text content
  else match tag with
    | none => ofPlain content
    | some tag => if tag.space = commonTags then ofTagged tag.name content else .text content

/-! ## Mappings -/

/-- A mapping while it is read. -/
structure Pairs where
  entries : List (Node × Node)
  /-- The key whose value comes next. -/
  key : Node

namespace Pairs

/-- A mapping of which nothing has been read. -/
def empty : Pairs := ⟨[], .invalid⟩

/-- Takes the next node: a key, unless there is one and it is the key's value. -/
def take? (node : Node) (pairs : Pairs) : Option Pairs :=
  match pairs.key with
  -- What has no value is no key either, so the node after it is looked at as a key.
  | .invalid => some { pairs with key := node }
  | key =>
    if pairs.entries.any fun entry => same entry.1 key then none
    else some ⟨pairs.entries ++ [(key, node)], .invalid⟩

end Pairs

/-! ## Configurations -/

/-- The text of a key, which is a text, a number or a truth value. -/
def keyText? : Node → Option String
  | .text content => some content
  | .integer value => some (toString value)
  | .bool value => some (if value then "true" else "false")
  | .real spelling => some spelling
  | _ => none

mutual

/-- The configuration that a node is; numbers that are not finite have no place in one. -/
def toConfig? : Node → Option Config
  | .null => some .null
  | .invalid => some .null
  | .bool value => some (.bool value)
  | .integer value => some (.integer value)
  | .real spelling =>
    (Literal.read? spelling.toList).map fun literal => .float literal.toExtended
  | .text content => some (.text content)
  | .sequence items => (itemConfigs? items).map .list
  | .mapping entries => (entryConfigs? [] entries).map .table

/-- The configurations that items are. -/
def itemConfigs? : List Node → Option (List Config)
  | [] => some []
  | item :: items => do
    let first ← item.toConfig?
    some (first :: (← itemConfigs? items))

/-- Entries put into a table, the last of equal texts counting. -/
def entryConfigs? (table : List (String × Config)) :
    List (Node × Node) → Option (List (String × Config))
  | [] => some table
  | (key, value) :: entries => do
    let name ← key.keyText?
    let value ← value.toConfig?
    entryConfigs? (Config.put name value table) entries

end

end Node

end RoomAir.Yaml
