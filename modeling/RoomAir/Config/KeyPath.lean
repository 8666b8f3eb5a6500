import RoomAir.Config.Basic
import RoomAir.Number.Literal

/-! Paths into configurations, as the keys of layers spell them. -/

namespace RoomAir

/-- One step from a value to a part of it. -/
inductive KeyStep where
  | key (name : String)
  /-- The item at a position, a negative one counting from the end. -/
  | index (position : Int)
  deriving DecidableEq, Repr

/-- A path from a configuration to a value inside it. -/
abbrev KeyPath := List KeyStep

namespace KeyPath

/-- Whether a character may stand in a name. -/
def isNameChar (c : Char) : Bool :=
  c.isAlphanum || c = '_' || c = '-'

/-- A text without the spaces and tabs at either end. -/
def trimBlanks (text : List Char) : List Char :=
  let isBlank (c : Char) : Bool := c = ' ' || c = '\t'
  ((text.dropWhile isBlank).reverse.dropWhile isBlank).reverse

/-- Steps that fill a text: names after points and positions in brackets. -/
def steps? : Nat → List Char → Option KeyPath
  | _, [] => some []
  | 0, _ => none
  | fuel + 1, '.' :: rest =>
    let name := rest.takeWhile isNameChar
    if name.isEmpty then none
    else (steps? fuel (rest.dropWhile isNameChar)).map (.key (String.ofList name) :: ·)
  | fuel + 1, '[' :: rest =>
    match rest.dropWhile (· ≠ ']') with
    | [] => none
    | _ :: later =>
      let position := trimBlanks (rest.takeWhile (· ≠ ']'))
      if position.head? = some '+' then none
      else do
        let index ← Whole.signed? 10 position
        (steps? fuel later).map (.index index :: ·)
  | _, _ => none

/-- The path that a text spells, which begins with a name. -/
def ofText? (text : String) : Option KeyPath :=
  -- The first name stands as if there were a point before it.
  steps? (text.length + 1) ('.' :: text.toList)

/-- The path that a key of a layer stands for: one that spells no path is a name as it is. -/
def ofKey (key : String) : KeyPath :=
  (ofText? key).getD [.key key]

end KeyPath

namespace Config

/-- Items of which the one at a position is changed, the list growing as far as it must. -/
def changeItem (position : Int) (change : Config → Config) (items : List Config) : List Config :=
  if 0 ≤ position then
    let missing := position.toNat + 1 - items.length
    (items ++ List.replicate missing null).modify position.toNat change
  else
    let missing := position.natAbs - items.length
    let grown := List.replicate missing null ++ items
    grown.modify (grown.length - position.natAbs) change

/-- A configuration in which the value at a path is changed, the way to it being made first. -/
def change (alter : Config → Config) : KeyPath → Config → Config
  | [], here => alter here
  | .key name :: path, here =>
    .table (put name (change alter path ((here.get? name).getD .null)) here.entries)
  | .index position :: path, here =>
    .list (changeItem position (change alter path) here.items)

/-- A configuration under a layer: every key of the layer is a path to what its value covers. -/
def underLayer (base : Config) (layer : List (String × Config)) : Config :=
  layer.foldl (fun config (key, value) => config.change (·.overlay value) (KeyPath.ofKey key)) base

end Config

end RoomAir
