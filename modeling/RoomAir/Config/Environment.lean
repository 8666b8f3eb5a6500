import RoomAir.Config.Basic
import RoomAir.Number.Literal

/-! The layer of a configuration that environment variables make. -/

namespace RoomAir.Environment

/-- What the name of a variable begins with, in any case, if it is part of the configuration. -/
def marker : List Char := "dashboard__".toList

/-- A name with a point for every two underscores, from left to right. -/
def withPoints : List Char → List Char
  | [] => []
  | '_' :: '_' :: rest => '.' :: withPoints rest
  | c :: rest => c :: withPoints rest

/-- The key that a variable sets, in lower case. -/
def key? (name : String) : Option String :=
  let lower := name.toList.map Char.toLower
  if marker.isPrefixOf lower then some (String.ofList (withPoints (lower.drop marker.length)))
  else none

/-- What a variable's text means: a truth value in any case, a number, or else the text itself. -/
def value (text : String) : Config :=
  let characters := text.toList
  let lower := characters.map Char.toLower
  if lower = "true".toList then .bool true
  else if lower = "false".toList then .bool false
  else match Whole.signed? 10 characters with
    | some whole => .integer whole
    | none =>
      match Literal.read? characters with
      | some literal => .float literal.toExtended
      | none => .text text

/-- The layer that variables make, the last of equal keys counting. -/
def layer (environment : List (String × String)) : List (String × Config) :=
  environment.foldl (fun entries (name, text) =>
    match key? name with
    | some key => Config.put key (value text) entries
    | none => entries) []

end RoomAir.Environment
