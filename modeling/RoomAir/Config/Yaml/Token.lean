import RoomAir.Config.Yaml.Place

/-! The tokens of YAML: the words of a text, and the marks of structure that its layout implies. -/

namespace RoomAir.Yaml

/-- A token. -/
inductive Token where
  /-- The version that a document is written for. -/
  | version
  /-- What the handle of a tag stands for. -/
  | handle (name expansion : String)
  | documentStart
  | documentEnd
  | sequenceStart
  | mappingStart
  /-- The end of a sequence or mapping that its indentation began. -/
  | blockEnd
  /-- The dash in front of an item. -/
  | dash
  | bracketOpen
  | bracketClose
  | braceOpen
  | braceClose
  | comma
  /-- What comes before a key, which need not be written. -/
  | key
  /-- The colon in front of a value. -/
  | value
  | alias (name : String)
  | anchor (name : String)
  | tag (handle suffix : String)
  | scalar (plain : Bool) (content : String)
  deriving DecidableEq, Repr

end RoomAir.Yaml
