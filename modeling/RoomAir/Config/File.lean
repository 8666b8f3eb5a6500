import RoomAir.Config.Ini
import RoomAir.Config.Json5
import RoomAir.Config.Ron.Document
import RoomAir.Config.Toml.Document
import RoomAir.Config.Yaml.Document
import RoomAir.Json.Reader

/-! The layer of a configuration that a file makes, in one of six formats. -/

namespace RoomAir

/-- The format of a configuration file. -/
inductive ConfigFormat where
  | toml
  | json
  | yaml
  | ini
  | ron
  | json5
  deriving DecidableEq, Repr

mutual

/-- A JSON value as a configuration, the last of equal keys counting. -/
def Config.ofJson : Json → Config
  | .null => .null
  | .bool value => .bool value
  | .integer value => .integer value
  | .number value => .float (.finite value)
  | .string value => .text value
  | .array items => .list (itemsOfJson items)
  | .object members => .table (entriesOfJson [] members)

/-- The items of an array as configurations. -/
def itemsOfJson : List Json → List Config
  | [] => []
  | item :: items => Config.ofJson item :: itemsOfJson items

/-- The members of an object put into entries. -/
def entriesOfJson (entries : List (String × Config)) :
    List (String × Json) → List (String × Config)
  | [] => entries
  | (key, value) :: members => entriesOfJson (Config.put key (Config.ofJson value) entries) members

end

namespace ConfigFormat

/-- The endings of file names in the order in which they are looked for. -/
def extensions : List (String × ConfigFormat) :=
  [("toml", .toml), ("json", .json), ("yaml", .yaml), ("yml", .yaml), ("ini", .ini),
   ("ron", .ron), ("json5", .json5)]

/-- The entries of a file's text, if it is a table in the given format. -/
def read? (format : ConfigFormat) (text : String) : Option (List (String × Config)) :=
  match format with
  | .toml => Toml.read? text
  | .yaml => Yaml.read? text
  | .ini => Ini.read? text
  | .ron => Ron.read? text
  | .json5 => Json5.read? text
  | .json =>
    match Json.read (Utf8.encode text) with
    | .ok (.object members) => some (entriesOfJson [] members)
    | _ => none

end ConfigFormat

namespace ConfigFile

/-- The bytes of a file without the mark of its encoding. -/
def withoutMark : Bytes → Bytes
  | 0xEF :: 0xBB :: 0xBF :: rest => rest
  | bytes => bytes

/-- The layer of the first file there is; no file makes an empty one. -/
def layer? (files : List (String × Bytes)) : Option (List (String × Config)) :=
  let found := ConfigFormat.extensions.findSome? fun (extension, format) =>
    (files.lookup extension).map fun bytes => (format, bytes)
  match found with
  | none => some []
  | some (format, bytes) => format.read? (Utf8.decodeLossy (withoutMark bytes))

end ConfigFile

end RoomAir
