import RoomAir.Config.Environment
import RoomAir.Config.File
import RoomAir.Config.KeyPath
import RoomAir.Time.Pattern
import RoomAir.View.Page

/-! The settings of the dashboard: defaults under a file under the environment. -/

namespace RoomAir

/-- Why there are no settings. -/
inductive SettingsError where
  /-- The file is not a table in its format. -/
  | unreadableFile
  /-- A section is not a table with all the fields that it must have. -/
  | badSection
  /-- A field has a value of the wrong kind. -/
  | badValue
  | badTimeFormat (pattern : String)
  deriving DecidableEq, Repr

/-- The wording of a settings error. -/
def SettingsError.message : SettingsError → String
  | .unreadableFile => "the configuration file is not a table"
  | .badSection => "a configuration section lacks a field"
  | .badValue => "a configuration value has the wrong type"
  | .badTimeFormat pattern =>
    "display.time_format '" ++ pattern ++ "' is not a valid strftime format"

/-- What the dashboard is run with. -/
structure Settings where
  /-- The address that requests are taken at. -/
  bind : String
  /-- Where readings are fetched from the web, before the path if it is given. -/
  url : Option String
  /-- The file that readings are in. -/
  path : String
  timeoutSeconds : Nat
  intervalSeconds : Nat
  display : Display
  deriving DecidableEq, Repr

namespace Config

/-- The text that a value is taken for. -/
def asText? : Config → Option String
  | .text value => some value
  | .bool value => some (if value then "true" else "false")
  | .integer value => some (String.ofList (Json.integerChars value))
  | .float value => some value.display
  | _ => none

/-- The largest count. -/
def largestCount : Nat := 2 ^ 64 - 1

/-- The words that are taken for one and for zero, in any case. -/
def countWord? (text : String) : Option Nat :=
  let lower := String.ofList (text.toList.map Char.toLower)
  if ["true", "on", "yes"].contains lower then some 1
  else if ["false", "off", "no"].contains lower then some 0
  else none

/-- A number as a count: a half is rounded up and what is out of range goes to the nearest end. -/
def roundedCount : Extended → Nat
  | .finite x => if x.negative then 0 else min x.roundHalfAway largestCount
  | .infinite negative => if negative then 0 else largestCount
  | .nan => 0

/-- The count that a value is taken for. -/
def asCount? : Config → Option Nat
  | .integer value => if 0 ≤ value ∧ value ≤ largestCount then some value.toNat else none
  | .bool value => some (if value then 1 else 0)
  | .text value => (countWord? value).or (Whole.unsigned? value.toList)
  | .float value => some (roundedCount value)
  | _ => none

/-- A field of a section: by its name in a table, or by its position in a list. -/
def field? (position : Nat) (name : String) : Config → Option Config
  | .list items => items[position]?
  | part => part.get? name

end Config

namespace Settings

/-- The settings that hold where no layer gives others. -/
def defaults : Config :=
  .table [
    ("server", .table [("bind", .text "0.0.0.0:8080")]),
    ("source", .table [("path", .text "testi.json"), ("timeout_secs", .integer 10)]),
    ("refresh", .table [("interval_secs", .integer 30)]),
    ("display", .table [
      ("time_format", .text Display.standard.timeFormat),
      ("chart_js_url", .text Display.standard.chartScript),
      ("chart_adapter_url", .text Display.standard.adapterScript)])]

/-- The defaults under what a file and an environment say, the latter covering the former. -/
def layered (file environment : List (String × Config)) : Config :=
  -- Only what is left at the end covers the defaults, so a section that was replaced by a scalar
  -- and then filled again has all of them.
  let said := ((Config.table []).underLayer file).underLayer environment
  defaults.overlay said

/-- A field that a section must have. -/
def required (part : Config) (position : Nat) (name : String) : Except SettingsError Config :=
  match part.field? position name with
  | some value => .ok value
  | none => .error .badSection

/-- A field that must be a text. -/
def text (part : Config) (position : Nat) (name : String) : Except SettingsError String := do
  match (← required part position name).asText? with
  | some value => .ok value
  | none => .error .badValue

/-- A field that must be a count. -/
def count (part : Config) (position : Nat) (name : String) : Except SettingsError Nat := do
  match (← required part position name).asCount? with
  | some value => .ok value
  | none => .error .badValue

/-- A field that may be missing or null, or else must be a text. -/
def optionalText (part : Config) (position : Nat) (name : String) :
    Except SettingsError (Option String) :=
  match part.field? position name with
  | none => .ok none
  | some .null => .ok none
  | some _ => (text part position name).map some

/-- A section of the configuration. -/
def part (config : Config) (name : String) : Config :=
  (config.get? name).getD .null

/-- The settings that a configuration holds, whatever else is in it. -/
def ofConfig (config : Config) : Except SettingsError Settings := do
  let server := part config "server"
  let bind ← text server 0 "bind"
  let source := part config "source"
  let url ← optionalText source 0 "url"
  let path ← text source 1 "path"
  let timeoutSeconds ← count source 2 "timeout_secs"
  let refresh := part config "refresh"
  let intervalSeconds ← count refresh 0 "interval_secs"
  let display := part config "display"
  let timeFormat ← text display 0 "time_format"
  let chartScript ← text display 1 "chart_js_url"
  let adapterScript ← text display 2 "chart_adapter_url"
  .ok {
    bind, url, path, timeoutSeconds, intervalSeconds
    display := { timeFormat, chartScript, adapterScript } }

/-- The settings, if the table can render times in their format. -/
def checked (settings : Settings) : Except SettingsError Settings :=
  let pattern := settings.display.timeFormat
  if (TimePattern.ofText pattern).isAccepted then .ok settings else .error (.badTimeFormat pattern)

/-- The settings that a file's layer and the variables of an environment make. -/
def ofLayers (file : List (String × Config)) (environment : List (String × String)) :
    Except SettingsError Settings :=
  (ofConfig (layered file (Environment.layer environment))).bind checked

/-- The settings that files, each under the ending of its name, and an environment make. -/
def load (files : List (String × Bytes)) (environment : List (String × String)) :
    Except SettingsError Settings :=
  match ConfigFile.layer? files with
  | some file => ofLayers file environment
  | none => .error .unreadableFile

/-- The seconds that a fetch may take, one at least. -/
def timeout (settings : Settings) : Nat :=
  max settings.timeoutSeconds 1

/-- The seconds between two refreshes, one at least. -/
def interval (settings : Settings) : Nat :=
  max settings.intervalSeconds 1

/-- What readings are fetched from: the address on the web if there is one, or else the file. -/
def source (settings : Settings) : String :=
  settings.url.getD settings.path

end Settings

end RoomAir
