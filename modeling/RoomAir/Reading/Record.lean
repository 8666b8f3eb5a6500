import RoomAir.Json.Reader
import RoomAir.Reading.Basic
import RoomAir.Text.Quoted
import RoomAir.Time.Timestamp

/-! Records: the JSON values that are readings, by named members or by position. -/

namespace RoomAir

/-- Why a record is not a reading. -/
inductive RecordFault where
  | wrongType (found : Json) (expected : String)
  | missing (field : String)
  | unknownTimestamp (text : String)
  /-- An array that ends before the required fields do. -/
  | tooShort (length : Nat)
  | tooLong (length : Nat)

/-- The wording of a record's fault. -/
def RecordFault.message : RecordFault → String
  | .wrongType found expected =>
    "invalid type: " ++ Json.describe Quoted.quote found ++ ", expected " ++ expected
  | .missing field => "missing field `" ++ field ++ "`"
  | .unknownTimestamp text => "unrecognised timestamp '" ++ text ++ "'"
  | .tooShort length =>
    "invalid length " ++ toString length ++ ", expected struct Reading with 7 elements"
  | .tooLong length =>
    "invalid length " ++ toString length ++ ", expected fewer elements in array"

namespace Record

/-- A field that must be a text. -/
def text : Json → Except RecordFault String
  | .string value => .ok value
  | other => .error (.wrongType other "a string")

/-- A field that must be a timestamp in one of the known spellings. -/
def instant (value : Json) : Except RecordFault Instant := do
  let raw ← text value
  match Timestamp.read? raw with
  | some time => .ok time
  | none => .error (.unknownTimestamp raw)

/-- The double nearest to a whole number of at most 64 bits. -/
def ofWhole (value : Int) : Double :=
  (Double.ofDecimal? (decide (value < 0)) value.natAbs 0).getD (.zero false)

/-- A field that must be a number. -/
def number : Json → Except RecordFault Double
  | .integer value => .ok (ofWhole value)
  | .number value => .ok value
  | other => .error (.wrongType other "f64")

/-- A field that may be a number or null. -/
def metric : Json → Except RecordFault (Option Double)
  | .null => .ok none
  | other => (number other).map some

/-- A field that is read if it is there. -/
def ifPresent (read : Json → Except RecordFault α) : Option Json → Except RecordFault (Option α)
  | some value => (read value).map some
  | none => .ok none

/-- A field that must be there. -/
def required (field : String) : Option α → Except RecordFault α
  | some value => .ok value
  | none => .error (.missing field)

/-- A record by named members: the last value of each known name counts. -/
def ofMembers (members : List (String × Json)) : Except RecordFault Reading := do
  let value (field : String) := Json.lastValue? field members
  -- Values are read in the order of their names, before any is found to be missing.
  let aqi ← ifPresent number (value "aqi")
  let co2 ← ifPresent metric (value "co2")
  let humidity ← ifPresent metric (value "humidity")
  let room ← ifPresent text (value "room")
  let temperature ← ifPresent metric (value "temperature")
  let time ← ifPresent instant (value "timestamp")
  let tvoc ← ifPresent metric (value "tvoc")
  let room ← required "room" room
  let time ← required "timestamp" time
  let aqi ← required "aqi" aqi
  .ok {
    room, time, aqi
    temperature := temperature.join
    co2 := co2.join
    humidity := humidity.join
    tvoc := tvoc.join }

/-- A field of an array that may not reach so far. -/
def atPosition (read : Json → Except RecordFault α) (items : List Json) (position : Nat) :
    Except RecordFault α :=
  match items[position]? with
  | some value => read value
  | none => .error (.tooShort items.length)

/-- A record by position: room, timestamp and index, then as many metrics as there are. -/
def ofItems (items : List Json) : Except RecordFault Reading := do
  -- The fault that comes first is the one that is reported, here by position.
  let room ← atPosition text items 0
  let time ← atPosition instant items 1
  let aqi ← atPosition number items 2
  let temperature ← ifPresent metric items[3]?
  let co2 ← ifPresent metric items[4]?
  let humidity ← ifPresent metric items[5]?
  let tvoc ← ifPresent metric items[6]?
  if 7 < items.length then .error (.tooLong items.length)
  else
    .ok {
      room, time, aqi
      temperature := temperature.join
      co2 := co2.join
      humidity := humidity.join
      tvoc := tvoc.join }

end Record

/-- The reading that a record is. -/
def Reading.ofJson : Json → Except RecordFault Reading
  | .object members => Record.ofMembers members
  | .array items => Record.ofItems items
  | other => .error (.wrongType other "struct Reading")

end RoomAir
