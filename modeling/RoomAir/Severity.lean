import RoomAir.Json.Value
import RoomAir.Number.Literal

/-! The five levels of severity, their colours and the angle of the needle. -/

namespace RoomAir

namespace Severity

/-- The level of an index from one to five: each bound belongs to the lower level. -/
def levelOf (aqi : Extended) : Nat :=
  -- What is not a number is at most nothing, and so it is on the highest level.
  if aqi.atMost 50 then 1
  else if aqi.atMost 100 then 2
  else if aqi.atMost 150 then 3
  else if aqi.atMost 200 then 4
  else 5

/-- The colour of a level: green, yellow, orange, red and purple, and grey for any other number. -/
def colorOf : Nat → String
  | 1 => "#4caf50"
  | 2 => "#ffeb3b"
  | 3 => "#ff9800"
  | 4 => "#f44336"
  | 5 => "#9c27b0"
  | _ => "#bdbdbd"

/-- The angle of the needle in degrees, 45 for each level above the first. -/
def rotationOf (level : Nat) : Int :=
  (level - 1 : Int) * 45

end Severity

/-- How severe the state of the air is. -/
structure Severity where
  level : Nat
  deriving DecidableEq, Repr

namespace Severity

/-- The severity of an index. -/
def ofAqi (aqi : Double) : Severity :=
  ⟨levelOf (.finite aqi)⟩

/-- The colour that shows the severity. -/
def color (severity : Severity) : String :=
  colorOf severity.level

/-- The angle of the needle that shows the severity. -/
def rotation (severity : Severity) : Int :=
  rotationOf severity.level

/-- The severity as it is served to other programs. -/
def toJson (severity : Severity) : Json :=
  .object [("level", .integer severity.level), ("color", .string severity.color)]

end Severity

end RoomAir
