import RoomAir.Dashboard.Series
import RoomAir.Projection
import RoomAir.Severity

/-! The overview: one gauge for each room and the air quality of all rooms over time. -/

namespace RoomAir

/-- A room's latest reading as its gauge shows it. -/
structure Gauge where
  room : String
  time : Instant
  aqi : Double
  temperature : Option Double
  severity : Severity
  deriving DecidableEq

namespace Gauge

/-- The gauge that shows a reading. -/
def ofReading (reading : Reading) : Gauge :=
  { room := reading.room
    time := reading.time
    aqi := reading.aqi
    temperature := reading.temperature
    severity := .ofAqi reading.aqi }

/-- The gauge as it is served to other programs. -/
def toJson (gauge : Gauge) : Json :=
  .object [
    ("room", .string gauge.room),
    ("timestamp", .string gauge.time.text),
    ("aqi", .number gauge.aqi),
    ("temperature", Reading.metricJson gauge.temperature),
    ("severity", gauge.severity.toJson)]

end Gauge

/-- What the overview page shows. -/
structure Overview where
  gauges : List Gauge
  /-- The index over time, one series for each room. -/
  series : List Series
  deriving DecidableEq

namespace Overview

/-- The overview of a reading set. -/
def ofReadings (readings : List Reading) : Overview :=
  { gauges := (Projection.latestPerRoom readings).map .ofReading
    series := (Projection.seriesByRoom readings).map fun (room, points) =>
      .ofReadings room (room ++ " AQI") .aqi points }

/-- The overview as a JSON value. -/
def toJson (overview : Overview) : Json :=
  .object [
    ("gauges", .array (overview.gauges.map Gauge.toJson)),
    ("series", .array (overview.series.map Series.toJson))]

end Overview

end RoomAir
