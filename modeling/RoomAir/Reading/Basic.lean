import RoomAir.Json.Value
import RoomAir.Time.Instant

/-! Readings: one timestamped sample of a room's air. -/

namespace RoomAir

/-- One sample of a room's air; a sensor may leave out every metric but the air quality index. -/
structure Reading where
  room : String
  time : Instant
  /-- The air quality index. -/
  aqi : Double
  /-- Degrees Celsius. -/
  temperature : Option Double
  /-- Carbon dioxide in parts per million. -/
  co2 : Option Double
  /-- Relative humidity in percent. -/
  humidity : Option Double
  /-- Total volatile organic compounds in parts per billion. -/
  tvoc : Option Double
  deriving DecidableEq

namespace Reading

/-- An optional metric as a number or null. -/
def metricJson (value : Option Double) : Json :=
  Json.ofOption (value.map .number)

/-- The reading as it is served to other programs. -/
def toJson (reading : Reading) : Json :=
  .object [
    ("room", .string reading.room),
    ("timestamp", .string reading.time.text),
    ("aqi", .number reading.aqi),
    ("temperature", metricJson reading.temperature),
    ("co2", metricJson reading.co2),
    ("humidity", metricJson reading.humidity),
    ("tvoc", metricJson reading.tvoc)]

end Reading

end RoomAir
