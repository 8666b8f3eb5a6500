import RoomAir.Reading.Basic

/-! Series of one metric over time, as the charts draw them. -/

namespace RoomAir

/-- The metrics that charts draw. -/
inductive Metric where
  | aqi
  | temperature
  | co2
  deriving DecidableEq, Repr

namespace Metric

/-- The metric's value in a reading. -/
def value (metric : Metric) (reading : Reading) : Option Double :=
  match metric with
  | .aqi => some reading.aqi
  | .temperature => reading.temperature
  | .co2 => reading.co2

/-- The name by which the metric's series is known. -/
def id : Metric → String
  | .aqi => "aqi"
  | .temperature => "temperature"
  | .co2 => "co2"

/-- The name under which the metric is shown. -/
def label : Metric → String
  | .aqi => "AQI"
  | .temperature => "Temperature (°C)"
  | .co2 => "CO₂ (ppm)"

end Metric

/-- One point of a series, without a value where the sensor gave none. -/
structure SeriesPoint where
  /-- Milliseconds from the start of 1970. -/
  milliseconds : Int
  value : Option Double
  deriving DecidableEq

/-- A named run of points. -/
structure Series where
  id : String
  name : String
  points : List SeriesPoint
  deriving DecidableEq

namespace Series

/-- The series of a metric over readings that are already in time order. -/
def ofReadings (id name : String) (metric : Metric) (readings : List Reading) : Series :=
  { id, name
    points := readings.map fun reading => ⟨reading.time.milliseconds, metric.value reading⟩ }

/-- The series as a JSON value. -/
def toJson (series : Series) : Json :=
  .object [
    ("id", .string series.id),
    ("name", .string series.name),
    ("points", .array (series.points.map fun point => .object [
      ("time_ms", .integer point.milliseconds),
      ("value", Reading.metricJson point.value)]))]

end Series

end RoomAir
