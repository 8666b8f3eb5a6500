import RoomAir.Dashboard.Series
import RoomAir.Projection

/-! The details: the readings of one room or of all, as rows and as series. -/

namespace RoomAir

/-- What the details page shows. -/
structure Details where
  filter : RoomFilter
  /-- Every room of the reading set, whatever the filter. -/
  rooms : List String
  /-- The selected readings, newest first. -/
  rows : List Reading
  /-- One series in time order for each charted metric. -/
  series : List Series
  deriving DecidableEq

namespace Details

/-- The metrics that the details chart draws, in order. -/
def metrics : List Metric :=
  [.aqi, .temperature, .co2]

/-- The details of a reading set under a filter. -/
def ofReadings (readings : List Reading) (filter : RoomFilter) : Details :=
  let rows := Projection.newestFirst readings filter
  -- The rows begin with the newest, a series with the oldest.
  let points := Projection.ascending rows
  { filter, rows
    rooms := Projection.distinctRooms readings
    series := metrics.map fun metric => .ofReadings metric.id metric.label metric points }

/-- The title over the chart. -/
def title (details : Details) : String :=
  match details.filter with
  | .all => "All Rooms Data"
  | .room name => name ++ " Data"

/-- The details as a JSON value. -/
def toJson (details : Details) : Json :=
  .object [
    ("filter", .string details.filter.word),
    ("rooms", .array (details.rooms.map .string)),
    ("rows", .array (details.rows.map Reading.toJson)),
    ("series", .array (details.series.map Series.toJson))]

end Details

end RoomAir
