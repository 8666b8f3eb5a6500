import RoomAir.Dashboard.Details
import RoomAir.Dashboard.Overview

/-! The configurations of the charts, with the members of every object in alphabetical order. -/

namespace RoomAir.Chart

/-- A series' points as a chart takes them, null standing for a gap. -/
def points (series : Series) : Json :=
  .array (series.points.map fun point => .object [
    ("x", .integer point.milliseconds),
    ("y", Reading.metricJson point.value)])

/-- How far a line is rounded between its points. -/
def tension : Json :=
  .number ((Double.ofDecimal? false 3 (-1)).getD (.zero false))

/-- A title that is shown. -/
def shownTitle (text : String) : Json :=
  .object [("display", .bool true), ("text", .string text)]

/-- The axis that time runs along. -/
def timeAxis : Json :=
  .object [
    ("grid", .object [("display", .bool false)]),
    ("time", .object [
      ("displayFormats", .object [("hour", .string "HH:mm")]),
      ("unit", .string "hour")]),
    ("title", shownTitle "Time"),
    ("type", .string "time")]

/-- The legend above a chart. -/
def legend : Json :=
  .object [
    ("labels", .object [
      ("boxWidth", .integer 12),
      ("padding", .integer 20),
      ("usePointStyle", .bool true)]),
    ("position", .string "top")]

/-- How a chart comes into view. -/
def animation : Json :=
  .object [("duration", .integer 1000), ("easing", .string "easeOutQuart")]

/-- What the pointer picks out: every line at its place in time. -/
def interaction : Json :=
  .object [("intersect", .bool false), ("mode", .string "index")]

/-- A line chart out of its lines, its plugins and its axes. -/
def lineChart (datasets : List Json) (plugins scales : Json) : Json :=
  .object [
    ("data", .object [("datasets", .array datasets)]),
    ("options", .object [
      ("animation", animation),
      ("interaction", interaction),
      ("maintainAspectRatio", .bool true),
      ("plugins", plugins),
      ("responsive", .bool true),
      ("scales", scales)]),
    ("type", .string "line")]

/-- The text shown after a value in a tooltip. -/
def tooltip (suffix : String) : Json :=
  .object [("valueSuffix", .string suffix)]

/-! ## Overview -/

/-- A whole number as a double, which is exact below `2 ^ 53`. -/
def wholeDouble (value : Nat) : Double :=
  (Double.ofDecimal? false value 0).getD (.zero false)

/-- The hue of one of `count` rooms in degrees, rooms being spread evenly around the wheel. -/
def hue (index count : Nat) : Double :=
  -- The step is rounded before it is multiplied, as is the product.
  let step := ((wholeDouble 360).div? (wholeDouble count)).getD (.zero false)
  ((wholeDouble index).mul? step).getD (.zero false)

/-- The line of one room among `count`. -/
def roomDataset (count index : Nat) (series : Series) : Json :=
  let degrees := (hue index count).display
  .object [
    ("backgroundColor", .string ("hsla(" ++ degrees ++ ", 70%, 50%, 0.1)")),
    ("borderColor", .string ("hsl(" ++ degrees ++ ", 70%, 50%)")),
    ("borderWidth", .integer 2),
    ("data", points series),
    ("fill", .bool true),
    ("label", .string series.name),
    ("pointRadius", .integer 0),
    ("tension", tension)]

/-- The chart of the air quality index over time, one line for each room. -/
def ofOverview (overview : Overview) : Json :=
  let plugins := .object [("legend", legend), ("tooltip", tooltip " AQI")]
  let scales := .object [
    ("x", timeAxis),
    ("y", .object [
      ("grid", .object [("color", .string "rgba(0, 0, 0, 0.05)")]),
      ("min", .integer 0),
      ("title", shownTitle "AQI")])]
  lineChart (overview.series.mapIdx (roomDataset overview.series.length)) plugins scales

/-! ## Details -/

/-- The colours of a line and the axis that it belongs to. -/
structure Palette where
  border : String
  background : String
  axis : String

/-- The palettes of the charted metrics, in order. -/
def palettes : List Palette :=
  [⟨"#3f51b5", "rgba(63, 81, 181, 0.1)", "y"⟩,
   ⟨"#ff9800", "rgba(255, 152, 0, 0.1)", "y1"⟩,
   ⟨"#4caf50", "rgba(76, 175, 80, 0.1)", "y2"⟩]

/-- The line of one metric. -/
def metricDataset (series : Series) (palette : Palette) : Json :=
  .object [
    ("backgroundColor", .string palette.background),
    ("borderColor", .string palette.border),
    ("borderWidth", .integer 2),
    ("data", points series),
    ("label", .string series.name),
    ("tension", tension),
    ("yAxisID", .string palette.axis)]

/-- A vertical axis whose grid stays out of the chart's area. -/
def valueAxis (position title : String) : Json :=
  .object [
    ("display", .bool true),
    ("grid", .object [("drawOnChartArea", .bool false)]),
    ("position", .string position),
    ("title", shownTitle title),
    ("type", .string "linear")]

/-- A vertical axis that is not drawn. -/
def hiddenAxis (position title : String) : Json :=
  .object [
    ("display", .bool false),
    ("position", .string position),
    ("title", shownTitle title),
    ("type", .string "linear")]

/-- The chart of the selected readings, each metric on an axis of its own. -/
def ofDetails (details : Details) : Json :=
  let plugins := .object [
    ("legend", legend),
    ("title", .object [
      ("display", .bool true),
      ("font", .object [("size", .integer 16)]),
      ("text", .string details.title)]),
    ("tooltip", tooltip "")]
  let scales := .object [
    ("x", timeAxis),
    ("y", valueAxis "left" "AQI"),
    ("y1", valueAxis "right" "Temperature (°C)"),
    ("y2", hiddenAxis "right" "CO₂ (ppm)")]
  lineChart (details.series.zipWith metricDataset palettes) plugins scales

end RoomAir.Chart
