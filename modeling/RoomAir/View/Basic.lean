import RoomAir.Dashboard.Chart
import RoomAir.Notice
import RoomAir.View.Fragment
import RoomAir.View.Page

/-! Views: a page's life from its first chart to its last, each chart replacing the one before. -/

namespace RoomAir

/-- A chart to mount, and the number of the chart that it replaces. -/
structure ChartUpdate where
  chart : ChartHandle
  replaces : Option Nat
  config : Json

/-- Everything that one refresh changes on a page; a fragment that is missing stays as it is. -/
structure ViewUpdate where
  cards : Option String
  selector : Option String
  table : Option String
  charts : List ChartUpdate

/-- The fragments that a page makes of a reading set. -/
structure PageFragments where
  cards : Option String
  selector : Option String
  table : Option String

/-- A page with the charts that are mounted on it. -/
structure View where
  page : Page
  display : Display
  charts : ChartMap
  /-- The number that the next chart gets. -/
  next : Nat
  /-- How many charts have been disposed of. -/
  disposed : Nat

namespace ChartUpdate

/-- The chart as it is sent to the page. -/
def toJson (update : ChartUpdate) : Json :=
  .object [
    ("slot", .string update.chart.slot.key),
    ("handle", .integer update.chart.number),
    ("replaces", Json.ofOption (update.replaces.map fun number => .integer number)),
    ("config", update.config)]

end ChartUpdate

namespace ViewUpdate

/-- A fragment or null. -/
def fragmentJson (fragment : Option String) : Json :=
  Json.ofOption (fragment.map .string)

/-- The charts of the update as they are sent to the page. -/
def chartsJson (update : ViewUpdate) : Json :=
  .array (update.charts.map ChartUpdate.toJson)

/-- The update as it is sent to the page. -/
def toJson (update : ViewUpdate) : Json :=
  .object [
    ("cards", fragmentJson update.cards),
    ("selector", fragmentJson update.selector),
    ("table", fragmentJson update.table),
    ("charts", update.chartsJson)]

end ViewUpdate

namespace Page

/-- The configuration of the page's chart for a reading set. -/
def config (page : Page) (readings : List Reading) : Json :=
  match page with
  | .overview => Chart.ofOverview (Overview.ofReadings readings)
  | .details filter => Chart.ofDetails (Details.ofReadings readings filter)

/-- The fragments of a page for a reading set, if the display's time pattern can be rendered. -/
def fragments? (page : Page) (display : Display) (readings : List Reading) :
    Option PageFragments :=
  match page with
  | .overview =>
    -- No time is written out on the overview.
    some {
      cards := some (Fragment.roomCards (Overview.ofReadings readings))
      selector := none
      table := none }
  | .details filter =>
    let details := Details.ofReadings readings filter
    (Fragment.dataTable? details.rows display.timeFormat).map fun table => {
      cards := none
      selector := some (Fragment.roomSelector details)
      table := some table }

end Page

namespace View

/-- The largest number of a chart. -/
def largestNumber : Nat := 2 ^ 64 - 1

/-- A count as it is kept in 64 bits: behind the largest number it goes on with zero. -/
def counted (count : Nat) : Nat :=
  count % 2 ^ 64

/-- A page on which no chart is mounted yet. -/
def new (page : Page) (display : Display) : View :=
  { page, display, charts := .empty, next := 1, disposed := 0 }

/-- A page on which the chart of the given number, if any, was mounted by an earlier view. -/
def resume (page : Page) (display : Display) : Option Nat → View
  | none => new page display
  | some number =>
    { new page display with
      charts := ChartMap.empty.set page.slot (some ⟨page.slot, number⟩)
      -- Later charts go on from there, as far as numbers go.
      next := min (number + 1) largestNumber }

/-- The chart in the page's own slot. -/
def mounted (view : View) : Option ChartHandle :=
  view.charts.get view.page.slot

/-- Mounts a chart in a slot: it gets the next number, and the chart before it is disposed of. -/
def mount (view : View) (slot : ChartSlot) (config : Json) : View × ChartUpdate × List Notice :=
  let chart : ChartHandle := ⟨slot, view.next⟩
  -- A chart is disposed of as soon as another one takes its place.
  let previous := view.charts.get slot
  let view' := { view with
    charts := view.charts.set slot (some chart)
    next := counted (view.next + 1)
    disposed := counted (view.disposed + previous.toList.length) }
  (view', { chart, replaces := previous.map ChartHandle.number, config },
    previous.toList.map .disposed)

/-- Charts a reading set in the page's own slot. -/
def chart (view : View) (readings : List Reading) : View × ChartUpdate × List Notice :=
  view.mount view.page.slot (view.page.config readings)

/-- Shows a reading set: its chart is mounted and its fragments are sent along. -/
def refresh? (view : View) (readings : List Reading) :
    Option (View × ViewUpdate × List Notice) :=
  -- The chart is there before the fragments are made.
  let (view', chart, disposals) := view.chart readings
  (view.page.fragments? view.display readings).map fun fragments =>
    let update := {
      cards := fragments.cards
      selector := fragments.selector
      table := fragments.table
      charts := [chart] }
    (view', update, disposals)

/-- Disposes of every chart that is mounted. -/
def disposeAll (view : View) : View × List Notice :=
  let view' := { view with
    charts := .empty
    disposed := counted (view.disposed + view.charts.toList.length) }
  (view', view.charts.toList.map .disposed)

/-- Ends the view together with its charts. -/
def close (view : View) : List Notice :=
  let (view', disposals) := view.disposeAll
  disposals ++ [.tornDown view'.page view'.disposed]

/-- Ends the view and leaves the chart of its slot on the page, whose number a later view takes. -/
def handOff (view : View) : Option Nat × List Notice :=
  -- The chart is taken out before the view is closed with what is left.
  let rest := { view with charts := view.charts.set view.page.slot none }
  let (rest, disposals) := rest.disposeAll
  (view.mounted.map ChartHandle.number, disposals ++ rest.close)

end View

end RoomAir
