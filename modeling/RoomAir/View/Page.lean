import RoomAir.Room

/-! The pages, how they are displayed, and the slots that their charts are mounted in. -/

namespace RoomAir

/-- The settings that pages are rendered with. -/
structure Display where
  /-- The pattern of the times in the table. -/
  timeFormat : String
  /-- Where the chart library is loaded from. -/
  chartScript : String
  /-- Where the library's date adapter is loaded from. -/
  adapterScript : String
  deriving DecidableEq, Repr

namespace Display

/-- The settings that hold where nothing else is given. -/
def standard : Display :=
  { timeFormat := "%d/%m/%Y, %H:%M:%S"
    chartScript := "https://cdn.jsdelivr.net/npm/chart.js@4"
    adapterScript := "https://cdn.jsdelivr.net/npm/chartjs-adapter-date-fns@3/dist/"
      ++ "chartjs-adapter-date-fns.bundle.min.js" }

end Display

/-- A page of the dashboard. -/
inductive Page where
  | overview
  | details (filter : RoomFilter)
  deriving DecidableEq, Repr

/-- The place of a chart on its page. -/
inductive ChartSlot where
  | overview
  | details
  deriving DecidableEq, Repr

/-- A chart mounted on a page, in its slot and with the number it was given. -/
structure ChartHandle where
  slot : ChartSlot
  number : Nat
  deriving DecidableEq, Repr

namespace ChartSlot

/-- The slot's name in data. -/
def key : ChartSlot → String
  | .overview => "overview"
  | .details => "details"

/-- The slot's name in messages. -/
def title : ChartSlot → String
  | .overview => "Overview"
  | .details => "Details"

end ChartSlot

namespace Page

/-- The slot of the page's chart. -/
def slot : Page → ChartSlot
  | .overview => .overview
  | .details _ => .details

/-- The page's name in messages. -/
def name : Page → String
  | .overview => "overview"
  | .details filter => "details[" ++ filter.word ++ "]"

end Page

/-- The charts that are mounted on a page, at most one in each slot. -/
structure ChartMap where
  overview : Option ChartHandle
  details : Option ChartHandle
  deriving DecidableEq, Repr

namespace ChartMap

/-- No chart is mounted. -/
def empty : ChartMap :=
  ⟨none, none⟩

/-- The chart in a slot. -/
def get (charts : ChartMap) : ChartSlot → Option ChartHandle
  | .overview => charts.overview
  | .details => charts.details

/-- A slot filled or cleared, the other one being left alone. -/
def set (charts : ChartMap) (slot : ChartSlot) (chart : Option ChartHandle) : ChartMap :=
  match slot with
  | .overview => { charts with overview := chart }
  | .details => { charts with details := chart }

/-- The mounted charts. -/
def toList (charts : ChartMap) : List ChartHandle :=
  charts.overview.toList ++ charts.details.toList

/-- No chart is in a slot of an empty page. -/
@[simp] theorem get_empty (slot : ChartSlot) : empty.get slot = none := by
  cases slot <;> rfl

/-- A slot has the chart that it was set to. -/
@[simp] theorem get_set_self (charts : ChartMap) (slot : ChartSlot)
    (chart : Option ChartHandle) : (charts.set slot chart).get slot = chart := by
  cases slot <;> rfl

/-- Setting a slot leaves the other one alone. -/
theorem get_set_of_ne (charts : ChartMap) {slot other : ChartSlot}
    (chart : Option ChartHandle) (different : other ≠ slot) :
    (charts.set slot chart).get other = charts.get other := by
  cases slot <;> cases other <;> simp_all [set, get]

/-- No chart is mounted on an empty page. -/
@[simp] theorem toList_empty : empty.toList = [] := rfl

/-- Setting a slot twice leaves what was set last. -/
@[simp] theorem set_set (charts : ChartMap) (slot : ChartSlot)
    (first second : Option ChartHandle) :
    (charts.set slot first).set slot second = charts.set slot second := by
  cases slot <;> rfl

/-- A slot that is cleared on an empty page leaves it empty. -/
@[simp] theorem set_empty_none (slot : ChartSlot) : empty.set slot none = empty := by
  cases slot <;> rfl

/-- With one slot filled on an empty page, its chart is the only one. -/
@[simp] theorem toList_set_empty (slot : ChartSlot) (chart : Option ChartHandle) :
    (empty.set slot chart).toList = chart.toList := by
  cases slot <;> simp [set, empty, toList]

end ChartMap

end RoomAir
