import RoomAir.Dashboard.Chart
import RoomAir.Proofs.Projection.Series
import RoomAir.Proofs.Time.Instant
import RoomAir.Proofs.Traversal
import RoomAir.Reading.Document
import RoomAir.Text.Utf8

/-! The lines of the charts in time: they run forward, unless a leap second is overrun. -/

namespace RoomAir

namespace Chart

/-! ## Reading a chart -/

/-- The value of a key in an object. -/
def member? (key : String) : Json → Option Json
  | .object members => Json.lastValue? key members
  | _ => none

/-- The items of an array. -/
def items? : Json → Option (List Json)
  | .array items => some items
  | _ => none

/-- Where a point lies on the axis of time. -/
def pointTime? (point : Json) : Option Int :=
  match member? "x" point with
  | some (.integer time) => some time
  | _ => none

/-- Where the points of a line lie on the axis of time, from first to last. -/
def lineTimes? (dataset : Json) : Option (List Int) := do
  let points ← items? (← member? "data" dataset)
  points.mapM pointTime?

/-- Where the points of each line of a chart lie on the axis of time. -/
def times? (chart : Json) : Option (List (List Int)) := do
  let datasets ← items? (← member? "datasets" (← member? "data" chart))
  datasets.mapM lineTimes?

/-- The times of the points of a series. -/
def seriesTimes (series : Series) : List Int :=
  series.points.map SeriesPoint.milliseconds

/-! ## What is read -/

/-- The times on an axis are those of the points. -/
theorem mapM_pointTime?_points (series : Series) :
    (items? (points series)).bind (·.mapM pointTime?) = some (seriesTimes series) := by
  -- Each point is written with its time as a whole number.
  refine mapM_eq_some ?_
  rw [seriesTimes, List.map_map, List.map_map]
  rfl

/-- The line of a room is drawn at the times of its series. -/
theorem lineTimes?_roomDataset (count index : Nat) (series : Series) :
    lineTimes? (roomDataset count index series) = some (seriesTimes series) :=
  mapM_pointTime?_points series

/-- The line of a metric is drawn at the times of its series. -/
theorem lineTimes?_metricDataset (series : Series) (palette : Palette) :
    lineTimes? (metricDataset series palette) = some (seriesTimes series) :=
  mapM_pointTime?_points series

/-- The overview draws each of its series as one line. -/
theorem times?_ofOverview (overview : Overview) :
    times? (ofOverview overview) = some (overview.series.map seriesTimes) := by
  refine mapM_eq_some (List.ext_getElem? fun index => ?_)
  -- Its place among the lines only decides about the colour of a line.
  simp [lineTimes?_roomDataset, Function.comp_def]

/-- The details draw the series of every metric, each with a palette of its own. -/
theorem times?_ofDetails (readings : List Reading) (filter : RoomFilter) :
    times? (ofDetails (Details.ofReadings readings filter))
      = some ((Details.ofReadings readings filter).series.map seriesTimes) := by
  refine mapM_eq_some ?_
  -- There are as many palettes as metrics.
  simp only [Details.ofReadings, Details.metrics, palettes, List.map_cons, List.map_nil,
    List.zipWith_cons_cons, List.zipWith_nil_right, lineTimes?_metricDataset]

end Chart

namespace Projection

/-- The times of readings in time order never go back, unless one reading overruns another. -/
theorem times_pairwise_iff (id name : String) (metric : Metric) (readings : List Reading) :
    (Chart.seriesTimes (.ofReadings id name metric (ascending readings))).Pairwise (· ≤ ·)
      ↔ ∀ a ∈ readings, ∀ b ∈ readings, ¬ a.time.Overruns b.time := by
  -- The points are at the milliseconds of the readings in time order.
  have times : Chart.seriesTimes (.ofReadings id name metric (ascending readings))
      = ((ascending readings).map Reading.time).map Instant.milliseconds := by
    rw [Chart.seriesTimes, Series.ofReadings, List.map_map, List.map_map]
    rfl
  -- In time order no reading is later than the next one.
  have ordered : ((ascending readings).map Reading.time).Pairwise fun a b => a.rank ≤ b.rank := by
    rw [List.pairwise_map]
    exact (ascending_pairwise readings).imp fun first => (olderFirst_iff _ _).mp first
  rw [times, List.pairwise_map, Instant.pairwise_milliseconds_iff ordered]
  -- Sorting neither adds nor drops a reading.
  simp only [List.forall_mem_map, mem_ascending]

end Projection

namespace Chart

/-- On the overview every line runs forward, unless readings of one room overrun each other. -/
theorem overview_forward_iff (readings : List Reading) :
    (∀ line ∈ (Overview.ofReadings readings).series.map seriesTimes, line.Pairwise (· ≤ ·))
      ↔ ∀ a ∈ readings, ∀ b ∈ readings, a.room = b.room → ¬ a.time.Overruns b.time := by
  simp only [Overview.ofReadings, Projection.seriesByRoom_eq, List.forall_mem_map,
    Projection.times_pairwise_iff, List.mem_filter, Projection.accepts_room]
  constructor
  -- Two readings of one room are in the series of that room.
  · intro clear a memberA b memberB same
    have listed := Projection.mem_distinctRooms.mpr ⟨b, memberB, rfl⟩
    exact clear b.room listed a ⟨memberA, same⟩ b ⟨memberB, rfl⟩
  -- Two readings of one series are of its room.
  · rintro clear room - a ⟨memberA, roomA⟩ b ⟨memberB, roomB⟩
    exact clear a memberA b memberB (roomA.trans roomB.symm)

/-- On the details every line runs forward, unless selected readings overrun each other. -/
theorem details_forward_iff (readings : List Reading) (filter : RoomFilter) :
    (∀ line ∈ (Details.ofReadings readings filter).series.map seriesTimes, line.Pairwise (· ≤ ·))
      ↔ ∀ a ∈ readings, ∀ b ∈ readings, filter.accepts a = true → filter.accepts b = true →
        ¬ a.time.Overruns b.time := by
  simp only [Details.ofReadings, List.forall_mem_map, Projection.times_pairwise_iff,
    Projection.mem_newestFirst]
  constructor
  -- Two selected readings are in each of the series, so the first one will do.
  · intro clear a memberA b memberB selectedA selectedB
    exact clear .aqi (by decide) a ⟨memberA, selectedA⟩ b ⟨memberB, selectedB⟩
  -- Two readings of a series are both selected.
  · rintro clear metric - a ⟨memberA, selectedA⟩ b ⟨memberB, selectedB⟩
    exact clear a memberA b memberB selectedA selectedB

/--
Charts run forward in time, unless a reading in a leap second overruns a later one.

That one comes in the second after it, less far into its second.
On the overview both have to be of one room, and on the details both have to be selected.
-/
theorem runs_forward_iff (readings : List Reading) (filter : RoomFilter) :
    (∃ lines, times? (ofOverview (Overview.ofReadings readings)) = some lines
      ∧ lines.length = (Projection.distinctRooms readings).length
      ∧ ((∀ line ∈ lines, line.Pairwise (· ≤ ·))
        ↔ ∀ a ∈ readings, ∀ b ∈ readings, a.room = b.room → ¬ a.time.Overruns b.time))
    ∧ ∃ lines, times? (ofDetails (Details.ofReadings readings filter)) = some lines
      ∧ lines.length = Details.metrics.length
      ∧ ((∀ line ∈ lines, line.Pairwise (· ≤ ·))
        ↔ ∀ a ∈ readings, ∀ b ∈ readings, filter.accepts a = true → filter.accepts b = true →
          ¬ a.time.Overruns b.time) := by
  refine ⟨⟨_, times?_ofOverview _, ?_, overview_forward_iff readings⟩,
    ⟨_, times?_ofDetails readings filter, ?_, details_forward_iff readings filter⟩⟩
  · -- Every room has its series.
    rw [List.length_map, Overview.ofReadings, List.length_map, Projection.seriesByRoom_eq,
      List.length_map]
  -- Every metric has its series.
  · rw [List.length_map, Details.ofReadings, List.length_map]

/-- A leap second that is half over runs back to the beginning of the next minute. -/
theorem runs_back :
    let bytes := Utf8.encode
      "[[\"Hall\",\"2016-12-31T23:59:60.5Z\",1],[\"Hall\",\"2017-01-01T00:00:00.2Z\",2]]"
    ∃ document, Document.decode bytes = .ok document
      ∧ (∃ lines, times? (ofOverview (Overview.ofReadings document.readings)) = some lines
        ∧ ¬ ∀ line ∈ lines, line.Pairwise (· ≤ ·))
      ∧ ∃ lines, times? (ofDetails (Details.ofReadings document.readings .all)) = some lines
        ∧ ¬ ∀ line ∈ lines, line.Pairwise (· ≤ ·) := by
  intro bytes
  -- The document has two readings, half a second into the leap second and a fifth of one behind it.
  have decodes : (Document.decode bytes).toOption.map
      (fun document => document.readings.map fun reading => (reading.room, reading.time))
        = some [("Hall", ⟨24720479, 60, 500000000⟩), ("Hall", ⟨24720480, 0, 200000000⟩)] := by
    decide +kernel
  obtain ⟨document, decoded, readings⟩ := exists_ok_of_map decodes
  -- There are two readings of one room, and the first one overruns the second.
  obtain ⟨first, others, start, firstEq, rest⟩ := List.map_eq_cons_iff.mp readings
  obtain ⟨second, later, next, secondEq, -⟩ := List.map_eq_cons_iff.mp rest
  obtain ⟨roomFirst, timeFirst⟩ := Prod.mk.inj firstEq
  obtain ⟨roomSecond, timeSecond⟩ := Prod.mk.inj secondEq
  have memberFirst : first ∈ document.readings := by simp [start]
  have memberSecond : second ∈ document.readings := by simp [start, next]
  have overruns : first.time.Overruns second.time := by
    rw [timeFirst, timeSecond]
    constructor <;> decide
  refine ⟨document, decoded, ⟨_, times?_ofOverview _, fun forward => ?_⟩,
    ⟨_, times?_ofDetails _ _, fun forward => ?_⟩⟩
  · exact (overview_forward_iff _).mp forward first memberFirst second memberSecond
      (roomFirst.trans roomSecond.symm) overruns
  · exact (details_forward_iff _ _).mp forward first memberFirst second memberSecond rfl rfl
      overruns

end Chart

end RoomAir
