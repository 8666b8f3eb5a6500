import Mathlib.Data.List.Nodup
import RoomAir.Proofs.Dashboard.TimeOrder
import RoomAir.View.Fragment

/-! Rooms apart: what is shown of a room depends on the readings of that room alone. -/

namespace RoomAir

namespace Projection

/-- Among the latest readings of a room, only a reading of that room is entered. -/
theorem filter_keepLatest (latest : List Reading) (reading : Reading) (room : String) :
    (keepLatest latest reading).filter (·.room = room)
      = if reading.room = room then keepLatest (latest.filter (·.room = room)) reading
        else latest.filter (·.room = room) := by
  induction latest with
  -- The reading is the first one, and it counts if it is of the room.
  | nil => by_cases own : reading.room = room <;> simp [keepLatest, own]
  | cons first latest ih =>
    rw [keepLatest]
    by_cases found : first.room = reading.room
    · -- The room is found here, and the reading that is kept is of the same room.
      rw [if_pos found]
      have kept : (if olderFirst first reading then reading else first).room = reading.room := by
        split
        · rfl
        · exact found
      by_cases own : reading.room = room
      · simp [kept, own, found, keepLatest]
      · simp [kept, own, found]
    · -- The room is looked for further on, whether or not this one is asked for.
      rw [if_neg found, List.filter_cons, ih]
      by_cases own : reading.room = room
      · have other : ¬ first.room = room := fun same => found (same.trans own.symm)
        simp [own, other]
      · by_cases asked : first.room = room <;> simp [own, asked]

/-- The latest reading of a room is the one that the readings of the room alone give. -/
theorem filter_latestPerRoom (readings : List Reading) (room : String) :
    (latestPerRoom readings).filter (·.room = room)
      = latestPerRoom (readings.filter (·.room = room)) := by
  -- Readings are entered at the end, so the induction goes from the end as well.
  induction readings using List.reverseRecOn with
  | nil => rfl
  | append_singleton readings reading ih =>
    have last (readings : List Reading) : latestPerRoom (readings ++ [reading])
        = keepLatest (latestPerRoom readings) reading := by
      simp [latestPerRoom, List.foldl_append]
    rw [last, filter_keepLatest, ih, List.filter_append]
    by_cases own : reading.room = room
    · simp [own, last]
    · simp [own]

/-- The distinct rooms that are one room are those of the readings of that room. -/
theorem filter_distinctRooms (readings : List Reading) (room : String) :
    (distinctRooms readings).filter (· = room)
      = distinctRooms (readings.filter (·.room = room)) := by
  -- The latest readings list the rooms, and they are known to keep to themselves.
  rw [← rooms_latestPerRoom, ← rooms_latestPerRoom, ← filter_latestPerRoom, List.filter_map]
  rfl

/-- A room with a reading stands among the distinct rooms once. -/
theorem filter_distinctRooms_eq_singleton {readings : List Reading} {room : String}
    (occurs : ∃ reading ∈ readings, reading.room = room) :
    (distinctRooms readings).filter (· = room) = [room] := by
  -- No room is listed twice, and one with a reading is listed.
  have once : (distinctRooms readings).count room = 1 :=
    List.count_eq_one_of_mem (nodup_distinctRooms readings) (mem_distinctRooms.mpr occurs)
  rw [List.filter_eq, once, List.replicate_one]

/-- The series of a room is the one that the readings of the room alone give. -/
theorem filter_seriesByRoom (readings : List Reading) (room : String) :
    (seriesByRoom readings).filter (·.1 = room)
      = seriesByRoom (readings.filter (·.room = room)) := by
  -- Both sides list the room with its readings sorted.
  rw [seriesByRoom_eq, seriesByRoom_eq, List.filter_map, ← filter_distinctRooms]
  refine List.map_congr_left fun other listed => ?_
  -- The only room that is listed is the one asked for, so its readings are picked out twice.
  obtain rfl : other = room := by simpa using (List.mem_filter.mp listed).2
  rw [filter_accepts_room, filter_accepts_room, List.filter_filter]
  simp

end Projection

namespace Overview

/-- The gauge of a room is the one that the readings of the room alone give. -/
theorem filter_gauges (readings : List Reading) (room : String) :
    (ofReadings readings).gauges.filter (·.room = room)
      = (ofReadings (readings.filter (·.room = room))).gauges := by
  -- A gauge is of the room of its reading, so the gauges are filtered as the readings are.
  simp only [ofReadings, List.filter_map, ← Projection.filter_latestPerRoom]
  rfl

/-- The series of a room is the one that the readings of the room alone give. -/
theorem filter_series (readings : List Reading) (room : String) :
    (ofReadings readings).series.filter (·.id = room)
      = (ofReadings (readings.filter (·.room = room))).series := by
  -- A series is named for its room, so the series are filtered as the groups are.
  simp only [ofReadings, List.filter_map, ← Projection.filter_seriesByRoom]
  rfl

/-- A room with a reading has a single gauge and a single series. -/
theorem exists_single {readings : List Reading} {room : String}
    (occurs : ∃ reading ∈ readings, reading.room = room) :
    (∃ gauge, (ofReadings (readings.filter (·.room = room))).gauges = [gauge])
      ∧ ∃ series, (ofReadings (readings.filter (·.room = room))).series = [series] := by
  -- Gauges and series are as many as there are distinct rooms, and of these there is one.
  have one : (Projection.distinctRooms (readings.filter (·.room = room))).length = 1 := by
    rw [← Projection.filter_distinctRooms, Projection.filter_distinctRooms_eq_singleton occurs]
    rfl
  rw [← List.length_eq_one_iff, ← List.length_eq_one_iff]
  constructor
  -- A gauge is made for each latest reading.
  · rw [ofReadings, List.length_map, ← one, ← Projection.rooms_latestPerRoom, List.length_map]
  -- A series is made for each group.
  · rw [ofReadings, List.length_map, ← one, ← Projection.rooms_seriesByRoom, List.length_map]

end Overview

/-! ## The line of a room -/

namespace Chart

/-- The lines of a chart. -/
def lines? (chart : Json) : Option (List Json) := do
  items? (← member? "datasets" (← member? "data" chart))

/-- Whether a line is labelled for a room. -/
def isLineOf (room : String) (line : Json) : Bool :=
  match member? "label" line with
  | some (.string label) => label == room ++ " AQI"
  | _ => false

/-- A line without its colours. -/
def uncoloured : Json → Json
  | .object members =>
    .object (members.filter fun member => member.1 ∉ ["backgroundColor", "borderColor"])
  | other => other

/-- The lines that a chart has for a room, their colours left out. -/
def linesOf? (room : String) (chart : Json) : Option (List Json) :=
  (lines? chart).map fun lines => (lines.filter (isLineOf room)).map uncoloured

/-- Its place among the rooms decides about nothing but the colours of a line. -/
theorem uncoloured_roomDataset (count index : Nat) (series : Series) :
    uncoloured (roomDataset count index series) = uncoloured (roomDataset 1 0 series) := by
  -- The index of a line is used in its colours only, which are left out.
  simp [uncoloured, roomDataset]

/-- A line is labelled for the room that its series is about. -/
theorem isLineOf_roomDataset (count index : Nat) {series : Series} {room : String}
    (named : series.name = series.id ++ " AQI") :
    isLineOf room (roomDataset count index series) = decide (series.id = room) := by
  change (series.name == room ++ " AQI") = _
  rw [named, beq_eq_decide]
  refine decide_eq_decide.mpr ⟨fun same => ?_, fun same => same ▸ rfl⟩
  -- Both labels end alike, so they begin alike.
  have texts : series.id.toList ++ " AQI".toList = room.toList ++ " AQI".toList := by
    rw [← String.toList_append, same, String.toList_append]
  exact String.toList_inj.mp (List.append_cancel_right texts)

/-- What is picked out of a list does not depend on the places, if each element is told apart. -/
theorem map_filter_mapIdx {α β γ : Type} {f : Nat → α → β} {keep : β → Bool} {keep' : α → Bool}
    {g : β → γ} {g' : α → γ} {list : List α}
    (kept : ∀ index, ∀ x ∈ list, keep (f index x) = keep' x)
    (same : ∀ index, ∀ x ∈ list, g (f index x) = g' x) :
    ((list.mapIdx f).filter keep).map g = (list.filter keep').map g' := by
  induction list generalizing f with
  -- Without elements there is nothing to pick out.
  | nil => rfl
  | cons x list ih =>
    -- The first element is at index zero, and the others are one place further on.
    have first := kept 0 x (List.mem_cons_self ..)
    have value := same 0 x (List.mem_cons_self ..)
    have rest := @ih (fun index => f (index + 1))
      (fun index y member => kept _ y (List.mem_cons_of_mem _ member))
      (fun index y member => same _ y (List.mem_cons_of_mem _ member))
    rw [List.mapIdx_cons, List.filter_cons, List.filter_cons, first]
    split
    · rw [List.map_cons, List.map_cons, value, rest]
    · exact rest

/-- The overview draws the line of a room after the readings of the room alone. -/
theorem linesOf?_ofOverview (readings : List Reading) (room : String) :
    linesOf? room (ofOverview (Overview.ofReadings readings))
      = some ((Overview.ofReadings (readings.filter (·.room = room))).series.map fun series =>
          uncoloured (roomDataset 1 0 series)) := by
  -- The label of a line is the room with its suffix.
  have named : ∀ series ∈ (Overview.ofReadings readings).series,
      series.name = series.id ++ " AQI" := by
    intro series member
    obtain ⟨grouped, -, rfl⟩ := List.mem_map.mp member
    rfl
  rw [← Overview.filter_series]
  exact congrArg some (map_filter_mapIdx
    (fun index series member => isLineOf_roomDataset _ index (named series member))
    fun index series _ => uncoloured_roomDataset _ index series)

end Chart

/-! ## Two reading sets -/

/-- Two reading sets of which the same is shown about a room. -/
structure ShowSame (room : String) (readings others : List Reading) : Prop where
  /-- The details of the room differ in nothing but the rooms to choose from. -/
  details : Details.ofReadings readings (.room room)
    = { Details.ofReadings others (.room room) with
        rooms := Projection.distinctRooms readings }
  title : (Details.ofReadings readings (.room room)).title
    = (Details.ofReadings others (.room room)).title
  chart : Chart.ofDetails (Details.ofReadings readings (.room room))
    = Chart.ofDetails (Details.ofReadings others (.room room))
  table : ∀ format, Fragment.dataTable? (Details.ofReadings readings (.room room)).rows format
    = Fragment.dataTable? (Details.ofReadings others (.room room)).rows format
  /-- On both overviews the room has one gauge, the same one, and its card is on both pages. -/
  gauge : ∃ gauge, ∀ overview ∈ [Overview.ofReadings readings, Overview.ofReadings others],
    overview.gauges.filter (·.room = room) = [gauge]
      ∧ ∃ before after, Fragment.roomCards overview = before ++ Fragment.gaugeCard gauge ++ after
  /-- On both overviews the room has one series, the same one. -/
  series : ∃ series, ∀ overview ∈ [Overview.ofReadings readings, Overview.ofReadings others],
    overview.series.filter (·.id = room) = [series]
  /-- In both charts the room has one line, which may only be of another colour. -/
  line : ∃ line, ∀ overview ∈ [Overview.ofReadings readings, Overview.ofReadings others],
    Chart.linesOf? room (Chart.ofOverview overview) = some [line]

/-- The card of a gauge is among the cards of its overview. -/
theorem Fragment.exists_roomCards {overview : Overview} {gauge : Gauge}
    (shown : gauge ∈ overview.gauges) :
    ∃ before after, roomCards overview = before ++ gaugeCard gauge ++ after := by
  -- The cards stand in the order of the gauges, so some are before this one and some behind it.
  obtain ⟨front, back, split⟩ := List.append_of_mem shown
  refine ⟨String.join (front.map gaugeCard), String.join (back.map gaugeCard), ?_⟩
  rw [roomCards, split, List.map_append, List.map_cons, String.join_append, String.join_cons,
    String.append_assoc]

/--
Rooms do not interfere with each other.

What is shown of a room is the same for any two reading sets that have the same readings of it in
the same order, whatever readings of other rooms stand before, between and behind them.
-/
theorem rooms_apart {room : String} {readings others : List Reading}
    (same : readings.filter (·.room = room) = others.filter (·.room = room))
    (occurs : ∃ reading ∈ readings, reading.room = room) : ShowSame room readings others := by
  -- The rows are picked out before anything else is done with them.
  have rows : Projection.newestFirst readings (.room room)
      = Projection.newestFirst others (.room room) := by
    rw [Projection.newestFirst, Projection.newestFirst, Projection.filter_accepts_room,
      Projection.filter_accepts_room, same]
  have details : Details.ofReadings readings (.room room)
      = { Details.ofReadings others (.room room) with
          rooms := Projection.distinctRooms readings } := by
    rw [Details.ofReadings, rows]
    rfl
  obtain ⟨⟨gauge, gauges⟩, ⟨series, allSeries⟩⟩ := Overview.exists_single occurs
  -- Both overviews show of the room what its own readings give.
  have both {property : Overview → Prop}
      (holds : ∀ set, set.filter (·.room = room) = readings.filter (·.room = room) →
        property (Overview.ofReadings set)) :
      ∀ overview ∈ [Overview.ofReadings readings, Overview.ofReadings others],
        property overview := by
    simp only [List.forall_mem_cons, List.not_mem_nil, false_imp_iff, implies_true, and_true]
    exact ⟨holds readings rfl, holds others same.symm⟩
  refine ⟨details, rfl, ?_, ?_, ⟨gauge, both fun set own => ?_⟩, ⟨series, both fun set own => ?_⟩,
    ⟨Chart.uncoloured (Chart.roomDataset 1 0 series), both fun set own => ?_⟩⟩
  -- The details differ in the rooms to choose from, of which the chart shows nothing.
  · rw [details]
    rfl
  -- Nor does the table.
  · intro format
    rw [details]
  · have alone : (Overview.ofReadings set).gauges.filter (·.room = room) = [gauge] := by
      rw [Overview.filter_gauges, own, gauges]
    have listed : gauge ∈ (Overview.ofReadings set).gauges :=
      List.mem_of_mem_filter (alone ▸ List.mem_singleton_self gauge)
    exact ⟨alone, Fragment.exists_roomCards listed⟩
  · rw [Overview.filter_series, own, allSeries]
  · rw [Chart.linesOf?_ofOverview, own, allSeries, List.map_singleton]

/-- Equally late readings of a room are shown alike between the readings of other rooms. -/
theorem showSame_interleaved :
    let early : Reading := ⟨"Hall", ⟨28487280, 0, 0⟩, .zero false, none, none, none, none⟩
    let late : Reading := { early with time := ⟨28487281, 0, 0⟩ }
    let again : Reading := { late with aqi := .zero true }
    let kitchen : Reading := { late with room := "Kitchen" }
    let attic : Reading := { early with room := "Attic" }
    ShowSame "Hall" [late, kitchen, early, again] [attic, late, attic, early, kitchen, again] := by
  -- Without the other rooms both sets are the same three readings.
  intro early late again kitchen attic
  exact rooms_apart (by decide) ⟨late, List.mem_cons_self .., rfl⟩

end RoomAir
