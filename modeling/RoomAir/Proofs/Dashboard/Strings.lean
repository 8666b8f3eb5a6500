import RoomAir.Proofs.Json.Comments
import RoomAir.Proofs.Projection.Groupings
import RoomAir.View.Basic

/-! The strings of the charts: none opens a comment but for the rooms that are named in them. -/

namespace RoomAir

open Json (Uncommented AllUncommented allUncommented_cons allUncommented_append
  allUncommented_itemStrings)

namespace Chart

/-! ## Lines -/

/-- The only strings of points are the names of their coordinates. -/
theorem allUncommented_points (series : Series) : AllUncommented (points series).strings := by
  rw [points, Json.strings, allUncommented_itemStrings]
  intro item member
  obtain ⟨⟨milliseconds, value⟩, -, rfl⟩ := List.mem_map.mp member
  -- The coordinates themselves are numbers or null.
  have names : AllUncommented ["x", "y"] := by decide +kernel
  cases value with
  | none => exact names
  | some value => exact names

/-- A number that is shown has no brackets in it. -/
theorem bracket_notMem_display (x : Double) : '<' ∉ x.display.toList :=
  fun member => absurd (Json.isNumberChar_of_mem_display member) (by decide)

/-- Around a number that is shown, texts without brackets open no comment. -/
theorem uncommented_display {front back : String} (opens : '<' ∉ front.toList)
    (closes : '<' ∉ back.toList) (x : Double) :
    Uncommented (front ++ x.display ++ back).toList := by
  -- A comment begins with a bracket, and none of the three parts has one.
  refine Json.uncommented_of_notMem ?_
  simp only [String.toList_append, List.mem_append, not_or]
  exact ⟨⟨opens, bracket_notMem_display x⟩, closes⟩

/-- Only the name of a room can open a comment in the room's line. -/
theorem allUncommented_roomDataset (count index : Nat) {series : Series}
    (name : Uncommented series.name.toList) :
    AllUncommented (roomDataset count index series).strings := by
  -- The other members are known texts, the colours of the line and its points.
  simp only [roomDataset, Json.strings, Json.memberStrings, allUncommented_cons,
    allUncommented_append]
  and_intros
  all_goals first
    | decide +kernel
    | exact uncommented_display (by decide) (by decide) _
    | exact allUncommented_points series
    | exact name

/-- Only the name of a metric can open a comment in the metric's line. -/
theorem allUncommented_metricDataset {series : Series} {palette : Palette}
    (name : Uncommented series.name.toList) (known : palette ∈ palettes) :
    AllUncommented (metricDataset series palette).strings := by
  -- There are three palettes, and their colours are looked at.
  have colours : ∀ palette ∈ palettes, Uncommented palette.background.toList
      ∧ Uncommented palette.border.toList ∧ Uncommented palette.axis.toList := by
    decide +kernel
  obtain ⟨background, border, axis⟩ := colours palette known
  have points := allUncommented_points series
  simp only [metricDataset, Json.strings, Json.memberStrings, allUncommented_cons,
    allUncommented_append]
  and_intros
  all_goals first
    | decide +kernel
    | assumption

/-! ## Configurations -/

/-- A chart opens no comment if its lines, its plugins and its axes do not. -/
theorem allUncommented_lineChart {datasets : List Json} {plugins scales : Json}
    (lines : ∀ dataset ∈ datasets, AllUncommented dataset.strings)
    (plugged : AllUncommented plugins.strings) (scaled : AllUncommented scales.strings) :
    AllUncommented (lineChart datasets plugins scales).strings := by
  -- Everything else in a configuration is the same for all charts.
  have lines := allUncommented_itemStrings.mpr lines
  simp only [lineChart, Json.strings, Json.memberStrings, allUncommented_cons,
    allUncommented_append]
  and_intros
  all_goals first
    | decide +kernel
    | assumption

/-- What is added to a room's name opens no comment behind it. -/
theorem uncommented_append {name : String} (uncommented : Uncommented name.toList)
    (suffix : String) {c : Char} {more : List Char} (starts : suffix.toList = c :: more)
    (separates : c ∉ ['<', '!', '-', '-']) (plain : '<' ∉ more) :
    Uncommented (name ++ suffix).toList := by
  -- Between the name and what is behind its first character stands that character.
  rw [String.toList_append, starts]
  exact Json.uncommented_append_cons uncommented (Json.uncommented_of_notMem plain) separates

/-- Only the rooms of readings can open a comment in the chart of the overview. -/
theorem allUncommented_ofOverview {readings : List Reading}
    (rooms : ∀ reading ∈ readings, Uncommented reading.room.toList) :
    AllUncommented (ofOverview (Overview.ofReadings readings)).strings := by
  refine allUncommented_lineChart ?_ (by decide +kernel) (by decide +kernel)
  intro dataset member
  obtain ⟨index, inside, rfl⟩ := List.mem_mapIdx.mp member
  refine allUncommented_roomDataset _ _ ?_
  -- Each series is named for the room of a reading.
  obtain ⟨⟨room, points⟩, grouped, same⟩ := List.mem_map.mp (List.getElem_mem inside)
  have listed : room ∈ Projection.distinctRooms readings := by
    rw [← Projection.rooms_seriesByRoom]
    exact List.mem_map_of_mem grouped
  rw [Projection.distinctRooms, List.mem_eraseDups] at listed
  obtain ⟨reading, found, rfl⟩ := List.mem_map.mp listed
  rw [← same]
  exact uncommented_append (rooms reading found) " AQI" rfl (by decide) (by decide)

/-- Only the room that is selected can open a comment in the chart of the details. -/
theorem allUncommented_ofDetails (readings : List Reading) {filter : RoomFilter}
    (room : ∀ name, filter = .room name → Uncommented name.toList) :
    AllUncommented (ofDetails (Details.ofReadings readings filter)).strings := by
  -- The title names the room that is selected, or none.
  have title : Uncommented (Details.ofReadings readings filter).title.toList := by
    cases filter with
    | all => exact (by decide +kernel : Uncommented "All Rooms Data".toList)
    | room name =>
      exact uncommented_append (room name rfl) " Data" rfl (by decide) (by decide)
  refine allUncommented_lineChart ?_ ?_ (by decide +kernel)
  · -- The series are named for metrics, each of which has a palette.
    have labels : ∀ metric ∈ Details.metrics, Uncommented metric.label.toList := by
      decide +kernel
    have named : ∀ series ∈ (Details.ofReadings readings filter).series,
        Uncommented series.name.toList := by
      intro series member
      obtain ⟨metric, listed, rfl⟩ := List.mem_map.mp member
      exact labels metric listed
    intro dataset member
    obtain ⟨index, inside, rfl⟩ := List.getElem_of_mem member
    rw [List.getElem_zipWith]
    exact allUncommented_metricDataset (named _ (List.getElem_mem _)) (List.getElem_mem _)
  -- The title is the only text of the plugins that is not fixed.
  · simp only [Json.strings, Json.memberStrings, allUncommented_cons, allUncommented_append]
    and_intros
    all_goals first
      | decide +kernel
      | assumption

end Chart

/-- Only rooms that are named or selected can open a comment in the chart of a page. -/
theorem Page.allUncommented_config {page : Page} {readings : List Reading}
    (rooms : ∀ reading ∈ readings, Uncommented reading.room.toList)
    (selected : ∀ name, page = .details (.room name) → Uncommented name.toList) :
    AllUncommented (page.config readings).strings := by
  -- Each page has a chart of its own.
  cases page with
  | overview => exact Chart.allUncommented_ofOverview rooms
  | details filter =>
    exact Chart.allUncommented_ofDetails readings fun name same => selected name (same ▸ rfl)

/-- A chart that is sent to a page opens no comment if its configuration does not. -/
theorem ChartUpdate.allUncommented_toJson {update : ChartUpdate}
    (config : AllUncommented update.config.strings) : AllUncommented update.toJson.strings := by
  obtain ⟨⟨slot, number⟩, replaces, config⟩ := update
  -- The names of the slots are fixed.
  have key : Uncommented slot.key.toList := by
    cases slot <;> decide +kernel
  -- A number is no string, and neither is null.
  have replaced : AllUncommented
      (Json.ofOption (replaces.map fun number => .integer number)).strings := by
    cases replaces <;> exact nofun
  simp only [ChartUpdate.toJson, Json.strings, Json.memberStrings, allUncommented_cons,
    allUncommented_append]
  and_intros
  all_goals first
    | decide +kernel
    | assumption

end RoomAir
