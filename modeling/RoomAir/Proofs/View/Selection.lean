import RoomAir.Proofs.Projection.Latest
import RoomAir.Proofs.View.Fragments

/-! The selector marks one option: that of the filter, whether or not its room has readings. -/

namespace RoomAir.Fragment

open Markup

/-! ## Rooms to choose from -/

/-- A selected room that none of the readings is of. -/
def unlisted (readings : List Reading) : RoomFilter → List String
  | .all => []
  | .room name => if ∃ reading ∈ readings, reading.room = name then [] else [name]

variable {readings : List Reading} {filter : RoomFilter} {name : String}

/-- The rooms to choose from are those of the readings, and then the selected one if it is none. -/
theorem roomChoices_ofReadings (readings : List Reading) (filter : RoomFilter) :
    roomChoices (Details.ofReadings readings filter)
      = Projection.distinctRooms readings ++ unlisted readings filter := by
  -- Only one room by itself can be missing from the list of rooms.
  cases filter with
  | all => exact (List.append_nil _).symm
  | room name =>
    have listed : (Projection.distinctRooms readings).contains name = true
        ↔ ∃ reading ∈ readings, reading.room = name := by
      rw [List.contains_iff_mem, Projection.mem_distinctRooms]
    simp only [roomChoices, Details.ofReadings, unlisted, listed]
    -- It is added behind the others just when it is missing.
    split
    · exact (List.append_nil _).symm
    · rfl

/-- No room can be chosen in two places. -/
theorem nodup_choices (readings : List Reading) (filter : RoomFilter) :
    (Projection.distinctRooms readings ++ unlisted readings filter).Nodup := by
  have rooms := Projection.nodup_distinctRooms readings
  -- With all rooms selected there is nothing behind the distinct rooms.
  cases filter with
  | all => simpa [unlisted] using rooms
  | room name =>
    rw [unlisted]
    split
    · simpa using rooms
    · -- The selected room comes behind rooms of readings, of which it is none.
      rename_i absent
      rw [← Projection.mem_distinctRooms] at absent
      refine List.nodup_append.mpr ⟨rooms, by simp, fun room listed other last same => ?_⟩
      rw [same, List.mem_singleton.mp last] at listed
      exact absent listed

/-- The selected room can always be chosen. -/
theorem selected_mem_choices (readings : List Reading) (name : String) :
    name ∈ Projection.distinctRooms readings ++ unlisted readings (.room name) := by
  rw [List.mem_append, Projection.mem_distinctRooms, unlisted]
  -- A room with readings is in the list already, and any other one is put behind it.
  split
  · rename_i listed
    exact .inl listed
  · exact .inr (List.mem_singleton_self name)

/-! ## Options -/

/-- Whether an option is marked as selected. -/
def isSelected (option : Element) : Bool :=
  (option.attribute? "selected").isSome

/-- An option is marked as selected when it was written so. -/
@[simp] theorem isSelected_optionTag (value written : String) (selected : Bool) :
    isSelected (optionTag value written selected) = selected := by
  have apart : "selected" ≠ "value" := by decide
  rw [isSelected, optionTag, optionAttributes, Element.attribute?_other apart]
  -- Besides its value an option has no other attribute than the mark itself.
  cases selected <;> simp [Element.attribute?]

/-- An option stands for the value that it was written with. -/
@[simp] theorem value_optionTag (value written : String) (selected : Bool) :
    (optionTag (Html.escape value) written selected).attribute? "value" = some value := by
  rw [optionTag, optionAttributes, Element.attribute?_self, Html.unescape_escape]

/-- An option is that of all rooms, or that of a room to choose from. -/
theorem mem_optionTags_iff {details : Details} {option : Element} :
    option ∈ optionTags details
      ↔ option = optionTag (Html.escape "all") "All Rooms" (details.filter == .all)
        ∨ ∃ room ∈ roomChoices details,
          option = optionTag (Html.escape room) (Html.escape room)
            (details.filter == .room room) := by
  -- The word for all rooms has no marks, so it is like the escaped name of a room.
  have plain : Html.escape "all" = "all" := by decide
  rw [optionTags, List.mem_cons, List.mem_map, plain]
  simp only [eq_comm]

/-- As many options are marked as there are ways in which the filter can be chosen. -/
theorem countP_isSelected (details : Details) :
    (optionTags details).countP isSelected
      = (roomChoices details).countP (details.filter == .room ·)
        + if details.filter = .all then 1 else 0 := by
  -- The option of all rooms counts by itself, and each room counts where the filter is that room.
  rw [optionTags, List.countP_cons, List.countP_map]
  simp [Function.comp_def]

/-- What the options of a selector are, and which of them is marked. -/
structure ShowsSelection (readings : List Reading) (filter : RoomFilter) (options : List Element) :
    Prop where
  names : ∀ option ∈ options, option.name = "option"
  /-- The word for all rooms comes first, then the rooms in order, then a room without readings. -/
  values : options.map (·.attribute? "value")
    = ("all" :: (Projection.distinctRooms readings ++ unlisted readings filter)).map some
  /-- The rooms are those that there are readings of. -/
  rooms : ∀ name, name ∈ Projection.distinctRooms readings ↔ ∃ reading ∈ readings,
    reading.room = name
  /-- They are in order of their first readings, so none of them comes twice. -/
  inOrder : (Projection.distinctRooms readings).Pairwise (Projection.AppearsBefore readings)
  one : options.countP isSelected = 1
  /-- The marked option stands for the filter. -/
  word : ∀ option ∈ options, isSelected option = true →
    option.attribute? "value" = some filter.word
  /-- If all rooms are selected, it is the first one, whatever rooms are called. -/
  all : filter = .all → ∃ option, options.head? = some option ∧ isSelected option = true
  /-- If one room is, it is the only one that stands for the room. -/
  room : ∀ name, filter = .room name → ∀ option ∈ options,
    (isSelected option = true ↔ option.attribute? "value" = some name)

/-- No query selects a room by the word for all rooms. -/
theorem ofQuery_ne_room_all (query : Option String) : RoomFilter.ofQuery query ≠ .room "all" := by
  intro same
  -- The word is taken for all rooms before it could be taken for the name of one.
  cases query with
  | none => cases same
  | some name =>
    rw [RoomFilter.ofQuery] at same
    split at same
    case isTrue => cases same
    case isFalse other =>
      cases same
      exact other (.inr rfl)

/-- The options for a filter show that filter, if it is one that a query can name. -/
theorem showsSelection_optionTags (readings : List Reading) {filter : RoomFilter}
    (noWord : filter ≠ .room "all") :
    ShowsSelection readings filter (optionTags (Details.ofReadings readings filter)) := by
  have same : (Details.ofReadings readings filter).filter = filter := rfl
  have choices := roomChoices_ofReadings readings filter
  -- The options are known one by one, so each part is read off their list.
  constructor
  case names =>
    intro option member
    rcases mem_optionTags_iff.mp member with rfl | ⟨room, -, rfl⟩ <;> rfl
  case values =>
    -- The word for all rooms is its own escaped form.
    rw [optionTags, choices, List.map_cons, List.map_cons, List.map_map]
    exact congrArg₂ List.cons (value_optionTag "all" ..)
      (List.map_congr_left fun room _ => value_optionTag room ..)
  case rooms =>
    intro name
    exact Projection.mem_distinctRooms
  case inOrder => exact Projection.pairwise_distinctRooms readings
  case one =>
    rw [countP_isSelected, same, choices]
    cases filter with
    | all => simp
    | room name =>
      -- The room is among those to choose from, and it is there once.
      have once : List.count name _ = _ := (nodup_choices readings (.room name)).count
      have named : (RoomFilter.room name == .room ·) = (· == name) := by
        funext room
        rw [Bool.eq_iff_iff, beq_iff_eq, beq_iff_eq, RoomFilter.room.injEq, eq_comm]
      rw [if_pos (selected_mem_choices readings name), List.count] at once
      rw [named, once, if_neg (by simp)]
  -- A marked option is that of all rooms or that of a room, and the filter is the same.
  case word =>
    intro option member marked
    rcases mem_optionTags_iff.mp member with rfl | ⟨room, -, rfl⟩
    · obtain rfl : filter = .all := by simpa [same] using marked
      exact value_optionTag ..
    · obtain rfl : filter = .room room := by simpa [same] using marked
      exact value_optionTag ..
  case all =>
    rintro rfl
    exact ⟨_, rfl, isSelected_optionTag ..⟩
  case room =>
    rintro name rfl option member
    rcases mem_optionTags_iff.mp member with rfl | ⟨room, -, rfl⟩
    · -- The option of all rooms stands for no room that can be selected.
      have apart : "all" ≠ name := fun named => noWord (named ▸ rfl)
      simp [same, apart]
    · rw [isSelected_optionTag, value_optionTag, same, beq_iff_eq, RoomFilter.room.injEq,
        Option.some.injEq, eq_comm]

/--
The selector shows where one is, whatever rooms are called.

It lists the word for all rooms, the rooms in order of first appearance, and then the selected room
if no reading is of it. One option is marked, which is the one that stands for the filter.
-/
theorem selector_shows_filter (readings : List Reading) (query : Option String) :
    ∃ markup select, read? (roomSelector (Details.ofReadings readings (.ofQuery query)))
        = some markup
      ∧ markup.elements = [select] ∧ select.name = "select"
      ∧ ShowsSelection readings (.ofQuery query) select.content.elements := by
  obtain ⟨markup, select, read, single, name, options⟩ :=
    exists_selector (Details.ofReadings readings (.ofQuery query))
  refine ⟨markup, select, read, single, name, options ▸ ?_⟩
  exact showsSelection_optionTags readings (ofQuery_ne_room_all query)

end RoomAir.Fragment
