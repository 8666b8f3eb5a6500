import Mathlib.Data.List.Perm.Basic
import RoomAir.Proofs.Projection.Latest
import RoomAir.Proofs.Projection.Stability

/-! Series of rooms: each holds the readings of its room in time order, and no other ones. -/

namespace RoomAir.Projection

/-- A reading is entered at the end of the group of its room, or opens the last group. -/
theorem group_map {rooms : List String} (distinct : rooms.Nodup)
    (members : String → List Reading) (reading : Reading) :
    group (rooms.map fun room => (room, members room)) reading
      = rooms.map (fun room =>
          (room, if room = reading.room then members room ++ [reading] else members room))
        ++ if reading.room ∈ rooms then [] else [(reading.room, [reading])] := by
  induction rooms with
  | nil => rfl
  | cons room rooms ih =>
    obtain ⟨absent, distinct⟩ := List.nodup_cons.mp distinct
    rw [List.map_cons, group]
    by_cases found : room = reading.room
    · -- The rooms behind it are other ones, so their groups stay as they are.
      have others : rooms.map (fun room => (room, members room)) = rooms.map (fun room =>
          (room, if room = reading.room then members room ++ [reading] else members room)) :=
        List.map_congr_left fun other member => by
          rw [if_neg fun same : other = reading.room => absent (found ▸ same ▸ member)]
      simp [found, others]
    -- The room is another one, so the reading is entered further behind.
    · have other : ¬ reading.room = room := fun same => found same.symm
      simp [found, other, ih distinct]

/-- The readings of a room, with one more reading in the set. -/
theorem filter_room_append (readings : List Reading) (reading : Reading) (room : String) :
    (readings ++ [reading]).filter (RoomFilter.room room).accepts
      = if room = reading.room
        then readings.filter (RoomFilter.room room).accepts ++ [reading]
        else readings.filter (RoomFilter.room room).accepts := by
  -- The filter is asked about the new reading only once.
  rw [List.filter_append]
  by_cases same : room = reading.room
  · simp [RoomFilter.accepts, same]
  · have other : ¬ reading.room = room := fun equal => same equal.symm
    simp [RoomFilter.accepts, same, other]

/-- Grouping by room lists the rooms, each with its own readings in their order. -/
theorem foldl_group_eq (readings : List Reading) :
    readings.foldl group []
      = (distinctRooms readings).map fun room =>
          (room, readings.filter (RoomFilter.room room).accepts) := by
  -- Readings are entered at the end, so the induction goes from the end as well.
  induction readings using List.reverseRecOn with
  | nil => rfl
  | append_singleton readings reading ih =>
    rw [List.foldl_append, List.foldl_cons, List.foldl_nil, ih,
      group_map (nodup_distinctRooms readings), distinctRooms_append]
    simp only [filter_room_append]
    by_cases found : reading.room ∈ distinctRooms readings
    -- The room is listed already, and its group gets the reading.
    · rw [if_pos found, if_pos found, List.append_nil]
    · -- A room that is not listed has no reading yet.
      have none : readings.filter (RoomFilter.room reading.room).accepts = [] := by
        rw [List.filter_eq_nil_iff]
        intro other member accepted
        exact found (mem_distinctRooms.mpr ⟨other, member, accepts_room.mp accepted⟩)
      rw [if_neg found, if_neg found, List.map_append, List.map_singleton, if_pos rfl, none,
        List.nil_append]

/-- The series of the rooms are their readings in time order. -/
theorem seriesByRoom_eq (readings : List Reading) :
    seriesByRoom readings
      = (distinctRooms readings).map fun room =>
          (room, ascending (readings.filter (RoomFilter.room room).accepts)) := by
  -- Sorting a group does not change which room it is of.
  rw [seriesByRoom, foldl_group_eq, List.map_map]
  rfl

/-- The first of a room's rows is of the time of the room's latest reading. -/
theorem head?_newestFirst_room {readings : List Reading} {latest : Reading}
    (listed : latest ∈ latestPerRoom readings) :
    (newestFirst readings (.room latest.room)).head?.map Reading.time = some latest.time := by
  -- The latest reading is selected, so there is a first row.
  have own := isLatest_of_mem listed
  have selected : (RoomFilter.room latest.room).accepts latest = true := accepts_room.mpr rfl
  have found := mem_newestFirst.mpr ⟨own.mem, selected⟩
  obtain ⟨first, top⟩ := Option.isSome_iff_exists.mp
    (List.isSome_head?.mpr (List.ne_nil_of_mem found))
  obtain ⟨source, accepted⟩ := mem_newestFirst.mp (List.mem_of_head? top)
  -- Neither of the two is later than the other.
  have same : first.time.rank = latest.time.rank :=
    Int.le_antisymm (own.newest first source (accepts_room.mp accepted))
      (rank_le_of_head? top own.mem selected)
  rw [top, Option.map_some, Instant.eq_of_rank_eq same]

/-! ## The series as a whole -/

/-- Entering a reading into the groups adds that reading and moves none to another group. -/
theorem readings_group_perm (groups : List (String × List Reading)) (reading : Reading) :
    ((group groups reading).flatMap Prod.snd).Perm (groups.flatMap Prod.snd ++ [reading]) := by
  induction groups with
  | nil => exact .refl _
  | cons first groups ih =>
    obtain ⟨room, readings⟩ := first
    rw [group]
    split
    · -- The reading goes to the end of its group, which is before the other groups.
      simp only [List.flatMap_cons, List.append_assoc]
      exact List.perm_append_comm.append_left readings
    · -- The group of this room is left alone.
      simp only [List.flatMap_cons, List.append_assoc]
      exact ih.append_left readings

/-- Grouping loses no reading and adds none. -/
theorem readings_foldl_group_perm (readings : List Reading) :
    ((readings.foldl group []).flatMap Prod.snd).Perm readings := by
  induction readings using List.reverseRecOn with
  -- Without readings there is nothing to group.
  | nil => exact .refl _
  | append_singleton readings reading ih =>
    -- The last reading is entered into the groups of the others.
    rw [List.foldl_append, List.foldl_cons, List.foldl_nil]
    exact (readings_group_perm _ reading).trans (ih.append_right [reading])

/-- The series together hold the readings, each as often as it was there. -/
theorem readings_seriesByRoom_perm (readings : List Reading) :
    ((seriesByRoom readings).flatMap Prod.snd).Perm readings := by
  rw [seriesByRoom, List.flatMap_map]
  -- Sorting moves readings within their series only.
  have sorted := List.Perm.flatMap_left (readings.foldl group [])
    fun entry _ => List.mergeSort_perm entry.2 olderFirst
  exact sorted.trans (readings_foldl_group_perm readings)

/-- The readings split into one series per room, rooms as they appear and readings in time order. -/
structure SplitByRoom (readings : List Reading) (series : List (String × List Reading)) : Prop where
  once : (series.map Prod.fst).Nodup
  inOrder : (series.map Prod.fst).Pairwise (AppearsBefore readings)
  filled : ∀ entry ∈ series, entry.2 ≠ []
  own : ∀ entry ∈ series, ∀ reading ∈ entry.2, reading.room = entry.1
  whole : (series.flatMap Prod.snd).Perm readings
  sorted : ∀ entry ∈ series, StablySorted (readings.filter (·.room = entry.1)) entry.2

/-- The series of the rooms split the readings. -/
theorem splitByRoom_seriesByRoom (readings : List Reading) :
    SplitByRoom readings (seriesByRoom readings) := by
  have rooms := rooms_seriesByRoom readings
  -- A series is what the readings of its room are sorted to.
  have sorted : ∀ entry ∈ seriesByRoom readings,
      StablySorted (readings.filter (·.room = entry.1)) entry.2 := by
    intro entry listed
    rw [seriesByRoom_eq] at listed
    obtain ⟨room, -, rfl⟩ := List.mem_map.mp listed
    rw [filter_accepts_room]
    exact stablySorted_ascending _
  refine ⟨rooms ▸ nodup_distinctRooms readings, rooms ▸ pairwise_distinctRooms readings, ?_, ?_,
    readings_seriesByRoom_perm readings, sorted⟩
  · -- A room is listed because of a reading, which is then in its series.
    intro entry listed
    have room : entry.1 ∈ distinctRooms readings := rooms ▸ List.mem_map_of_mem listed
    obtain ⟨reading, member, same⟩ := mem_distinctRooms.mp room
    have found : reading ∈ entry.2 :=
      (sorted entry listed).perm.mem_iff.mpr (List.mem_filter.mpr ⟨member, by simp [same]⟩)
    exact List.ne_nil_of_mem found
  -- A reading of the series was one of its room before it was sorted.
  · intro entry listed reading member
    have kept := (sorted entry listed).perm.mem_iff.mp member
    simpa using (List.mem_filter.mp kept).2

namespace SplitByRoom

variable {readings : List Reading} {series : List (String × List Reading)}

/-- The rooms of the series are those of the readings. -/
theorem mem_rooms (held : SplitByRoom readings series) {room : String} :
    room ∈ series.map Prod.fst ↔ room ∈ readings.map Reading.room := by
  constructor
  -- A series is not empty, and its readings are of its room.
  · intro listed
    obtain ⟨entry, member, rfl⟩ := List.mem_map.mp listed
    obtain ⟨reading, found⟩ := List.exists_mem_of_ne_nil _ (held.filled entry member)
    have source := held.whole.mem_iff.mp (List.mem_flatMap.mpr ⟨entry, member, found⟩)
    exact List.mem_map.mpr ⟨reading, source, held.own entry member reading found⟩
  -- The reading is in some series, whose room is the reading's own.
  · intro occurs
    obtain ⟨reading, source, rfl⟩ := List.mem_map.mp occurs
    obtain ⟨entry, member, found⟩ := List.mem_flatMap.mp (held.whole.mem_iff.mpr source)
    exact List.mem_map.mpr ⟨entry, member, (held.own entry member reading found).symm⟩

/-- There is only one way to split the readings. -/
theorem unique {series' : List (String × List Reading)} (held : SplitByRoom readings series)
    (held' : SplitByRoom readings series') : series = series' := by
  -- The rooms stand in the order of their appearance, which leaves no choice.
  have rooms : series.map Prod.fst = series'.map Prod.fst :=
    eq_of_appearsBefore held.once held'.once held.inOrder held'.inOrder fun room => by
      rw [held.mem_rooms, held'.mem_rooms]
  refine eq_of_map_eq rooms fun entry member entry' member' same => Prod.ext same ?_
  -- Both are the readings of one room in time order.
  rw [(held.sorted entry member).eq_ascending, (held'.sorted entry' member').eq_ascending, same]

end SplitByRoom

/--
The series are exactly the readings split by room.

Each room of the readings has one series, and it is where the room first appears.
Its readings are in time order, those of one time in the order they had, and none is lost.
No other list is like that.
-/
theorem eq_seriesByRoom_iff (readings : List Reading) (series : List (String × List Reading)) :
    series = seriesByRoom readings ↔ SplitByRoom readings series := by
  constructor
  · rintro rfl
    -- The series split the readings, and nothing else does.
    exact splitByRoom_seriesByRoom readings
  · exact fun held => held.unique (splitByRoom_seriesByRoom readings)

end RoomAir.Projection
