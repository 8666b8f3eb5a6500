import Mathlib.Data.List.Forall2
import Mathlib.Data.List.Induction
import RoomAir.Dashboard.Overview
import RoomAir.Proofs.Projection.Order

/-! The three groupings of a reading set by room: they list the same rooms, and they agree. -/

namespace RoomAir.Projection

/-- With one more reading, the last one stays last unless the new one is no older. -/
theorem getLast?_ascending_append {readings : List Reading} {last : Reading} (reading : Reading)
    (ends : (ascending readings).getLast? = some last) :
    (ascending (readings ++ [reading])).getLast?
      = some (if olderFirst last reading then reading else last) := by
  -- The new reading is in the list, so there is a last one.
  have nonempty : ascending (readings ++ [reading]) ≠ [] := fun empty => by
    have found : reading ∈ ascending (readings ++ [reading]) := mem_ascending.mpr (by simp)
    simp [empty] at found
  obtain ⟨top, atEnd⟩ := Option.isSome_iff_exists.mp (List.getLast?_isSome.mpr nonempty)
  -- The new last reading comes from the enlarged list and is no older than anything in it.
  have source : top ∈ readings ++ [reading] := mem_ascending.mp (List.mem_of_getLast? atEnd)
  have old : last ∈ readings ++ [reading] :=
    List.mem_append_left _ (mem_ascending.mp (List.mem_of_getLast? ends))
  have aboveNew := olderFirst_getLast atEnd (List.mem_append_right _ (List.mem_singleton_self _))
  have aboveOld := olderFirst_getLast atEnd old
  have belowLast : ∀ other ∈ readings, other.time.rank ≤ last.time.rank := fun other member =>
    (olderFirst_iff _ _).mp (olderFirst_getLast ends member)
  rw [olderFirst_iff] at aboveNew aboveOld
  -- By stability it is the last of its rank in the enlarged list, wherever that rank comes from.
  have ofRank := getLast?_filter (·.time.rank = top.time.rank) atEnd (by simp)
  rw [filter_rank_ascending, List.filter_append] at ofRank
  by_cases newer : olderFirst last reading
  · -- The new reading is of the highest rank, and comes last among those of its rank.
    have rank : reading.time.rank = top.time.rank := by
      rw [olderFirst_iff] at newer
      rcases List.mem_append.mp source with old | new
      · have := belowLast top old
        omega
      · rw [List.mem_singleton.mp new]
    rw [atEnd, ← ofRank]
    simp [rank, newer]
  · -- The new reading is older, so the highest rank and its readings are what they were.
    have rank : last.time.rank = top.time.rank := by
      rw [olderFirst_iff] at newer
      rcases List.mem_append.mp source with old | new
      · have := belowLast top old
        omega
      · rw [List.mem_singleton.mp new] at aboveOld
        omega
    have other : ¬ reading.time.rank = top.time.rank := by
      rw [olderFirst_iff] at newer
      omega
    have kept := getLast?_filter (·.time.rank = top.time.rank) ends (by simp [rank])
    rw [filter_rank_ascending] at kept
    rw [atEnd, ← ofRank]
    simp [other, newer, kept]

/-- Latest readings and groups that belong together: the latest is the last of its room's group. -/
def Agree : List Reading → List (String × List Reading) → Prop :=
  List.Forall₂ fun latest group =>
    group.1 = latest.room ∧ (ascending group.2).getLast? = some latest

/-- One more reading is entered into both groupings in the same place and to the same effect. -/
theorem Agree.enter {latest : List Reading} {groups : List (String × List Reading)}
    (agree : Agree latest groups) (reading : Reading) :
    Agree (keepLatest latest reading) (group groups reading) := by
  induction agree with
  | nil =>
    -- The first reading of a room is the latest one and the only one of its group.
    exact .cons ⟨rfl, by simp [ascending]⟩ .nil
  | @cons first firstGroup latest groups here later ih =>
    obtain ⟨room, readings⟩ := firstGroup
    obtain ⟨sameRoom, ends⟩ := here
    subst sameRoom
    simp only [keepLatest, group]
    by_cases found : first.room = reading.room
    · -- Both groupings find the room in the same place.
      rw [if_pos found, if_pos found]
      refine .cons ⟨?_, getLast?_ascending_append reading ends⟩ later
      split
      · exact found
      · rfl
    · -- Both leave this room alone and look further.
      -- The room is compared with the next one, so the induction goes along both lists.
      rw [if_neg found, if_neg found]
      exact .cons ⟨rfl, ends⟩ ih

/-- The latest readings and the groups of any reading set belong together. -/
theorem agree_foldl (readings : List Reading) :
    Agree (latestPerRoom readings) (readings.foldl group []) := by
  -- Readings are entered at the end, so the induction goes from the end as well.
  induction readings using List.reverseRecOn with
  | nil => exact .nil
  | append_singleton readings reading ih =>
    simp only [latestPerRoom, List.foldl_append, List.foldl_cons, List.foldl_nil]
    exact ih.enter reading

/-- Entering a reading among the latest ones adds its room at the end, unless it is there. -/
theorem rooms_keepLatest (latest : List Reading) (reading : Reading) :
    (keepLatest latest reading).map Reading.room
      = if reading.room ∈ latest.map Reading.room then latest.map Reading.room
        else latest.map Reading.room ++ [reading.room] := by
  induction latest with
  -- The reading opens the list.
  | nil => simp [keepLatest]
  | cons first latest ih =>
    rw [keepLatest]
    by_cases found : first.room = reading.room
    · -- Whichever reading is kept, it is of the same room.
      rw [if_pos found]
      split <;> simp [found]
    -- The room stays in its place, and the reading is entered behind it.
    · have absent : ¬ reading.room = first.room := fun same => found same.symm
      rw [if_neg found, List.map_cons, ih]
      by_cases later : reading.room ∈ latest.map Reading.room <;> simp [later, absent]

/-- One more reading adds its room at the end of the distinct rooms, unless it is there. -/
theorem distinctRooms_append (readings : List Reading) (reading : Reading) :
    distinctRooms (readings ++ [reading])
      = if reading.room ∈ distinctRooms readings then distinctRooms readings
        else distinctRooms readings ++ [reading.room] := by
  -- Only the last room can be a repetition that was not there before.
  simp only [distinctRooms, List.map_append, List.map_cons, List.map_nil, List.eraseDups_append,
    List.mem_eraseDups]
  by_cases found : reading.room ∈ readings.map Reading.room
  · simp [List.removeAll, -List.mem_map, found]
  · simp [List.removeAll, List.eraseDups_cons, -List.mem_map, found]

/-- The latest readings list the distinct rooms in order. -/
theorem rooms_latestPerRoom (readings : List Reading) :
    (latestPerRoom readings).map Reading.room = distinctRooms readings := by
  -- Both sides treat one more reading alike.
  induction readings using List.reverseRecOn with
  | nil => rfl
  | append_singleton readings reading ih =>
    have last : latestPerRoom (readings ++ [reading])
        = keepLatest (latestPerRoom readings) reading := by
      -- Entering at the end is one more step of the fold.
      simp [latestPerRoom, List.foldl_append]
    rw [last, rooms_keepLatest, distinctRooms_append, ih]

/-- Each latest reading stands where the series of its room stands, and ends that series. -/
theorem latest_forall₂_series (readings : List Reading) :
    List.Forall₂ (fun latest series => series.1 = latest.room ∧ series.2.getLast? = some latest)
      (latestPerRoom readings) (seriesByRoom readings) := by
  -- Sorting the groups does not change which rooms they are of.
  rw [seriesByRoom, List.forall₂_map_right_iff]
  exact agree_foldl readings

/-- The series list the distinct rooms in order. -/
theorem rooms_seriesByRoom (readings : List Reading) :
    (seriesByRoom readings).map Prod.fst = distinctRooms readings := by
  rw [← rooms_latestPerRoom]
  -- Room by room the two lists pair up, so they are equal.
  have paired : List.Forall₂ (· = ·) ((seriesByRoom readings).map Prod.fst)
      ((latestPerRoom readings).map Reading.room) := by
    rw [List.forall₂_map_left_iff, List.forall₂_map_right_iff]
    exact (latest_forall₂_series readings).flip.imp fun _ _ same => same.1
  exact List.forall₂_eq_eq_eq ▸ paired

/-- Lists that are related throughout are related in every place. -/
theorem exists_getElem?_of_forall₂ {α β : Type} {related : α → β → Prop} {first : List α}
    {second : List β} (all : List.Forall₂ related first second) {index : Nat} {a : α}
    (found : first[index]? = some a) : ∃ b, second[index]? = some b ∧ related a b := by
  -- A place in the first list is a place in the second one, which is as long.
  obtain ⟨bound, rfl⟩ := List.getElem?_eq_some_iff.mp found
  have within : index < second.length := all.length_eq ▸ bound
  exact ⟨second[index], List.getElem?_eq_getElem within, all.get bound within⟩

/-- There is a gauge for each of the distinct rooms, in their order. -/
theorem rooms_gauges (readings : List Reading) :
    (Overview.ofReadings readings).gauges.map Gauge.room = distinctRooms readings := by
  -- A gauge is of the room of its reading.
  rw [← rooms_latestPerRoom, Overview.ofReadings, List.map_map]
  rfl

/-- There is a series for each of the distinct rooms, in their order. -/
theorem rooms_series (readings : List Reading) :
    (Overview.ofReadings readings).series.map Series.id = distinctRooms readings := by
  -- The name of a series is its room.
  rw [← rooms_seriesByRoom, Overview.ofReadings, List.map_map]
  rfl

/-- Each gauge stands where the series of its room stands, whose last point shows its reading. -/
theorem gauges_forall₂_series (readings : List Reading) :
    List.Forall₂
      (fun gauge series => series.id = gauge.room
        ∧ series.points.getLast? = some ⟨gauge.time.milliseconds, some gauge.aqi⟩)
      (Overview.ofReadings readings).gauges (Overview.ofReadings readings).series := by
  -- Gauges and series are made one by one from what is paired up already.
  simp only [Overview.ofReadings, List.forall₂_map_left_iff, List.forall₂_map_right_iff]
  refine (latest_forall₂_series readings).imp fun latest series same => ?_
  obtain ⟨room, ends⟩ := same
  exact ⟨room, by simp [Series.ofReadings, ends, Gauge.ofReading, Metric.value]⟩

/--
The three groupings of a reading set list the same rooms in the same order.

The latest reading of each room is the last one of its series, ties included.
On the overview gauges and series are about the same rooms, and each gauge therefore shows the last
point of the series of its room.
-/
theorem groupings_agree (readings : List Reading) :
    (latestPerRoom readings).map Reading.room = distinctRooms readings
    ∧ (seriesByRoom readings).map Prod.fst = distinctRooms readings
    ∧ (∀ (index : Nat) (latest : Reading), (latestPerRoom readings)[index]? = some latest →
        ∃ points, (seriesByRoom readings)[index]? = some (latest.room, points)
          ∧ points.getLast? = some latest)
    ∧ (Overview.ofReadings readings).gauges.map Gauge.room = distinctRooms readings
    ∧ (Overview.ofReadings readings).series.map Series.id = distinctRooms readings
    ∧ ∀ (index : Nat) (gauge : Gauge),
        (Overview.ofReadings readings).gauges[index]? = some gauge →
        ∃ series point, (Overview.ofReadings readings).series[index]? = some series
          ∧ series.id = gauge.room ∧ series.points.getLast? = some point
          ∧ point.value = some gauge.aqi ∧ point.milliseconds = gauge.time.milliseconds := by
  -- The paired lists are read off at each index.
  refine ⟨rooms_latestPerRoom readings, rooms_seriesByRoom readings, ?_,
    rooms_gauges readings, rooms_series readings, ?_⟩
  · intro index latest found
    obtain ⟨⟨room, points⟩, there, rfl, ends⟩ :=
      exists_getElem?_of_forall₂ (latest_forall₂_series readings) found
    exact ⟨points, there, ends⟩
  · intro index gauge found
    obtain ⟨series, there, room, ends⟩ :=
      exists_getElem?_of_forall₂ (gauges_forall₂_series readings) found
    exact ⟨series, _, there, room, ends, rfl, rfl⟩

end RoomAir.Projection
