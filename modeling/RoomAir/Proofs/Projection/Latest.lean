import RoomAir.Proofs.Projection.Groupings
import RoomAir.Proofs.Time.Instant

/-! The latest reading of each room: which of its readings it is, and in which order they stand. -/

namespace RoomAir.Projection

variable {readings : List Reading} {latest reading : Reading}

/-- The rooms of a reading set are those of its readings. -/
theorem mem_distinctRooms {room : String} :
    room ∈ distinctRooms readings ↔ ∃ reading ∈ readings, reading.room = room := by
  -- Removing repetitions loses no room.
  rw [distinctRooms, List.mem_eraseDups, List.mem_map]

/-- The first reading of one room comes before the first reading of another. -/
def AppearsBefore (readings : List Reading) (a b : String) : Prop :=
  (readings.map Reading.room).idxOf a < (readings.map Reading.room).idxOf b

/-- The rooms are listed in the order in which they appear. -/
theorem pairwise_distinctRooms (readings : List Reading) :
    (distinctRooms readings).Pairwise (AppearsBefore readings) := by
  induction readings using List.reverseRecOn with
  | nil => exact .nil
  | append_singleton readings reading ih =>
    -- What is listed is a room of a reading.
    have seen : ∀ room ∈ distinctRooms readings, room ∈ readings.map Reading.room :=
      fun room listed => List.mem_map.mpr (mem_distinctRooms.mp listed)
    -- A room that was there already appears where it did.
    have kept : (distinctRooms readings).Pairwise (AppearsBefore (readings ++ [reading])) := by
      refine ih.imp_of_mem fun memberA memberB before => ?_
      rwa [AppearsBefore, List.map_append, List.idxOf_append_of_mem (seen _ memberA),
        List.idxOf_append_of_mem (seen _ memberB)]
    rw [distinctRooms_append]
    split
    case isTrue found => exact kept
    case isFalse absent =>
      -- A new room appears behind all of the readings before it.
      have unseen : reading.room ∉ readings.map Reading.room := fun found =>
        absent (mem_distinctRooms.mpr (List.mem_map.mp found))
      refine List.pairwise_append.mpr ⟨kept, .cons (by simp) .nil, fun room listed new own => ?_⟩
      rw [List.mem_singleton.mp own, AppearsBefore, List.map_append,
        List.idxOf_append_of_mem (seen room listed), List.idxOf_append_of_notMem unseen]
      exact Nat.lt_add_right _ (List.idxOf_lt_length_of_mem (seen room listed))

/-- Rooms in the order in which they appear are fixed by which rooms they are. -/
theorem eq_of_appearsBefore {first second : List String} (once : first.Nodup)
    (once' : second.Nodup) (inOrder : first.Pairwise (AppearsBefore readings))
    (inOrder' : second.Pairwise (AppearsBefore readings))
    (same : ∀ room, room ∈ first ↔ room ∈ second) : first = second := by
  refine List.Perm.eq_of_pairwise (fun a b _ _ before behind => ?_) inOrder inOrder'
    ((List.perm_ext_iff_of_nodup once once').mpr same)
  -- Two rooms cannot come before each other, so the order leaves no choice.
  exact absurd before (Nat.lt_asymm behind)

/-- No room is listed twice. -/
theorem nodup_distinctRooms (readings : List Reading) : (distinctRooms readings).Nodup :=
  (pairwise_distinctRooms readings).imp fun before same => by
    -- A room would appear before itself.
    rw [same, AppearsBefore] at before
    exact Nat.lt_irrefl _ before

/-- What stands among the latest readings after one more reading has been entered. -/
theorem mem_keepLatest {kept : List Reading} (distinct : (kept.map Reading.room).Nodup)
    (listed : latest ∈ keepLatest kept reading) :
    latest = reading ∧ (∀ other ∈ kept, other.room = reading.room → olderFirst other reading)
    ∨ latest ∈ kept ∧ (latest.room = reading.room → ¬ olderFirst latest reading) := by
  induction kept with
  -- The first reading of all is entered, and there is nothing that it could replace.
  | nil => exact .inl ⟨List.mem_singleton.mp listed, by simp⟩
  | cons first kept ih =>
    rw [List.map_cons, List.nodup_cons] at distinct
    rw [keepLatest] at listed
    by_cases found : first.room = reading.room
    · -- The other ones are of other rooms.
      have others : ∀ other ∈ kept, other.room ≠ reading.room := fun other member same =>
        distinct.1 (List.mem_map.mpr ⟨other, member, same.trans found.symm⟩)
      rw [if_pos found] at listed
      -- Either this is the reading that the new one was compared with, or it stands behind it.
      rcases List.mem_cons.mp listed with rfl | behind
      · split
        case isTrue newer =>
          refine .inl ⟨rfl, fun other member same => ?_⟩
          rcases List.mem_cons.mp member with rfl | behind
          · exact newer
          · exact absurd same (others other behind)
        case isFalse older => exact .inr ⟨List.mem_cons_self, fun _ => older⟩
      · exact .inr ⟨List.mem_cons_of_mem _ behind, fun same => absurd same (others latest behind)⟩
    -- The room is another one, so the reading is entered further behind.
    · rw [if_neg found] at listed
      rcases List.mem_cons.mp listed with rfl | behind
      · exact .inr ⟨List.mem_cons_self, fun same => absurd same found⟩
      · rcases ih distinct.2 behind with ⟨entered, newer⟩ | ⟨member, older⟩
        · refine .inl ⟨entered, fun other member same => ?_⟩
          rcases List.mem_cons.mp member with rfl | later
          · exact absurd same found
          · exact newer other later same
        · exact .inr ⟨List.mem_cons_of_mem _ member, older⟩

/-- A reading of the set that is the latest of its room, and the last of those equally late. -/
structure IsLatest (readings : List Reading) (latest : Reading) : Prop where
  newest : ∀ reading ∈ readings, reading.room = latest.room →
    reading.time.rank ≤ latest.time.rank
  last : ∃ before behind, readings = before ++ latest :: behind
    ∧ ∀ reading ∈ behind, reading.room = latest.room → reading.time ≠ latest.time

namespace IsLatest

/-- The latest reading of a room is one of the readings. -/
theorem mem (own : IsLatest readings latest) : latest ∈ readings := by
  -- It stands between those before it and those behind it.
  obtain ⟨before, behind, rfl, -⟩ := own.last
  simp

/-- The latest reading stays the latest when one is added that is older or of another room. -/
theorem append (own : IsLatest readings latest)
    (older : latest.room = reading.room → ¬ olderFirst latest reading) :
    IsLatest (readings ++ [reading]) latest := by
  simp only [olderFirst_iff, Int.not_le] at older
  obtain ⟨before, behind, rfl, none⟩ := own.last
  refine ⟨fun other member same => ?_, before, behind ++ [reading], by simp,
    fun other member same => ?_⟩
  -- The new reading is older, or of another room.
  · rcases List.mem_append.mp member with old | new
    · exact own.newest other old same
    · obtain rfl := List.mem_singleton.mp new
      exact Int.le_of_lt (older same.symm)
  -- If it is of the room, its time is not that of the latest reading.
  · rcases List.mem_append.mp member with old | new
    · exact none other old same
    · obtain rfl := List.mem_singleton.mp new
      exact fun equal => Int.lt_irrefl _ (equal ▸ older same.symm)

/-- Two readings of a room are not both its latest one. -/
theorem unique {other : Reading} (own : IsLatest readings latest) (own' : IsLatest readings other)
    (same : latest.room = other.room) : latest = other := by
  -- Neither is later than the other, and times of one rank are the same time.
  have time : latest.time = other.time := Instant.eq_of_rank_eq <| Int.le_antisymm
    (own'.newest latest own.mem same) (own.newest other own'.mem same.symm)
  obtain ⟨before, behind, rfl, none⟩ := own.last
  obtain ⟨before', behind', split, none'⟩ := own'.last
  -- Whichever of the two stood behind the other would be one that must not stand there.
  rcases List.append_eq_append_iff.mp split with ⟨between, -, rest⟩ | ⟨between, -, rest⟩
  · rcases between with - | ⟨first, between⟩
    · exact (List.cons.inj rest).1
    · obtain ⟨rfl, rfl⟩ := List.cons.inj rest
      exact absurd time.symm (none other (by simp) same.symm)
  · rcases between with - | ⟨first, between⟩
    · exact (List.cons.inj rest).1.symm
    · obtain ⟨rfl, rfl⟩ := List.cons.inj rest
      exact absurd time (none' latest (by simp) same)

end IsLatest

/-- What is listed for a room is the latest one of its readings. -/
theorem isLatest_of_mem (listed : latest ∈ latestPerRoom readings) : IsLatest readings latest := by
  -- Readings are entered at the end, so the induction goes from the end as well.
  induction readings using List.reverseRecOn generalizing latest with
  | nil => cases listed
  | append_singleton readings reading ih =>
    -- No room is listed twice, which is what entering a reading relies on.
    have distinct : ((latestPerRoom readings).map Reading.room).Nodup :=
      rooms_latestPerRoom readings ▸ nodup_distinctRooms readings
    rw [latestPerRoom, List.foldl_append] at listed
    rcases mem_keepLatest distinct listed with ⟨rfl, newer⟩ | ⟨kept, older⟩
    · refine ⟨fun other member same => ?_, readings, [], rfl, by simp⟩
      rcases List.mem_append.mp member with old | new
      · -- The room had a latest reading, which was entered over.
        have seen : other.room ∈ (latestPerRoom readings).map Reading.room :=
          rooms_latestPerRoom readings ▸ mem_distinctRooms.mpr ⟨other, old, rfl⟩
        obtain ⟨top, kept, room⟩ := List.mem_map.mp seen
        have below := (ih kept).newest other old room.symm
        have above := (olderFirst_iff _ _).mp (newer top kept (room.trans same))
        exact Int.le_trans below above
      · obtain rfl := List.mem_singleton.mp new
        exact Int.le_refl _
    -- Another reading stays the latest, since the new one is older or of another room.
    · exact (ih kept).append older

/-- A list with the latest reading of each room, rooms in order of first appearance. -/
structure HoldsLatest (readings results : List Reading) : Prop where
  rooms : ∀ room, room ∈ results.map Reading.room ↔ room ∈ readings.map Reading.room
  once : (results.map Reading.room).Nodup
  inOrder : (results.map Reading.room).Pairwise (AppearsBefore readings)
  latest : ∀ result ∈ results, IsLatest readings result

/-- The latest readings are the latest of each room, once each and in order. -/
theorem holdsLatest_latestPerRoom (readings : List Reading) :
    HoldsLatest readings (latestPerRoom readings) where
  rooms room := by
    rw [rooms_latestPerRoom, mem_distinctRooms, List.mem_map]
  once := rooms_latestPerRoom readings ▸ nodup_distinctRooms readings
  inOrder := rooms_latestPerRoom readings ▸ pairwise_distinctRooms readings
  latest _ := isLatest_of_mem

/-- Lists are equal when their images are and what has one image is one thing. -/
theorem eq_of_map_eq {α β : Type} {image : α → β} {first second : List α}
    (same : first.map image = second.map image)
    (unique : ∀ a ∈ first, ∀ b ∈ second, image a = image b → a = b) : first = second := by
  induction first generalizing second with
  -- Only an empty list has an empty image.
  | nil => exact (List.map_eq_nil_iff.mp same.symm).symm
  | cons a first ih =>
    -- The first elements are the same by uniqueness, and the others by induction.
    obtain ⟨b, second, rfl, here, rest⟩ := List.map_eq_cons_iff.mp same.symm
    rw [unique a (by simp) b (by simp) here.symm, ih rest.symm fun a memberA b memberB =>
      unique a (List.mem_cons_of_mem _ memberA) b (List.mem_cons_of_mem _ memberB)]

/-- There is one such list: the rooms with their order and the latest reading of each fix it. -/
theorem HoldsLatest.unique {first second : List Reading} (held : HoldsLatest readings first)
    (held' : HoldsLatest readings second) : first = second := by
  -- The rooms are the same ones, and in the same order.
  have rooms : first.map Reading.room = second.map Reading.room :=
    eq_of_appearsBefore held.once held'.once held.inOrder held'.inOrder fun room => by
      rw [held.rooms, held'.rooms]
  exact eq_of_map_eq rooms fun a memberA b memberB =>
    (held.latest a memberA).unique (held'.latest b memberB)

/--
The latest readings are exactly those of each room.

Each room of the readings is there once, where it first appears.
Its reading is the latest one, and of the equally late ones the last.
No other list is like that.
-/
theorem eq_latestPerRoom_iff (readings results : List Reading) :
    results = latestPerRoom readings ↔ HoldsLatest readings results := by
  constructor
  · rintro rfl
    -- Both directions need only that the latest readings are such a list.
    exact holdsLatest_latestPerRoom readings
  · exact fun held => held.unique (holdsLatest_latestPerRoom readings)

end RoomAir.Projection
