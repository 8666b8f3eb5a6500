import RoomAir.Proofs.Projection.Order

/-! The selected readings, newest first: which they are, and that none is newer than the first. -/

namespace RoomAir.Projection

variable {readings : List Reading} {filter : RoomFilter}

/-- The rows are the selected readings in some order. -/
theorem newestFirst_perm (readings : List Reading) (filter : RoomFilter) :
    (newestFirst readings filter).Perm (readings.filter filter.accepts) :=
  List.mergeSort_perm ..

/-- A reading is among the rows when it is selected. -/
theorem mem_newestFirst {reading : Reading} :
    reading ∈ newestFirst readings filter ↔ reading ∈ readings ∧ filter.accepts reading = true := by
  -- Sorting neither adds rows nor loses any.
  rw [(newestFirst_perm readings filter).mem_iff, List.mem_filter]

/-- Being no earlier carries over along a chain of readings. -/
theorem newerFirst_trans (a b c : Reading) (first : newerFirst a b) (second : newerFirst b c) :
    newerFirst a c :=
  olderFirst_trans c b a second first

/-- Of two readings one is no earlier than the other. -/
theorem newerFirst_total (a b : Reading) : newerFirst a b || newerFirst b a :=
  olderFirst_total b a

/-- Selected readings of one rank keep their order among the rows. -/
theorem filter_rank_newestFirst (readings : List Reading) (filter : RoomFilter) (rank : Int) :
    (newestFirst readings filter).filter (·.time.rank = rank)
      = (readings.filter filter.accepts).filter (·.time.rank = rank) := by
  -- Readings of one rank may stand in either order, so a stable sort leaves them alone.
  refine filter_mergeSort newerFirst_trans newerFirst_total _ fun a b rankA rankB => ?_
  rw [newerFirst, ← olderFirst, olderFirst_iff]
  simp only [decide_eq_true_eq] at rankA rankB
  omega

/-- The filter of all rooms picks out every reading. -/
theorem filter_accepts_all (readings : List Reading) :
    readings.filter RoomFilter.all.accepts = readings :=
  List.filter_eq_self.mpr fun _ _ => rfl

/-- The readings of a room are those that its filter accepts. -/
theorem accepts_room {room : String} {reading : Reading} :
    (RoomFilter.room room).accepts reading = true ↔ reading.room = room := by
  simp [RoomFilter.accepts]

/-- The filter of a room picks out the readings of that room. -/
theorem filter_accepts_room (readings : List Reading) (room : String) :
    readings.filter (RoomFilter.room room).accepts = readings.filter (·.room = room) :=
  List.filter_congr fun reading _ => by simp [RoomFilter.accepts, beq_eq_decide]

/-- From one row to the next time never goes forward. -/
theorem newestFirst_pairwise (readings : List Reading) (filter : RoomFilter) :
    (newestFirst readings filter).Pairwise fun a b => b.time.rank ≤ a.time.rank := by
  -- The order is the one of rising time, read from the other side.
  have ordered : (newestFirst readings filter).Pairwise (newerFirst · ·) :=
    List.pairwise_mergeSort newerFirst_trans newerFirst_total _
  exact ordered.imp fun newer => (olderFirst_iff _ _).mp newer

/-- No selected reading is newer than the first row. -/
theorem rank_le_of_head? {first reading : Reading}
    (top : (newestFirst readings filter).head? = some first) (member : reading ∈ readings)
    (selected : filter.accepts reading = true) : reading.time.rank ≤ first.time.rank := by
  -- The first row is split off, and the others are no newer than it.
  obtain ⟨rows, split⟩ := List.head?_eq_some_iff.mp top
  have ordered := newestFirst_pairwise readings filter
  have found := mem_newestFirst.mpr ⟨member, selected⟩
  rw [split] at ordered found
  rcases List.mem_cons.mp found with rfl | behind
  · exact Int.le_refl _
  · exact List.rel_of_pairwise_cons ordered behind

end RoomAir.Projection
