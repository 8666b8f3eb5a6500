import RoomAir.Proofs.Projection.Newest
import RoomAir.Proofs.Time.Instant

/-! Readings sorted by time, one way or the other: both orders are stable, and so fixed. -/

namespace RoomAir.Projection

/-- The readings in time order, those of one time in the order they had. -/
structure StablySorted (readings sorted : List Reading) : Prop where
  perm : sorted.Perm readings
  ordered : sorted.Pairwise fun a b => a.time.rank ≤ b.time.rank
  stable : ∀ rank, sorted.filter (·.time.rank = rank) = readings.filter (·.time.rank = rank)

/-- Sorting by time is stable. -/
theorem stablySorted_ascending (readings : List Reading) :
    StablySorted readings (ascending readings) where
  perm := List.mergeSort_perm ..
  ordered := (ascending_pairwise readings).imp fun older => (olderFirst_iff _ _).mp older
  stable := filter_rank_ascending readings

/-- The first of a list in time order is no later than any reading of its times. -/
theorem rank_le_of_ordered {first reading : Reading} {sorted others : List Reading}
    (ordered : (first :: sorted).Pairwise fun a b => a.time.rank ≤ b.time.rank)
    (same : ∀ rank, (first :: sorted).filter (·.time.rank = rank)
      = others.filter (·.time.rank = rank))
    (member : reading ∈ others) : first.time.rank ≤ reading.time.rank := by
  -- The reading is among those of its rank, and so it is in the ordered list.
  have found : reading ∈ others.filter (·.time.rank = reading.time.rank) := by simp [member]
  rw [← same] at found
  rcases List.mem_cons.mp (List.mem_of_mem_filter found) with rfl | behind
  · exact Int.le_refl _
  · exact List.rel_of_pairwise_cons ordered behind

/-- Readings in time order are fixed by what they are rank by rank. -/
theorem eq_of_filter_rank {first second : List Reading}
    (ordered : first.Pairwise fun a b => a.time.rank ≤ b.time.rank)
    (ordered' : second.Pairwise fun a b => a.time.rank ≤ b.time.rank)
    (same : ∀ rank, first.filter (·.time.rank = rank) = second.filter (·.time.rank = rank)) :
    first = second := by
  induction first generalizing second with
  | nil =>
    cases second with
    | nil => rfl
    -- The first reading of the second list would be of no rank.
    | cons b second => simpa using same b.time.rank
  | cons a first ih =>
    cases second with
    -- The first reading of the first list would be of no rank.
    | nil => simpa using same a.time.rank
    | cons b second =>
      -- Each of the two leading readings is no later than the other.
      have rank : a.time.rank = b.time.rank := Int.le_antisymm
        (rank_le_of_ordered ordered same (by simp))
        (rank_le_of_ordered ordered' (fun rank => (same rank).symm) (by simp))
      -- Of the readings of this rank the leading ones are the first, so they are the same.
      have leading := same b.time.rank
      simp only [List.filter_cons, rank, decide_true, if_true] at leading
      obtain ⟨rfl, -⟩ := List.cons.inj leading
      rw [ih ordered.of_cons ordered'.of_cons fun rank => ?_]
      -- The readings behind are the same rank by rank, with the leading one taken away.
      have here := same rank
      simp only [List.filter_cons] at here
      split at here
      · exact (List.cons.inj here).2
      · exact here

/-- There is only one way to sort readings by time stably. -/
theorem StablySorted.eq_ascending {readings sorted : List Reading}
    (held : StablySorted readings sorted) : sorted = ascending readings :=
  eq_of_filter_rank held.ordered (stablySorted_ascending readings).ordered fun rank =>
    (held.stable rank).trans (filter_rank_ascending readings rank).symm

section

variable (readings : List Reading) (filter : RoomFilter)

/-- The rows sorted back into time order are the selected readings sorted once. -/
theorem ascending_newestFirst :
    ascending (newestFirst readings filter) = ascending (readings.filter filter.accepts) := by
  refine StablySorted.eq_ascending
    { perm := (List.mergeSort_perm ..).trans (newestFirst_perm readings filter)
      ordered := (stablySorted_ascending _).ordered
      stable := fun rank => ?_ }
  -- Neither of the two sorts moves readings of one rank past each other.
  rw [filter_rank_ascending, filter_rank_newestFirst]

/-- Sorted back into time order, the rows have their times in reverse. -/
theorem times_ascending_newestFirst :
    (ascending (newestFirst readings filter)).map Reading.time
      = ((newestFirst readings filter).map Reading.time).reverse := by
  have forward : ((ascending (newestFirst readings filter)).map Reading.time).Pairwise
      fun a b => a.rank ≤ b.rank :=
    List.pairwise_map.mpr (stablySorted_ascending _).ordered
  have backward : ((newestFirst readings filter).map Reading.time).reverse.Pairwise
      fun a b => a.rank ≤ b.rank := by
    rw [List.pairwise_reverse, List.pairwise_map]
    exact newestFirst_pairwise readings filter
  -- Both sides hold the same times in order, and times that rank alike are the same.
  refine List.Perm.eq_of_pairwise (fun a b _ _ below above => ?_) forward backward ?_
  · exact Instant.eq_of_rank_eq (Int.le_antisymm below above)
  · exact ((List.mergeSort_perm ..).map _).trans (List.reverse_perm _).symm

end

/-! ## Newest first -/

/-- The readings from the newest to the oldest, those of one time in the order they had. -/
structure NewestOnTop (readings rows : List Reading) : Prop where
  perm : rows.Perm readings
  ordered : rows.Pairwise fun a b => b.time.rank ≤ a.time.rank
  stable : ∀ rank, rows.filter (·.time.rank = rank) = readings.filter (·.time.rank = rank)

/-- The rows are the selected readings from the newest to the oldest. -/
theorem newestOnTop_newestFirst (readings : List Reading) (filter : RoomFilter) :
    NewestOnTop (readings.filter filter.accepts) (newestFirst readings filter) where
  perm := newestFirst_perm readings filter
  ordered := newestFirst_pairwise readings filter
  stable := filter_rank_newestFirst readings filter

namespace NewestOnTop

variable {readings rows : List Reading}

/-- There is only one way to put the newest readings on top. -/
theorem unique {rows' : List Reading} (held : NewestOnTop readings rows)
    (held' : NewestOnTop readings rows') : rows = rows' := by
  -- Read from below, both lists are in time order.
  refine List.reverse_injective (eq_of_filter_rank (List.pairwise_reverse.mpr held.ordered)
    (List.pairwise_reverse.mpr held'.ordered) fun rank => ?_)
  rw [List.filter_reverse, List.filter_reverse, held.stable, held'.stable]

/-- The order is kept when some of the readings are picked out. -/
theorem filter (held : NewestOnTop readings rows) (keep : Reading → Bool) :
    NewestOnTop (readings.filter keep) (rows.filter keep) where
  perm := held.perm.filter keep
  ordered := held.ordered.filter keep
  stable rank := by
    -- Picking out and picking by rank may be done in either order.
    rw [List.filter_comm, held.stable, List.filter_comm]

end NewestOnTop

/-- The rows of a selection are picked out of the rows of all readings. -/
theorem newestFirst_eq_filter (readings : List Reading) (filter : RoomFilter) :
    newestFirst readings filter = (newestFirst readings .all).filter filter.accepts := by
  have all := newestOnTop_newestFirst readings .all
  -- Of all readings every one is selected.
  rw [filter_accepts_all] at all
  exact (newestOnTop_newestFirst readings filter).unique (all.filter filter.accepts)

/--
The rows are exactly the selected readings from the newest to the oldest.

Readings of one time stay in their order, and no other list is like that.
Whether a room is selected before the readings are sorted or after makes no difference.
-/
theorem eq_newestFirst_iff (readings : List Reading) :
    (∀ filter rows, rows = newestFirst readings filter
      ↔ NewestOnTop (readings.filter filter.accepts) rows)
    ∧ ∀ room, newestFirst readings (.room room)
        = (newestFirst readings .all).filter (·.room = room) := by
  refine ⟨fun filter rows => ⟨?_, ?_⟩, fun room => ?_⟩
  · rintro rfl
    exact newestOnTop_newestFirst readings filter
  · exact fun held => held.unique (newestOnTop_newestFirst readings filter)
  -- The rows of all readings are filtered instead of the readings.
  · rw [newestFirst_eq_filter, filter_accepts_room]

end RoomAir.Projection
