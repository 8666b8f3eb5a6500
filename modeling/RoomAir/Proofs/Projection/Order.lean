import Mathlib.Data.List.Basic
import RoomAir.Projection

/-! The order of readings in time: sorting is stable, and what it puts last. -/

namespace RoomAir.Projection

/-- One reading is no later than another exactly when its instant does not rank above. -/
theorem olderFirst_iff (a b : Reading) : olderFirst a b = true ↔ a.time.rank ≤ b.time.rank := by
  simp [olderFirst, Instant.notAfter]

/-- Being no later carries over along a chain of readings. -/
theorem olderFirst_trans (a b c : Reading) (first : olderFirst a b) (second : olderFirst b c) :
    olderFirst a c := by
  -- The ranks are compared as integers.
  rw [olderFirst_iff] at *
  omega

/-- Of two readings one is no later than the other. -/
theorem olderFirst_total (a b : Reading) : olderFirst a b || olderFirst b a := by
  -- Of two integers one is no greater than the other.
  rw [Bool.or_eq_true, olderFirst_iff, olderFirst_iff]
  omega

/-- Sorting by time loses no reading and adds none. -/
theorem mem_ascending {reading : Reading} {readings : List Reading} :
    reading ∈ ascending readings ↔ reading ∈ readings :=
  List.mem_mergeSort

/-- Readings sorted by time never go back. -/
theorem ascending_pairwise (readings : List Reading) :
    (ascending readings).Pairwise (olderFirst · ·) :=
  List.pairwise_mergeSort olderFirst_trans olderFirst_total readings

/-- Sorting is stable: elements that may stand in either order keep the one they have. -/
theorem filter_mergeSort {α : Type} {le : α → α → Bool} {list : List α}
    (trans : ∀ a b c, le a b → le b c → le a c) (total : ∀ a b, le a b || le b a)
    (keep : α → Bool) (tied : ∀ a b, keep a → keep b → le a b) :
    (list.mergeSort le).filter keep = list.filter keep := by
  -- What is kept is in order already, so the sort keeps it as a sublist.
  have ordered : (list.filter keep).Pairwise (le · ·) :=
    List.pairwise_of_forall_mem_list fun a memberA b memberB =>
      tied a b (List.mem_filter.mp memberA).2 (List.mem_filter.mp memberB).2
  have kept : (list.filter keep).Sublist (list.mergeSort le) :=
    List.sublist_mergeSort trans total ordered List.filter_sublist
  have within := kept.filter keep
  simp only [List.filter_filter, Bool.and_self] at within
  -- Both sides are equally long, so the sublist is the whole.
  have same := (List.mergeSort_perm list le).filter keep
  exact (within.eq_of_length same.length_eq.symm).symm

/-- Readings of one rank keep their order when readings are sorted by time. -/
theorem filter_rank_ascending (readings : List Reading) (rank : Int) :
    (ascending readings).filter (·.time.rank = rank) = readings.filter (·.time.rank = rank) := by
  -- Readings of one rank may stand in either order.
  refine filter_mergeSort olderFirst_trans olderFirst_total _ fun a b rankA rankB => ?_
  rw [olderFirst_iff]
  simp only [decide_eq_true_eq] at rankA rankB
  omega

/-- The last element stays last when only elements like it are kept. -/
theorem getLast?_filter {α : Type} {list : List α} {last : α} (keep : α → Bool)
    (ends : list.getLast? = some last) (kept : keep last) :
    (list.filter keep).getLast? = some last := by
  -- The filter keeps the last element, with whatever it keeps before it.
  obtain ⟨front, rfl⟩ := List.getLast?_eq_some_iff.mp ends
  simp [List.filter_append, kept]

/-- No reading is later than the one that sorting puts last. -/
theorem olderFirst_getLast {readings : List Reading} {last reading : Reading}
    (ends : (ascending readings).getLast? = some last) (member : reading ∈ readings) :
    olderFirst reading last := by
  -- The last reading is split off, and the others are sorted before it.
  obtain ⟨front, split⟩ := List.getLast?_eq_some_iff.mp ends
  have ordered := ascending_pairwise readings
  have found := mem_ascending.mpr member
  rw [split] at ordered found
  -- Everything before the last one is no later by the order of the list.
  rcases List.mem_append.mp found with before | atEnd
  · exact (List.pairwise_append.mp ordered).2.2 reading before last (by simp)
  · have same := List.mem_singleton.mp atEnd
    exact (olderFirst_iff _ _).mpr (same ▸ Int.le_refl _)

end RoomAir.Projection
