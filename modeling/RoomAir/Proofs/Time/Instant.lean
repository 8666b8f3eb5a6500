import Mathlib.Data.List.Pairwise
import RoomAir.Time.Instant

/-! The order of instants against their milliseconds, which a leap second shares with the next. -/

namespace RoomAir.Instant

/-- Instants are told apart by their place in time. -/
theorem eq_of_rank_eq {a b : Instant} (same : a.rank = b.rank) : a = b := by
  obtain ⟨minute, second, nanosecond⟩ := a
  obtain ⟨minute', second', nanosecond'⟩ := b
  simp only [rank] at same
  -- Seconds and nanoseconds stay within their range, so each part can be read off the rank.
  have minutes : minute = minute' := by omega
  have seconds : second = second' := by omega
  have nanoseconds : nanosecond = nanosecond' := by omega
  rw [minutes, seconds, nanoseconds]

/-- In milliseconds a leap second begins where the next minute begins. -/
theorem milliseconds_eq (time : Instant) :
    time.milliseconds
      = (time.minute * 60 + time.second.val) * 1000 + (time.nanosecond.val / 1000000 : Nat) := by
  have second := time.second.isLt
  -- Within a leap second the nanoseconds begin at a whole second, and the second at the one before.
  by_cases leap : time.second.val = 60
  · simp only [milliseconds, unixSeconds, nanosecondsPast, leap, if_true]
    omega
  · simp only [milliseconds, unixSeconds, nanosecondsPast, leap, if_false]
    omega

/-- An instant in a leap second is further into it than a later one is into the second after it. -/
structure Overruns (earlier later : Instant) : Prop where
  leap : earlier.second.val = 60
  minute : later.minute = earlier.minute + 1
  second : later.second.val = 0
  millisecond : later.nanosecond.val / 1000000 < earlier.nanosecond.val / 1000000

/-- Milliseconds go back from an instant to a later one only where a leap second is overrun. -/
theorem overruns_iff (a b : Instant) :
    a.Overruns b ↔ a.rank ≤ b.rank ∧ b.milliseconds < a.milliseconds := by
  -- All parts of both instants are bounded, so the rest is linear arithmetic.
  have bounds := a.second.isLt
  have bounds' := b.second.isLt
  have fraction := a.nanosecond.isLt
  have fraction' := b.nanosecond.isLt
  rw [milliseconds_eq, milliseconds_eq, rank, rank]
  constructor
  · rintro ⟨leap, minute, second, millisecond⟩
    omega
  · rintro ⟨ordered, back⟩
    constructor <;> omega

/-- Neither of two instants overruns the other, whichever of them is the later one. -/
def Apart (a b : Instant) : Prop :=
  ¬ a.Overruns b ∧ ¬ b.Overruns a

instance : Std.Symm Apart :=
  ⟨fun _ _ both => both.symm⟩

/-- Instants are apart when neither their order nor their milliseconds go back. -/
theorem apart_of_le {a b : Instant} (ordered : a.rank ≤ b.rank)
    (forward : a.milliseconds ≤ b.milliseconds) : a.Apart b := by
  -- Overrunning is being in order and going back, so neither of the two can be.
  rw [Apart, overruns_iff, overruns_iff]
  refine ⟨by omega, fun ⟨back, ahead⟩ => ?_⟩
  -- Instants that are each no later than the other are the same.
  obtain rfl := eq_of_rank_eq (Int.le_antisymm ordered back)
  omega

/-- Along instants in order the milliseconds never go back, unless one of them overruns another. -/
theorem pairwise_milliseconds_iff {times : List Instant}
    (ordered : times.Pairwise fun a b => a.rank ≤ b.rank) :
    (times.Pairwise fun a b => a.milliseconds ≤ b.milliseconds)
      ↔ ∀ a ∈ times, ∀ b ∈ times, ¬ a.Overruns b := by
  constructor
  · intro forward a memberA b memberB
    -- Being apart goes both ways, so it holds of any two places in the list.
    have apart : times.Pairwise Apart :=
      (ordered.and forward).imp fun both => apart_of_le both.1 both.2
    have own : ∀ a ∈ times, a.Apart a := fun a _ => apart_of_le (Int.le_refl _) (Int.le_refl _)
    exact (apart.forall_of_forall own memberA memberB).1
  -- Of two instants in order the first one overruns the second, or the milliseconds rise.
  · intro none
    refine ordered.imp_of_mem fun {a b} memberA memberB below => ?_
    have clear := none a memberA b memberB
    rw [overruns_iff, not_and, Int.not_lt] at clear
    exact clear below

end RoomAir.Instant
