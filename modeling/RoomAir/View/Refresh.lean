import RoomAir.Source.Feed
import RoomAir.View.Basic

/-! Refreshes: when the reading set is fetched again and what each fetch changes on the page. -/

namespace RoomAir

/-- One finished refresh of a page. -/
structure Refresh where
  /-- When its fetch began and ended, in milliseconds from the opening of the page. -/
  started : Nat
  finished : Nat
  /-- What the page is sent, which is nothing after a failed fetch. -/
  update : Option ViewUpdate
  notices : List Notice

/-- All refreshes of a page up to a moment. -/
structure RefreshRun where
  refreshes : List Refresh
  /-- How many fetches have begun, one that is still running included. -/
  calls : Nat
  /-- The view as the last refresh left it. -/
  view : View

namespace Refresh

/-- How late a tick may be taken and still count as taken in time, in milliseconds. -/
def tolerance : Nat := 5

/-- The deadline after a tick: one period on, or after one that was late by more than is allowed
the next multiple ahead. -/
def nextDeadline (allowed period deadline now : Nat) : Nat :=
  if deadline + allowed < now then now + period - (now - deadline) % period
  else deadline + period

/-- When fetches begin and end: each begins at its deadline, or when the one before it ends. -/
def times (allowed period : Nat) : Nat → Nat → List Nat → List (Nat × Nat)
  | _, _, [] => []
  | deadline, free, delay :: delays =>
    -- A fetch that is still running holds up the next one.
    let start := max deadline free
    (start, start + delay) ::
      times allowed period (nextDeadline allowed period deadline start) (start + delay) delays

/-- What one fetch makes of a view: an update after success, and after failure only a notice. -/
def attempt? (feed : String) (view : View) (fetch : Fetch) :
    Option (View × Option ViewUpdate × List Notice) :=
  match fetch.outcome with
  | .error error =>
    -- The view goes on as it was, so the page keeps what it shows.
    some (view, none, fetch.report feed ++ [.refreshFailed view.page error])
  | .ok readings =>
    (view.refresh? readings).map fun (view, update, disposals) =>
      (view, some update, fetch.report feed ++ disposals)

/-- The refreshes that finished fetches make, one after the other. -/
def all? (feed : String) : View → List (Fetch × Nat × Nat) → Option (List Refresh × View)
  | view, [] => some ([], view)
  | view, (fetch, started, finished) :: later => do
    let (view, update, notices) ← attempt? feed view fetch
    let (refreshes, view) ← all? feed view later
    some ({ started, finished, update, notices } :: refreshes, view)

/-- Whether a timer can tick in a period of so many milliseconds.

The period has to be some time, and the clock has to hold the first deadline: it counts the seconds
from the opening of a page in 63 bits.
-/
def IsPeriod (period : Nat) : Prop :=
  0 < period ∧ period < 2 ^ 63 * 1000
  deriving Decidable

/-- The refreshes of a view up to a moment, if the timer ticks and every table can be rendered. -/
def run? (feed : Feed) (view : View) (period limit : Nat) : Option RefreshRun := do
  guard (IsPeriod period)
  -- No two fetches begin in one period, so this many are enough.
  let fetches := feed.take (limit / period + 1)
  let timed := fetches.zip (times tolerance period period 0 (fetches.map Fetch.delay))
  let begun := timed.takeWhile fun (_, started, _) => decide (started ≤ limit)
  let ended := begun.takeWhile fun (_, _, finished) => decide (finished ≤ limit)
  let (refreshes, view) ← all? feed.name view ended
  some { refreshes, view, calls := begun.length }

end Refresh

end RoomAir
