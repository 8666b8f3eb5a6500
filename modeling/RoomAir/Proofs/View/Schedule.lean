import Mathlib.Data.Nat.Find
import Mathlib.Order.Monotone.Basic
import RoomAir.Proofs.Number.Digits
import RoomAir.Proofs.View.FailedRefresh
import RoomAir.Settings

/-! Refreshes keep to their schedule: one in each period at most, none over another. -/

namespace RoomAir

/-- When fetches begin that take so long and of which none may overlap another. -/
structure Schedule (period : Nat) (delay start : Nat → Nat) : Prop where
  first : start 0 = period
  /-- A fetch begins at the next multiple of the period, or when a longer fetch before it ends. -/
  next : ∀ i, start (i + 1) = max (start i + delay i) (period * (start i / period + 1))
  apart : ∀ i, start i + delay i ≤ start (i + 1)
  onePerPeriod : ∀ i j, start i / period = start j / period → i = j
  /-- At every multiple of the period a fetch begins, or one is still running. -/
  everyMultiple : ∀ k, 0 < k → (∃ i, start i = k * period)
    ∨ ∃ i, start i < k * period ∧ k * period < start i + delay i

namespace Refresh

section Starts

variable (period : Nat) (delay : Nat → Nat)

/-- When each fetch begins that takes so long. -/
def start : Nat → Nat
  | 0 => period
  | i + 1 => max (start i + delay i) (period * (start i / period + 1))

variable {period delay}

/-! ## The ticks of the timer -/

/-- After a tick the deadline is the next multiple of the period, whether or not it was late. -/
theorem nextDeadline_eq {allowed deadline now : Nat} (short : allowed < period)
    (multiple : period ∣ deadline) (reached : deadline ≤ now) :
    nextDeadline allowed period deadline now = period * (now / period + 1) := by
  obtain ⟨count, rfl⟩ := multiple
  have positive : 0 < period := by omega
  -- The tick is late by what is past, of which whole periods are skipped.
  obtain ⟨past, rfl⟩ := Nat.exists_eq_add_of_le reached
  have whole : (period * count + past) / period = count + past / period :=
    Nat.mul_add_div positive ..
  have split := Nat.div_add_mod past period
  rw [nextDeadline, whole, Nat.add_sub_cancel_left, Nat.mul_add, Nat.mul_add, Nat.mul_one]
  split
  case isTrue late => omega
  case isFalse inTime =>
    -- A tick in time is taken before the period is over.
    rw [Nat.div_eq_of_lt (by omega)]
    omega

/-- The fetches begin and end as scheduled from any of them on. -/
theorem times_range' {allowed : Nat} (short : allowed < period) (count : Nat) :
    ∀ {i deadline free : Nat}, period ∣ deadline → max deadline free = start period delay i →
      times allowed period deadline free ((List.range' i count).map delay)
        = (List.range' i count).map fun i =>
            (start period delay i, start period delay i + delay i) := by
  -- The induction is on the number of fetches, and each one hands on a deadline and an end.
  induction count with
  | zero => intros; rfl
  | succ count ih =>
    intro i deadline free multiple begins
    have reached : deadline ≤ start period delay i := begins ▸ Nat.le_max_left ..
    rw [List.range'_succ, List.map_cons, List.map_cons, times, begins,
      nextDeadline_eq short multiple reached]
    -- The deadline stays a multiple of the period, and that carries the rest.
    rw [ih (Nat.dvd_mul_right ..) (Nat.max_comm ..)]

/-- All fetches begin and end as scheduled. -/
theorem times_eq {allowed : Nat} (short : allowed < period) (count : Nat) :
    times allowed period period 0 ((List.range count).map delay)
      = (List.range count).map fun i =>
          (start period delay i, start period delay i + delay i) := by
  rw [List.range_eq_range']
  exact times_range' short count (Nat.dvd_refl _) (Nat.max_zero _)

/-! ## What the schedule promises -/

/-- From one fetch to the next at least one multiple of the period goes by. -/
theorem start_div_lt (positive : 0 < period) (i : Nat) :
    start period delay i / period < start period delay (i + 1) / period := by
  -- The next fetch waits at least for the first multiple behind the one before it.
  rw [Nat.lt_iff_add_one_le, Nat.le_div_iff_mul_le positive, start, Nat.mul_comm]
  exact Nat.le_max_right ..

/-- Before each fetch as many periods go by as there are fetches up to it. -/
theorem lt_start_div (positive : 0 < period) (i : Nat) : i < start period delay i / period := by
  -- Before the first fetch one period goes by, and at least one more before each later one.
  induction i with
  | zero => rw [start, Nat.div_self positive]; exact Nat.one_pos
  | succ i ih => exact Nat.lt_of_le_of_lt ih (start_div_lt positive i)

/-- No fetch begins before the one before it has ended. -/
theorem le_start_succ (i : Nat) :
    start period delay i + delay i ≤ start period delay (i + 1) := by
  rw [start]
  exact Nat.le_max_left ..

/-- Of moments that come one after the other and pass every limit, the first ones are within it. -/
theorem exists_count {moment : Nat → Nat} (ordered : Monotone moment)
    (unbounded : ∀ i, i < moment i) (limit : Nat) : ∃ count, ∀ i, i < count ↔ moment i ≤ limit := by
  have passed : ∃ i, limit < moment i := ⟨limit, unbounded limit⟩
  -- The first moment that passes the limit separates those within it from the others.
  refine ⟨Nat.find passed, fun i => ⟨fun before => ?_, fun within => ?_⟩⟩
  · exact Nat.not_lt.mp (Nat.find_min passed before)
  · by_contra after
    have later := ordered (Nat.not_lt.mp after)
    have beyond := Nat.find_spec passed
    omega

/-- Fetches that start at most once a period pass every moment. -/
theorem lt_start (positive : 0 < period) (i : Nat) : i < start period delay i :=
  Nat.lt_of_lt_of_le (lt_start_div positive i) (Nat.div_le_self ..)

/-- Later fetches start later. -/
theorem monotone_start : Monotone (start period delay) :=
  monotone_nat_of_le_succ fun i => Nat.le_trans (Nat.le_add_right ..) (le_start_succ i)

/-- The start times are on schedule. -/
theorem schedule_start (positive : 0 < period) : Schedule period delay (start period delay) where
  first := rfl
  next _ := rfl
  apart := le_start_succ
  onePerPeriod i j same := by
    -- The periods that fetches fall into only rise, so no two fetches share one.
    have increasing : StrictMono fun i => start period delay i / period :=
      strictMono_nat_of_lt_succ (start_div_lt positive)
    exact increasing.injective same
  everyMultiple k some := by
    have ordered : Monotone (start period delay) := monotone_start
    -- Some fetches have begun by the multiple, and only the last of them matters.
    obtain ⟨count, within⟩ := exists_count ordered (lt_start positive) (k * period)
    have begun : 0 < count := (within 0).mpr (by rw [start]; exact Nat.le_mul_of_pos_left _ some)
    obtain ⟨i, rfl⟩ : ∃ i, count = i + 1 := ⟨count - 1, by omega⟩
    -- The last fetch that has begun by then is still running, or it begins at that very moment.
    have before := (within i).mp (Nat.lt_succ_self i)
    have after := (not_congr (within (i + 1))).mp (Nat.lt_irrefl _)
    rcases Nat.lt_or_ge (k * period) (start period delay i + delay i) with running | ended
    · rcases Nat.lt_or_eq_of_le before with inside | same
      · exact .inr ⟨i, inside, running⟩
      · exact .inl ⟨i, same⟩
    · refine .inl ⟨i, Nat.le_antisymm before ?_⟩
      -- Nothing else can hold up the next fetch than a multiple that comes later.
      have later : k * period < period * (start period delay i / period + 1) := by
        rw [start, Nat.max_le, not_and] at after
        exact Nat.not_le.mp (after ended)
      rw [Nat.mul_comm period] at later
      -- The fetch is in the last period before the multiple, so it begins at the multiple or later.
      have index := Nat.lt_of_mul_lt_mul_right later
      exact (Nat.le_div_iff_mul_le positive).mp (Nat.le_of_lt_succ index)

end Starts

end Refresh

/-! ## The fetches of a feed -/

namespace Feed

/-- The fetch that comes after so many others. -/
def fetch (feed : Feed) : Nat → Fetch
  | 0 => feed.head
  | i + 1 => feed.advance.fetch i

/-- How long each fetch takes. -/
def delay (feed : Feed) (i : Nat) : Nat :=
  (feed.fetch i).delay

/-- The next fetches are the fetches in order. -/
theorem take_eq (feed : Feed) (count : Nat) :
    feed.take count = (List.range count).map feed.fetch := by
  induction count generalizing feed with
  | zero => rfl
  | succ count ih =>
    rw [take, ih, List.range_succ_eq_map, List.map_cons, List.map_map]
    rfl

end Feed

namespace Refresh

/-! ## Whole runs -/

/-- Of a list in order, what is taken is what comes before the first item that is rejected. -/
theorem takeWhile_map_range {α : Type} {item : Nat → α} {accepts : α → Bool} {count total : Nat}
    (inside : count ≤ total) (accepted : ∀ i, i < count ↔ accepts (item i) = true) :
    ((List.range total).map item).takeWhile accepts = (List.range count).map item := by
  -- The list is cut where the rejected items begin.
  obtain ⟨more, rfl⟩ := Nat.exists_eq_add_of_le inside
  rw [List.range_add, List.map_append]
  refine takeWhile_run (fun taken member => ?_) ?_
  · obtain ⟨i, before, rfl⟩ := List.mem_map.mp member
    exact (accepted i).mp (List.mem_range.mp before)
  · cases more with
    | zero => exact endsRun_nil _
    | succ more =>
      rw [List.range_succ_eq_map]
      refine endsRun_cons ?_ _
      have stops := (not_congr (accepted count)).mp (Nat.lt_irrefl _)
      simpa using stops

/-- A run is made of the fetches that end in time, and counts those that begin in time. -/
theorem run?_eq (feed : Feed) (view : View) {period : Nat} (short : tolerance < period)
    (ticks : IsPeriod period) (limit : Nat) :
    ∃ begun ended, (∀ i, i < begun ↔ start period feed.delay i ≤ limit)
      ∧ (∀ i, i < ended ↔ start period feed.delay i + feed.delay i ≤ limit)
      ∧ run? feed view period limit
        = (all? feed.name view ((List.range ended).map fun i =>
            (feed.fetch i, start period feed.delay i,
              start period feed.delay i + feed.delay i))).map
          fun (refreshes, view) => ⟨refreshes, begun, view⟩ := by
  have positive : 0 < period := Nat.lt_of_le_of_lt (Nat.zero_le _) short
  have starts : Monotone (start period feed.delay) := monotone_start
  have ends : Monotone fun i => start period feed.delay i + feed.delay i :=
    monotone_nat_of_le_succ fun i => Nat.le_trans (le_start_succ i) (Nat.le_add_right ..)
  -- Starts and ends both come in order, so those within the limit are the first ones.
  obtain ⟨begun, isBegun⟩ := exists_count starts (lt_start positive) limit
  obtain ⟨ended, isEnded⟩ := exists_count ends
    (fun i => Nat.lt_of_lt_of_le (lt_start positive i) (Nat.le_add_right ..)) limit
  refine ⟨begun, ended, isBegun, isEnded, ?_⟩
  -- Each period has one fetch at most, so there are more fetches than begin in time.
  have enough : begun ≤ limit / period + 1 := by
    by_contra more
    have inTime := (isBegun (limit / period + 1)).mp (by omega)
    have periods : limit / period + 1 < start period feed.delay (limit / period + 1) / period :=
      lt_start_div positive _
    have bound : start period feed.delay (limit / period + 1) / period ≤ limit / period :=
      Nat.div_le_div_right inTime
    exact Nat.not_succ_le_self _ (Nat.le_trans (Nat.le_of_lt periods) bound)
  -- A fetch ends no earlier than it begins, so no more end in time than begin in time.
  have fewer : ended ≤ begun := by
    by_contra more
    have inTime := (isEnded begun).mp (by omega)
    have late := (not_congr (isBegun begun)).mp (Nat.lt_irrefl _)
    omega
  -- Fetches and times go together place by place.
  have timed : (feed.take (limit / period + 1)).zip
      (times tolerance period period 0 ((feed.take (limit / period + 1)).map Fetch.delay))
      = (List.range (limit / period + 1)).map fun i =>
          (feed.fetch i, start period feed.delay i, start period feed.delay i + feed.delay i) := by
    rw [feed.take_eq, List.map_map]
    change List.zip _ (times _ _ _ _ ((List.range _).map feed.delay)) = _
    rw [times_eq short, List.zip_map', List.map_congr_left]
    exact fun _ _ => rfl
  rw [run?, guard, if_pos ticks, pure_bind]
  dsimp only
  rw [timed, takeWhile_map_range enough fun i => by simp [isBegun],
    takeWhile_map_range fewer fun i => by simp [isEnded], List.length_map, List.length_range]
  cases all? feed.name view _ <;> rfl

/--
Refreshes keep to their schedule, however long the fetches take and however they end.

Whatever the unit of time is, fetches begin as scheduled where ticks are allowed their tolerance.
Up to any moment a page has the refreshes whose fetches have ended by then, if the clock can hold
the interval and they can be rendered.
Each refresh ends with its fetch, and a success sends the page its update then.
-/
theorem refreshes_on_schedule (settings : Settings) :
    (∀ unit, 0 < unit → ∀ delay : Nat → Nat, ∃ start,
      Schedule (settings.interval * 1000 * unit) delay start
      ∧ ∀ count, times (tolerance * unit) (settings.interval * 1000 * unit)
          (settings.interval * 1000 * unit) 0 ((List.range count).map delay)
        = (List.range count).map fun i => (start i, start i + delay i))
    ∧ ∀ (feed : Feed) (view : View) (limit : Nat), ∃ start,
      Schedule (settings.interval * 1000) feed.delay start
      ∧ ((run? feed view (settings.interval * 1000) limit).isSome = true
        ↔ settings.interval < 2 ^ 63 ∧ ∀ i, start i + feed.delay i ≤ limit →
          Renders view.page view.display (feed.fetch i))
      ∧ ∀ run, run? feed view (settings.interval * 1000) limit = some run →
        (∀ i, i < run.calls ↔ start i ≤ limit)
        ∧ (∀ i, i < run.refreshes.length ↔ start i + feed.delay i ≤ limit)
        ∧ ∀ i refresh, run.refreshes[i]? = some refresh →
          Follows view.page view.display (feed.fetch i, start i, start i + feed.delay i)
            refresh := by
  -- An interval is a second at least, which is far more than the tolerance.
  have second : 1 ≤ settings.interval := Nat.le_max_right ..
  have short : tolerance < settings.interval * 1000 := by
    rw [tolerance]
    omega
  constructor
  · intro unit positive delay
    exact ⟨_, schedule_start (Nat.mul_pos (by omega) positive),
      times_eq (Nat.mul_lt_mul_of_pos_right short positive)⟩
  · intro feed view limit
    -- The clock is asked for the first deadline only, one interval after the opening.
    have held : IsPeriod (settings.interval * 1000) ↔ settings.interval < 2 ^ 63 := by
      rw [IsPeriod]
      omega
    refine ⟨_, schedule_start (by omega), ?_⟩
    by_cases ticks : IsPeriod (settings.interval * 1000)
    · obtain ⟨begun, ended, isBegun, isEnded, same⟩ := run?_eq feed view short ticks limit
      refine ⟨?_, fun run ran => ?_⟩
      · rw [and_iff_right (held.mp ticks), same, Option.isSome_map, all?_isSome]
        simp [isEnded]
      · rw [same] at ran
        obtain ⟨⟨refreshes, last⟩, all, rfl⟩ := Option.map_eq_some_iff.mp ran
        -- Refreshes and fetches pair up, so there are as many of the one as of the other.
        have follows := all?_follows all
        have length := follows.length_eq
        rw [List.length_map, List.length_range] at length
        refine ⟨isBegun, fun i => ?_, fun i refresh found => ?_⟩
        · rw [← isEnded, length]
        · -- The refresh at a place follows the fetch at the same place.
          obtain ⟨inside, rfl⟩ := List.getElem?_eq_some_iff.mp found
          have each := follows.get (by rw [follows.length_eq]; exact inside) inside
          simpa using each
    · -- Where the clock cannot hold the first deadline there is no run at all.
      rw [run?_eq_none ticks]
      refine ⟨⟨fun made => ?_, fun possible => absurd (held.mpr possible.1) ticks⟩, ?_⟩
      · cases made
      · intro run ran
        cases ran

/-- After a fetch that failed past its next deadline, the one that it held up sends its update. -/
theorem refreshes_on_schedule_slow :
    let settings : Settings := ⟨"", none, "", 10, 30, .standard⟩
    let feed : Feed := ⟨"feed", ⟨.error (.status "feed" 503), [], 40000⟩, [⟨.ok [], [], 500⟩]⟩
    ∃ run refresh update,
      run? feed (.new .overview .standard) (settings.interval * 1000) 70500 = some run
        ∧ run.calls = 2 ∧ run.refreshes[1]? = some refresh
        ∧ refresh.started = 70000 ∧ refresh.finished = 70500
        ∧ refresh.update = some update ∧ Shows .overview .standard [] update := by
  intro settings feed
  obtain ⟨start, schedule, possible, runs⟩ :=
    (refreshes_on_schedule settings).2 feed (.new .overview .standard) 70500
  have period : settings.interval * 1000 = 30000 := by decide
  have long : feed.delay 0 = 40000 := rfl
  have short : feed.delay 1 = 500 := rfl
  -- The first fetch ends in the middle of a period, and the second one begins at once.
  have first : start 0 = 30000 := schedule.first.trans period
  have second : start 1 = 70000 := by
    rw [schedule.next 0, first, long, period]
    decide
  have third : start 2 = 90000 := by
    rw [schedule.next 1, second, short, period]
    decide
  -- The overview renders any reading set, so the run can be made.
  have made := possible.mpr ⟨by decide, fun _ _ _ _ => rfl⟩
  obtain ⟨run, ran⟩ := Option.isSome_iff_exists.mp made
  obtain ⟨begun, ended, follows⟩ := runs run ran
  have inTime : 1 < run.refreshes.length := (ended 1).mpr (by omega)
  have later : ¬2 < run.calls := (not_congr (begun 2)).mpr (by omega)
  have both : 1 < run.calls := (begun 1).mpr (by omega)
  have follow := follows 1 _ (List.getElem?_eq_getElem inTime)
  obtain ⟨update, sent, shows⟩ := follow.answers.success [] rfl
  exact ⟨run, _, update, ran, by omega, List.getElem?_eq_getElem inTime,
    follow.started.trans second, follow.finished.trans (by dsimp only; omega), sent, shows⟩

end Refresh

end RoomAir
