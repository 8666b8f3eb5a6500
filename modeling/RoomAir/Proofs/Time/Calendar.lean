import Mathlib.Algebra.BigOperators.Group.List.Basic
import Mathlib.Algebra.GroupWithZero.Nat
import RoomAir.Time.Calendar

/-! Days and dates lead to each other, and the numbers of the days count them one by one. -/

namespace RoomAir

namespace Calendar

/-! ## Years -/

/-- The year that is found for a day holds it. -/
theorem yearOfDay_holds (day : Int) :
    daysBeforeYear (yearOfDay day) ≤ day ∧ day < daysBeforeYear (yearOfDay day + 1) := by
  rw [yearOfDay]
  -- Whichever of the three years is taken, the guess is off by no more than one.
  split
  case isTrue before =>
    -- The guess was too late, and the year before it holds the day.
    refine ⟨?_, ?_⟩
    · simp only [daysBeforeYear] at before ⊢
      omega
    · rwa [Int.sub_add_cancel]
  case isFalse notBefore =>
    split
    -- The guess was too early, and the year after it holds the day.
    case isTrue after =>
      refine ⟨after, ?_⟩
      simp only [daysBeforeYear] at after ⊢
      omega
    -- The guess was right.
    case isFalse notAfter => exact ⟨by omega, by omega⟩

/-- No other year holds the day. -/
theorem yearOfDay_eq {year day : Int} (after : daysBeforeYear year ≤ day)
    (before : day < daysBeforeYear (year + 1)) : yearOfDay day = year := by
  obtain ⟨after', before'⟩ := yearOfDay_holds day
  -- A year is over before any later one begins.
  have ends (first second : Int) (earlier : first < second) :
      daysBeforeYear (first + 1) ≤ daysBeforeYear second := by
    simp only [daysBeforeYear]
    omega
  -- Were the year another one, the day would lie outside of it.
  rcases Int.lt_trichotomy (yearOfDay day) year with earlier | same | later
  · have := ends _ _ earlier
    omega
  · exact same
  · have := ends _ _ later
    omega

/-- A year is as long as its months. -/
theorem daysBeforeYear_succ (year : Int) :
    daysBeforeYear (year + 1) = daysBeforeYear year + (monthLengths year).sum := by
  -- The twelve months make up a leap year or another one.
  have length : ((monthLengths year).sum : Int) = if isLeap year then 366 else 365 := by
    rw [monthLengths]
    split <;> rfl
  rw [length]
  -- The number of leap days before a year grows exactly behind a leap year.
  simp only [daysBeforeYear, isLeap, Bool.and_eq_true, Bool.or_eq_true, decide_eq_true_eq, ne_eq]
  split <;> omega

/-! ## Months -/

/-- A day of the year lies in the month that is found for it, after the months before that one. -/
theorem locate_spec {lengths : List Nat} {index : Nat} (inYear : index < lengths.sum)
    (month : Nat) :
    ∃ before length day, locate lengths month index = (month + before, day)
      ∧ lengths[before]? = some length ∧ 1 ≤ day ∧ day ≤ length
      ∧ (lengths.take before).sum + day = index + 1 := by
  induction lengths generalizing month index with
  -- A year without months has no days.
  | nil => cases inYear
  | cons length lengths ih =>
    rw [locate]
    split
    -- The day is within the first month that is left.
    case isTrue inside => exact ⟨0, length, index + 1, rfl, rfl, by omega, by omega, by simp⟩
    case isFalse later =>
      -- The months that are left hold the days that are left.
      rw [List.sum_cons] at inYear
      have left : index - length < lengths.sum := by omega
      obtain ⟨before, found, day, located, isLength, first, last, total⟩ := ih left (month + 1)
      refine ⟨before + 1, found, day, by rw [located, Nat.add_right_comm, Nat.add_assoc], isLength,
        first, last, ?_⟩
      rw [List.take_succ_cons, List.sum_cons]
      omega

/-- A month has at least one day. -/
theorem pos_of_mem_monthLengths {year : Int} {length : Nat} (member : length ∈ monthLengths year) :
    1 ≤ length := by
  -- Both lists of months are looked at.
  have long : ∀ length ∈ monthLengths year, 1 ≤ length := by
    rw [monthLengths]
    split <;> decide
  exact long length member

/-- The days up to the end of a month are those before it and its own. -/
theorem sum_take_succ_of_getElem? {lengths : List Nat} {before length : Nat}
    (found : lengths[before]? = some length) :
    (lengths.take (before + 1)).sum = (lengths.take before).sum + length := by
  -- The month is one more summand.
  obtain ⟨bound, rfl⟩ := List.getElem?_eq_some_iff.mp found
  exact List.sum_take_succ lengths before bound

/-- A day of a month is located in that month. -/
theorem locate_eq {lengths : List Nat} {before length day : Nat}
    (found : lengths[before]? = some length) (first : 1 ≤ day) (last : day ≤ length)
    (month : Nat) :
    locate lengths month ((lengths.take before).sum + day - 1) = (month + before, day) := by
  induction lengths generalizing before month with
  -- There is no month.
  | nil => simp at found
  | cons own lengths ih =>
    rw [locate]
    cases before with
    | zero =>
      -- The day is within the month that comes first.
      obtain rfl : own = length := by simpa using found
      rw [List.take_zero, List.sum_nil, if_pos (by omega)]
      congr 1
      omega
    | succ before =>
      -- The day is past the first month, which is counted off.
      rw [List.take_succ_cons, List.sum_cons, if_neg (by omega)]
      have left : own + (lengths.take before).sum + day - 1 - own
          = (lengths.take before).sum + day - 1 := by omega
      rw [left, ih (by simpa using found), Nat.add_right_comm, Nat.add_assoc]

end Calendar

namespace Date

open Calendar

/-- The months before a date and its day make up the day of the year. -/
theorem ordinal_eq (date : Date) :
    date.ordinal = ((monthLengths date.year).take (date.month - 1)).sum + date.day := by
  -- The source sums from the left, with a start.
  have start (lengths : List Nat) (first : Nat) :
      lengths.foldl (· + ·) first = lengths.sum + first := by
    induction lengths generalizing first with
    | nil => simp
    | cons length lengths ih => rw [List.foldl_cons, ih, List.sum_cons]; omega
  exact start _ _

/-- A date exists when its month does and has the day. -/
theorem isValid_iff {date : Date} :
    date.isValid = true ↔ 1 ≤ date.month ∧ 1 ≤ date.day
      ∧ ∃ length, (monthLengths date.year)[date.month - 1]? = some length ∧ date.day ≤ length := by
  rw [isValid]
  split
  -- The month exists, so its length decides.
  case h_1 length found =>
    simp only [Bool.and_eq_true, decide_eq_true_eq, found, Option.some.injEq, exists_eq_left']
    exact and_assoc
  case h_2 none => simp [none]

/-- Months and days of dates that exist have two digits. -/
theorem bounds_of_isValid {date : Date} (valid : date.isValid = true) :
    date.month ≤ 12 ∧ date.day ≤ 31 := by
  -- No month has more than thirty-one days.
  have short : ∀ length ∈ monthLengths date.year, length ≤ 31 := by
    rw [monthLengths]
    split <;> decide
  rw [isValid] at valid
  split at valid
  case h_1 length found =>
    -- There are twelve months, and the month of the date is one of them.
    obtain ⟨inYear, -⟩ := List.getElem?_eq_some_iff.mp found
    have twelve : (monthLengths date.year).length = 12 := rfl
    have atMost := short length (List.mem_of_getElem? found)
    simp only [Bool.and_eq_true, decide_eq_true_eq] at valid
    omega
  case h_2 => cases valid

/-- The date of a day exists, and it is the date of that day. -/
theorem ofDayNumber_spec (number : Int) :
    (ofDayNumber number).isValid = true ∧ (ofDayNumber number).dayNumber = number := by
  obtain ⟨after, before⟩ := yearOfDay_holds (number + epochDay)
  rw [daysBeforeYear_succ] at before
  -- What is left of the day's number counts the days of its year.
  have inYear : (number + epochDay - daysBeforeYear (yearOfDay (number + epochDay))).toNat
      < (monthLengths (yearOfDay (number + epochDay))).sum := by omega
  obtain ⟨months, length, day, located, isLength, first, last, total⟩ := locate_spec inYear 1
  have past : 1 + months - 1 = months := by omega
  rw [ofDayNumber, located]
  -- The day lies within its month, so the date exists.
  constructor
  · simp only [isValid, past, isLength, Bool.and_eq_true, decide_eq_true_eq]
    omega
  -- Months before and days within make up the number again.
  · simp only [dayNumber, ordinal_eq, past, total]
    omega

/-- A date that exists is the date of its day. -/
theorem ofDayNumber_dayNumber {date : Date} (valid : date.isValid = true) :
    ofDayNumber date.dayNumber = date := by
  obtain ⟨year, month, day⟩ := date
  obtain ⟨firstMonth, firstDay, length, found, lastDay⟩ := isValid_iff.mp valid
  simp only at firstMonth firstDay found lastDay
  -- The day lies in the year, since the months up to its own are within the year.
  have within : ((monthLengths year).take (month - 1)).sum + day ≤ (monthLengths year).sum := by
    have upTo := sum_take_succ_of_getElem? found
    have parts := congrArg List.sum (List.take_append_drop (month - 1 + 1) (monthLengths year))
    rw [List.sum_append] at parts
    omega
  have number : dayNumber ⟨year, month, day⟩ + epochDay
      = daysBeforeYear year + ((((monthLengths year).take (month - 1)).sum + day - 1 : Nat) : Int)
      := by
    simp only [dayNumber, ordinal_eq]
    omega
  have sameYear : yearOfDay (dayNumber ⟨year, month, day⟩ + epochDay) = year := by
    refine yearOfDay_eq ?_ ?_
    · omega
    · rw [daysBeforeYear_succ]
      omega
  -- The months are counted from one.
  have sameMonth : 1 + (month - 1) = month := by omega
  simp only [ofDayNumber, sameYear]
  rw [number, add_sub_cancel_left, Int.toNat_natCast, locate_eq found firstDay lastDay,
    sameMonth]

/-! ## Counting -/

/-- The day after a date: in the same month, on the first of the next one, or on New Year's Day. -/
def next (date : Date) : Date :=
  if isValid ⟨date.year, date.month, date.day + 1⟩ then ⟨date.year, date.month, date.day + 1⟩
  else if isValid ⟨date.year, date.month + 1, 1⟩ then ⟨date.year, date.month + 1, 1⟩
  else ⟨date.year + 1, 1, 1⟩

/-- The day after a date that exists does so too, and has the next number. -/
theorem next_spec {date : Date} (valid : date.isValid = true) :
    date.next.isValid = true ∧ date.next.dayNumber = date.dayNumber + 1 := by
  obtain ⟨year, month, day⟩ := date
  obtain ⟨firstMonth, firstDay, length, found, lastDay⟩ := isValid_iff.mp valid
  simp only at firstMonth firstDay found lastDay
  have upTo := sum_take_succ_of_getElem? found
  rw [Nat.sub_add_cancel firstMonth] at upTo
  rw [next]
  split
  -- The month goes on, and so does the count of its days.
  case isTrue inMonth =>
    refine ⟨inMonth, ?_⟩
    simp only [dayNumber, ordinal_eq]
    omega
  case isFalse pastMonth =>
    -- The month is over, so the date is its last day.
    have last : day = length := by
      refine Nat.le_antisymm lastDay (Nat.not_lt.mp fun more => pastMonth ?_)
      exact isValid_iff.mpr ⟨firstMonth, Nat.succ_pos day, length, found, more⟩
    split
    -- The next month begins where this one ends.
    case isTrue inYear =>
      refine ⟨inYear, ?_⟩
      simp only [dayNumber, ordinal_eq, Nat.add_sub_cancel, upTo, last]
      omega
    case isFalse pastYear =>
      -- The year is over as well, so there is no month behind.
      have whole : (monthLengths year).length ≤ month := by
        refine Nat.not_lt.mp fun more => pastYear ?_
        have behind := List.getElem?_eq_getElem more
        exact isValid_iff.mpr ⟨Nat.succ_pos month, Nat.le_refl 1, _, behind,
          pos_of_mem_monthLengths (List.getElem_mem more)⟩
      rw [List.take_of_length_le whole] at upTo
      refine ⟨isValid_iff.mpr ⟨Nat.le_refl 1, Nat.le_refl 1, 31, rfl, show 1 ≤ 31 by decide⟩, ?_⟩
      simp only [dayNumber, ordinal_eq, daysBeforeYear_succ, upTo, last, Nat.sub_self,
        List.take_zero, List.sum_nil]
      omega

/-- A date with its number, the days being counted one by one from the first of January 1970. -/
inductive HasNumber : Date → Int → Prop
  | epoch : HasNumber ⟨1970, 1, 1⟩ 0
  | next {date : Date} {number : Int} (here : HasNumber date number) :
      HasNumber date.next (number + 1)
  | previous {date : Date} {number : Int} (valid : date.isValid = true)
      (there : HasNumber date.next (number + 1)) : HasNumber date number

/-- Every day has its number, before the first of January 1970 as well as after it. -/
theorem hasNumber_ofDayNumber (number : Int) : HasNumber (ofDayNumber number) number := by
  -- The day after the date of one day is the date of the next day.
  have step (number : Int) : (ofDayNumber number).next = ofDayNumber (number + 1) := by
    obtain ⟨valid, same⟩ := ofDayNumber_spec number
    obtain ⟨valid', follows⟩ := next_spec valid
    -- From the first of January 1970 the days are counted on, and back.
    rw [← ofDayNumber_dayNumber valid', follows, same]
  induction number with
  | zero => exact .epoch
  | succ number ih =>
    rw [← step]
    exact ih.next
  | pred number ih =>
    refine .previous (ofDayNumber_spec _).1 ?_
    rwa [step, Int.sub_add_cancel]

/-- Exactly the dates that exist have a number, and it is the one that is computed. -/
theorem hasNumber_iff {date : Date} {number : Int} :
    HasNumber date number ↔ date.isValid = true ∧ number = date.dayNumber := by
  constructor
  -- Each way to be counted keeps the number in step with the date.
  · intro counted
    induction counted with
    | epoch => decide
    | next here ih =>
      obtain ⟨valid, same⟩ := next_spec ih.1
      exact ⟨valid, by rw [same, ih.2]⟩
    | previous valid there ih =>
      have same := (next_spec valid).2
      exact ⟨valid, by omega⟩
  -- A date that exists is the date of its number, which is counted.
  · rintro ⟨valid, rfl⟩
    have counted := hasNumber_ofDayNumber date.dayNumber
    rwa [ofDayNumber_dayNumber valid] at counted

end Date

end RoomAir
