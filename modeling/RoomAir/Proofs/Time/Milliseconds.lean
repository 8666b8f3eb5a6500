import RoomAir.Proofs.Time.Calendar
import RoomAir.Proofs.Time.Instant
import RoomAir.Proofs.Time.Unambiguous

/-! Milliseconds of timestamps: they are rounded down, and no step towards them overflows. -/

namespace RoomAir

/-! ## Days and minutes -/

/-- A date that exists lies in its year. -/
theorem Date.dayNumber_inYear {date : Date} (valid : date.isValid = true) :
    Calendar.daysBeforeYear date.year ≤ date.dayNumber + Calendar.epochDay
      ∧ date.dayNumber + Calendar.epochDay < Calendar.daysBeforeYear (date.year + 1) := by
  -- The year that is found for the day is the year of the date.
  have year : Calendar.yearOfDay (date.dayNumber + Calendar.epochDay) = date.year :=
    congrArg Date.year (Date.ofDayNumber_dayNumber valid)
  have holds := Calendar.yearOfDay_holds (date.dayNumber + Calendar.epochDay)
  rwa [year] at holds

/-- The days that browsers have dates for, before and after the start of 1970. -/
def browserDays : Int := 100000000

/-- A date in a year that is supported is less than that many days away. -/
theorem Date.dayNumber_bounds {date : Date} (valid : date.isValid = true)
    (first : -262143 ≤ date.year) (last : date.year ≤ 262142) :
    2 - browserDays ≤ date.dayNumber ∧ date.dayNumber ≤ browserDays - 3 := by
  -- The days of a year are known up to the leap years before it.
  have inYear := Date.dayNumber_inYear valid
  simp only [Calendar.daysBeforeYear, Calendar.epochDay, browserDays] at inYear ⊢
  omega

namespace Instant

/-- An instant on a day that browsers have dates for. -/
def IsBrowserDate (time : Instant) : Prop :=
  -browserDays * 1440 ≤ time.minute ∧ time.minute + 1 < browserDays * 1440

/-- A date and time with an offset of less than a day is a date of browsers. -/
theorem isBrowserDate_of_ofCivil? {date : Date} {hour minute second nanosecond : Nat}
    {offset : Int} {time : Instant} (short : -1440 < offset ∧ offset < 1440)
    (civil : ofCivil? date hour minute second nanosecond offset = some time) :
    time.IsBrowserDate := by
  -- The instant is there because the year is supported and the fields are in their ranges.
  rw [ofCivil?] at civil
  split at civil
  case isFalse => cases civil
  case isTrue =>
    split at civil
    case isFalse => cases civil
    case isTrue known =>
      obtain ⟨first, last, valid, hours, minutes⟩ := known
      obtain rfl := Option.some.inj civil
      -- The time of day and the offset take up less than two days together.
      have days := Date.dayNumber_bounds valid first last
      simp only [IsBrowserDate]
      omega

end Instant

namespace Timestamp

variable {text rest : List Char} {time : Instant}

/-- Hours and minutes of an offset stay below their limit. -/
theorem le_of_offsetPart? {limit value : Nat}
    (read : offsetPart? limit text = some (value, rest)) : value ≤ limit := by
  -- The digits are compared with the limit after they have been read.
  simp only [offsetPart?, Option.bind_eq_bind, Option.bind_eq_some_iff] at read
  obtain ⟨⟨found, _⟩, -, read⟩ := read
  split at read
  case isTrue below =>
    obtain ⟨rfl, -⟩ := Prod.mk.inj (Option.some.inj read)
    exact below
  case isFalse => cases read

/-- An offset is less than a day. -/
theorem short_of_offset? {offset : Int} (read : offset? text = some (offset, rest)) :
    -1440 < offset ∧ offset < 1440 := by
  -- Without a sign there is no offset.
  cases text with
  | nil => cases read
  | cons sign text =>
    rw [offset?] at read
    split at read
    -- A `Z` stands for no offset at all.
    case isTrue =>
      obtain ⟨rfl, -⟩ := Prod.mk.inj (Option.some.inj read)
      decide
    case isFalse =>
      split at read
      case isFalse => cases read
      -- At most twenty-three hours and fifty-nine minutes are read, in either direction.
      case isTrue =>
        simp only [Option.bind_eq_bind, Option.bind_eq_some_iff, Option.some.injEq,
          Prod.mk.injEq] at read
        obtain ⟨⟨hours, _⟩, hoursRead, _, -, ⟨minutes, _⟩, minutesRead, rfl, -⟩ := read
        have hour := le_of_offsetPart? hoursRead
        have minute := le_of_offsetPart? minutesRead
        split <;> omega

/-- A date and time with an offset is a date of browsers. -/
theorem isBrowserDate_of_withOffset? (read : withOffset? text = some time) :
    time.IsBrowserDate := by
  -- Only the offset and what the fields are put together to matter here.
  simp only [withOffset?, Option.bind_eq_bind, Option.bind_eq_some_iff] at read
  obtain ⟨_, -, _, -, _, -, _, -, _, -, read⟩ := read
  split at read
  case h_2 => cases read
  case h_1 =>
    split at read
    case isFalse => cases read
    case isTrue =>
      simp only [Option.bind_eq_some_iff] at read
      obtain ⟨_, -, _, -, _, -, _, -, _, -, _, -, ⟨offset, _⟩, offsetRead, civil⟩ := read
      split at civil
      case isFalse => cases civil
      case isTrue => exact Instant.isBrowserDate_of_ofCivil? (short_of_offset? offsetRead) civil

/-- A date and time up to the second is a date of browsers. -/
theorem isBrowserDate_of_throughSeconds? {date : Date}
    (read : throughSeconds? date text = some time) : time.IsBrowserDate := by
  -- Without an offset the time is that of the fields.
  simp only [throughSeconds?, Option.bind_eq_bind, Option.bind_eq_some_iff] at read
  obtain ⟨_, -, _, -, _, -, _, -, civil⟩ := read
  split at civil
  case isFalse => cases civil
  case isTrue => exact Instant.isBrowserDate_of_ofCivil? (by decide) civil

/-- Every timestamp is a date of browsers, however it is spelled. -/
theorem isBrowserDate_of_read? {raw : String} (read : read? raw = some time) :
    time.IsBrowserDate := by
  obtain ⟨spelling, listed, read⟩ := List.exists_of_findSome?_eq_some read
  simp only [spellings, List.mem_cons, List.not_mem_nil, or_false] at listed
  -- Only the first spelling has an offset, and the last two stop before the seconds.
  rcases listed with rfl | rfl | rfl | rfl | rfl
  · exact isBrowserDate_of_withOffset? read
  · simp only [joinedByT?, Option.bind_eq_bind, Option.bind_eq_some_iff] at read
    obtain ⟨_, -, _, -, read⟩ := read
    exact isBrowserDate_of_throughSeconds? read
  · simp only [joinedByBlanks?, Option.bind_eq_bind, Option.bind_eq_some_iff] at read
    obtain ⟨_, -, read⟩ := read
    exact isBrowserDate_of_throughSeconds? read
  · simp only [toTheMinute?, Option.bind_eq_bind, Option.bind_eq_some_iff] at read
    obtain ⟨_, -, _, -, _, -, civil⟩ := read
    split at civil
    case isFalse => cases civil
    case isTrue => exact Instant.isBrowserDate_of_ofCivil? (by decide) civil
  · simp only [dateAlone?, Option.bind_eq_bind, Option.bind_eq_some_iff] at read
    obtain ⟨_, -, civil⟩ := read
    split at civil
    case isFalse => cases civil
    case isTrue => exact Instant.isBrowserDate_of_ofCivil? (by decide) civil

end Timestamp

namespace Instant

/-! ## Milliseconds -/

/-- Nanoseconds from the start of 1970, a leap second being counted as the second after it. -/
def nanoseconds (time : Instant) : Int :=
  (time.minute * 60 + time.second.val) * 1000000000 + time.nanosecond.val

/-- A number, if it fits 64 bits with a sign. -/
def word? (value : Int) : Option Int :=
  if -2 ^ 63 ≤ value ∧ value < 2 ^ 63 then some value else none

/-- The milliseconds as they are computed in words: from the days over the seconds. -/
def millisecondWords? (time : Instant) : Option Int := do
  let day ← word? (time.minute / 1440 + Calendar.epochDay)
  let days ← word? (day - Calendar.epochDay)
  let midnight ← word? (days * 86400)
  let clock := time.minute % 1440 * 60 + (min time.second.val 59 : Nat)
  let seconds ← word? (midnight + clock)
  let whole ← word? (seconds * 1000)
  word? (whole + (time.nanosecondsPast / 1000000 : Nat))

/-- What the milliseconds of an instant are: rounded down, and within the dates of browsers. -/
structure CountsExactly (time : Instant) : Prop where
  /-- They are the milliseconds that have passed as a whole, before 1970 as well as after it. -/
  floor : time.milliseconds * 1000000 ≤ time.nanoseconds
    ∧ time.nanoseconds < (time.milliseconds + 1) * 1000000
  /-- The limit of dates in browsers is kept, below which every whole number is a double. -/
  date : time.milliseconds.natAbs ≤ 8640000000000000 ∧ 8640000000000000 < 2 ^ 53
  /-- No step on the way to them leaves the 64 bits of a word. -/
  words : time.millisecondWords? = some time.milliseconds

/-- The milliseconds are the nanoseconds rounded down. -/
theorem milliseconds_floor (time : Instant) :
    time.milliseconds * 1000000 ≤ time.nanoseconds
      ∧ time.nanoseconds < (time.milliseconds + 1) * 1000000 := by
  -- A whole number of nanoseconds is left over in each millisecond.
  rw [milliseconds_eq, nanoseconds]
  omega

/-- The milliseconds of a date of browsers are at most as many as browsers count. -/
theorem natAbs_milliseconds_le {time : Instant} (date : time.IsBrowserDate) :
    time.milliseconds.natAbs ≤ 8640000000000000 := by
  -- The time of day adds less than a day to the minutes.
  have second := time.second.isLt
  have nanosecond := time.nanosecond.isLt
  simp only [IsBrowserDate, browserDays] at date
  rw [milliseconds_eq]
  omega

/-- A number that is small enough is a word. -/
theorem word?_eq_some {value : Int} (fits : value.natAbs < 2 ^ 63) : word? value = some value := by
  -- The smallest and the largest word are about as far from zero.
  rw [word?, if_pos (by omega)]

/-- The steps of a date of browsers are far from the limits of a word. -/
theorem millisecondWords?_eq {time : Instant} (date : time.IsBrowserDate) :
    time.millisecondWords? = some time.milliseconds := by
  have second := time.second.isLt
  have nanosecond := time.nanosecond.isLt
  -- In a leap second the nanoseconds go on for another second.
  have past : time.nanosecondsPast < 2000000000 := by
    rw [nanosecondsPast]
    split <;> omega
  simp only [IsBrowserDate, browserDays] at date
  -- Days and the time of day make up the minutes.
  have seconds : time.minute / 1440 * 86400
      + (time.minute % 1440 * 60 + (min time.second.val 59 : Nat)) = time.unixSeconds := by
    rw [unixSeconds]
    omega
  have bound : time.unixSeconds.natAbs < 2 ^ 53 := by
    rw [unixSeconds]
    omega
  simp only [millisecondWords?, Calendar.epochDay, Option.bind_eq_bind]
  -- Every step is below the limit, which the bounds on minutes and seconds show.
  rw [word?_eq_some (by omega), Option.bind_some, Int.add_sub_cancel, word?_eq_some (by omega),
    Option.bind_some, word?_eq_some (by omega), Option.bind_some, seconds,
    word?_eq_some (by omega), Option.bind_some, word?_eq_some (by omega), Option.bind_some,
    word?_eq_some (by omega), milliseconds]

/-- A date of browsers is counted exactly. -/
theorem countsExactly {time : Instant} (date : time.IsBrowserDate) : time.CountsExactly where
  floor := time.milliseconds_floor
  date := ⟨natAbs_milliseconds_le date, by decide⟩
  words := millisecondWords?_eq date

end Instant

end RoomAir
