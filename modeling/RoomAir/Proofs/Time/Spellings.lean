import RoomAir.Proofs.Time.Naive

/-! The spellings of a date and a time of day: all of them are read as the instant they denote. -/

namespace RoomAir

open Timestamp

/-! ## Times as they are spelled -/

/-- A date and a time of day as a timestamp spells them, the year in four digits. -/
structure CivilTime where
  date : Date
  hour : Nat
  minute : Nat
  second : Nat
  /-- The digits behind the point of the seconds; without digits there is no point. -/
  fraction : List Char
  valid : date.isValid = true
  fromZero : 0 ≤ date.year
  fourDigits : date.year ≤ 9999
  hour_lt : hour < 24
  minute_lt : minute < 60
  /-- Second 60 is a leap second. -/
  second_le : second ≤ 60
  digits : ∀ c ∈ fraction, c.isDigit = true
  atMostNine : fraction.length ≤ 9

/-- The end of a timestamp that says how far its clock is ahead of UTC. -/
inductive Zone where
  | utc (small : Bool)
  | ahead (hours : Fin 24) (minutes : Fin 60)
  | behind (hours : Fin 24) (minutes : Fin 60)

namespace Zone

/-- A `Z` in either case, or a sign with hours and minutes. -/
def text : Zone → List Char
  | .utc small => [if small then 'z' else 'Z']
  | .ahead hours minutes => '+' :: clockText hours minutes
  | .behind hours minutes => '-' :: clockText hours minutes

/-- The minutes that a clock is ahead of UTC. -/
def offset : Zone → Int
  | .utc _ => 0
  | .ahead hours minutes => (hours.val * 60 + minutes.val : Nat)
  | .behind hours minutes => -(hours.val * 60 + minutes.val : Nat)

/-- Hours and minutes of an offset are read back. -/
theorem offset?_clockText {sign : Char} (signed : sign = '+' ∨ sign = '-') (hours : Fin 24)
    (minutes : Fin 60) :
    offset? (sign :: clockText hours minutes)
      = some (if sign = '+' then ((hours.val * 60 + minutes.val : Nat) : Int)
          else -(hours.val * 60 + minutes.val : Nat), []) := by
  -- Both fields have two digits, and both are within their limits.
  have fitsHours : hours.val < 100 := by omega
  have fitsMinutes : minutes.val < 100 := by omega
  have atMostHours : hours.val ≤ 23 := by omega
  have atMostMinutes : minutes.val ≤ 59 := by omega
  -- Of the letters and signs that an offset may begin with, only the signs are left.
  have noLetter : ¬ (sign = 'Z' ∨ sign = 'z') := by
    rcases signed with rfl | rfl <;> decide
  have sign' : sign = '+' ∨ sign = '-' ∨ sign = '\u2212' := by
    rcases signed with rfl | rfl <;> decide
  simp only [offset?, clockText, if_neg noLetter, if_pos sign', offsetPart?,
    digits?_two fitsHours, digits?_two_self fitsMinutes, if_pos atMostHours, if_pos atMostMinutes,
    Option.bind_eq_bind, Option.bind_some, expect?, if_true]

/-- The offset is read back. -/
theorem offset?_text (zone : Zone) : offset? zone.text = some (zone.offset, []) := by
  -- The letter is read as no offset, and each sign as its own.
  cases zone with
  | utc small => cases small <;> rfl
  | ahead hours minutes => exact offset?_clockText (.inl rfl) hours minutes
  | behind hours minutes => exact offset?_clockText (.inr rfl) hours minutes

/-- No fraction goes on with an offset. -/
theorem endsRun_text (zone : Zone) : EndsRun isFractionChar zone.text := by
  -- Neither a letter nor a sign is a digit or a point.
  cases zone with
  | utc small => cases small <;> exact endsRun_cons rfl _
  | ahead hours minutes => exact endsRun_cons rfl _
  | behind hours minutes => exact endsRun_cons rfl _

/-- An offset has no white space in it. -/
theorem solid_text (zone : Zone) : Blank.Solid zone.text := by
  -- It is a letter, or a sign before digits with a colon between them.
  cases zone with
  | utc small => cases small <;> exact .cons rfl (List.forall_mem_nil _)
  | ahead hours minutes => exact .cons rfl (solid_clockText _ _)
  | behind hours minutes => exact .cons rfl (solid_clockText _ _)

end Zone

namespace CivilTime

variable (time : CivilTime)

/-- The date, a separator and the time of day, with nothing for the offset. -/
def localText (separator : Char) : List Char :=
  dateText time.date
    ++ separator :: (clockText time.hour time.minute ++ secondText time.second time.fraction)

/-- The date and the time of day with the offset of the clock. -/
def text (separator : Char) (zone : Zone) : List Char :=
  time.localText separator ++ zone.text

/-- The date and the time to the minute; only a `T` joins them. -/
def minuteText : List Char :=
  dateText time.date ++ 'T' :: clockText time.hour time.minute

/-- The same time at the full minute. -/
def onTheMinute : CivilTime :=
  { time with second := 0, fraction := [], second_le := by omega, digits := by simp
              atMostNine := by simp }

/-- Midnight at the beginning of the same day. -/
def midnight : CivilTime :=
  { time.onTheMinute with hour := 0, minute := 0, hour_lt := by omega, minute_lt := by omega }

/-! ## The instant that is meant -/

/-- An instant is the time of a clock that is so many minutes ahead of UTC. -/
structure Denotes (offset : Int) (instant : Instant) : Prop where
  /-- The day is found by counting days from the first of January 1970. -/
  minute : ∃ day, time.date.HasNumber day
    ∧ instant.minute = day * 1440 + time.hour * 60 + time.minute - offset
  second : instant.second.val = time.second
  /-- The fraction is exact: neither side of the equation is rounded. -/
  nanosecond : instant.nanosecond.val * 10 ^ time.fraction.length
    = digitsValue time.fraction * 10 ^ 9

/-- The instant, by the number of the day. -/
def instant (offset : Int) : Instant where
  minute := time.date.dayNumber * 1440 + (time.hour * 60 + time.minute : Nat) - offset
  second := ⟨time.second, by have := time.second_le; omega⟩
  nanosecond := ⟨nanosecondsOf time.fraction, nanosecondsOf_lt time.digits time.atMostNine⟩

variable {time}

/-- A time denotes one instant for each offset. -/
theorem denotes_iff {offset : Int} {instant : Instant} :
    time.Denotes offset instant ↔ instant = time.instant offset := by
  -- The digits and the power of ten that fills them up to nine scale together.
  have scale : nanosecondsOf time.fraction * 10 ^ time.fraction.length
      = digitsValue time.fraction * 10 ^ 9 := by
    rw [nanosecondsOf, Nat.mul_assoc, ← Nat.pow_add, Nat.sub_add_cancel time.atMostNine]
  constructor
  · rintro ⟨⟨day, counted, minute⟩, second, nanosecond⟩
    -- The count of the days leads to the number that is computed for the date.
    obtain ⟨-, rfl⟩ := Date.hasNumber_iff.mp counted
    -- Both fractions are the same number of nanoseconds, as they are equal once scaled.
    have same := Nat.eq_of_mul_eq_mul_right (Nat.pow_pos (by decide)) (nanosecond.trans scale.symm)
    obtain ⟨minute', second', nanosecond'⟩ := instant
    simp only at minute second same
    simp only [CivilTime.instant, Instant.mk.injEq, Fin.ext_iff]
    exact ⟨by omega, second, same⟩
  · rintro rfl
    -- The instant of the time has these parts by definition.
    refine ⟨⟨_, Date.hasNumber_iff.mpr ⟨time.valid, rfl⟩, ?_⟩, rfl, scale⟩
    simp only [CivilTime.instant]
    omega

variable (time)

/-- The fields of the time make up the instant. -/
theorem ofCivil?_eq (offset : Int) :
    Instant.ofCivil? time.date time.hour time.minute time.second (nanosecondsOf time.fraction)
      offset = some (time.instant offset) := by
  have second := time.second_le
  have fromZero := time.fromZero
  have fourDigits := time.fourDigits
  have nanosecond := nanosecondsOf_lt time.digits time.atMostNine
  -- Four digits are far from the years that an instant cannot have.
  rw [Instant.ofCivil?, dif_pos ⟨by omega, nanosecond⟩,
    if_pos ⟨by omega, by omega, time.valid, time.hour_lt, time.minute_lt⟩]
  rfl

/-- The hour and the minute make up the instant of the full minute. -/
theorem ofCivil?_onTheMinute :
    Instant.ofCivil? time.date time.hour time.minute 0 0 0 = some (time.onTheMinute.instant 0) := by
  -- With no fraction there are no nanoseconds.
  have civil := time.onTheMinute.ofCivil?_eq 0
  rw [show time.onTheMinute.fraction = [] from rfl, nanosecondsOf_nil] at civil
  exact civil

/-! ## Reading -/

/-- The fields of the clock have two digits each. -/
theorem fits : time.hour < 100 ∧ time.minute < 100 ∧ time.second < 100 := by
  -- The largest values of a clock are below one hundred.
  have hour := time.hour_lt
  have minute := time.minute_lt
  have second := time.second_le
  omega

/-- With any of the separators the offset decides what is read first. -/
theorem withOffset?_localText {separator : Char} (joins : separator ∈ ['T', 't', ' '])
    {zone : List Char} (ends : EndsRun isFractionChar zone) :
    withOffset? (time.localText separator ++ zone)
      = (offset? zone).bind fun (offset, rest) =>
          if rest.isEmpty then some (time.instant offset) else none := by
  -- All fields are read, so what is made of them is left to the offset.
  obtain ⟨fitsHour, fitsMinute, fitsSecond⟩ := time.fits
  simp only [localText, List.append_assoc, List.cons_append,
    withOffset?_fields time.valid time.fromZero time.fourDigits fitsHour fitsMinute fitsSecond
      joins time.digits time.atMostNine ends, ofCivil?_eq]

/-- Without an offset no text is read as one with an offset. -/
theorem withOffset?_eq_none {separator : Char} (joins : separator ∈ ['T', 't', ' ']) :
    withOffset? (time.localText separator) = none := by
  have read := time.withOffset?_localText joins (endsRun_nil _)
  rw [List.append_nil] at read
  -- All fields are read, and then no text is left for the offset.
  exact read

/-- The time of day fills the text behind the separator. -/
theorem throughSeconds?_eq :
    throughSeconds? time.date (clockText time.hour time.minute
      ++ secondText time.second time.fraction) = some (time.instant 0) := by
  -- The clock and the seconds are read, and nothing stands behind them.
  obtain ⟨fitsHour, fitsMinute, fitsSecond⟩ := time.fits
  have read := throughSeconds?_fields time.date fitsHour fitsMinute fitsSecond time.digits
    time.atMostNine (endsRun_nil _)
  rw [List.append_nil, ofCivil?_eq] at read
  exact read

/-- The text has no white space at its ends. -/
theorem trim_text (separator : Char) {zone : List Char} (solid : Blank.Solid zone) :
    Blank.trim (time.localText separator ++ zone) = time.localText separator ++ zone := by
  -- The text begins with the date and ends with the seconds or what is behind them.
  have seconds : Blank.Solid (secondText time.second time.fraction) :=
    .append (.cons rfl (solid_zeroPadded _ _)) (solid_pointed time.digits)
  have trimmed := Blank.trim_solid (solid_dateText time.date) (dateText_ne_nil _)
    (seconds.append solid) (by simp [secondText])
    (separator :: clockText time.hour time.minute)
  simpa only [localText, List.append_assoc, List.cons_append] using trimmed

/-- A text with an offset is read as the instant at that offset. -/
theorem read?_text {separator : Char} (joins : separator ∈ ['T', 't', ' ']) (zone : Zone) :
    read? (String.ofList (time.text separator zone)) = some (time.instant zone.offset) := by
  -- The first reader takes the text, with the offset that the zone is.
  have first : withOffset? (time.text separator zone) = some (time.instant zone.offset) := by
    rw [text, time.withOffset?_localText joins zone.endsRun_text, zone.offset?_text]
    rfl
  rw [read?, String.toList_ofList, text, time.trim_text separator zone.solid_text, ← text]
  simp only [spellings, List.findSome?_cons, first]

/-- Without an offset the time is taken as UTC, whether a `T` or a space joins it to the date. -/
theorem read?_localText {separator : Char} (joins : separator ∈ ['T', ' ']) :
    read? (String.ofList (time.localText separator)) = some (time.instant 0) := by
  -- Trimming leaves the text as it is.
  have trimmed := time.trim_text separator (List.forall_mem_nil _)
  rw [List.append_nil] at trimmed
  rw [read?, String.toList_ofList, trimmed]
  simp only [List.mem_cons, List.not_mem_nil, or_false] at joins
  rcases joins with rfl | rfl
  · -- The second reader takes the `T`.
    have offset : withOffset? (time.localText 'T') = none := time.withOffset?_eq_none (by simp)
    have byT : joinedByT? (time.localText 'T') = some (time.instant 0) := by
      rw [localText, joinedByT?_dateText time.valid, expect?, if_pos rfl, Option.bind_some,
        time.throughSeconds?_eq]
    simp only [spellings, List.findSome?_cons, offset, byT]
  · -- It does not take the space, which the third reader skips.
    have offset : withOffset? (time.localText ' ') = none := time.withOffset?_eq_none (by simp)
    have byT : joinedByT? (time.localText ' ') = none := by
      rw [localText, joinedByT?_dateText time.valid]
      rfl
    have space : ∀ c ∈ [' '], Blank.isBlank c = true := List.forall_mem_singleton.mpr rfl
    have clock : clockText time.hour time.minute ≠ [] := by simp [clockText]
    have byBlanks : joinedByBlanks? (time.localText ' ') = some (time.instant 0) := by
      rw [localText, joinedByBlanks?_dateText time.valid, ← List.singleton_append,
        Blank.skip_append space, Blank.skip_solid (solid_clockText _ _) clock,
        time.throughSeconds?_eq]
    simp only [spellings, List.findSome?_cons, offset, byT, byBlanks]

/-- A time to the minute is read as that minute's beginning. -/
theorem read?_minuteText :
    read? (String.ofList time.minuteText) = some (time.onTheMinute.instant 0) := by
  obtain ⟨fitsHour, fitsMinute, -⟩ := time.fits
  have valid := time.valid
  have solid : Blank.isBlank 'T' = false := rfl
  have trimmed : Blank.trim time.minuteText = time.minuteText :=
    Blank.trim_of_solid (.append (solid_dateText _) (.cons solid (solid_clockText _ _)))
  rw [read?, String.toList_ofList, trimmed]
  -- The first three readers look for seconds.
  have offset : withOffset? time.minuteText = none :=
    withOffset?_clockText valid time.fromZero time.fourDigits fitsHour fitsMinute
  have byT : joinedByT? time.minuteText = none := by
    rw [minuteText, joinedByT?_dateText valid, expect?, if_pos rfl, Option.bind_some,
      throughSeconds?_clockText _ fitsHour fitsMinute]
  have byBlanks : joinedByBlanks? time.minuteText = none := by
    rw [minuteText, joinedByBlanks?_dateText valid, Blank.skip_eq_self (endsRun_cons solid _),
      throughSeconds?_mark _ solid rfl]
  have clock := clock?_clockText fitsHour fitsMinute []
  rw [List.append_nil] at clock
  have minute : toTheMinute? time.minuteText = some (time.onTheMinute.instant 0) := by
    rw [minuteText, toTheMinute?_dateText valid, expect?, if_pos rfl, Option.bind_some, clock]
    exact time.ofCivil?_onTheMinute
  simp only [spellings, List.findSome?_cons, offset, byT, byBlanks, minute]

/-- A date alone is read as its midnight. -/
theorem read?_dateText :
    read? (String.ofList (dateText time.date)) = some (time.midnight.instant 0) := by
  have valid := time.valid
  have trimmed := Blank.trim_of_solid (solid_dateText time.date)
  rw [read?, String.toList_ofList, trimmed]
  -- The first four readers look for a time of day.
  have ends := List.append_nil (dateText time.date)
  have offset := withOffset?_dateText valid time.fromZero time.fourDigits
  have byT : joinedByT? (dateText time.date) = none := by
    rw [← ends, joinedByT?_dateText valid]
    rfl
  have byBlanks : joinedByBlanks? (dateText time.date) = none := by
    rw [← ends, joinedByBlanks?_dateText valid]
    rfl
  have minute : toTheMinute? (dateText time.date) = none := by
    rw [← ends, toTheMinute?_dateText valid]
    rfl
  have alone : dateAlone? (dateText time.date) = some (time.midnight.instant 0) := by
    -- Nothing stands behind the date, as the reader demands.
    rw [← ends, dateAlone?_dateText valid]
    exact time.midnight.ofCivil?_onTheMinute
  simp only [spellings, List.findSome?_cons, offset, byT, byBlanks, minute, alone]

/-- With `:00` behind it, the time to the minute spells the full minute. -/
theorem minuteText_append : time.minuteText ++ ":00".toList = time.onTheMinute.localText 'T' := by
  -- The seconds of the full minute are two zeros, with no fraction.
  have zeros : secondText 0 [] = ":00".toList := by decide
  rw [minuteText, localText, List.append_assoc, List.cons_append, ← zeros]
  rfl

/-- With `T00:00:00` behind it, the date spells its midnight. -/
theorem dateText_append :
    dateText time.date ++ "T00:00:00".toList = time.midnight.localText 'T' := by
  -- The fields of midnight are zeros.
  have zeros : 'T' :: (clockText 0 0 ++ secondText 0 []) = "T00:00:00".toList := by decide
  rw [localText, ← zeros]
  rfl

/-! ## All spellings together -/

/-- What holds of all the texts that spell a date and a time of day. -/
structure ReadAlike : Prop where
  /-- With an offset a text is read as the instant of a clock that is so far ahead of UTC. -/
  withOffset : ∀ separator ∈ ['T', 't', ' '], ∀ zone : Zone,
    ∃ instant, time.Denotes zone.offset instant
      ∧ read? (String.ofList (time.text separator zone)) = some instant
  /-- Without an offset it is read as the text with a `Z` is. -/
  withoutOffset : ∀ separator ∈ ['T', ' '],
    read? (String.ofList (time.localText separator))
      = read? (String.ofList (time.text 'T' (.utc false)))
  /-- Without seconds it is read as the text with `:00` is. -/
  withoutSeconds :
    ∃ instant, time.onTheMinute.Denotes 0 instant
      ∧ read? (String.ofList time.minuteText) = some instant
      ∧ read? (String.ofList (time.minuteText ++ ":00".toList)) = some instant
  /-- Without a time of day it is read as the text with `T00:00:00` is. -/
  withoutTime :
    ∃ instant, time.midnight.Denotes 0 instant
      ∧ read? (String.ofList (dateText time.date)) = some instant
      ∧ read? (String.ofList (dateText time.date ++ "T00:00:00".toList)) = some instant
  /-- Two texts with any offsets are read alike exactly when they denote one instant. -/
  sameInstant : ∀ other : CivilTime, ∀ separator ∈ ['T', 't', ' '],
    ∀ separator' ∈ ['T', 't', ' '], ∀ zone zone' : Zone,
      read? (String.ofList (time.text separator zone))
          = read? (String.ofList (other.text separator' zone'))
        ↔ ∃ instant, time.Denotes zone.offset instant ∧ other.Denotes zone'.offset instant

/--
All spellings of a date and a time of day are read as the instant that they denote.

The day is counted from the first of January 1970, the fraction is kept to the nanosecond and the
offset is taken off. White space around a text of any kind makes no difference.
-/
theorem spellings_agree :
    time.ReadAlike
      ∧ ∀ before behind text : List Char, (∀ c ∈ before, Blank.isBlank c = true) →
        (∀ c ∈ behind, Blank.isBlank c = true) →
        read? (String.ofList (before ++ text ++ behind)) = read? (String.ofList text) := by
  constructor
  · constructor
    case withOffset =>
      intro separator joins zone
      exact ⟨_, denotes_iff.mpr rfl, time.read?_text joins zone⟩
    case withoutOffset =>
      intro separator joins
      rw [time.read?_localText joins, time.read?_text (by simp)]
      rfl
    case withoutSeconds =>
      refine ⟨_, denotes_iff.mpr rfl, time.read?_minuteText, ?_⟩
      rw [time.minuteText_append, time.onTheMinute.read?_localText (by simp)]
    case withoutTime =>
      refine ⟨_, denotes_iff.mpr rfl, time.read?_dateText, ?_⟩
      rw [time.dateText_append, time.midnight.read?_localText (by simp)]
    case sameInstant =>
      intro other separator joins separator' joins' zone zone'
      rw [time.read?_text joins, other.read?_text joins', Option.some.injEq]
      simp only [denotes_iff]
      -- Each of the two denotes one instant only.
      exact ⟨fun same => ⟨_, rfl, same⟩, fun ⟨_, here, there⟩ => here.symm.trans there⟩
  -- The blanks are trimmed off before any reader sees the text.
  · intro before behind text blank blank'
    simp only [read?, String.toList_ofList, Blank.trim_append blank blank']

/-- In the middle of the leap second at the end of 2016, as a clock in UTC shows it. -/
def leapSecond : CivilTime where
  date := ⟨2016, 12, 31⟩
  hour := 23
  minute := 59
  second := 60
  fraction := ['5']
  valid := by decide
  fromZero := by decide
  fourDigits := by decide
  hour_lt := by decide
  minute_lt := by decide
  second_le := by decide
  digits := List.forall_mem_singleton.mpr rfl
  atMostNine := by decide

/-- The same leap second, as a clock shows it that is five and a half hours ahead. -/
def leapSecondAhead : CivilTime where
  date := ⟨2017, 1, 1⟩
  hour := 5
  minute := 29
  second := 60
  fraction := ['5', '0']
  valid := by decide
  fromZero := by decide
  fourDigits := by decide
  hour_lt := by decide
  minute_lt := by decide
  second_le := by decide
  digits := List.forall_mem_cons.mpr ⟨rfl, List.forall_mem_singleton.mpr rfl⟩
  atMostNine := by decide

/-- The leap second is read alike with blanks around it, and with the offset of another clock. -/
theorem spellings_agree_leapSecond :
    read? "\t2016-12-31 23:59:60.5\n " = read? "2016-12-31T23:59:60.5Z"
      ∧ read? "2016-12-31T23:59:60.5Z" = read? "2017-01-01t05:29:60.50+05:30" := by
  obtain ⟨alike, blanks⟩ := spellings_agree leapSecond
  constructor
  · have before : ∀ c ∈ ['\t'], Blank.isBlank c = true := List.forall_mem_singleton.mpr rfl
    have behind : ∀ c ∈ ['\n', ' '], Blank.isBlank c = true :=
      List.forall_mem_cons.mpr ⟨rfl, List.forall_mem_singleton.mpr rfl⟩
    -- The blanks come off, and a `T` and a `Z` make no difference then.
    have around := blanks ['\t'] ['\n', ' '] (leapSecond.localText ' ') before behind
    exact around.trans (alike.withoutOffset ' ' (by decide))
  · -- The two clocks are 330 minutes apart, and it is second 60 on both of them.
    have same : leapSecond.instant 0 = leapSecondAhead.instant 330 := by decide
    exact (alike.sameInstant leapSecondAhead 'T' (by decide) 't' (by decide) (.utc false)
      (.ahead 5 30)).mpr ⟨_, denotes_iff.mpr rfl, denotes_iff.mpr same⟩

end CivilTime

end RoomAir
