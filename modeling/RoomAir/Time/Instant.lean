import RoomAir.Time.Calendar

/-! Instants to the nanosecond, leap seconds included, their order and their standard text. -/

namespace RoomAir

/-- An instant in UTC, a leap second being second 60 of its minute. -/
structure Instant where
  /-- Minutes from 1970-01-01T00:00. -/
  minute : Int
  /-- The second within the minute. -/
  second : Fin 61
  /-- The nanosecond within the second. -/
  nanosecond : Fin 1000000000
  deriving DecidableEq, Repr

/-- The digits of a number with zeros in front up to a width. -/
def zeroPadded (width value : Nat) : List Char :=
  let digits := Nat.toDigits 10 value
  List.replicate (width - digits.length) '0' ++ digits

namespace Instant

/-- The instants' place in time as one number, so that earlier instants have smaller ranks. -/
def rank (time : Instant) : Int :=
  (time.minute * 61 + time.second.val) * 1000000000 + time.nanosecond.val

/-- Whether an instant is no later than another. -/
def notAfter (earlier later : Instant) : Bool :=
  decide (earlier.rank ≤ later.rank)

/-- The date of the instant. -/
def date (time : Instant) : Date :=
  Date.ofDayNumber (time.minute / 1440)

/-- The hour of the day. -/
def hour (time : Instant) : Nat :=
  (time.minute % 1440).toNat / 60

/-- The minute of the hour. -/
def minuteOfHour (time : Instant) : Nat :=
  (time.minute % 1440).toNat % 60

/-- Seconds from the start of 1970, a leap second sharing the number of the second before it. -/
def unixSeconds (time : Instant) : Int :=
  time.minute * 60 + (min time.second.val 59 : Nat)

/-- Nanoseconds past the Unix second, a thousand million or more in a leap second. -/
def nanosecondsPast (time : Instant) : Nat :=
  if time.second.val = 60 then 1000000000 + time.nanosecond.val else time.nanosecond.val

/-- Whole milliseconds from the start of 1970. -/
def milliseconds (time : Instant) : Int :=
  time.unixSeconds * 1000 + (time.nanosecondsPast / 1000000 : Nat)

/-- The instant of a date and time of day that lies the given minutes ahead of UTC. -/
def ofCivil? (date : Date) (hour minute second nanosecond : Nat) (offset : Int) : Option Instant :=
  if bounds : second < 61 ∧ nanosecond < 1000000000 then
    -- These are the years for which dates are supported.
    if -262143 ≤ date.year ∧ date.year ≤ 262142 ∧ date.isValid ∧ hour < 24 ∧ minute < 60 then
      some {
        minute := date.dayNumber * 1440 + (hour * 60 + minute : Nat) - offset
        second := ⟨second, bounds.1⟩
        nanosecond := ⟨nanosecond, bounds.2⟩ }
    else none
  else none

/-- A year in four digits, one outside of those with a sign. -/
def yearText (year : Int) : List Char :=
  if year < 0 then '-' :: zeroPadded 4 year.natAbs
  else if 9999 < year then '+' :: zeroPadded 4 year.natAbs
  else zeroPadded 4 year.natAbs

/-- The fraction of a second in the fewest groups of three digits that hold it exactly. -/
def fractionText (nanosecond : Nat) : List Char :=
  if nanosecond = 0 then []
  else if nanosecond % 1000000 = 0 then '.' :: zeroPadded 3 (nanosecond / 1000000)
  else if nanosecond % 1000 = 0 then '.' :: zeroPadded 6 (nanosecond / 1000)
  else '.' :: zeroPadded 9 nanosecond

/-- The date, a capital T and the time, with nothing for the offset. -/
def localText (time : Instant) : List Char :=
  let date := time.date
  yearText date.year ++ '-' :: zeroPadded 2 date.month ++ '-' :: zeroPadded 2 date.day
    ++ 'T' :: zeroPadded 2 time.hour ++ ':' :: zeroPadded 2 time.minuteOfHour
    ++ ':' :: zeroPadded 2 time.second.val ++ fractionText time.nanosecond.val

/-- The text of the instant in data: RFC 3339 with `Z` for the offset. -/
def text (time : Instant) : String :=
  String.ofList (time.localText ++ ['Z'])

end Instant

end RoomAir
