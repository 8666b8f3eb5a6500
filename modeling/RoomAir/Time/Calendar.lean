/-! The proleptic Gregorian calendar: dates, day numbers, weekdays and week numbers. -/

namespace RoomAir

/-- A calendar date, the year before year one being year zero. -/
structure Date where
  year : Int
  /-- From one for January. -/
  month : Nat
  /-- From one. -/
  day : Nat
  deriving DecidableEq, Repr

namespace Calendar

/-- Whether a year has a 29th of February. -/
def isLeap (year : Int) : Bool :=
  year % 4 = 0 && (year % 100 ≠ 0 || year % 400 = 0)

/-- The lengths of the twelve months of a year. -/
def monthLengths (year : Int) : List Nat :=
  [31, if isLeap year then 29 else 28, 31, 30, 31, 30, 31, 31, 30, 31, 30, 31]

/-- Days from 0001-01-01 to the first day of a year. -/
def daysBeforeYear (year : Int) : Int :=
  let past := year - 1
  365 * past + past / 4 - past / 100 + past / 400

/-- Days from 0001-01-01 to 1970-01-01. -/
def epochDay : Int := 719162

/-- The year that holds the day so many days after 0001-01-01. -/
def yearOfDay (day : Int) : Int :=
  -- The average year gives a guess that is at most one year off.
  let guess := day * 400 / 146097 + 1
  if day < daysBeforeYear guess then guess - 1
  else if daysBeforeYear (guess + 1) ≤ day then guess + 1
  else guess

/-- The month and day of a day counted from zero, the lengths being those from `month` on. -/
def locate : List Nat → Nat → Nat → Nat × Nat
  | [], month, index => (month, index + 1)
  | length :: lengths, month, index =>
    if index < length then (month, index + 1) else locate lengths (month + 1) (index - length)

end Calendar

namespace Date

/-- Whether the month exists and has the day. -/
def isValid (date : Date) : Bool :=
  match (Calendar.monthLengths date.year)[date.month - 1]? with
  | some length => 1 ≤ date.month && 1 ≤ date.day && date.day ≤ length
  | none => false

/-- The day of the year, from one. -/
def ordinal (date : Date) : Nat :=
  ((Calendar.monthLengths date.year).take (date.month - 1)).foldl (· + ·) date.day

/-- Days from 1970-01-01. -/
def dayNumber (date : Date) : Int :=
  Calendar.daysBeforeYear date.year + date.ordinal - 1 - Calendar.epochDay

/-- The date so many days after 1970-01-01. -/
def ofDayNumber (number : Int) : Date :=
  let day := number + Calendar.epochDay
  let year := Calendar.yearOfDay day
  let (month, dayOfMonth) :=
    Calendar.locate (Calendar.monthLengths year) 1 (day - Calendar.daysBeforeYear year).toNat
  { year, month, day := dayOfMonth }

/-- The weekday counted from zero for Monday. -/
def weekday (date : Date) : Nat :=
  -- The first of January 1970 was a Thursday.
  ((date.dayNumber + 3) % 7).toNat

/-- The number of the week, weeks beginning on the given weekday and the first one being whole. -/
def weekFrom (date : Date) (first : Nat) : Nat :=
  (date.ordinal + 6 - (date.weekday + 7 - first) % 7) / 7

/-- How many weeks that begin on Monday belong to a year, each to the year of its Thursday. -/
def isoWeeksIn (year : Int) : Nat :=
  let first := weekday ⟨year, 1, 1⟩
  if first = 3 ∨ (first = 2 ∧ Calendar.isLeap year) then 53 else 52

/-- The week-based year and the number of the week in it. -/
def isoWeek (date : Date) : Int × Nat :=
  let week := (date.ordinal + 9 - date.weekday) / 7
  if week = 0 then (date.year - 1, isoWeeksIn (date.year - 1))
  else if isoWeeksIn date.year < week then (date.year + 1, 1)
  else (date.year, week)

end Date

end RoomAir
