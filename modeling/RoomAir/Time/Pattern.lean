import RoomAir.Time.Instant

/-! Patterns that say how a table shows a time: percent conversions among literal text. -/

namespace RoomAir

/-- What fills the places in front of a short number. -/
inductive Pad where
  | nothing
  | zero
  | space
  deriving DecidableEq, Repr

/-- A numeric part of a time. -/
inductive Field where
  | year
  | century
  | yearOfCentury
  | weekYear
  | weekYearOfCentury
  | quarter
  | month
  | day
  | weekFromSunday
  | weekFromMonday
  | isoWeek
  | weekdayFromSunday
  | weekdayFromMonday
  | dayOfYear
  | hour
  | hourOfHalfDay
  | minute
  | second
  | nanosecond
  | unixSeconds
  deriving DecidableEq, Repr

/-- How much of the offset from UTC is written. -/
inductive OffsetStyle where
  | compact
  | toTheMinute
  | toTheSecond
  | hours
  deriving DecidableEq, Repr

/-- One item of a pattern. -/
inductive PatternItem where
  | literal (c : Char)
  | number (field : Field) (pad : Pad)
  | monthName (short : Bool)
  | weekdayName (short : Bool)
  | halfDay (lower : Bool)
  | zoneName
  /-- A point and the digits of the second's fraction, nothing for a whole second. -/
  | fraction
  /-- Exactly three, six or nine digits of the fraction, perhaps behind a point. -/
  | fractionDigits (count : Nat) (point : Bool)
  | offset (style : OffsetStyle)
  /-- The whole instant in its standard text with the offset in digits. -/
  | standard
  /-- A conversion that is recognised when reading times but has no rendering. -/
  | readOnly
  /-- A percent sign that begins no conversion. -/
  | invalid
  deriving DecidableEq, Repr

/-- A pattern as its items in order. -/
abbrev TimePattern := List PatternItem

namespace TimePattern

/-- Month, day and year of the century with strokes between. -/
def shortDate : TimePattern :=
  [.number .month .zero, .literal '/', .number .day .zero, .literal '/',
   .number .yearOfCentury .zero]

/-- Year, month and day with hyphens between. -/
def isoDate : TimePattern :=
  [.number .year .zero, .literal '-', .number .month .zero, .literal '-', .number .day .zero]

/-- Hour and minute with a colon between. -/
def hourMinute : TimePattern :=
  [.number .hour .zero, .literal ':', .number .minute .zero]

/-- Hour, minute and second with colons between. -/
def clock : TimePattern :=
  hourMinute ++ [.literal ':', .number .second .zero]

/-- Hour of the half day, minute and second, and which half it is. -/
def halfDayClock : TimePattern :=
  [.number .hourOfHalfDay .zero, .literal ':', .number .minute .zero, .literal ':',
   .number .second .zero, .literal ' ', .halfDay false]

/-- Weekday, month, day, time and year. -/
def dateAndTime : TimePattern :=
  [.weekdayName true, .literal ' ', .monthName true, .literal ' ', .number .day .space,
   .literal ' '] ++ clock ++ [.literal ' ', .number .year .zero]

/-- Day, month and year with hyphens between. -/
def dayMonthYear : TimePattern :=
  [.number .day .space, .literal '-', .monthName true, .literal '-', .number .year .zero]

/-- What a conversion of one letter stands for. -/
def conversion : Char → TimePattern
  | 'A' => [.weekdayName false]
  | 'a' => [.weekdayName true]
  | 'B' => [.monthName false]
  | 'b' | 'h' => [.monthName true]
  | 'C' => [.number .century .zero]
  | 'c' => dateAndTime
  | 'D' | 'x' => shortDate
  | 'd' => [.number .day .zero]
  | 'e' => [.number .day .space]
  | 'F' => isoDate
  | 'f' => [.number .nanosecond .zero]
  | 'G' => [.number .weekYear .zero]
  | 'g' => [.number .weekYearOfCentury .zero]
  | 'H' => [.number .hour .zero]
  | 'I' => [.number .hourOfHalfDay .zero]
  | 'j' => [.number .dayOfYear .zero]
  | 'k' => [.number .hour .space]
  | 'l' => [.number .hourOfHalfDay .space]
  | 'M' => [.number .minute .zero]
  | 'm' => [.number .month .zero]
  | 'n' => [.literal '\n']
  | 'P' => [.halfDay true]
  | 'p' => [.halfDay false]
  | 'q' => [.number .quarter .nothing]
  | 'R' => hourMinute
  | 'r' => halfDayClock
  | 'S' => [.number .second .zero]
  | 's' => [.number .unixSeconds .nothing]
  | 'T' | 'X' => clock
  | 't' => [.literal '\t']
  | 'U' => [.number .weekFromSunday .zero]
  | 'u' => [.number .weekdayFromMonday .nothing]
  | 'V' => [.number .isoWeek .zero]
  | 'v' => dayMonthYear
  | 'W' => [.number .weekFromMonday .zero]
  | 'w' => [.number .weekdayFromSunday .nothing]
  | 'Y' => [.number .year .zero]
  | 'y' => [.number .yearOfCentury .zero]
  | 'Z' => [.zoneName]
  | 'z' => [.offset .compact]
  | '+' => [.standard]
  | '%' => [.literal '%']
  | _ => [.invalid]

/-- What a conversion with a padding mark stands for: the mark fits single numbers only. -/
def padded (pad : Pad) (letter : Char) : TimePattern :=
  match conversion letter with
  | [.number field _] => [.number field pad]
  | _ => [.invalid]

/-- The items of a pattern's text. -/
def ofChars : List Char → TimePattern
  | [] => []
  | '%' :: ':' :: ':' :: ':' :: 'z' :: rest => .offset .hours :: ofChars rest
  | '%' :: ':' :: ':' :: 'z' :: rest => .offset .toTheSecond :: ofChars rest
  | '%' :: ':' :: 'z' :: rest => .offset .toTheMinute :: ofChars rest
  | '%' :: '#' :: 'z' :: rest => .readOnly :: ofChars rest
  | '%' :: '.' :: 'f' :: rest => .fraction :: ofChars rest
  | '%' :: '.' :: '3' :: 'f' :: rest => .fractionDigits 3 true :: ofChars rest
  | '%' :: '.' :: '6' :: 'f' :: rest => .fractionDigits 6 true :: ofChars rest
  | '%' :: '.' :: '9' :: 'f' :: rest => .fractionDigits 9 true :: ofChars rest
  | '%' :: '3' :: 'f' :: rest => .fractionDigits 3 false :: ofChars rest
  | '%' :: '6' :: 'f' :: rest => .fractionDigits 6 false :: ofChars rest
  | '%' :: '9' :: 'f' :: rest => .fractionDigits 9 false :: ofChars rest
  | '%' :: '-' :: letter :: rest => padded .nothing letter ++ ofChars rest
  | '%' :: '0' :: letter :: rest => padded .zero letter ++ ofChars rest
  | '%' :: '_' :: letter :: rest => padded .space letter ++ ofChars rest
  | '%' :: letter :: rest => conversion letter ++ ofChars rest
  | '%' :: [] => [.invalid]
  | c :: rest => .literal c :: ofChars rest

/-- The items of a pattern's text. -/
def ofText (text : String) : TimePattern :=
  ofChars text.toList

/-- Whether every percent sign begins a conversion, which is what settings are checked for. -/
def isAccepted (pattern : TimePattern) : Bool :=
  !pattern.contains .invalid

/-- A number in two places, its tens shown by the character so many places after zero. -/
def twoPlaces (pad : Pad) (value : Nat) : List Char :=
  let ones := Char.ofNat ('0'.toNat + value % 10)
  match value / 10, pad with
  | 0, .nothing => [ones]
  | 0, .space => [' ', ones]
  | tens, _ => [Char.ofNat ('0'.toNat + tens), ones]

/-- A number padded to a width that counts the sign, which zeros follow and spaces precede. -/
def signed (width : Nat) (pad : Pad) (plus : Bool) (value : Int) : List Char :=
  let sign := if value < 0 then ['-'] else if plus then ['+'] else []
  let digits := Nat.toDigits 10 value.natAbs
  let missing := width - (sign.length + digits.length)
  match pad with
  | .nothing => sign ++ digits
  | .zero => sign ++ List.replicate missing '0' ++ digits
  | .space => List.replicate missing ' ' ++ sign ++ digits

/-- A year in four places, one that needs more or is negative in five places with its sign. -/
def yearPlaces (pad : Pad) (year : Int) : List Char :=
  if 0 ≤ year ∧ year ≤ 9999 then signed 4 pad false year else signed 5 pad true year

/-- The hour on a clock of twelve hours. -/
def hourOfHalfDay (time : Instant) : Nat :=
  if time.hour % 12 = 0 then 12 else time.hour % 12

/-- A numeric part of a time in its usual number of places. -/
def renderField (time : Instant) (pad : Pad) : Field → List Char
  | .year => yearPlaces pad time.date.year
  -- The century is kept to one byte before its two places are written.
  | .century => twoPlaces pad (time.date.year / 100 % 256).toNat
  | .yearOfCentury => twoPlaces pad (time.date.year % 100).toNat
  | .weekYear => yearPlaces pad time.date.isoWeek.1
  | .weekYearOfCentury => twoPlaces pad (time.date.isoWeek.1 % 100).toNat
  | .quarter => Nat.toDigits 10 ((time.date.month + 2) / 3)
  | .month => twoPlaces pad time.date.month
  | .day => twoPlaces pad time.date.day
  | .weekFromSunday => twoPlaces pad (time.date.weekFrom 6)
  | .weekFromMonday => twoPlaces pad (time.date.weekFrom 0)
  | .isoWeek => twoPlaces pad time.date.isoWeek.2
  | .weekdayFromSunday => Nat.toDigits 10 ((time.date.weekday + 1) % 7)
  | .weekdayFromMonday => Nat.toDigits 10 (time.date.weekday + 1)
  | .dayOfYear => signed 3 pad false time.date.ordinal
  | .hour => twoPlaces pad time.hour
  | .hourOfHalfDay => twoPlaces pad (hourOfHalfDay time)
  | .minute => twoPlaces pad time.minuteOfHour
  | .second => twoPlaces pad time.second.val
  | .nanosecond => signed 9 pad false time.nanosecond.val
  | .unixSeconds => signed 9 pad false time.unixSeconds

/-- The names of the months, from January. -/
def monthNames : List String :=
  ["January", "February", "March", "April", "May", "June", "July", "August", "September",
   "October", "November", "December"]

/-- The names of the weekdays, from Monday. -/
def weekdayNames : List String :=
  ["Monday", "Tuesday", "Wednesday", "Thursday", "Friday", "Saturday", "Sunday"]

/-- A name out of a list, or its first three letters. -/
def nameAt (names : List String) (index : Nat) (short : Bool) : List Char :=
  let name := (names[index]?.getD "").toList
  if short then name.take 3 else name

/-- The offset of UTC in a style. -/
def offsetText : OffsetStyle → String
  | .compact => "+0000"
  | .toTheMinute => "+00:00"
  | .toTheSecond => "+00:00:00"
  | .hours => "+00"

/-- The text of one item for a time in UTC, if it has one. -/
def renderItem? (time : Instant) : PatternItem → Option (List Char)
  | .literal c => some [c]
  | .number field pad => some (renderField time pad field)
  | .monthName short => some (nameAt monthNames (time.date.month - 1) short)
  | .weekdayName short => some (nameAt weekdayNames time.date.weekday short)
  | .halfDay lower =>
    some (match decide (time.hour < 12), lower with
      | true, true => "am".toList
      | true, false => "AM".toList
      | false, true => "pm".toList
      | false, false => "PM".toList)
  | .zoneName => some "UTC".toList
  | .fraction => some (Instant.fractionText time.nanosecond.val)
  | .fractionDigits count point =>
    let digits := (zeroPadded 9 time.nanosecond.val).take count
    some (if point then '.' :: digits else digits)
  | .offset style => some (offsetText style).toList
  | .standard => some (time.localText ++ (offsetText .toTheMinute).toList)
  | .readOnly => none
  | .invalid => none

/-- The text of a pattern for a time in UTC, if all of its items have one. -/
def render? (pattern : TimePattern) (time : Instant) : Option String :=
  (pattern.mapM (renderItem? time)).map fun parts => String.ofList parts.flatten

end TimePattern

end RoomAir
