import RoomAir.Number.Literal
import RoomAir.Text.Classes
import RoomAir.Time.Instant

/-! The spellings of a timestamp that sensors are known to emit. -/

namespace RoomAir.Timestamp

/-- Between `least` and `most` digits as a number, and the text after them. -/
def digits? (least most : Nat) (text : List Char) : Option (Nat × List Char) :=
  let run := (text.take most).takeWhile Char.isDigit
  if run.length < least then none else some (digitsValue run, text.drop run.length)

/-- Any number of digits from one on, and the text after them. -/
def allDigits? (text : List Char) : Option (Nat × List Char) :=
  digits? 1 text.length text

/-- The text after one expected character. -/
def expect? (expected : Char) : List Char → Option (List Char)
  | [] => none
  | c :: rest => if c = expected then some rest else none

/-- Digits after the point as nanoseconds, those past the ninth being dropped. -/
def fraction? (text : List Char) : Option (Nat × List Char) := do
  let (value, rest) ← digits? 1 9 text
  let count := text.length - rest.length
  some (value * 10 ^ (9 - count), rest.dropWhile Char.isDigit)

/-- An optional point with digits as nanoseconds. -/
def optionalFraction? : List Char → Option (Nat × List Char)
  | '.' :: rest => fraction? rest
  | text => some (0, text)

/-- Two digits of an offset's hours or minutes, up to a limit. -/
def offsetPart? (limit : Nat) (text : List Char) : Option (Nat × List Char) := do
  let (value, rest) ← digits? 2 2 text
  if value ≤ limit then some (value, rest) else none

/-- An offset from UTC in minutes: `Z`, or a sign with hours and minutes of less than a day. -/
def offset? : List Char → Option (Int × List Char)
  | [] => none
  | sign :: rest =>
    if sign = 'Z' ∨ sign = 'z' then some (0, rest)
    -- The minus may be the ASCII one or the mathematical one.
    else if sign = '+' ∨ sign = '-' ∨ sign = '\u2212' then do
      let (hours, rest) ← offsetPart? 23 rest
      let rest ← expect? ':' rest
      let (minutes, rest) ← offsetPart? 59 rest
      let total : Int := (hours * 60 + minutes : Nat)
      some (if sign = '+' then total else -total, rest)
    else none

/-- Reads a date and time with an offset, every field at its full width. -/
def withOffset? (text : List Char) : Option Instant := do
  let (year, rest) ← digits? 4 4 text
  let (month, rest) ← digits? 2 2 (← expect? '-' rest)
  let (day, rest) ← digits? 2 2 (← expect? '-' rest)
  let separator :: rest := rest | none
  if separator = 'T' ∨ separator = 't' ∨ separator = ' ' then
    let (hour, rest) ← digits? 2 2 rest
    let (minute, rest) ← digits? 2 2 (← expect? ':' rest)
    let (second, rest) ← digits? 2 2 (← expect? ':' rest)
    let (nanosecond, rest) ← optionalFraction? rest
    let (offset, rest) ← offset? rest
    if rest.isEmpty then Instant.ofCivil? ⟨year, month, day⟩ hour minute second nanosecond offset
    else none
  else none

/-- A field of at most two digits after any white space. -/
def field? (text : List Char) : Option (Nat × List Char) :=
  digits? 1 2 (Blank.skip text)

/-- A year after any white space: up to four digits, or a sign and any number of them. -/
def year? (text : List Char) : Option (Int × List Char) :=
  match Blank.skip text with
  | '-' :: rest => (allDigits? rest).map fun (value, rest) => (-value, rest)
  | '+' :: rest => (allDigits? rest).map fun (value, rest) => (value, rest)
  | rest => (digits? 1 4 rest).map fun (value, rest) => (value, rest)

/-- A date whose fields may have fewer digits than usual. -/
def date? (text : List Char) : Option (Date × List Char) := do
  let (year, rest) ← year? text
  let (month, rest) ← field? (← expect? '-' rest)
  let (day, rest) ← field? (← expect? '-' rest)
  some (⟨year, month, day⟩, rest)

/-- Hours and minutes whose fields may have fewer digits than usual. -/
def clock? (text : List Char) : Option (Nat × Nat × List Char) := do
  let (hour, rest) ← field? text
  let (minute, rest) ← field? (← expect? ':' rest)
  some (hour, minute, rest)

/-- Reads the time after a date, with seconds and perhaps a fraction, taken as UTC. -/
def throughSeconds? (date : Date) (text : List Char) : Option Instant := do
  let (hour, minute, rest) ← clock? text
  let (second, rest) ← field? (← expect? ':' rest)
  let (nanosecond, rest) ← optionalFraction? rest
  if rest.isEmpty then Instant.ofCivil? date hour minute second nanosecond 0 else none

/-- Reads a date and time joined by a capital T, taken as UTC. -/
def joinedByT? (text : List Char) : Option Instant := do
  let (date, rest) ← date? text
  throughSeconds? date (← expect? 'T' rest)

/-- Reads a date and time with any white space between, even none, taken as UTC. -/
def joinedByBlanks? (text : List Char) : Option Instant := do
  let (date, rest) ← date? text
  throughSeconds? date (Blank.skip rest)

/-- Reads a date and a time to the minute joined by a capital T, taken as UTC. -/
def toTheMinute? (text : List Char) : Option Instant := do
  let (date, rest) ← date? text
  let (hour, minute, rest) ← clock? (← expect? 'T' rest)
  if rest.isEmpty then Instant.ofCivil? date hour minute 0 0 0 else none

/-- Reads a bare date as its midnight in UTC. -/
def dateAlone? (text : List Char) : Option Instant := do
  let (date, rest) ← date? text
  if rest.isEmpty then Instant.ofCivil? date 0 0 0 0 0 else none

/-- The accepted spellings, in the order in which they are tried. -/
def spellings : List (List Char → Option Instant) :=
  [withOffset?, joinedByT?, joinedByBlanks?, toTheMinute?, dateAlone?]

/-- The instant that a text spells, white space around it aside. -/
def read? (text : String) : Option Instant :=
  let trimmed := Blank.trim text.toList
  spellings.findSome? (· trimmed)

end RoomAir.Timestamp
