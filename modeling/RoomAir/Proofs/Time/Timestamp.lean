import RoomAir.Proofs.Text.Blank
import RoomAir.Proofs.Time.Calendar
import RoomAir.Time.Timestamp

/-! The text of an instant is read as that instant, to the nanosecond and in a leap second. -/

namespace RoomAir

/-! ## Fields of fixed width -/

section Fields

variable {width value : Nat}

/-- Zeros in front fill a field that is wide enough. -/
theorem length_zeroPadded (positive : 0 < width) (fits : value < 10 ^ width) :
    (zeroPadded width value).length = width := by
  -- The digits need no more than the width, so the zeros make up the difference.
  have short := (Nat.length_toDigits_le_iff (by decide) positive).mpr fits
  simp only [zeroPadded, List.length_append, List.length_replicate]
  omega

/-- Zeros in front leave no field empty. -/
theorem zeroPadded_ne_nil (positive : 0 < width) : zeroPadded width value ≠ [] := by
  -- Either the number has digits, or there are zeros in place of them.
  refine List.ne_nil_of_length_pos ?_
  simp only [zeroPadded, List.length_append, List.length_replicate]
  omega

/-- A field has digits only. -/
theorem isDigit_of_mem_zeroPadded {c : Char} (member : c ∈ zeroPadded width value) :
    c.isDigit = true := by
  rcases List.mem_append.mp member with zero | digit
  -- A zero is a digit, and so are those of the number.
  · rw [List.eq_of_mem_replicate zero]
    rfl
  · exact isDigit_of_mem_toDigits digit

/-- Zeros in front leave the number as it is. -/
theorem digitsValue_zeroPadded (width value : Nat) :
    digitsValue (zeroPadded width value) = value := by
  -- Zeros in front add nothing.
  simp [zeroPadded, digitsValue_append]

end Fields

namespace Timestamp

/-- Digits are read as far as they go, or as far as they may. -/
theorem digits?_run {run rest : List Char} {least most : Nat}
    (digits : ∀ c ∈ run, c.isDigit = true) (enough : least ≤ run.length)
    (fits : run.length ≤ most) (ends : run.length = most ∨ EndsRun Char.isDigit rest) :
    digits? least most (run ++ rest) = some (digitsValue run, rest) := by
  -- Of what follows the run, at most the places that are left are looked at.
  have stops : EndsRun Char.isDigit (rest.take (most - run.length)) := by
    rcases ends with full | ends
    · rw [full, Nat.sub_self]
      exact endsRun_nil _
    · cases rest with
      | nil => rw [List.take_nil]; exact endsRun_nil _
      | cons c rest =>
        cases left : most - run.length with
        | zero => exact endsRun_nil _
        | succ left => exact endsRun_cons (ends c rfl) _
  -- The run is taken as a whole, since it fits and what follows does not go on with it.
  have taken : ((run ++ rest).take most).takeWhile Char.isDigit = run := by
    rw [List.take_append, List.take_of_length_le fits, takeWhile_run digits stops]
  simp only [digits?, taken]
  rw [if_neg (by omega), List.drop_left]

/-- No digits are read where something else comes first. -/
theorem digits?_mark {mark : Char} (noDigit : mark.isDigit = false) {least : Nat}
    (some : 0 < least) (most : Nat) (rest : List Char) :
    digits? least most (mark :: rest) = none := by
  -- Without a digit in front the run is empty.
  have empty : ((mark :: rest).take most).takeWhile Char.isDigit = [] := by
    cases most with
    | zero => rfl
    | succ most => simp [noDigit]
  simp only [digits?, empty, List.length_nil, if_pos some]

/-- A field is read to its width, whatever follows it. -/
theorem digits?_zeroPadded {width value : Nat} (positive : 0 < width)
    (fits : value < 10 ^ width) (rest : List Char) :
    digits? width width (zeroPadded width value ++ rest) = some (value, rest) := by
  -- The field is exactly as wide as it is read.
  have length := length_zeroPadded positive fits
  rw [digits?_run (fun c => isDigit_of_mem_zeroPadded) (by omega) (by omega) (.inl length),
    digitsValue_zeroPadded]

/-- Two digits are read as they are, whatever follows them. -/
theorem digits?_two {value : Nat} (fits : value < 100) (rest : List Char) :
    digits? 2 2 (zeroPadded 2 value ++ rest) = some (value, rest) :=
  digits?_zeroPadded (by decide) fits rest

/-- Two digits at the end of a text are read to that end. -/
theorem digits?_two_self {value : Nat} (fits : value < 100) :
    digits? 2 2 (zeroPadded 2 value) = some (value, []) := by
  simpa using digits?_two fits []

/-! ## Fractions -/

/-- Digits behind a point; without digits there is no point either. -/
def pointed : List Char → List Char
  | [] => []
  | digits => '.' :: digits

/-- Digits there are stand behind a point. -/
theorem pointed_of_ne_nil {digits : List Char} (some : digits ≠ []) :
    pointed digits = '.' :: digits := by
  cases digits with
  | nil => exact absurd rfl some
  | cons digit digits => rfl

/-- Digits behind a point as nanoseconds: they count in the power of ten that nine digits leave. -/
def nanosecondsOf (digits : List Char) : Nat :=
  digitsValue digits * 10 ^ (9 - digits.length)

/-- No digits are no nanoseconds. -/
@[simp] theorem nanosecondsOf_nil : nanosecondsOf [] = 0 := by
  -- No digits spell zero, which no power of ten makes larger.
  rw [nanosecondsOf, digitsValue, List.foldl_nil, Nat.zero_mul]

/-- Nine digits are less than a second. -/
theorem nanosecondsOf_lt {digits : List Char} (all : ∀ c ∈ digits, c.isDigit = true)
    (small : digits.length ≤ 9) : nanosecondsOf digits < 1000000000 := by
  -- The digits spell less than their own power of ten, and nine of them are all.
  calc nanosecondsOf digits
    _ < 10 ^ digits.length * 10 ^ (9 - digits.length) :=
      Nat.mul_lt_mul_of_pos_right (digitsValue_lt all) (Nat.pow_pos (by decide))
    _ = 10 ^ 9 := by rw [← Nat.pow_add, Nat.add_sub_cancel' small]

/-- Whether a character goes on with the fraction of a second, or would begin one. -/
def isFractionChar (c : Char) : Bool :=
  c.isDigit || c == '.'

/-- The digits behind a point are read as nanoseconds, and nothing is read as none. -/
theorem optionalFraction?_pointed {digits rest : List Char}
    (all : ∀ c ∈ digits, c.isDigit = true) (small : digits.length ≤ 9)
    (ends : EndsRun isFractionChar rest) :
    optionalFraction? (pointed digits ++ rest) = some (nanosecondsOf digits, rest) := by
  by_cases none : digits = []
  · -- What follows the seconds is no point, so there is no fraction.
    subst none
    rw [pointed, List.nil_append, optionalFraction?.eq_def]
    split
    case h_1 point => exact absurd (ends '.' rfl) (by decide)
    case h_2 => rfl
  · -- What follows is no digit, so the run ends there and nothing behind it is skipped.
    have stops : EndsRun Char.isDigit rest := fun next found => by
      have no := ends next found
      rw [isFractionChar, Bool.or_eq_false_iff] at no
      exact no.1
    have first : 1 ≤ digits.length := List.length_pos_of_ne_nil none
    have read : digits? 1 9 (digits ++ rest) = some (digitsValue digits, rest) :=
      digits?_run all first small (.inr stops)
    -- As many characters were taken as there are digits.
    have count : (digits ++ rest).length - rest.length = digits.length := by
      rw [List.length_append, Nat.add_sub_cancel]
    have dropped : rest.dropWhile Char.isDigit = rest :=
      dropWhile_run (List.forall_mem_nil _) stops
    rw [pointed_of_ne_nil none, List.cons_append]
    simp only [optionalFraction?, fraction?, read, bind, Option.bind, count, dropped,
      nanosecondsOf]

/-- The fraction in the text of an instant holds its nanoseconds, in at most nine digits. -/
theorem exists_fractionText {nanosecond : Nat} (small : nanosecond < 1000000000) :
    ∃ digits, Instant.fractionText nanosecond = pointed digits
      ∧ (∀ c ∈ digits, c.isDigit = true) ∧ digits.length ≤ 9
      ∧ nanosecondsOf digits = nanosecond := by
  -- A field of any width up to nine does, if it leaves out zeros only.
  have padded (width value : Nat) (positive : 0 < width) (atMost : width ≤ 9)
      (fits : value < 10 ^ width) (same : value * 10 ^ (9 - width) = nanosecond) :
      ∃ digits, '.' :: zeroPadded width value = pointed digits
        ∧ (∀ c ∈ digits, c.isDigit = true) ∧ digits.length ≤ 9
        ∧ nanosecondsOf digits = nanosecond := by
    have length := length_zeroPadded positive fits
    refine ⟨zeroPadded width value, (pointed_of_ne_nil (zeroPadded_ne_nil positive)).symm,
      fun c => isDigit_of_mem_zeroPadded, by omega, ?_⟩
    rw [nanosecondsOf, digitsValue_zeroPadded, length, same]
  rw [Instant.fractionText]
  split
  case isTrue none => exact ⟨[], rfl, by simp, by simp, by simp [none]⟩
  -- The text leaves out groups of three zeros at the end.
  case isFalse =>
    split
    case isTrue millis => exact padded 3 _ (by decide) (by decide) (by omega) (by omega)
    case isFalse =>
      split
      case isTrue micros => exact padded 6 _ (by decide) (by decide) (by omega) (by omega)
      case isFalse => exact padded 9 _ (by decide) (by decide) (by omega) (by omega)

/-! ## Dates and times at full width -/

/-- A date, the year with a sign where four digits do not hold it. -/
def dateText (date : Date) : List Char :=
  Instant.yearText date.year ++ '-' :: zeroPadded 2 date.month ++ '-' :: zeroPadded 2 date.day

/-- Hours and minutes. -/
def clockText (hour minute : Nat) : List Char :=
  zeroPadded 2 hour ++ ':' :: zeroPadded 2 minute

/-- The seconds behind hours and minutes, perhaps with a fraction. -/
def secondText (second : Nat) (fraction : List Char) : List Char :=
  ':' :: zeroPadded 2 second ++ pointed fraction

/-- A year of four digits has no sign. -/
theorem yearText_eq {year : Int} (fromZero : 0 ≤ year) (fourDigits : year ≤ 9999) :
    Instant.yearText year = zeroPadded 4 year.natAbs := by
  -- Neither sign is written for such a year.
  rw [Instant.yearText, if_neg (by omega), if_neg (by omega)]

/-- A number with zeros before it has no white space in it. -/
theorem solid_zeroPadded (width value : Nat) : Blank.Solid (zeroPadded width value) :=
  Blank.solid_of_digits fun _ => isDigit_of_mem_zeroPadded

/-- A date has no white space in it. -/
theorem solid_dateText (date : Date) : Blank.Solid (dateText date) := by
  -- A year has a sign in front of its digits, or none.
  have year : Blank.Solid (Instant.yearText date.year) := by
    rw [Instant.yearText]
    split_ifs
    · exact .cons rfl (solid_zeroPadded _ _)
    · exact .cons rfl (solid_zeroPadded _ _)
    · exact solid_zeroPadded _ _
  have dashed (value : Nat) : Blank.Solid ('-' :: zeroPadded 2 value) :=
    .cons rfl (solid_zeroPadded _ _)
  exact (year.append (dashed _)).append (dashed _)

/-- Hours and minutes have no white space in them. -/
theorem solid_clockText (hour minute : Nat) : Blank.Solid (clockText hour minute) :=
  .append (solid_zeroPadded _ _) (.cons rfl (solid_zeroPadded _ _))

/-- Nor has a fraction. -/
theorem solid_pointed {digits : List Char} (all : ∀ c ∈ digits, c.isDigit = true) :
    Blank.Solid (pointed digits) := by
  cases digits with
  | nil => exact List.forall_mem_nil _
  | cons digit digits => exact .cons rfl (Blank.solid_of_digits all)

/-- A date is never empty, since it has dashes. -/
theorem dateText_ne_nil (date : Date) : dateText date ≠ [] := by
  simp [dateText]

/-- The date of an instant exists. -/
theorem isValid_date (time : Instant) : time.date.isValid = true :=
  (Date.ofDayNumber_spec _).1

/-- The date, the time of day and the seconds of an instant, with their fraction. -/
theorem exists_localText (time : Instant) :
    ∃ fraction, time.localText = dateText time.date
        ++ 'T' :: (clockText time.hour time.minuteOfHour ++ secondText time.second.val fraction)
      ∧ (∀ c ∈ fraction, c.isDigit = true) ∧ fraction.length ≤ 9
      ∧ nanosecondsOf fraction = time.nanosecond.val := by
  -- The fraction depends on the nanoseconds only.
  obtain ⟨fraction, text, facts⟩ := exists_fractionText time.nanosecond.isLt
  refine ⟨fraction, ?_, facts⟩
  simp only [Instant.localText, text, dateText, clockText, secondText, List.append_assoc,
    List.cons_append]

section Reading

variable {date : Date} (valid : date.isValid = true) (fromZero : 0 ≤ date.year)
  (fourDigits : date.year ≤ 9999)
include valid fromZero fourDigits

/-- The fields of a date are as wide as they are written if its year has four digits. -/
theorem fits_date : date.year.natAbs < 10 ^ 4 ∧ date.month < 100 ∧ date.day < 100 := by
  -- Months have at most two digits, and so have days.
  obtain ⟨month, day⟩ := Date.bounds_of_isValid valid
  omega

/-- A text with an offset does not end with the date. -/
theorem withOffset?_dateText : withOffset? (dateText date) = none := by
  -- The date is read, and then a separator is missing.
  obtain ⟨fitsYear, fitsMonth, fitsDay⟩ := fits_date valid fromZero fourDigits
  have four : 0 < 4 := by decide
  simp only [dateText, yearText_eq fromZero fourDigits, List.append_assoc, List.cons_append,
    withOffset?, Option.bind_eq_bind, Option.bind_some, expect?, if_true,
    digits?_zeroPadded four fitsYear, digits?_two fitsMonth, digits?_two_self fitsDay]

variable {hour minute : Nat} (fitsHour : hour < 100) (fitsMinute : minute < 100)
include fitsHour fitsMinute

/-- With the fields of the date, the hour and the minute at full width, the rest decides. -/
theorem withOffset?_clock {separator : Char} (joins : separator ∈ ['T', 't', ' '])
    (rest : List Char) :
    withOffset? (dateText date ++ separator :: (clockText hour minute ++ rest))
      = (expect? ':' rest).bind fun rest => (digits? 2 2 rest).bind fun (second, rest) =>
          (optionalFraction? rest).bind fun (nanosecond, rest) =>
            (offset? rest).bind fun (offset, rest) =>
              if rest.isEmpty then Instant.ofCivil? date hour minute second nanosecond offset
              else none := by
  obtain ⟨fitsYear, fitsMonth, fitsDay⟩ := fits_date valid fromZero fourDigits
  have four : 0 < 4 := by decide
  have sameYear : (date.year.natAbs : Int) = date.year := by omega
  have joins : separator = 'T' ∨ separator = 't' ∨ separator = ' ' := by simpa using joins
  -- Each field takes its own part of the text, and the next one goes on behind it.
  simp only [dateText, clockText, yearText_eq fromZero fourDigits, List.append_assoc,
    List.cons_append, withOffset?, Option.bind_eq_bind, Option.bind_some, expect?, if_true,
    digits?_zeroPadded four fitsYear, digits?_two fitsMonth, digits?_two fitsDay,
    digits?_two fitsHour, digits?_two fitsMinute, if_pos joins, sameYear]

/-- With the seconds at full width as well, the offset at the end decides what is read. -/
theorem withOffset?_fields {second : Nat} (fitsSecond : second < 100) {separator : Char}
    (joins : separator ∈ ['T', 't', ' ']) {fraction zone : List Char}
    (all : ∀ c ∈ fraction, c.isDigit = true) (small : fraction.length ≤ 9)
    (ends : EndsRun isFractionChar zone) :
    withOffset? (dateText date ++ separator :: (clockText hour minute
        ++ (secondText second fraction ++ zone)))
      = (offset? zone).bind fun (offset, rest) =>
          if rest.isEmpty
          then Instant.ofCivil? date hour minute second (nanosecondsOf fraction) offset
          else none := by
  -- The date and the clock are read, and the seconds come behind them.
  rw [withOffset?_clock valid fromZero fourDigits fitsHour fitsMinute joins]
  simp only [secondText, List.append_assoc, List.cons_append, expect?, if_true, Option.bind_some,
    digits?_two fitsSecond, optionalFraction?_pointed all small ends]

/-- An offset comes after seconds, and a text that ends with the minutes has none. -/
theorem withOffset?_clockText :
    withOffset? (dateText date ++ 'T' :: clockText hour minute) = none := by
  -- Behind the minutes there is no colon for the seconds.
  have read := withOffset?_clock valid fromZero fourDigits fitsHour fitsMinute
    (List.mem_cons_self ..) []
  rw [List.append_nil] at read
  exact read

end Reading

/-- The text of an instant has no white space at its ends. -/
theorem trim_text (time : Instant) : Blank.trim time.text.toList = time.localText ++ ['Z'] := by
  -- The text begins with the date and ends with a letter.
  obtain ⟨fraction, text, -⟩ := exists_localText time
  rw [Instant.text, String.toList_ofList, text]
  exact Blank.trim_solid (solid_dateText _) (dateText_ne_nil _)
    (.cons rfl (List.forall_mem_nil _)) (by simp) _

/-- The hour and the minute of an instant are those of a clock. -/
theorem fits_clock (time : Instant) : time.hour < 24 ∧ time.minuteOfHour < 60 := by
  -- Both are remainders.
  rw [Instant.hour, Instant.minuteOfHour]
  omega

/-- The fields of an instant make up that instant. -/
theorem ofCivil?_fields {time : Instant} (fromZero : 0 ≤ time.date.year)
    (fourDigits : time.date.year ≤ 9999) :
    Instant.ofCivil? time.date time.hour time.minuteOfHour time.second.val time.nanosecond.val 0
      = some time := by
  -- The date is that of the day in which the minute lies.
  obtain ⟨valid, number⟩ := Date.ofDayNumber_spec (time.minute / 1440)
  rw [← Instant.date] at valid number
  obtain ⟨hour, minuteOfHour⟩ := fits_clock time
  -- The day, the hour and the minute of the hour make up the minute.
  have minute : time.date.dayNumber * 1440 + (time.hour * 60 + time.minuteOfHour : Nat) - 0
      = time.minute := by
    rw [number, Instant.hour, Instant.minuteOfHour]
    omega
  rw [Instant.ofCivil?, dif_pos ⟨time.second.isLt, time.nanosecond.isLt⟩,
    if_pos ⟨by omega, by omega, valid, hour, minuteOfHour⟩]
  simp only [minute]

/-- The fields of an instant are read where its year has four digits. -/
theorem withOffset?_text {time : Instant} (fromZero : 0 ≤ time.date.year)
    (fourDigits : time.date.year ≤ 9999) :
    withOffset? (time.localText ++ ['Z']) = some time := by
  obtain ⟨fraction, text, all, small, same⟩ := exists_localText time
  obtain ⟨hour, minute⟩ := fits_clock time
  -- The fields of the clock have two digits each.
  have fitsHour : time.hour < 100 := by omega
  have fitsMinute : time.minuteOfHour < 100 := by omega
  have fitsSecond : time.second.val < 100 := by omega
  have ends : EndsRun isFractionChar ['Z'] := endsRun_cons rfl []
  -- With a `Z` behind the fields the offset is zero.
  have read := withOffset?_fields (isValid_date time) fromZero fourDigits fitsHour fitsMinute
    fitsSecond (List.mem_cons_self ..) all small ends
  simp only [text, List.append_assoc, List.cons_append]
  rw [read, same]
  exact ofCivil?_fields fromZero fourDigits

/-- The text of an instant is read as that instant, where its year has four digits. -/
theorem read?_text {time : Instant} (fromZero : 0 ≤ time.date.year)
    (fourDigits : time.date.year ≤ 9999) : read? time.text = some time := by
  -- The spelling with an offset is tried first.
  have fields := withOffset?_text fromZero fourDigits
  simp only [read?, trim_text, spellings, List.findSome?_cons, fields]

end Timestamp

end RoomAir
