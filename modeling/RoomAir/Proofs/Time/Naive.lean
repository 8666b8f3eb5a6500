import RoomAir.Proofs.Time.Timestamp

/-! The readers without an offset on fields at full width: what follows the fields decides. -/

namespace RoomAir.Timestamp

/-! ## Fields -/

/-- A field of two digits is read as it is, whatever follows it. -/
theorem field?_zeroPadded {value : Nat} (fits : value < 100) (rest : List Char) :
    field? (zeroPadded 2 value ++ rest) = some (value, rest) := by
  have two : 0 < 2 := by decide
  have length := length_zeroPadded two fits
  -- A digit is no white space, and the second digit fills the field.
  rw [field?, Blank.skip_solid (solid_zeroPadded 2 value) (zeroPadded_ne_nil two),
    digits?_run (fun c => isDigit_of_mem_zeroPadded) (by omega) (by omega) (.inl length),
    digitsValue_zeroPadded]

/-- No field begins with a mark. -/
theorem field?_mark {mark : Char} (solid : Blank.isBlank mark = false)
    (noDigit : mark.isDigit = false) (rest : List Char) : field? (mark :: rest) = none := by
  -- The mark is no white space, so it is what the digits begin with.
  rw [field?, Blank.skip_eq_self (endsRun_cons solid rest), digits?_mark noDigit (by decide)]

/-- A number of any length is read as far as it goes. -/
theorem allDigits?_run {run rest : List Char} (digits : ∀ c ∈ run, c.isDigit = true)
    (nonempty : run ≠ []) (ends : EndsRun Char.isDigit rest) :
    allDigits? (run ++ rest) = some (digitsValue run, rest) := by
  -- The run has at least one digit, and as many as it is long.
  have first : 1 ≤ run.length := List.length_pos_of_ne_nil nonempty
  exact digits?_run digits first (by simp) (.inr ends)

/-- A year is read back, whether it has a sign or not. -/
theorem year?_yearText (year : Int) {rest : List Char} (ends : EndsRun Char.isDigit rest) :
    year? (Instant.yearText year ++ rest) = some (year, rest) := by
  have four : 0 < 4 := by decide
  have nonempty : zeroPadded 4 year.natAbs ≠ [] := zeroPadded_ne_nil four
  -- Behind a sign all digits are read, however many there are.
  have signed : allDigits? (zeroPadded 4 year.natAbs ++ rest) = some (year.natAbs, rest) := by
    rw [allDigits?_run (fun c => isDigit_of_mem_zeroPadded) nonempty ends, digitsValue_zeroPadded]
  rw [Instant.yearText]
  split_ifs with negative large
  · -- A minus, and the digits without it.
    have minus : Blank.skip ('-' :: zeroPadded 4 year.natAbs ++ rest)
        = '-' :: (zeroPadded 4 year.natAbs ++ rest) := Blank.skip_eq_self (endsRun_cons rfl _)
    have same : -(year.natAbs : Int) = year := by omega
    simp only [year?, minus, signed, Option.map_some, same]
  · -- A plus, and the digits without it.
    have plus : Blank.skip ('+' :: zeroPadded 4 year.natAbs ++ rest)
        = '+' :: (zeroPadded 4 year.natAbs ++ rest) := Blank.skip_eq_self (endsRun_cons rfl _)
    have same : (year.natAbs : Int) = year := by omega
    simp only [year?, plus, signed, Option.map_some, same]
  · -- Four digits, of which the first is no sign.
    have fits : year.natAbs < 10 ^ 4 := by omega
    have length := length_zeroPadded four fits
    have read : digits? 1 4 (zeroPadded 4 year.natAbs ++ rest) = some (year.natAbs, rest) := by
      rw [digits?_run (fun c => isDigit_of_mem_zeroPadded) (by omega) (by omega) (.inl length),
        digitsValue_zeroPadded]
    have same : (year.natAbs : Int) = year := by omega
    obtain ⟨first, more, front⟩ := List.exists_cons_of_ne_nil nonempty
    have digit : first.isDigit = true :=
      isDigit_of_mem_zeroPadded (front ▸ List.mem_cons_self ..)
    have noSign : first ≠ '-' ∧ first ≠ '+' := of_isDigit digit (by decide)
    rw [year?, Blank.skip_solid (solid_zeroPadded 4 _) nonempty]
    rw [front, List.cons_append] at read ⊢
    split
    -- The first digit is no minus.
    case h_1 here => exact absurd (List.cons.inj here).1 noSign.1
    -- Nor is it a plus.
    case h_2 here => exact absurd (List.cons.inj here).1 noSign.2
    case h_3 => simp only [read, Option.map_some, same]

/-- A date is read back, whatever follows it. -/
theorem date?_dateText {date : Date} (valid : date.isValid = true) (rest : List Char) :
    date? (dateText date ++ rest) = some (date, rest) := by
  obtain ⟨month, day⟩ := Date.bounds_of_isValid valid
  -- Months and days of a date have two digits.
  have fitsMonth : date.month < 100 := by omega
  have fitsDay : date.day < 100 := by omega
  have dash : Char.isDigit '-' = false := rfl
  simp only [date?, dateText, List.append_assoc, List.cons_append,
    year?_yearText date.year (endsRun_cons dash _), Option.bind_eq_bind, Option.bind_some, expect?,
    if_true, field?_zeroPadded fitsMonth, field?_zeroPadded fitsDay]

section

variable {hour minute second : Nat}

/-- Hours and minutes are read back, whatever follows them. -/
theorem clock?_clockText (fitsHour : hour < 100) (fitsMinute : minute < 100) (rest : List Char) :
    clock? (clockText hour minute ++ rest) = some (hour, minute, rest) := by
  -- The colon stands between two fields of two digits.
  simp only [clock?, clockText, List.append_assoc, List.cons_append, field?_zeroPadded fitsHour,
    Option.bind_eq_bind, Option.bind_some, expect?, if_true, field?_zeroPadded fitsMinute]

/-- A time of day is read when nothing follows its fraction. -/
theorem throughSeconds?_fields (date : Date) (fitsHour : hour < 100) (fitsMinute : minute < 100)
    (fitsSecond : second < 100) {fraction rest : List Char}
    (all : ∀ c ∈ fraction, c.isDigit = true) (small : fraction.length ≤ 9)
    (ends : EndsRun isFractionChar rest) :
    throughSeconds? date (clockText hour minute ++ (secondText second fraction ++ rest))
      = if rest.isEmpty then Instant.ofCivil? date hour minute second (nanosecondsOf fraction) 0
        else none := by
  -- The fields are read in their order, and the fraction up to its end.
  simp only [throughSeconds?, clock?_clockText fitsHour fitsMinute, secondText, List.append_assoc,
    List.cons_append, Option.bind_eq_bind, Option.bind_some, expect?, if_true,
    field?_zeroPadded fitsSecond, optionalFraction?_pointed all small ends]

/-- A time of day needs its seconds. -/
theorem throughSeconds?_clockText (date : Date) (fitsHour : hour < 100)
    (fitsMinute : minute < 100) :
    throughSeconds? date (clockText hour minute) = none := by
  -- The clock is read, and nothing is left for the colon before the seconds.
  have read := clock?_clockText fitsHour fitsMinute []
  rw [List.append_nil] at read
  simp only [throughSeconds?, read, Option.bind_eq_bind, Option.bind_some, expect?,
    Option.bind_none]

/-- A time of day begins with its hour. -/
theorem throughSeconds?_mark (date : Date) {mark : Char} (solid : Blank.isBlank mark = false)
    (noDigit : mark.isDigit = false) (rest : List Char) :
    throughSeconds? date (mark :: rest) = none := by
  -- No hour can be read, since it would have to begin with a digit.
  simp only [throughSeconds?, clock?, field?_mark solid noDigit, Option.bind_eq_bind,
    Option.bind_none]

end

/-! ## What each reader makes of a date and what follows it -/

section

variable {date : Date} (valid : date.isValid = true) (rest : List Char)
include valid

/-- Behind the date there has to be a `T` and then the time up to the second. -/
theorem joinedByT?_dateText :
    joinedByT? (dateText date ++ rest) = (expect? 'T' rest).bind (throughSeconds? date) := by
  simp only [joinedByT?, date?_dateText valid, Option.bind_eq_bind, Option.bind_some]

/-- Behind the date blanks are skipped, and then the time is read up to the second. -/
theorem joinedByBlanks?_dateText :
    joinedByBlanks? (dateText date ++ rest) = throughSeconds? date (Blank.skip rest) := by
  simp only [joinedByBlanks?, date?_dateText valid, Option.bind_eq_bind, Option.bind_some]

/-- Behind the date there have to be a `T`, the hour and the minute, and nothing else. -/
theorem toTheMinute?_dateText :
    toTheMinute? (dateText date ++ rest)
      = (expect? 'T' rest).bind fun rest => (clock? rest).bind fun (hour, minute, rest) =>
          if rest.isEmpty then Instant.ofCivil? date hour minute 0 0 0 else none := by
  simp only [toTheMinute?, date?_dateText valid, Option.bind_eq_bind, Option.bind_some]

/-- Behind the date there must be nothing. -/
theorem dateAlone?_dateText :
    dateAlone? (dateText date ++ rest)
      = if rest.isEmpty then Instant.ofCivil? date 0 0 0 0 0 else none := by
  simp only [dateAlone?, date?_dateText valid, Option.bind_eq_bind, Option.bind_some]

end

end RoomAir.Timestamp
