import RoomAir.Proofs.Time.Naive

/-! The text of an instant is read back exactly when its year needs no sign. -/

namespace RoomAir.Timestamp

/-- A year with a sign is none of four digits, which a text with an offset has to begin with. -/
theorem withOffset?_signed {date : Date} (outside : date.year < 0 ∨ 9999 < date.year)
    (rest : List Char) : withOffset? (dateText date ++ rest) = none := by
  have four : 0 < 4 := by decide
  -- Whichever sign there is, it comes before the digits.
  have signed : ∃ sign digits, Instant.yearText date.year = sign :: digits
      ∧ sign.isDigit = false := by
    rw [Instant.yearText]
    split_ifs with negative large
    · exact ⟨'-', _, rfl, rfl⟩
    · exact ⟨'+', _, rfl, rfl⟩
    · omega
  obtain ⟨sign, digits, text, noDigit⟩ := signed
  simp only [withOffset?, dateText, text, List.append_assoc, List.cons_append,
    digits?_mark noDigit four, Option.bind_eq_bind, Option.bind_none]

/-- A text with a sign in front and a `Z` at the end has none of the spellings. -/
theorem read?_text_eq_none {time : Instant}
    (outside : time.date.year < 0 ∨ 9999 < time.date.year) : read? time.text = none := by
  -- The text is made of the date, the clock and the fraction, with a `Z` at the end.
  obtain ⟨fraction, text, all, small, -⟩ := exists_localText time
  have valid := isValid_date time
  obtain ⟨hour, minute⟩ := fits_clock time
  have fitsHour : time.hour < 100 := by omega
  have fitsMinute : time.minuteOfHour < 100 := by omega
  have fitsSecond : time.second.val < 100 := by omega
  rw [read?, trim_text, text, List.append_assoc, List.findSome?_eq_none_iff]
  intro spelling listed
  simp only [spellings, List.mem_cons, List.not_mem_nil, or_false] at listed
  rcases listed with rfl | rfl | rfl | rfl | rfl
  -- No year with an offset has a sign.
  · exact withOffset?_signed outside _
  · -- The year and all other fields are read, but then the `Z` is left.
    have ends : EndsRun isFractionChar ['Z'] := endsRun_cons rfl []
    rw [joinedByT?_dateText valid, List.cons_append, expect?, if_pos rfl, Option.bind_some,
      List.append_assoc, throughSeconds?_fields _ fitsHour fitsMinute fitsSecond all small ends]
    rfl
  · -- The `T` is no white space, and no hour begins with it.
    have solid : Blank.isBlank 'T' = false := rfl
    rw [joinedByBlanks?_dateText valid, List.cons_append,
      Blank.skip_eq_self (endsRun_cons solid _), throughSeconds?_mark _ solid rfl]
  · -- The seconds are left.
    rw [toTheMinute?_dateText valid, List.cons_append, expect?, if_pos rfl, Option.bind_some,
      List.append_assoc, clock?_clockText fitsHour fitsMinute]
    rfl
  · -- The time of day is left.
    rw [dateAlone?_dateText valid]
    rfl

/--
What is read, written and read again is the same if its year has four digits, and nothing otherwise.

A year beyond four digits is written with a sign, which is read in front of a time in UTC only as
long as the time has no `Z` behind it.
-/
theorem text_readsBack (raw : String) :
    ((read? raw).bind fun time => read? time.text)
      = (read? raw).filter fun time => 0 ≤ time.date.year ∧ time.date.year ≤ 9999 := by
  cases read? raw with
  -- Nothing was read, so nothing is written.
  | none => rfl
  | some time =>
    rw [Option.bind_some, Option.filter_some]
    split
    -- Four digits are enough for the year.
    case isTrue inside =>
      simp only [decide_eq_true_eq] at inside
      exact read?_text inside.1 inside.2
    -- The year has a sign, so its text is not read.
    case isFalse outside =>
      simp only [decide_eq_true_eq] at outside
      exact read?_text_eq_none (by omega)

/-- An offset leads beyond the year 9999, and from there the text does not lead back. -/
theorem text_unread_beyond :
    ∃ time, read? "9999-12-31T23:59:59-01:00" = some time
      ∧ time.text = "+10000-01-01T00:59:59Z" ∧ read? time.text = none := by
  -- The offset is taken off, which leads into the next year.
  refine ⟨⟨4223371739, 59, 0⟩, by decide +kernel, by decide +kernel, by decide +kernel⟩

end RoomAir.Timestamp
