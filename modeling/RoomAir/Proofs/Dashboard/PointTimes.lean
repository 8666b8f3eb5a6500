import RoomAir.Proofs.Dashboard.TimeOrder
import RoomAir.Proofs.Number.Layout
import RoomAir.Proofs.Reading.Meaning
import RoomAir.Proofs.Time.Milliseconds
import RoomAir.View.Basic

/-! The times of chart points: a browser that reads them as doubles has the milliseconds exactly. -/

namespace RoomAir

/-! ## Whole numbers as doubles -/

namespace Double

/-- A double that is a whole number. -/
def IsWhole (x : Double) (value : Int) : Prop :=
  x.negative = decide (value < 0) ∧ x.units = value.natAbs * unitsPerOne

/-- Every whole number of up to 53 bits is a double. -/
theorem exists_whole (negative : Bool) {value : Nat} (small : value < 2 ^ 53) :
    ∃ x : Double, x.negative = negative ∧ x.units = value * unitsPerOne := by
  rcases Nat.eq_zero_or_pos value with rfl | positive
  · exact ⟨zero negative, rfl, by rw [units, zero, Nat.zero_mul, Nat.zero_mul]⟩
  · -- The number is shifted until its leading bit is the 53rd.
    have bits : value.log2 < 53 := (Nat.log2_lt positive.ne').mpr small
    have low : 2 ^ value.log2 ≤ value := Nat.log2_self_le positive.ne'
    have high : value < 2 ^ (value.log2 + 1) := Nat.lt_log2_self
    have leading : 2 ^ 52 ≤ value * 2 ^ (52 - value.log2) :=
      calc 2 ^ 52 = 2 ^ value.log2 * 2 ^ (52 - value.log2) := by
            rw [← Nat.pow_add, Nat.add_sub_cancel' (by omega)]
        _ ≤ value * 2 ^ (52 - value.log2) := Nat.mul_le_mul_right _ low
    have canonical : value * 2 ^ (52 - value.log2) < 2 ^ 53 :=
      calc value * 2 ^ (52 - value.log2)
          < 2 ^ (value.log2 + 1) * 2 ^ (52 - value.log2) :=
            Nat.mul_lt_mul_of_pos_right high (Nat.two_pow_pos _)
        _ = 2 ^ 53 := by
            rw [← Nat.pow_add]
            congr 1
            omega
    refine ⟨⟨negative, value * 2 ^ (52 - value.log2), halvings - (52 - value.log2),
      canonical, by rw [halvings]; omega, .inr leading⟩, rfl, ?_⟩
    -- What the significand was shifted up, the scale is lower.
    rw [units, unitsPerOne, Nat.mul_assoc, ← Nat.pow_add,
      Nat.add_sub_cancel' (by rw [halvings]; omega)]

end Double

namespace Literal

/-- Digits alone are a whole number. -/
theorem readMagnitude?_digits {digits : List Char} (filled : digits ≠ [])
    (all : ∀ c ∈ digits, c.isDigit = true) :
    readMagnitude? digits = some ⟨digitsValue digits, 0⟩ := by
  -- All characters are digits, so there is neither a fraction nor an exponent.
  have whole := takeWhile_run all (endsRun_nil Char.isDigit)
  have rest := dropWhile_run all (endsRun_nil Char.isDigit)
  rw [List.append_nil] at whole rest
  simp [readMagnitude?, whole, rest, splitFraction, readExponentPart?, filled]

/-- A minus before a digit is the sign of the number. -/
theorem read?_minus {digit : Char} (isDigit : digit.isDigit = true) (more : List Char) :
    read? ('-' :: digit :: more) = (readMagnitude? (digit :: more)).map (.decimal true) := by
  -- A digit begins none of the names.
  have noName : digit.toLower ≠ 'n' ∧ digit.toLower ≠ 'i' := of_isDigit isDigit (by decide)
  simp [read?, readSign, noName]

/-- A whole number in decimal is read as that number. -/
theorem read?_integerChars (value : Int) :
    read? (Json.integerChars value) = some (.decimal (decide (value < 0)) ⟨value.natAbs, 0⟩) := by
  -- The digits of the magnitude follow the sign.
  have all : ∀ c ∈ Nat.toDigits 10 value.natAbs, c.isDigit = true :=
    fun _ member => isDigit_of_mem_toDigits member
  have magnitude := readMagnitude?_digits Nat.toDigits_ne_nil all
  rw [digitsValue_toDigits] at magnitude
  obtain ⟨digit, more, same⟩ := List.exists_cons_of_ne_nil
    (Nat.toDigits_ne_nil : Nat.toDigits 10 value.natAbs ≠ [])
  rw [same] at all magnitude
  have isDigit := all digit (List.mem_cons_self ..)
  rw [Json.integerChars, same]
  split
  case isTrue below => rw [read?_minus isDigit, magnitude, Option.map_some, decide_eq_true below]
  case isFalse above => rw [read?_digit isDigit, magnitude, Option.map_some, decide_eq_false above]

/-- A decimal of an ordinary size is taken for the double nearest to it. -/
theorem toExtended_decimal {negative : Bool} {value : Decimal} {x : Double}
    (above : -400 ≤ leadingPosition value) (below : leadingPosition value ≤ 400)
    (rounded : Double.ofDecimal? negative value.digits value.exponent = some x) :
    toExtended (.decimal negative value) = .finite x := by
  rw [toExtended]
  split
  case isTrue none =>
    -- Zero is rounded to itself.
    have zero : value.digits = 0 := none.resolve_right (by omega)
    rw [zero, Double.ofDecimal?_zero] at rounded
    rw [Option.some.inj rounded]
  -- The value is neither too small nor too large, so it is rounded.
  case isFalse => rw [if_neg (by omega), rounded]

end Literal

/-- A whole number that is left as it is when its text is read as a double. -/
def KeptAsDouble (value : Int) : Prop :=
  ∃ x : Double, (Literal.read? (Json.integer value).chars).map Literal.toExtended
    = some (.finite x) ∧ x.IsWhole value

/-- Doubles have room for all whole numbers of up to 53 bits. -/
theorem keptAsDouble {value : Int} (small : value.natAbs < 2 ^ 53) : KeptAsDouble value := by
  obtain ⟨x, sign, units⟩ := Double.exists_whole (decide (value < 0)) small
  refine ⟨x, ?_, sign, units⟩
  -- The double is the one that its exact value is rounded to.
  have rounded := Double.nearest?_units x (show 0 < 1 by decide)
  rw [sign, units, Nat.mul_one, ← Nat.mul_one value.natAbs, ← Nat.pow_zero 10,
    ← Double.ofDecimal?_natCast] at rounded
  -- Such a number has sixteen digits at most.
  have short : (Decimal.digitsOf value.natAbs).length ≤ 16 :=
    (Nat.length_toDigits_le_iff (by decide) (by decide)).mpr (Nat.lt_trans small (by decide))
  rw [Json.chars, Literal.read?_integerChars, Option.map_some]
  refine congrArg some (Literal.toExtended_decimal ?_ ?_ rounded)
  · simp only [Literal.leadingPosition]
    omega
  · simp only [Literal.leadingPosition]
    omega

/-! ## Charts -/

/-- The times of a series are those of its readings. -/
theorem Chart.mem_seriesTimes {id name : String} {metric : Metric} {readings : List Reading}
    {x : Int} : x ∈ seriesTimes (.ofReadings id name metric readings)
      ↔ ∃ reading ∈ readings, reading.time.milliseconds = x := by
  -- Each point is at the time of its reading.
  simp [seriesTimes, Series.ofReadings]

/-- Every point of a page's chart is at the time of a reading. -/
theorem Page.exists_times (page : Page) (readings : List Reading) :
    ∃ lines, Chart.times? (page.config readings) = some lines
      ∧ ∀ line ∈ lines, ∀ x ∈ line, ∃ reading ∈ readings, reading.time.milliseconds = x := by
  -- The chart is drawn from series, and their readings are among those of the page.
  cases page with
  | overview =>
    -- The lines are the series of the rooms, each with the readings of its room.
    refine ⟨_, Chart.times?_ofOverview _, ?_⟩
    simp only [Overview.ofReadings, Projection.seriesByRoom_eq, List.forall_mem_map,
      Chart.mem_seriesTimes, Projection.mem_ascending, List.mem_filter]
    rintro room - x ⟨reading, ⟨member, -⟩, same⟩
    exact ⟨reading, member, same⟩
  | details filter =>
    -- The lines are the series of the metrics, all with the selected readings.
    refine ⟨_, Chart.times?_ofDetails readings filter, ?_⟩
    simp only [Details.ofReadings, List.forall_mem_map, Chart.mem_seriesTimes,
      Projection.mem_ascending, Projection.mem_newestFirst]
    rintro metric - x ⟨reading, ⟨member, -⟩, same⟩
    exact ⟨reading, member, same⟩

/-! ## Documents -/

namespace Document

/-- A reading of a document was made of one of its records. -/
theorem exists_record {records : List Json} {index : Nat} {reading : Reading}
    (member : reading ∈ (ofRecords index records).readings) :
    ∃ record ∈ records, Reading.ofJson record = .ok reading := by
  induction records generalizing index with
  -- There is no reading.
  | nil => cases member
  | cons record records ih =>
    rw [ofRecords] at member
    -- The first record is a reading, or it is skipped.
    split at member
    case h_1 first same =>
      rcases List.mem_cons.mp member with rfl | later
      · exact ⟨record, List.mem_cons_self .., same⟩
      · obtain ⟨found, inside, made⟩ := ih later
        exact ⟨found, List.mem_cons_of_mem _ inside, made⟩
    case h_2 =>
      obtain ⟨found, inside, made⟩ := ih member
      exact ⟨found, List.mem_cons_of_mem _ inside, made⟩

/-- The time of a reading that was decoded is one that a text spells. -/
theorem exists_timestamp {bytes : Bytes} {document : Document}
    (decoded : decode bytes = .ok document) {reading : Reading}
    (member : reading ∈ document.readings) :
    ∃ raw, Timestamp.read? raw = some reading.time := by
  rw [decode] at decoded
  -- The document is an array of records, or nothing is decoded.
  cases read : Json.readArray Quoted.quote bytes with
  | error fault => rw [read] at decoded; cases decoded
  | ok records =>
    rw [read] at decoded
    cases decoded
    obtain ⟨record, -, made⟩ := exists_record member
    -- A record is read by its members or by their places, and either way its time is a text.
    cases record with
    | object members =>
      obtain ⟨raw, -, spelled⟩ := (Record.ofMembers_eq_ok_iff.mp made).time
      exact ⟨raw, spelled⟩
    | array items =>
      obtain ⟨raw, -, spelled⟩ := (Record.ofItems_eq_ok_iff.mp made).2.time
      exact ⟨raw, spelled⟩
    | _ => cases made

end Document

/--
A timestamp reaches the charts of a browser as the milliseconds that it is.

The milliseconds of whatever text is accepted are rounded down and within the dates of browsers, so
no step of their computation overflows. Every point of a chart that a decoded document makes is at
such a time, and its text is read as the double that is exactly that number.
-/
theorem point_times_exact :
    (∀ raw time, Timestamp.read? raw = some time →
      time.CountsExactly ∧ KeptAsDouble time.milliseconds)
    ∧ ∀ bytes document, Document.decode bytes = .ok document → ∀ page : Page,
      ∃ lines, Chart.times? (page.config document.readings) = some lines
        ∧ ∀ line ∈ lines, ∀ x ∈ line, KeptAsDouble x
          ∧ ∃ raw time, Timestamp.read? raw = some time ∧ time.milliseconds = x := by
  -- A timestamp is within the dates of browsers, whose limit is below the limit of doubles.
  have exact {raw : String} {time : Instant} (read : Timestamp.read? raw = some time) :
      time.CountsExactly ∧ KeptAsDouble time.milliseconds := by
    have counts := Instant.countsExactly (Timestamp.isBrowserDate_of_read? read)
    exact ⟨counts, keptAsDouble (Nat.lt_of_le_of_lt counts.date.1 counts.date.2)⟩
  refine ⟨fun raw time read => exact read, fun bytes document decoded page => ?_⟩
  -- The points of a chart are at the times of readings, and those times were spelled by texts.
  obtain ⟨lines, drawn, times⟩ := page.exists_times document.readings
  refine ⟨lines, drawn, fun line listed x inside => ?_⟩
  obtain ⟨reading, member, rfl⟩ := times line listed x inside
  obtain ⟨raw, spelled⟩ := Document.exists_timestamp decoded member
  exact ⟨(exact spelled).2, raw, reading.time, spelled, rfl⟩

/-- The first millisecond of the years that are accepted is exact, and so is the last one. -/
theorem points_at_the_ends :
    let bytes := Utf8.encode "[[\"Hall\",\"+262142-12-31T23:59:60.999\",1]]"
    (∃ time, Timestamp.read? "-262143-01-01T00:00:00.0005" = some time
      ∧ time.milliseconds = -8334601228800000
      ∧ time.CountsExactly ∧ KeptAsDouble time.milliseconds)
    ∧ ∃ document, Document.decode bytes = .ok document
      ∧ Chart.times? (Page.overview.config document.readings) = some [[8210266876800999]]
      ∧ KeptAsDouble 8210266876800999 := by
  intro bytes
  -- The first instant of the earliest year, half a millisecond late, is rounded down to its start.
  have reads : (Timestamp.read? "-262143-01-01T00:00:00.0005").map Instant.milliseconds
      = some (-8334601228800000) := by
    decide +kernel
  obtain ⟨time, read, earliest⟩ := Option.map_eq_some_iff.mp reads
  -- The last second of the latest year is a leap second.
  have decodes : (Document.decode bytes).toOption.map
      (fun document => document.readings.map fun reading => reading.time.milliseconds)
        = some [8210266876800999] := by
    decide +kernel
  obtain ⟨document, decoded, readings⟩ := exists_ok_of_map decodes
  obtain ⟨reading, others, single, latest, rest⟩ := List.map_eq_cons_iff.mp readings
  obtain rfl := List.map_eq_nil_iff.mp rest
  -- The one reading is the only point of the chart.
  have drawn : Chart.times? (Page.overview.config document.readings)
      = some [[8210266876800999]] := by
    rw [single, Page.config, Chart.times?_ofOverview, ← latest]
    simp [Overview.ofReadings, Projection.seriesByRoom_eq, Projection.ascending,
      Projection.distinctRooms, Chart.seriesTimes, Series.ofReadings, RoomFilter.accepts,
      List.eraseDups_cons]
  obtain ⟨counts, kept⟩ := point_times_exact.1 _ time read
  obtain ⟨lines, same, points⟩ := point_times_exact.2 _ document decoded .overview
  obtain rfl := Option.some.inj (drawn.symm.trans same)
  exact ⟨⟨time, read, earliest, counts, kept⟩, document, decoded, drawn,
    (points _ (List.mem_cons_self ..) _ (List.mem_cons_self ..)).1⟩

end RoomAir
