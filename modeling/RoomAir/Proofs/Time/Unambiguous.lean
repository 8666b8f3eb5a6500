import Mathlib.Data.List.DropRight
import RoomAir.Proofs.Time.Naive
import RoomAir.Proofs.Traversal

/-! No text has two of the spellings of a timestamp, so they may be tried in any order. -/

namespace RoomAir.Timestamp

/-- The spellings by name. -/
inductive Spelling where
  | withOffset
  | joinedByT
  | joinedByBlanks
  | toTheMinute
  | dateAlone
  deriving DecidableEq

/-- The reader of a spelling. -/
def Spelling.read? : Spelling → List Char → Option Instant
  | .withOffset => withOffset?
  | .joinedByT => joinedByT?
  | .joinedByBlanks => joinedByBlanks?
  | .toTheMinute => toTheMinute?
  | .dateAlone => dateAlone?

/-- Each spelling once, in the order in which they are tried. -/
def Spelling.listed : List Spelling :=
  [.withOffset, .joinedByT, .joinedByBlanks, .toTheMinute, .dateAlone]

/-- What follows the letter that may join a time to its date. -/
def pastLetter : List Char → List Char
  | 'T' :: rest => rest
  | 't' :: rest => rest
  | rest => rest

/-- The one spelling that a text can have, going by what is left of it behind each of its parts. -/
def tell? (text : List Char) : Option Spelling := do
  let (_, rest) ← date? text
  if rest.isEmpty then some .dateAlone
  else
    let (_, _, behind) ← clock? (pastLetter rest)
    if behind.isEmpty then some .toTheMinute
    else
      let (_, behind) ← field? (← expect? ':' behind)
      let (_, behind) ← optionalFraction? behind
      -- Only an offset comes behind the seconds; without one it is the joint that tells.
      if ¬ behind.isEmpty then some .withOffset
      else if rest.head? = some 'T' then some .joinedByT
      else some .joinedByBlanks

/-! ## The strict fields are read by the lenient readers as well -/

variable {text rest : List Char} {time : Instant}

/-- An expected character is taken off the front. -/
theorem expect?_eq_some_iff {expected : Char} :
    expect? expected text = some rest ↔ text = expected :: rest := by
  -- The first character is compared, if there is one.
  cases text with
  | nil => simp [expect?]
  | cons c text => simp [expect?]

/-- Where digits are needed, the text begins with one. -/
theorem exists_digit {least most : Nat} {result : Nat × List Char} (needed : 0 < least)
    (read : digits? least most text = some result) :
    ∃ digit more, text = digit :: more ∧ digit.isDigit = true := by
  -- A text that begins with anything else has no run of digits at its front.
  cases text with
  | nil =>
    simp only [digits?, List.take_nil, List.takeWhile_nil, List.length_nil, if_pos needed] at read
    cases read
  | cons c more =>
    cases digit : c.isDigit with
    | true => exact ⟨c, more, rfl, digit⟩
    | false => rw [digits?_mark digit needed] at read; cases read

/-- A run of digits that is long enough is long enough for a smaller bound, too. -/
theorem digits?_of_le {least fewer most : Nat} {result : Nat × List Char} (le : fewer ≤ least)
    (read : digits? least most text = some result) : digits? fewer most text = some result := by
  -- The bound is looked at once, when the run has been taken.
  simp only [digits?] at read ⊢
  split at read
  case isTrue short => cases read
  case isFalse long => rw [if_neg (by omega), read]

/-- A field of two digits is a field of at most two. -/
theorem field?_of_digits? {result : Nat × List Char} (read : digits? 2 2 text = some result) :
    field? text = some result := by
  obtain ⟨digit, more, rfl, isDigit⟩ := exists_digit (by decide) read
  -- No white space comes before the first digit.
  have solid : Blank.isBlank digit = false := of_isDigit isDigit (by decide)
  rw [field?, Blank.skip_eq_self (endsRun_cons solid more)]
  exact digits?_of_le (by decide) read

/-- A year of four digits is a year without a sign. -/
theorem year?_of_digits? {year : Nat} (read : digits? 4 4 text = some (year, rest)) :
    year? text = some ((year : Int), rest) := by
  obtain ⟨digit, more, rfl, isDigit⟩ := exists_digit (by decide) read
  -- The first digit is neither white space nor a sign.
  have solid : Blank.isBlank digit = false := of_isDigit isDigit (by decide)
  have noSign : digit ≠ '-' ∧ digit ≠ '+' := of_isDigit isDigit (by decide)
  have relaxed : digits? 1 4 (digit :: more) = some (year, rest) := digits?_of_le (by decide) read
  rw [year?, Blank.skip_eq_self (endsRun_cons solid more)]
  -- The first digit is neither of the signs that a year may have.
  split
  case h_1 minus => exact absurd (List.cons.inj minus).1 noSign.1
  case h_2 plus => exact absurd (List.cons.inj plus).1 noSign.2
  case h_3 => rw [relaxed, Option.map_some]

/-- A time that follows white space is the time without it. -/
theorem clock?_skip (text : List Char) : clock? (Blank.skip text) = clock? text := by
  -- White space that has been skipped once is gone.
  have twice : Blank.skip (Blank.skip text) = Blank.skip text := List.dropWhile_idempotent _ text
  simp only [clock?, field?, twice]

/-- A time begins with no letter, so none is taken off it. -/
theorem pastLetter_of_clock? {result : Nat × Nat × List Char} (read : clock? text = some result) :
    pastLetter text = text ∧ text.head? ≠ some 'T' := by
  -- Neither of the letters is white space or a digit.
  have noLetter (letter : Char) (rest : List Char) (solid : Blank.isBlank letter = false)
      (noDigit : letter.isDigit = false) : clock? (letter :: rest) = none := by
    simp only [clock?, field?_mark solid noDigit, Option.bind_eq_bind, Option.bind_none]
  unfold pastLetter
  split
  case h_1 rest => rw [noLetter 'T' rest rfl rfl] at read; cases read
  case h_2 rest => rw [noLetter 't' rest rfl rfl] at read; cases read
  case h_3 rest noCapital _ =>
    -- A text that begins with a `T` would be the first of the cases.
    refine ⟨rfl, fun begins => ?_⟩
    obtain ⟨more, rfl⟩ := List.head?_eq_some_iff.mp begins
    exact noCapital more rfl

/-- Any of the three joints of a strict date and time is passed over on the way to the time. -/
theorem clock?_pastLetter {joint : Char} (joins : joint = 'T' ∨ joint = 't' ∨ joint = ' ')
    (text : List Char) : clock? (pastLetter (joint :: text)) = clock? text := by
  rcases joins with rfl | rfl | rfl
  · rfl
  · rfl
  · -- A space is no letter, but the hour may come after white space.
    have space : Blank.skip (' ' :: text) = Blank.skip text := rfl
    have kept : pastLetter (' ' :: text) = ' ' :: text := by simp [pastLetter]
    rw [kept, ← clock?_skip, space, clock?_skip]

/-! ## Each reader takes only texts that are told to have its spelling -/

/-- With a time to the second, what is left behind it tells the spelling, and then the joint. -/
theorem tell?_eq {date : Date} {behind fraction zone : List Char}
    {hour minute second nanosecond : Nat}
    (dated : date? text = some (date, rest)) (more : rest ≠ [])
    (timed : clock? (pastLetter rest) = some (hour, minute, ':' :: behind))
    (seconds : field? behind = some (second, fraction))
    (fractional : optionalFraction? fraction = some (nanosecond, zone)) :
    tell? text = if ¬ zone.isEmpty then some .withOffset
      else if rest.head? = some 'T' then some .joinedByT
      else some .joinedByBlanks := by
  -- The parts are read as they are told, so the end of the text decides.
  have more : ¬ rest.isEmpty = true := by simpa using more
  simp only [tell?, dated, if_neg more, timed, Option.bind_eq_bind, Option.bind_some,
    List.isEmpty_cons, Bool.false_eq_true, if_false, expect?, if_true, seconds, fractional]

/-- A date and time with an offset tells itself by the offset. -/
theorem tell?_of_withOffset? (read : withOffset? text = some time) :
    tell? text = some .withOffset := by
  simp only [withOffset?, Option.bind_eq_bind, Option.bind_eq_some_iff, expect?_eq_some_iff]
    at read
  obtain ⟨⟨year, _⟩, yearRead, _, rfl, ⟨month, _⟩, monthRead, _, rfl, ⟨day, joined⟩, dayRead,
    read⟩ := read
  -- The strict fields of the date are read by the lenient readers in the same way.
  have dated : date? text = some (⟨year, month, day⟩, joined) := by
    simp only [date?, year?_of_digits? yearRead, Option.bind_eq_bind, Option.bind_some, expect?,
      if_true, field?_of_digits? monthRead, field?_of_digits? dayRead]
  split at read
  -- Behind the date there has to be a joint.
  case h_2 => cases read
  case h_1 joint clock same =>
    split at read
    case isFalse => cases read
    case isTrue joins =>
      simp only [Option.bind_eq_some_iff, expect?_eq_some_iff] at same read
      obtain ⟨⟨hour, _⟩, hourRead, _, rfl, ⟨minute, _⟩, minuteRead, behind, rfl,
        ⟨second, _⟩, secondRead, ⟨nanosecond, zone⟩, fractional, _, offsetRead, -⟩ := read
      have timed : clock? clock = some (hour, minute, ':' :: behind) := by
        simp only [clock?, field?_of_digits? hourRead, Option.bind_eq_bind, Option.bind_some,
          expect?, if_true, field?_of_digits? minuteRead]
      -- An offset is not read from nothing.
      have offset : zone ≠ [] := by
        rintro rfl
        cases offsetRead
      rw [same] at dated
      rw [tell?_eq dated (List.cons_ne_nil _ _) ((clock?_pastLetter joins clock).trans timed)
        (field?_of_digits? secondRead) fractional, if_pos (by simpa using offset)]

/-- A time to the second without an offset leaves nothing behind. -/
theorem exists_of_throughSeconds? {date : Date} (read : throughSeconds? date text = some time) :
    ∃ hour minute behind second fraction nanosecond,
      clock? text = some (hour, minute, ':' :: behind)
        ∧ field? behind = some (second, fraction)
        ∧ optionalFraction? fraction = some (nanosecond, []) := by
  -- The parts are read one after the other, and the last test asks for the end of the text.
  simp only [throughSeconds?, Option.bind_eq_bind, Option.bind_eq_some_iff, expect?_eq_some_iff]
    at read
  obtain ⟨⟨hour, minute, _⟩, timed, behind, rfl, ⟨second, fraction⟩, seconds,
    ⟨nanosecond, zone⟩, fractional, read⟩ := read
  split at read
  case isFalse => cases read
  case isTrue ends =>
    obtain rfl : zone = [] := List.isEmpty_iff.mp ends
    exact ⟨hour, minute, behind, second, fraction, nanosecond, timed, seconds, fractional⟩

/-- With nothing behind the seconds, a `T` tells the spelling. -/
theorem tell?_of_joinedByT? (read : joinedByT? text = some time) :
    tell? text = some .joinedByT := by
  simp only [joinedByT?, Option.bind_eq_bind, Option.bind_eq_some_iff, expect?_eq_some_iff] at read
  -- The date and the `T` are taken off, and the rest is a time to the second.
  obtain ⟨⟨date, _⟩, dated, clock, rfl, read⟩ := read
  obtain ⟨_, _, _, _, _, _, timed, seconds, fractional⟩ := exists_of_throughSeconds? read
  rw [tell?_eq dated (List.cons_ne_nil _ _) timed seconds fractional, if_neg (by simp),
    if_pos (List.head?_cons ..)]

/-- With nothing behind the seconds and no `T` either, there is at most white space to join. -/
theorem tell?_of_joinedByBlanks? (read : joinedByBlanks? text = some time) :
    tell? text = some .joinedByBlanks := by
  simp only [joinedByBlanks?, Option.bind_eq_bind, Option.bind_eq_some_iff] at read
  obtain ⟨⟨date, rest⟩, dated, read⟩ := read
  obtain ⟨_, _, _, _, _, _, timed, seconds, fractional⟩ := exists_of_throughSeconds? read
  -- The hour comes next, so no letter stands there and something is left of the text.
  rw [clock?_skip] at timed
  obtain ⟨noLetter, noCapital⟩ := pastLetter_of_clock? timed
  have more : rest ≠ [] := by
    rintro rfl
    cases timed
  rw [tell?_eq dated more (noLetter ▸ timed) seconds fractional, if_neg (by simp),
    if_neg noCapital]

/-- A time without seconds ends with its minutes. -/
theorem tell?_of_toTheMinute? (read : toTheMinute? text = some time) :
    tell? text = some .toTheMinute := by
  simp only [toTheMinute?, Option.bind_eq_bind, Option.bind_eq_some_iff, expect?_eq_some_iff]
    at read
  -- The date, the `T` and the clock are taken off, and nothing is left.
  obtain ⟨⟨date, _⟩, dated, clock, rfl, ⟨hour, minute, behind⟩, timed, read⟩ := read
  split at read
  case isFalse => cases read
  case isTrue ends =>
    simp only [tell?, dated, pastLetter, timed, Option.bind_eq_bind, Option.bind_some,
      List.isEmpty_cons, Bool.false_eq_true, if_false, if_pos ends]

/-- A date alone leaves nothing behind. -/
theorem tell?_of_dateAlone? (read : dateAlone? text = some time) :
    tell? text = some .dateAlone := by
  simp only [dateAlone?, Option.bind_eq_bind, Option.bind_eq_some_iff] at read
  -- The date is taken off, and nothing is left.
  obtain ⟨⟨date, rest⟩, dated, read⟩ := read
  split at read
  case isFalse => cases read
  case isTrue ends =>
    simp only [tell?, dated, Option.bind_eq_bind, Option.bind_some, if_pos ends]

/-- Whatever the reader of a spelling takes is told to have that spelling. -/
theorem Spelling.tell?_eq {spelling : Spelling} (read : (spelling.read? text).isSome = true) :
    tell? text = some spelling := by
  -- Each spelling has its reader, and each reader its lemma.
  obtain ⟨time, read⟩ := Option.isSome_iff_exists.mp read
  cases spelling with
  | withOffset => exact tell?_of_withOffset? read
  | joinedByT => exact tell?_of_joinedByT? read
  | joinedByBlanks => exact tell?_of_joinedByBlanks? read
  | toTheMinute => exact tell?_of_toTheMinute? read
  | dateAlone => exact tell?_of_dateAlone? read

/-! ## Any order of the readers -/

/-- At most one spelling is told, so at most one reader takes a text. -/
theorem countP_spellings_le (text : List Char) :
    spellings.countP (fun spelling => (spelling text).isSome) ≤ 1 := by
  -- The readers are those of the named spellings, in the same order.
  have named : spellings = Spelling.listed.map Spelling.read? := rfl
  rw [named, List.countP_map]
  cases told : tell? text with
  | none =>
    -- A text that no spelling is told of is taken by no reader.
    have nobody : ∀ spelling ∈ Spelling.listed, ¬ (spelling.read? text).isSome = true := by
      intro spelling _ read
      rw [Spelling.tell?_eq read] at told
      cases told
    exact (List.countP_eq_zero.mpr nobody).trans_le (Nat.zero_le 1)
  | some one =>
    -- All readers that take the text have the same name, and no name is listed twice.
    have same : ∀ spelling ∈ Spelling.listed, (spelling.read? text).isSome = true →
        (spelling == one) = true := by
      intro spelling _ read
      rw [Spelling.tell?_eq read] at told
      simpa using told
    have once : Spelling.listed.Nodup := by decide
    calc Spelling.listed.countP ((fun read => (read text).isSome) ∘ Spelling.read?)
      _ ≤ Spelling.listed.count one := List.countP_mono_left same
      _ ≤ 1 := List.nodup_iff_count.mp once one

/-- Where at most one of several readers takes a text, they may be tried in any order. -/
theorem findSome?_perm {α β : Type} {readers order : List (α → Option β)} {text : α}
    (once : readers.countP (fun reader => (reader text).isSome) ≤ 1) (perm : order.Perm readers) :
    order.findSome? (· text) = readers.findSome? (· text) := by
  -- The results of the readers that take the text are at most one, which has no order.
  have results : order.filterMap (· text) = readers.filterMap (· text) := by
    refine eq_of_perm_of_length_le (perm.filterMap _) ?_
    rwa [List.length_filterMap_eq_countP]
  rw [← List.head?_filterMap, ← List.head?_filterMap, results]

/--
No text has two of the spellings of a timestamp.

Its result is therefore the same in whatever order they are tried.
-/
theorem spelled_once :
    (∀ text : List Char, spellings.countP (fun spelling => (spelling text).isSome) ≤ 1)
      ∧ ∀ (raw : String) (order : List (List Char → Option Instant)), order.Perm spellings →
        order.findSome? (· (Blank.trim raw.toList)) = read? raw := by
  refine ⟨countP_spellings_le, fun raw order perm => ?_⟩
  exact findSome?_perm (countP_spellings_le _) perm

/-- Even where digits run into each other, a field takes as many as it may and the rest follow. -/
example : read? "2024-3-109:05:00" = read? "2024-03-10T09:05:00Z" := by
  decide +kernel

end RoomAir.Timestamp
