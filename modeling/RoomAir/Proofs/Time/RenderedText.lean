import RoomAir.Proofs.Text.Pages
import RoomAir.Proofs.Time.Pattern

/-! Rendered times as text: the marks of markup in them are those of the pattern. -/

namespace RoomAir

open Markup (OpensNoTag)

/-! ## Characters of times -/

/-- Whether a character is one of those that times are written in. -/
def isTimeChar (c : Char) : Bool :=
  c.isAlphanum || c ∈ ['+', '-', ' ', '.', ':']

/-- The digits of a number are characters of times. -/
theorem all_toDigits (value : Nat) : (Nat.toDigits 10 value).all isTimeChar = true :=
  List.all_eq_true.mpr fun _ member => of_isDigit (isDigit_of_mem_toDigits member) (by decide)

/-- So are copies of such a character. -/
theorem all_replicate (count : Nat) {c : Char} (written : isTimeChar c = true) :
    (List.replicate count c).all isTimeChar = true :=
  List.all_eq_true.mpr fun _ member => List.eq_of_mem_replicate member ▸ written

/-- So are the digits of a number with zeros before them. -/
theorem all_zeroPadded (width value : Nat) : (zeroPadded width value).all isTimeChar = true := by
  rw [zeroPadded, List.all_append, all_replicate _ (by decide), all_toDigits]
  rfl

namespace Instant

/-- A year is written in digits and with a sign. -/
theorem all_yearText (year : Int) : (yearText year).all isTimeChar = true := by
  unfold yearText
  split_ifs <;> simp [all_zeroPadded] <;> decide

/-- A fraction is written in digits and with a point. -/
theorem all_fractionText (nanosecond : Nat) :
    (fractionText nanosecond).all isTimeChar = true := by
  unfold fractionText
  split_ifs <;> simp [all_zeroPadded] <;> decide

/-- The date and the time of day are written in characters of times. -/
theorem all_localText (time : Instant) : time.localText.all isTimeChar = true := by
  simp only [localText, List.all_append, List.all_cons, all_yearText, all_zeroPadded,
    all_fractionText]
  decide

end Instant

namespace TimePattern

/-- A number with a sign is written in characters of times, however it is padded. -/
theorem all_signed (width : Nat) (pad : Pad) (plus : Bool) (value : Int) :
    (signed width pad plus value).all isTimeChar = true := by
  -- The sign is a minus, a plus or nothing.
  have sign : (if value < 0 then ['-'] else if plus then ['+'] else []).all isTimeChar = true := by
    split_ifs <;> decide
  have zero : isTimeChar '0' = true := by decide
  have space : isTimeChar ' ' = true := by decide
  cases pad <;>
    simp only [signed, List.all_append, sign, all_toDigits, all_replicate _ zero,
      all_replicate _ space, Bool.and_self]

/-- A name from a list is written in characters of times, whole or cut short. -/
theorem all_nameAt {names : List String}
    (written : ∀ name ∈ names, name.toList.all isTimeChar = true) (index : Nat) (short : Bool) :
    (nameAt names index short).all isTimeChar = true := by
  -- A place that is not in the list gives an empty name.
  have whole : (names[index]?.getD "").toList.all isTimeChar = true := by
    cases found : names[index]? with
    | none => rfl
    | some name => exact written name (List.mem_of_getElem? found)
  rw [nameAt]
  split
  · exact List.all_eq_true.mpr fun c member =>
      List.all_eq_true.mp whole c (List.mem_of_mem_take member)
  · exact whole

/-! ## Texts without marks -/

/-- A text in which nothing is a mark of markup. -/
structure IsUnmarked (text : List Char) : Prop where
  opensNoTag : OpensNoTag text
  noEntity : '&' ∉ text

/-- Text in characters of times has no mark of markup. -/
theorem isUnmarked_of_all {text : List Char} (written : text.all isTimeChar = true) :
    IsUnmarked text where
  opensNoTag := .of_notMem fun member => absurd (List.all_eq_true.mp written _ member) (by decide)
  noEntity member := absurd (List.all_eq_true.mp written _ member) (by decide)

/-- The character of a code has that code, unless there is none. -/
theorem toNat_ofNat (code : Nat) :
    (Char.ofNat code).toNat = code ∨ (Char.ofNat code).toNat = 0 := by
  -- Codes that are no characters stand for the one with code zero.
  by_cases valid : code.isValidChar
  · exact .inl (by rw [Char.ofNat, dif_pos valid]; rfl)
  · exact .inr (by rw [Char.ofNat, dif_neg valid]; rfl)

/-- The character so many places after zero is never an ampersand. -/
theorem ofNat_zero_add_ne (places : Nat) : Char.ofNat ('0'.toNat + places) ≠ '&' := by
  intro same
  -- The codes of digits begin behind the one of the ampersand.
  have first : '0'.toNat = 48 := rfl
  have ampersand : '&'.toNat = 38 := rfl
  rcases toNat_ofNat ('0'.toNat + places) with code | code <;>
  · rw [same] at code
    omega

/-- Whatever stands for the tens of a number opens no tag, since a digit stands behind it. -/
theorem isUnmarked_twoPlaces (pad : Pad) (value : Nat) : IsUnmarked (twoPlaces pad value) := by
  -- The ones are a digit.
  have digits : ∀ ones < 10, (Char.ofNat ('0'.toNat + ones)).isDigit = true := by decide
  have isDigit := digits (value % 10) (Nat.mod_lt _ (by decide))
  -- In front of the digit any character but an ampersand will do.
  have two (c : Char) (other : c ≠ '&') :
      IsUnmarked [c, Char.ofNat ('0'.toNat + value % 10)] := by
    refine ⟨.pair c isDigit, ?_⟩
    rw [List.mem_cons, List.mem_singleton, not_or]
    exact ⟨other.symm, (ofNat_zero_add_ne _).symm⟩
  unfold twoPlaces
  split
  case h_1 =>
    -- A single digit is a character of times.
    have written : isTimeChar (Char.ofNat ('0'.toNat + value % 10)) = true :=
      of_isDigit isDigit (by decide)
    exact isUnmarked_of_all (List.all_eq_true.mpr fun c member =>
      List.mem_singleton.mp member ▸ written)
  case h_2 => exact two ' ' (by decide)
  -- Beyond ninety-nine the tens are no digit any more, but some later character.
  case h_3 => exact two _ (ofNat_zero_add_ne _)

/-- A numeric part of a time is written without marks. -/
theorem isUnmarked_renderField (time : Instant) (pad : Pad) (field : Field) :
    IsUnmarked (renderField time pad field) := by
  -- A year is padded as a number or written in two places.
  have year (value : Int) : IsUnmarked (yearPlaces pad value) := by
    rw [yearPlaces]
    split <;> exact isUnmarked_of_all (all_signed ..)
  cases field
  case year | weekYear => exact year _
  case quarter | weekdayFromSunday | weekdayFromMonday => exact isUnmarked_of_all (all_toDigits _)
  case dayOfYear | nanosecond | unixSeconds => exact isUnmarked_of_all (all_signed ..)
  all_goals exact isUnmarked_twoPlaces ..

/-- A literal is written as it is, and any other item without marks. -/
theorem literal_or_isUnmarked {time : Instant} {item : PatternItem} {text : List Char}
    (rendered : renderItem? time item = some text) :
    (∃ c, item = .literal c ∧ text = [c]) ∨ IsUnmarked text := by
  -- The names are looked at one by one.
  have months : ∀ name ∈ monthNames, name.toList.all isTimeChar = true := by decide +kernel
  have weekdays : ∀ name ∈ weekdayNames, name.toList.all isTimeChar = true := by decide +kernel
  have offset (style : OffsetStyle) : (offsetText style).toList.all isTimeChar = true := by
    cases style <;> decide
  cases item
  case literal c => exact .inl ⟨c, rfl, (Option.some.inj rendered).symm⟩
  case invalid | readOnly => cases rendered
  -- Every other item is written as numbers, names and signs.
  all_goals
    refine .inr ?_
    rw [← Option.some.inj rendered]
  case number field pad => exact isUnmarked_renderField time pad field
  all_goals refine isUnmarked_of_all ?_
  case monthName => exact all_nameAt months _ _
  case weekdayName => exact all_nameAt weekdays _ _
  case halfDay => split <;> decide
  case zoneName => decide
  case fraction => exact Instant.all_fractionText _
  case offset style => exact offset style
  case standard => rw [List.all_append, Instant.all_localText, offset]; rfl
  case fractionDigits count point =>
    have digits : ((zeroPadded 9 time.nanosecond.val).take count).all isTimeChar = true :=
      List.all_eq_true.mpr fun c member =>
        List.all_eq_true.mp (all_zeroPadded ..) c (List.mem_of_mem_take member)
    split
    -- The point stands before the digits.
    · rw [List.all_cons, digits]; decide
    · exact digits

/-! ## Literals -/

/-- No conversion stands for a mark of markup. -/
theorem literal_notMem_conversion {mark : Char} (special : mark ∈ ['<', '&']) (letter : Char) :
    .literal mark ∉ conversion letter := by
  simp only [List.mem_cons, List.not_mem_nil, or_false] at special
  -- The cases are the letters with a meaning, and none stands for either of the marks.
  unfold conversion
  rcases special with rfl | rfl <;> split <;> decide

/-- Nor does one with a padding mark. -/
theorem literal_notMem_padded (mark : Char) (pad : Pad) (letter : Char) :
    .literal mark ∉ padded pad letter := by
  -- The padding mark leads to a number, or to no item at all.
  unfold padded
  split <;> simp

/-- A mark of markup among the items of a text stands in the text. -/
theorem mem_of_literal_mem {mark : Char} (special : mark ∈ ['<', '&']) {text : List Char}
    (member : .literal mark ∈ ofChars text) : mark ∈ text := by
  fun_induction ofChars text
  case case1 | case17 => simp at member
  -- A conversion makes no such item, so it comes from the rest of the text.
  case case13 ih | case14 ih | case15 ih =>
    have behind := (List.mem_append.mp member).resolve_left (literal_notMem_padded _ _ _)
    simp [ih behind]
  case case16 ih =>
    have behind := (List.mem_append.mp member).resolve_left (literal_notMem_conversion special _)
    simp [ih behind]
  -- An item that is a literal is the character itself.
  case case18 ih =>
    rcases List.mem_cons.mp member with here | behind
    · exact List.mem_cons.mpr (.inl (PatternItem.literal.inj here))
    · exact List.mem_cons_of_mem _ (ih behind)
  all_goals
    rename_i ih
    have behind := (List.mem_cons.mp member).resolve_left (by simp)
    simp [ih behind]

/-- A format without brackets renders times that open no tag, one without ampersands no entity. -/
theorem render?_unmarked {format : String} {time : Instant} {text : String}
    (rendered : (ofText format).render? time = some text) :
    ('<' ∉ format.toList → OpensNoTag text.toList)
      ∧ ('&' ∉ format.toList → '&' ∉ text.toList) := by
  obtain ⟨parts, mapped, rfl⟩ := Option.map_eq_some_iff.mp rendered
  -- Each part of the text is what some item is rendered as.
  have each (part : List Char) (member : part ∈ parts) :
      ∃ item ∈ ofText format, renderItem? time item = some part := by
    have listed : some part ∈ (ofText format).map (renderItem? time) :=
      map_eq_of_mapM mapped ▸ List.mem_map_of_mem member
    exact List.mem_map.mp listed
  rw [String.toList_ofList]
  constructor
  -- A part that is a literal has no bracket, since the format has none.
  · intro noBracket
    refine .flatten fun part member => ?_
    obtain ⟨item, listed, found⟩ := each part member
    rcases literal_or_isUnmarked found with ⟨c, rfl, rfl⟩ | unmarked
    · refine .of_notMem fun bracket => noBracket ?_
      obtain rfl := List.mem_singleton.mp bracket
      exact mem_of_literal_mem (by decide) listed
    · exact unmarked.opensNoTag
  -- A part with an ampersand would be a literal, and the format has none.
  · intro noAmpersand inside
    obtain ⟨part, member, ampersand⟩ := List.mem_flatten.mp inside
    obtain ⟨item, listed, found⟩ := each part member
    rcases literal_or_isUnmarked found with ⟨c, rfl, rfl⟩ | unmarked
    · obtain rfl := List.mem_singleton.mp ampersand
      exact noAmpersand (mem_of_literal_mem (by decide) listed)
    · exact unmarked.noEntity ampersand

end TimePattern

end RoomAir
