import RoomAir.Proofs.Number.Layout
import RoomAir.Proofs.Text.Form

/-! Numbers inside a document: each is read up to its end as the number that was written. -/

namespace RoomAir

/-- What may stand in a JSON number beside its digits. -/
def numberMarks : List Char :=
  ['.', 'e', '+', '-']

/-- A character that may stand in a JSON number. -/
def IsNumberChar (c : Char) : Prop :=
  c.isDigit = true ∨ c ∈ numberMarks

instance (c : Char) : Decidable (IsNumberChar c) :=
  inferInstanceAs (Decidable (_ ∨ _))

namespace Decimal

/-- A number that is written out has digits and a point in it. -/
theorem isDigit_or_eq_of_mem_positional {value : Decimal} {c : Char}
    (member : c ∈ value.positional) :
    c.isDigit = true ∨ c = '.' := by
  -- Zeros are put behind the digits or in front of them.
  have zero (count : Nat) (inside : c ∈ List.replicate count '0') : c.isDigit = true := by
    rw [List.eq_of_mem_replicate inside]
    rfl
  -- In front of the digits there are zeros at most.
  have padded (count : Nat)
      (inside : c ∈ List.replicate count '0' ++ Nat.toDigits 10 value.digits) :
      c.isDigit = true :=
    (List.mem_append.mp inside).elim (zero count) isDigit_of_mem_toDigits
  simp only [positional, digitsOf] at member
  split at member
  · -- A whole number is its digits and the zeros of its exponent.
    split at member
    · exact .inl (zero 1 member)
    · exact .inl ((List.mem_append.mp member).elim isDigit_of_mem_toDigits (zero _))
  · -- Otherwise the padded digits are taken apart at the point.
    rcases List.mem_append.mp member with whole | rest
    · exact .inl (padded _ (List.mem_of_mem_take whole))
    · rcases List.mem_cons.mp rest with point | fraction
      · exact .inr point
      · exact .inl (padded _ (List.mem_of_mem_drop fraction))

/-- A number with an exponent has digits and marks in it. -/
theorem isNumberChar_of_mem_scientific {value : Decimal} {c : Char}
    (member : c ∈ value.scientific) :
    IsNumberChar c := by
  -- The digits in front, with the point and what stands behind it if there is anything.
  simp only [scientific] at member
  -- In front of the exponent's mark stand digits and at most a point, after it a sign and digits.
  rcases List.mem_append.mp member with front | back
  · rcases List.mem_append.mp front with first | fraction
    · exact .inl (isDigit_of_mem_toDigits (List.mem_of_mem_take first))
    · split at fraction
      · exact absurd fraction List.not_mem_nil
      · rcases List.mem_cons.mp fraction with rfl | digit
        · exact .inr (by decide)
        · exact .inl (isDigit_of_mem_toDigits (List.mem_of_mem_drop digit))
  · rcases List.mem_cons.mp back with rfl | exponent
    · exact .inr (by decide)
    -- The exponent has a sign and then its digits.
    · rcases List.mem_cons.mp exponent with sign | digit
      · right
        rw [sign]
        split <;> decide
      · exact .inl (isDigit_of_mem_toDigits digit)

/-- A JSON number has digits and marks in it. -/
theorem isNumberChar_of_mem_jsonChars {value : Decimal} {c : Char}
    (member : c ∈ value.jsonChars) :
    IsNumberChar c := by
  -- Each of the layouts is made of digits, a point and at most an exponent.
  -- A point is one of the marks.
  have point : c.isDigit = true ∨ c = '.' → IsNumberChar c := by
    rintro (digit | rfl)
    · exact .inl digit
    · exact .inr (by decide)
  -- Beside the zero of zero there are the zero and the point that are put behind whole numbers.
  have zeros (inside : c ∈ ['0', '.', '0']) : c.isDigit = true ∨ c = '.' := by
    simp only [List.mem_cons, List.not_mem_nil, or_false] at inside
    rcases inside with rfl | rfl | rfl <;> decide
  simp only [jsonChars] at member
  split at member
  · exact point (zeros member)
  · split at member
    · split at member
      · rcases List.mem_append.mp member with whole | fraction
        · exact point (isDigit_or_eq_of_mem_positional whole)
        · exact point (zeros (List.mem_cons_of_mem _ fraction))
      · exact point (isDigit_or_eq_of_mem_positional member)
    · exact isNumberChar_of_mem_scientific member

end Decimal

namespace Json

/-- A whole number has digits and a sign in it. -/
theorem isNumberChar_of_mem_integerChars {value : Int} {c : Char}
    (member : c ∈ integerChars value) :
    IsNumberChar c := by
  -- Only a negative number has a sign in front of its digits.
  rw [integerChars] at member
  split at member
  · rcases List.mem_cons.mp member with rfl | digit
    · exact .inr (by decide)
    · exact .inl (isDigit_of_mem_toDigits digit)
  · exact .inl (isDigit_of_mem_toDigits member)

/-- A double has digits and marks in it. -/
theorem isNumberChar_of_mem_jsonText {x : Double} {c : Char} (member : c ∈ x.jsonText.toList) :
    IsNumberChar c := by
  rw [Double.jsonText, String.toList_ofList, Double.signText] at member
  -- The sign is written only where there is one.
  split at member
  · rcases List.mem_append.mp member with sign | magnitude
    · exact .inr (List.mem_singleton.mp sign ▸ by decide)
    · exact Decimal.isNumberChar_of_mem_jsonChars magnitude
  · exact Decimal.isNumberChar_of_mem_jsonChars member

/-- A double that is shown to readers has digits and marks in it. -/
theorem isNumberChar_of_mem_display {x : Double} {c : Char} (member : c ∈ x.display.toList) :
    IsNumberChar c := by
  -- The sign is written before the digits, if there is one.
  rw [Double.display, String.toList_ofList, Double.signText] at member
  rcases List.mem_append.mp member with sign | digits
  · split at sign
    · exact .inr (List.mem_singleton.mp sign ▸ by decide)
    · cases sign
  · rcases Decimal.isDigit_or_eq_of_mem_positional digits with digit | rfl
    · exact .inl digit
    · exact .inr (by decide)

/-- A character that may stand in a number is one byte that may. -/
theorem isNumberByte_ascii {c : Char} (mark : IsNumberChar c) :
    c.toNat < 0x80 ∧ isNumberByte (ascii c) = true := by
  -- The marks are looked at one by one, and so are the digits.
  have marks : ∀ c ∈ numberMarks, c.toNat < 0x80 ∧ isNumberByte (ascii c) = true :=
    forall_mem_of_all (by decide)
  rcases mark with digit | member
  · exact of_isDigit digit (by decide)
  · exact marks c member

/-- An ASCII text is one byte for each character. -/
theorem flatMap_encodeChar_of_ascii {text : List Char} (all : ∀ c ∈ text, c.toNat < 0x80) :
    text.flatMap Utf8.encodeChar = text.map ascii := by
  induction text with
  | nil => rfl
  | cons c text ih =>
    -- An ASCII character is encoded as its own byte.
    rw [List.forall_mem_cons] at all
    rw [List.flatMap_cons, Form.encodeChar_of_lt all.1, ih all.2]
    rfl

/-- The bytes of an ASCII text are the codes of its characters. -/
theorem map_ofNat_ascii {text : List Char} (all : ∀ c ∈ text, c.toNat < 0x80) :
    (text.map ascii).map (fun byte => Char.ofNat byte.toNat) = text := by
  -- Each byte is the code of its character, which it is read as again.
  rw [List.map_map]
  refine (List.map_congr_left fun c member => ?_).trans (List.map_id text)
  have small := all c member
  simp [Utf8.toNat_toUInt8 (show c.toNat < 256 by omega), Char.ofNat_toNat]

/-- A number is read up to the first byte that may not stand in one. -/
theorem readExactNumber_append {negative : Bool} {text : List Char} {value : Json} {rest : Bytes}
    (inNumber : ∀ c ∈ text, IsNumberChar c)
    (spells : numberText? (nearest? negative) negative text = some value)
    (ends : EndsRun isNumberByte rest) :
    readExactNumber negative (text.flatMap Utf8.encodeChar ++ rest) = .ok (value, rest) := by
  -- Nothing in a number is outside of ASCII, so each character is one byte.
  have small : ∀ c ∈ text, c.toNat < 0x80 := fun c member =>
    (isNumberByte_ascii (inNumber c member)).1
  -- Each of these bytes may stand in a number, and the run goes on with it.
  have bytes : ∀ byte ∈ text.map ascii, isNumberByte byte = true := by
    intro byte member
    obtain ⟨c, inside, rfl⟩ := List.mem_map.mp member
    exact (isNumberByte_ascii (inNumber c inside)).2
  rw [flatMap_encodeChar_of_ascii small]
  -- The run of bytes is the whole text, and what follows is left over.
  simp only [readExactNumber, takeWhile_run bytes ends, dropWhile_run bytes ends,
    map_ofNat_ascii small, spells]

end Json

end RoomAir
