import RoomAir.Proofs.Json.RoundTrip

/-! JSON text inside a document: it stays on one line, and in a script element it closes no tag. -/

namespace RoomAir.Json

/-- A text without control characters. -/
def Printed (text : List Char) : Prop :=
  ∀ c ∈ text, 0x20 ≤ c.toNat

instance (text : List Char) : Decidable (Printed text) :=
  List.decidableBAll _ _

/-- Texts without control characters have none one behind the other. -/
theorem printed_append {first second : List Char} (front : Printed first)
    (back : Printed second) : Printed (first ++ second) :=
  -- The character is in one of the two texts.
  fun c member => (List.mem_append.mp member).elim (front c) (back c)

/-- A text has no control character if its first character is none and the others are none. -/
theorem printed_cons {c : Char} {text : List Char} (first : 0x20 ≤ c.toNat)
    (rest : Printed text) : Printed (c :: text) :=
  List.forall_mem_cons.mpr ⟨first, rest⟩

/-- What a character is escaped as has no control character in it. -/
theorem printed_escapeChar (c : Char) : Printed (escapeChar c) := by
  -- The sixteen digits are letters and digits of ASCII.
  have hex : ∀ value < 16, 0x20 ≤ (hexDigit value).toNat := by decide
  unfold escapeChar
  repeat' split
  any_goals decide
  · -- A control character is spelled by the digits of its code.
    rename_i control
    have opens : Printed ['\\', 'u', '0', '0'] := by decide
    refine printed_append opens ?_
    exact printed_cons (hex _ (by omega)) (printed_cons (hex _ (by omega)) nofun)
  · -- Whatever is written as it is comes after the control characters.
    rename_i noControl
    exact printed_cons (by omega) nofun

/-- A quoted text has no control character in it, whatever the text has. -/
theorem printed_quotedChars (text : String) : Printed (quotedChars text) := by
  -- Each character of the content is part of what some character was escaped as.
  have content : Printed (text.toList.flatMap escapeChar) := by
    intro c member
    obtain ⟨original, -, inside⟩ := List.mem_flatMap.mp member
    exact printed_escapeChar original c inside
  -- The two quotes are no control characters either.
  exact printed_append (printed_cons (by decide) content) (printed_cons (by decide) nofun)

/-- Digits and the marks of a number are no control characters. -/
theorem printed_of_isNumberChar {text : List Char}
    (inNumber : ∀ c ∈ text, IsNumberChar c) : Printed text := by
  -- The digits begin after the controls, and the marks are looked at one by one.
  have all : Printed numberMarks := by decide
  intro c member
  rcases inNumber c member with digit | mark
  · exact Nat.le_trans (by decide) (Char.isDigit_iff_toNat.mp digit).1
  · exact all c mark

mutual

/-- The text of a value has no control character in it. -/
theorem printed_chars : ∀ value : Json, Printed value.chars
  | .null => by decide
  | .bool true => by decide
  | .bool false => by decide
  | .integer _ => printed_of_isNumberChar fun _ => isNumberChar_of_mem_integerChars
  | .number _ => printed_of_isNumberChar fun _ => isNumberChar_of_mem_jsonText
  | .string text => printed_quotedChars text
  | .array items =>
    printed_append (printed_cons (by decide) (printed_itemChars items))
      (printed_cons (by decide) nofun)
  | .object members =>
    printed_append (printed_cons (by decide) (printed_memberChars members))
      (printed_cons (by decide) nofun)

/-- Nor has the text of some items. -/
theorem printed_itemChars : ∀ items : List Json, Printed (itemChars items)
  | [] => nofun
  | [item] => printed_chars item
  | item :: next :: items =>
    printed_append (printed_chars item)
      (printed_cons (by decide) (printed_itemChars (next :: items)))

/-- Nor has the text of some members. -/
theorem printed_memberChars : ∀ members : List (String × Json), Printed (memberChars members)
  | [] => nofun
  | [(key, value)] =>
    printed_append (printed_quotedChars key) (printed_cons (by decide) (printed_chars value))
  | (key, value) :: next :: members =>
    printed_append
      (printed_append (printed_quotedChars key) (printed_cons (by decide) (printed_chars value)))
      (printed_cons (by decide) (printed_memberChars (next :: members)))

end

/-- Beside its own characters a text whose strokes are escaped has backslashes only. -/
theorem StrokeEscaped.forall_mem {property : Char → Prop} {text written : List Char}
    (escaped : StrokeEscaped text written) (backslash : property '\\')
    (all : ∀ c ∈ text, property c) : ∀ c ∈ written, property c := by
  induction escaped with
  -- Nothing was written for nothing.
  | nil => exact all
  | same c _ ih =>
    -- The character is written as it is.
    rw [List.forall_mem_cons] at all ⊢
    exact ⟨all.1, ih all.2⟩
  | stroke _ ih =>
    -- The backslash stands in front of the stroke, which has the property as a character of the
    -- text.
    rw [List.forall_mem_cons] at all
    exact List.forall_mem_cons.mpr ⟨backslash, List.forall_mem_cons.mpr ⟨all.1, ih all.2⟩⟩

/-- Backslashes before strokes add no control character. -/
theorem StrokeEscaped.printed {text written : List Char} (escaped : StrokeEscaped text written)
    (printed : Printed text) : Printed written :=
  escaped.forall_mem (by decide) printed

/-- A value's text in a script element is one line. -/
theorem newline_notMem_scriptText (value : Json) : '\n' ∉ value.scriptText.toList := by
  -- A line feed is a control character, and the text has none.
  rw [scriptText, String.toList_ofList]
  intro member
  exact absurd ((StrokeEscaped.breakClosingTags _).printed (printed_chars value) _ member)
    (by decide)

end RoomAir.Json
