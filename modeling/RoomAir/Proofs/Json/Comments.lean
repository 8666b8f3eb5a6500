import RoomAir.Proofs.Json.Embedding
import RoomAir.Proofs.Text.Infix
import RoomAir.Proofs.Text.ScriptData

/-! Comments in JSON text: where the text of a value opens one, so does a string of the value. -/

namespace RoomAir.Json

/-- A text that opens no comment. -/
def Uncommented (text : List Char) : Prop :=
  ¬ ['<', '!', '-', '-'] <:+: text

instance (text : List Char) : Decidable (Uncommented text) :=
  inferInstanceAs (Decidable (¬ _))

mutual

/-- The strings of a value, the keys of its members included. -/
def strings : Json → List String
  | .null | .bool _ | .integer _ | .number _ => []
  | .string text => [text]
  | .array items => itemStrings items
  | .object members => memberStrings members

/-- The strings of items, in order. -/
def itemStrings : List Json → List String
  | [] => []
  | item :: items => strings item ++ itemStrings items

/-- The strings of members, each key before its value. -/
def memberStrings : List (String × Json) → List String
  | [] => []
  | (key, value) :: members => key :: (strings value ++ memberStrings members)

end

/-- Strings that open no comment. -/
def AllUncommented (texts : List String) : Prop :=
  ∀ text ∈ texts, Uncommented text.toList

instance (texts : List String) : Decidable (AllUncommented texts) :=
  List.decidableBAll _ _

/-- Strings open no comment when the first one and the others do not. -/
theorem allUncommented_cons {text : String} {texts : List String} :
    AllUncommented (text :: texts) ↔ Uncommented text.toList ∧ AllUncommented texts :=
  List.forall_mem_cons

/-- Strings of two lists open no comment when those of each list do not. -/
theorem allUncommented_append {first second : List String} :
    AllUncommented (first ++ second) ↔ AllUncommented first ∧ AllUncommented second :=
  List.forall_mem_append

/-- The strings of items are those of each of them. -/
theorem allUncommented_itemStrings {items : List Json} :
    AllUncommented (itemStrings items) ↔ ∀ item ∈ items, AllUncommented item.strings := by
  induction items with
  -- There are no items to have strings.
  | nil => exact ⟨fun _ => nofun, fun _ => nofun⟩
  | cons item items ih =>
    rw [itemStrings, allUncommented_append, ih, List.forall_mem_cons]

/-! ## Texts -/

/-- Nothing opens no comment. -/
theorem uncommented_nil : Uncommented [] := by
  decide

/-- A text in which there is no opening bracket opens no comment. -/
theorem uncommented_of_notMem {text : List Char} (absent : '<' ∉ text) : Uncommented text :=
  -- The bracket that the opening begins with would be in the text.
  fun inside => absent (inside.subset (List.mem_cons_self ..))

/-- Texts with a mark between them that does not belong to the opening of a comment. -/
theorem uncommented_append_cons {c : Char} {first second : List Char}
    (front : Uncommented first) (back : Uncommented second)
    (separates : c ∉ ['<', '!', '-', '-']) : Uncommented (first ++ c :: second) := by
  intro inside
  -- The opening has none of the separating mark in it, so it stands on one side.
  rcases infix_of_infix_append_cons separates inside with inside | inside
  · exact front inside
  · exact back inside

/-- A text between two marks that do not belong to the opening of a comment. -/
theorem uncommented_enclosed {opening closing : Char} {text : List Char}
    (uncommented : Uncommented text) (opens : opening ∉ ['<', '!', '-', '-'])
    (closes : closing ∉ ['<', '!', '-', '-']) : Uncommented (opening :: text ++ [closing]) :=
  -- There is nothing before the first mark and nothing behind the second one.
  uncommented_append_cons (uncommented_append_cons uncommented_nil uncommented opens)
    uncommented_nil closes

/-- What a character is escaped as is the character itself or begins with a backslash. -/
theorem escapeChar_eq (c : Char) : escapeChar c = [c] ∨ ∃ more, escapeChar c = '\\' :: more := by
  -- The one that is written as it is stands last; all others are spelled with a backslash.
  unfold escapeChar
  repeat' split
  all_goals first
    | exact .inl rfl
    | exact .inr ⟨_, rfl⟩

/-- The characters that escapes are spelled with. -/
def escapeMarks : List Char :=
  ['\\', '"', 'b', 'f', 'n', 'r', 't', 'u'] ++ (List.range 16).map hexDigit

/-- What a character is escaped as has the character itself in it, and otherwise such marks. -/
theorem eq_or_mem_of_mem_escapeChar {mark c : Char} (member : mark ∈ escapeChar c) :
    mark = c ∨ mark ∈ escapeMarks := by
  have spelled : ∀ text : List Char, text ⊆ escapeMarks → mark ∈ text →
      mark = c ∨ mark ∈ escapeMarks := fun _ marks member => .inr (marks member)
  -- Each branch of the writer spells something of its own, most of it by fixed marks.
  unfold escapeChar at member
  repeat' split at member
  any_goals (refine spelled _ ?_ member; decide)
  · -- The digits of a code are among the marks.
    have digit (value : Nat) (small : value < 16) : hexDigit value ∈ escapeMarks :=
      List.mem_append_right _ (List.mem_map_of_mem (List.mem_range.mpr small))
    refine spelled _ ?_ member
    simp only [List.cons_subset]
    exact ⟨by decide, by decide, by decide, by decide, digit _ (by omega), digit _ (by omega),
      List.nil_subset _⟩
  -- The character is written as it is.
  · exact .inl (List.mem_singleton.mp member)

/-- Only an opening bracket is written with one. -/
theorem bracket_notMem_escapeChar {c : Char} (other : c ≠ '<') : '<' ∉ escapeChar c := by
  intro member
  -- A bracket that was written for another character would be one of the marks.
  exact (eq_or_mem_of_mem_escapeChar member).elim (fun same => other same.symm)
    (fun mark => absurd mark (by decide))

/-- Characters that are not escaped and begin an escaped text begin the text. -/
theorem prefix_of_prefix_escaped {marks text : List Char}
    (plain : ∀ c ∈ marks, c ≠ '\\' ∧ escapeChar c = [c])
    (front : marks <+: text.flatMap escapeChar) : marks <+: text := by
  induction marks generalizing text with
  -- No characters begin every text.
  | nil => exact List.nil_prefix
  | cons mark marks ih =>
    rw [List.forall_mem_cons] at plain
    cases text with
    -- Where there is no text there is nothing that could begin with a mark.
    | nil => exact absurd front (by simp)
    | cons c text =>
      rw [List.flatMap_cons] at front
      rcases escapeChar_eq c with same | ⟨more, escaped⟩
      -- The character is written as it is, so both sides go on behind it.
      · rw [same, List.singleton_append, List.cons_prefix_cons] at front
        exact List.cons_prefix_cons.mpr ⟨front.1, ih plain.2 front.2⟩
      -- An escape begins with a backslash, which the mark is not.
      · rw [escaped, List.cons_append, List.cons_prefix_cons] at front
        exact absurd front.1 plain.1.1

/-- Escaping opens no comment. -/
theorem uncommented_escaped {text : List Char} (uncommented : Uncommented text) :
    Uncommented (text.flatMap escapeChar) := by
  induction text with
  -- There is no text to open a comment.
  | nil => exact uncommented
  | cons c text ih =>
    intro inside
    -- The text behind the first character opens no comment either.
    have later : Uncommented text := fun inside => uncommented (List.infix_cons inside)
    rw [List.flatMap_cons] at inside
    by_cases bracket : c = '<'
    · -- The marks behind the bracket stand for themselves.
      subst bracket
      have plain : ∀ c ∈ ['!', '-', '-'], c ≠ '\\' ∧ escapeChar c = [c] := by
        simp only [List.forall_mem_cons]
        exact ⟨by decide, by decide, by decide, List.forall_mem_nil _⟩
      -- Either the comment opens at the bracket, or it opens behind it.
      rcases List.infix_cons_iff.mp inside with front | inside
      · have marks := prefix_of_prefix_escaped plain (List.cons_prefix_cons.mp front).2
        exact uncommented (List.cons_prefix_cons.mpr ⟨rfl, marks⟩).isInfix
      · exact ih later inside
    -- Without a bracket the first character is no part of an opening.
    · exact ih later (infix_of_infix_append _ (bracket_notMem_escapeChar bracket) inside)

/-- Nor does quoting open one. -/
theorem uncommented_quotedChars {text : String} (uncommented : Uncommented text.toList) :
    Uncommented (quotedChars text) :=
  uncommented_enclosed (uncommented_escaped uncommented) (by decide) (by decide)

/-! ## Values -/

/-- A number has no brackets in it. -/
theorem uncommented_of_isNumberChar {text : List Char} (inNumber : ∀ c ∈ text, IsNumberChar c) :
    Uncommented text :=
  -- The opening of a comment begins with a bracket.
  uncommented_of_notMem fun member => absurd (inNumber _ member) (by decide)

mutual

/-- The text of a value opens no comment if no string of the value does. -/
theorem uncommented_chars : ∀ value : Json, AllUncommented value.strings → Uncommented value.chars
  | .null, _ => by decide
  | .bool true, _ => by decide
  | .bool false, _ => by decide
  | .integer _, _ => uncommented_of_isNumberChar fun _ => isNumberChar_of_mem_integerChars
  | .number _, _ => uncommented_of_isNumberChar fun _ => isNumberChar_of_mem_jsonText
  | .string text, all => uncommented_quotedChars (all text (List.mem_singleton_self text))
  | .array items, all =>
    uncommented_enclosed (uncommented_itemChars items all) (by decide) (by decide)
  | .object members, all =>
    uncommented_enclosed (uncommented_memberChars members all) (by decide) (by decide)

/-- Nor does the text of some items, with a comma between each two. -/
theorem uncommented_itemChars :
    ∀ items : List Json, AllUncommented (itemStrings items) → Uncommented (itemChars items)
  | [], _ => uncommented_nil
  | [item], all => uncommented_chars item (allUncommented_append.mp all).1
  | item :: next :: items, all =>
    have parts := allUncommented_append.mp all
    uncommented_append_cons (uncommented_chars item parts.1)
      (uncommented_itemChars (next :: items) parts.2) (by decide)

/-- Nor does the text of some members, with a colon in each and a comma between each two. -/
theorem uncommented_memberChars : ∀ members : List (String × Json),
    AllUncommented (memberStrings members) → Uncommented (memberChars members)
  | [], _ => uncommented_nil
  | [(_, value)], all =>
    have parts := allUncommented_cons.mp all
    uncommented_append_cons (uncommented_quotedChars parts.1)
      (uncommented_chars value (allUncommented_append.mp parts.2).1) (by decide)
  | (_, value) :: next :: members, all =>
    have parts := allUncommented_cons.mp all
    have values := allUncommented_append.mp parts.2
    uncommented_append_cons
      (uncommented_append_cons (uncommented_quotedChars parts.1)
        (uncommented_chars value values.1) (by decide))
      (uncommented_memberChars (next :: members) values.2) (by decide)

end

/-! ## Script elements -/

/-- What begins a text whose strokes are escaped begins the text, up to its first backslash. -/
theorem StrokeEscaped.begins {marks text written : List Char}
    (escaped : StrokeEscaped text written) (plain : '\\' ∉ marks) (front : marks <+: written) :
    marks <+: text := by
  induction escaped generalizing marks with
  -- Nothing has been written, so only nothing begins it.
  | nil => exact front
  | same c _ ih =>
    cases marks with
    | nil => exact List.nil_prefix
    | cons mark marks =>
      -- Mark and character are the same, and the rest is compared behind them.
      rw [List.cons_prefix_cons] at front ⊢
      rw [List.mem_cons, not_or] at plain
      exact ⟨front.1, ih plain.2 front.2⟩
  | stroke =>
    cases marks with
    | nil => exact List.nil_prefix
    | cons mark marks =>
      -- A backslash was written here, which is none of the marks.
      rw [List.cons_prefix_cons] at front
      exact absurd (front.1 ▸ List.mem_cons_self ..) plain

/-- Backslashes before strokes open no comment. -/
theorem StrokeEscaped.uncommented {text written : List Char}
    (escaped : StrokeEscaped text written) (uncommented : Uncommented text) :
    Uncommented written := by
  induction escaped with
  -- There is nothing to open a comment.
  | nil => exact uncommented
  | @same c text written escaped ih =>
    intro inside
    rcases List.infix_cons_iff.mp inside with front | inside
    · rw [List.cons_prefix_cons] at front
      -- The opening begins here, and then the text itself has its marks.
      have marks := escaped.begins (by decide) front.2
      exact uncommented (front.1 ▸ (List.cons_prefix_cons.mpr ⟨rfl, marks⟩).isInfix)
    · exact ih (fun inside => uncommented (List.infix_cons inside)) inside
  | @stroke text written _ ih =>
    intro inside
    -- The backslash and the stroke are no bracket, so an opening would stand behind them.
    have later : Uncommented text := fun inside => uncommented (List.infix_cons inside)
    exact ih later (infix_of_infix_append ['\\', '/'] (by decide) inside)

/-- A value's text in a script element opens no comment if no string of the value does. -/
theorem uncommented_scriptText {value : Json} (all : AllUncommented value.strings) :
    Uncommented value.scriptText.toList := by
  rw [scriptText, String.toList_ofList]
  -- The text of the value opens none, and neither do the backslashes.
  exact (StrokeEscaped.breakClosingTags _).uncommented (uncommented_chars value all)

/-- A value's text in a script element begins no end tag. -/
theorem tagless_scriptText (value : Json) :
    ScriptData.Tagless value.scriptText.toList := by
  rw [scriptText, String.toList_ofList, ScriptData.Tagless]
  -- The cases are those of the writer, which looks at two characters at once.
  induction value.chars using breakClosingTags.induct with
  | case1 => decide
  | case2 rest ih =>
    -- Behind the bracket of a tag stands a backslash now, and no tag begins with the two.
    rw [breakClosingTags]
    exact fun inside => ih (infix_of_infix_append ['\\', '/'] (by decide)
      ((List.infix_cons_iff.mp inside).resolve_left (by simp [List.cons_prefix_cons])))
  | case3 c rest noTag ih =>
    rw [breakClosingTags]
    · intro inside
      rcases List.infix_cons_iff.mp inside with front | inside
      · -- A stroke that follows would stand in the text already.
        rw [List.cons_prefix_cons] at front
        obtain ⟨later, rfl⟩ :=
          (StrokeEscaped.breakClosingTags rest).begins (by decide) front.2
        exact noTag later front.1.symm rfl
      · exact ih inside
    · exact noTag

end RoomAir.Json
