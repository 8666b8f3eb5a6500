/-! Patterns inside of texts that are written one after the other. -/

namespace RoomAir

variable {α : Type} {c : α} {pattern second : List α}

/-- A pattern that does not have a separator in it stands on one side of it. -/
theorem infix_of_infix_append_cons {first : List α} (absent : c ∉ pattern)
    (inside : pattern <:+: first ++ c :: second) : pattern <:+: first ∨ pattern <:+: second := by
  -- A part of the pattern that begins at the separator is empty.
  have empty : ∀ {part}, part <+: c :: second → c ∉ part → part = [] := by
    intro part front absent
    cases part with
    | nil => rfl
    | cons x part =>
      exact absurd ((List.cons_prefix_cons.mp front).1 ▸ List.mem_cons_self ..) absent
  rcases List.infix_append_iff.mp inside with inside | inside | ⟨start, rest, rfl, back, front⟩
  -- The pattern is in the first text, or at or behind the separator, or across the two.
  · exact .inl inside
  · rcases List.infix_cons_iff.mp inside with front | inside
    · exact .inl (empty front absent ▸ List.nil_infix)
    · exact .inr inside
  -- Across them it would begin in the first text and go on at the separator.
  · rw [empty front fun member => absent (List.mem_append_right _ member), List.append_nil]
    exact .inl back.isInfix

/-- A pattern stands behind a text in which its first character is missing. -/
theorem infix_of_infix_append (first : List α) (absent : c ∉ first)
    (inside : c :: pattern <:+: first ++ second) : c :: pattern <:+: second := by
  -- The pattern is in the first text, in the second one, or across the two.
  rcases List.infix_append_iff.mp inside with inside | inside | ⟨start, rest, same, back, front⟩
  · exact absurd (inside.subset (List.mem_cons_self ..)) absent
  · exact inside
  · cases start with
    -- Beginning with nothing of the first text, it begins the second one.
    | nil => exact same ▸ front.isInfix
    | cons x start =>
      -- Else its first character would stand in the first text.
      exact absurd (back.subset ((List.cons.inj same).1 ▸ List.mem_cons_self ..)) absent

/-- What a text ends with stands behind a front in which its first character is missing. -/
theorem suffix_of_suffix_append {first : List α} (absent : c ∉ first)
    (ending : c :: pattern <:+ first ++ second) : c :: pattern <:+ second := by
  induction first with
  -- Nothing stands in front.
  | nil => exact ending
  | cons x first ih =>
    rw [List.mem_cons, not_or] at absent
    -- Either the text is what it ends with, or its first character can be left out.
    rcases List.suffix_cons_iff.mp ending with same | ending
    · exact absurd (List.cons.inj same).1 absent.1
    · exact ih absent.2 ending

end RoomAir
