import Mathlib.Data.List.Infix
import RoomAir.Proofs.Traversal
import RoomAir.Time.Pattern

/-! Time patterns that can be rendered: which items have no text, and where those come from. -/

namespace RoomAir.TimePattern

/-- A pattern whose items all have a text, whatever the time is. -/
structure IsRenderable (pattern : TimePattern) : Prop where
  valid : .invalid ∉ pattern
  written : .readOnly ∉ pattern

/-- A pattern that is accepted may still have items that are recognised but have no text. -/
theorem isRenderable_iff (pattern : TimePattern) :
    pattern.IsRenderable ↔ pattern.isAccepted = true ∧ .readOnly ∉ pattern := by
  -- The pattern is refused for its invalid items only.
  have accepted : pattern.isAccepted = true ↔ .invalid ∉ pattern := by simp [isAccepted]
  rw [accepted]
  exact ⟨fun renderable => ⟨renderable.valid, renderable.written⟩, fun both => ⟨both.1, both.2⟩⟩

/-- Two kinds of items have no text, and at no time; all others have one at any time. -/
theorem isSome_renderItem? (time : Instant) (item : PatternItem) :
    (renderItem? time item).isSome = true ↔ item ≠ .invalid ∧ item ≠ .readOnly := by
  -- The items are looked at one by one.
  cases item <;> simp [renderItem?]

/-- Whether a pattern can be rendered does not depend on the time. -/
theorem isSome_render? (pattern : TimePattern) (time : Instant) :
    (pattern.render? time).isSome = true ↔ pattern.IsRenderable := by
  rw [render?, Option.isSome_map, isSome_mapM]
  simp only [isSome_renderItem?]
  constructor
  · intro texts
    -- No item of the pattern may be one of the two.
    exact ⟨fun member => (texts _ member).1 rfl, fun member => (texts _ member).2 rfl⟩
  · intro renderable item member
    exact ⟨fun same => renderable.valid (same ▸ member),
      fun same => renderable.written (same ▸ member)⟩

/-! ## Where an item without a text comes from -/

/-- A conversion of one letter is never one that is for reading only. -/
theorem readOnly_notMem_conversion (letter : Char) : .readOnly ∉ conversion letter := by
  -- Each letter has its own items, and none of them is the one for reading only.
  unfold conversion
  split <;> decide

/-- Nor is one with a padding mark. -/
theorem readOnly_notMem_padded (pad : Pad) (letter : Char) : .readOnly ∉ padded pad letter := by
  -- The padding mark goes to items that are numbers.
  unfold padded
  split <;> simp

/-- An item for reading only is written as a percent sign, a hash and a `z`. -/
theorem infix_of_readOnly_mem {text : List Char} (member : .readOnly ∈ ofChars text) :
    ['%', '#', 'z'] <:+: text := by
  fun_induction ofChars text
  -- At that conversion the marks stand in front.
  case case5 rest _ => exact ⟨[], rest, rfl⟩
  case case1 | case17 => simp at member
  -- No other one makes such an item, so it comes from the rest of the text.
  case case13 ih | case14 ih | case15 ih =>
    have behind := (List.mem_append.mp member).resolve_left (readOnly_notMem_padded _ _)
    simp [List.infix_cons_iff, ih behind]
  case case16 ih =>
    have behind := (List.mem_append.mp member).resolve_left (readOnly_notMem_conversion _)
    simp [List.infix_cons_iff, ih behind]
  -- An item in front of the rest is another one.
  all_goals
    rename_i ih
    have behind := (List.mem_cons.mp member).resolve_left nofun
    simp [List.infix_cons_iff, ih behind]

end RoomAir.TimePattern
