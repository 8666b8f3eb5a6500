import Mathlib.Data.List.TakeWhile
import RoomAir.Proofs.Number.Digits
import RoomAir.Text.Classes

/-! White space around a text: what is taken off at either end, and what is left alone. -/

namespace RoomAir.Blank

/-- A text with no white space in it. -/
def Solid (text : List Char) : Prop :=
  ∀ c ∈ text, isBlank c = false

/-- Solid texts one behind the other are solid. -/
theorem Solid.append {first second : List Char} (solid : Solid first) (solid' : Solid second) :
    Solid (first ++ second) := by
  -- The character is in one of the two texts.
  intro c member
  rcases List.mem_append.mp member with here | behind
  · exact solid c here
  · exact solid' c behind

/-- A solid text with a mark in front is solid. -/
theorem Solid.cons {c : Char} {text : List Char} (mark : isBlank c = false) (solid : Solid text) :
    Solid (c :: text) :=
  List.forall_mem_cons.mpr ⟨mark, solid⟩

/-- Digits are no white space. -/
theorem solid_of_digits {run : List Char} (digits : ∀ c ∈ run, c.isDigit = true) : Solid run :=
  fun c member => of_isDigit (digits c member) (by decide)

/-- A text that begins with something else than white space has none to skip. -/
theorem skip_eq_self {text : List Char} (starts : EndsRun isBlank text) : skip text = text :=
  dropWhile_run (List.forall_mem_nil _) starts

/-- Nor has one that begins with a solid part. -/
theorem skip_solid {first : List Char} (solid : Solid first) (nonempty : first ≠ [])
    (rest : List Char) : skip (first ++ rest) = first ++ rest := by
  -- The first character is in the solid part, and it is where the skipping stops.
  obtain ⟨c, more, rfl⟩ := List.exists_cons_of_ne_nil nonempty
  exact skip_eq_self (endsRun_cons (solid c List.mem_cons_self) _)

/-- White space in front is skipped, and then whatever else is to be skipped. -/
theorem skip_append {before : List Char} (blank : ∀ c ∈ before, isBlank c = true)
    (text : List Char) : skip (before ++ text) = skip text :=
  List.dropWhile_append_of_pos blank

/-- A text is trimmed by skipping at the front, and then at the end. -/
theorem trim_eq (text : List Char) : trim text = (skip (skip text).reverse).reverse :=
  rfl

/-- A text with no white space in it is left alone. -/
theorem trim_of_solid {text : List Char} (solid : Solid text) : trim text = text := by
  -- At either end stands a character of the text, which is no white space.
  have starts : EndsRun isBlank text := fun next found => solid next (List.mem_of_head? found)
  have ends : EndsRun isBlank text.reverse := fun next found =>
    solid next (List.mem_reverse.mp (List.mem_of_head? found))
  rw [trim_eq, skip_eq_self starts, skip_eq_self ends, List.reverse_reverse]

/-- Text with solid parts at either end is left alone, whatever is between them. -/
theorem trim_solid {first last : List Char} (solid : Solid first) (nonempty : first ≠ [])
    (solid' : Solid last) (nonempty' : last ≠ []) (middle : List Char) :
    trim (first ++ middle ++ last) = first ++ middle ++ last := by
  -- The end is skipped in the text turned around, where the last part comes first.
  have solidBack : Solid last.reverse := fun c member => solid' c (List.mem_reverse.mp member)
  have nonemptyBack : last.reverse ≠ [] := by simpa using nonempty'
  rw [trim_eq, List.append_assoc, skip_solid solid nonempty, ← List.append_assoc,
    List.reverse_append, skip_solid solidBack nonemptyBack, List.reverse_append,
    List.reverse_reverse, List.reverse_reverse]

/-- White space around a text is trimmed along with what the text has itself. -/
theorem trim_append {before behind : List Char} (blank : ∀ c ∈ before, isBlank c = true)
    (blank' : ∀ c ∈ behind, isBlank c = true) (text : List Char) :
    trim (before ++ text ++ behind) = trim text := by
  rw [trim_eq, trim_eq, List.append_assoc, skip_append blank]
  by_cases none : skip text = []
  · -- The text is white space altogether, and nothing is left of it.
    have all : ∀ c ∈ text, isBlank c = true := List.dropWhile_eq_nil_iff.mp none
    have nothing : skip behind = [] := List.dropWhile_eq_nil_iff.mpr blank'
    rw [skip_append all, nothing, none]
  · -- Skipping at the front ends within the text, so what is behind comes off at the end.
    have within : skip (text ++ behind) = skip text ++ behind := by
      rw [skip] at none
      simp [skip, List.dropWhile_append, none]
    have blankBack : ∀ c ∈ behind.reverse, isBlank c = true :=
      fun c member => blank' c (List.mem_reverse.mp member)
    rw [within, List.reverse_append, skip_append blankBack]

end RoomAir.Blank
