import Mathlib.Data.List.Basic

/-! Results that may be missing: a list is mapped to all of its results, or there are none. -/

namespace RoomAir

variable {α β : Type} {f : α → Option β} {list : List α}

/-- A list is mapped to results exactly when every element of it has one. -/
theorem isSome_mapM :
    (list.mapM f).isSome = true ↔ ∀ x ∈ list, (f x).isSome = true := by
  induction list with
  -- Without elements there is nothing that could be missing.
  | nil => simp
  | cons x list ih =>
    rw [List.forall_mem_cons, ← ih]
    -- The first result is there or not, and then the others are there or not.
    cases first : f x with
    | none => simp [List.mapM_cons, first]
    | some y => cases rest : list.mapM f <;> simp [List.mapM_cons, first, rest]

/-- When every element has a result, the list is mapped to these results in order. -/
theorem mapM_eq_some {results : List β} (each : list.map f = results.map some) :
    list.mapM f = some results := by
  induction list generalizing results with
  | nil =>
    -- Without elements there are no results.
    rw [List.map_eq_nil_iff.mp each.symm]
    rfl
  | cons x list ih =>
    cases results with
    -- There is an element, so there is a result.
    | nil => simp at each
    | cons y results =>
      -- The first result is that of the first element, and the others follow by induction.
      rw [List.map_cons, List.map_cons, List.cons.injEq] at each
      simp [List.mapM_cons, each.1, ih each.2]

/-- When a list is mapped to results, they are those of its elements in order. -/
theorem map_eq_of_mapM {results : List β} (mapped : list.mapM f = some results) :
    list.map f = results.map some := by
  induction list generalizing results with
  | nil =>
    -- Without elements the list of results is empty.
    rw [List.mapM_nil] at mapped
    rw [← Option.some.inj mapped, List.map_nil, List.map_nil]
  | cons x list ih =>
    -- The mapping succeeds only if the first element has a result and the others have theirs.
    simp only [List.mapM_cons, Option.bind_eq_bind, Option.bind_eq_some_iff] at mapped
    obtain ⟨y, first, others, rest, same⟩ := mapped
    rw [← Option.some.inj same, List.map_cons, List.map_cons, first, ih rest]

/-- What is left of a list in any order is the same where it is one element at most. -/
theorem eq_of_perm_of_length_le {first second : List α} (perm : first.Perm second)
    (short : second.length ≤ 1) : first = second := by
  match second with
  | [] => exact perm.eq_nil
  | [x] => exact List.perm_singleton.mp perm

/-- A result that is made of another one is there exactly when both of them are. -/
theorem bind_eq_ok_iff {ε : Type} {first : Except ε α} {second : α → Except ε β} {result : β} :
    (first >>= second) = .ok result ↔ ∃ value, first = .ok value ∧ second value = .ok result := by
  cases first with
  -- A failed part makes the whole fail.
  | error error => simp [bind, Except.bind]
  | ok value => simp [bind, Except.bind]

/-- Results that are equal where there are any come to the same without their errors. -/
theorem toOption_congr {ε : Type} {first second : Except ε α}
    (same : ∀ value, first = .ok value ↔ second = .ok value) :
    first.toOption = second.toOption := by
  cases first with
  -- Where the first result is a value, so is the second one.
  | ok value => rw [(same value).mp rfl]
  | error error =>
    cases second with
    -- A value of the second result would be one of the first.
    | ok value => cases (same value).mpr rfl
    | error other => rfl

/-- Where something is known of a result, there is a result of which it is known. -/
theorem exists_ok_of_map {ε : Type} {result : Except ε α} {g : α → β} {known : β}
    (found : result.toOption.map g = some known) :
    ∃ value, result = .ok value ∧ g value = known := by
  cases result with
  -- An error has nothing that could be known of it.
  | error error => simp [Except.toOption] at found
  | ok value => exact ⟨value, rfl, Option.some.inj found⟩

end RoomAir
