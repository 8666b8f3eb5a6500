import Mathlib.Data.List.Induction
import RoomAir.Config.Environment
import RoomAir.Proofs.Settings.Layers

/-! Variables of an environment: the layer that they make has the last text under each key. -/

namespace RoomAir.Environment

variable {environment : List (String × String)} {key : String}

/-- The text of the last variable that sets a key. -/
def textOf? (environment : List (String × String)) (key : String) : Option String :=
  ((environment.filter fun entry => key? entry.1 = some key).getLast?).map Prod.snd

/-- Whether some variable sets a part, or something in it. -/
def enters (part : String) (environment : List (String × String)) : Bool :=
  environment.any fun entry => (key? entry.1).any fun key => (KeyPath.ofKey key).enters part

/-- One more variable puts the meaning of its text under its key, if it has one. -/
theorem layer_concat (environment : List (String × String)) (name text : String) :
    layer (environment ++ [(name, text)])
      = match key? name with
        | some key => Config.put key (value text) (layer environment)
        | none => layer environment := by
  -- The layer is folded from the left, so the last variable is put last.
  rw [layer, List.foldl_append]
  rfl

/-- The keys of the layer are apart. -/
theorem keysOnce_layer (environment : List (String × String)) :
    Config.KeysOnce (layer environment) := by
  -- The induction takes the last variable off, as that is the one that was put last.
  induction environment using List.reverseRecOn with
  | nil => exact Config.keysOnce_nil
  | append_singleton environment entry ih =>
    rw [layer_concat]
    -- A name that is no part of the configuration puts nothing.
    split
    · exact ih.put
    · exact ih

/-- Under a key the layer has the meaning of the last text that was set. -/
theorem lookup_layer (environment : List (String × String)) (key : String) :
    (layer environment).lookup key = (textOf? environment key).map value := by
  -- Again from the last variable on, since a later text covers an earlier one.
  induction environment using List.reverseRecOn with
  | nil => rfl
  | append_singleton environment entry ih =>
    obtain ⟨name, text⟩ := entry
    rw [layer_concat, textOf?, List.filter_append]
    -- A variable counts for a key only if its name stands for that key.
    cases sets : key? name with
    | none => simpa [sets, textOf?] using ih
    | some found =>
      simp only [Config.lookup_put]
      by_cases same : found = key
      · simp [sets, same]
      · simpa [sets, same, Ne.symm same, textOf?] using ih

/-- The keys of the layer are those that variables set. -/
theorem mem_keys_layer :
    key ∈ (layer environment).map Prod.fst ↔ ∃ entry ∈ environment, key? entry.1 = some key := by
  -- A key is put by the last variable, or it was there before.
  induction environment using List.reverseRecOn with
  | nil => simp [layer]
  | append_singleton environment entry ih =>
    obtain ⟨name, text⟩ := entry
    rw [layer_concat]
    cases sets : key? name with
    | none => simp [ih, or_and_right, exists_or, sets]
    | some found =>
      simp [Config.mem_keys_put, ih, or_and_right, exists_or, sets, or_comm, eq_comm]

/-- A key that has a text is one that a variable sets. -/
theorem exists_of_textOf? {text : String} (set : textOf? environment key = some text) :
    ∃ entry ∈ environment, key? entry.1 = some key := by
  -- The text is that of the last among the variables that set the key.
  obtain ⟨entry, last, -⟩ := Option.map_eq_some_iff.mp set
  have member := List.mem_filter.mp (List.mem_of_getLast? last)
  exact ⟨entry, member.1, of_decide_eq_true member.2⟩

/-- What holds of all keys that variables set holds of all keys of the layer. -/
theorem forall_layer_iff {holds : String → Prop} :
    (∀ entry ∈ layer environment, holds entry.1)
      ↔ ∀ entry ∈ environment, ∀ key, key? entry.1 = some key → holds key := by
  -- Only the keys of the entries are spoken of, and those are the keys that variables set.
  have keys : (∀ entry ∈ layer environment, holds entry.1)
      ↔ ∀ key ∈ (layer environment).map Prod.fst, holds key := List.forall_mem_map.symm
  simp only [keys, mem_keys_layer]
  exact ⟨fun all entry member key sets => all key ⟨entry, member, sets⟩,
    fun all key ⟨entry, member, sets⟩ => all entry member key sets⟩

/-- Variables enter a part exactly when a key of their layer does. -/
theorem enters_iff {part : String} :
    enters part environment = true
      ↔ ∃ entry ∈ layer environment, (KeyPath.ofKey entry.1).enters part = true := by
  -- Entering is a matter of keys as well.
  have keys : (∃ entry ∈ layer environment, (KeyPath.ofKey entry.1).enters part = true)
      ↔ ∃ key ∈ (layer environment).map Prod.fst, (KeyPath.ofKey key).enters part = true :=
    by simp only [List.mem_map, exists_exists_and_eq_and]
  simp only [keys, mem_keys_layer, enters, List.any_eq_true, Option.any_eq_true]
  exact ⟨fun ⟨entry, member, key, sets, into⟩ => ⟨key, ⟨entry, member, sets⟩, into⟩,
    fun ⟨key, ⟨entry, member, sets⟩, into⟩ => ⟨entry, member, key, sets, into⟩⟩

end RoomAir.Environment
