import Mathlib.Data.List.Nodup
import RoomAir.Config.KeyPath

/-! Layers of a configuration: what is under a key once one layer has been laid over another. -/

namespace RoomAir

namespace KeyPath

/-- Every key stands for a path that begins with a name. -/
theorem exists_ofKey (key : String) : ∃ first path, ofKey key = .key first :: path := by
  rw [ofKey, ofText?, steps?]
  -- The text begins with the point that was put in front, so a first step can only be a name.
  split
  case isTrue => exact ⟨key, [], rfl⟩
  case isFalse =>
    cases steps? _ _ with
    | none => exact ⟨key, [], rfl⟩
    | some path => exact ⟨_, path, rfl⟩

/-- A text that steps fill is empty, or a point and a name before a text that the others fill. -/
theorem of_steps?_eq_some {fuel : Nat} {text : List Char} {path : KeyPath}
    (read : steps? fuel text = some path) :
    match path with
    | [] => text = []
    | .key name :: later =>
      ∃ fuel rest, text = '.' :: (name.toList ++ rest) ∧ steps? fuel rest = some later
    | .index _ :: _ => True := by
  rw [steps?.eq_def] at read
  -- The reader stops at the end of the text, or takes a name or a position in brackets off it.
  split at read
  · obtain rfl := Option.some.inj read
    rfl
  · cases read
  · dsimp only at read
    split at read
    case isTrue => cases read
    case isFalse =>
      obtain ⟨later, steps, rfl⟩ := Option.map_eq_some_iff.mp read
      refine ⟨_, _, ?_, steps⟩
      -- The name is what comes up to the next point or bracket.
      rw [String.toList_ofList, List.takeWhile_append_dropWhile]
  · split at read
    -- Nothing is said about positions, as a key of two names has none.
    case h_1 => cases read
    case h_2 =>
      dsimp only at read
      split at read
      case isTrue => cases read
      case isFalse =>
        obtain ⟨position, -, read⟩ := Option.bind_eq_some_iff.mp read
        obtain ⟨later, -, rfl⟩ := Option.map_eq_some_iff.mp read
        trivial
  · cases read

/-- A key that stands for a name in a part is the two with a point between them. -/
theorem eq_of_ofKey {key part name : String} (leads : ofKey key = [.key part, .key name]) :
    key = part ++ "." ++ name := by
  rw [ofKey, ofText?] at leads
  cases read : steps? (key.length + 1) ('.' :: key.toList) with
  | none => simp [read] at leads
  | some path =>
    rw [read, Option.getD_some] at leads
    subst leads
    -- Two names are read, and nothing is left after them.
    obtain ⟨_, rest, whole, read⟩ := of_steps?_eq_some read
    obtain ⟨_, last, half, read⟩ := of_steps?_eq_some read
    obtain rfl : last = [] := of_steps?_eq_some read
    rw [half] at whole
    apply String.toList_injective
    rw [(List.cons.inj whole).2]
    simp

/-- Whether a path leads to a part, or further into it. -/
def enters (part : String) (path : KeyPath) : Bool :=
  path.head? = some (.key part)

/-- Whether a path leads neither to a name in a part, nor into it, nor to the part as a whole. -/
def spares (part name : String) : KeyPath → Bool
  | .key first :: .key second :: _ => first ≠ part || second ≠ name
  | .key first :: _ => first ≠ part
  | _ => false

/-- Whether a path, if it leads to a part, goes on to a name in it. -/
def namesWithin (part : String) : KeyPath → Bool
  | .key _ :: .key _ :: _ => true
  | .key first :: _ => first ≠ part
  | _ => false

variable {part name : String} {path : KeyPath}

/-- A path that leads to a part and goes on to a name in it has both of them in front. -/
theorem exists_of_enters (within : path.namesWithin part = true)
    (entered : path.enters part = true) :
    ∃ other rest, path = .key part :: .key other :: rest := by
  -- A path of two names is the only kind that goes on to a name.
  match path with
  | .key first :: .key second :: rest =>
    obtain rfl : first = part := by simpa [enters] using entered
    exact ⟨second, rest, rfl⟩
  | [.key first] => simp_all [enters, namesWithin]
  | .key first :: .index position :: rest => simp_all [enters, namesWithin]

/-- A path that spares a name in a part does not stop at the part. -/
theorem namesWithin_of_spares (spared : path.spares part name = true) :
    path.namesWithin part = true := by
  match path with
  | .key first :: .key second :: rest => rfl
  | [.key first] => exact spared
  | .key first :: .index position :: rest => exact spared

/-- A path that neither stops at a part nor spares a name in it leads to the name. -/
theorem exists_of_not_spares (within : path.namesWithin part = true)
    (notSpared : path.spares part name = false) :
    ∃ rest, path = .key part :: .key name :: rest := by
  -- Of two names in front both must be the right ones, or the name would be spared.
  match path with
  | .key first :: .key second :: rest =>
    obtain ⟨rfl, rfl⟩ : first = part ∧ second = name := by simpa [spares] using notSpared
    exact ⟨rest, rfl⟩
  | [.key first] => simp_all [spares, namesWithin]
  | .key first :: .index position :: rest => simp_all [spares, namesWithin]

end KeyPath

namespace Config

/-! ## Entries under keys of their own -/

/-- Entries of which no two are under the same key. -/
def KeysOnce (entries : List (String × Config)) : Prop :=
  (entries.map Prod.fst).Nodup

variable {base entries : List (String × Config)} {key : String} {value : Config}

/-- No entries have no key in common. -/
@[simp] theorem keysOnce_nil : KeysOnce [] :=
  List.nodup_nil

/-- Keys are apart when the first one does not come again and the others are apart. -/
@[simp] theorem keysOnce_cons :
    KeysOnce ((key, value) :: entries) ↔ key ∉ entries.map Prod.fst ∧ KeysOnce entries :=
  List.nodup_cons

/-- A key is there once it has been put, and no other one has come. -/
theorem mem_keys_put {other : String} :
    other ∈ (put key value entries).map Prod.fst
      ↔ other = key ∨ other ∈ entries.map Prod.fst := by
  -- The induction follows the search for the key, which ends at the first entry with it.
  induction entries with
  | nil => simp [put]
  | cons entry later ih =>
    obtain ⟨name, old⟩ := entry
    rw [put]
    split
    case isTrue same => simp [same]
    -- The entry in front is kept, and the key is put further on.
    case isFalse =>
      rw [List.map_cons, List.mem_cons, ih, List.map_cons, List.mem_cons]
      exact or_left_comm

/-- Keys are still apart when a value has been put. -/
theorem KeysOnce.put (once : KeysOnce entries) : KeysOnce (put key value entries) := by
  -- Putting changes an entry in place or adds one behind all others.
  induction entries with
  | nil => simp [Config.put]
  | cons entry later ih =>
    obtain ⟨name, old⟩ := entry
    rw [keysOnce_cons] at once
    rw [Config.put]
    split
    -- In place of an entry with the same key the keys stay what they were.
    case isTrue same => exact keysOnce_cons.mpr (same ▸ once)
    case isFalse other =>
      -- The entry in front has another key, which is not brought in by the putting either.
      refine keysOnce_cons.mpr ⟨fun member => ?_, ih once.2⟩
      exact (mem_keys_put.mp member).elim other once.1

/-- Keys are still apart when entries have been laid over others. -/
theorem KeysOnce.overlayEntries (once : KeysOnce base) :
    KeysOnce (overlayEntries base entries) := by
  -- Laying over is putting one entry after the other.
  induction entries generalizing base with
  | nil => exact once
  | cons entry later ih => exact ih once.put

/-- Under a key there is the entry on top, laid over the one below. -/
theorem lookup_overlayEntries (once : KeysOnce entries) (key : String) :
    (overlayEntries base entries).lookup key
      = ((entries.lookup key).map ((base.lookup key).getD .null).overlay).or (base.lookup key) := by
  -- The entries on top are put from the first on, each over what the base has become by then.
  induction entries generalizing base with
  | nil => rfl
  | cons entry later ih =>
    obtain ⟨name, value⟩ := entry
    obtain ⟨absent, once⟩ := keysOnce_cons.mp once
    rw [overlayEntries, ih once, lookup_put, List.lookup_cons]
    -- If the key is the first one, its entry decides, and otherwise the later ones do.
    by_cases same : key = name
    · -- No later entry is under the same key.
      subst same
      have last : later.lookup key = none :=
        List.lookup_eq_none_iff.mpr fun entry member =>
          bne_iff_ne.mpr fun equal => absent (equal ▸ List.mem_map_of_mem member)
      simp [last]
    · simp [same, beq_false_of_ne same]

/-! ## Changing what is at the end of a path -/

variable {config : Config} {path : KeyPath} {alter : Config → Config} {part name : String}

/-- What is under a name in a part that is a table. -/
def nested? (config : Config) (part name : String) : Option Config :=
  (config.get? part).bind (·.get? name)

/-- Only what is under the first key of the path is another one. -/
theorem get?_change_key (first other : String) :
    (config.change alter (.key first :: path)).get? other
      = if other = first then some (((config.get? first).getD .null).change alter path)
        else config.get? other :=
  lookup_put ..

/-- A path that does not lead into a part leaves it as it is. -/
theorem get?_change_of_not_enters {first : String}
    (away : KeyPath.enters part (.key first :: path) = false) :
    (config.change alter (.key first :: path)).get? part = config.get? part := by
  -- The first name of the path is not the part, and nothing else is changed.
  have other : part ≠ first := fun same => by simp [KeyPath.enters, same] at away
  rw [get?_change_key, if_neg other]

/-- What is under a name that a path spares is the same after the change. -/
theorem nested?_change_of_spares (spared : path.spares part name) :
    (config.change alter path).nested? part name = config.nested? part name := by
  -- A path that spares a name begins with a name itself.
  match path with
  | .key first :: rest =>
    by_cases same : part = first
    · -- In the part itself the path goes on to another name.
      subst same
      obtain ⟨second, rest, equal⟩ := KeyPath.exists_of_enters
        (KeyPath.namesWithin_of_spares spared) (by simp [KeyPath.enters])
      obtain ⟨-, rfl⟩ := List.cons.inj equal
      have other : name ≠ second := fun same => by simp [KeyPath.spares, same] at spared
      rw [nested?, get?_change_key, if_pos rfl, Option.bind_some, get?_change_key, if_neg other,
        nested?]
      cases config.get? part <;> rfl
    -- Any other part is passed by.
    · rw [nested?, get?_change_key, if_neg same, nested?]

/-- A change of what is under a name, or inside of it, is found under it. -/
theorem nested?_change_self (rest : KeyPath) :
    (config.change alter (.key part :: .key name :: rest)).nested? part name
      = some (((config.nested? part name).getD .null).change alter rest) := by
  -- Twice on the way the right name is looked up after it has been put.
  rw [nested?, get?_change_key, if_pos rfl, Option.bind_some, get?_change_key, if_pos rfl, nested?]
  cases config.get? part <;> rfl

/-- A value that is laid over what a path leads to leaves the keys apart. -/
theorem KeysOnce.change (once : KeysOnce config.entries) (value : Config) (path : KeyPath) :
    KeysOnce (config.change (·.overlay value) path).entries := by
  -- At the end of the path tables are joined, and on the way to it one entry is put.
  match path with
  | [] =>
    cases value with
    | table entries => exact once.overlayEntries
    | _ => exact keysOnce_nil
  | .key first :: path => exact once.put
  | .index position :: path => exact keysOnce_nil

/-- A table of sections, in which and in each of which keys are apart. -/
structure IsTidy (config : Config) : Prop where
  isTable : config = .table config.entries
  sections : KeysOnce config.entries
  entries {part : String} {held : Config} : config.get? part = some held → KeysOnce held.entries

/-- A table in which a value is laid over what a path leads to is still tidy. -/
theorem IsTidy.change (tidy : config.IsTidy) (value : Config) (first : String) (path : KeyPath) :
    (config.change (·.overlay value) (.key first :: path)).IsTidy where
  isTable := rfl
  sections := tidy.sections.put
  entries {part held} found := by
    -- The changed section is tidy inside, and the others are what they were.
    rw [get?_change_key] at found
    split at found
    case isTrue =>
      obtain rfl := Option.some.inj found
      refine KeysOnce.change ?_ value path
      -- A section that was not there begins as an empty one.
      cases found : config.get? first with
      | none => exact keysOnce_nil
      | some held => exact tidy.entries found
    case isFalse => exact tidy.entries found

/-! ## Layers -/

variable {layer : List (String × Config)}

/-- A layer is laid over a configuration from its first key on. -/
theorem underLayer_cons (key : String) (value : Config) :
    config.underLayer ((key, value) :: layer)
      = (config.change (·.overlay value) (KeyPath.ofKey key)).underLayer layer :=
  rfl

/-- A tidy table is tidy under any layer. -/
theorem IsTidy.underLayer (tidy : config.IsTidy) : (config.underLayer layer).IsTidy := by
  -- Every key of the layer begins with a name, so each step leaves a table of sections.
  induction layer generalizing config with
  | nil => exact tidy
  | cons entry layer ih =>
    obtain ⟨key, value⟩ := entry
    obtain ⟨first, path, leads⟩ := KeyPath.exists_ofKey key
    rw [underLayer_cons, leads]
    exact ih (tidy.change value first path)

/-- A layer of which no key leads into a part leaves it as it is. -/
theorem get?_underLayer_of_not_enters
    (away : ∀ entry ∈ layer, (KeyPath.ofKey entry.1).enters part = false) :
    (config.underLayer layer).get? part = config.get? part := by
  -- One key after the other leaves the part alone.
  induction layer generalizing config with
  | nil => rfl
  | cons entry layer ih =>
    obtain ⟨key, value⟩ := entry
    obtain ⟨first, path, leads⟩ := KeyPath.exists_ofKey key
    rw [List.forall_mem_cons, leads] at away
    rw [underLayer_cons, leads, ih away.2, get?_change_of_not_enters away.1]

/-- What is under a name that all keys of a layer spare is the same under the layer. -/
theorem nested?_underLayer_of_spares
    (spared : ∀ entry ∈ layer, (KeyPath.ofKey entry.1).spares part name) :
    (config.underLayer layer).nested? part name = config.nested? part name := by
  -- One key after the other spares the name.
  induction layer generalizing config with
  | nil => rfl
  | cons entry layer ih =>
    rw [List.forall_mem_cons] at spared
    rw [underLayer_cons, ih spared.2, nested?_change_of_spares spared.1]

/-- Of a layer that changes a name under one key only, the value of that key is laid over it. -/
theorem nested?_underLayer (once : KeysOnce layer)
    (leads : KeyPath.ofKey key = [.key part, .key name])
    (clear : ∀ entry ∈ layer, entry.1 = key ∨ (KeyPath.ofKey entry.1).spares part name) :
    (config.underLayer layer).nested? part name
      = ((layer.lookup key).map ((config.nested? part name).getD .null).overlay).or
        (config.nested? part name) := by
  -- The induction is on the layer, whose keys are apart: the one that matters comes once at most.
  induction layer generalizing config with
  | nil => rfl
  | cons entry layer ih =>
    obtain ⟨found, value⟩ := entry
    obtain ⟨absent, once⟩ := keysOnce_cons.mp once
    rw [List.forall_mem_cons] at clear
    rw [underLayer_cons]
    by_cases same : found = key
    · -- The key does not come again, so that nothing changes the name after this.
      subst same
      have spared : ∀ entry ∈ layer, (KeyPath.ofKey entry.1).spares part name :=
        fun entry member => (clear.2 entry member).resolve_left fun equal =>
          absent (equal ▸ List.mem_map_of_mem member)
      rw [nested?_underLayer_of_spares spared, leads, nested?_change_self]
      simp [change]
    -- Any other key spares the name, so it is as if it had not come.
    · rw [ih once clear.2, nested?_change_of_spares (clear.1.resolve_left same),
        List.lookup_cons, beq_false_of_ne (Ne.symm same)]

/-- A part that keys of a layer lead into by further names is a table under the layer. -/
theorem exists_table_underLayer
    (within : ∀ entry ∈ layer, (KeyPath.ofKey entry.1).namesWithin part)
    (start : (∃ entries, config.get? part = some (.table entries))
      ∨ ∃ entry ∈ layer, (KeyPath.ofKey entry.1).enters part) :
    ∃ entries, (config.underLayer layer).get? part = some (.table entries) := by
  -- What the part is at the start matters only until the first key that enters it.
  induction layer generalizing config with
  | nil => exact start.resolve_right nofun
  | cons entry layer ih =>
    obtain ⟨key, value⟩ := entry
    obtain ⟨first, path, leads⟩ := KeyPath.exists_ofKey key
    rw [List.forall_mem_cons] at within
    rw [underLayer_cons]
    refine ih within.2 ?_
    cases entered : (KeyPath.ofKey key).enters part with
    | true =>
      -- Whatever the part was, it is made a table on the way.
      obtain ⟨other, rest, leads⟩ := KeyPath.exists_of_enters within.1 entered
      rw [leads, get?_change_key, if_pos rfl]
      exact .inl ⟨_, rfl⟩
    | false =>
      -- A key that does not enter leaves the part as it was, for the keys after it to decide.
      rw [leads] at entered
      rw [leads, get?_change_of_not_enters entered]
      refine start.imp_right ?_
      rintro ⟨found, member, enters⟩
      rcases List.mem_cons.mp member with rfl | later
      · rw [leads, entered] at enters
        cases enters
      · exact ⟨found, later, enters⟩

/-! ## Values that are no table and no list -/

/-- Whether a value has nothing inside. -/
def isLeaf : Config → Bool
  | .list _ | .table _ => false
  | _ => true

/-- A change of something inside a value makes it a table or a list. -/
theorem isLeaf_change_cons (step : KeyStep) (path : KeyPath) :
    (config.change alter (step :: path)).isLeaf = false := by
  -- A name makes a table on the way, and a position makes a list.
  cases step <;> rfl

/-- A leaf is not altered by what it is laid over. -/
theorem overlay_leaf (leaf : value.isLeaf = true) (base : Config) : base.overlay value = value := by
  cases value <;> first | rfl | cases leaf

/-- Other keys leave what is under a name alone, or they put something inside of it. -/
theorem nested?_underLayer_of_others {held : Config}
    (within : ∀ entry ∈ layer, (KeyPath.ofKey entry.1).namesWithin part)
    (others : ∀ entry ∈ layer, KeyPath.ofKey entry.1 ≠ [.key part, .key name])
    (found : config.nested? part name = some held) :
    (config.underLayer layer).nested? part name = some held
      ∨ ∃ changed, (config.underLayer layer).nested? part name = some changed
        ∧ changed.isLeaf = false := by
  -- Key by key the name is spared, or something is put inside of what it has.
  induction layer generalizing config held with
  | nil => exact .inl found
  | cons entry layer ih =>
    obtain ⟨key, set⟩ := entry
    rw [List.forall_mem_cons] at within others
    rw [underLayer_cons]
    cases spared : (KeyPath.ofKey key).spares part name with
    | true => exact ih within.2 others.2 ((nested?_change_of_spares spared).trans found)
    | false =>
      obtain ⟨rest, leads⟩ := KeyPath.exists_of_not_spares within.1 spared
      -- A path that ends at the name is the one key that has been excluded.
      cases rest with
      | nil => exact absurd leads others.1
      | cons step rest =>
        -- What has been put inside is still there after the other keys.
        rw [leads]
        refine .inr ?_
        rcases ih within.2 others.2 (nested?_change_self (step :: rest)) with same | changed
        · exact ⟨_, same, isLeaf_change_cons step rest⟩
        · exact changed

/-- A leaf that a layer has for a name is under it, unless other keys put something inside. -/
theorem nested?_underLayer_leaf (config : Config) (once : KeysOnce layer)
    (leads : KeyPath.ofKey key = [.key part, .key name])
    (within : ∀ entry ∈ layer, (KeyPath.ofKey entry.1).namesWithin part)
    (set : layer.lookup key = some value) (leaf : value.isLeaf = true) :
    ∃ held, (config.underLayer layer).nested? part name = some held
      ∧ (held = value ∨ held.isLeaf = false) := by
  -- Up to the key itself nothing is known of the name, and after it only other keys come.
  induction layer generalizing config with
  | nil => cases set
  | cons entry layer ih =>
    obtain ⟨found, first⟩ := entry
    obtain ⟨absent, once⟩ := keysOnce_cons.mp once
    rw [List.forall_mem_cons] at within
    rw [underLayer_cons]
    by_cases same : found = key
    · subst same
      obtain rfl : first = value := by simpa using set
      have next : (config.change (·.overlay first) (KeyPath.ofKey found)).nested? part name
          = some first := by
        rw [leads, nested?_change_self, change, overlay_leaf leaf]
      -- A path of two names has one key only, which does not come again.
      have later : ∀ entry ∈ layer, KeyPath.ofKey entry.1 ≠ [.key part, .key name] := by
        intro entry member again
        have equal := (KeyPath.eq_of_ofKey again).trans (KeyPath.eq_of_ofKey leads).symm
        exact absent (equal ▸ List.mem_map_of_mem member)
      rcases nested?_underLayer_of_others within.2 later next with same | ⟨changed, inside, branch⟩
      · exact ⟨first, same, .inl rfl⟩
      · exact ⟨changed, inside, .inr branch⟩
    · rw [List.lookup_cons, beq_false_of_ne (Ne.symm same)] at set
      exact ih _ once within.2 set

end Config

end RoomAir
