import RoomAir.Number.Literal

/-! Configurations: trees of named values, and laying one over another key by key. -/

namespace RoomAir

/-- A value in a configuration. -/
inductive Config where
  | null
  | bool (value : Bool)
  | integer (value : Int)
  | float (value : Extended)
  | text (value : String)
  | list (items : List Config)
  /-- The entries of a table, each under a key of its own. -/
  | table (entries : List (String × Config))

instance : Inhabited Config := ⟨.null⟩

namespace Config

/-- The entries of a table; no other value has any. -/
def entries : Config → List (String × Config)
  | .table entries => entries
  | _ => []

/-- The items of a list; no other value has any. -/
def items : Config → List Config
  | .list items => items
  | _ => []

/-- The value of a key in a table. -/
def get? (config : Config) (key : String) : Option Config :=
  config.entries.lookup key

/-- Entries in which a key has a new value; a new key comes last. -/
def put (key : String) (value : Config) : List (String × Config) → List (String × Config)
  | [] => [(key, value)]
  | (name, old) :: later =>
    if name = key then (key, value) :: later else (name, old) :: put key value later

/-- Only the value of the key that is put changes. -/
theorem lookup_put (key other : String) (value : Config) (entries : List (String × Config)) :
    (put key value entries).lookup other =
      if other = key then some value else entries.lookup other := by
  induction entries with
  | nil =>
    by_cases same : other = key
    · simp [put, same]
    · simp [put, List.lookup_cons, beq_false_of_ne same, same]
  | cons entry later ih =>
    obtain ⟨name, old⟩ := entry
    by_cases same : other = name
    · -- The entry in front is the one looked up, whether or not it is the one put.
      subst same
      by_cases found : other = key <;> simp [put, found]
    · by_cases found : name = key
      · subst found
        simp [put, List.lookup_cons, beq_false_of_ne same, same]
      · simp [put, List.lookup_cons, beq_false_of_ne same, found, ih]

mutual

/-- A value laid over another: a table joins a table, and anything else replaces what it covers. -/
def overlay (base : Config) : Config → Config
  | .table entries => .table (overlayEntries base.entries entries)
  | value => value

/-- Entries laid over others, each over the value that its key had. -/
def overlayEntries (base : List (String × Config)) :
    List (String × Config) → List (String × Config)
  | [] => base
  | (key, value) :: later =>
    overlayEntries (put key (overlay ((base.lookup key).getD .null) value) base) later

end

end Config

end RoomAir
