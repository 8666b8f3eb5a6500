import RoomAir.Config.Basic

/-! The tables of a TOML document while it is read, each part of which may be defined once. -/

namespace RoomAir.Toml

/-- How a table came to be, which decides what may still be added to it. -/
inductive Origin where
  /-- It stands on the way to a table with a header. -/
  | implied
  | header
  | dotted
  deriving DecidableEq, Repr

/-- What stands under a key. -/
inductive Node where
  /-- A value to which nothing can be added. -/
  | value (content : Config)
  | table (origin : Origin) (entries : List (String × Node))
  /-- An array of tables, the last of which is open. -/
  | tables (earlier : List (List (String × Node))) (last : List (String × Node))

/-- The entries of a table. -/
abbrev Entries := List (String × Node)

namespace Entries

/-- Entries in which a key stands for another node; a new key comes last. -/
def put (key : String) (node : Node) : Entries → Entries
  | [] => [(key, node)]
  | (name, old) :: later =>
    if name = key then (key, node) :: later else (name, old) :: put key node later

/-- Changes the table at the end of a path of headers, tables on the way being implied. -/
def within? (change : Entries → Option Entries) : List String → Entries → Option Entries
  | [], entries => change entries
  | key :: path, entries =>
    match entries.lookup key with
    | none => (within? change path []).map fun inner => put key (.table .implied inner) entries
    | some (.table origin inner) =>
      (within? change path inner).map fun inner => put key (.table origin inner) entries
    | some (.tables earlier last) =>
      (within? change path last).map fun last => put key (.tables earlier last) entries
    | some (.value _) => none

/-- Opens the table of a header, which may have been implied before but not defined. -/
def define? (key : String) (entries : Entries) : Option Entries :=
  match entries.lookup key with
  | none => some (put key (.table .header []) entries)
  | some (.table .implied inner) => some (put key (.table .header inner) entries)
  | _ => none

/-- Opens one more table in an array of tables. -/
def extend? (key : String) (entries : Entries) : Option Entries :=
  match entries.lookup key with
  | none => some (put key (.tables [] []) entries)
  | some (.tables earlier last) => some (put key (.tables (earlier ++ [last]) []) entries)
  | _ => none

/-- Gives a value to a dotted key that has none; the table it is in must be made of dotted keys. -/
def assign? (content : Config) : List String → Entries → Option Entries
  | [], _ => none
  | [key], entries =>
    if (entries.lookup key).isSome then none else some (put key (.value content) entries)
  | key :: path, entries =>
    match entries.lookup key with
    | none => (assign? content path []).map fun inner => put key (.table .dotted inner) entries
    | some (.table origin inner) =>
      if origin = .dotted ∨ (origin = .implied ∧ 1 < path.length) then
        (assign? content path inner).map fun inner => put key (.table origin inner) entries
      else none
    | _ => none

end Entries

mutual

/-- The value that a node stands for. -/
def Node.toConfig : Node → Config
  | .value content => content
  | .table _ entries => .table (entriesConfig entries)
  | .tables earlier last => .list (tablesConfig earlier ++ [.table (entriesConfig last)])

/-- The entries of a finished table. -/
def entriesConfig : List (String × Node) → List (String × Config)
  | [] => []
  | (key, node) :: later => (key, node.toConfig) :: entriesConfig later

/-- The tables of a finished array. -/
def tablesConfig : List (List (String × Node)) → List Config
  | [] => []
  | entries :: later => .table (entriesConfig entries) :: tablesConfig later

end

end RoomAir.Toml
