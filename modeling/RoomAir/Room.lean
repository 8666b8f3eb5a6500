import RoomAir.Reading.Basic

/-! The selection of one room or of all of them. -/

namespace RoomAir

/-- Which rooms a page shows. -/
inductive RoomFilter where
  | all
  | room (name : String)
  deriving DecidableEq, Repr

namespace RoomFilter

/-- The word that selects every room. -/
def allWord : String := "all"

/-- The filter that a query names: nothing, an empty name and the word for all select all. -/
def ofQuery : Option String → RoomFilter
  | none => .all
  -- A room of that very name can therefore not be selected by itself.
  | some name => if name = "" ∨ name = allWord then .all else .room name

/-- Whether a reading belongs to the selection. -/
def accepts : RoomFilter → Reading → Bool
  | .all, _ => true
  | .room name, reading => reading.room == name

/-- The filter as a word of a query. -/
def word : RoomFilter → String
  | .all => allWord
  | .room name => name

end RoomFilter

end RoomAir
