import RoomAir.Number.Literal
import RoomAir.Room
import RoomAir.Text.Form

/-! Queries: the room of a page and the chart that an event stream takes over. -/

namespace RoomAir

/-- Why a query is rejected. -/
inductive QueryError where
  | duplicate (field : String)
  | emptyNumber
  | invalidDigit
  | numberTooLarge
  deriving DecidableEq, Repr

/-- The wording of a rejected query. -/
def QueryError.message (error : QueryError) : String :=
  "Failed to deserialize query string: " ++ match error with
    | .duplicate field => "duplicate field `" ++ field ++ "`"
    | .emptyNumber => "cannot parse integer from empty string"
    | .invalidDigit => "invalid digit found in string"
    | .numberTooLarge => "number too large to fit in target type"

/-- What a query says; a page's query has no chart. -/
structure Query where
  room : Option String
  chart : Option Nat
  deriving DecidableEq, Repr

namespace Query

/-- Digits added to a number of at most 64 bits, the first fault from the left being reported. -/
def digits : Nat → List Char → Except QueryError Nat
  | value, [] => .ok value
  | value, c :: rest =>
    if c.isDigit then
      -- What comes after the digit that is too much is not looked at any more.
      let next := value * 10 + digitsValue [c]
      if next < 2 ^ 64 then digits next rest else .error .numberTooLarge
    else .error .invalidDigit

/-- A number of at most 64 bits, which a plus may precede. -/
def number (text : String) : Except QueryError Nat :=
  match text.toList with
  | [] => .error .emptyNumber
  | ['+'] => .error .invalidDigit
  | '+' :: rest => digits 0 rest
  | text => digits 0 text

/-- Takes one field into a query, the chart only where one is known. -/
def enter (live : Bool) (query : Query) (field : String × String) : Except QueryError Query :=
  if field.1 = "room" then
    if query.room.isSome then .error (.duplicate "room")
    else .ok { query with room := some field.2 }
  else if live ∧ field.1 = "chart" then
    if query.chart.isSome then .error (.duplicate "chart")
    else (number field.2).map fun chart => { query with chart := some chart }
  -- Fields of other names are passed over, as is the chart of a page that is not live.
  else .ok query

/-- A query string without the fragment that a hash begins. -/
def withoutFragment (text : String) : String :=
  String.ofList (text.toList.takeWhile (· ≠ '#'))

/-- The query of a request, `live` saying whether it is for an event stream. -/
def read (live : Bool) (text : Option String) : Except QueryError Query :=
  (Form.fields (withoutFragment (text.getD ""))).foldlM (enter live) ⟨none, none⟩

/-- The selection of rooms that the query names. -/
def filter (query : Query) : RoomFilter :=
  .ofQuery query.room

end Query

end RoomAir
