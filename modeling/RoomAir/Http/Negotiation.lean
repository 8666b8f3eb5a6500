import RoomAir.Number.Literal
import RoomAir.Text.Classes
import RoomAir.Text.Form

/-! Content negotiation: whether a client takes the Brotli coding. -/

namespace RoomAir.Negotiation

/-- A name in lower case, ASCII letters alone having a case. -/
def lowercase (name : List Char) : List Char :=
  name.map Char.toLower

/-- The value of the first header of a name, in any case. -/
def header? (name : String) (headers : List (String × Bytes)) : Option Bytes :=
  (headers.find? fun header => lowercase header.1.toList == lowercase name.toList).map (·.2)

/-- The text of a header of visible ASCII characters, spaces and tabs. -/
def visibleText? (value : Bytes) : Option (List Char) :=
  if value.all fun byte => (0x20 ≤ byte && byte < 0x7F) || byte == 0x09 then
    some (value.map fun byte => Char.ofNat byte.toNat)
  else none

/-- What follows the name of a weight in a parameter that is one. -/
def weightText? : List Char → Option (List Char)
  | 'q' :: '=' :: value => some value
  | 'Q' :: '=' :: value => some value
  | _ => none

/-- Whether a weight is above zero; one that is no number is not. -/
def isPositive (weight : List Char) : Bool :=
  match Literal.read? (Blank.trim weight) with
  | some literal => literal.positiveInSingle
  | none => false

/-- Whether an entry names the Brotli coding with a weight above zero, the first weight counting. -/
def entryAccepts (entry : List Char) : Bool :=
  match (Form.splitAt ';' entry).map Blank.trim with
  | [] => false
  | coding :: parameters =>
    lowercase coding == "br".toList &&
      match parameters.findSome? weightText? with
      | some weight => isPositive weight
      -- A coding without a weight has the full one.
      | none => true

/-- Whether the first header of accepted codings has an entry that takes Brotli. -/
def acceptsBrotli (headers : List (String × Bytes)) : Bool :=
  match (header? "accept-encoding" headers).bind visibleText? with
  | some text => (Form.splitAt ',' text).any entryAccepts
  | none => false

end RoomAir.Negotiation
