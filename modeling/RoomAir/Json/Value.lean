import RoomAir.Number.Decimal

/-! JSON values and the compact text they are written in. -/

namespace RoomAir

/-- A JSON value, whole numbers being kept apart from numbers with a fraction or an exponent. -/
inductive Json where
  | null
  | bool (value : Bool)
  | integer (value : Int)
  | number (value : Double)
  | string (value : String)
  | array (items : List Json)
  /-- The members in the order in which they are written. -/
  | object (members : List (String × Json))

instance : Inhabited Json := ⟨.null⟩

namespace Json

/-- A hexadecimal digit in lower case. -/
def hexDigit (value : Nat) : Char :=
  if value < 10 then Char.ofNat ('0'.toNat + value) else Char.ofNat ('a'.toNat + (value - 10))

/-- A character inside a JSON string, where quotes, backslashes and controls are escaped. -/
def escapeChar (c : Char) : List Char :=
  if c = '"' then ['\\', '"']
  else if c = '\\' then ['\\', '\\']
  else if c = '\x08' then ['\\', 'b']
  else if c = '\x0C' then ['\\', 'f']
  else if c = '\n' then ['\\', 'n']
  else if c = '\r' then ['\\', 'r']
  else if c = '\t' then ['\\', 't']
  else if c.toNat < 0x20 then
    -- The other control characters have no letter of their own.
    ['\\', 'u', '0', '0', hexDigit (c.toNat / 16), hexDigit (c.toNat % 16)]
  else [c]

/-- A text as a JSON string with its quotes. -/
def quotedChars (text : String) : List Char :=
  '"' :: text.toList.flatMap escapeChar ++ ['"']

/-- A whole number in decimal. -/
def integerChars (value : Int) : List Char :=
  if value < 0 then '-' :: Nat.toDigits 10 value.natAbs else Nat.toDigits 10 value.natAbs

mutual

/-- The text of a value with no white space outside of strings. -/
def chars : Json → List Char
  | .null => "null".toList
  | .bool value => (if value then "true" else "false").toList
  | .integer value => integerChars value
  | .number value => value.jsonText.toList
  | .string value => quotedChars value
  | .array items => '[' :: itemChars items ++ [']']
  | .object members => '\x7b' :: memberChars members ++ ['\x7d']

/-- The texts of items with a comma between each two. -/
def itemChars : List Json → List Char
  | [] => []
  | [item] => chars item
  | item :: items => chars item ++ ',' :: itemChars items

/-- The texts of members with a comma between each two. -/
def memberChars : List (String × Json) → List Char
  | [] => []
  | [(key, value)] => quotedChars key ++ ':' :: chars value
  | (key, value) :: members => quotedChars key ++ ':' :: chars value ++ ',' :: memberChars members

end

/-- The text of a value. -/
def text (value : Json) : String :=
  String.ofList value.chars

/-- The value a key was last given among members. -/
def lastValue? (key : String) (members : List (String × Json)) : Option Json :=
  (members.findRev? fun member => member.1 == key).map (·.2)

/-- The value, or null where there is none. -/
def ofOption : Option Json → Json
  | some value => value
  | none => .null

/-- Every less-than sign and stroke that stand together, with a backslash put between them. -/
def breakClosingTags : List Char → List Char
  | [] => []
  | '<' :: '/' :: rest => '<' :: '\\' :: '/' :: breakClosingTags rest
  | c :: rest => c :: breakClosingTags rest

/-- The text of a value as it may stand inside a script element. -/
def scriptText (value : Json) : String :=
  String.ofList (breakClosingTags value.chars)

end Json

end RoomAir
