/-! Text inside HTML: the five characters that are written as entities, and reading them back. -/

namespace RoomAir.Html

/-- A character as it may stand in element content and in quoted attribute values. -/
def escapeChar : Char → List Char
  | '&' => "&amp;".toList
  | '<' => "&lt;".toList
  | '>' => "&gt;".toList
  | '"' => "&quot;".toList
  | '\'' => "&#39;".toList
  | c => [c]

/-- A text as it may stand in element content and in quoted attribute values. -/
def escape (text : String) : String :=
  String.ofList (text.toList.flatMap escapeChar)

/-- The text that the five entities stand for, any other ampersand standing for itself. -/
def unescapeChars : List Char → List Char
  | [] => []
  | '&' :: 'a' :: 'm' :: 'p' :: ';' :: rest => '&' :: unescapeChars rest
  | '&' :: 'l' :: 't' :: ';' :: rest => '<' :: unescapeChars rest
  | '&' :: 'g' :: 't' :: ';' :: rest => '>' :: unescapeChars rest
  | '&' :: 'q' :: 'u' :: 'o' :: 't' :: ';' :: rest => '"' :: unescapeChars rest
  | '&' :: '#' :: '3' :: '9' :: ';' :: rest => '\'' :: unescapeChars rest
  | c :: rest => c :: unescapeChars rest

/-- The text that escaped content stands for. -/
def unescape (content : String) : String :=
  String.ofList (unescapeChars content.toList)

end RoomAir.Html
