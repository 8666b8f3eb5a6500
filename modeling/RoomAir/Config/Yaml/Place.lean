import RoomAir.Config.Basic
import RoomAir.Text.Form

/-! Where a reader of YAML stands, and what it may pass over. -/

namespace RoomAir.Yaml

/-! ## Characters -/

/-- Whether a character is a blank inside of a line. -/
def isBlank (c : Char) : Bool :=
  c = ' ' || c = '\t'

/-- Whether a character breaks a line. -/
def isBreak (c : Char) : Bool :=
  c = '\n' || c = '\r'

/-- Whether a character is a blank or a line break. -/
def isSpace (c : Char) : Bool :=
  isBlank c || isBreak c

/-- Whether a character is punctuation of the flow style. -/
def isFlowMark (c : Char) : Bool :=
  c = ',' || c = '[' || c = ']' || c = '\x7b' || c = '\x7d'

/-- Whether a character may stand in the names of directives and handles. -/
def isNameChar (c : Char) : Bool :=
  c.isAlphanum || c = '_' || c = '-'

/-- Whether a character of the flow style, or nothing, follows. -/
def isFlowNext (next : Option Char) : Bool :=
  next.any isFlowMark

/-- Whether a word ends where the given character, or nothing, follows. -/
def endsWord (next : Option Char) : Bool :=
  next.all isSpace

/-- Whether a text begins with three marks that are a word of their own. -/
def isMarked (mark : Char) (text : List Char) : Bool :=
  [mark, mark, mark].isPrefixOf text && endsWord (text.drop 3).head?

/-- Whether a text begins with what separates documents. -/
def separatesDocuments (text : List Char) : Bool :=
  isMarked '-' text || isMarked '.' text

/-! ## Places -/

/-- A place in a text. -/
structure Place where
  /-- The text from the place on. -/
  rest : List Char
  line : Nat
  column : Nat
  /-- Whether there are only blanks before the place in its line. -/
  leading : Bool

namespace Place

/-- The place where a text begins. -/
def start (text : List Char) : Place :=
  ⟨text, 0, 0, true⟩

/-- The character at a place. -/
def head (place : Place) : Option Char :=
  place.rest.head?

/-- The character after the one at a place. -/
def second (place : Place) : Option Char :=
  (place.rest.drop 1).head?

/-- Whether a line ends at a place. -/
def atBreak (place : Place) : Bool :=
  place.head.all isBreak

/-- The place after so many characters that are not all blanks. -/
def skip (count : Nat) (place : Place) : Place :=
  { place with
    rest := place.rest.drop count, column := place.column + count, leading := false }

/-- The place after so many blanks. -/
def skipBlanks (count : Nat) (place : Place) : Place :=
  { place with rest := place.rest.drop count, column := place.column + count }

/-- The place after a line break. -/
def skipBreak (place : Place) : Place :=
  match place.rest with
  | '\r' :: '\n' :: rest => ⟨rest, place.line + 1, 0, true⟩
  | rest => ⟨rest.drop 1, place.line + 1, 0, true⟩

/-- The place at the end of the line. -/
def skipLine (place : Place) : Place :=
  place.skip (place.rest.takeWhile (!isBreak ·)).length

/-- The place after blanks and a comment, and the blanks; a comment needs a blank in front. -/
def skipRest? (place : Place) : Option (Place × List Char) :=
  let blanks := place.rest.takeWhile isBlank
  let after := place.skipBlanks blanks.length
  if after.head ≠ some '#' then some (after, blanks)
  else if blanks.isEmpty then none
  else some (after.skipLine, blanks)

/-- The place at the end of the line, if only blanks and a comment come before it. -/
def endOfLine? (place : Place) : Option Place := do
  let (after, _) ← place.skipRest?
  if after.atBreak then some after else none

/-- Whether documents are separated at a place. -/
def separatesDocuments (place : Place) : Bool :=
  place.column = 0 && Yaml.separatesDocuments place.rest

end Place

end RoomAir.Yaml
