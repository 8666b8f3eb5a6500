import RoomAir.Config.Yaml.Scalar

/-! The block scalars of YAML, each of which takes the lines that are indented below its mark. -/

namespace RoomAir.Yaml

/-- What becomes of the line breaks at the end of a block scalar. -/
inductive Chomping where
  /-- One of them is kept. -/
  | clip
  | strip
  | keep
  deriving DecidableEq, Repr

/-- The way of chomping that a sign asks for. -/
def Chomping.ofSign? : Char → Option Chomping
  | '+' => some .keep
  | '-' => some .strip
  | _ => none

/-- The head of a block scalar: how it ends, how far it is indented if that is given, and the place
after both, which may come in either order. -/
def blockHead? (place : Place) : Option (Chomping × Option Nat × Place) := do
  let sign (place : Place) : Option Chomping := place.head.bind Chomping.ofSign?
  let digit (place : Place) : Option Nat :=
    (place.head.filter Char.isDigit).map fun c => c.toNat - '0'.toNat
  let found : Chomping × Option Nat × Place := match sign place, digit place with
    | some chomping, _ =>
      match digit (place.skip 1) with
      | some extra => (chomping, some extra, place.skip 2)
      | none => (chomping, none, place.skip 1)
    | none, some extra =>
      match sign (place.skip 1) with
      | some chomping => (chomping, some extra, place.skip 2)
      | none => (.clip, some extra, place.skip 1)
    | none, none => (.clip, none, place)
  -- An indentation of nothing cannot be asked for.
  if found.2.1 = some 0 then none else some found

/-- The place after indentation up to a column and empty lines, and the number of the latter. -/
def skipIndentation (column : Nat) : Nat → Place → Nat × Place
  | 0, place => (0, place)
  | fuel + 1, place =>
    let spaces := ((place.rest.take (column - place.column)).takeWhile (· = ' ')).length
    let after := place.skipBlanks spaces
    if after.head.any isBreak then
      let (count, last) := skipIndentation column fuel after.skipBreak
      (count + 1, last)
    else (0, after)

/-- The place after the empty lines at the front, their number, and the farthest column. -/
def skipFront : Nat → Nat → Place → Nat × Nat × Place
  | 0, farthest, place => (0, farthest, place)
  | fuel + 1, farthest, place =>
    let after := place.skipBlanks (place.rest.takeWhile (· = ' ')).length
    let farthest := max farthest after.column
    if after.head.any isBreak then
      let (count, farthest, last) := skipFront fuel farthest after.skipBreak
      (count + 1, farthest, last)
    else (0, farthest, after)

/-- The lines of a block scalar that have been read. -/
structure BlockLines where
  content : List Char
  /-- Whether a line break follows the content. -/
  broken : Bool
  /-- How many empty lines follow that. -/
  empty : Nat
  /-- Whether the last line begins with a blank. -/
  indented : Bool
  place : Place

namespace BlockLines

/-- What separates a line from those before it: of flush lines a break is folded. -/
def space (isFolded indented : Bool) (lines : BlockLines) : List Char :=
  if isFolded && lines.broken && !lines.indented && !indented then folded (lines.empty + 1)
  else breaks ((if lines.broken then 1 else 0) + lines.empty)

/-- Takes the lines that begin in a column. -/
def takeLines (isFolded : Bool) (column : Nat) : Nat → BlockLines → BlockLines
  | 0, lines => lines
  | fuel + 1, lines =>
    let place := lines.place
    let isDone := place.column ≠ column || place.rest.isEmpty
      || (column = 0 && isMarked '.' place.rest)
    if isDone then lines
    else
      let indented := place.head.any isBlank
      let line := place.rest.takeWhile (!isBreak ·)
      let content := lines.content ++ lines.space isFolded indented ++ line
      let after := place.skipBlanks line.length
      if after.rest.isEmpty then ⟨content, false, 0, indented, after⟩
      else
        let (empty, next) := skipIndentation column (after.rest.length + 1) after.skipBreak
        takeLines isFolded column fuel ⟨content, true, empty, indented, next⟩

/-- The text of all lines with what is kept of the breaks at their end. -/
def text (chomping : Chomping) (column : Nat) (lines : BlockLines) : List Char :=
  -- A last line that nothing ends counts as ended, even if it is empty.
  let cut := lines.place.rest.isEmpty && decide (max column 1 ≤ lines.place.column)
  let ending := match chomping with
    | .strip => []
    | _ => breaks ((if lines.broken then 1 else 0) + (if cut then 1 else 0))
  let kept := match chomping with
    | .keep => breaks lines.empty
    | _ => []
  lines.content ++ ending ++ kept

end BlockLines

/-- What a block scalar without lines is, so many empty ones having come after its head. -/
def emptyBlock (chomping : Chomping) (onHeadLine : Bool) (count : Nat) : List Char :=
  if chomping = .strip ∨ onHeadLine then []
  else if chomping = .clip then breaks 1
  else breaks (max count 1)

/-- A block scalar from its mark on inside of a collection's column, and the place after it. -/
def block? (isFolded : Bool) (indent : Int) (place : Place) : Option (String × Place) := do
  let (chomping, given, head) ← blockHead? (place.skip 1)
  let head ← head.endOfLine?
  let first := if head.rest.isEmpty then head else head.skipBreak
  if first.head = some '\t' then none
  else
    let size := first.rest.length + 1
    let (count, column, start) := match given with
      | some extra =>
        let column := extra + indent.toNat
        let (count, start) := skipIndentation column size first
        (count, column, start)
      | none =>
        let (count, farthest, start) := skipFront size 0 first
        (count, max farthest (indent + 1).toNat, start)
    if start.rest.isEmpty then
      some (String.ofList (emptyBlock chomping (start.line = place.line) count), start)
    else if start.column < column ∧ indent < start.column then none
    else
      let lines := BlockLines.takeLines isFolded column size ⟨[], false, count, false, start⟩
      some (String.ofList (lines.text chomping column), lines.place)

end RoomAir.Yaml
