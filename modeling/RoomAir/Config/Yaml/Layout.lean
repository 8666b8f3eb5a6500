import RoomAir.Config.Yaml.Token

/-! The layout of YAML: which collections indentation has opened, and what may still be a key. -/

namespace RoomAir.Yaml

/-- A column in which something was opened. -/
structure Indentation where
  /-- The column of what it is inside of, less than zero for the document. -/
  outer : Int
  /-- Whether it belongs to a sequence or mapping, rather than to the value of a key. -/
  isBlock : Bool

/-- A node that is a key if a colon follows. -/
structure PossibleKey where
  /-- How many tokens come before the node. -/
  position : Nat
  line : Nat
  column : Nat
  /-- Whether it must be a key, as it stands where its mapping's keys do. -/
  required : Bool

/-- What is known of a text up to a place. -/
structure Layout where
  place : Place
  tokens : Array Token
  /-- The column of what is open. -/
  indent : Int
  indentations : List Indentation
  keyAllowed : Bool
  /-- What may become a key, innermost first, with one place for each flow collection around. -/
  key : Option PossibleKey
  outerKeys : List (Option PossibleKey)
  /-- The line and the column in which a colon needs no space behind it. -/
  adjacent : Option (Nat × Nat)
  /-- Whether a flow mapping has begun, so that keys are not pairs of their own. -/
  inMapping : Bool
  /-- For each flow sequence, innermost first, whether a pair is open in it. -/
  pairs : List Bool
  /-- The column of the last token, if that is an anchor or a tag. -/
  property : Option Nat

namespace Layout

/-- What is known where a text begins. -/
def start (text : List Char) : Layout where
  place := .start text
  tokens := #[]
  indent := -1
  indentations := []
  keyAllowed := true
  key := none
  outerKeys := []
  adjacent := none
  inMapping := false
  pairs := []
  property := none

/-- Whether the place is inside of a flow collection. -/
def inFlow (layout : Layout) : Bool :=
  !layout.outerKeys.isEmpty

/-- Adds a token. -/
def add (token : Token) (layout : Layout) : Layout :=
  { layout with tokens := layout.tokens.push token, property := none }

/-- Puts a token in front of those from a position on. -/
def insert (position : Nat) (token : Token) (layout : Layout) : Layout :=
  { layout with tokens := layout.tokens.insertIdxIfInBounds position token }

/-! ## Keys -/

/-- Remembers what begins at the place as a possible key, if keys may stand there. -/
def markKey (layout : Layout) : Layout :=
  if !layout.keyAllowed then layout
  else
    let column : Int := layout.place.column
    let isBlock := layout.indentations.head?.any (·.isBlock)
    { layout with
      key := some {
        position := layout.tokens.size
        line := layout.place.line
        column := layout.place.column
        required := !layout.inFlow && decide (layout.indent = column) && isBlock } }

/-- Gives up the possible key, which must not be required. -/
def dropKey? (layout : Layout) : Option Layout :=
  if layout.key.any (·.required) then none else some { layout with key := none }

/-- The most characters that a key may have. -/
def longestKey : Nat := 1024

/-- Gives up a possible key that has become too long or ended with its line. -/
def dropStaleKey? (layout : Layout) : Option Layout :=
  let isStale (key : PossibleKey) : Bool :=
    decide (key.line < layout.place.line ∨ key.column + longestKey < layout.place.column)
  if !layout.inFlow && layout.key.any isStale then layout.dropKey? else some layout

/-- Says whether keys may stand from here on. -/
def allowKeys (allowed : Bool) (layout : Layout) : Layout :=
  { layout with keyAllowed := allowed }

/-! ## Indentation -/

/-- What is left open where a column begins, and how many collections are closed. -/
def unindent (column : Int) : Int → List Indentation → Nat × Int × List Indentation
  | indent, [] => (0, indent, [])
  | indent, inner :: indentations =>
    if column < indent then
      let (count, rest) := unindent column inner.outer indentations
      (if inner.isBlock then count + 1 else count, rest)
    else (0, indent, inner :: indentations)

/-- Closes the collections that are indented further than a column. -/
def close (column : Int) (layout : Layout) : Layout :=
  if layout.inFlow then layout
  else
    let (count, indent, indentations) := unindent column layout.indent layout.indentations
    let closed := (List.replicate count Token.blockEnd).foldl (fun layout token => layout.add token)
      layout
    { closed with indent, indentations }

/-- Opens a collection in a column unless it is open, its token coming at a position. -/
def openBlock (column : Int) (position : Nat) (token : Token) (layout : Layout) : Layout :=
  if layout.inFlow then layout
  else
    -- A column that was opened for a value turns out to be that of a collection.
    let layout := match layout.indentations with
      | ⟨outer, false⟩ :: indentations =>
        if layout.indent ≤ column then { layout with indent := outer, indentations } else layout
      | _ => layout
    if layout.indent < column then
      let opened :=
        if position < layout.tokens.size then layout.insert position token else layout.add token
      { opened with
        indent := column
        indentations := ⟨layout.indent, true⟩ :: layout.indentations }
    else layout

/-- Opens the column after that of a collection, in which the parts of a value stand at least. -/
def openValue (layout : Layout) : Layout :=
  if !layout.inFlow && layout.indentations.head?.any (·.isBlock) then
    { layout with
      indent := layout.indent + 1
      indentations := ⟨layout.indent, false⟩ :: layout.indentations }
  else layout

/-- Leaves the columns that were opened for values. -/
def closeValues (layout : Layout) : Layout :=
  let rec leave : Int → List Indentation → Int × List Indentation
    | _, ⟨outer, false⟩ :: indentations => leave outer indentations
    | indent, indentations => (indent, indentations)
  let (indent, indentations) := leave layout.indent layout.indentations
  { layout with indent, indentations }

/-! ## Flow collections -/

/-- The most flow collections that are one inside of another. -/
def deepest : Nat := 255

/-- Enters a flow collection. -/
def enter? (layout : Layout) : Option Layout :=
  if layout.outerKeys.length < deepest then
    some { layout with key := none, outerKeys := layout.key :: layout.outerKeys }
  else none

/-- Leaves a flow collection, if the place is in one. -/
def leave (layout : Layout) : Layout :=
  match layout.outerKeys with
  | key :: outerKeys => { layout with key, outerKeys }
  | [] => layout

/-- Ends the pair that is open in the innermost flow sequence, if there is one. -/
def endPair (layout : Layout) : Layout :=
  match layout.pairs with
  | true :: pairs => { layout.add .braceClose with inMapping := false, pairs := false :: pairs }
  | _ => layout

end Layout

end RoomAir.Yaml
