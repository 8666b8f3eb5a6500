import RoomAir.Config.Yaml.Block
import RoomAir.Config.Yaml.Layout
import RoomAir.Config.Yaml.Tag

/-! The tokens of a text: each step reads one word and marks what it begins or ends. -/

namespace RoomAir.Yaml.Layout

/-- The place after a number of characters of a word. -/
def skip (count : Nat) (layout : Layout) : Layout :=
  { layout with place := layout.place.skip count }

/-- The place where so much text is left. -/
def skipTo (rest : List Char) (layout : Layout) : Layout :=
  layout.skip (layout.place.rest.length - rest.length)

/-- The place after blanks and a comment. -/
def skipRest? (layout : Layout) : Option Layout :=
  layout.place.skipRest?.map fun (place, _) => { layout with place }

/-- The place where the next word begins; after a line break keys may stand. -/
def skipSpaceFrom? : Nat → Layout → Option Layout
  | 0, layout => some layout
  | fuel + 1, layout =>
    let place := layout.place
    match place.head with
    | none => some layout
    | some c =>
      if c = '\t' ∧ !layout.indentations.isEmpty ∧ place.leading
          ∧ (place.column : Int) < layout.indent then do
        -- A tab indents nothing, so its line must be empty.
        skipSpaceFrom? fuel { layout with place := ← place.endOfLine? }
      else if isBlank c then skipSpaceFrom? fuel { layout with place := place.skipBlanks 1 }
      else if isBreak c then
        let keyAllowed := layout.keyAllowed || !layout.inFlow
        skipSpaceFrom? fuel { layout with place := place.skipBreak, keyAllowed }
      else if c = '#' then skipSpaceFrom? fuel { layout with place := place.skipLine }
      else some layout

/-- The place where the next word begins. -/
def skipSpace? (layout : Layout) : Option Layout :=
  layout.skipSpaceFrom? (layout.place.rest.length + 1)

/-- The place where a colon needs no space behind it. -/
def here (layout : Layout) : Nat × Nat :=
  (layout.place.line, layout.place.column)

/-! ## Documents -/

/-- A directive, which takes a line of its own. -/
def readDirective? (layout : Layout) : Option Layout := do
  let layout ← (layout.close (-1)).dropKey?
  let layout := layout.allowKeys false
  let (token, rest) ← directive? (layout.place.rest.drop 1)
  let place ← (layout.skipTo rest).place.endOfLine?
  let place := if place.rest.isEmpty then place else place.skipBreak
  some ({ layout with place }.add token)

/-- Three marks that begin or end a document. -/
def readSeparator? (token : Token) (layout : Layout) : Option Layout := do
  let layout ← (layout.close (-1)).dropKey?
  some (((layout.allowKeys false).skip 3).add token)

/-- The marks that end a document, after which nothing may follow in the line. -/
def readDocumentEnd? (layout : Layout) : Option Layout := do
  let layout ← layout.readSeparator? .documentEnd
  some { layout with place := ← layout.place.endOfLine? }

/-! ## Flow collections -/

/-- The mark that opens a flow collection. -/
def readOpening? (isSequence : Bool) (layout : Layout) : Option Layout := do
  let layout ← layout.markKey.openValue.enter?
  let opened := (layout.allowKeys true).skip 1
  let opened :=
    if isSequence then { opened with pairs := false :: opened.pairs }
    else { opened with inMapping := true }
  some ((← opened.skipRest?).add (if isSequence then .bracketOpen else .braceOpen))

/-- The mark that closes a flow collection. -/
def readClosing? (isSequence : Bool) (layout : Layout) : Option Layout := do
  let layout := (← layout.dropKey?).leave.allowKeys false
  let layout :=
    if isSequence then
      let ended := layout.endPair
      { ended with pairs := ended.pairs.drop 1 }
    else layout
  let closed ← (layout.skip 1).skipRest?
  let adjacent := if closed.inFlow then some closed.here else closed.adjacent
  some ({ closed with adjacent }.add (if isSequence then .bracketClose else .braceClose))

/-- The comma between the parts of a flow collection. -/
def readComma? (layout : Layout) : Option Layout := do
  let layout := ((← layout.dropKey?).allowKeys true).endPair
  some ((← (layout.skip 1).skipRest?).add .comma)

/-! ## Block collections -/

/-- The dash in front of an item. -/
def readDash? (layout : Layout) : Option Layout := do
  if layout.inFlow || !layout.keyAllowed then none
  -- An anchor or tag at the margin belongs to no sequence at the margin.
  else if layout.property = some 0 ∧ layout.place.column = 0 ∧ 0 ≤ layout.indent then none
  else
    let opened :=
      (layout.skip 1).openBlock layout.place.column layout.tokens.size .sequenceStart
    let (place, blanks) ← opened.place.skipRest?
    -- Two dashes with a tab between would indent the second one by the tab.
    if blanks.contains '\t' ∧ place.head = some '-' ∧ endsWord place.second then none
    else
      let layout := { opened with place }
      let isBare := place.head.any isBreak || isFlowNext place.head
      let layout := if isBare then layout.openValue else layout
      some (((← layout.dropKey?).allowKeys true).add .dash)

/-- The space after a question mark: spaces, line breaks and comments, but no tab. -/
def skipKeySpace? : Nat → Bool → Layout → Option Layout
  | 0, _, _ => none
  | fuel + 1, found, layout =>
    match layout.place.head with
    | some ' ' => skipKeySpace? fuel true { layout with place := layout.place.skipBlanks 1 }
    | some '#' => skipKeySpace? fuel found { layout with place := layout.place.skipLine }
    | some '\t' => none
    | some c =>
      if isBreak c then
        let keyAllowed := layout.keyAllowed || !layout.inFlow
        skipKeySpace? fuel true { layout with place := layout.place.skipBreak, keyAllowed }
      else if found then some layout
      else none
    | none => if found then some layout else none

/-- The question mark in front of a key. -/
def readKey? (layout : Layout) : Option Layout := do
  if !layout.inFlow && !layout.keyAllowed then none
  else
    let opened :=
      if layout.inFlow then { layout with inMapping := true }
      else layout.openBlock layout.place.column layout.tokens.size .mappingStart
    let marked := (← opened.dropKey?).allowKeys (!layout.inFlow)
    let skipped := marked.skip 1
    some ((← skipped.skipKeySpace? (skipped.place.rest.length + 1) false).add .key)

/-- The colon in front of a value, which makes a key of what may be one. -/
def readValue? (layout : Layout) : Option Layout := do
  let start := layout.place
  -- In a sequence that is no mapping's, a colon begins a pair.
  let isPair := !layout.pairs.isEmpty && !layout.inMapping
  let layout := if isPair then { layout with pairs := true :: layout.pairs.drop 1 } else layout
  let layout := layout.skip 1
  let (place, blanks) ←
    if layout.place.head = some '\t' then layout.place.skipRest? else some (layout.place, [' '])
  -- A tab alone cannot indent the parts of a block collection.
  if !blanks.contains ' ' ∧ (place.head.any fun c => c = '-' || isNameChar c) then none
  else
    let layout := { layout with place }
    match layout.key with
    | some key => do
      if isPair ∧ key.line < start.line then none
      else
        let layout := layout.insert key.position .key
        let layout := if isPair then layout.insert key.position .braceOpen else layout
        let layout := (layout.openBlock key.column key.position .mappingStart).openValue
        some ({ layout with key := none, keyAllowed := false }.add .value)
    | none =>
      let layout := if isPair then layout.add .braceOpen else layout
      if !layout.inFlow && !layout.keyAllowed then none
      else
        let opened := layout.openBlock start.column layout.tokens.size .mappingStart
        some ((opened.openValue.allowKeys (!layout.inFlow)).add .value)

/-! ## Words -/

/-- An anchor or an alias after its mark. -/
def readName? (isAlias : Bool) (layout : Layout) : Option Layout :=
  let marked := layout.markKey.allowKeys false
  let name := (layout.place.rest.drop 1).takeWhile fun c =>
    !isSpace c && !isFlowMark c && c ≠ '\uFEFF'
  let text := String.ofList name
  if name.isEmpty then none
  else
    let read := (marked.skip (name.length + 1)).add (if isAlias then .alias text else .anchor text)
    some (if isAlias then read else { read with property := some layout.place.column })

/-- A tag. -/
def readTag? (layout : Layout) : Option Layout := do
  let marked := layout.markKey.allowKeys false
  let (token, rest) ← tag? layout.inFlow layout.place.rest
  some { (marked.skipTo rest).add token with property := some layout.place.column }

/-- A block scalar, after which keys may stand. -/
def readBlock? (isFolded : Bool) (layout : Layout) : Option Layout := do
  let marked := (layout.markKey.allowKeys true).closeValues
  let (content, place) ← block? isFolded marked.indent marked.place
  some ({ marked with place }.add (.scalar false content))

/-- A quoted scalar; a colon right after it needs no space behind it. -/
def readQuoted? (quote : Char) (layout : Layout) : Option Layout := do
  let marked := layout.markKey.allowKeys false
  let (content, place) ← quoted? quote marked.inFlow marked.indent marked.place
  let next ← { marked with place }.skipSpace?
  some ({ next with adjacent := some next.here }.add (.scalar false content))

/-- A plain scalar; if it ends with its line, keys may stand after it. -/
def readPlain? (layout : Layout) : Option Layout := do
  let marked := (layout.markKey.allowKeys false).closeValues
  let indent := marked.indent + 1
  if marked.inFlow && decide ((marked.place.column : Int) < indent) then none
  else
    let (content, place) ← plain? marked.inFlow indent marked.place
    let read := { marked with place }.add (.scalar true content)
    some (read.allowKeys place.leading)

/-! ## Steps -/

/-- Reads the word at the place, which begins with the given character. -/
def readWord? (c : Char) (layout : Layout) : Option Layout :=
  let place := layout.place
  let next := place.second
  let flow := layout.inFlow
  if place.column = 0 && c = '%' then layout.readDirective?
  else if place.column = 0 && isMarked '-' place.rest then layout.readSeparator? .documentStart
  else if place.column = 0 && isMarked '.' place.rest then layout.readDocumentEnd?
  else if (place.column : Int) < layout.indent then none
  else if c = '[' then layout.readOpening? true
  else if c = '\x7b' then layout.readOpening? false
  else if c = ']' then layout.readClosing? true
  else if c = '\x7d' then layout.readClosing? false
  else if c = ',' then layout.readComma?
  else if c = '-' && endsWord next then layout.readDash?
  else if c = '?' && endsWord next then layout.readKey?
  else if c = ':' && (endsWord next
      || (flow && (isFlowNext next || layout.adjacent = some layout.here))) then layout.readValue?
  else if c = '*' then layout.readName? true
  else if c = '&' then layout.readName? false
  else if c = '!' then layout.readTag?
  else if c = '|' && !flow then layout.readBlock? false
  else if c = '>' && !flow then layout.readBlock? true
  else if c = '\'' || c = '"' then layout.readQuoted? c
  else if c = '%' || c = '@' || c = '\x60' then none
  else layout.readPlain?

/-- Ends the text: all that is open is closed. -/
def finish? (layout : Layout) : Option (List Token) :=
  if (layout.key :: layout.outerKeys).any fun key => key.any (·.required) then none
  else some (layout.close (-1)).tokens.toList

/-- The tokens of what is left of a text, after those that have been read. -/
def tokensFrom? : Nat → Layout → Option (List Token)
  | 0, _ => none
  | fuel + 1, layout => do
    let layout ← (← layout.skipSpace?).dropStaleKey?
    let layout := layout.close layout.place.column
    match layout.place.head with
    | none => layout.finish?
    | some c => tokensFrom? fuel (← layout.readWord? c)

end Layout

/-- The tokens of a text, which a NUL character would end. -/
def tokens? (text : List Char) : Option (List Token) :=
  let text := text.takeWhile (· ≠ '\x00')
  Layout.tokensFrom? (text.length + 1) (.start text)

end RoomAir.Yaml
