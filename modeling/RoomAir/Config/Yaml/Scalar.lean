import RoomAir.Config.Yaml.Place
import RoomAir.Number.Literal

/-! The scalars of YAML that may stand on one line: plain ones and quoted ones. -/

namespace RoomAir.Yaml

/-- So many line breaks. -/
def breaks (count : Nat) : List Char :=
  List.replicate count '\n'

/-- What line breaks become inside of a scalar: one is a blank, and of more one is dropped. -/
def folded : Nat → List Char
  | 0 => []
  | 1 => [' ']
  | count + 1 => breaks count

/-! ## Plain scalars -/

/-- The characters up to where a plain scalar, or a word of it, ends. -/
def plainWord (flow : Bool) : List Char → List Char
  | [] => []
  | c :: rest =>
    let next := rest.head?
    let endsHere := isSpace c || (flow && isFlowMark c)
      || (c = ':' && (endsWord next || (flow && isFlowNext next)))
    if endsHere then [] else c :: plainWord flow rest

/-- The space between two words, what it counts as after so many breaks, and the place after it. -/
def plainSpace? (indent : Int) : Nat → Nat → List Char → Place → Option (List Char × Place)
  | 0, _, _, _ => none
  | fuel + 1, count, blanks, place =>
    match place.head with
    | none => some (if count = 0 then blanks else folded count, place)
    | some c =>
      if isBreak c then
        -- The break after a comment is not one more.
        let count := if count = 0 || place.leading then count + 1 else count
        plainSpace? indent fuel count [] place.skipBreak
      else if !isBlank c then some (if count = 0 then blanks else folded count, place)
      else if !place.leading then
        plainSpace? indent fuel count (blanks ++ [c]) (place.skipBlanks 1)
      else if c = '\t' ∧ (place.column : Int) < indent then do
        -- A tab indents nothing, so its line must be empty.
        plainSpace? indent fuel count blanks (← place.endOfLine?)
      else plainSpace? indent fuel count blanks (place.skipBlanks 1)

/-- The words of a plain scalar with the space between them; it goes on from a column on. -/
def plainFrom? (flow : Bool) (indent : Int) : Nat → List Char → Place → Option (List Char × Place)
  | 0, _, _ => none
  | fuel + 1, space, place =>
    if place.separatesDocuments || place.head = some '#' then some ([], place)
    else if flow && place.head = some '-' && isFlowNext place.second then none
    else
      let word := plainWord flow place.rest
      let spaced := if word.isEmpty then [] else space ++ word
      let place := if word.isEmpty then place else place.skip word.length
      if !place.head.any isSpace then some (spaced, place)
      else do
        let (space, place) ← plainSpace? indent (place.rest.length + 1) 0 [] place
        if !flow ∧ (place.column : Int) < indent then some (spaced, place)
        else
          let (later, place) ← plainFrom? flow indent fuel space place
          some (spaced ++ later, place)

/-- A plain scalar, and the place after it and any space. -/
def plain? (flow : Bool) (indent : Int) (place : Place) : Option (String × Place) := do
  let (content, after) ← plainFrom? flow indent (place.rest.length + 1) [] place
  some (String.ofList content, after)

/-! ## Quoted scalars -/

/-- The character that a single letter stands for after a backslash. -/
def letterEscape? : Char → Option Char
  | '0' => some '\x00'
  | 'a' => some '\x07'
  | 'b' => some '\x08'
  | 't' => some '\t'
  | '\t' => some '\t'
  | 'n' => some '\n'
  | 'v' => some '\x0B'
  | 'f' => some '\x0C'
  | 'r' => some '\r'
  | 'e' => some '\x1B'
  | ' ' => some ' '
  | '"' => some '"'
  | '/' => some '/'
  | '\\' => some '\\'
  | 'N' => some '\u0085'
  | '_' => some '\u00A0'
  | 'L' => some '\u2028'
  | 'P' => some '\u2029'
  | _ => none

/-- How many hexadecimal digits follow a letter after a backslash. -/
def escapeDigits? : Char → Option Nat
  | 'x' => some 2
  | 'u' => some 4
  | 'U' => some 8
  | _ => none

/-- The character that a backslash and what follows it stand for, and how many follow. -/
def escape? : List Char → Option (Char × Nat)
  | [] => none
  | letter :: rest =>
    match escapeDigits? letter with
    | none => (letterEscape? letter).map fun c => (c, 1)
    | some count => do
      let digits := rest.take count
      if digits.length < count then none
      else
        let code ← Whole.digits? 16 digits
        if code.isValidChar then some (Char.ofNat code, count + 1) else none

/-- The characters up to a space or the closing quote, and whether an escaped break ends them. -/
def quotedWord? (quote : Char) : Nat → Place → Option (List Char × Bool × Place)
  | 0, _ => none
  | fuel + 1, place =>
    match place.rest with
    | [] => some ([], false, place)
    | c :: rest =>
      let next := rest.head?
      if isSpace c then some ([], false, place)
      else if c = quote then
        -- A single quote inside is written twice.
        if quote = '\'' ∧ next = some '\'' then do
          let (later, broken, place) ← quotedWord? quote fuel (place.skip 2)
          some (c :: later, broken, place)
        else some ([], false, place)
      else if c = '\\' ∧ quote = '"' then
        if next.any isBreak then some ([], true, (place.skip 1).skipBreak)
        else do
          let (found, count) ← escape? rest
          let (later, broken, place) ← quotedWord? quote fuel (place.skip (count + 1))
          some (found :: later, broken, place)
      else do
        let (later, broken, place) ← quotedWord? quote fuel (place.skip 1)
        some (c :: later, broken, place)

/-- The space after a word, what it counts as, and the place after it; `count` is nothing as long
as the line goes on, and else how many breaks there were. -/
def quotedSpace? (indent : Int) : Nat → Option Nat → List Char → Place →
    Option (Option Nat × List Char × Place)
  | 0, _, _, _ => none
  | fuel + 1, count, blanks, place =>
    match place.head with
    | none => some (count, blanks, place)
    | some c =>
      if isBreak c then
        quotedSpace? indent fuel (some (count.getD 0 + 1)) [] place.skipBreak
      else if !isBlank c then some (count, blanks, place)
      else match count with
        | none => quotedSpace? indent fuel none (blanks ++ [c]) (place.skipBlanks 1)
        | some _ =>
          if c = '\t' ∧ (place.column : Int) < indent then none
          else quotedSpace? indent fuel count blanks (place.skipBlanks 1)

/-- A quoted scalar up to its closing quote, none of its lines being indented less. -/
def quotedFrom? (quote : Char) (indent : Int) : Nat → Place → Option (List Char × Place)
  | 0, _ => none
  | fuel + 1, place => do
    if place.separatesDocuments || place.rest.isEmpty || decide ((place.column : Int) < indent) then
      none
    else
      let (word, broken, place) ← quotedWord? quote (place.rest.length + 1) place
      if place.head = some quote then some (word, place.skip 1)
      else
        let count := if broken then some 0 else none
        let (count, blanks, place) ←
          quotedSpace? indent (place.rest.length + 1) count [] place
        let space := match count with
          | none => blanks
          -- An escaped break counts for nothing, and all after it are kept.
          | some count => if broken then breaks count else folded count
        let (later, place) ← quotedFrom? quote indent fuel place
        some (word ++ space ++ later, place)

/-- A quoted scalar from its opening quote on, and the place after it and a comment. -/
def quoted? (quote : Char) (flow : Bool) (indent : Int) (place : Place) :
    Option (String × Place) := do
  let (content, after) ← quotedFrom? quote indent (place.rest.length + 1) (place.skip 1)
  let (last, _) ← after.skipRest?
  -- After a key comes a colon, which outside of the flow style is on the same line.
  let isKey := last.head = some ':' ∧ (flow ∨ last.line = place.line)
  let isPart := flow ∧ last.head.any fun c => c = ',' || c = ']' || c = '\x7d'
  if last.atBreak ∨ isKey ∨ isPart then some (String.ofList content, last) else none

end RoomAir.Yaml
