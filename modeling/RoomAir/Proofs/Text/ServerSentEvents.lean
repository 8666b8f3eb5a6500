import RoomAir.Text.Utf8

/-! How a page reads an event stream: lines set the fields of an event, a blank line sends it. -/

namespace RoomAir.ServerSentEvents

/-- An event, or what is gathered of one so far. -/
structure Event where
  name : List Char
  data : List Char
  deriving DecidableEq, Repr

namespace Event

/-- What is gathered at the beginning, and again after every blank line. -/
def empty : Event := ⟨[], []⟩

/-- The event that a blank line sends, which is none where no data was gathered. -/
def sent? (gathered : Event) : Option Event :=
  if gathered.data = [] then none
  else some {
    name := if gathered.name = [] then "message".toList else gathered.name
    -- The line feed after the last line of data is no part of it.
    data := gathered.data.dropLast }

/-- A named event with data is sent without its last line feed. -/
theorem sent?_concat {name : List Char} (named : name ≠ []) (data : List Char) :
    sent? ⟨name, data ++ ['\n']⟩ = some ⟨name, data⟩ := by
  -- The data is not empty because of the line feed, which is the last character of it.
  rw [sent?, if_neg (by simp), if_neg named, List.dropLast_concat]

end Event

/-- The lines of a text, which end with a carriage return, a line feed or both.

The first of them continues a line, and a last one that does not end is no line.
-/
def linesFrom (line : List Char) : List Char → List (List Char)
  | [] => []
  | '\r' :: '\n' :: rest => line :: linesFrom [] rest
  | '\r' :: rest => line :: linesFrom [] rest
  | '\n' :: rest => line :: linesFrom [] rest
  | c :: rest => linesFrom (line ++ [c]) rest

/-- The value after the colon of a field, less one space before it. -/
def fieldValue : List Char → List Char
  | ':' :: ' ' :: value => value
  | ':' :: value => value
  | _ => []

/-- What one line makes of the event that is being gathered, and the event that it sends. -/
def step (gathered : Event) : List Char → Event × Option Event
  | [] => (.empty, gathered.sent?)
  -- A line that begins with a colon is a comment.
  | ':' :: _ => (gathered, none)
  | line =>
    let value := fieldValue (line.dropWhile (· ≠ ':'))
    match String.ofList (line.takeWhile (· ≠ ':')) with
    | "event" => ({ gathered with name := value }, none)
    | "data" => ({ gathered with data := gathered.data ++ value ++ ['\n'] }, none)
    | _ => (gathered, none)

/-- A blank line sends what was gathered, and the next event is begun. -/
theorem step_blank (gathered : Event) : step gathered [] = (.empty, gathered.sent?) :=
  rfl

/-- The events that lines send, the first of which go on with what is gathered already. -/
def eventsFrom (gathered : Event) : List (List Char) → List Event
  | [] => []
  | line :: lines =>
    let (gathered, event) := step gathered line
    event.toList ++ eventsFrom gathered lines

/-- A text without the byte order mark that it may begin with. -/
def withoutMark : List Char → List Char
  | '\uFEFF' :: text => text
  | text => text

/-- The events that a page receives with a body. -/
def received (body : Bytes) : List Event :=
  eventsFrom .empty (linesFrom [] (withoutMark (Utf8.decodeLossy body).toList))

/-! ## Lines that were written -/

/-- A text in which no line ends. -/
def OneLine (text : List Char) : Prop :=
  '\r' ∉ text ∧ '\n' ∉ text

instance (text : List Char) : Decidable (OneLine text) :=
  inferInstanceAs (Decidable (_ ∧ _))

/-- Lines with a line feed after each. -/
def unlines (lines : List (List Char)) : List Char :=
  lines.flatMap (· ++ ['\n'])

/-- A line that is written with a line feed after it is read up to there. -/
theorem linesFrom_oneLine {text : List Char} (whole : OneLine text) (line rest : List Char) :
    linesFrom line (text ++ '\n' :: rest) = (line ++ text) :: linesFrom [] rest := by
  induction text generalizing line with
  -- The line feed ends the line right away.
  | nil => rw [List.nil_append, List.append_nil, linesFrom]
  | cons c text ih =>
    obtain ⟨noReturn, noFeed⟩ := whole
    rw [List.mem_cons, not_or] at noReturn noFeed
    -- What has been read of the line so far grows by the first character.
    rw [List.cons_append, linesFrom, ih ⟨noReturn.2, noFeed.2⟩, List.append_assoc,
      List.singleton_append]
    -- The first character ends no line, so it is added to the one that is read.
    · exact fun _ same _ => noReturn.1 same.symm
    · exact fun same => noReturn.1 same.symm
    · exact fun same => noFeed.1 same.symm

/-- Lines that are written one after the other are read as those lines, whatever follows. -/
theorem linesFrom_unlines {lines : List (List Char)} (whole : ∀ line ∈ lines, OneLine line)
    (rest : List Char) : linesFrom [] (unlines lines ++ rest) = lines ++ linesFrom [] rest := by
  induction lines with
  -- No lines are followed by whatever there is.
  | nil => rfl
  | cons line lines ih =>
    obtain ⟨first, others⟩ := List.forall_mem_cons.mp whole
    -- The first line is read up to its line feed, and the others begin behind it.
    rw [unlines, List.flatMap_cons, List.append_assoc, List.append_assoc, List.singleton_append,
      linesFrom_oneLine first, List.nil_append, ← unlines, ih others, List.cons_append]

end RoomAir.ServerSentEvents
