import RoomAir.Proofs.Dashboard.TimeOrder
import RoomAir.Proofs.Http.Reopening
import RoomAir.Proofs.Json.Embedding
import RoomAir.Proofs.Text.ServerSentEvents

/-! The body of an event stream: it is read as the updates that were written, one event for each. -/

namespace RoomAir

open Chart (member? items?)

/-! ## Updates read from their JSON -/

namespace Json

/-- A text. -/
def text? : Json → Option String
  | .string text => some text
  | _ => none

/-- A whole number that is not negative. -/
def natural? : Json → Option Nat
  | .integer (.ofNat value) => some value
  | _ => none

/-- A value of some kind, or null in its place. -/
def orNull? {α : Type} (read? : Json → Option α) : Json → Option (Option α)
  | .null => some none
  | json => (read? json).map some

/-- Where a kind of value is read back and is never null, a missing one is read back too. -/
theorem orNull?_ofOption {α : Type} (read? : Json → Option α) (write : α → Json)
    (back : ∀ value, read? (write value) = some value) (nullRefused : read? .null = none)
    (value : Option α) : orNull? read? (ofOption (value.map write)) = some value := by
  cases value with
  | none => rfl
  | some value =>
    rw [Option.map_some, ofOption, orNull?, back, Option.map_some]
    -- Null is not what the value is written as, or it would be read.
    intro same
    have read := back value
    rw [same, nullRefused] at read
    cases read

end Json

/-- The slot of a name in data. -/
def ChartSlot.ofKey? (key : String) : Option ChartSlot :=
  [overview, details].find? fun slot => slot.key == key

/-- A slot is found by its name. -/
theorem ChartSlot.ofKey?_key (slot : ChartSlot) : ofKey? slot.key = some slot := by
  cases slot <;> decide

/-- The chart that a page is sent. -/
def ChartUpdate.ofJson? (json : Json) : Option ChartUpdate := do
  let slot ← ChartSlot.ofKey? (← Json.text? (← member? "slot" json))
  let number ← Json.natural? (← member? "handle" json)
  let replaces ← Json.orNull? Json.natural? (← member? "replaces" json)
  let config ← member? "config" json
  some ⟨⟨slot, number⟩, replaces, config⟩

/-- The update that a page is sent. -/
def ViewUpdate.ofJson? (json : Json) : Option ViewUpdate := do
  let cards ← Json.orNull? Json.text? (← member? "cards" json)
  let selector ← Json.orNull? Json.text? (← member? "selector" json)
  let table ← Json.orNull? Json.text? (← member? "table" json)
  let charts ← (← items? (← member? "charts" json)).mapM ChartUpdate.ofJson?
  some ⟨cards, selector, table, charts⟩

/-- A chart is sent with its slot, its number, the number that it replaces and its configuration. -/
theorem ChartUpdate.ofJson?_toJson (update : ChartUpdate) :
    ofJson? update.toJson = some update := by
  -- Each member is found under its key, and what it replaces may be null.
  have slot : member? "slot" update.toJson = some (.string update.chart.slot.key) := rfl
  have handle : member? "handle" update.toJson = some (.integer update.chart.number) := rfl
  have replaced : member? "replaces" update.toJson
      = some (Json.ofOption (update.replaces.map fun number : Nat => .integer number)) := by
    obtain ⟨chart, replaces, config⟩ := update
    cases replaces <;> rfl
  have config : member? "config" update.toJson = some update.config := rfl
  have number := Json.orNull?_ofOption Json.natural? (fun number : Nat => .integer number)
    (fun _ => rfl) rfl update.replaces
  simp only [ofJson?, slot, handle, replaced, config, Json.text?, ChartSlot.ofKey?_key,
    Json.natural?, number, Option.bind_eq_bind, Option.bind_some]

/-- An update is sent with all its fragments and charts. -/
theorem ViewUpdate.ofJson?_toJson (update : ViewUpdate) : ofJson? update.toJson = some update := by
  -- A fragment that is missing is sent as null, which is no text.
  have fragment (text : Option String) :
      Json.orNull? Json.text? (fragmentJson text) = some text :=
    Json.orNull?_ofOption Json.text? .string (fun _ => rfl) rfl text
  -- The charts are read one by one, each as it was sent.
  have charts : (update.charts.map ChartUpdate.toJson).mapM ChartUpdate.ofJson?
      = some update.charts :=
    mapM_eq_some (by simp [ChartUpdate.ofJson?_toJson])
  have cards : member? "cards" update.toJson = some (fragmentJson update.cards) := rfl
  have selector : member? "selector" update.toJson = some (fragmentJson update.selector) := rfl
  have table : member? "table" update.toJson = some (fragmentJson update.table) := rfl
  have items : member? "charts" update.toJson = some update.chartsJson := rfl
  simp [ofJson?, cards, selector, table, items, fragment, items?, chartsJson, charts]

/-! ## The pieces of a body -/

/-- The lines of a piece. -/
def StreamChunk.lines : StreamChunk → List (List Char)
  | .refresh update => ["event: refresh".toList, "data: ".toList ++ update.toJson.chars, []]
  | .keepAlive => [[':'], []]

/-- The event that an update is sent as. -/
def ViewUpdate.event (update : ViewUpdate) : ServerSentEvents.Event :=
  ⟨"refresh".toList, update.toJson.chars⟩

/-- The body that pieces make one after the other. -/
def EventStream.body (pieces : List StreamChunk) : Bytes :=
  pieces.flatMap fun piece => Utf8.encode piece.text

namespace EventStream

open ServerSentEvents

/-- The text of a value is one line, as line ends are control characters. -/
theorem oneLine_chars (value : Json) : OneLine value.chars :=
  ⟨fun member => absurd (Json.printed_chars value _ member) (by decide),
    fun member => absurd (Json.printed_chars value _ member) (by decide)⟩

/-- No line of a piece is broken, whatever its update holds. -/
theorem oneLine_of_mem_lines {piece : StreamChunk} : ∀ line ∈ piece.lines, OneLine line := by
  cases piece with
  | keepAlive => simp only [StreamChunk.lines]; decide
  -- Of the three lines only the data depends on the update, and it is one line of JSON.
  | refresh update =>
    have data : OneLine ("data: ".toList ++ update.toJson.chars) := by
      have label : OneLine "data: ".toList := by decide
      obtain ⟨noReturn, noFeed⟩ := oneLine_chars update.toJson
      exact ⟨fun member => (List.mem_append.mp member).elim label.1 noReturn,
        fun member => (List.mem_append.mp member).elim label.2 noFeed⟩
    have name : OneLine "event: refresh".toList := by decide
    have blank : OneLine [] := by decide
    simp only [StreamChunk.lines, List.forall_mem_cons]
    exact ⟨name, data, blank, nofun⟩

/-- A piece is written line by line. -/
theorem text_toList (piece : StreamChunk) : piece.text.toList = unlines piece.lines := by
  -- A comment is a colon and a blank line, whose text can be compared as it is.
  cases piece with
  | keepAlive =>
    change ":\n\n".toList = unlines [[':'], []]
    decide
  | refresh update =>
    -- The line feeds of the labels belong to the lines before and after the data.
    have labels : "event: refresh\ndata: ".toList
        = "event: refresh".toList ++ '\n' :: "data: ".toList := by decide
    have ends : "\n\n".toList = ['\n', '\n'] := by decide
    change ("event: refresh\ndata: " ++ update.toJson.text ++ "\n\n").toList = _
    simp only [StreamChunk.lines, String.toList_append, Json.text,
      String.toList_ofList, labels, ends, unlines, List.flatMap_cons, List.flatMap_nil,
      List.append_assoc, List.cons_append, List.nil_append]

/-- A line of data is added to what is gathered, and sends nothing. -/
theorem step_data (gathered : Event) (value : List Char) :
    step gathered ("data: ".toList ++ value)
      = ({ gathered with data := gathered.data ++ value ++ ['\n'] }, none) := by
  have label : "data: ".toList = ['d', 'a', 't', 'a', ':', ' '] := by decide
  rw [label]
  rfl

/-- A piece sends its event and nothing else, and leaves nothing behind for the next one. -/
theorem eventsFrom_lines (piece : StreamChunk) (later : List (List Char)) :
    eventsFrom .empty (piece.lines ++ later)
      = (piece.update?.map ViewUpdate.event).toList ++ eventsFrom .empty later := by
  -- A comment gathers nothing, and the blank line behind it has nothing to send.
  cases piece with
  | keepAlive => rfl
  | refresh update =>
    have named : step .empty "event: refresh".toList = (⟨"refresh".toList, []⟩, none) := by
      decide
    -- The blank line sends what the two lines before it have gathered.
    have sent : Event.sent? ⟨"refresh".toList, update.toJson.chars ++ ['\n']⟩
        = some update.event :=
      Event.sent?_concat (by decide) _
    simp only [StreamChunk.lines, List.cons_append, List.nil_append, eventsFrom, named, step_data,
      step_blank, sent]
    rfl

/-- The text of a body, its pieces being written line by line. -/
theorem decodeLossy_body (pieces : List StreamChunk) :
    (Utf8.decodeLossy (body pieces)).toList = unlines (pieces.flatMap StreamChunk.lines) := by
  -- The bytes of all pieces are the bytes of one text.
  have whole : body pieces
      = Utf8.encode (String.ofList (pieces.flatMap fun piece => piece.text.toList)) := by
    simp [body, Utf8.encode, List.flatMap_assoc]
  rw [whole, Utf8.decodeLossy_encode, String.toList_ofList, unlines, List.flatMap_assoc]
  exact List.flatMap_congr fun piece _ => text_toList piece

/-- The lines of pieces send the events of their updates, each where the one before it ended. -/
theorem eventsFrom_flatMap_lines (pieces : List StreamChunk) :
    eventsFrom .empty (pieces.flatMap StreamChunk.lines)
      = (pieces.filterMap StreamChunk.update?).map ViewUpdate.event := by
  -- Each piece ends with a blank line, so the next one is read from the start again.
  induction pieces with
  | nil => rfl
  | cons piece pieces ih =>
    rw [List.flatMap_cons, eventsFrom_lines, ih]
    cases piece <;> rfl

/-- A body is received as the events of its updates. -/
theorem received_body (pieces : List StreamChunk) :
    received (body pieces) = (pieces.filterMap StreamChunk.update?).map ViewUpdate.event := by
  -- No line of a piece has a line end inside, so the body is split into just these lines.
  have whole : ∀ line ∈ pieces.flatMap StreamChunk.lines, OneLine line := by
    intro line member
    obtain ⟨piece, -, inside⟩ := List.mem_flatMap.mp member
    exact oneLine_of_mem_lines line inside
  have lines : linesFrom [] (unlines (pieces.flatMap StreamChunk.lines))
      = pieces.flatMap StreamChunk.lines := by
    simpa [linesFrom] using linesFrom_unlines whole []
  -- A body begins with a label or a comment, and never with a byte order mark.
  have unmarked : withoutMark (unlines (pieces.flatMap StreamChunk.lines))
      = unlines (pieces.flatMap StreamChunk.lines) := by
    cases pieces with
    | nil => rfl
    | cons piece later => cases piece <;> rfl
  rw [received, decodeLossy_body, unmarked, lines, eventsFrom_flatMap_lines]

/-- An event tells a page of an update. -/
structure Carries (event : Event) (update : ViewUpdate) : Prop where
  named : event.name = "refresh".toList
  /-- The data is JSON from which the whole update is made again. -/
  parsed : ∃ json, Json.readExactly event.data = .ok json ∧ ViewUpdate.ofJson? json = some update

/-- An update is carried by the event that it is sent as. -/
theorem carries_event (update : ViewUpdate) : Carries update.event update :=
  ⟨rfl, update.toJson, Json.readExactly_chars update.toJson, update.ofJson?_toJson⟩

/-- Pieces of a stream arrive: an event for each update, and an update for each reading set. -/
structure Arrive (page : Page) (display : Display) (sets : List (List Reading))
    (pieces : List StreamChunk) (updates : List ViewUpdate) : Prop where
  carried : List.Forall₂ Carries (received (body pieces)) updates
  shown : List.Forall₂ (Refresh.Shows page display) sets updates

end EventStream

end RoomAir
