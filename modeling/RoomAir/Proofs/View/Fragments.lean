import RoomAir.Proofs.Json.Numbers
import RoomAir.Proofs.Projection.Newest
import RoomAir.Proofs.Text.Markup
import RoomAir.Proofs.Traversal
import RoomAir.View.Fragment
import RoomAir.View.Page

/-! The fragments as markup: what they are written from is read back, whatever rooms are called. -/

namespace RoomAir.Fragment

open Markup

/-! ## Values that are written as they are -/

/-- Colours are written without quotes. -/
theorem quote_notMem_color (severity : Severity) : '"' ∉ severity.color.toList := by
  -- There are a few colours, and none of them has a quote in it.
  unfold Severity.color Severity.colorOf
  split <;> decide

/-- Angles are written without quotes. -/
theorem quote_notMem_integerChars (value : Int) : '"' ∉ Json.integerChars value :=
  fun member => absurd (Json.isNumberChar_of_mem_integerChars member) (by decide)

/-- A number that is shown has no marks of markup in it. -/
theorem notMem_display {mark : Char} (other : ¬IsNumberChar mark) (x : Double) :
    mark ∉ x.display.toList :=
  fun member => other (Json.isNumberChar_of_mem_display member)

/-- Neither has a metric, or the dash in its place. -/
theorem notMem_metric {mark : Char} (other : ¬IsNumberChar mark) (noDash : mark ≠ '–')
    (value : Option Double) : mark ∉ (metric value).toList := by
  -- The dash is the only character that a number could not have.
  cases value with
  | none =>
    have dash : "–".toList = ['–'] := by decide
    rw [metric, dash, List.mem_singleton]
    exact noDash
  | some value => exact notMem_display other value

/-! ## Cards -/

/-- What is inside of a card. -/
def cardContent (gauge : Gauge) : Markup :=
  text "\n  "
    ++ tag "a" [("href", some (Html.escape (detailsLink gauge.room))),
        ("class", some "card-link")] (text "\n    "
      ++ tag "div" [("class", some "gauge-container")] (text "\n      "
        ++ tag "div" [("class", some "gauge")] .empty ++ text "\n      "
        ++ tag "div" [("class", some "needle"),
          ("style", some ("transform: rotate("
            ++ String.ofList (Json.integerChars gauge.severity.rotation) ++ "deg);"))] .empty
        ++ text "\n      "
        ++ tag "div" [("class", some "gauge-center")] (text "\n        "
          ++ tag "div" [("class", some "gauge-label")] (text (Html.escape gauge.room))
          ++ text "\n        "
          ++ tag "div" [("class", some "gauge-value"),
              ("style", some ("color: " ++ gauge.severity.color))]
            (text (gauge.aqi.display ++ " AQI"))
          ++ text "\n        "
          ++ tag "div" [("class", some "gauge-subvalue")]
            (text (metric gauge.temperature ++ " °C"))
          ++ text "\n      ")
        ++ text "\n    ")
      ++ text "\n  ")
    ++ text "\n"

/-- The markup of a card. -/
def cardMarkup (gauge : Gauge) : Markup :=
  tag "div" [("class", some "card fade-in")] (cardContent gauge) ++ text "\n"

/-- A card is written as its markup. -/
theorem writes_gaugeCard (gauge : Gauge) : (cardMarkup gauge).Writes (gaugeCard gauge) where
  chars := by
    unfold gaugeCard cardMarkup cardContent
    simp only [String.toList_append, chars_empty, chars_append, chars_tag, chars_text,
      attributeChars, List.flatMap_cons, List.flatMap_nil, List.append_assoc, List.cons_append,
      List.nil_append]
    -- Between the values both sides are known texts, which are compared character by character.
    repeat rw [String.toList_ofList]
    simp only [List.cons_append, List.nil_append]
  plain := by
    -- The room is escaped in both places, and the other values have no marks in them.
    have link : '"' ∉ (Html.escape (detailsLink gauge.room)).toList :=
      Html.notMem_escape (by decide) _
    have label : '<' ∉ (Html.escape gauge.room).toList := Html.notMem_escape (by decide) _
    have angle := quote_notMem_integerChars gauge.severity.rotation
    have colour := quote_notMem_color gauge.severity
    have index : '<' ∉ gauge.aqi.display.toList := notMem_display (by decide) _
    have temperature : '<' ∉ (metric gauge.temperature).toList :=
      notMem_metric (by decide) (by decide) _
    simp [cardMarkup, cardContent, link, label, angle, colour, index, temperature, IsPlain]
    decide

/-- The cards of an overview are written as the markup of each. -/
theorem writes_roomCards (overview : Overview) :
    (join (overview.gauges.map cardMarkup)).Writes (roomCards overview) :=
  .join fun gauge _ => writes_gaugeCard gauge

/-- An element is the card of a gauge: it links to the room's details and is labelled with it. -/
structure IsCard (gauge : Gauge) (card : Element) : Prop where
  name : card.name = "div"
  appearance : card.attribute? "class" = some "card fade-in"
  link : (card.content.named "a").map (·.attribute? "href") = [some (detailsLink gauge.room)]
  label : (card.content.ofClass "gauge-label").map Element.shown = [gauge.room]

/-- The element of a card. -/
def cardElement (gauge : Gauge) : Element :=
  ⟨"div", [("class", some "card fade-in")], cardContent gauge⟩

/-- The room of a gauge is read from its card in both places, each of them escaped once. -/
theorem isCard_cardElement (gauge : Gauge) : IsCard gauge (cardElement gauge) := by
  -- There is one link in a card, and only one element is of the class of labels.
  obtain ⟨content, link⟩ : ∃ content, (cardContent gauge).named "a"
      = [⟨"a", [("href", some (Html.escape (detailsLink gauge.room))),
          ("class", some "card-link")], content⟩] := by
    simp [cardContent]
  have label : (cardContent gauge).ofClass "gauge-label"
      = [⟨"div", [("class", some "gauge-label")], text (Html.escape gauge.room)⟩] := by
    simp (disch := decide) [cardContent, ofClass, List.filter_cons, Element.attribute?_self,
      Element.attribute?_other, Html.unescape_of_notMem]
  refine ⟨rfl, ?appearance, ?link, ?label⟩
  case appearance => rw [cardElement, Element.attribute?_self, Html.unescape_of_notMem (by decide)]
  case link =>
    rw [cardElement, link, List.map_singleton, Element.attribute?_self, Html.unescape_escape]
  case label => rw [cardElement, label, List.map_singleton, Element.shown_escape]

/-- Gauges that show the same, whatever their rooms are called. -/
def SameGauge (gauge other : Gauge) : Prop :=
  { other with room := gauge.room } = gauge

/-- The room of a gauge is in its texts and in the target of its link, and nowhere else. -/
theorem outline_cardMarkup {gauge other : Gauge} (same : SameGauge gauge other) :
    (cardMarkup other).outline ["href"] = (cardMarkup gauge).outline ["href"] := by
  -- With the room put back, both cards are made of the same gauge.
  rw [← same]
  simp [cardMarkup, cardContent]

/-- What cards are read as. -/
structure CardsReadBack (overview : Overview) : Prop where
  /-- There is one card for each gauge, in order. -/
  cards : ∃ markup, read? (roomCards overview) = some markup
    ∧ List.Forall₂ IsCard overview.gauges markup.elements
  /-- Other rooms make no difference to the tags, but for the targets of links. -/
  tags : ∀ others : Overview, List.Forall₂ SameGauge overview.gauges others.gauges →
    Markup.tags ["href"] (roomCards overview) = Markup.tags ["href"] (roomCards others)

/-- The cards of any gauges are read back, whether or not the gauges belong to readings. -/
theorem cardsReadBack (overview : Overview) : CardsReadBack overview where
  cards := by
    refine ⟨_, (writes_roomCards overview).read?_eq, ?_⟩
    -- Between the cards there is nothing but line feeds.
    have single (gauge : Gauge) : (cardMarkup gauge).elements = [cardElement gauge] := by
      simp [cardMarkup, cardElement]
    rw [elements_join_map single, List.forall₂_map_right_iff]
    exact List.forall₂_same.mpr fun gauge _ => isCard_cardElement gauge
  tags others same := by
    -- The tags are read off the markup of both, card by card.
    rw [(writes_roomCards overview).tags_eq, (writes_roomCards others).tags_eq]
    refine outline_join_congr _ ?_
    rw [List.forall₂_map_left_iff, List.forall₂_map_right_iff]
    exact same.imp fun _ _ alike => (outline_cardMarkup alike).symm

/-! ## The selector -/

/-- The attributes of an option, whose value is given as it is written. -/
def optionAttributes (value : String) (selected : Bool) : List Attribute :=
  ("value", some value) :: if selected then [("selected", none)] else []

/-- The markup of an option, whose text is given as it is written as well. -/
def optionMarkup (value written : String) (selected : Bool) : Markup :=
  tag "option" (optionAttributes value selected) (text written)

/-- An option is written as its markup. -/
theorem writes_optionElement {value written : String} (noQuote : '"' ∉ value.toList)
    (noBracket : '<' ∉ written.toList) (selected : Bool) :
    (optionMarkup value written selected).Writes (optionElement value written selected) where
  chars := by
    unfold optionElement optionMarkup optionAttributes
    -- The option is selected or not, and differs in one attribute.
    cases selected <;>
    · simp only [String.toList_append, chars_tag, chars_text, attributeChars, List.flatMap_cons,
        List.flatMap_nil, List.append_assoc, List.cons_append, List.nil_append, if_true, if_false,
        Bool.false_eq_true]
      repeat rw [String.toList_ofList]
      simp only [List.cons_append, List.nil_append]
  plain := by
    cases selected <;>
    · simp only [optionMarkup, optionAttributes, isPlain_tag, isPlain_text, List.forall_mem_cons,
        if_true, if_false, Bool.false_eq_true, isPlainAttribute_some, isPlainAttribute_none,
        noQuote, noBracket]
      decide

/-- The markup of the option of a room. -/
def roomOptionMarkup (filter : RoomFilter) (room : String) : Markup :=
  optionMarkup (Html.escape room) (Html.escape room) (filter == .room room)

/-- The option of a room is written as its markup. -/
theorem writes_roomOption (filter : RoomFilter) (room : String) :
    (roomOptionMarkup filter room).Writes (roomOption room (filter == .room room)) :=
  writes_optionElement (Html.notMem_escape (by decide) _) (Html.notMem_escape (by decide) _) _

/-- The markup of the selector. -/
def selectorMarkup (details : Details) : Markup :=
  tag "select" [("id", some "roomSelect"),
    ("onchange", some "window.location.search = '?room=' + encodeURIComponent(this.value)")]
    (optionMarkup "all" "All Rooms" (details.filter == .all)
      ++ join ((roomChoices details).map (roomOptionMarkup details.filter)))

/-- The selector is written as its markup. -/
theorem writes_roomSelector (details : Details) :
    (selectorMarkup details).Writes (roomSelector details) := by
  have first : (optionMarkup "all" "All Rooms" (details.filter == .all)).Writes
      (optionElement RoomFilter.allWord "All Rooms" (details.filter == .all)) :=
    writes_optionElement (by decide) (by decide) _
  -- In every other option the room stands twice, escaped both times.
  have rooms : (join ((roomChoices details).map (roomOptionMarkup details.filter))).Writes
      (String.join ((roomChoices details).map fun room =>
        roomOption room (details.filter == .room room))) :=
    .join fun room _ => writes_roomOption details.filter room
  -- The first option is written like the others, though nothing in it needs to be escaped.
  constructor
  · unfold roomSelector selectorMarkup
    simp only [String.toList_append, chars_append, chars_tag, attributeChars, List.flatMap_cons,
      List.flatMap_nil, List.append_assoc, List.cons_append, List.nil_append, first.chars,
      rooms.chars]
    repeat rw [String.toList_ofList]
    simp only [List.cons_append, List.nil_append]
  · simp only [selectorMarkup, isPlain_tag, isPlain_append, first.plain, rooms.plain]
    decide

/-- An option that shows a text and stands for a value. -/
structure IsOption (value shown : String) (option : Element) : Prop where
  name : option.name = "option"
  value : option.attribute? "value" = some value
  shown : option.shown = shown

/-- The element of an option. -/
def optionTag (value written : String) (selected : Bool) : Element :=
  ⟨"option", optionAttributes value selected, text written⟩

/-- An option stands for its value and shows its text, both of them with entities undone. -/
theorem isOption_optionTag (value shown : String) (selected : Bool) :
    IsOption value shown (optionTag (Html.escape value) (Html.escape shown) selected) where
  name := rfl
  value := by rw [optionTag, optionAttributes, Element.attribute?_self, Html.unescape_escape]
  shown := Element.shown_escape ..

/-- The options of a selector: that of all rooms, and then that of each room. -/
def optionTags (details : Details) : List Element :=
  optionTag "all" "All Rooms" (details.filter == .all)
    :: (roomChoices details).map fun room =>
      optionTag (Html.escape room) (Html.escape room) (details.filter == .room room)

/-- The selector is read as one element with these options in it. -/
theorem exists_selector (details : Details) :
    ∃ markup select, read? (roomSelector details) = some markup
      ∧ markup.elements = [select] ∧ select.name = "select"
      ∧ select.content.elements = optionTags details := by
  refine ⟨_, _, (writes_roomSelector details).read?_eq, elements_tag .., rfl, ?_⟩
  -- Each option is one element, and there is nothing between them.
  have single (room : String) : (roomOptionMarkup details.filter room).elements
      = [optionTag (Html.escape room) (Html.escape room) (details.filter == .room room)] :=
    elements_tag ..
  rw [elements_append, elements_join_map single, optionMarkup, elements_tag,
    List.singleton_append]
  rfl

/-- What the selector is read as. -/
structure SelectorReadsBack (details : Details) : Prop where
  /-- The options are that of all rooms and then that of each room, in order. -/
  options : ∃ markup select, read? (roomSelector details) = some markup
    ∧ markup.elements = [select] ∧ select.name = "select"
    ∧ List.Forall₂ (fun choice => IsOption choice.1 choice.2)
        (("all", "All Rooms") :: (roomChoices details).map fun room => (room, room))
        select.content.elements
  /-- Other rooms make no difference to the tags, but for the values of options. -/
  tags : ∀ others : Details, (details.filter == .all) = (others.filter == .all) →
    List.Forall₂ (fun room other => (details.filter == .room room) = (others.filter == .room other))
      (roomChoices details) (roomChoices others) →
    Markup.tags ["value"] (roomSelector details) = Markup.tags ["value"] (roomSelector others)

/-- The selector of any details is read back. -/
theorem selectorReadsBack (details : Details) : SelectorReadsBack details where
  options := by
    obtain ⟨markup, select, read, single, name, options⟩ := exists_selector details
    refine ⟨markup, select, read, single, name, options ▸ ?_⟩
    -- The option of all rooms comes first, and is its own escaped form.
    refine .cons (isOption_optionTag "all" "All Rooms" _) ?_
    rw [List.forall₂_map_left_iff, List.forall₂_map_right_iff]
    exact List.forall₂_same.mpr fun room _ => isOption_optionTag room room _
  tags others all same := by
    rw [(writes_roomSelector details).tags_eq, (writes_roomSelector others).tags_eq]
    -- Whether an option is selected is all that its tag depends on.
    have rooms : (join ((roomChoices details).map (roomOptionMarkup details.filter))).outline
          ["value"]
        = (join ((roomChoices others).map (roomOptionMarkup others.filter))).outline ["value"] := by
      -- An option of a room shows its room in its value and in its text, and neither counts as a
      -- tag.
      refine outline_join_congr _ ?_
      rw [List.forall₂_map_left_iff, List.forall₂_map_right_iff]
      refine same.imp fun room other alike => ?_
      rw [roomOptionMarkup, roomOptionMarkup, alike]
      simp [optionMarkup, optionAttributes]
    simp only [selectorMarkup, outline_tag, outline_append, all, rooms]

/-! ## The table -/

/-- The markup of a cell, indented on a line of its own. -/
def cellMarkup (attributes : List Attribute) (written : String) : Markup :=
  text "\n  " ++ tag "td" attributes (text written)

/-- What is inside of a row, whose time is given as it is written. -/
def rowContent (time : String) (reading : Reading) : Markup :=
  cellMarkup [] time
    ++ cellMarkup [] (Html.escape reading.room)
    ++ cellMarkup [("style", some ("color: " ++ (Severity.ofAqi reading.aqi).color))]
      reading.aqi.display
    ++ cellMarkup [] (metric reading.temperature)
    ++ cellMarkup [] (metric reading.co2)
    ++ cellMarkup [] (metric reading.humidity)
    ++ cellMarkup [] (metric reading.tvoc)
    ++ text "\n"

/-- The markup of a row. -/
def rowMarkup (time : String) (reading : Reading) : Markup :=
  tag "tr" [] (rowContent time reading) ++ text "\n"

/-- A row has the characters of its markup, whatever there is in its time. -/
theorem toList_tableRow (time : String) (reading : Reading) :
    (tableRow time reading).toList = (rowMarkup time reading).chars := by
  -- Between the values both sides are known texts.
  unfold tableRow rowMarkup rowContent cellMarkup
  simp only [String.toList_append, chars_append, chars_tag, chars_text, attributeChars,
    List.flatMap_cons, List.flatMap_nil, List.append_assoc, List.cons_append, List.nil_append]
  repeat rw [String.toList_ofList]
  simp only [List.cons_append, List.nil_append]

/-- A row is written as its markup. -/
theorem writes_tableRow {time : String} (noBracket : '<' ∉ time.toList) (reading : Reading) :
    (rowMarkup time reading).Writes (tableRow time reading) where
  chars := toList_tableRow time reading
  plain := by
    -- Only the room and the time could have brackets in them: one is escaped, the other has none.
    have room : '<' ∉ (Html.escape reading.room).toList := Html.notMem_escape (by decide) _
    have colour := quote_notMem_color (Severity.ofAqi reading.aqi)
    have index : '<' ∉ reading.aqi.display.toList := notMem_display (by decide) _
    have metrics (value : Option Double) : '<' ∉ (metric value).toList :=
      notMem_metric (by decide) (by decide) value
    simp [rowMarkup, rowContent, cellMarkup, noBracket, room, colour, index, metrics]
    decide

/-- What the cells of a row show, with a dash where there is no value. -/
def cellTexts (time : String) (reading : Reading) : List String :=
  [time, reading.room, reading.aqi.display]
    ++ [reading.temperature, reading.co2, reading.humidity, reading.tvoc].map fun
      | some value => value.display
      | none => "–"

/-- The renderer shows a metric in the same way, one cell at a time. -/
theorem cellTexts_eq (time : String) (reading : Reading) :
    cellTexts time reading
      = [time, reading.room, reading.aqi.display, metric reading.temperature, metric reading.co2,
        metric reading.humidity, metric reading.tvoc] := by
  -- Both ways to show a metric agree on a value and on none.
  have same : (fun | some value => Double.display value | none => "–") = metric := by
    funext value
    cases value <;> rfl
  rw [cellTexts, same]
  rfl

/-- An element is the row of a reading: it consists of seven cells. -/
structure IsRow (time : String) (reading : Reading) (row : Element) : Prop where
  name : row.name = "tr"
  cells : row.content.elements.map Element.name = List.replicate 7 "td"
  texts : row.content.elements.map Element.shown = cellTexts time reading

/-- The element of a row. -/
def rowElement (time : String) (reading : Reading) : Element :=
  ⟨"tr", [], rowContent time reading⟩

/-- The cells of a row are read, with the entities in its time and in the name of its room. -/
theorem isRow_rowElement (time : String) (reading : Reading) :
    IsRow (Html.unescape time) reading (rowElement time reading) where
  name := rfl
  cells := by
    simp [rowElement, rowContent, cellMarkup, List.replicate]
  texts := by
    -- Numbers and the dash are shown without entities.
    have index : '&' ∉ reading.aqi.display.toList := notMem_display (by decide) _
    have metrics (value : Option Double) : '&' ∉ (metric value).toList :=
      notMem_metric (by decide) (by decide) value
    -- Only the time and the room can have entities in them.
    rw [cellTexts_eq]
    simp [rowElement, rowContent, cellMarkup, Element.shown_text, Html.unescape_escape,
      Html.unescape_of_notMem, index, metrics]

/-- The markup of the head of the table. -/
def headMarkup : Markup :=
  tag "thead" [] (text "\n        "
    ++ tag "tr" [] (join (["Time", "Room", "AQI", "Temp (°C)", "CO₂ (ppm)", "Humidity (%)",
        "TVOC (ppb)"].map fun column => text "\n          " ++ tag "th" [] (text column))
      ++ text "\n        ")
    ++ text "\n      ")

/-- What is inside of the body of a table with rows in it. -/
def bodyContent (rows : Markup) : Markup :=
  text "\n" ++ rows ++ text "      "

/-- The markup of a table. -/
def tableMarkup (rows : Markup) : Markup :=
  tag "div" [("class", some "chart-container")] (text "\n  "
    ++ tag "div" [("class", some "table-responsive")] (text "\n    "
      ++ tag "table" [] (text "\n      " ++ headMarkup ++ text "\n      "
        ++ tag "tbody" [] (bodyContent rows)
        ++ text "\n    ")
      ++ text "\n  ")
    ++ text "\n") ++ text "\n"

/-- A table has the characters of the markup around that of its rows. -/
theorem toList_table {rows : Markup} {written : String} (same : written.toList = rows.chars) :
    (tableHead ++ written ++ tableFoot).toList = (tableMarkup rows).chars := by
  -- Around the rows both sides are known texts.
  unfold tableHead tableFoot tableMarkup headMarkup bodyContent
  simp only [String.toList_append, chars_append, chars_tag, chars_text, chars_join,
    attributeChars, List.map_cons, List.map_nil, List.flatMap_cons, List.flatMap_nil,
    List.append_assoc, List.cons_append, List.nil_append, same]
  repeat rw [String.toList_ofList]
  simp only [List.cons_append, List.nil_append]

/-- A table is written as the markup around that of its rows. -/
theorem writes_table {rows : Markup} {written : String} (writes : rows.Writes written) :
    (tableMarkup rows).Writes (tableHead ++ written ++ tableFoot) where
  chars := toList_table writes.chars
  plain := by
    simp [tableMarkup, headMarkup, bodyContent, writes.plain]
    decide

/-- The text of a time in a format, if it can be rendered. -/
def timeText (format : String) (reading : Reading) : String :=
  ((TimePattern.ofText format).render? reading.time).getD ""

/-- A format renders the times of readings without any mark of markup. -/
def RendersPlainly (format : String) (rows : List Reading) : Prop :=
  ∀ reading ∈ rows, ∃ time, (TimePattern.ofText format).render? reading.time = some time
    ∧ ∀ mark ∈ ['&', '<', '>', '"', '\''], mark ∉ time.toList

/-- Readings that show the same, whatever their rooms are called. -/
def SameReading (reading other : Reading) : Prop :=
  { other with room := reading.room } = reading

/-- What the table is read as. -/
structure TableReadsBack (format : String) (rows : List Reading) : Prop where
  /-- There is a table with one body, and in the body one row for each reading, in order. -/
  readings : ∃ table markup body, dataTable? rows format = some table ∧ read? table = some markup
    ∧ markup.named "tbody" = [body]
    ∧ List.Forall₂ (fun reading row => ∃ time,
        (TimePattern.ofText format).render? reading.time = some time ∧ IsRow time reading row)
      rows body.content.elements
  /-- Other rooms make no difference to the tags. -/
  tags : ∀ others, List.Forall₂ SameReading rows others →
    (dataTable? rows format).map (Markup.tags []) = (dataTable? others format).map (Markup.tags [])

section Table

variable {format : String} {rows : List Reading}

/-- The markup of all rows. -/
def rowsMarkup (format : String) (rows : List Reading) : Markup :=
  join (rows.map fun reading => rowMarkup (timeText format reading) reading)

/-- A time that is rendered plainly has a text. -/
theorem RendersPlainly.render?_eq (renders : RendersPlainly format rows) {reading : Reading}
    (member : reading ∈ rows) :
    (TimePattern.ofText format).render? reading.time = some (timeText format reading) := by
  obtain ⟨time, rendered, -⟩ := renders reading member
  rw [timeText, rendered, Option.getD_some]

/-- The text of a time that is rendered plainly has no mark of markup in it. -/
theorem RendersPlainly.notMem_timeText (renders : RendersPlainly format rows) {reading : Reading}
    (member : reading ∈ rows) {mark : Char} (special : mark ∈ ['&', '<', '>', '"', '\'']) :
    mark ∉ (timeText format reading).toList := by
  obtain ⟨time, rendered, clean⟩ := renders reading member
  rw [timeText, rendered, Option.getD_some]
  exact clean mark special

/-- There is a table if all times have a text, and then its rows are written with these texts. -/
theorem dataTable?_eq_some_iff {table : String} :
    dataTable? rows format = some table
      ↔ (∀ reading ∈ rows, (TimePattern.ofText format).render? reading.time
          = some (timeText format reading))
        ∧ table = tableHead
          ++ String.join (rows.map fun reading => tableRow (timeText format reading) reading)
          ++ tableFoot := by
  -- With a text for each time no row can fail, and the table is put together from all rows.
  have written (rendered : ∀ reading ∈ rows, (TimePattern.ofText format).render? reading.time
        = some (timeText format reading)) :
      dataTable? rows format = some (tableHead
        ++ String.join (rows.map fun reading => tableRow (timeText format reading) reading)
        ++ tableFoot) := by
    have each : rows.mapM (fun reading =>
          ((TimePattern.ofText format).render? reading.time).map (tableRow · reading))
        = some (rows.map fun reading => tableRow (timeText format reading) reading) := by
      refine mapM_eq_some ?_
      rw [List.map_map]
      refine List.map_congr_left fun reading member => ?_
      rw [rendered reading member]
      rfl
    rw [dataTable?, each, Option.map_some]
  constructor
  · intro found
    have rendered : ∀ reading ∈ rows, (TimePattern.ofText format).render? reading.time
        = some (timeText format reading) := by
      -- Without a text for each time there would be no table.
      obtain ⟨cells, mapped, -⟩ := Option.map_eq_some_iff.mp found
      have all := isSome_mapM.mp (Option.isSome_of_mem mapped)
      intro reading member
      have one := all reading member
      rw [Option.isSome_map] at one
      obtain ⟨time, known⟩ := Option.isSome_iff_exists.mp one
      rw [timeText, known, Option.getD_some]
    exact ⟨rendered, Option.some.inj (found.symm.trans (written rendered))⟩
  · rintro ⟨rendered, rfl⟩
    exact written rendered

/-- A table that is there has the characters of its markup, whatever there is in its times. -/
theorem toList_dataTable {table : String} (found : dataTable? rows format = some table) :
    table.toList = (tableMarkup (rowsMarkup format rows)).chars := by
  obtain ⟨-, rfl⟩ := dataTable?_eq_some_iff.mp found
  -- Row by row the characters are those of the markup.
  refine toList_table ?_
  rw [rowsMarkup, chars_join, List.flatMap_map, String.toList_join, List.flatMap_map]
  exact List.flatMap_congr fun reading _ => toList_tableRow ..

/-- Where all times are rendered plainly, there is a table, and it is written as its markup. -/
theorem RendersPlainly.exists_table (renders : RendersPlainly format rows) :
    ∃ table, dataTable? rows format = some table
      ∧ (tableMarkup (rowsMarkup format rows)).Writes table := by
  -- No time has an opening bracket in it, so every row is written as its markup.
  refine ⟨_, dataTable?_eq_some_iff.mpr ⟨fun reading => renders.render?_eq, rfl⟩,
    writes_table (.join fun reading member => ?_)⟩
  exact writes_tableRow (renders.notMem_timeText member (by decide)) reading

/-- The body of a table is the only one in it. -/
theorem named_tableMarkup (format : String) (rows : List Reading) :
    (tableMarkup (rowsMarkup format rows)).named "tbody"
      = [⟨"tbody", [], bodyContent (rowsMarkup format rows)⟩] := by
  -- Neither the head nor any of the rows has a body in it.
  have head : headMarkup.named "tbody" = [] := by
    simp [headMarkup, named_join]
  have body : (bodyContent (rowsMarkup format rows)).named "tbody" = [] := by
    have row (time : String) (reading : Reading) : (rowMarkup time reading).named "tbody" = [] := by
      simp [rowMarkup, rowContent, cellMarkup]
    simp [bodyContent, rowsMarkup, named_join, List.flatMap_map, row]
  simp [tableMarkup, head, body]

/-- The body of a table holds the rows, one after the other, and white space around them. -/
theorem elements_bodyContent (format : String) (rows : List Reading) :
    (bodyContent (rowsMarkup format rows)).elements
      = rows.map fun reading => rowElement (timeText format reading) reading := by
  -- A row is one element, and the blanks around it are none.
  have single (reading : Reading) : (rowMarkup (timeText format reading) reading).elements
      = [rowElement (timeText format reading) reading] := by
    simp [rowMarkup, rowElement]
  rw [bodyContent, elements_append, elements_append, elements_text, elements_text,
    List.nil_append, List.append_nil, rowsMarkup, elements_join_map single]

/-- Rows stand for the same tags whatever the rooms are called and the format of times is. -/
theorem outline_rowsMarkup (hidden : List String) (format other : String) {others : List Reading}
    (same : List.Forall₂ SameReading rows others) :
    (rowsMarkup format rows).outline hidden = (rowsMarkup other others).outline hidden := by
  refine outline_join_congr _ ?_
  rw [List.forall₂_map_left_iff, List.forall₂_map_right_iff]
  refine same.imp fun reading other alike => ?_
  -- Of a reading the tags show the colour of the index only.
  rw [← alike]
  simp [rowMarkup, rowContent, cellMarkup]

/-- Readings that show the same are rendered plainly by the same formats. -/
theorem RendersPlainly.of_same {others : List Reading} (renders : RendersPlainly format rows)
    (same : List.Forall₂ SameReading rows others) : RendersPlainly format others := by
  -- What is rendered depends on the times, which are the same.
  have times : others.map Reading.time = rows.map Reading.time := by
    -- Place by place the two readings differ in their rooms only.
    induction same with
    | nil => rfl
    | cons first _ ih =>
      rw [List.map_cons, List.map_cons, ih fun reading member =>
        renders reading (List.mem_cons_of_mem _ member), ← first]
  intro other member
  obtain ⟨reading, found, sameTime⟩ := List.mem_map.mp (times ▸ List.mem_map_of_mem member)
  exact sameTime ▸ renders reading found

/-- The table of any readings is read back, if their times are rendered plainly. -/
theorem RendersPlainly.tableReadsBack (renders : RendersPlainly format rows) :
    TableReadsBack format rows where
  readings := by
    obtain ⟨table, found, writes⟩ := renders.exists_table
    refine ⟨table, _, _, found, writes.read?_eq, named_tableMarkup format rows, ?_⟩
    rw [elements_bodyContent, List.forall₂_map_right_iff, List.forall₂_same]
    refine fun reading member => ⟨_, renders.render?_eq member, ?_⟩
    -- A time that is rendered plainly has no entities in it.
    have plain := Html.unescape_of_notMem (renders.notMem_timeText member (by decide))
    have row := isRow_rowElement (timeText format reading) reading
    rwa [plain] at row
  tags others same := by
    obtain ⟨table, found, writes⟩ := renders.exists_table
    obtain ⟨other, foundOther, writesOther⟩ := (renders.of_same same).exists_table
    -- Both tables are read back, so their tags are the outlines of their markup.
    rw [found, foundOther, Option.map_some, Option.map_some, writes.tags_eq, writesOther.tags_eq]
    simp [tableMarkup, bodyContent, outline_rowsMarkup [] format format same]

end Table

/--
The fragments of a reading set are read back as what they show, whatever its rooms are called.

Beyond the texts that name it, a room's name decides on no tag, and on no attribute but the target
of its link and the value of its option.
-/
theorem fragments_read_back (readings : List Reading) (filter : RoomFilter) :
    CardsReadBack (Overview.ofReadings readings)
      ∧ SelectorReadsBack (Details.ofReadings readings filter)
      ∧ ∀ format, RendersPlainly format (Details.ofReadings readings filter).rows →
        TableReadsBack format (Details.ofReadings readings filter).rows :=
  ⟨cardsReadBack _, selectorReadsBack _, fun _ renders => renders.tableReadsBack⟩

/-- The leap day's reading of a room with a name full of marks is read back. -/
theorem fragments_read_back_marks :
    let readings : List Reading :=
      [⟨"<b id=\"x\">&amp;'", ⟨28487280, 0, 0⟩, .zero false, none, none, none, none⟩]
    CardsReadBack (Overview.ofReadings readings)
      ∧ SelectorReadsBack (Details.ofReadings readings .all)
      ∧ TableReadsBack Display.standard.timeFormat (Details.ofReadings readings .all).rows := by
  intro readings
  obtain ⟨cards, selector, table⟩ := fragments_read_back readings .all
  refine ⟨cards, selector, table Display.standard.timeFormat fun reading member => ?_⟩
  -- There is one reading, whose time is written in digits, strokes and colons.
  obtain ⟨found, -⟩ := Projection.mem_newestFirst.mp member
  rw [List.mem_singleton.mp found]
  exact ⟨"29/02/2024, 20:00:00", by decide +kernel, forall_mem_of_all (by decide)⟩

end RoomAir.Fragment
