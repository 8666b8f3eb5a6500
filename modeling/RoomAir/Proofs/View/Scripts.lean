import RoomAir.Proofs.Dashboard.Strings
import RoomAir.Proofs.Http.HandOff
import RoomAir.Proofs.Json.Locality.Strings
import RoomAir.Proofs.Text.Html
import RoomAir.Proofs.Text.ScriptData

/-! The script elements of a page, and the end tags that close them. -/

namespace RoomAir

open ScriptData (Hides Tagless Unended closing)

namespace Shell

/-! ## Elements -/

/-- A script element of a page. -/
structure ScriptElement where
  opening : String
  content : String

/-- The element as it is written, with its own end tag. -/
def ScriptElement.text (element : ScriptElement) : String :=
  element.opening ++ (element.content ++ "</script>")

/-- An element that loads a script. -/
def libraryElement (url : String) : ScriptElement :=
  ⟨"<script src=\"" ++ Html.escape url ++ "\">", ""⟩

/-- The element that holds the charts of an update. -/
def chartsElement (update : ViewUpdate) : ScriptElement :=
  ⟨chartsMark, update.chartsJson.scriptText⟩

/-- The element that mounts the charts and listens to the events of a page. -/
def eventsElement (page : Page) (update : ViewUpdate) : ScriptElement :=
  ⟨"<script>", block (eventsLine page update :: "" :: scriptLines)⟩

/-- The script elements of a page that shows an update, in order. -/
def elements (display : Display) (page : Page) (update : ViewUpdate) : List ScriptElement :=
  [libraryElement display.chartScript, libraryElement display.adapterScript,
   chartsElement update, eventsElement page update]

/-- What a page has after the end tag of an element, the elements that come later included. -/
def afterElement (later : List ScriptElement) : String :=
  "\n" ++ ofLines (later.map ScriptElement.text ++ ["</body>", "</html>"])

/-- The scripts of a page are its elements, one after the other. -/
theorem scripts_eq (display : Display) (page : Page) (update : ViewUpdate) :
    scripts display page update
      = ofLines ((elements display page update).map ScriptElement.text) := by
  -- The lines of the last element are written one by one, here they are one text.
  simp only [scripts, elements, libraryLines, libraryElement, chartsElement, eventsElement,
    ScriptElement.text, chartsLine, block, ofLines, List.map_cons, List.map_nil, List.map_append,
    List.cons_append, List.nil_append, String.join_cons, String.join_append, String.join_nil,
    String.append_assoc, String.append_empty, String.empty_append]
  rfl

/-- Where an element stands in a page that shows an update. -/
theorem exists_document {display : Display} {page : Page} {update : ViewUpdate}
    {earlier later : List ScriptElement} {element : ScriptElement}
    (place : elements display page update = earlier ++ element :: later) :
    ∃ before, document display page (some update) = before
      ++ (element.opening ++ (element.content ++ ("</script>" ++ afterElement later))) := by
  -- The head and the main part stand before all elements.
  obtain ⟨head, whole⟩ := exists_layout (documentTitle page) page.slot
    (mainPart page (some update)) (scripts display page update)
  refine ⟨head ++ ofLines (earlier.map ScriptElement.text), ?_⟩
  rw [document, Option.map_some, Option.getD_some, whole, scripts_eq, place]
  simp only [afterElement, ScriptElement.text, ofLines, List.map_append, List.map_cons,
    String.join_append, String.join_cons, String.append_assoc]

/-- The tag of an element ends at the only closing bracket in it. -/
theorem exists_opening_eq {display : Display} {page : Page} {update : ViewUpdate}
    {element : ScriptElement} (member : element ∈ elements display page update) :
    ∃ attributes, element.opening = "<script" ++ attributes ++ ">" ∧ '>' ∉ attributes.toList := by
  -- In the tag of a library stands an address, whose own brackets are escaped.
  have library (url : String) :
      ∃ attributes, (libraryElement url).opening = "<script" ++ attributes ++ ">"
        ∧ '>' ∉ attributes.toList := by
    refine ⟨" src=\"" ++ Html.escape url ++ "\"", ?_, ?_⟩
    · simp only [libraryElement, String.append_assoc]
      rfl
    · rw [String.toList_append, String.toList_append, List.mem_append, List.mem_append, not_or,
        not_or]
      exact ⟨⟨by decide, Html.notMem_escape (by decide) url⟩, by decide⟩
  -- Of the four elements two load a library, and the tags of the others are fixed.
  simp only [elements, List.mem_cons, List.not_mem_nil, or_false] at member
  rcases member with rfl | rfl | rfl | rfl
  · exact library _
  · exact library _
  · exact ⟨" type=\"application/json\" id=\"initialCharts\"", rfl, by decide⟩
  · exact ⟨"", rfl, by decide⟩

/-! ## Contents -/

/-- A text without brackets. -/
def Bracketless (text : List Char) : Prop :=
  ∀ c ∈ text, c ≠ '<' ∧ c ≠ '>'

instance (text : List Char) : Decidable (Bracketless text) :=
  List.decidableBAll _ _

/-- Texts without brackets can be put together. -/
theorem bracketless_append {first second : List Char} (front : Bracketless first)
    (back : Bracketless second) : Bracketless (first ++ second) :=
  List.forall_mem_append.mpr ⟨front, back⟩

/-- An encoded value has no brackets in it. -/
theorem bracketless_encode (value : String) : Bracketless (Form.encode value).toList := by
  -- There are 256 bytes to look at.
  have all : ∀ value < 256, Bracketless (Form.encodedByte (UInt8.ofNat value)) := by
    decide +kernel
  intro c member
  rw [Form.toList_encode] at member
  obtain ⟨byte, -, inside⟩ := List.mem_flatMap.mp member
  exact all byte.toNat byte.toNat_lt c (by rwa [UInt8.ofNat_toNat])

/-- The digits of a number are no brackets. -/
theorem bracketless_toString (value : Nat) : Bracketless (toString value).toList := by
  intro c member
  have digit : c.isDigit = true := isDigit_of_mem_toDigits (by simpa using member)
  constructor <;> rintro rfl <;> cases digit

/-- The address of a page's events has no brackets in it. -/
theorem bracketless_eventsUrl (page : Page) {update : ViewUpdate} {chart : ChartUpdate}
    (single : update.charts = [chart]) : Bracketless (eventsUrl page update).toList := by
  -- Either address is made of fixed parts, of digits and of an encoded word.
  cases page with
  | overview =>
    rw [eventsUrl_overview single]
    simp only [String.toList_append]
    exact bracketless_append (by decide) (bracketless_append (by decide) (bracketless_toString _))
  | details filter =>
    rw [eventsUrl_details filter single]
    simp only [String.toList_append]
    refine bracketless_append (by decide) (bracketless_append ?_ ?_)
    · exact bracketless_append (bracketless_append (by decide) (bracketless_encode _)) (by decide)
    · exact bracketless_append (by decide) (bracketless_toString _)

/-- A text without brackets has none in the text of its JSON string. -/
theorem bracketless_scriptText {text : String} (plain : Bracketless text.toList) :
    Bracketless (Json.string text).scriptText.toList := by
  -- Escaping brings in backslashes, letters and digits, but no brackets.
  have escaped : Bracketless (text.toList.flatMap Json.escapeChar) := by
    intro c member
    obtain ⟨original, inside, member⟩ := List.mem_flatMap.mp member
    rcases Json.eq_or_mem_of_mem_escapeChar member with rfl | mark
    · exact plain c inside
    · exact (show Bracketless Json.escapeMarks by decide) c mark
  -- A quote on either side is no bracket either.
  have quoted : Bracketless (Json.quotedChars text) :=
    bracketless_append (List.forall_mem_cons.mpr ⟨by decide, escaped⟩) (by decide)
  rw [Json.scriptText, String.toList_ofList]
  exact (Json.StrokeEscaped.breakClosingTags _).forall_mem (by decide) quoted

/-- The statement that names the events of a page has no brackets in it. -/
theorem bracketless_eventsLine (page : Page) {update : ViewUpdate} {chart : ChartUpdate}
    (single : update.charts = [chart]) : Bracketless (eventsLine page update).toList := by
  rw [eventsLine, String.toList_append, String.toList_append]
  exact bracketless_append (by decide) (bracketless_append
    (bracketless_scriptText (bracketless_eventsUrl page single)) (by decide))

/-- What stands in lines without a line feed in it stands in one of them. -/
theorem exists_infix_line {pattern : List Char} (nonempty : pattern ≠ [])
    (unbroken : '\n' ∉ pattern) {texts : List String}
    (inside : pattern <:+: (ofLines texts).toList) : ∃ text ∈ texts, pattern <:+: text.toList := by
  -- What has no line feed in it stands in the first line or behind its end.
  induction texts with
  | nil => exact absurd (List.infix_nil.mp inside) nonempty
  | cons text texts ih =>
    have lines : (ofLines (text :: texts)).toList
        = text.toList ++ '\n' :: (ofLines texts).toList := by
      simp [ofLines]
    rw [lines] at inside
    rcases infix_of_infix_append_cons unbroken inside with first | later
    · exact ⟨text, List.mem_cons_self .., first⟩
    · obtain ⟨line, member, found⟩ := ih later
      exact ⟨line, List.mem_cons_of_mem _ member, found⟩

/-- No line of the page script has an opening bracket in it or ends a comment. -/
theorem scriptLines_plain : ∀ line ∈ ("" :: scriptLines).map String.toList,
    '<' ∉ line ∧ Unended line := by
  simp only [Unended, scriptLines, List.map_cons, List.map_nil, String.toList_append]
  -- Each literal is taken for the list of its characters, without decoding its bytes.
  repeat rw [String.toList_ofList]
  decide +kernel

/-- The statements that mount the charts have no opening bracket and end no comment. -/
theorem eventsElement_plain (page : Page) {update : ViewUpdate} {chart : ChartUpdate}
    (single : update.charts = [chart]) :
    '<' ∉ (eventsElement page update).content.toList
      ∧ Unended (eventsElement page update).content.toList := by
  have content : (eventsElement page update).content
      = ofLines ("" :: eventsLine page update :: "" :: scriptLines) := by
    simp only [eventsElement, block, ofLines, List.map_cons, String.join_cons, String.empty_append]
  -- Both are looked for line by line, and the first line is the only one that depends on the page.
  rw [content, ← List.singleton_infix_iff]
  have plain := bracketless_eventsLine page single
  have known (line : String) (member : line ∈ "" :: scriptLines) :=
    scriptLines_plain line.toList (List.mem_map_of_mem member)
  constructor
  -- A bracket would stand in the empty line, in the address or in one of the known lines.
  · intro inside
    obtain ⟨line, member, found⟩ := exists_infix_line (by decide) (by decide) inside
    rw [List.singleton_infix_iff] at found
    rcases List.mem_cons.mp member with rfl | member
    · cases found
    rcases List.mem_cons.mp member with rfl | member
    · exact (plain _ found).1 rfl
    · exact (known line member).1 found
  · intro inside
    obtain ⟨line, member, found⟩ := exists_infix_line (by decide) (by decide) inside
    rcases List.mem_cons.mp member with rfl | member
    · exact absurd found (by decide)
    rcases List.mem_cons.mp member with rfl | member
    · exact (plain '>' (found.subset (by decide))).2 rfl
    · exact (known line member).2 found

/-! ## Ends -/

/-- No content begins an end tag. -/
theorem tagless_content {display : Display} {page : Page} {update : ViewUpdate}
    {chart : ChartUpdate} (single : update.charts = [chart]) {element : ScriptElement}
    (member : element ∈ elements display page update) :
    Tagless element.content.toList := by
  simp only [elements, List.mem_cons, List.not_mem_nil, or_false] at member
  -- The libraries have no content, the charts are JSON with its tags broken, and the events have no
  -- bracket.
  rcases member with rfl | rfl | rfl | rfl
  · exact ScriptData.tagless_of_notMem nofun
  · exact ScriptData.tagless_of_notMem nofun
  · exact Json.tagless_scriptText _
  · exact ScriptData.tagless_of_notMem (eventsElement_plain page single).1

/-- Only the element of the charts, which is followed by that of the events, can hide a script. -/
theorem eq_of_hides {display : Display} {page : Page} {update : ViewUpdate} {chart : ChartUpdate}
    (single : update.charts = [chart]) {earlier later : List ScriptElement}
    {element : ScriptElement} (place : elements display page update = earlier ++ element :: later)
    (hides : Hides element.content.toList) :
    element = chartsElement update ∧ later = [eventsElement page update] := by
  -- A comment begins with a bracket, and the contents of the other elements have none.
  have bracket : '<' ∈ element.content.toList := hides.opensComment.subset (by decide)
  -- The place of the element tells which of the four it is.
  rcases earlier with _ | ⟨_, _ | ⟨_, _ | ⟨_, _ | ⟨_, earlier⟩⟩⟩⟩ <;>
    simp only [elements, List.nil_append, List.cons_append, List.cons.injEq] at place
  · obtain ⟨rfl, -⟩ := place
    cases bracket
  · obtain ⟨-, rfl, -⟩ := place
    cases bracket
  · obtain ⟨-, -, rfl, rfl⟩ := place
    exact ⟨rfl, rfl⟩
  · obtain ⟨-, -, -, rfl, -⟩ := place
    exact absurd bracket (eventsElement_plain page single).1
  · exact absurd place.2.2.2.2.symm (by simp)

/-- Behind a script that is hidden, no element is closed any more. -/
theorem closing_afterElement (page : Page) {update : ViewUpdate} {chart : ChartUpdate}
    (single : update.charts = [chart]) :
    closing .escaped (afterElement [eventsElement page update]).toList = none := by
  -- The element of the events begins the script anew and ends it, and then the page is over.
  obtain ⟨noBracket, unended⟩ := eventsElement_plain page single
  -- The last element stands between two line feeds and is written like the others.
  have written : afterElement [eventsElement page update]
      = "\n<script>"
        ++ ((eventsElement page update).content ++ ("</script>" ++ afterElement [])) := by
    simp only [afterElement, ScriptElement.text, ofLines, List.map_cons, List.map_nil,
      List.cons_append, List.nil_append, String.join_cons, String.append_assoc]
    rfl
  have closed : closing .escaped (afterElement []).toList = none := by
    decide +kernel
  rw [written, String.toList_append, String.toList_append, String.toList_append]
  exact (ScriptData.closing_nextLine (ScriptData.tagless_of_notMem noBracket) unended _).trans
    closed

/-- How an element ends in a page, with the later elements behind it. -/
structure Ends (page : String) (element : ScriptElement) (later : List ScriptElement) : Prop where
  /-- What follows the element's tag are its content, its end tag and the rest of the page. -/
  stands : ∃ before, page = before
    ++ (element.opening ++ (element.content ++ ("</script>" ++ afterElement later)))
  /-- The tag ends at the only closing bracket in it. -/
  opens : ∃ attributes, element.opening = "<script" ++ attributes ++ ">" ∧ '>' ∉ attributes.toList
  /-- The element is closed by its own end tag, unless its content hides a script. -/
  closes : ¬ Hides element.content.toList →
    closing .data (element.content ++ ("</script>" ++ afterElement later)).toList
      = some ('>' :: (afterElement later).toList)
  /-- Otherwise it is never closed. -/
  hides : Hides element.content.toList →
    closing .data (element.content ++ ("</script>" ++ afterElement later)).toList = none

/-- Every element of a page that shows an update ends in this way. -/
theorem ends_document {display : Display} {page : Page} {update : ViewUpdate} {chart : ChartUpdate}
    (single : update.charts = [chart]) {earlier later : List ScriptElement}
    {element : ScriptElement} (place : elements display page update = earlier ++ element :: later) :
    Ends (document display page (some update)) element later := by
  have member : element ∈ elements display page update := by
    rw [place]
    exact List.mem_append_right _ (List.mem_cons_self ..)
  have text : (element.content ++ ("</script>" ++ afterElement later)).toList
      = element.content.toList ++ (ScriptData.endTag ++ (afterElement later).toList) := by
    rw [String.toList_append, String.toList_append]
    rfl
  -- The content begins no end tag, so the first one is its own unless a script is hidden.
  obtain ⟨shown, hidden⟩ := ScriptData.closing_content (tagless_content single member)
    (afterElement later).toList
  refine ⟨exists_document place, exists_opening_eq member, ?_, ?_⟩
  · intro hides
    rw [text, shown hides]
  · intro hides
    obtain ⟨-, rfl⟩ := eq_of_hides single place hides
    rw [text, hidden hides, closing_afterElement page single]

end Shell

namespace Site

variable {site : Site} {page : Page} {compress : Bool} {readings : List Reading} {answer : Answer}

/--
Every script element of a page is closed by its own end tag, unless its content hides a script.

Only the charts can hide one, and only where a room opens a comment; such an element never ends.
-/
theorem ends_pageAnswer (fetched : site.feed.head.outcome = .ok readings)
    (answered : site.pageAnswer? page compress = some answer) :
    ∃ view update disposals,
      (View.new page site.display).refresh? readings = some (view, update, disposals)
      ∧ answer.response.body = Shell.document site.display page (some update)
      ∧ (∀ earlier element later,
        Shell.elements site.display page update = earlier ++ element :: later →
          Shell.Ends answer.response.body element later)
      ∧ ((∀ reading ∈ readings, Json.Uncommented reading.room.toList) →
        (∀ name, page = .details (.room name) → Json.Uncommented name.toList) →
          ∀ element ∈ Shell.elements site.display page update, ¬ Hides element.content.toList) := by
  obtain ⟨view, update, disposals, refreshed, body, single⟩ := exists_update fetched answered
  refine ⟨view, update, disposals, refreshed, body,
    fun earlier element later place => body ▸ Shell.ends_document single place, ?_⟩
  intro rooms selected element member hides
  obtain ⟨earlier, later, place⟩ := List.append_of_mem member
  obtain ⟨rfl, -⟩ := Shell.eq_of_hides single place hides
  -- The chart of the update is the one that is made of the readings.
  have chart : Json.AllUncommented
      ((View.new page site.display).chart readings).2.1.toJson.strings :=
    ChartUpdate.allUncommented_toJson (Page.allUncommented_config rooms selected)
  have charts : Json.AllUncommented update.chartsJson.strings := by
    rw [ViewUpdate.chartsJson, single, Json.strings, Json.allUncommented_itemStrings]
    exact List.forall_mem_singleton.mpr chart
  exact Json.uncommented_scriptText charts hides.opensComment

/-- A room that is named for tags and for the end of a comment leaves every element closed. -/
theorem ends_pageAnswer_marks :
    let bytes := Utf8.encode
      "[[\"--></script><script>\",\"2024-03-01T10:00:00Z\",42]]"
    let site : Site := ⟨.standard, ⟨"feed", Fetch.ofDocument bytes, []⟩, 0⟩
    ∃ answer update, site.pageAnswer? .overview false = some answer
      ∧ answer.response.body = Shell.document .standard .overview (some update)
      ∧ ∀ earlier element later,
        Shell.elements .standard .overview update = earlier ++ element :: later →
          closing .data (element.content ++ ("</script>" ++ Shell.afterElement later)).toList
            = some ('>' :: (Shell.afterElement later).toList) := by
  intro bytes site
  have decodes : (Document.decode bytes).isOk = true := by decide +kernel
  have plain : (Document.decode bytes).map (fun document =>
      decide (∀ reading ∈ document.readings, Json.Uncommented reading.room.toList)) = .ok true := by
    decide +kernel
  obtain ⟨document, decoded⟩ := Json.exists_of_isOk decodes
  rw [decoded] at plain
  have fetched : site.feed.head.outcome = .ok document.readings := by
    simp only [site, Fetch.ofDocument, decoded]
  obtain ⟨answer, answered⟩ := exists_overviewAnswer fetched false
  obtain ⟨_, update, _, -, body, ends, shown⟩ := ends_pageAnswer fetched answered
  refine ⟨answer, update, answered, body, fun earlier element later place => ?_⟩
  have member : element ∈ Shell.elements .standard .overview update := by
    rw [place]
    exact List.mem_append_right _ (List.mem_cons_self ..)
  exact (ends earlier element later place).closes
    (shown (of_decide_eq_true (Except.ok.inj plain)) nofun element member)

/-- A room that opens a comment with a script in it leaves the element of the charts unclosed. -/
theorem chartsElement_unclosed :
    let bytes := Utf8.encode
      "[\x7b\"room\":\"<!--<script>\",\"timestamp\":\"2024-03-01T10:00:00Z\",\"aqi\":42\x7d]"
    let site : Site := ⟨.standard, ⟨"feed", Fetch.ofDocument bytes, []⟩, 0⟩
    ∃ answer update before, site.pageAnswer? .overview false = some answer
      ∧ answer.response.body = before ++ ((Shell.chartsElement update).opening
        ++ ((Shell.chartsElement update).content
          ++ ("</script>" ++ Shell.afterElement [Shell.eventsElement .overview update])))
      ∧ closing .data ((Shell.chartsElement update).content
        ++ ("</script>" ++ Shell.afterElement [Shell.eventsElement .overview update])).toList
          = none := by
  intro bytes site
  have decodes : (Document.decode bytes).isOk = true := by decide +kernel
  -- The charts of the document are read out in full, up to the end of their text.
  have hidden : (Document.decode bytes).map (fun document =>
      (ScriptData.run .data (Json.breakClosingTags (Json.array
        [((View.new .overview .standard).chart document.readings).2.1.toJson]).chars)).map
          ScriptData.State.depth) = .ok (some .doubleEscaped) := by
    decide +kernel
  obtain ⟨document, decoded⟩ := Json.exists_of_isOk decodes
  rw [decoded] at hidden
  have fetched : site.feed.head.outcome = .ok document.readings := by
    simp only [site, Fetch.ofDocument, decoded]
  obtain ⟨answer, answered⟩ := exists_overviewAnswer fetched false
  obtain ⟨_, update, _, -, body, single⟩ := exists_update fetched answered
  -- The content of the element is the JSON of the one chart.
  have content : (Shell.chartsElement update).content.toList = Json.breakClosingTags
      (Json.array [((View.new .overview .standard).chart document.readings).2.1.toJson]).chars := by
    rw [Shell.chartsElement, Json.scriptText, String.toList_ofList, ViewUpdate.chartsJson, single]
    rfl
  -- The element is read to its end tag in a double escaped state.
  obtain ⟨final, read, double⟩ := Option.map_eq_some_iff.mp (Except.ok.inj hidden)
  rw [← content] at read
  have hides := ScriptData.hides_of_doubleEscaped (Json.tagless_scriptText _) read double
  have place : Shell.elements .standard .overview update
      = [_, _] ++ Shell.chartsElement update :: [Shell.eventsElement .overview update] := rfl
  have ends := Shell.ends_document single place
  obtain ⟨before, whole⟩ := ends.stands
  exact ⟨answer, update, before, answered, body.trans whole, ends.hides hides⟩

end Site

end RoomAir
