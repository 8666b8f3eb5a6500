import RoomAir.Proofs.View.Containers
import RoomAir.Proofs.View.Fragments
import RoomAir.Proofs.View.Scripts

/-! Whole pages as tokens: which of them depend on the settings that a page is displayed with. -/

namespace RoomAir

open Markup
open ScriptData (Hides)

namespace Fragment

/-! ## Fragments -/

/-- A row is read as its markup, if its time opens no tag. -/
theorem legible_rowMarkup {time : String} (unmarked : OpensNoTag time.toList)
    (reading : Reading) : (rowMarkup time reading).Legible := by
  -- A cell is a tag around a text, and the row has nothing but cells and blanks.
  have styled {attributes : List Attribute} {written : String}
      (plain : ∀ item ∈ attributes, IsPlainAttribute item) (inside : (text written).Legible) :
      (cellMarkup attributes written).Legible :=
    .append (.plainText (by decide)) (.tag (by decide) plain inside)
  have cell {written : String} (inside : (text written).Legible) :
      (cellMarkup [] written).Legible := styled (List.forall_mem_nil _) inside
  have measured (value : Option Double) : (cellMarkup [] (metric value)).Legible :=
    cell (.plainText (notMem_metric (by decide) (by decide) value))
  -- The room is escaped, and apart from it and the time there are only known texts and numbers.
  have room : (cellMarkup [] (Html.escape reading.room)).Legible :=
    cell (.plainText (Html.notMem_escape (by decide) _))
  have index : (cellMarkup [("style", some ("color: " ++ (Severity.ofAqi reading.aqi).color))]
      reading.aqi.display).Legible := by
    refine styled ?_ (.plainText (notMem_display (by decide) _))
    simp [quote_notMem_color]
    decide
  have content : (rowContent time reading).Legible :=
    .append (.append (.append (.append (.append (.append (.append (cell (.text unmarked)) room)
      index) (measured _)) (measured _)) (measured _)) (measured _)) (.plainText (by decide))
  exact .append (.tag (by decide) (List.forall_mem_nil _) content) (.plainText (by decide))

/-- A table is read as its markup, if its rows are. -/
theorem legible_tableMarkup {rows : Markup} (inside : rows.Legible) :
    (tableMarkup rows).Legible := by
  -- The head has fixed texts only.
  have head : headMarkup.Legible := by
    refine .of_isPlain ?_
    simp [headMarkup]
    decide
  -- The body has the rows between two blanks.
  have body : (tag "tbody" [] (bodyContent rows)).Legible :=
    .tag (by decide) (List.forall_mem_nil _)
      (.append (.append (.plainText (by decide)) inside) (.plainText (by decide)))
  have table : (tag "table" [] (text "\n      " ++ headMarkup ++ text "\n      "
      ++ tag "tbody" [] (bodyContent rows) ++ text "\n    ")).Legible :=
    .tag (by decide) (List.forall_mem_nil _) (.append (.append (.append (.append
      (.plainText (by decide)) head) (.plainText (by decide))) body) (.plainText (by decide)))
  -- There are two more elements around the table, with blanks between the tags.
  have enclosed {value : String} {content : Markup} {before after : String}
      (clean : '"' ∉ value.toList) (blankBefore : '<' ∉ before.toList) (legible : content.Legible)
      (blankAfter : '<' ∉ after.toList) :
      (tag "div" [("class", some value)] (text before ++ content ++ text after)).Legible := by
    refine .tag (by decide) ?_ (.append (.append (.plainText blankBefore) legible)
      (.plainText blankAfter))
    rw [List.forall_mem_singleton, isPlainAttribute_some]
    exact ⟨by decide, clean⟩
  exact .append (enclosed (by decide) (by decide)
    (enclosed (by decide) (by decide) table (by decide)) (by decide)) (.plainText (by decide))

/-- There is no script in a table. -/
theorem scriptless_tableMarkup (format : String) (rows : List Reading) :
    (tableMarkup (rowsMarkup format rows)).named "script" = [] := by
  -- No row has a script in it, so none comes with any number of rows.
  have row (time : String) (reading : Reading) : (rowMarkup time reading).named "script" = [] := by
    simp [rowMarkup, rowContent, cellMarkup]
  simp [tableMarkup, headMarkup, bodyContent, rowsMarkup, named_join, List.flatMap_map, row]

/-- The cards of an overview are around. -/
theorem around_roomCards (overview : Overview) : Around (roomCards overview).toList := by
  refine (writes_roomCards overview).around ?_ ?_ <;>
    simp [named_join, List.flatMap_map, cardMarkup, cardContent]

/-- The selector of rooms is around. -/
theorem around_roomSelector (details : Details) : Around (roomSelector details).toList := by
  refine (writes_roomSelector details).around ?_ ?_ <;>
    simp [selectorMarkup, named_join, List.flatMap_map, roomOptionMarkup, optionMarkup]

end Fragment

/-! ## Main parts -/

namespace Page

/-- The times that stand in the table of a page. -/
def times (display : Display) (readings : List Reading) : Page → List String
  | .overview => []
  | .details filter =>
    (Details.ofReadings readings filter).rows.map (Fragment.timeText display.timeFormat)

/-- The markup of the table on a page, of which there is none on the overview. -/
def table (display : Display) (readings : List Reading) : Page → Markup
  | .overview => .empty
  | .details filter => Fragment.tableMarkup
    (Fragment.rowsMarkup display.timeFormat (Details.ofReadings readings filter).rows)

variable {page : Page} {display : Display} {readings : List Reading}

/-- There is no script in the table of a page. -/
theorem scriptless_table (page : Page) (display : Display) (readings : List Reading) :
    (page.table display readings).named "script" = [] := by
  cases page with
  | overview => rfl
  | details filter => exact Fragment.scriptless_tableMarkup ..

/-- The table of a page is read in it as its markup, if none of its times opens a tag. -/
theorem run_table (unmarked : ∀ time ∈ page.times display readings, OpensNoTag time.toList) :
    run pageStep (.content .data) (page.table display readings).chars
      = ((page.table display readings).tokens, .content .data) := by
  -- There is no script in the markup that could change how the rest of it is read.
  refine Legible.run_pageStep ?_ (page.scriptless_table display readings)
  cases page with
  | overview => rfl
  | details filter =>
    rw [times, List.forall_mem_map] at unmarked
    refine Fragment.legible_tableMarkup (.join ?_)
    rw [List.forall_mem_map]
    exact fun reading member => Fragment.legible_rowMarkup (unmarked reading member) reading

/-- The main part of the overview is around. -/
theorem around_overviewMain (overview : Overview) :
    Around (Shell.overviewMain (Fragment.roomCards overview)).toList := by
  have cards := Fragment.around_roomCards overview
  unfold Shell.overviewMain
  simp only [String.toList_append]
  -- Only what is written as parts is taken apart: the characters of a literal would be parts too.
  repeat' with_reducible apply Around.append
  all_goals first
    | with_reducible exact cards
    | exact around_of_isAround (by decide +kernel)

/-- The main part of the details is around its table. -/
theorem exists_detailsMain (details : Details) : ∃ before after : String,
    Around before.toList ∧ Around after.toList
      ∧ ∀ table, Shell.detailsMain (Fragment.roomSelector details) table
        = before ++ (table ++ after) := by
  have selector := Fragment.around_roomSelector details
  unfold Shell.detailsMain
  refine ⟨_, _, ?before, ?after, fun table => String.append_assoc ..⟩
  case before =>
    simp only [String.toList_append]
    repeat' with_reducible apply Around.append
    all_goals first
      | with_reducible exact selector
      | exact around_of_isAround (by decide +kernel)
  case after => exact around_of_isAround (by decide +kernel)

/-- The main part of a page is around its table, whatever display the table is made for. -/
theorem exists_mainPart (page : Page) (readings : List Reading) : ∃ before after,
    Around before ∧ Around after ∧ ∀ display (update : ViewUpdate),
      page.fragments? display readings = some ⟨update.cards, update.selector, update.table⟩ →
        (Shell.mainPart page (some update)).toList
          = before ++ ((page.table display readings).chars ++ after) := by
  cases page with
  | overview =>
    -- The overview has no table, so nothing is left behind its empty place.
    refine ⟨_, [], around_overviewMain (.ofReadings readings), around_of_isAround rfl, ?_⟩
    rintro display ⟨cards, selector, table, charts⟩ made
    obtain ⟨rfl, rfl, rfl⟩ := PageFragments.mk.inj (Option.some.inj made)
    exact (List.append_nil _).symm
  | details filter =>
    obtain ⟨before, after, around, aroundAfter, split⟩ :=
      exists_detailsMain (.ofReadings readings filter)
    refine ⟨before.toList, after.toList, around, aroundAfter, ?_⟩
    rintro display ⟨cards, selector, table, charts⟩ made
    -- The table was made, so it is written as its markup.
    obtain ⟨written, rendered, parts⟩ := Option.map_eq_some_iff.mp made
    obtain ⟨rfl, rfl, rfl⟩ := PageFragments.mk.inj parts
    rw [table, ← Fragment.toList_dataTable rendered, ← String.toList_append,
      ← String.toList_append, ← split]
    rfl

end Page

/-! ## Scripts -/

namespace Shell

/-- The tokens of an element that loads a script, and of the line feed behind it. -/
def libraryTokens (url : String) : List Token :=
  [.opening "script" [("src", some (Html.escape url))], .closing "script", .character '\n']

/-- What a page has from its charts on. -/
def afterLibraries (page : Page) (update : ViewUpdate) : String :=
  (chartsElement update).text ++ afterElement [eventsElement page update]

/-- An element that loads a script is read with the address in it, whatever the address is. -/
theorem run_libraryElement (url : String) :
    run pageStep (.content .data) ((libraryElement url).text ++ "\n").toList
      = (libraryTokens url, .content .data) := by
  -- The address is escaped, so it does not end its attribute.
  have plain : ∀ item ∈ [("src", some (Html.escape url))], IsPlainAttribute item := by
    rw [List.forall_mem_singleton, isPlainAttribute_some]
    exact ⟨by decide, Html.notMem_escape (by decide) url⟩
  have written : ((libraryElement url).text ++ "\n").toList
      = openingChars "script" [("src", some (Html.escape url))] ++ "</script>\n".toList := by
    simp [libraryElement, ScriptElement.text, openingChars, attributeChars]
  rw [written]
  exact run_append (run_pageStep_script plain) rfl

/-- What stands behind the main part of a page loads two scripts, and then come the charts. -/
theorem pageTokensFrom_scripts (display : Display) (page : Page) (update : ViewUpdate) :
    pageTokensFrom (.content .data)
        (scripts display page update ++ ofLines ["</body>", "</html>"]).toList
      = libraryTokens display.chartScript ++ (libraryTokens display.adapterScript
        ++ pageTokensFrom (.content .data) (afterLibraries page update).toList) := by
  -- The two libraries come first, and each of them ends on its own line.
  have parts : scripts display page update ++ ofLines ["</body>", "</html>"]
      = (libraryElement display.chartScript).text ++ "\n"
        ++ ((libraryElement display.adapterScript).text ++ "\n" ++ afterLibraries page update) := by
    rw [scripts_eq, afterLibraries, afterElement]
    simp only [elements, ofLines, List.map_cons, List.map_nil, List.cons_append, List.nil_append,
      String.join_cons, String.join_nil, String.append_assoc, String.append_empty]
  rw [parts, String.toList_append, pageTokensFrom_append (run_libraryElement _),
    String.toList_append, pageTokensFrom_append (run_libraryElement _)]

/-- From its charts on, a page depends on nothing but the charts of its update. -/
theorem afterLibraries_congr (page : Page) {update other : ViewUpdate}
    (same : update.charts = other.charts) :
    afterLibraries page update = afterLibraries page other := by
  -- No fragment of an update is written there.
  cases update
  cases other
  subst same
  rfl

/-- A text of a page from which no script is loaded. -/
def Sourceless (text : String) : Prop :=
  (pageTokensFrom (.content .data) text.toList).filterMap Token.source? = []

/-- An element without an address loads no script, whether or not it is ever closed. -/
theorem sourceless_element {page : String} {element : ScriptElement} {later : List ScriptElement}
    (ends : Ends page element later) {attributes : List Attribute}
    (opening : element.opening.toList = openingChars "script" attributes)
    (plain : ∀ item ∈ attributes, IsPlainAttribute item)
    (addressless : attributes.lookup "src" = none) (behind : Sourceless (afterElement later)) :
    Sourceless (element.text ++ afterElement later) := by
  -- The element is its tag, and what follows the tag up to the end of the page.
  have written : (element.text ++ afterElement later).toList
      = openingChars "script" attributes
        ++ (element.content ++ ("</script>" ++ afterElement later)).toList := by
    simp only [ScriptElement.text, String.toList_append, opening, List.append_assoc]
  have none : (Token.opening "script" attributes).source? = none := by
    simp [Token.source?, Element.attribute?, addressless]
  rw [Sourceless, written, pageTokensFrom_openingChars plain, List.filterMap_cons, none]
  -- Either the element is never closed and nothing follows, or its own end tag closes it.
  by_cases hides : Hides element.content.toList
  case pos => rw [ends.hides hides]; rfl
  case neg =>
    -- Behind the bracket of the element's own end tag the page goes on.
    have bracket : run pageStep (.content scriptEnd) ['>']
        = ([.closing "script"], .content .data) := rfl
    rw [ends.closes hides]
    exact (congrArg (List.filterMap Token.source?) (pageTokensFrom_append bracket _)).trans behind

/-- What is behind an element goes on with the next element. -/
theorem afterElement_cons (element : ScriptElement) (later : List ScriptElement) :
    afterElement (element :: later) = "\n" ++ (element.text ++ afterElement later) := by
  simp only [afterElement, ofLines, List.map_cons, List.cons_append, String.join_cons,
    String.append_assoc]

/-- From its charts on, a page loads no script. -/
theorem sourceless_afterLibraries (page : Page) {update : ViewUpdate} {chart : ChartUpdate}
    (single : update.charts = [chart]) : Sourceless (afterLibraries page update) := by
  -- The charts come third, with the element of the events behind them.
  have place : elements .standard page update
      = [_, _] ++ chartsElement update :: [eventsElement page update] := rfl
  have placeLast : elements .standard page update
      = [_, _, _] ++ eventsElement page update :: [] := rfl
  have eventsOpening : (eventsElement page update).opening.toList
      = openingChars "script" [] := by
    simp [eventsElement, openingChars]
  have chartsOpening : (chartsElement update).opening.toList = openingChars "script"
      [("type", some "application/json"), ("id", some "initialCharts")] := by
    simp [chartsElement, chartsMark, openingChars, attributeChars]
  -- What is behind the last element is known, and from there the elements are added.
  have last : Sourceless (afterElement []) := by
    unfold Sourceless
    decide +kernel
  have events : Sourceless ((eventsElement page update).text ++ afterElement []) :=
    sourceless_element (ends_document single placeLast) eventsOpening (List.forall_mem_nil _) rfl
      last
  refine sourceless_element (ends_document single place) chartsOpening (by decide) (by decide) ?_
  have feed : run pageStep (.content .data) "\n".toList
      = ([.character '\n'], .content .data) := rfl
  have noTag : (Token.character '\n').source? = none := rfl
  rw [Sourceless, afterElement_cons, String.toList_append, pageTokensFrom_append feed,
    List.filterMap_append, List.filterMap_cons, noTag, List.filterMap_nil, List.nil_append]
  exact events

/-- The settings of a page show in the addresses of two scripts and in what its table is read as. -/
theorem exists_pageTokens (page : Page) (readings : List Reading) : ∃ before after,
    (∀ token ∈ before, token.isAround = true) ∧ (∀ token ∈ after, token.isAround = true)
    ∧ ∀ display (update : ViewUpdate) tokens,
      page.fragments? display readings = some ⟨update.cards, update.selector, update.table⟩ →
      run pageStep (.content .data) (page.table display readings).chars
          = (tokens, .content .data) →
        pageTokens (document display page (some update))
          = before ++ (tokens ++ (after ++ (libraryTokens display.chartScript
            ++ (libraryTokens display.adapterScript
              ++ pageTokensFrom (.content .data) (afterLibraries page update).toList)))) := by
  obtain ⟨head, whole, -, aroundHead⟩ := exists_head page
  obtain ⟨first, last, aroundFirst, aroundLast, split⟩ := page.exists_mainPart readings
  have foot : Around ("\n".toList ++ "</main>\n".toList) := around_of_isAround (by decide +kernel)
  -- The page is read up to its table, and on from there to its scripts.
  obtain ⟨before, readBefore, apartBefore⟩ := aroundHead.append aroundFirst
  obtain ⟨after, readAfter, apartAfter⟩ := aroundLast.append foot
  refine ⟨before, after, apartBefore, apartAfter, fun display update tokens made read => ?_⟩
  -- The document is cut around its table and before its scripts.
  have text : (document display page (some update)).toList
      = (head.toList ++ first) ++ ((page.table display readings).chars
        ++ ((last ++ ("\n".toList ++ "</main>\n".toList))
          ++ (scripts display page update ++ ofLines ["</body>", "</html>"]).toList)) := by
    rw [document, whole]
    simp only [String.toList_append, split display update made, Option.map_some, Option.getD_some,
      List.append_assoc]
  rw [pageTokens, text, pageTokensFrom_append readBefore, pageTokensFrom_append read,
    pageTokensFrom_append readAfter, pageTokensFrom_scripts]

end Shell

end RoomAir
