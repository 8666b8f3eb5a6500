import RoomAir.Proofs.Http.Rendering
import RoomAir.Proofs.Time.RenderedText
import RoomAir.Proofs.View.PageTokens

/-! Settings in pages: what a display is set to is read back as text, and makes no tags. -/

namespace RoomAir

open Markup

/-- Neither the format of times nor what the readings show makes a tag in a table. -/
theorem Page.outline_table (page : Page) (display other : Display) (readings : List Reading)
    (hidden : List String) :
    (page.table display readings).outline hidden = (page.table other readings).outline hidden := by
  -- The overview has no table, and the rows of the details differ in their times at most.
  cases page with
  | overview => rfl
  | details filter =>
    -- Row by row the two tables are about the same reading.
    have same : List.Forall₂ Fragment.SameReading (Details.ofReadings readings filter).rows
        (Details.ofReadings readings filter).rows := List.forall₂_same.mpr fun _ _ => rfl
    simp only [Page.table, Fragment.tableMarkup, Fragment.bodyContent, outline_append, outline_tag,
      Fragment.outline_rowsMarkup hidden display.timeFormat other.timeFormat same]

/-- What is written for a time has no marks of markup in it but those of the format. -/
theorem Fragment.timeText_unmarked (format : String) (reading : Reading) :
    ('<' ∉ format.toList → OpensNoTag (timeText format reading).toList)
      ∧ ('&' ∉ format.toList →
        Html.unescape (timeText format reading) = timeText format reading) := by
  rw [timeText]
  -- A time that cannot be rendered is written as nothing, in which there is no mark at all.
  cases rendered : (TimePattern.ofText format).render? reading.time with
  | none => exact ⟨fun _ => rfl, fun _ => rfl⟩
  | some text =>
    obtain ⟨brackets, ampersands⟩ := TimePattern.render?_unmarked rendered
    exact ⟨brackets, fun absent => Html.unescape_of_notMem (ampersands absent)⟩

/-- The same holds of all times in the table of a page. -/
theorem Page.times_unmarked (page : Page) (display : Display) (readings : List Reading) :
    ('<' ∉ display.timeFormat.toList →
        ∀ time ∈ page.times display readings, OpensNoTag time.toList)
      ∧ ('&' ∉ display.timeFormat.toList →
        ∀ time ∈ page.times display readings, Html.unescape time = time) := by
  -- The overview writes no times.
  cases page with
  | overview => exact ⟨nofun, nofun⟩
  | details filter =>
    simp only [times, List.forall_mem_map]
    exact ⟨fun absent reading _ => (Fragment.timeText_unmarked _ reading).1 absent,
      fun absent reading _ => (Fragment.timeText_unmarked _ reading).2 absent⟩

namespace Shell

/--
A document shows what its display is set to as text.

Its tags are those of another document, but for the addresses of scripts.
-/
structure ShowsSettings (display : Display) (page : Page) (readings : List Reading)
    (document other : String) : Prop where
  tags : pageTags ["src"] document = pageTags ["src"] other
  sources : scriptSources document = [display.chartScript, display.adapterScript]
  rows : ∀ filter, page = .details filter → ∃ body, tableBody? document = some body
    ∧ List.Forall₂ (fun reading row => ∃ time,
        (TimePattern.ofText display.timeFormat).render? reading.time = some time
          ∧ Fragment.IsRow (Html.unescape time) reading row)
      (Details.ofReadings readings filter).rows body.elements

variable {display : Display} {page : Page} {readings : List Reading} {update : ViewUpdate}

/-- No script is loaded where there are no tags of scripts. -/
theorem sources_eq_nil {tokens : List Token}
    (scriptless : ∀ token ∈ tokens, token.name? ≠ some "script") :
    tokens.filterMap Token.source? = [] :=
  -- Only the tag of a script has an address to load from.
  List.filterMap_eq_nil_iff.mpr fun token member =>
    Token.source?_eq_none (scriptless token member)

/-- The address that is read is the one that a script is loaded from. -/
theorem sources_library (url : String) : (libraryTokens url).filterMap Token.source? = [url] := by
  simp [libraryTokens, Token.source?, Element.attribute?_self, Html.unescape_escape]

/-- Of its display the tags of a page show what its table is read as, and no address. -/
theorem exists_pageTags (page : Page) (readings : List Reading) (chart : ChartUpdate) :
    ∃ front back, ∀ display (update : ViewUpdate) tokens,
      page.fragments? display readings = some ⟨update.cards, update.selector, update.table⟩ →
      update.charts = [chart] →
      run pageStep (.content .data) (page.table display readings).chars
          = (tokens, .content .data) →
        pageTags ["src"] (document display page (some update))
          = front ++ (tokens.filterMap (Token.tag? ["src"]) ++ back) := by
  obtain ⟨before, after, -, -, all⟩ := exists_pageTokens page readings
  -- The tags of a library stay the same when the address is left out.
  have library (url : String) : (libraryTokens url).filterMap (Token.tag? ["src"])
      = [.opening "script" [("src", none)], .closing "script"] := rfl
  -- Behind the table only the addresses differ, which are no part of the tags.
  refine ⟨before.filterMap (Token.tag? ["src"]),
    (after ++ (libraryTokens "" ++ (libraryTokens "" ++ pageTokensFrom (.content .data)
      (afterLibraries page ⟨none, none, none, [chart]⟩).toList))).filterMap (Token.tag? ["src"]),
    fun display update tokens made charts read => ?_⟩
  -- What follows the libraries depends on the charts of the update and on nothing else in it.
  have same : afterLibraries page update = afterLibraries page ⟨none, none, none, [chart]⟩ :=
    afterLibraries_congr page charts
  rw [pageTags, all display update tokens made read, same]
  simp only [List.filterMap_append, library]

/-- A page shows the settings of its display as text, if no time in its table opens a tag. -/
theorem showsSettings_document {other : ViewUpdate} {chart : ChartUpdate}
    (made : page.fragments? display readings
      = some ⟨update.cards, update.selector, update.table⟩)
    (charts : update.charts = [chart])
    (unmarked : ∀ time ∈ page.times display readings, OpensNoTag time.toList)
    (standard : page.fragments? .standard readings
      = some ⟨other.cards, other.selector, other.table⟩)
    (same : other.charts = [chart]) :
    ShowsSettings display page readings (document display page (some update))
      (document .standard page (some other)) := by
  obtain ⟨before, after, apartBefore, apartAfter, all⟩ := exists_pageTokens page readings
  -- The standard format has no brackets, so it needs no condition of its own.
  have plain : ∀ time ∈ page.times .standard readings, OpensNoTag time.toList :=
    (page.times_unmarked .standard readings).1 (by decide)
  -- Where no time opens a tag, the table is read as the markup that it was written from.
  have tokens := all display update _ made (Page.run_table unmarked)
  constructor
  case tags =>
    -- Both documents have the same tags around their tables, and the tables have the same outline.
    obtain ⟨front, back, tags⟩ := exists_pageTags page readings chart
    have table := page.outline_table display .standard readings ["src"]
    rw [outline, outline] at table
    rw [tags display update _ made charts (Page.run_table unmarked),
      tags .standard other _ standard same (Page.run_table plain), table]
  case sources =>
    -- Of all the parts of the page only the two libraries are loaded from somewhere.
    have apart (tokens : List Token) (around : ∀ token ∈ tokens, token.isAround = true) :
        tokens.filterMap Token.source? = [] :=
      sources_eq_nil fun token member => (Token.isAround_iff.mp (around token member)).1
    have table : (page.table display readings).tokens.filterMap Token.source? = [] :=
      sources_eq_nil fun token => name?_ne_of_named (page.scriptless_table display readings)
    have last : (pageTokensFrom (.content .data) (afterLibraries page update).toList).filterMap
        Token.source? = [] := sourceless_afterLibraries page charts
    rw [scriptSources, tokens, List.filterMap_append, List.filterMap_append, List.filterMap_append,
      List.filterMap_append, List.filterMap_append, apart before apartBefore, table,
      apart after apartAfter, sources_library, sources_library, last]
    rfl
  case rows =>
    rintro filter rfl
    obtain ⟨written, found, -⟩ := Option.map_eq_some_iff.mp made
    -- The body of the table is the first one of the page, and the only one of the table.
    have single := Fragment.named_tableMarkup display.timeFormat
      (Details.ofReadings readings filter).rows
    have body := content?_eq single (fun token member =>
      (Token.isAround_iff.mp (apartBefore token member)).2)
    refine ⟨_, (congrArg (content? "tbody") tokens).trans (body _), ?_⟩
    -- The elements in the body are the rows, one for each reading in its order.
    rw [Fragment.elements_bodyContent, List.forall₂_map_right_iff, List.forall₂_same]
    exact fun reading member => ⟨_, (Fragment.dataTable?_eq_some_iff.mp found).1 reading member,
      Fragment.isRow_rowElement ..⟩

end Shell

namespace Site

/--
What a display is set to is text on its pages, where none of the times that are written opens a tag.

Such a page has the same tags with the standard display, with which it is rendered as well.
Its two scripts are loaded from the addresses of the display, and each row shows what its rendered
time stands for.
A format without brackets renders no time that opens a tag, and one without ampersands only times
that stand for themselves.
-/
theorem showsSettings_pageAnswer (site : Site) (page : Page) (compress : Bool)
    (readings : List Reading) (fetched : site.feed.head.outcome = .ok readings) (answer : Answer)
    (answered : site.pageAnswer? page compress = some answer) :
    ∃ standard, { site with display := .standard : Site }.pageAnswer? page compress = some standard
      ∧ ((∀ time ∈ page.times site.display readings, OpensNoTag time.toList) →
        Shell.ShowsSettings site.display page readings answer.response.body standard.response.body)
      ∧ ('<' ∉ site.display.timeFormat.toList →
        ∀ time ∈ page.times site.display readings, OpensNoTag time.toList)
      ∧ ('&' ∉ site.display.timeFormat.toList →
        ∀ time ∈ page.times site.display readings, Html.unescape time = time) := by
  -- The standard format renders every time, so the page to compare with is always there.
  have renderable : (TimePattern.ofText Display.standard.timeFormat).IsRenderable :=
    (TimePattern.isRenderable_iff _).mpr (by decide +kernel)
  have rendered : ({ site with display := .standard : Site }.pageAnswer? page compress).isSome
      = true := isSome_pageAnswer? renderable page compress
  have fetchedStandard : { site with display := .standard : Site }.feed.head.outcome
      = .ok readings := fetched
  obtain ⟨standard, answeredStandard⟩ := Option.isSome_iff_exists.mp rendered
  refine ⟨standard, answeredStandard, fun unmarked => ?_, page.times_unmarked site.display readings⟩
  obtain ⟨_, update, _, refreshed, body, charts⟩ := exists_update fetched answered
  obtain ⟨_, other, _, refreshedStandard, bodyStandard, chartsStandard⟩ :=
    exists_update fetchedStandard answeredStandard
  -- The chart is made of the readings alone, so it is the same one on both pages.
  obtain ⟨made, -⟩ := (View.refresh?_eq_some_iff _ _).mp refreshed
  obtain ⟨madeStandard, -⟩ := (View.refresh?_eq_some_iff _ _).mp refreshedStandard
  rw [body, bodyStandard]
  exact Shell.showsSettings_document made charts unmarked madeStandard chartsStandard

/-- A display whose addresses and whose format of times are full of marks. -/
def markedDisplay : Display where
  timeFormat := "\"%H:%M\" > '%S'"
  chartScript := "\"></script><b title='&amp;'>"
  adapterScript := "/adapter.js?a=1&lt=2"

/-- A page of that display shows all of them as text. -/
theorem showsSettings_marks :
    let readings := [Reading.timed ⟨28487280, 0, 0⟩]
    let site : Site := ⟨markedDisplay, ⟨"feed", ⟨.ok readings, [], 0⟩, []⟩, 0⟩
    ∃ answer standard, site.pageAnswer? (.details .all) false = some answer
      ∧ { site with display := .standard : Site }.pageAnswer? (.details .all) false = some standard
      ∧ Shell.ShowsSettings markedDisplay (.details .all) readings answer.response.body
        standard.response.body
      ∧ ∀ time ∈ Page.times markedDisplay readings (.details .all), Html.unescape time = time := by
  intro readings site
  -- Quotes and a closing bracket are literals of the format, which can be rendered.
  have renderable : (TimePattern.ofText markedDisplay.timeFormat).IsRenderable :=
    (TimePattern.isRenderable_iff _).mpr (by decide +kernel)
  have rendered : (site.pageAnswer? (.details .all) false).isSome = true :=
    isSome_pageAnswer? renderable _ _
  obtain ⟨answer, answered⟩ := Option.isSome_iff_exists.mp rendered
  obtain ⟨standard, answeredStandard, shows, noTag, noEntity⟩ :=
    showsSettings_pageAnswer site (.details .all) false readings rfl answer answered
  -- The format has neither an opening bracket nor an ampersand, so both conditions hold.
  exact ⟨answer, standard, answered, answeredStandard, shows (noTag (by decide)),
    noEntity (by decide)⟩

/-- With tags in its time format a page has two more tags in a row. -/
theorem pageTags_of_timeFormat :
    let environment := [("DASHBOARD__DISPLAY__TIME_FORMAT", "<b>%H:%M</b>")]
    let feed : Feed := ⟨"feed", ⟨.ok [.timed ⟨28487280, 0, 0⟩], [], 0⟩, []⟩
    ∃ settings answer standard, Settings.load [] environment = .ok settings
      ∧ Site.pageAnswer? ⟨settings.display, feed, 0⟩ (.details .all) false = some answer
      ∧ Site.pageAnswer? ⟨.standard, feed, 0⟩ (.details .all) false = some standard
      ∧ (pageTags ["src"] answer.response.body).length
        = (pageTags ["src"] standard.response.body).length + 2 := by
  intro environment feed
  have loads : (Settings.load [] environment).toOption.map
      (fun settings => settings.display.timeFormat) = some "<b>%H:%M</b>" := by
    decide +kernel
  obtain ⟨settings, loaded, format⟩ := exists_ok_of_map loads
  -- The single reading is the only row, whatever the order is.
  have rows : (Details.ofReadings [.timed ⟨28487280, 0, 0⟩] .all).rows
      = [.timed ⟨28487280, 0, 0⟩] := List.mergeSort_singleton _
  -- What the table with the reading is read as, to the end of which it is whole content.
  let read (format : String) := run pageStep (.content .data) (Fragment.tableMarkup
    (Fragment.rowsMarkup format [.timed ⟨28487280, 0, 0⟩])).chars
  -- The chart does not depend on the display, so both pages have the same tags around the table.
  obtain ⟨front, back, tags⟩ := Shell.exists_pageTags (.details .all) [.timed ⟨28487280, 0, 0⟩]
    ((View.new (.details .all) .standard).chart [.timed ⟨28487280, 0, 0⟩]).2.1
  -- For either format the tags of the page are those of its table between the same others.
  have shown (display : Display) {format : String} (same : display.timeFormat = format)
      (renderable : (TimePattern.ofText format).IsRenderable)
      (ends : (read format).2 = .content .data) :
      ∃ answer, Site.pageAnswer? ⟨display, feed, 0⟩ (.details .all) false = some answer
        ∧ pageTags ["src"] answer.response.body
          = front ++ ((read format).1.filterMap (Token.tag? ["src"]) ++ back) := by
    subst same
    have rendered : (Site.pageAnswer? ⟨display, feed, 0⟩ (.details .all) false).isSome = true :=
      isSome_pageAnswer? renderable _ _
    obtain ⟨answer, answered⟩ := Option.isSome_iff_exists.mp rendered
    obtain ⟨_, update, _, refreshed, body, charts⟩ := exists_update rfl answered
    obtain ⟨made, -⟩ := (View.refresh?_eq_some_iff _ _).mp refreshed
    have table : run pageStep (.content .data)
        (Page.table display [.timed ⟨28487280, 0, 0⟩] (.details .all)).chars
          = ((read display.timeFormat).1, .content .data) := by
      rw [Page.table, rows]
      exact Prod.ext rfl ends
    exact ⟨answer, answered, (congrArg _ body).trans (tags display update _ made charts table)⟩
  obtain ⟨answer, answered, marked⟩ := shown settings.display format
    ((TimePattern.isRenderable_iff _).mpr (by decide +kernel)) (by decide +kernel)
  obtain ⟨standard, answeredStandard, plain⟩ := shown .standard rfl
    ((TimePattern.isRenderable_iff _).mpr (by decide +kernel)) (by decide +kernel)
  -- The two tables are read out in full, and the marked one has an element more in its row.
  have more : ((read "<b>%H:%M</b>").1.filterMap (Token.tag? ["src"])).length
      = ((read Display.standard.timeFormat).1.filterMap (Token.tag? ["src"])).length + 2 := by
    decide +kernel
  refine ⟨settings, answer, standard, loaded, answered, answeredStandard, ?_⟩
  rw [marked, plain, List.length_append, List.length_append, List.length_append,
    List.length_append, more]
  omega

end Site

end RoomAir
