import RoomAir.Http.Route
import RoomAir.Proofs.Http.Query
import RoomAir.Proofs.View.Document
import RoomAir.Proofs.View.LifeCycle

/-! From a rendered page to its event stream: the chart and the filter are handed over intact. -/

namespace RoomAir

/-- A page that a request can ask for, its filter being the one that some query names. -/
inductive Page.Requested : Page → Prop where
  | overview : Requested .overview
  | details (room : Option String) : Requested (.details (.ofQuery room))

/-- A target is split where its query begins. -/
theorem Request.splitTarget_append (path : String) (clean : '?' ∉ path.toList)
    (query : String) : splitTarget (path ++ "?" ++ query) = (path, some query) := by
  -- The target is spelled out character by character, as it is searched for the first mark.
  have text : (path ++ "?" ++ query).toList = path.toList ++ '?' :: query.toList := by
    simp
  have all : ∀ c ∈ path.toList, decide (c ≠ '?') = true := by
    intro c member
    simpa using fun same : c = '?' => clean (same ▸ member)
  -- The path is the run of characters before the question mark.
  have ends : EndsRun (fun c : Char => decide (c ≠ '?')) ('?' :: query.toList) :=
    endsRun_cons (by decide) _
  simp only [splitTarget, text, takeWhile_run all ends, List.drop_left, String.ofList_toList]

namespace Shell

/-- The overview's address of events names the chart of the update. -/
theorem eventsUrl_overview {update : ViewUpdate} {chart : ChartUpdate}
    (single : update.charts = [chart]) :
    eventsUrl .overview update
      = "/events/overview" ++ "?" ++ ("chart=" ++ toString chart.chart.number) := by
  -- The address is built of the first chart of the update, and there is one.
  unfold eventsUrl
  simp [single]

/-- The details' address of events names the filter and the chart of the update. -/
theorem eventsUrl_details {update : ViewUpdate} {chart : ChartUpdate} (filter : RoomFilter)
    (single : update.charts = [chart]) :
    eventsUrl (.details filter) update
      = "/events/details" ++ "?" ++ ("room=" ++ Form.encode filter.word ++ "&"
        ++ ("chart=" ++ toString chart.chart.number)) := by
  -- The word of the filter comes first, encoded as a value of the query.
  unfold eventsUrl
  simp [single]

end Shell

/-- What a target asks for: the events of a page, with a chart that is mounted on it. -/
structure AsksFor (target : String) (page : Page) (chart : Nat) : Prop where
  /-- The path is that of the page's own events, and the query is read by their handler. -/
  split : ∃ path query decoded, Request.splitTarget target = (path, some query)
    ∧ LiveStream.isDetails? path = some (decide (page ≠ .overview))
    ∧ Query.read true (some query) = .ok decoded
    ∧ (∀ filter, page = .details filter → RoomFilter.ofQuery decoded.room = filter)
    ∧ decoded.chart = some chart
  /-- So the stream that answers goes on with the page and the chart. -/
  answered : LiveStream.ofTarget? target = some (.ok (page, some chart))

/-- A page's address of events asks for its own events with the chart of the update. -/
theorem asksFor_eventsUrl {page : Page} (requested : page.Requested) {update : ViewUpdate}
    {chart : ChartUpdate} (single : update.charts = [chart])
    (small : chart.chart.number < 2 ^ 64) :
    AsksFor (Shell.eventsUrl page update) page chart.chart.number := by
  -- Either page has a path of its own, and only the details carry a filter in their query.
  cases requested with
  | overview =>
    -- The overview has no filter to hand over.
    have split := Request.splitTarget_append "/events/overview" (by decide)
      ("chart=" ++ toString chart.chart.number)
    have read := Query.read_chart small
    rw [Shell.eventsUrl_overview single]
    refine ⟨⟨_, _, _, split, rfl, read, nofun, rfl⟩, ?_⟩
    simp only [LiveStream.ofTarget?, split, read]
    rfl
  | details room =>
    -- The filter is made again from the word that the query carries.
    have split := Request.splitTarget_append "/events/details" (by decide)
      ("room=" ++ Form.encode (RoomFilter.ofQuery room).word ++ "&"
        ++ ("chart=" ++ toString chart.chart.number))
    have read := Query.read_room_chart (RoomFilter.ofQuery room).word small
    have filter := RoomFilter.ofQuery_word room
    rw [Shell.eventsUrl_details _ single]
    refine ⟨⟨_, _, _, split, rfl, read, ?_, rfl⟩, ?_⟩
    · rintro _ ⟨⟩
      exact filter
    · simp only [LiveStream.ofTarget?, split, read]
      change some (Except.ok (Page.details (RoomFilter.ofQuery (some _)), _)) = _
      rw [filter]

/-- The first chart of the view that takes over a mounted chart. -/
def firstChart (page : Page) (display : Display) (handle : Nat) (readings : List Reading) :
    ChartUpdate :=
  ((View.resume page display (some handle)).chart readings).2.1

/-- What a document says of a chart that its page and its event stream share. -/
structure HandsOver (page : Page) (display : Display) (document : String) (handle : Nat) :
    Prop where
  /-- The document mounts a single chart, which has the handle. -/
  mounted : ∃ members, Shell.initialCharts? document = some (.array [.object members])
    ∧ Json.lastValue? "handle" members = some (.integer handle)
  /-- The document listens to the events of its own page, and names the handle to them. -/
  listens : ∃ target, Shell.eventsTarget? document = some target ∧ AsksFor target page handle
  /-- The first chart of the resumed view replaces the one with the handle and has a larger one. -/
  replaced : ∀ readings, (firstChart page display handle readings).replaces = some handle
    ∧ handle < (firstChart page display handle readings).chart.number
  /-- That chart is the one that the first refresh of the resumed view sends. -/
  sent : ∀ readings resumed update disposals,
    (View.resume page display (some handle)).refresh? readings = some (resumed, update, disposals) →
      update.charts = [firstChart page display handle readings]

/-- A document hands over the chart of the update that it shows. -/
theorem handsOver_document {page : Page} (requested : page.Requested) (display : Display)
    {update : ViewUpdate} {chart : ChartUpdate} (single : update.charts = [chart])
    (small : chart.chart.number + 1 < 2 ^ 64) :
    HandsOver page display (Shell.document display page (some update)) chart.chart.number where
  mounted := by
    -- The charts are read back as the JSON that was written, of which the handle is a member.
    rw [Shell.initialCharts?_document, ViewUpdate.chartsJson, single]
    exact ⟨_, rfl, rfl⟩
  listens := ⟨_, Shell.eventsTarget?_document display page update,
    asksFor_eventsUrl requested single (by omega)⟩
  replaced := by
    intro readings
    -- The resumed view begins with the chart mounted and goes on with the next number.
    have mounted := View.mounted_view page display (.resume (some chart.chart.number))
    have next := View.next_view page display (.resume (some chart.chart.number)) small
    rw [firstChart]
    -- What it replaces is what is mounted, and its own number is the next one.
    refine ⟨?_, ?_⟩
    · rw [View.chart_replaces]
      exact congrArg (Option.map ChartHandle.number) mounted
    · rw [View.chart_handle]
      exact Nat.lt_of_lt_of_eq (Nat.lt_succ_self _) next.symm
  sent := fun _ _ _ _ done => ((View.refresh?_eq_some_iff _ _).mp done).2.2.1

/--
A rendered page hands its chart over to the event stream that it opens.

The page is rendered whenever its fragments can be, and everything is read off its own text: the
chart that it mounts and the target whose query the stream decodes. Both name the handle that the
view handed off, and the target asks for the very page, its filter included.
-/
theorem handsOver_pageAnswer (site : Site) {page : Page} (requested : page.Requested)
    (compress : Bool) (readings : List Reading)
    (fetched : site.feed.head.outcome = .ok readings) :
    (site.pageAnswer? page compress).isSome = (page.fragments? site.display readings).isSome
      ∧ ∀ answer, site.pageAnswer? page compress = some answer →
        ∃ view update disposals handle,
          (View.new page site.display).refresh? readings = some (view, update, disposals)
            ∧ view.handOff.1 = some handle
            ∧ HandsOver page site.display answer.response.body handle := by
  -- A successful fetch is shown by a new view.
  have shown : site.pageAnswer? page compress
      = ((View.new page site.display).refresh? readings).map (site.rendered page compress) := by
    rw [Site.pageAnswer?, fetched]
  rw [shown]
  constructor
  · -- Beside the fragments nothing stands in the way of an update.
    rw [Option.isSome_map, View.refresh?]
    exact Option.isSome_map
  · intro answer answered
    obtain ⟨⟨view, update, disposals⟩, refreshed, rfl⟩ := Option.map_eq_some_iff.mp answered
    obtain ⟨-, rfl, single, rfl⟩ := (View.refresh?_eq_some_iff _ _).mp refreshed
    -- The first chart of a page has the number 1.
    have handed : ((View.new page site.display).chart readings).1.handOff.1 = some 1 := by
      change ((View.new page site.display).chart readings).1.mounted.map ChartHandle.number = some 1
      rw [View.chart_mounted]
      rfl
    have handedOver := handsOver_document requested site.display single
      (show 1 + 1 < 2 ^ 64 by decide)
    exact ⟨_, update, _, 1, refreshed, handed, handedOver⟩

namespace Site

variable {site : Site} {page : Page} {compress : Bool} {readings : List Reading} {answer : Answer}

/-- Readings that were fetched are always shown on the overview. -/
theorem exists_overviewAnswer (fetched : site.feed.head.outcome = .ok readings) (compress : Bool) :
    ∃ answer, site.pageAnswer? .overview compress = some answer := by
  -- The overview writes out no times, so there is nothing that could fail.
  rw [pageAnswer?, fetched]
  exact ⟨_, rfl⟩

/-- A page that shows fetched readings has the update on it that a new view makes of them. -/
theorem exists_update (fetched : site.feed.head.outcome = .ok readings)
    (answered : site.pageAnswer? page compress = some answer) :
    ∃ view update disposals,
      (View.new page site.display).refresh? readings = some (view, update, disposals)
        ∧ answer.response.body = Shell.document site.display page (some update)
        ∧ update.charts = [((View.new page site.display).chart readings).2.1] := by
  -- A page is answered just when the new view has an update, which then stands in its document.
  rw [Site.pageAnswer?, fetched] at answered
  obtain ⟨⟨view, update, disposals⟩, refreshed, rfl⟩ := Option.map_eq_some_iff.mp answered
  have parts := (View.refresh?_eq_some_iff _ _).mp refreshed
  exact ⟨view, update, disposals, refreshed, rfl, parts.2.2.1⟩

end Site

/-- Without readings there is no time to write out, so a page can be rendered. -/
theorem Page.isSome_fragments?_nil (page : Page) (display : Display) :
    (page.fragments? display []).isSome = true := by
  cases page with
  | overview => rfl
  | details filter =>
    -- There are no rows to sort.
    have rows : (Details.ofReadings [] filter).rows = [] := by
      rw [Details.ofReadings, Projection.newestFirst, List.filter_nil, List.mergeSort_nil]
    rw [Page.fragments?, rows, Option.isSome_map, Fragment.dataTable?, Option.isSome_map]
    rfl

/-- The site whose first fetch gives no readings. -/
def Site.empty : Site where
  display := .standard
  feed := { name := "folder", head := { outcome := .ok [], notices := [], delay := 0 }, tail := [] }
  calls := 0

/-- The page of a room with a name full of marks hands its chart over. -/
theorem handsOver_marks : ∃ answer handle,
    Site.empty.pageAnswer? (.details (.ofQuery (some "a&b=c+%#\"</script>é"))) false = some answer
      ∧ HandsOver (.details (.ofQuery (some "a&b=c+%#\"</script>é"))) .standard
        answer.response.body handle := by
  -- The page is rendered, and whatever it is rendered as hands its chart over.
  obtain ⟨rendered, all⟩ := handsOver_pageAnswer Site.empty
    (.details (some "a&b=c+%#\"</script>é")) false [] rfl
  rw [Page.isSome_fragments?_nil] at rendered
  obtain ⟨answer, answered⟩ := Option.isSome_iff_exists.mp rendered
  obtain ⟨_, _, _, handle, -, -, handedOver⟩ := all answer answered
  exact ⟨answer, handle, answered, handedOver⟩

end RoomAir
