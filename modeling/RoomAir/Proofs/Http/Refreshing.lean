import RoomAir.Proofs.Http.HandOff
import RoomAir.Proofs.View.Containers

/-! Refreshes and whole pages: what a view sends is what a page of the same readings shows. -/

namespace RoomAir

/-- The update with its charts under another number and in the place of another chart. -/
def ViewUpdate.renumbered (update : ViewUpdate) (number : Nat) (replaces : Option Nat) :
    ViewUpdate :=
  { update with charts := update.charts.map fun chart =>
      { chart with chart := { chart.chart with number }, replaces } }

namespace View

/-- The update that a view sends of a reading set. -/
def update? (view : View) (readings : List Reading) : Option ViewUpdate :=
  (view.refresh? readings).map fun (_, update, _) => update

/-- Of all that a view holds, only the numbers of its charts and its page show in an update. -/
theorem update?_eq (view : View) (readings : List Reading) :
    view.update? readings
      = ((new view.page view.display).update? readings).map
        (·.renumbered view.next (view.mounted.map ChartHandle.number)) := by
  -- The fragments and the configuration are made of the page, the display and the readings alone.
  simp only [update?, refresh?, Option.map_map]
  rfl

/-- Whatever a view showed before, its update is that of a new view but for the numbers. -/
theorem update?_after (page : Page) (display : Display) (opening : Opening)
    (sets : List (List Reading)) (readings : List Reading) :
    ((opening.view page display).after sets).update? readings
      = ((new page display).update? readings).map
        (·.renumbered ((opening.view page display).after sets).next
          (((opening.view page display).after sets).mounted.map ChartHandle.number)) := by
  -- No step of a view's life changes its page or its display.
  rw [update?_eq, after_page, after_display, page_view, display_view]

end View

/-- A document shows an update: its fragments in the containers of the page, and its chart. -/
structure Shell.Shows (page : Page) (update : ViewUpdate) (document : String) : Prop where
  fragments : ∀ content ∈ page.contents update, ∃ fragment, content.2 = some fragment
    ∧ content.1.Holds document fragment
  chart : ∃ chart members, update.charts = [chart]
    ∧ initialCharts? document = some (.array [.object members])
    ∧ Json.lastValue? "config" members = some chart.config

/-- The document that is made for an update of a view shows the update. -/
theorem Shell.shows_document {view : View} {readings : List Reading} {update : ViewUpdate}
    (sent : view.update? readings = some update) :
    Shows view.page update (document view.display view.page (some update)) := by
  -- The update is taken apart into its fragments, which are held, and its chart, which is mounted.
  obtain ⟨⟨view', sends, notices⟩, refreshed, same⟩ := Option.map_eq_some_iff.mp sent
  obtain rfl : sends = update := same
  obtain ⟨made, -, single, -⟩ := (View.refresh?_eq_some_iff _ _).mp refreshed
  refine ⟨holds_document made, (view.chart readings).2.1, ?_⟩
  rw [initialCharts?_document, ViewUpdate.chartsJson, single]
  exact ⟨_, rfl, rfl, rfl⟩

/--
A page that is refreshed shows what a page that is rendered anew shows.

The page is rendered exactly when a new view has an update to send, which it shows: each container
holds its fragment, and the chart that is read back has the configuration that is sent.
A view that has shown other readings before sends the same update, but for the number of its chart
and that of the chart before it.
-/
theorem Site.shows_refreshed (site : Site) (page : Page) (compress : Bool)
    (readings : List Reading) (fetched : site.feed.head.outcome = .ok readings) :
    Option.Rel (fun answer update => Shell.Shows page update answer.response.body)
        (site.pageAnswer? page compress) ((View.new page site.display).update? readings)
      ∧ ∀ (opening : Opening) (sets : List (List Reading)),
        ((opening.view page site.display).after sets).update? readings
          = ((View.new page site.display).update? readings).map
            (·.renumbered ((opening.view page site.display).after sets).next
              (((opening.view page site.display).after sets).mounted.map ChartHandle.number)) := by
  refine ⟨?_, fun opening sets => View.update?_after page site.display opening sets readings⟩
  -- A successful fetch is shown by a new view.
  have rendered : site.pageAnswer? page compress
      = ((View.new page site.display).refresh? readings).map (site.rendered page compress) := by
    rw [pageAnswer?, fetched]
  rw [rendered]
  -- Both sides wait for the same refresh: without it there is neither an answer nor an update.
  cases refreshed : (View.new page site.display).refresh? readings with
  | none =>
    rw [View.update?, refreshed]
    exact .none
  | some step =>
    have sent : (View.new page site.display).update? readings = some step.2.1 := by
      rw [View.update?, refreshed]
      rfl
    rw [sent]
    exact .some (Shell.shows_document sent)

/-- A view that took over a chart and then showed another one still sends what is rendered. -/
theorem Site.shows_refreshed_resumed :
    ∃ answer update, Site.empty.pageAnswer? (.details .all) false = some answer
      ∧ Shell.Shows (.details .all) update answer.response.body
      ∧ ((View.resume (.details .all) .standard (some 7)).after [[]]).update? []
        = some (update.renumbered 9 (some 8)) := by
  obtain ⟨shown, refreshed⟩ := Site.shows_refreshed Site.empty (.details .all) false [] rfl
  -- Without readings there is no time to write out, so there is an update to send.
  have made := Page.isSome_fragments?_nil (.details .all) Site.empty.display
  obtain ⟨update, sent⟩ : ∃ update,
      (View.new (.details .all) Site.empty.display).update? [] = some update := by
    rw [← Option.isSome_iff_exists, View.update?, Option.isSome_map, View.refresh?]
    exact Option.isSome_map.trans made
  have later := refreshed (.resume (some 7)) [[]]
  rw [sent] at shown later
  -- The answer and the update are both there, so the relation between them is the second one.
  cases answered : Site.empty.pageAnswer? (.details .all) false with
  | none => rw [answered] at shown; cases shown
  | some answer =>
    rw [answered] at shown
    cases shown with
    | some shows => exact ⟨answer, update, rfl, shows, later⟩

end RoomAir
