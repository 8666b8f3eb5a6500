import RoomAir.Http.Site
import RoomAir.Proofs.Time.Pattern
import RoomAir.Proofs.View.Schedule
import RoomAir.Time.Timestamp

/-! Checked settings and rendering: which time formats are accepted, and which never fail. -/

namespace RoomAir

section Renderable

variable {display : Display}

/-- A table without rows has no time to render, and any other one needs the whole pattern. -/
theorem Fragment.isSome_dataTable? (rows : List Reading) (format : String) :
    (dataTable? rows format).isSome = true
      ↔ rows = [] ∨ (TimePattern.ofText format).IsRenderable := by
  simp only [dataTable?, Option.isSome_map, isSome_mapM, TimePattern.isSome_render?]
  -- A table fails with its first row that fails, and every row is rendered with the same pattern.
  cases rows with
  | nil => simp
  | cons reading rows =>
    -- The pattern is the same for every row, so one row decides.
    rw [List.forall_mem_cons]
    exact ⟨fun all => .inr all.1,
      fun one => ⟨one.resolve_left nofun, fun _ _ => one.resolve_left nofun⟩⟩

/-- A page has fragments for any reading set if times can be rendered. -/
theorem Page.isSome_fragments? (renderable : (TimePattern.ofText display.timeFormat).IsRenderable)
    (page : Page) (readings : List Reading) :
    (page.fragments? display readings).isSome = true := by
  -- Only the details have a table, so only they write out times.
  cases page with
  | overview => rfl
  | details filter =>
    rw [Page.fragments?, Option.isSome_map]
    exact (Fragment.isSome_dataTable? _ _).mpr (.inr renderable)

/-- A page is answered, whatever its fetch brings. -/
theorem Site.isSome_pageAnswer? {site : Site}
    (renderable : (TimePattern.ofText site.display.timeFormat).IsRenderable)
    (page : Page) (compress : Bool) : (site.pageAnswer? page compress).isSome = true := by
  rw [Site.pageAnswer?]
  -- After a failed fetch there is a message to show instead of readings.
  cases site.feed.head.outcome with
  | error error => rfl
  | ok readings =>
    simp only [Option.isSome_map, View.refresh?]
    exact Page.isSome_fragments? renderable page readings

/-- Every request is answered, and the site goes on with the same display. -/
theorem Site.exists_answer? {site : Site}
    (renderable : (TimePattern.ofText site.display.timeFormat).IsRenderable) (request : Request) :
    ∃ answer next, site.answer? request = some (answer, next) ∧ next.display = site.display := by
  -- Both pages are answered in this way, and the site goes on behind their fetch.
  have paged (page : Page) (compress : Bool) : ∃ answer next,
      (site.pageAnswer? page compress).map (·, site.fetched) = some (answer, next)
        ∧ next.display = site.display := by
    obtain ⟨answer, answered⟩ :=
      Option.isSome_iff_exists.mp (isSome_pageAnswer? renderable page compress)
    exact ⟨answer, site.fetched, by rw [answered, Option.map_some], rfl⟩
  unfold Site.answer? Site.respond
  cases request.resource with
  | health => exact ⟨_, _, rfl, rfl⟩
  | overviewPage => exact paged _ _
  | overviewData => exact ⟨_, _, rfl, rfl⟩
  | detailsPage =>
    -- A rejected query has an answer of its own, and any other one is for a page.
    cases Query.read false request.query with
    | error error => exact ⟨_, _, rfl, rfl⟩
    | ok query => exact paged _ _
  | detailsData =>
    cases Query.read false request.query with
    | error error => exact ⟨_, _, rfl, rfl⟩
    | ok query => exact ⟨_, _, rfl, rfl⟩

/-- Requests are answered one after the other. -/
theorem Site.isSome_answers? {site : Site}
    (renderable : (TimePattern.ofText site.display.timeFormat).IsRenderable)
    (requests : List Request) : (site.answers? requests).isSome = true := by
  -- Each answer leaves a site with the same display, so the next one can be given as well.
  induction requests generalizing site with
  | nil => rfl
  | cons request requests ih =>
    obtain ⟨answer, next, answered, same⟩ := exists_answer? renderable request
    rw [← same] at renderable
    obtain ⟨later, rest⟩ := Option.isSome_iff_exists.mp (ih renderable)
    simp [answers?, answered, rest]

/-- An event stream of any length is opened, whatever its fetches bring, if its timer ticks. -/
theorem LiveStream.isSome_open?
    (renderable : (TimePattern.ofText display.timeFormat).IsRenderable) (feed : Feed) (page : Page)
    (chart : Option Nat) (period limit : Nat) :
    (LiveStream.open? feed display page chart period limit).isSome = true
      ↔ Refresh.IsPeriod period := by
  -- A stream renders what its fetches bring, and all of that can be rendered.
  have all (fetches : List (Fetch × Nat × Nat)) :
      (Refresh.all? feed.name (.resume page display chart) fetches).isSome = true := by
    rw [Refresh.all?_isSome, ← Opening.view, View.page_view, View.display_view]
    exact fun timed _ readings _ => Page.isSome_fragments? renderable page readings
  -- Whatever fetches fall within the limit, nothing but their rendering can fail.
  by_cases ticks : Refresh.IsPeriod period
  · obtain ⟨fetches, calls, count, -, same⟩ :=
      Refresh.exists_fetches ticks feed (.resume page display chart) limit
    rw [iff_true_right ticks, open?, same]
    obtain ⟨run, made⟩ := Option.isSome_iff_exists.mp (all fetches)
    rw [made]
    rfl
  -- Without a first tick there is no stream, whatever could be rendered.
  · rw [iff_false_right ticks, open?, Refresh.run?_eq_none ticks]
    exact Bool.false_ne_true

end Renderable

/-- A display for which nothing fails: no table, no answer to a request and no event stream.

A stream is only kept from opening by a period in which no timer ticks.
-/
structure Display.NeverFails (display : Display) : Prop where
  table : ∀ rows, (Fragment.dataTable? rows display.timeFormat).isSome = true
  requests : ∀ site : Site, site.display = display →
    ∀ requests, (site.answers? requests).isSome = true
  stream : ∀ feed page chart period limit,
    (LiveStream.open? feed display page chart period limit).isSome = true
      ↔ Refresh.IsPeriod period

/-- A reading of which only the time matters. -/
def Reading.timed (time : Instant) : Reading :=
  { room := "", time, aqi := .zero false, temperature := none, co2 := none, humidity := none
    tvoc := none }

/-- Rendering a single time is all that can fail. -/
theorem Display.neverFails_iff (display : Display) :
    display.NeverFails ↔ (TimePattern.ofText display.timeFormat).IsRenderable := by
  constructor
  · intro never
    -- A table of one row is enough to tell that the pattern can be rendered.
    have table := never.table [.timed ⟨0, 0, 0⟩]
    exact ((Fragment.isSome_dataTable? _ _).mp table).resolve_left nofun
  · intro renderable
    exact {
      table := fun rows => (Fragment.isSome_dataTable? rows _).mpr (.inr renderable)
      requests := by
        rintro site rfl requests
        exact Site.isSome_answers? renderable requests
      stream := LiveStream.isSome_open? renderable }

/-- Settings are loaded only with a time format that is accepted. -/
theorem Settings.isAccepted_of_load {files : List (String × Bytes)}
    {environment : List (String × String)} {settings : Settings}
    (loaded : load files environment = .ok settings) :
    (TimePattern.ofText settings.display.timeFormat).isAccepted = true := by
  unfold load at loaded
  -- Loading goes through the file, the fields and the check, and settings come out of the last one.
  cases layer : ConfigFile.layer? files with
  | none => simp [layer] at loaded
  | some file =>
    simp only [layer, ofLayers] at loaded
    cases config : ofConfig (layered file (Environment.layer environment)) with
    | error error => simp [config, Except.bind] at loaded
    | ok unchecked =>
      simp only [config, Except.bind, checked] at loaded
      split at loaded
      case isTrue accepted =>
        rw [← Except.ok.inj loaded]
        exact accepted
      case isFalse => simp at loaded

/--
A time format renders every table exactly when it is accepted and converts nothing for reading only.

Such a conversion is written `%#z`.
Where it is missing, settings that are loaded display everything without failing.
-/
theorem accepted_iff_renders (format : String) :
    ((TimePattern.ofText format).isAccepted = true ∧ .readOnly ∉ TimePattern.ofText format
      ↔ ∀ rows : List Reading,
        (∀ reading ∈ rows, ∃ raw, Timestamp.read? raw = some reading.time) →
          (Fragment.dataTable? rows format).isSome = true)
    ∧ (.readOnly ∈ TimePattern.ofText format → ['%', '#', 'z'] <:+: format.toList)
    ∧ ∀ files environment settings, Settings.load files environment = .ok settings →
      settings.display.timeFormat = format →
        (settings.display.NeverFails ↔ .readOnly ∉ TimePattern.ofText format) := by
  -- A pattern can be rendered just when it is accepted and has no item that only reads.
  rw [← TimePattern.isRenderable_iff]
  refine ⟨⟨fun renderable rows _ => ?_, fun renders => ?_⟩, TimePattern.infix_of_readOnly_mem, ?_⟩
  · exact (Fragment.isSome_dataTable? rows format).mpr (.inr renderable)
  · -- One row with a time that some text spells is enough to try the pattern.
    obtain ⟨time, read⟩ : ∃ time, Timestamp.read? "2024-03-01" = some time :=
      Option.isSome_iff_exists.mp (by decide +kernel)
    have rendered := renders [.timed time] (List.forall_mem_singleton.mpr ⟨_, read⟩)
    exact ((Fragment.isSome_dataTable? _ _).mp rendered).resolve_left nofun
  -- Settings that are loaded were accepted, so the item is all that is left to ask for.
  · rintro files environment settings loaded rfl
    rw [Display.neverFails_iff, TimePattern.isRenderable_iff]
    exact and_iff_right (Settings.isAccepted_of_load loaded)

/-- The settings that are loaded from nothing display everything without failing. -/
theorem neverFails_defaults :
    ∃ settings, Settings.load [] [] = .ok settings ∧ settings.display.NeverFails := by
  have loads : (Settings.load [] []).toOption.map (fun settings => settings.display.timeFormat)
      = some "%d/%m/%Y, %H:%M:%S" := by
    decide +kernel
  obtain ⟨settings, loaded, format⟩ := exists_ok_of_map loads
  -- The pattern of the defaults is looked at item by item.
  have written : .readOnly ∉ TimePattern.ofText "%d/%m/%Y, %H:%M:%S" := by decide +kernel
  exact ⟨settings, loaded,
    ((accepted_iff_renders _).2.2 [] [] settings loaded format).mpr written⟩

/-- With `%#z` for their time format settings are loaded, and no page with a row is rendered. -/
theorem accepted_unrendered :
    let environment := [("DASHBOARD__DISPLAY__TIME_FORMAT", "%#z")]
    ∃ settings time, Settings.load [] environment = .ok settings
      ∧ Timestamp.read? "2024-03-01T10:00:00Z" = some time
      ∧ Fragment.dataTable? [.timed time] settings.display.timeFormat = none
      ∧ Site.answer? ⟨settings.display, ⟨"feed", ⟨.ok [.timed time], [], 0⟩, []⟩, 0⟩
          ⟨.detailsPage, none, []⟩ = none := by
  intro environment
  have loads : (Settings.load [] environment).toOption.map
      (fun settings => settings.display.timeFormat) = some "%#z" := by
    decide +kernel
  have reads : (Timestamp.read? "2024-03-01T10:00:00Z").isSome = true := by decide +kernel
  obtain ⟨settings, loaded, format⟩ := exists_ok_of_map loads
  obtain ⟨time, read⟩ := Option.isSome_iff_exists.mp reads
  -- The pattern is one item, and it has no text at any time.
  have pattern : TimePattern.ofText "%#z" = [.readOnly] := by decide +kernel
  have table : Fragment.dataTable? [.timed time] settings.display.timeFormat = none := by
    rw [format, Fragment.dataTable?, pattern]
    rfl
  -- The details page shows the reading in its table, so it is not rendered either.
  have rows : (Details.ofReadings [.timed time] .all).rows = [.timed time] :=
    List.mergeSort_singleton _
  have fragments : Page.fragments? (.details .all) settings.display [.timed time] = none := by
    rw [Page.fragments?, rows, table, Option.map_none]
  refine ⟨settings, time, loaded, read, table, ?_⟩
  -- Without a query all rooms are asked for, and the rest of the answer is never looked at.
  have accepted : Query.read false none = .ok ⟨none, none⟩ := rfl
  have everything : (⟨none, none⟩ : Query).filter = .all := rfl
  simp only [Site.answer?, Site.respond, accepted, everything, Site.pageAnswer?]
  simp [View.refresh?, View.new, fragments]

end RoomAir
