import Mathlib.Data.List.Forall2
import RoomAir.Proofs.View.LifeCycle
import RoomAir.View.Refresh

/-! Refreshes with failures among them: the page is sent what it would be sent without them. -/

namespace RoomAir

/-- The reading set of a fetch that succeeded. -/
def Fetch.readings? (fetch : Fetch) : Option (List Reading) :=
  fetch.outcome.toOption

namespace Refresh

/-- What the page is sent by refreshes, in order. -/
def updates (refreshes : List Refresh) : List ViewUpdate :=
  refreshes.filterMap update

/-- The reading sets of the fetches that succeeded, in order. -/
def readingSets (fetches : List (Fetch × Nat × Nat)) : List (List Reading) :=
  fetches.filterMap fun timed => timed.1.readings?

/-- What a view sends that shows reading sets one after the other, and the view afterwards. -/
def showAll? : View → List (List Reading) → Option (List ViewUpdate × View)
  | view, [] => some ([], view)
  | view, readings :: later => do
    let (view, update, _) ← view.refresh? readings
    let (updates, view) ← showAll? view later
    some (update :: updates, view)

/-- A run that shows a reading set first sends its update first. -/
theorem showAll?_cons {view last : View} {readings : List Reading} {later : List (List Reading)}
    {updates : List ViewUpdate}
    (shown : showAll? view (readings :: later) = some (updates, last)) :
    ∃ next update notices rest, view.refresh? readings = some (next, update, notices)
      ∧ showAll? next later = some (rest, last) ∧ updates = update :: rest := by
  -- The steps are a refresh and then the rest of the run, and both have to succeed.
  simp only [showAll?, Option.bind_eq_bind, Option.bind_eq_some_iff] at shown
  obtain ⟨⟨next, update, notices⟩, first, ⟨rest, final⟩, others, done⟩ := shown
  simp only [Option.some.injEq, Prod.mk.injEq] at done
  obtain ⟨rfl, rfl⟩ := done
  exact ⟨next, update, notices, rest, first, others, rfl⟩

/-- The first fetch comes first, if it succeeded. -/
theorem readingSets_cons (timed : Fetch × Nat × Nat) (later : List (Fetch × Nat × Nat)) :
    readingSets (timed :: later) = timed.1.readings?.toList ++ readingSets later := by
  cases found : timed.1.readings? <;> simp [readingSets, found]

/-- Refreshes send what the reading sets among their fetches make the view send. -/
theorem all?_eq_showAll? (feed : String) (view : View) (fetches : List (Fetch × Nat × Nat)) :
    (all? feed view fetches).map (fun run => (updates run.1, run.2))
      = showAll? view (readingSets fetches) := by
  -- The view is handed from fetch to fetch, so the induction is over any view.
  induction fetches generalizing view with
  | nil => rfl
  | cons timed later ih =>
    obtain ⟨fetch, started, finished⟩ := timed
    rw [readingSets_cons]
    cases outcome : fetch.outcome with
    | error error =>
      -- A failure hands the view on as it is and sends nothing.
      have failed : fetch.readings? = none := by simp [Fetch.readings?, outcome, Except.toOption]
      simp only [failed, Option.toList_none, List.nil_append, ← ih view]
      cases run : all? feed view later <;> simp [all?, attempt?, outcome, updates, run]
    | ok readings =>
      -- A success does what showing its reading set does.
      have fetched : fetch.readings? = some readings := by
        simp [Fetch.readings?, outcome, Except.toOption]
      simp only [fetched, Option.toList_some, List.singleton_append, showAll?]
      cases shown : view.refresh? readings with
      | none => simp [all?, attempt?, outcome, shown]
      | some result =>
        obtain ⟨next, update, notices⟩ := result
        simp only [Option.bind_eq_bind, Option.bind_some, ← ih next]
        cases run : all? feed next later <;>
          simp [all?, attempt?, outcome, updates, shown, run]

/-- An update shows a reading set on a page: its fragments, and a single chart in its slot. -/
def Shows (page : Page) (display : Display) (readings : List Reading) (update : ViewUpdate) :
    Prop :=
  page.fragments? display readings = some ⟨update.cards, update.selector, update.table⟩
    ∧ ∃ chart, update.charts = [chart] ∧ chart.chart.slot = page.slot
        ∧ chart.config = page.config readings

/-- The numbers of the charts that updates carry, in order. -/
def numbers (updates : List ViewUpdate) : List Nat :=
  updates.flatMap fun update => update.charts.map fun chart => chart.chart.number

/-- The numbers of the charts that updates replace, in order. -/
def replaced (updates : List ViewUpdate) : List (Option Nat) :=
  updates.flatMap fun update => update.charts.map ChartUpdate.replaces

/-- The first update comes first with its numbers. -/
theorem numbers_cons (update : ViewUpdate) (later : List ViewUpdate) :
    numbers (update :: later)
      = update.charts.map (fun chart => chart.chart.number) ++ numbers later :=
  List.flatMap_cons

/-- It also comes first with what its charts replace. -/
theorem replaced_cons (update : ViewUpdate) (later : List ViewUpdate) :
    replaced (update :: later) = update.charts.map ChartUpdate.replaces ++ replaced later :=
  List.flatMap_cons

/-! ## One fetch after the other -/

section Attempts

variable {page : Page} {display : Display} {view : View}

/-- Whether everything that a fetch brings can be rendered on a page. -/
def Renders (page : Page) (display : Display) (fetch : Fetch) : Prop :=
  ∀ readings, fetch.outcome = .ok readings → (page.fragments? display readings).isSome = true

/-- What the page is sent after a fetch: a success is shown, and a failure sends nothing. -/
structure Answers (page : Page) (display : Display) (fetch : Fetch) (update : Option ViewUpdate) :
    Prop where
  success : ∀ readings, fetch.outcome = .ok readings →
    ∃ shown, update = some shown ∧ Shows page display readings shown
  failure : ∀ error, fetch.outcome = .error error → update = none

/-- A refresh that begins and ends when its fetch does, and sends then what answers it. -/
structure Follows (page : Page) (display : Display) (timed : Fetch × Nat × Nat)
    (refresh : Refresh) : Prop where
  started : refresh.started = timed.2.1
  finished : refresh.finished = timed.2.2
  answers : Answers page display timed.1 refresh.update

/-- An attempt is made where its reading set can be rendered, and it answers the fetch. -/
theorem attempt?_spec (feed : String) (view : View) (fetch : Fetch) :
    ((attempt? feed view fetch).isSome = true ↔ Renders view.page view.display fetch)
      ∧ ∀ next update notices, attempt? feed view fetch = some (next, update, notices) →
        next.page = view.page ∧ next.display = view.display
          ∧ Answers view.page view.display fetch update := by
  rw [attempt?]
  cases outcome : fetch.outcome with
  | error error =>
    -- A failure is no hindrance, and it leaves the view as it is.
    refine ⟨by simp [Renders, outcome], fun next update notices attempted => ?_⟩
    simp only [Option.some.injEq, Prod.mk.injEq] at attempted
    obtain ⟨rfl, rfl, -⟩ := attempted
    exact ⟨rfl, rfl, by simp [outcome], fun _ _ => rfl⟩
  | ok readings =>
    -- A success is attempted as a refresh, which needs nothing but its fragments.
    refine ⟨by simp [Renders, outcome, View.refresh?], fun next update notices attempted => ?_⟩
    obtain ⟨⟨view', shown, disposals⟩, refreshed, same⟩ := Option.map_eq_some_iff.mp attempted
    simp only [Prod.mk.injEq] at same
    obtain ⟨rfl, rfl, -⟩ := same
    obtain ⟨fragments, rfl, charts, -⟩ := (View.refresh?_eq_some_iff _ _).mp refreshed
    refine ⟨View.chart_page .., View.chart_display .., fun found same => ?_, by simp [outcome]⟩
    obtain rfl := Except.ok.inj (outcome.symm.trans same)
    exact ⟨shown, rfl, fragments, _, charts, rfl, rfl⟩

/-- All refreshes are made where everything that is fetched can be rendered. -/
theorem all?_isSome (feed : String) (view : View) (fetches : List (Fetch × Nat × Nat)) :
    (all? feed view fetches).isSome = true
      ↔ ∀ timed ∈ fetches, Renders view.page view.display timed.1 := by
  -- One attempt after the other has to be made, each on the view that the last one left.
  induction fetches generalizing view with
  | nil => simp [all?]
  | cons timed later ih =>
    obtain ⟨fetch, started, finished⟩ := timed
    obtain ⟨possible, answers⟩ := attempt?_spec feed view fetch
    rw [List.forall_mem_cons, ← possible]
    cases attempted : attempt? feed view fetch with
    | none => simp [all?, attempted]
    | some result =>
      -- The page stays the same, so what can be rendered later can be rendered on it.
      obtain ⟨next, update, notices⟩ := result
      obtain ⟨page, display, -⟩ := answers next update notices attempted
      rw [← page, ← display, ← ih next]
      cases others : all? feed next later <;> simp [all?, attempted, others]

/-- The refreshes follow the fetches one by one. -/
theorem all?_follows {feed : String} {view last : View} {fetches : List (Fetch × Nat × Nat)}
    {refreshes : List Refresh} (run : all? feed view fetches = some (refreshes, last)) :
    List.Forall₂ (Follows view.page view.display) fetches refreshes := by
  -- The first refresh follows the first fetch, and the rest goes on from the view in between.
  induction fetches generalizing view refreshes with
  | nil =>
    simp only [all?, Option.some.injEq, Prod.mk.injEq] at run
    rw [← run.1]
    exact .nil
  | cons timed later ih =>
    obtain ⟨fetch, started, finished⟩ := timed
    simp only [all?, Option.bind_eq_bind, Option.bind_eq_some_iff] at run
    obtain ⟨⟨next, update, notices⟩, attempted, ⟨others, final⟩, goesOn, same⟩ := run
    simp only [Option.some.injEq, Prod.mk.injEq] at same
    obtain ⟨rfl, rfl⟩ := same
    obtain ⟨page, display, answers⟩ := (attempt?_spec feed view fetch).2 _ _ _ attempted
    rw [← page, ← display] at answers ⊢
    exact .cons ⟨rfl, rfl, answers⟩ (ih goesOn)

end Attempts

/-! ## What is sent -/

/-- Showing reading sets that can all be rendered is charting them and sending each chart. -/
theorem showAll?_eq_some {view last : View} {sets : List (List Reading)}
    {updates : List ViewUpdate} (shown : showAll? view sets = some (updates, last)) :
    last = view.after sets
      ∧ List.Forall₂ (Shows view.page view.display) sets updates
      ∧ numbers updates = (view.issued sets).map ChartHandle.number
      ∧ replaced updates
          = ((view.mounted.map ChartHandle.number) :: (numbers updates).map some).dropLast := by
  -- Four facts go along with the run, as each step changes the view that the next one starts from.
  induction sets generalizing view updates with
  | nil =>
    simp only [showAll?, Option.some.injEq, Prod.mk.injEq] at shown
    obtain ⟨rfl, rfl⟩ := shown
    exact ⟨rfl, .nil, rfl, rfl⟩
  | cons readings sets ih =>
    obtain ⟨next, update, notices, rest, first, others, rfl⟩ := showAll?_cons shown
    obtain ⟨fragments, rfl, charts, -⟩ := (View.refresh?_eq_some_iff _ _).mp first
    obtain ⟨last, each, given, before⟩ := ih others
    -- Page and display stay the same, so the rest is shown on the page that was there before.
    rw [View.chart_page, View.chart_display] at each
    refine ⟨last, .cons ⟨fragments, _, charts, rfl, rfl⟩ each, ?_, ?_⟩
    · rw [numbers_cons, charts, given]
      rfl
    · -- The chart just mounted is the one that the next update replaces.
      rw [View.chart_mounted] at before
      rw [replaced_cons, numbers_cons, charts, before]
      rfl

/-- What is shown before is sent before: a shorter run sends a part of the updates. -/
theorem showAll?_append {view last : View} {sets later : List (List Reading)}
    {updates : List ViewUpdate} (shown : showAll? view (sets ++ later) = some (updates, last)) :
    ∃ first middle, showAll? view sets = some (first, middle) ∧ first <+: updates := by
  -- The induction is on the sets of the shorter run, which is a part of the longer one.
  induction sets generalizing view updates with
  | nil => exact ⟨[], view, rfl, List.nil_prefix⟩
  | cons readings sets ih =>
    obtain ⟨next, update, notices, rest, head, others, rfl⟩ := showAll?_cons shown
    -- The first update is sent either way, and the shorter run goes on with a part of the rest.
    obtain ⟨first, middle, sent, part⟩ := ih others
    exact ⟨update :: first, middle, by simp [showAll?, head, sent],
      List.cons_prefix_cons.mpr ⟨rfl, part⟩⟩

/-- Without a tick of the timer there is no run. -/
theorem run?_eq_none {period : Nat} (still : ¬IsPeriod period) (feed : Feed) (view : View)
    (limit : Nat) : run? feed view period limit = none := by
  -- The guard comes before anything else.
  rw [run?, guard, if_neg still]
  rfl

/-- Where the timer ticks, a run is made of the first fetches of the feed. -/
theorem exists_fetches {period : Nat} (ticks : IsPeriod period) (feed : Feed) (view : View)
    (limit : Nat) :
    ∃ fetches calls count, fetches.map Prod.fst <+: feed.take count
      ∧ run? feed view period limit
        = (all? feed.name view fetches).map fun (refreshes, last) => ⟨refreshes, calls, last⟩ := by
  -- Fetches are only taken off the end: those not begun in time, then those not ended in time.
  have front (fetches : List Fetch) (times : List (Nat × Nat)) :
      (fetches.zip times).map Prod.fst <+: fetches := by
    induction fetches generalizing times with
    | nil => simp
    | cons fetch later ih => cases times <;> simp [ih]
  -- A run is made of the refreshes and of the number of calls, which is known beforehand.
  have same (fetches : List (Fetch × Nat × Nat)) (calls : Nat) :
      (all? feed.name view fetches >>= fun (refreshes, last) =>
          some (⟨refreshes, calls, last⟩ : RefreshRun))
        = (all? feed.name view fetches).map fun (refreshes, last) => ⟨refreshes, calls, last⟩ := by
    cases all? feed.name view fetches <;> rfl
  rw [run?, guard, if_pos ticks, pure_bind]
  refine ⟨_, _, limit / period + 1, ?_, same _ _⟩
  exact (((List.takeWhile_prefix _).trans (List.takeWhile_prefix _)).map _).trans (front _ _)

/-- The refreshes of a page up to a moment are those of the first fetches of its feed. -/
theorem exists_all?_of_run? {feed : Feed} {view : View} {period limit : Nat} {run : RefreshRun}
    (ran : run? feed view period limit = some run) :
    ∃ fetches count, fetches.map Prod.fst <+: feed.take count
      ∧ all? feed.name view fetches = some (run.refreshes, run.view) := by
  -- A run that was made is one whose timer ticks.
  by_cases ticks : IsPeriod period
  · obtain ⟨fetches, calls, count, front, same⟩ := exists_fetches ticks feed view limit
    obtain ⟨⟨refreshes, last⟩, all, rfl⟩ := Option.map_eq_some_iff.mp (same.symm.trans ran)
    exact ⟨fetches, count, front, all⟩
  · rw [run?_eq_none ticks] at ran
    cases ran

/-- The fetches that succeeded make the same reading sets as all fetches, whenever they are made. -/
theorem readingSets_eq_of_filter {fetches others : List (Fetch × Nat × Nat)}
    (same : others.map Prod.fst
      = (fetches.map Prod.fst).filter fun fetch => fetch.readings?.isSome) :
    readingSets others = readingSets fetches := by
  -- When a fetch is made does not matter for what it brings.
  have ofFetches (timed : List (Fetch × Nat × Nat)) :
      readingSets timed = (timed.map Prod.fst).filterMap Fetch.readings? := by
    simp [readingSets, List.filterMap_map]
  rw [ofFetches, ofFetches, same, List.filterMap_filter]
  -- A fetch without a reading set adds none, so it makes no difference whether it is there.
  congr 1
  funext fetch
  cases found : fetch.readings? <;> simp

/-- A view that has shown reading sets is closed by disposing of the chart it had last. -/
theorem disposals_close_after (page : Page) (display : Display) (opening : Opening)
    (sets : List (List Reading)) :
    disposals ((opening.view page display).after sets).close
      = (((opening.mounted.toList
            ++ ((opening.view page display).issued sets).map ChartHandle.number).getLast?).map
          (ChartHandle.mk page.slot)).toList := by
  have single := (View.singleChart_view page display opening).after sets
  -- The mounted chart is the one that was owned last, and all of them are in the page's slot.
  have handles : (opening.view page display).owned sets
      = (opening.mounted.toList
          ++ ((opening.view page display).issued sets).map ChartHandle.number).map
        (ChartHandle.mk page.slot) := by
    have issued := View.issued_eq_map_number (opening.view page display) sets
    rw [View.page_view] at issued
    rw [View.owned, View.mounted_view, List.map_append, ← issued]
    cases opening.mounted <;> rfl
  -- Closing disposes of the mounted chart alone.
  rw [single.close_eq, disposals_append, disposals_map_disposed, disposals_tornDown,
    List.append_nil, View.after_mounted, handles, List.getLast?_map]

/--
Failed fetches leave no trace on a page, however they are mixed with successes.

The page is sent what it would be sent without them. As long as there are numbers for its charts,
the refreshes are made exactly where every success can be rendered, and there is one update for each
success in order. Each update has the next number and replaces the chart of the one before, the
first one the chart that was taken over.
Stopped at any point, the view disposes of the chart that the page was sent last.
-/
theorem failures_leave_no_trace (page : Page) (display : Display) (opening : Opening)
    (feed : String) (fetches : List (Fetch × Nat × Nat)) :
    let sent := fun fetches =>
      (all? feed (opening.view page display) fetches).map fun run => updates run.1
    (∀ others : List (Fetch × Nat × Nat),
      others.map Prod.fst = (fetches.map Prod.fst).filter (fun fetch => fetch.readings?.isSome) →
      sent others = sent fetches)
    ∧ (opening.mounted.getD 0 + 1 + (readingSets fetches).length < 2 ^ 64 →
      ((all? feed (opening.view page display) fetches).isSome = true
        ↔ ∀ timed ∈ fetches, Renders page display timed.1)
      ∧ ∀ refreshes last, all? feed (opening.view page display) fetches = some (refreshes, last) →
        List.Forall₂ (Shows page display) (readingSets fetches) (updates refreshes)
        ∧ numbers (updates refreshes)
          = List.range' (opening.mounted.getD 0 + 1) (readingSets fetches).length
        ∧ replaced (updates refreshes)
          = (opening.mounted :: (numbers (updates refreshes)).map some).dropLast
        ∧ ∀ consumed, consumed <+: fetches →
          ∃ earlier stopped,
            all? feed (opening.view page display) consumed = some (earlier, stopped)
            ∧ updates earlier <+: updates refreshes
            ∧ disposals stopped.close
              = (((opening.mounted.toList ++ numbers (updates earlier)).getLast?).map
                  (ChartHandle.mk page.slot)).toList) := by
  have asShown (timed : List (Fetch × Nat × Nat)) :=
    all?_eq_showAll? feed (opening.view page display) timed
  refine ⟨fun others same => ?_, fun free => ⟨?_, fun refreshes last run => ?_⟩⟩
  · -- What is sent depends on the reading sets alone.
    have equal := (asShown others).trans
      ((congrArg _ (readingSets_eq_of_filter same)).trans (asShown fetches).symm)
    simpa [Option.map_map, Function.comp_def] using congrArg (Option.map Prod.fst) equal
  -- The page and the display stay what they were at the opening.
  · rw [all?_isSome, View.page_view, View.display_view]
  · have shown := asShown fetches
    rw [run, Option.map_some] at shown
    obtain ⟨-, each, given, before⟩ := showAll?_eq_some shown.symm
    rw [View.page_view, View.display_view] at each
    rw [View.mounted_view, Option.map_map] at before
    -- There are numbers for all charts, so they are given one after the other.
    have next := View.next_view page display opening (by omega)
    rw [View.numbers_issued _ _ (next ▸ free), next] at given
    refine ⟨each, given, by simpa [Function.comp_def] using before, ?_⟩
    -- What was consumed shows the first reading sets, and the view is left as it was then.
    rintro consumed ⟨remaining, rfl⟩
    rw [readingSets, List.filterMap_append] at shown
    obtain ⟨first, middle, sent, part⟩ := showAll?_append shown.symm
    -- The refreshes of what was consumed are made as well, since those of all fetches were.
    obtain ⟨⟨earlier, stopped⟩, ran, result⟩ :=
      Option.map_eq_some_iff.mp ((asShown consumed).trans sent)
    simp only [Prod.mk.injEq] at result
    obtain ⟨rfl, rfl⟩ := result
    obtain ⟨rfl, -, given, -⟩ := showAll?_eq_some sent
    exact ⟨earlier, _, ran, part, by rw [given, disposals_close_after]⟩

/-- Two successes between failures replace chart 7 and then the chart after it, number by number. -/
theorem failures_leave_no_trace_mixed :
    let failed : Fetch := .ofFailure (.status "feed" 503)
    let fetched : Fetch := ⟨.ok [], [], 0⟩
    let fetches := [failed, fetched, failed, fetched, failed].map fun fetch => (fetch, 0, 0)
    (Opening.resume (some 7)).mounted.getD 0 + 1 + (readingSets fetches).length < 2 ^ 64
    ∧ ∃ refreshes last,
      all? "feed" (Opening.view .overview .standard (.resume (some 7))) fetches
          = some (refreshes, last)
        ∧ refreshes.length = 5
        ∧ numbers (updates refreshes) = [8, 9]
        ∧ replaced (updates refreshes) = [some 7, some 8]
        ∧ disposals last.close = [⟨.overview, 9⟩] := by
  intro failed fetched fetches
  -- Chart 9 is far from the last number.
  have free : (Opening.resume (some 7)).mounted.getD 0 + 1 + (readingSets fetches).length
      < 2 ^ 64 := by
    decide
  obtain ⟨possible, sent⟩ :=
    (failures_leave_no_trace .overview .standard (.resume (some 7)) "feed" fetches).2 free
  -- The overview renders whatever is fetched.
  have made := possible.mpr fun _ _ _ _ => rfl
  obtain ⟨⟨refreshes, last⟩, ran⟩ := Option.isSome_iff_exists.mp made
  obtain ⟨-, given, before, stops⟩ := sent refreshes last ran
  -- Stopped after all of its fetches, the view is the last one.
  obtain ⟨earlier, stopped, again, -, disposed⟩ := stops fetches List.prefix_rfl
  obtain ⟨rfl, rfl⟩ := Prod.mk.inj (Option.some.inj (ran.symm.trans again))
  have twice : numbers (updates refreshes) = [8, 9] := given
  refine ⟨free, refreshes, last, ran, (all?_follows ran).length_eq.symm, twice, ?_, ?_⟩
  · rw [before, twice]
    rfl
  · rw [disposed, twice]
    rfl

end Refresh

end RoomAir
