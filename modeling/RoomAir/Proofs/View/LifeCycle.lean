import Mathlib.Data.List.Basic
import Mathlib.Data.List.Nodup
import Mathlib.Data.List.Range
import RoomAir.View.Basic

/-! The life of a view: which charts it owns at any time, and that each is disposed of once. -/

namespace RoomAir

/-- The chart that a notice says was disposed of. -/
def Notice.disposedChart? : Notice → Option ChartHandle
  | .disposed chart => some chart
  | _ => none

/-- The charts that were disposed of, in order. -/
def disposals (notices : List Notice) : List ChartHandle :=
  notices.filterMap Notice.disposedChart?

/-- What is reported later is disposed of later. -/
@[simp] theorem disposals_append (first second : List Notice) :
    disposals (first ++ second) = disposals first ++ disposals second :=
  List.filterMap_append

/-- Reporting the disposal of charts reports just those charts. -/
@[simp] theorem disposals_map_disposed (charts : List ChartHandle) :
    disposals (charts.map .disposed) = charts := by
  simp [disposals, List.filterMap_map, Function.comp_def, Notice.disposedChart?]

/-- Telling of the end of a view disposes of nothing. -/
@[simp] theorem disposals_tornDown (page : Page) (count : Nat) :
    disposals [.tornDown page count] = [] := rfl

/-- How a view begins: on a page without charts, or with the chart that is mounted there. -/
inductive Opening where
  | new
  | resume (mounted : Option Nat)

namespace Opening

/-- The number of the chart that is mounted when the view begins. -/
def mounted : Opening → Option Nat
  | .new => none
  | .resume mounted => mounted

/-- The view that begins. -/
def view (page : Page) (display : Display) : Opening → View
  | .new => .new page display
  | .resume mounted => .resume page display mounted

/-- A new view is one that takes over nothing. -/
theorem view_eq_resume (page : Page) (display : Display) (opening : Opening) :
    opening.view page display = .resume page display opening.mounted := by
  cases opening <;> rfl

end Opening

namespace View

/-! ## One step -/

/-- A count that fits is kept as it is. -/
theorem counted_of_lt {count : Nat} (fits : count < 2 ^ 64) : counted count = count :=
  Nat.mod_eq_of_lt fits

/-- Counting on from a kept count is counting on from the count itself. -/
@[simp] theorem counted_counted_add (count more : Nat) :
    counted (counted count + more) = counted (count + more) :=
  Nat.mod_add_mod ..

/-- A kept count is kept as it is. -/
@[simp] theorem counted_counted (count : Nat) : counted (counted count) = counted count :=
  Nat.mod_mod ..

section Step

variable (view : View) (readings : List Reading)

/-- A page stays the page that it is. -/
@[simp] theorem chart_page : (view.chart readings).1.page = view.page := rfl

/-- It is displayed as before. -/
@[simp] theorem chart_display : (view.chart readings).1.display = view.display := rfl

/-- One number is used up. -/
@[simp] theorem chart_next : (view.chart readings).1.next = counted (view.next + 1) := rfl

/-- The new chart is in the slot of the page, with the number that was the next one. -/
@[simp] theorem chart_charts :
    (view.chart readings).1.charts
      = view.charts.set view.page.slot (some ⟨view.page.slot, view.next⟩) := rfl

/-- The chart that it replaces, if any, is counted. -/
@[simp] theorem chart_disposed :
    (view.chart readings).1.disposed
      = counted (view.disposed + view.mounted.toList.length) := rfl

/-- The chart that was just mounted is the one in the page's slot. -/
@[simp] theorem chart_mounted :
    (view.chart readings).1.mounted = some ⟨view.page.slot, view.next⟩ := by
  simp [mounted]

/-- A reading set gets a chart with the next number in the page's slot. -/
@[simp] theorem chart_handle :
    (view.chart readings).2.1.chart = ⟨view.page.slot, view.next⟩ := rfl

/-- The new chart replaces the one that was mounted. -/
@[simp] theorem chart_replaces :
    (view.chart readings).2.1.replaces = view.mounted.map ChartHandle.number := rfl

/-- The chart that was mounted is disposed of, and no other one. -/
@[simp] theorem chart_notices :
    (view.chart readings).2.2 = view.mounted.toList.map .disposed := rfl

/-- A refresh that succeeds has charted the reading set and sends that one chart. -/
theorem refresh?_eq_some_iff {view' : View} {update : ViewUpdate} {notices : List Notice} :
    view.refresh? readings = some (view', update, notices) ↔
      view.page.fragments? view.display readings
          = some ⟨update.cards, update.selector, update.table⟩
        ∧ view' = (view.chart readings).1 ∧ update.charts = [(view.chart readings).2.1]
        ∧ notices = (view.chart readings).2.2 := by
  -- The update is put together from the fragments and the chart, so each part is known.
  simp only [refresh?, Option.map_eq_some_iff, Prod.mk.injEq]
  constructor
  · rintro ⟨fragments, found, rfl, rfl, rfl⟩
    exact ⟨found, rfl, rfl, rfl⟩
  · rintro ⟨found, rfl, charts, rfl⟩
    obtain ⟨cards, selector, table, updateCharts⟩ := update
    subst charts
    exact ⟨_, found, rfl, rfl, rfl⟩

end Step

/-! ## The invariant -/

/-- Only the page's own slot may be filled, and by a chart of that slot. -/
structure SingleChart (view : View) : Prop where
  charts_eq : view.charts = ChartMap.empty.set view.page.slot view.mounted
  slot_eq : ∀ chart ∈ view.mounted, chart.slot = view.page.slot

/-- Beyond that, the chart's number comes before the numbers that are still to be given. -/
structure WellKept (view : View) : Prop extends SingleChart view where
  number_lt : ∀ chart ∈ view.mounted, chart.number < view.next

namespace SingleChart

variable {view : View}

/-- The chart of the page's slot is the only one. -/
theorem toList_charts (single : view.SingleChart) :
    view.charts.toList = view.mounted.toList := by
  rw [single.charts_eq, ChartMap.toList_set_empty]

/-- A chart in any slot is the mounted one of the page's own slot. -/
theorem of_get (single : view.SingleChart) {slot : ChartSlot} {chart : ChartHandle}
    (found : view.charts.get slot = some chart) :
    slot = view.page.slot ∧ chart ∈ view.mounted := by
  -- In any other slot nothing was ever set.
  have own : slot = view.page.slot := by
    by_contra different
    rw [single.charts_eq, ChartMap.get_set_of_ne _ _ different, ChartMap.get_empty] at found
    exact absurd found (by simp)
  -- In the page's own slot the chart is the mounted one by what that means.
  subst own
  exact ⟨rfl, found⟩

/-- Charting a reading set leaves a single chart. -/
theorem chart (single : view.SingleChart) (readings : List Reading) :
    (view.chart readings).1.SingleChart where
  charts_eq := by simp [single.charts_eq]
  -- The new chart was made for the slot of the page.
  slot_eq := by simp

/-- Closing a view disposes of its chart and reports the count. -/
theorem close_eq (single : view.SingleChart) :
    view.close = view.mounted.toList.map .disposed
      ++ [.tornDown view.page (counted (view.disposed + view.mounted.toList.length))] := by
  simp [close, disposeAll, single.toList_charts]

/-- Handing off a view disposes of nothing. -/
theorem handOff_eq (single : view.SingleChart) :
    view.handOff
      = (view.mounted.map ChartHandle.number, [.tornDown view.page (counted view.disposed)]) := by
  -- The only chart has been taken out before everything is disposed of.
  simp [handOff, close, disposeAll, single.charts_eq]

end SingleChart

/-- Charting a reading set keeps the invariant, as long as there is a number after the next. -/
theorem WellKept.chart {view : View} (kept : view.WellKept) (free : view.next + 1 < 2 ^ 64)
    (readings : List Reading) : (view.chart readings).1.WellKept :=
  { kept.toSingleChart.chart readings with number_lt := by simp [counted_of_lt free] }

/-- Whatever a view begins with, it has at most a single chart. -/
theorem singleChart_view (page : Page) (display : Display) (opening : Opening) :
    (opening.view page display).SingleChart := by
  -- A new view has no chart, and a resumed one has the chart that it takes over.
  rw [Opening.view_eq_resume]
  constructor <;> cases opening.mounted <;> simp [resume, new, mounted]

/-- A view is well kept from its beginning, where the numbers do not run out at once. -/
theorem wellKept_view (page : Page) (display : Display) (opening : Opening)
    (free : opening.mounted.getD 0 + 1 < 2 ^ 64) : (opening.view page display).WellKept := by
  -- Only the number is left to look at, as there is a single chart in any case.
  refine { singleChart_view page display opening with number_lt := ?_ }
  rw [Opening.view_eq_resume]
  cases found : opening.mounted with
  | none => simp [resume, new, mounted]
  | some number =>
    -- The next number is the one after the chart's, as long as there is one.
    rw [found, Option.getD_some] at free
    simp only [resume, mounted, ChartMap.get_set_self, Option.mem_some_iff, new]
    rintro _ rfl
    simp only [largestNumber]
    omega

/-- The first number that a view gives is the one after the chart that it takes over. -/
theorem next_view (page : Page) (display : Display) (opening : Opening)
    (free : opening.mounted.getD 0 + 1 < 2 ^ 64) :
    (opening.view page display).next = opening.mounted.getD 0 + 1 := by
  -- A chart that is taken over gives the number before the next one, unless numbers have run out.
  rw [Opening.view_eq_resume]
  cases found : opening.mounted with
  | none => rfl
  | some number =>
    rw [found, Option.getD_some] at free
    simp only [resume, Option.getD_some, largestNumber]
    omega

/-- The chart that a view begins with is the one that it takes over. -/
theorem mounted_view (page : Page) (display : Display) (opening : Opening) :
    (opening.view page display).mounted
      = opening.mounted.map (ChartHandle.mk page.slot) := by
  -- What a view takes over stands in the slot of its page.
  rw [Opening.view_eq_resume]
  cases opening.mounted <;> simp [resume, new, mounted]

/-- A view begins on the page that it is for. -/
@[simp] theorem page_view (page : Page) (display : Display) (opening : Opening) :
    (opening.view page display).page = page := by
  rw [Opening.view_eq_resume]
  cases opening.mounted <;> rfl

/-- It begins with the display that it is given. -/
@[simp] theorem display_view (page : Page) (display : Display) (opening : Opening) :
    (opening.view page display).display = display := by
  rw [Opening.view_eq_resume]
  cases opening.mounted <;> rfl

/-- Nothing has been disposed of when it begins. -/
@[simp] theorem disposed_view (page : Page) (display : Display) (opening : Opening) :
    (opening.view page display).disposed = 0 := by
  rw [Opening.view_eq_resume]
  cases opening.mounted <;> rfl

/-! ## Runs -/

/-- The view after a run of reading sets, and what each of them mounted and reported. -/
def chartAll : View → List (List Reading) → View × List (ChartUpdate × List Notice)
  | view, [] => (view, [])
  | view, readings :: later =>
    let first := view.chart readings
    let rest := chartAll first.1 later
    (rest.1, first.2 :: rest.2)

/-- The view after a run. -/
def after (view : View) (sets : List (List Reading)) : View :=
  (view.chartAll sets).1

/-- The charts that a run mounts, in order. -/
def issued (view : View) (sets : List (List Reading)) : List ChartHandle :=
  (view.chartAll sets).2.map fun step => step.1.chart

/-- What a run reports, in order. -/
def reported (view : View) (sets : List (List Reading)) : List Notice :=
  (view.chartAll sets).2.flatMap fun step => step.2

/-- Every chart that the view ever has during a run: the one it takes over, then those it mounts. -/
def owned (view : View) (sets : List (List Reading)) : List ChartHandle :=
  view.mounted.toList ++ view.issued sets

section Run

variable (view : View) (readings : List Reading) (sets later : List (List Reading))

/-- Without reading sets nothing happens. -/
@[simp] theorem after_nil : view.after [] = view := rfl

/-- A run goes on from the view that its first reading set leaves. -/
@[simp] theorem after_cons :
    view.after (readings :: sets) = (view.chart readings).1.after sets := rfl

/-- Without reading sets no chart is mounted. -/
@[simp] theorem issued_nil : view.issued [] = [] := rfl

/-- The first chart of a run has the next number. -/
@[simp] theorem issued_cons :
    view.issued (readings :: sets)
      = ⟨view.page.slot, view.next⟩ :: (view.chart readings).1.issued sets := rfl

/-- Without reading sets nothing is reported. -/
@[simp] theorem reported_nil : view.reported [] = [] := rfl

/-- The first report is about the chart that was mounted before. -/
@[simp] theorem reported_cons :
    view.reported (readings :: sets)
      = view.mounted.toList.map .disposed ++ (view.chart readings).1.reported sets := rfl

/-- A run ends where its second part leads from the end of its first part. -/
theorem after_append : view.after (sets ++ later) = (view.after sets).after later := by
  -- The first part of the run is gone through one reading set at a time.
  induction sets generalizing view with
  | nil => rfl
  | cons readings sets ih => simp [ih]

/-- A run stays on its page. -/
@[simp] theorem after_page : (view.after sets).page = view.page := by
  induction sets generalizing view with
  | nil => rfl
  | cons readings sets ih => simp [ih]

/-- A run keeps to its display. -/
@[simp] theorem after_display : (view.after sets).display = view.display := by
  induction sets generalizing view with
  | nil => rfl
  | cons readings sets ih => simp [ih]

/-- A run leaves a single chart. -/
theorem SingleChart.after {view : View} (single : view.SingleChart) :
    (view.after sets).SingleChart := by
  -- One step at a time the invariant is handed on.
  induction sets generalizing view with
  | nil => exact single
  | cons readings sets ih => exact ih (single.chart readings)

/-- A run keeps the invariant, as long as there are numbers. -/
theorem WellKept.after {view : View} (kept : view.WellKept)
    (free : view.next + sets.length < 2 ^ 64) : (view.after sets).WellKept := by
  -- Each step uses up a number, and the later ones still have theirs.
  induction sets generalizing view with
  | nil => exact kept
  | cons readings sets ih =>
    rw [List.length_cons] at free
    have next : (view.chart readings).1.next = view.next + 1 := counted_of_lt (by omega)
    exact ih (kept.chart (by omega) readings) (by omega)

/-- A run mounts one chart for each reading set. -/
theorem length_issued : (view.issued sets).length = sets.length := by
  -- Each step mounts a chart of its own.
  induction sets generalizing view with
  | nil => rfl
  | cons readings sets ih => rw [issued_cons, List.length_cons, ih, List.length_cons]

/-- All charts of a run are in the page's slot, whatever their numbers are. -/
theorem issued_eq_map_number :
    view.issued sets
      = ((view.issued sets).map ChartHandle.number).map (ChartHandle.mk view.page.slot) := by
  -- No step leaves the page, so each chart is made for the same slot.
  induction sets generalizing view with
  | nil => rfl
  | cons readings sets ih =>
    have rest := ih (view.chart readings).1
    rw [chart_page] at rest
    rw [issued_cons, List.map_cons, List.map_cons, ← rest]

/-- The charts of a run are numbered one after the other, as long as there are numbers. -/
theorem numbers_issued (free : view.next + sets.length < 2 ^ 64) :
    (view.issued sets).map ChartHandle.number = List.range' view.next sets.length := by
  -- The next number goes up by one with each step, as it stays below what 64 bits hold.
  induction sets generalizing view with
  | nil => rfl
  | cons readings sets ih =>
    rw [List.length_cons] at free
    -- The first chart takes the next number, and the rest of the run goes on after it.
    have next : (view.chart readings).1.next = view.next + 1 := counted_of_lt (by omega)
    rw [issued_cons, List.map_cons, ih _ (by omega), next, List.length_cons, List.range'_succ]

/-- The charts that a view owned are those it disposed of, and then the one that is mounted. -/
theorem owned_eq_disposals_append :
    view.owned sets = disposals (view.reported sets) ++ (view.after sets).mounted.toList := by
  -- The ledger is kept from the end: a step disposes of one chart and mounts another one.
  induction sets generalizing view with
  | nil => simp [owned, disposals]
  | cons readings sets ih =>
    -- The chart mounted in this step is the one the rest of the run begins with.
    have rest := ih (view.chart readings).1
    rw [owned, chart_mounted, Option.toList_some, List.singleton_append] at rest
    rw [owned, issued_cons, rest, reported_cons, disposals_append, disposals_map_disposed,
      after_cons, List.append_assoc]

/-- The count of disposed charts rises by one with each disposal. -/
theorem after_disposed (small : view.disposed < 2 ^ 64) :
    (view.after sets).disposed
      = counted (view.disposed + (disposals (view.reported sets)).length) := by
  -- The counter and the list of disposals grow by the same charts at every step.
  induction sets generalizing view with
  | nil => simp [disposals, counted_of_lt small]
  | cons readings sets ih =>
    -- A step disposes of the chart that was mounted, and it counts just as many.
    have next : (view.chart readings).1.disposed < 2 ^ 64 := Nat.mod_lt _ (by decide)
    rw [after_cons, ih _ next, chart_disposed, reported_cons, disposals_append,
      disposals_map_disposed, List.length_append, counted_counted_add, Nat.add_assoc]

/-- The chart that is mounted is always the one that was owned last. -/
theorem after_mounted : (view.after sets).mounted = (view.owned sets).getLast? := by
  -- The last chart owned is looked for behind the first step, which has mounted one already.
  induction sets generalizing view with
  | nil => cases found : view.mounted <;> simp [owned, found]
  | cons readings sets ih =>
    -- Something is owned after the first step, so what came before it is not the last.
    rw [after_cons, ih, owned, owned, chart_mounted, issued_cons, Option.toList_some,
      List.singleton_append]
    exact (List.getLast?_append_of_ne_nil _ (by simp)).symm

end Run

/-- Over a run the numbers only rise, from the chart that was taken over on. -/
theorem numbers_pairwise (page : Page) (display : Display) (opening : Opening)
    (sets : List (List Reading)) (free : opening.mounted.getD 0 + 1 + sets.length < 2 ^ 64) :
    (((opening.view page display).owned sets).map ChartHandle.number).Pairwise (· < ·) := by
  have next := next_view page display opening (by omega)
  have numbers : ((opening.view page display).owned sets).map ChartHandle.number
      = opening.mounted.toList ++ List.range' (opening.mounted.getD 0 + 1) sets.length := by
    rw [owned, List.map_append, numbers_issued _ _ (next ▸ free), mounted_view, next]
    cases opening.mounted <;> rfl
  -- The numbers that were given rise among themselves, and all of them are above the one taken
  -- over.
  rw [numbers, List.pairwise_append]
  refine ⟨?_, List.pairwise_lt_range', ?_⟩
  · cases opening.mounted <;> simp
  · -- All numbers that are given come after the one that was taken over.
    intro number taken later given
    cases found : opening.mounted with
    | none => simp [found] at taken
    | some first =>
      simp only [found, Option.toList_some, List.mem_singleton, Option.getD_some,
        List.mem_range'_1] at taken given
      omega

/-! ## The end -/

/-- What becomes of the charts of a view that shows a run of reading sets and is then ended. -/
structure OrderlyLife (view : View) (taken : Option Nat) (sets : List (List Reading)) : Prop where
  /-- At any time at most one chart is mounted. -/
  single : ∀ earlier, earlier <+: sets → (view.after earlier).charts.toList.length ≤ 1
  /-- At any time a mounted chart is in the page's own slot and has an earlier number. -/
  own_slot : ∀ earlier, earlier <+: sets → ∀ slot chart,
    (view.after earlier).charts.get slot = some chart →
      slot = view.page.slot ∧ chart.slot = view.page.slot
        ∧ chart.number < (view.after earlier).next
  /-- Every chart has a higher number than all before it, the one taken over included. -/
  numbers_rise :
    (taken.toList ++ (view.issued sets).map ChartHandle.number).Pairwise (· < ·)
  /-- Each reading set replaces the chart mounted before it, and disposes of that one alone. -/
  replaces : ∀ earlier readings later, sets = earlier ++ readings :: later →
    ((view.after earlier).chart readings).2.1.replaces
        = (view.after earlier).mounted.map ChartHandle.number
      ∧ disposals ((view.after earlier).chart readings).2.2
        = (view.after earlier).mounted.toList
      ∧ (view.after earlier).mounted = (view.owned earlier).getLast?
  /-- A refresh does just this, and sends the chart along. -/
  refresh : ∀ earlier readings later, sets = earlier ++ readings :: later →
    ∀ next update notices, (view.after earlier).refresh? readings = some (next, update, notices) →
      next = view.after (earlier ++ [readings])
        ∧ update.charts = [((view.after earlier).chart readings).2.1]
        ∧ notices = ((view.after earlier).chart readings).2.2
  /-- No chart is owned twice. -/
  owned_nodup : (view.owned sets).Nodup
  /-- A hand-off returns the mounted chart, if any, and disposes of nothing. -/
  handOff : (view.after sets).handOff.1 = (view.after sets).mounted.map ChartHandle.number
    ∧ disposals (view.after sets).handOff.2 = []
  /-- Up to a hand-off every chart is disposed of in turn, but not the one that is handed off. -/
  disposed_handOff :
    disposals (view.reported sets ++ (view.after sets).handOff.2)
        ++ (view.after sets).mounted.toList = view.owned sets
      ∧ (view.after sets).handOff.2.getLast? = some (.tornDown view.page
          (disposals (view.reported sets ++ (view.after sets).handOff.2)).length)
  /-- Up to a close every chart is disposed of in turn. -/
  disposed_close :
    disposals (view.reported sets ++ (view.after sets).close) = view.owned sets
      ∧ (view.after sets).close.getLast? = some (.tornDown view.page
          (disposals (view.reported sets ++ (view.after sets).close)).length)

/--
A view has an orderly life, whatever it begins with and whatever it shows.

The numbers must not run out: the one after the last chart has to fit 64 bits.
-/
theorem orderlyLife_view (page : Page) (display : Display) (opening : Opening)
    (sets : List (List Reading))
    (free : opening.mounted.getD 0 + 1 + sets.length < 2 ^ 64) :
    OrderlyLife (opening.view page display) opening.mounted sets := by
  have next := next_view page display opening (by omega)
  have kept (earlier : List (List Reading)) (front : earlier <+: sets) :
      ((opening.view page display).after earlier).WellKept := by
    -- A shorter run needs fewer numbers.
    have shorter := front.length_le
    exact (wellKept_view page display opening (by omega)).after earlier (by omega)
  have single := (singleChart_view page display opening).after sets
  have rise := numbers_pairwise page display opening sets free
  -- The ledger says what was disposed of, and the counter agrees with it.
  have ledger := owned_eq_disposals_append (opening.view page display) sets
  -- Each reading set adds one chart to those that were owned, so the counter does not overflow.
  have few : ((opening.view page display).owned sets).length < 2 ^ 64 := by
    have mounted := Option.length_toList_le (o := (opening.view page display).mounted)
    rw [owned, List.length_append, length_issued]
    omega
  rw [ledger, List.length_append] at few
  have fits := Nat.lt_of_le_of_lt (Nat.le_add_right ..) few
  have count := after_disposed (opening.view page display) sets (by simp)
  rw [disposed_view, Nat.zero_add, counted_of_lt fits] at count
  exact {
    single := fun earlier _ => by
      rw [((singleChart_view page display opening).after earlier).toList_charts]
      exact Option.length_toList_le
    own_slot := fun earlier front slot chart found => by
      obtain ⟨own, member⟩ := (kept earlier front).of_get found
      rw [after_page] at own
      exact ⟨own, by simpa using (kept earlier front).slot_eq chart member,
        (kept earlier front).number_lt chart member⟩
    numbers_rise := by
      rw [owned, List.map_append, mounted_view] at rise
      cases taken : opening.mounted <;> simpa [taken] using rise
    replaces := fun earlier readings _ _ =>
      ⟨rfl, by simp, after_mounted _ earlier⟩
    refresh := fun earlier readings _ _ next update notices done => by
      obtain ⟨-, rfl, charts, rfl⟩ := (refresh?_eq_some_iff _ _).mp done
      exact ⟨by simp [after_append], charts, rfl⟩
    -- Charts with different numbers are different.
    owned_nodup := List.Nodup.of_map _ (rise.imp fun below => Nat.ne_of_lt below)
    -- The slot is emptied before the view is closed, so the end finds nothing to dispose of.
    handOff := by
      rw [single.handOff_eq]
      exact ⟨rfl, rfl⟩
    disposed_handOff := by
      rw [single.handOff_eq, disposals_append, disposals_tornDown, List.append_nil, ledger]
      exact ⟨rfl, by simp [count, counted_of_lt fits]⟩
    -- Otherwise the mounted chart is disposed of last, which completes the ledger.
    disposed_close := by
      rw [single.close_eq, disposals_append, disposals_append, disposals_map_disposed,
        disposals_tornDown, List.append_nil, ledger, count, counted_of_lt few]
      exact ⟨rfl, by simp⟩ }

/-- A view that takes over chart 7 and shows two reading sets leads an orderly life. -/
theorem orderlyLife_after_seven :
    (Opening.resume (some 7)).mounted.getD 0 + 1 + [([] : List Reading), []].length < 2 ^ 64
    ∧ OrderlyLife ((Opening.resume (some 7)).view .overview .standard) (some 7) [[], []] :=
  ⟨by decide, orderlyLife_view .overview .standard (.resume (some 7)) [[], []] (by decide)⟩

end View

end RoomAir
