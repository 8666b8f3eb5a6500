import Mathlib.Data.List.Nodup
import Mathlib.Data.List.Range
import RoomAir.Proofs.Http.HandOff
import RoomAir.Proofs.View.FailedRefresh

/-! Event streams that are opened again with the address of a page, and the charts they send. -/

namespace RoomAir

/-! ## What a stream sends -/

/-- Numbers from one on follow it, up to the last but one. -/
theorem dropLast_cons_range' (first count : Nat) :
    (first :: List.range' (first + 1) count).dropLast = List.range' first count := by
  rw [← List.range'_succ, List.range'_1_concat, List.dropLast_concat]

/-- The update that a piece of a stream carries. -/
def StreamChunk.update? : StreamChunk → Option ViewUpdate
  | .refresh update => some update
  | .keepAlive => none

/-- Comments carry no updates, so the pieces carry what the refreshes send. -/
theorem EventStream.updates_ofRefreshes (limit : Nat) (refreshes : List Refresh) :
    (ofRefreshes limit refreshes).filterMap (fun piece => piece.2.update?)
      = Refresh.updates refreshes := by
  have comments (last moment : Nat) :
      (keepAlives last moment).filterMap (fun piece => piece.2.update?) = [] := by
    simp [keepAlives, List.filterMap_map, StreamChunk.update?]
  -- Between two updates there is nothing but comments.
  have timed (last : Nat) (updates : List (Nat × ViewUpdate)) :
      (pieces limit last updates).filterMap (fun piece => piece.2.update?)
        = updates.map Prod.snd := by
    induction updates generalizing last with
    | nil => exact comments last (limit + 1)
    | cons first later ih =>
      obtain ⟨moment, update⟩ := first
      rw [pieces, List.filterMap_append, comments, List.nil_append, List.filterMap_cons, ih]
      rfl
  -- A refresh that sends nothing is no piece of the stream, and every other one is a piece of its
  -- own.
  rw [ofRefreshes, timed, List.map_filterMap, Refresh.updates]
  congr 1
  funext refresh
  cases refresh.update <;> rfl

namespace LiveStream

/-- The updates that the page is sent by a stream, in order. -/
def updates (stream : LiveStream) : List ViewUpdate :=
  stream.pieces.filterMap fun piece => piece.2.update?

/-- What a stream sends is what its view sends of the reading sets among the first fetches. -/
theorem exists_shown {feed : Feed} {display : Display} {page : Page} {chart : Option Nat}
    {period limit : Nat} {stream : LiveStream}
    (opened : open? feed display page chart period limit = some stream) :
    ∃ fetches count last, fetches.map Prod.fst <+: feed.take count
      ∧ Refresh.showAll? (.resume page display chart) (Refresh.readingSets fetches)
        = some (stream.updates, last) := by
  simp only [open?, Option.bind_eq_bind, Option.bind_eq_some_iff, Option.some.injEq] at opened
  obtain ⟨run, ran, rfl⟩ := opened
  -- Comments aside, the pieces carry what the refreshes of the run send.
  have sent : updates ⟨EventStream.ofRefreshes limit run.refreshes, run.calls,
      .liveStarted page :: run.refreshes.flatMap Refresh.notices ++ run.view.close⟩
        = Refresh.updates run.refreshes :=
    EventStream.updates_ofRefreshes limit run.refreshes
  -- Failed fetches aside, the stream shows one reading set after the other.
  obtain ⟨fetches, count, front, all⟩ := Refresh.exists_all?_of_run? ran
  have shown := Refresh.all?_eq_showAll? feed.name (.resume page display chart) fetches
  rw [all, Option.map_some] at shown
  exact ⟨fetches, count, run.view, front, by rw [← shown, sent]⟩

/-- A stream that a target is answered with, at any time and up to any moment. -/
def OpenedWith (display : Display) (target : String) (stream : LiveStream) : Prop :=
  ∃ page chart feed period limit, ofTarget? target = some (.ok (page, chart))
    ∧ open? feed display page chart period limit = some stream

/-- A stream numbers its charts from the one that its target names, and replaces them in turn. -/
theorem numbers_updates {display : Display} {target : String} {page : Page} {handle : Nat}
    {stream : LiveStream} (answered : ofTarget? target = some (.ok (page, some handle)))
    (opened : stream.OpenedWith display target)
    (free : handle + 1 + stream.updates.length < 2 ^ 64) :
    Refresh.numbers stream.updates = List.range' (handle + 1) stream.updates.length
      ∧ Refresh.replaced stream.updates
        = (List.range' handle stream.updates.length).map some := by
  -- The target decides on the page and the chart that the stream takes over.
  obtain ⟨page', chart, feed, period, limit, asked, opens⟩ := opened
  obtain ⟨rfl, rfl⟩ := Prod.mk.inj (Except.ok.inj (Option.some.inj (answered.symm.trans asked)))
  obtain ⟨fetches, count, last, -, shown⟩ := exists_shown opens
  obtain ⟨-, each, numbers, replaced⟩ := Refresh.showAll?_eq_some shown
  -- The view begins with the chart of the target, and goes on with the next number.
  have mounted : (View.resume page display (some handle)).mounted = some ⟨page.slot, handle⟩ :=
    View.mounted_view page display (.resume (some handle))
  have next : (View.resume page display (some handle)).next = handle + 1 :=
    View.next_view page display (.resume (some handle))
      (Nat.lt_of_le_of_lt (Nat.le_add_right ..) free)
  have given : Refresh.numbers stream.updates
      = List.range' (handle + 1) stream.updates.length := by
    rw [← each.length_eq] at free ⊢
    rw [numbers, View.numbers_issued _ _ (next ▸ free), next]
  refine ⟨given, ?_⟩
  rw [replaced, mounted, given, Option.map_some, ← List.map_cons, ← List.map_dropLast,
    dropLast_cons_range']

end LiveStream

/-! ## Several streams -/

section Counts

variable {α : Type} (first : Nat) (count : α → Nat) (items : List α)

/-- No run comes back to the number that it begins after. -/
theorem notMem_flatMap_range' :
    first ∉ items.flatMap fun item => List.range' (first + 1) (count item) := by
  simp only [List.mem_flatMap, List.mem_range'_1, not_exists, not_and]
  omega

/-- No run begins where all of them are empty. -/
theorem flatMap_range'_eq_nil (empty : ∀ item ∈ items, count item = 0) :
    (items.flatMap fun item => List.range' first (count item)) = [] :=
  List.flatMap_eq_nil_iff.mpr fun item member => by rw [empty item member, List.range'_zero]

/-- Where the number that runs begin with is not found, all of them are empty. -/
theorem count_eq_zero_of_notMem
    (absent : first ∉ items.flatMap fun item => List.range' first (count item)) :
    ∀ item ∈ items, count item = 0 := by
  simp only [List.mem_flatMap, List.mem_range'_1, not_exists, not_and] at absent
  intro item member
  -- A run that is not empty would begin with the number that is not found.
  have := absent item member
  omega

/-- Runs of numbers that begin alike share a number, unless at most one of them is not empty. -/
theorem nodup_cons_flatMap_range' :
    (first :: items.flatMap fun item => List.range' (first + 1) (count item)).Nodup
      ↔ items.Pairwise fun a b => count a = 0 ∨ count b = 0 := by
  -- Each run is free of repetitions, so only two runs can have a number in common.
  rw [List.nodup_cons, and_iff_right (notMem_flatMap_range' first count items),
    List.nodup_flatMap, and_iff_right fun _ _ => List.nodup_range']
  -- Two runs share the number that both begin with, if both begin at all.
  refine List.Pairwise.iff fun a b => ?_
  simp only [Function.onFun, List.disjoint_left, List.mem_range'_1]
  constructor
  · intro apart
    have := @apart (first + 1)
    omega
  · intro empty number
    omega

/-- Runs from a number on are the runs after it moved by one, unless two of them are not empty. -/
theorem flatMap_range'_eq_dropLast_iff :
    (items.flatMap fun item => List.range' first (count item))
        = (first :: items.flatMap fun item => List.range' (first + 1) (count item)).dropLast
      ↔ items.Pairwise fun a b => count a = 0 ∨ count b = 0 := by
  -- The induction takes off the first run, and it is decided there unless the run is empty.
  induction items with
  | nil => simp
  | cons item items ih =>
    rw [List.flatMap_cons, List.flatMap_cons, List.pairwise_cons]
    cases begun : count item with
    -- An empty run adds nothing on either side.
    | zero => simpa using ih
    | succ more =>
      simp only [Nat.succ_ne_zero, false_or]
      constructor
      · intro same
        -- The first number comes once on the right, so on the left no later run begins with it.
        have absent : first ∉ items.flatMap fun item => List.range' first (count item) := by
          intro begins
          rw [List.range'_succ, List.cons_append, List.range'_succ, List.cons_append,
            List.dropLast_cons_of_ne_nil (List.cons_ne_nil _ _)] at same
          have found := (List.dropLast_sublist _).subset
            (List.tail_eq_of_cons_eq same ▸ List.mem_append_right _ begins)
          simp only [List.mem_cons, List.mem_append, List.mem_range'_1,
            notMem_flatMap_range' first count items, or_false] at found
          omega
        have empty := count_eq_zero_of_notMem first count items absent
        exact ⟨empty, List.pairwise_of_forall_mem_list fun a member _ _ => .inl (empty a member)⟩
      · rintro ⟨empty, -⟩
        -- Where no other run begins, both sides are one run.
        rw [flatMap_range'_eq_nil _ count items empty, flatMap_range'_eq_nil _ count items empty,
          List.append_nil, List.append_nil, dropLast_cons_range']

end Counts

namespace LiveStream

/-- Streams of which at most one sends anything. -/
def AtMostOneSends (streams : List LiveStream) : Prop :=
  streams.Pairwise fun a b => a.updates = [] ∨ b.updates = []

/-- The updates that a page is sent by streams that are opened one after the other. -/
def sent (streams : List LiveStream) : List ViewUpdate :=
  streams.flatMap updates

/-- Streams for whose charts there are numbers, each going on from the same one. -/
def Numbered (handle : Nat) (streams : List LiveStream) : Prop :=
  ∀ stream ∈ streams, handle + 1 + stream.updates.length < 2 ^ 64

/-- What streams send that are all opened with the target of a page, as the page receives it. -/
theorem numbers_sent {display : Display} {target : String} {page : Page} {handle : Nat}
    {streams : List LiveStream} (answered : ofTarget? target = some (.ok (page, some handle)))
    (opened : ∀ stream ∈ streams, stream.OpenedWith display target)
    (free : Numbered handle streams) :
    Refresh.numbers (sent streams)
        = streams.flatMap (fun stream => List.range' (handle + 1) stream.updates.length)
      ∧ Refresh.replaced (sent streams)
        = (streams.flatMap fun stream => List.range' handle stream.updates.length).map some := by
  -- Whatever was sent before, each stream begins at the chart of the target again.
  have each (stream) (member : stream ∈ streams) :=
    numbers_updates answered (opened stream member) (free stream member)
  -- Numbers and replacements of all streams are those of each stream in turn.
  rw [sent, Refresh.numbers, Refresh.replaced, List.flatMap_assoc, List.flatMap_assoc,
    List.map_flatMap]
  exact ⟨List.flatMap_congr fun stream member => (each stream member).1,
    List.flatMap_congr fun stream member => (each stream member).2⟩

/-- A page that shows fetched readings hands over a chart with the number 1. -/
theorem handsOver_one {site : Site} {page : Page} (requested : page.Requested)
    {compress : Bool} {readings : List Reading} {answer : Answer}
    (fetched : site.feed.head.outcome = .ok readings)
    (answered : site.pageAnswer? page compress = some answer) :
    HandsOver page site.display answer.response.body 1 := by
  -- The page shows the update of a new view, whose charts are numbered from one.
  obtain ⟨view, update, disposals, -, body, single⟩ := Site.exists_update fetched answered
  have small : 1 + 1 < 2 ^ 64 := by decide
  exact body ▸ handsOver_document requested site.display single small

/--
The charts of a page keep numbers of their own as long as no second stream sends updates to it,
whatever is fetched meanwhile and as long as no stream runs out of numbers.

An event source that is dropped opens its address again, which goes on naming the chart that the
page was rendered with.
Every stream therefore numbers its charts from that one on, and replaces that one first.
-/
theorem numbers_nodup_iff {site : Site} {page : Page} (requested : page.Requested)
    {compress : Bool} {readings : List Reading} {answer : Answer}
    (fetched : site.feed.head.outcome = .ok readings)
    (answered : site.pageAnswer? page compress = some answer) :
    ∃ (target : String) (members : List (String × Json)) (handle : Nat),
      Shell.eventsTarget? answer.response.body = some target
      ∧ Shell.initialCharts? answer.response.body = some (.array [.object members])
      ∧ Json.lastValue? "handle" members = some (.integer handle)
      ∧ ∀ streams : List LiveStream,
        (∀ stream ∈ streams, stream.OpenedWith site.display target) → Numbered handle streams →
          ((handle :: Refresh.numbers (sent streams)).Nodup ↔ AtMostOneSends streams)
            ∧ (Refresh.replaced (sent streams)
                = ((handle :: Refresh.numbers (sent streams)).map some).dropLast
              ↔ AtMostOneSends streams) := by
  -- What the page says about its chart and its stream is read off its text.
  obtain ⟨⟨members, mounted, handle⟩, ⟨target, listens, asks⟩, -, -⟩ :=
    handsOver_one requested fetched answered
  refine ⟨target, members, 1, listens, mounted, handle, fun streams opened free => ?_⟩
  obtain ⟨numbers, replaced⟩ := numbers_sent asks.answered opened free
  -- A stream sends nothing exactly when its run of numbers is empty.
  have sends : AtMostOneSends streams
      ↔ streams.Pairwise fun a b => a.updates.length = 0 ∨ b.updates.length = 0 := by
    simp only [AtMostOneSends, List.length_eq_zero_iff]
  rw [numbers, replaced, sends, ← List.map_dropLast,
    List.map_inj_right fun _ _ => Option.some.inj]
  exact ⟨nodup_cons_flatMap_range' .., flatMap_range'_eq_dropLast_iff ..⟩

/-- A stream of the overview that is dropped after its first refresh. -/
theorem exists_briefStream : ∃ stream,
    open? Site.empty.feed .standard .overview (some 1) 1000 1000 = some stream
      ∧ stream.updates.length = 1 := by
  -- The first fetch begins and ends at the limit itself.
  have opens : (open? Site.empty.feed .standard .overview (some 1) 1000 1000).map
      (fun stream => stream.updates.length) = some 1 := by
    rfl
  exact Option.map_eq_some_iff.mp opens

/-- The overview without readings keeps its numbers apart while it is sent a single stream. -/
theorem numbers_nodup_once : ∃ answer target stream handle,
    Site.empty.pageAnswer? .overview false = some answer
      ∧ Shell.eventsTarget? answer.response.body = some target
      ∧ stream.OpenedWith .standard target
      ∧ Numbered handle [stream]
      ∧ stream.updates ≠ []
      ∧ (handle :: Refresh.numbers (sent [stream])).Nodup := by
  have fetched : Site.empty.feed.head.outcome = .ok [] := rfl
  obtain ⟨answer, answered⟩ := Site.exists_overviewAnswer fetched false
  obtain ⟨target, members, handle, listens, mounted, named, unique⟩ :=
    numbers_nodup_iff .overview fetched answered
  obtain ⟨⟨members', mounted', first⟩, ⟨target', listens', asks⟩, -, -⟩ :=
    handsOver_one .overview fetched answered
  -- The page hands over a single chart, so its number is the one that is read off the page.
  obtain rfl := Option.some.inj (listens.symm.trans listens')
  obtain rfl : members = members' := by simpa using mounted.symm.trans mounted'
  obtain rfl : handle = 1 := by
    have same : (handle : Int) = 1 := by simpa using named.symm.trans first
    omega
  obtain ⟨stream, opens, one⟩ := exists_briefStream
  have opened : stream.OpenedWith .standard target := ⟨_, _, _, _, _, asks.answered, opens⟩
  -- One update leaves plenty of numbers.
  have free : Numbered 1 [stream] := List.forall_mem_singleton.mpr (by omega)
  refine ⟨answer, target, stream, 1, answered, listens, opened, free, ?_, ?_⟩
  · exact List.ne_nil_of_length_eq_add_one one
  · have alone : AtMostOneSends [stream] := List.pairwise_singleton ..
    exact (unique [stream] (List.forall_mem_singleton.mpr opened) free).1.mpr alone

/-- Opened twice, the address of the overview gives two charts the number 2, both replacing 1. -/
theorem numbers_reused : ∃ answer target stream,
    Site.empty.pageAnswer? .overview false = some answer
      ∧ Shell.eventsTarget? answer.response.body = some target
      ∧ stream.OpenedWith .standard target
      ∧ Refresh.numbers (sent [stream, stream]) = [2, 2]
      ∧ Refresh.replaced (sent [stream, stream]) = [some 1, some 1] := by
  have fetched : Site.empty.feed.head.outcome = .ok [] := rfl
  obtain ⟨answer, answered⟩ := Site.exists_overviewAnswer fetched false
  obtain ⟨target, listens, asks⟩ := (handsOver_one .overview fetched answered).listens
  obtain ⟨stream, opens, one⟩ := exists_briefStream
  have opened : stream.OpenedWith .standard target := ⟨_, _, _, _, _, asks.answered, opens⟩
  -- The same stream is opened again, as its target is the same.
  have twice : ∀ other ∈ [stream, stream], other.OpenedWith .standard target := by
    simp [opened]
  have free : Numbered 1 [stream, stream] := by
    simp [Numbered, one]
  -- Each time the one update has the number behind the chart of the page.
  obtain ⟨numbers, replaced⟩ := numbers_sent asks.answered twice free
  refine ⟨answer, target, stream, answered, listens, opened, numbers.trans ?_, replaced.trans ?_⟩
  · simp [one]
  · simp [one]

end LiveStream

end RoomAir
