import RoomAir.Proofs.Http.HandOff
import RoomAir.Proofs.View.Schedule

/-! Requests in turn: each is answered as if it were the only one, from a fetch of its own. -/

namespace RoomAir

namespace Request

/-- Whether a request is turned away for its query. -/
def isRejected (request : Request) : Bool :=
  match request.resource with
  -- Only the details read the query, and the overview passes over whatever it says.
  | .detailsPage | .detailsData => !(Query.read false request.query).isOk
  | _ => false

/-- Whether a request makes the site fetch: it asks for readings and is not turned away. -/
def fetches (request : Request) : Bool :=
  request.resource ≠ .health && !request.isRejected

/-- How many fetches some requests make. -/
def fetchCount (requests : List Request) : Nat :=
  requests.countP fetches

/-- The page that a request asks for, if it asks for one and is not turned away. -/
def page? (request : Request) : Option Page :=
  match request.resource with
  | .overviewPage => some .overview
  | .detailsPage =>
    (Query.read false request.query).toOption.map fun query => .details query.filter
  | _ => none

/-- Fetches of requests in two parts are counted part by part. -/
theorem fetchCount_append (first second : List Request) :
    fetchCount (first ++ second) = fetchCount first + fetchCount second :=
  List.countP_append

end Request

namespace Site

/-! ## One request -/

section Step

variable {site fresh : Site} {request : Request}

/-- What a request is answered, if its page can be rendered. -/
def reply? (site : Site) (request : Request) : Option Answer :=
  (site.respond request).1

/-- The site after a request, whether or not the page that it asks for could be rendered. -/
def next (site : Site) (request : Request) : Site :=
  (site.respond request).2

/-- A request is answered from the display and the next fetch, or without looking at the site. -/
theorem respond_cases (request : Request) :
    (request.fetches = true ∧ ∃ answer : Display → String → Fetch → Option Answer,
      ∀ site : Site, site.respond request
        = (answer site.display site.feed.name site.feed.head, site.fetched))
    ∨ (request.fetches = false ∧ ∃ answer, ∀ site : Site,
      site.respond request = (some answer, site)) := by
  -- The answer has to be given before the site, so each resource says what it looks at.
  obtain ⟨resource, query, headers⟩ := request
  -- A page or data is made from a site that has just this display and this fetch.
  let alone (display : Display) (name : String) (fetch : Fetch) : Site :=
    ⟨display, ⟨name, fetch, []⟩, 0⟩
  cases resource with
  -- A look at health is answered in the same way whatever the site is.
  | health => exact .inr ⟨rfl, _, fun site => rfl⟩
  | overviewPage =>
    exact .inl ⟨rfl, fun display name fetch => (alone display name fetch).pageAnswer? _ _,
      fun site => rfl⟩
  | overviewData =>
    exact .inl ⟨rfl, fun display name fetch => some ((alone display name fetch).dataAnswer _),
      fun site => rfl⟩
  | detailsPage =>
    -- A rejected query is answered without a fetch, and any other one like the overview.
    simp only [respond, Request.fetches, Request.isRejected]
    cases Query.read false query with
    | error error => exact .inr ⟨rfl, _, fun site => rfl⟩
    | ok query =>
      exact .inl ⟨rfl, fun display name fetch => (alone display name fetch).pageAnswer? _ _,
        fun site => rfl⟩
  -- The data of the details is rejected on the same grounds as their page.
  | detailsData =>
    simp only [respond, Request.fetches, Request.isRejected]
    cases Query.read false query with
    | error error => exact .inr ⟨rfl, _, fun site => rfl⟩
    | ok query =>
      exact .inl ⟨rfl, fun display name fetch => some ((alone display name fetch).dataAnswer _),
        fun site => rfl⟩

/-- A request leaves the site with one fetch more or as it was. -/
theorem next_eq (site : Site) (request : Request) :
    site.next request = if request.fetches then site.fetched else site := by
  rw [next]
  -- Both sides are told by whether the request fetches.
  rcases respond_cases request with ⟨fetches, answer, answers⟩ | ⟨idle, answer, answers⟩
  · rw [answers, fetches, if_pos rfl]
  · rw [answers, idle, if_neg Bool.false_ne_true]

/-- What is answered to a request depends on the display and on its own fetch, if it makes one. -/
theorem reply?_congr (display : fresh.display = site.display)
    (name : fresh.feed.name = site.feed.name)
    (head : request.fetches = true → fresh.feed.head = site.feed.head) :
    fresh.reply? request = site.reply? request := by
  rw [reply?, reply?]
  -- Two sites that look alike to the request give the same answer.
  rcases respond_cases request with ⟨fetches, answer, answers⟩ | ⟨idle, answer, answers⟩
  -- The head of the feed is only looked at by a request that fetches.
  · rw [answers, answers, display, name, head fetches]
  · rw [answers, answers]

/-- A request for a page is answered with the page. -/
theorem reply?_page {page : Page} (asked : request.page? = some page) :
    site.reply? request = site.pageAnswer? page (Negotiation.acceptsBrotli request.headers) := by
  obtain ⟨resource, query, headers⟩ := request
  cases resource with
  -- The overview asks for its page whatever its query is.
  | overviewPage =>
    obtain rfl := Option.some.inj asked
    rfl
  | detailsPage =>
    obtain ⟨read, found, rfl⟩ := Option.map_eq_some_iff.mp asked
    -- A query that was rejected would ask for no page.
    cases accepted : Query.read false query with
    | error error => simp [accepted, Except.toOption] at found
    | ok query =>
      obtain rfl : query = read := by simpa [accepted, Except.toOption] using found
      simp [reply?, respond, accepted]
  | health | overviewData | detailsData => cases asked

/-- A request that asks for no page is always answered. -/
theorem isSome_reply?_of_page?_eq_none (other : request.page? = none) :
    (site.reply? request).isSome = true := by
  obtain ⟨resource, query, headers⟩ := request
  -- Health and the data of the overview have an answer at once.
  cases resource with
  | health | overviewData => rfl
  | overviewPage => cases other
  -- A details page without a page to ask for is one whose query is rejected.
  | detailsPage =>
    cases rejected : Query.read false query with
    | error error => simp [reply?, respond, rejected]
    | ok query => simp [Request.page?, rejected, Except.toOption] at other
  | detailsData =>
    -- Data is answered with or without readings, and so is a query that is rejected.
    cases read : Query.read false query <;> simp [reply?, respond, read]

/-- Whether what a request asks for can be rendered from a fetch; only pages can fail to be. -/
def Renders (display : Display) (fetch : Fetch) (request : Request) : Prop :=
  ∀ page, request.page? = some page → Refresh.Renders page display fetch

/-- A request is answered exactly when its page can be rendered from the next fetch. -/
theorem isSome_reply?_iff :
    (site.reply? request).isSome = true ↔ Renders site.display site.feed.head request := by
  cases asked : request.page? with
  -- Without a page to render nothing can stand in the way.
  | none =>
    simp [Renders, asked, isSome_reply?_of_page?_eq_none asked]
  | some page =>
    rw [reply?_page asked, pageAnswer?]
    cases outcome : site.feed.head.outcome with
    -- A failed fetch is shown as a message, for which nothing has to be rendered.
    | error error => simp [Renders, Refresh.Renders, asked, outcome]
    | ok readings =>
      -- Beside the fragments nothing stands in the way of an update.
      simp [Renders, Refresh.Renders, asked, outcome, View.refresh?, View.new]

/-- No request changes what pages look like. -/
@[simp] theorem next_display (site : Site) (request : Request) :
    (site.next request).display = site.display := by
  rw [next_eq]
  split <;> rfl

/-- The feed keeps its name. -/
@[simp] theorem next_name (site : Site) (request : Request) :
    (site.next request).feed.name = site.feed.name := by
  rw [next_eq]
  split
  · rw [fetched, Feed.advance]
    -- The last fetch of a feed is repeated, so there are two ways to advance it.
    split <;> rfl
  · rfl

/-- What comes after a request in the feed begins behind the fetch that the request makes. -/
theorem next_fetch (site : Site) (request : Request) (number : Nat) :
    (site.next request).feed.fetch number
      = site.feed.fetch (Request.fetchCount [request] + number) := by
  rw [next_eq, Request.fetchCount, List.countP_singleton]
  -- A fetch takes the first of the feed away, and without one all of it is left.
  split
  · rw [Nat.add_comm]
    rfl
  · rw [Nat.zero_add]

/-- A request that fetches is counted. -/
theorem next_calls (site : Site) (request : Request) :
    (site.next request).calls = site.calls + Request.fetchCount [request] := by
  rw [next_eq, Request.fetchCount, List.countP_singleton]
  split <;> rfl

end Step

/-! ## Requests in turn -/

/-- The site after requests. -/
def after (site : Site) (requests : List Request) : Site :=
  requests.foldl next site

/-- The answers to requests are what is served to them, if nothing fails. -/
theorem answers?_eq (site : Site) (requests : List Request) :
    site.answers? requests
      = (site.served requests).mapM fun result => result.1.map (·, result.2) := by
  induction requests generalizing site with
  -- Without requests both sides are empty.
  | nil => rfl
  | cons request requests ih =>
    rw [answers?, served, List.mapM_cons, ← ih, answer?]
    -- An answer goes on with the site behind it, and without one neither side goes on.
    obtain ⟨answer, next⟩ := site.respond request
    cases answer <;> rfl

/-- Each request is served once. -/
theorem length_served (site : Site) (requests : List Request) :
    (site.served requests).length = requests.length := by
  induction requests generalizing site with
  | nil => rfl
  | cons request requests ih => rw [served, List.length_cons, ih, List.length_cons]

/-- What is served later is served by the site that earlier requests leave. -/
theorem served_append (site : Site) (earlier later : List Request) :
    site.served (earlier ++ later) = site.served earlier ++ (site.after earlier).served later := by
  induction earlier generalizing site with
  -- The induction moves the first request over to the left side, with the site that it leaves.
  | nil => rfl
  | cons request earlier ih =>
    rw [List.cons_append, served, ih, served, List.cons_append]
    rfl

/-- The state of a site after requests: only the fetches that they made are gone. -/
theorem after_spec (site : Site) (requests : List Request) :
    (site.after requests).display = site.display
      ∧ (site.after requests).feed.name = site.feed.name
      ∧ (∀ number, (site.after requests).feed.fetch number
        = site.feed.fetch (Request.fetchCount requests + number))
      ∧ (site.after requests).calls = site.calls + Request.fetchCount requests := by
  -- Request by request the four facts are carried along, since each is about the site before it.
  induction requests generalizing site with
  | nil => exact ⟨rfl, rfl, fun number => by rw [Request.fetchCount]; simp [after], rfl⟩
  | cons request requests ih =>
    -- The first request makes its fetch, and the others go on from there.
    obtain ⟨display, name, fetches, calls⟩ := ih (site.next request)
    have count := Request.fetchCount_append [request] requests
    rw [List.singleton_append] at count
    refine ⟨display.trans (next_display ..), name.trans (next_name ..), fun number => ?_, ?_⟩
    · exact (fetches number).trans (by rw [next_fetch, count, Nat.add_assoc])
    · exact calls.trans (by rw [next_calls, count, Nat.add_assoc])

/-- What is served to a request is what the site responds that earlier requests leave. -/
theorem getElem?_served (site : Site) (earlier : List Request) (request : Request)
    (later : List Request) :
    (site.served (earlier ++ request :: later))[earlier.length]?
      = some ((site.after earlier).respond request) := by
  -- As many requests were served as came earlier, so the next one is at the head of the rest.
  rw [served_append, List.getElem?_append_right (by rw [length_served]), length_served,
    Nat.sub_self]
  rfl

/-- The chart of a page that shows fetched readings is the first one, and it replaces none. -/
theorem initialCharts?_pageAnswer {site : Site} {page : Page} {compress : Bool}
    {readings : List Reading} {answer : Answer} (fetched : site.feed.head.outcome = .ok readings)
    (answered : site.pageAnswer? page compress = some answer) :
    Shell.initialCharts? answer.response.body = some (.array [.object [
      ("slot", .string page.slot.key),
      ("handle", .integer 1),
      ("replaces", .null),
      ("config", page.config readings)]]) := by
  -- The page shows the update of a new view, whose charts are read back as they were written.
  obtain ⟨view, update, disposals, -, body, single⟩ := exists_update fetched answered
  rw [body, Shell.initialCharts?_document, ViewUpdate.chartsJson, single]
  -- Nothing is mounted on a new page, whichever slot it has.
  cases page <;> rfl

/-! ## Apart from each other -/

/-- What is served to a request that comes after others: nothing but its own fetch matters. -/
structure ServedApart (site : Site) (earlier : List Request) (request : Request)
    (result : Option Answer × Site) : Prop where
  /-- There is an answer, unless the request asks for a page that its fetch makes unrenderable. -/
  answered : result.1.isSome = true
    ↔ Renders site.display (site.feed.fetch (Request.fetchCount earlier)) request
  /-- The answer is that of a fresh site whose feed starts with the fetch. -/
  answer : ∀ fresh : Site, fresh.display = site.display → fresh.feed.name = site.feed.name →
    fresh.feed.head = site.feed.fetch (Request.fetchCount earlier) →
    result.1 = (fresh.respond request).1
  /-- So far each request made a fetch that was not about health and not turned away. -/
  calls : result.2.calls = site.calls + Request.fetchCount (earlier ++ [request])
  /-- A page that shows readings starts with the first chart. -/
  charts : ∀ page readings answer, request.page? = some page →
    (site.feed.fetch (Request.fetchCount earlier)).outcome = .ok readings →
    result.1 = some answer →
    Shell.initialCharts? answer.response.body = some (.array [.object [
      ("slot", .string page.slot.key),
      ("handle", .integer 1),
      ("replaces", .null),
      ("config", page.config readings)]])

/-- Whatever was asked before, a request is served apart. -/
theorem servedApart (site : Site) (earlier : List Request) (request : Request) :
    site.ServedApart earlier request ((site.after earlier).respond request) := by
  obtain ⟨display, name, fetches, calls⟩ := site.after_spec earlier
  -- The next fetch is the one that comes behind those of the earlier requests.
  have head : (site.after earlier).feed.head = site.feed.fetch (Request.fetchCount earlier) :=
    fetches 0
  exact {
    answered := display ▸ head ▸ isSome_reply?_iff
    answer := fun fresh sameDisplay sameName sameHead =>
      reply?_congr (display.trans sameDisplay.symm) (name.trans sameName.symm)
        fun _ => head.trans sameHead.symm
    calls := by
      -- The request at hand is counted with the others.
      have counted := next_calls (site.after earlier) request
      rw [calls, Nat.add_assoc, ← Request.fetchCount_append] at counted
      exact counted
    charts := fun page readings answer asked fetched replied => by
      -- The answer is that of its page, so what holds of every page holds of it.
      have paged := (reply?_page asked).symm.trans replied
      exact initialCharts?_pageAnswer (head ▸ fetched) paged }

/--
Requests do not influence each other.

Each is served from the fetch that is its own, as if the site were fresh and started with it.
So a fetch makes no difference to a request that makes another one or none. A request stays without
an answer only if it asks for a page that cannot be rendered, and its fetch counts even then.
-/
theorem requests_apart (site : Site) (requests : List Request) :
    site.answers? requests
        = (site.served requests).mapM (fun result => result.1.map (·, result.2))
      ∧ (site.served requests).length = requests.length
      ∧ (∀ earlier request later, requests = earlier ++ request :: later →
        ∃ result, (site.served requests)[earlier.length]? = some result
          ∧ site.ServedApart earlier request result)
      ∧ ∀ other : Site, other.display = site.display → other.feed.name = site.feed.name →
        ∀ earlier request later, requests = earlier ++ request :: later →
          (request.fetches = true → other.feed.fetch (Request.fetchCount earlier)
            = site.feed.fetch (Request.fetchCount earlier)) →
          (other.served requests)[earlier.length]?.map Prod.fst
            = (site.served requests)[earlier.length]?.map Prod.fst := by
  refine ⟨answers?_eq site requests, length_served site requests, ?_, ?_⟩
  -- A list with a request inside is served up to it, then it, then the rest.
  · rintro earlier request later rfl
    exact ⟨_, getElem?_served .., servedApart site earlier request⟩
  · rintro other display name earlier request later rfl own
    -- Both sites have come as far in their feeds.
    obtain ⟨display', name', fetches', -⟩ := other.after_spec earlier
    obtain ⟨display'', name'', fetches'', -⟩ := site.after_spec earlier
    rw [getElem?_served, getElem?_served, Option.map_some, Option.map_some]
    refine congrArg some (reply?_congr ?_ ?_ fun fetches => ?_)
    -- Display, name and the one fetch that counts are the same on both sides.
    · rw [display', display'', display]
    · rw [name', name'', name]
    · exact (fetches' 0).trans ((own fetches).trans (fetches'' 0).symm)

/-- After a failed fetch, a rejected query and a look at health a page has the second fetch. -/
theorem requests_apart_mixed :
    let feed : Feed := ⟨"feed", .ofFailure (.status "feed" 503), [⟨.ok [], [], 0⟩]⟩
    let site : Site := ⟨.standard, feed, 0⟩
    let requests : List Request := [⟨.overviewData, none, []⟩,
      ⟨.detailsPage, some "room=a&room=b", []⟩, ⟨.health, none, []⟩, ⟨.overviewPage, none, []⟩]
    ((site.served requests).take 3).map (fun result => result.1.map (·.response.status))
        = [some 502, some 400, some 200]
    ∧ ∃ result answer, (site.served requests)[3]? = some result
      ∧ result.1 = some answer ∧ result.2.calls = 2
      ∧ Shell.initialCharts? answer.response.body = some (.array [.object [
        ("slot", .string "overview"),
        ("handle", .integer 1),
        ("replaces", .null),
        ("config", Page.overview.config [])]]) := by
  intro feed site requests
  refine ⟨rfl, ?_⟩
  obtain ⟨-, -, apart, -⟩ := requests_apart site requests
  obtain ⟨result, served, each⟩ := apart (requests.take 3) ⟨.overviewPage, none, []⟩ [] rfl
  -- The first request takes the failed fetch, and the last one takes the fetch behind it.
  -- Two of the requests fetch, and the overview can be rendered from any fetch.
  have before : Request.fetchCount (requests.take 3) = 1 := by decide +kernel
  have upTo : Request.fetchCount (requests.take 3 ++ [⟨.overviewPage, none, []⟩]) = 2 := by
    decide +kernel
  have renders : Renders site.display (site.feed.fetch (Request.fetchCount (requests.take 3)))
      ⟨.overviewPage, none, []⟩ := by
    rintro page asked readings -
    obtain rfl := Option.some.inj asked
    rfl
  obtain ⟨answer, answered⟩ := Option.isSome_iff_exists.mp (each.answered.mpr renders)
  have calls := each.calls
  rw [upTo] at calls
  exact ⟨result, answer, served, answered, calls,
    each.charts .overview [] answer rfl (by rw [before]; rfl) answered⟩

end Site

end RoomAir
