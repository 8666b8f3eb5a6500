import RoomAir.Http.Negotiation
import RoomAir.Http.Query
import RoomAir.Http.Response
import RoomAir.View.EventStream
import RoomAir.View.Shell

/-! The site: what is answered to each request, fetching the reading set anew every time. -/

namespace RoomAir

/-- What a request asks for. -/
inductive Resource where
  | health
  | overviewPage
  | detailsPage
  | overviewData
  | detailsData
  deriving DecidableEq, Repr

/-- A request for a resource. -/
structure Request where
  resource : Resource
  /-- The query string as it stands in the address. -/
  query : Option String
  headers : List (String × Bytes)

/-- The state that all requests share. -/
structure Site where
  display : Display
  feed : Feed
  /-- How many fetches there have been. -/
  calls : Nat

/-- An answer and what is reported about it. -/
structure Answer where
  response : Response
  notices : List Notice

namespace Site

/-- A page that shows a reading set, the chart being left to the page that mounts it. -/
def rendered (site : Site) (page : Page) (compress : Bool) :
    View × ViewUpdate × List Notice → Answer
  | (view, update, disposals) =>
    -- The view ends here, but the chart stays on the page that mounts it.
    let (chart, ending) := view.handOff
    { response := .html (Shell.document site.display page (some update)) compress
      notices := site.feed.head.report site.feed.name ++ disposals ++ ending
        ++ chart.toList.map fun chart => .rendered page chart }

/-- A page from a fetch: a failed one shows the load error and mounts no chart. -/
def pageAnswer? (site : Site) (page : Page) (compress : Bool) : Option Answer :=
  let view := View.new page site.display
  match site.feed.head.outcome with
  | .error error =>
    -- No chart was mounted, so none is handed off.
    some {
      response := .html (Shell.document site.display page none) compress
      notices := site.feed.head.report site.feed.name ++ [.openingFailed page error]
        ++ view.handOff.2 }
  | .ok readings => (view.refresh? readings).map (site.rendered page compress)

/-- Data from a fetch, a failed one being reported as a fault of the source. -/
def dataAnswer (site : Site) (data : List Reading → Json) : Answer :=
  { notices := site.feed.head.report site.feed.name
    response := match site.feed.head.outcome with
      | .ok readings => .json 200 (data readings)
      | .error error => .json 502 (.object [("error", .string error.message)]) }

/-- The latest reading of each room as data. -/
def overviewData (readings : List Reading) : Json :=
  .array ((Overview.ofReadings readings).gauges.map Gauge.toJson)

/-- The selected readings as data, newest first. -/
def detailsData (filter : RoomFilter) (readings : List Reading) : Json :=
  .array ((Details.ofReadings readings filter).rows.map Reading.toJson)

/-- The site after a fetch. -/
def fetched (site : Site) : Site :=
  { site with feed := site.feed.advance, calls := site.calls + 1 }

/-- The answer to a rejected query. -/
def rejection (error : QueryError) : Answer :=
  { response := .plain 400 error.message, notices := [] }

/-- What is answered to a request, if its table can be rendered, and the site after it. -/
def respond (site : Site) (request : Request) : Option Answer × Site :=
  let compress := Negotiation.acceptsBrotli request.headers
  match request.resource with
  | .health => (some { response := .plain 200 "ok", notices := [] }, site)
  -- The readings of a page are fetched before it turns out that their table cannot be rendered.
  | .overviewPage => (site.pageAnswer? .overview compress, site.fetched)
  | .overviewData => (some (site.dataAnswer overviewData), site.fetched)
  | .detailsPage =>
    -- A query that is rejected is rejected before anything is fetched.
    match Query.read false request.query with
    | .error error => (some (rejection error), site)
    | .ok query => (site.pageAnswer? (.details query.filter) compress, site.fetched)
  | .detailsData =>
    match Query.read false request.query with
    | .error error => (some (rejection error), site)
    | .ok query => (some (site.dataAnswer (detailsData query.filter)), site.fetched)

/-- What is served to requests in turn: a page that cannot be rendered holds up no other one. -/
def served : Site → List Request → List (Option Answer × Site)
  | _, [] => []
  | site, request :: requests =>
    let result := site.respond request
    result :: served result.2 requests

/-- The answer to a request, if its table can be rendered, and the site after it. -/
def answer? (site : Site) (request : Request) : Option (Answer × Site) :=
  let (answer, next) := site.respond request
  answer.map (·, next)

/-- The answers to requests in turn, if every table can be rendered. -/
def answers? : Site → List Request → Option (List (Answer × Site))
  | _, [] => some []
  | site, request :: requests => do
    let (answer, site) ← site.answer? request
    let later ← answers? site requests
    some ((answer, site) :: later)

end Site

/-- An opened event stream: its pieces up to a moment, and what is reported until it is closed. -/
structure LiveStream where
  pieces : List (Nat × StreamChunk)
  calls : Nat
  notices : List Notice

namespace LiveStream

/-- Whether a live page is the details page or the overview. -/
def page (details : Bool) (query : Query) : Page :=
  if details then .details query.filter else .overview

/-- The stream of a live page that is closed at a moment, if its refreshes can be made. -/
def open? (feed : Feed) (display : Display) (page : Page) (chart : Option Nat)
    (period limit : Nat) : Option LiveStream := do
  let run ← Refresh.run? feed (.resume page display chart) period limit
  some {
    pieces := EventStream.ofRefreshes limit run.refreshes
    calls := run.calls
    notices := .liveStarted page :: run.refreshes.flatMap Refresh.notices ++ run.view.close }

end LiveStream

end RoomAir
