import RoomAir.Http.Site

/-! Routes: the paths that resources are found at. -/

namespace RoomAir

/-- The resource at a path. -/
def Resource.ofPath? : String → Option Resource
  | "/" => some .overviewPage
  | "/details" => some .detailsPage
  | "/api/overview" => some .overviewData
  | "/api/details" => some .detailsData
  | "/healthz" => some .health
  | _ => none

/-- A target split at its first question mark into a path and a query, if it has one. -/
def Request.splitTarget (target : String) : String × Option String :=
  let path := target.toList.takeWhile (· ≠ '?')
  let query := match target.toList.drop path.length with
    | [] => none
    | _ :: query => some (String.ofList query)
  (String.ofList path, query)

/-- The request that a path with an optional query makes. -/
def Request.ofTarget? (target : String) : Option Request := do
  let (path, query) := splitTarget target
  some { resource := ← Resource.ofPath? path, query, headers := [] }

namespace LiveStream

/-- Whether the events at a path are those of the details page or of the overview. -/
def isDetails? : String → Option Bool
  | "/events/overview" => some false
  | "/events/details" => some true
  | _ => none

/-- The page and the mounted chart that an event stream takes over, by its target. -/
def ofTarget? (target : String) : Option (Except QueryError (Page × Option Nat)) := do
  let (path, query) := Request.splitTarget target
  let details ← isDetails? path
  some ((Query.read true query).map fun query => (page details query, query.chart))

end LiveStream

end RoomAir
