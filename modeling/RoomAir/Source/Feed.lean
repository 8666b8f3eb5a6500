import RoomAir.Notice

/-! Feeds: where reading sets come from, one fetch after another. -/

namespace RoomAir

/-- One fetch: how it ends, what is reported on the way, and how long it takes. -/
structure Fetch where
  outcome : Except FetchError (List Reading)
  notices : List Notice
  /-- Milliseconds from the start to the end of the fetch. -/
  delay : Nat

/-- The fetches that are to come, the last of which is repeated for ever. -/
structure Feed where
  /-- What the feed is called in messages. -/
  name : String
  head : Fetch
  tail : List Fetch

namespace Fetch

/-- The fetch of a document at once. -/
def ofDocument (bytes : Bytes) : Fetch :=
  match Document.decode bytes with
  | .ok document =>
    { outcome := .ok document.readings, notices := Notice.ofDocument document, delay := 0 }
  | .error error => { outcome := .error (.decode error), notices := [], delay := 0 }

/-- A fetch that fails at once. -/
def ofFailure (error : FetchError) : Fetch :=
  { outcome := .error error, notices := [], delay := 0 }

/-- Everything that is reported about a fetch from the named feed. -/
def report (fetch : Fetch) (feed : String) : List Notice :=
  fetch.notices ++ match fetch.outcome with
    | .ok readings => [.fetched readings.length feed]
    | .error error => [.fetchFailed feed error]

end Fetch

namespace Feed

/-- The feed after its next fetch. -/
def advance (feed : Feed) : Feed :=
  match feed.tail with
  -- The last fetch stays where it is.
  | [] => feed
  | next :: later => { feed with head := next, tail := later }

/-- The next so many fetches. -/
def take : Nat → Feed → List Fetch
  | 0, _ => []
  | count + 1, feed => feed.head :: take count feed.advance

end Feed

end RoomAir
