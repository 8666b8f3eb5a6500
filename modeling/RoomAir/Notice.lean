import RoomAir.Reading.Document
import RoomAir.View.Page

/-! Notices: what the dashboard reports about its work and its failures, beside its answers. -/

namespace RoomAir

/-- Why a fetch yielded no reading set. -/
inductive FetchError where
  /-- The request got no response. -/
  | transport (url reason : String)
  /-- The response was not a success. -/
  | status (url : String) (code : Nat)
  /-- The file could not be read. -/
  | file (path reason : String)
  /-- The document is not an array. -/
  | decode (error : JsonError)

/-- The wording of a fetch error. -/
def FetchError.message : FetchError → String
  | .transport url reason => "request to " ++ url ++ " failed: " ++ reason
  | .status url code => url ++ " responded with status " ++ toString code
  | .file path reason => "failed to read " ++ path ++ ": " ++ reason
  | .decode error => "malformed reading data: " ++ error.message

/-- Something worth a line in the log. -/
inductive Notice where
  | skippedRecord (index : Nat) (fault : RecordFault)
  | partlyDecoded (kept total : Nat)
  | fetched (count : Nat) (source : String)
  | fetchFailed (source : String) (error : FetchError)
  | refreshFailed (page : Page) (error : FetchError)
  | openingFailed (page : Page) (error : FetchError)
  | rendered (page : Page) (chart : Nat)
  | liveStarted (page : Page)
  | disposed (chart : ChartHandle)
  | tornDown (page : Page) (charts : Nat)

namespace Notice

/-- The line of a notice, which begins with how grave it is. -/
def line : Notice → String
  | .skippedRecord index fault =>
    "WARN Skipping reading #" ++ toString index ++ ": " ++ fault.message
  | .partlyDecoded kept total =>
    "WARN Decoded " ++ toString kept ++ " of " ++ toString total ++ " readings"
  | .fetched count source => "DEBUG Fetched " ++ toString count ++ " readings from " ++ source
  | .fetchFailed source error =>
    "WARN Error fetching readings from " ++ source ++ ": " ++ error.message
  | .refreshFailed page error =>
    "WARN Refresh of " ++ page.name ++ " failed, keeping previous view: " ++ error.message
  | .openingFailed page error =>
    "ERROR Error initializing " ++ page.name ++ " page: " ++ error.message
  | .rendered page chart => "DEBUG Rendered " ++ page.name ++ " with chart #" ++ toString chart
  | .liveStarted page => "DEBUG Live updates started for " ++ page.name
  | .disposed chart =>
    "DEBUG Disposing " ++ chart.slot.title ++ " chart #" ++ toString chart.number
  | .tornDown page charts =>
    "DEBUG View " ++ page.name ++ " torn down, " ++ toString charts ++ " charts disposed"

/-- What is reported about a decoded document: its skipped records, then how many were kept. -/
def ofDocument (document : Document) : List Notice :=
  let skips := document.skipped.map fun (index, fault) => .skippedRecord index fault
  if document.skipped.isEmpty then []
  else skips ++ [.partlyDecoded document.readings.length document.total]

end Notice

end RoomAir
