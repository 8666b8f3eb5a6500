import RoomAir.Http.Route
import RoomAir.Settings
import RoomAir.Source.Web

/-! The program: it answers one request from the readings that the settings name. -/

namespace RoomAir.Program

/-- The variables that hold settings. -/
def variableNames : List String :=
  ["DASHBOARD__SERVER__BIND", "DASHBOARD__SOURCE__URL", "DASHBOARD__SOURCE__PATH",
   "DASHBOARD__SOURCE__TIMEOUT_SECS", "DASHBOARD__REFRESH__INTERVAL_SECS",
   "DASHBOARD__DISPLAY__TIME_FORMAT", "DASHBOARD__DISPLAY__CHART_JS_URL",
   "DASHBOARD__DISPLAY__CHART_ADAPTER_URL"]

/-- The variables that are set. -/
def environment : IO (List (String × String)) :=
  variableNames.filterMapM fun name => do
    return (← IO.getEnv name).map fun value => (name, value)

/-- The configuration files that can be read, each under its ending. -/
def files : IO (List (String × Bytes)) :=
  ConfigFormat.extensions.filterMapM fun (extension, _) => do
    match ← (IO.FS.readBinFile ("config/dashboard." ++ extension)).toBaseIO with
    | .ok content => return some (extension, content.toList)
    | .error _ => return none

/-- The fetch of the readings: those on the web are out of reach of this program. -/
def fetch (settings : Settings) : IO Fetch := do
  match settings.url with
  | some url => return .ofReply url .unreachable
  | none =>
    match ← (IO.FS.readBinFile settings.path).toBaseIO with
    | .ok content => return .ofDocument content.toList
    | .error error => return .ofFailure (.file settings.path (toString error))

/-- Writes the answer to a request, and what is reported about it to the error stream. -/
def respond (settings : Settings) (request : Request) : IO UInt32 := do
  let feed : Feed := { name := settings.source, head := ← fetch settings, tail := [] }
  let site : Site := { display := settings.display, feed, calls := 0 }
  match site.answer? request with
  | none =>
    IO.eprintln "the table cannot be rendered"
    return 1
  | some (answer, _) =>
    for notice in answer.notices do IO.eprintln notice.line
    IO.println answer.response.body
    return if answer.response.status = 200 then 0 else 1

/-- Answers the request for a path and its query. -/
def run (target : String) : IO UInt32 := do
  match Settings.load (← files) (← environment), Request.ofTarget? target with
  | .error error, _ =>
    IO.eprintln error.message
    return 1
  | _, none =>
    IO.eprintln ("nothing is at " ++ target)
    return 1
  | .ok settings, some request => respond settings request

end RoomAir.Program

/-- The first argument is the path of the request, the overview page if there is none. -/
def main (arguments : List String) : IO UInt32 :=
  RoomAir.Program.run (arguments.head?.getD "/")
