import RoomAir.View.Basic

/-! Whole pages: the document around the fragments, with its style and its scripts. -/

namespace RoomAir.Shell

/-- What a page says when its first reading set could not be fetched. -/
def loadError : String :=
  "Failed to load data. Please try again later."

/-- The lines of the style sheet. -/
def styleLines : List String :=
  [":root \x7b --primary: #3f51b5; --danger: #f44336; --bg: #f5f7fb; --card: #ffffff; \x7d",
   "body \x7b margin: 0; font-family: system-ui, sans-serif; background: var(--bg); "
     ++ "color: #263238; \x7d",
   "header \x7b background: var(--primary); color: #fff; padding: 1rem 2rem; display: "
     ++ "flex; gap: 2rem; align-items: center; \x7d",
   "header a \x7b color: #fff; text-decoration: none; opacity: .8; \x7d",
   "header a.active \x7b opacity: 1; font-weight: 600; \x7d",
   "main \x7b padding: 2rem; max-width: 1200px; margin: 0 auto; \x7d",
   ".cards \x7b display: grid; grid-template-columns: repeat(auto-fill, minmax(220px, "
     ++ "1fr)); gap: 1.5rem; \x7d",
   ".card \x7b background: var(--card); border-radius: 12px; box-shadow: 0 2px 8px "
     ++ "rgba(0,0,0,.08); padding: 1rem; \x7d",
   ".card-link \x7b color: inherit; text-decoration: none; \x7d",
   ".gauge-container \x7b position: relative; height: 150px; \x7d",
   ".gauge \x7b width: 200px; height: 100px; margin: 0 auto; border-radius: 100px 100px 0 0;",
   "  background: conic-gradient(from 270deg at 50% 100%, #4caf50 0 36deg, #ffeb3b 36deg "
     ++ "72deg, #ff9800 72deg 108deg, #f44336 108deg 144deg, #9c27b0 144deg 180deg); \x7d",
   ".needle \x7b position: absolute; left: calc(50% - 90px); top: 97px; width: 90px; "
     ++ "height: 4px; background: #263238; transform-origin: right center; \x7d",
   ".gauge-center \x7b text-align: center; margin-top: .5rem; \x7d",
   ".gauge-label \x7b font-weight: 600; \x7d",
   ".gauge-value \x7b font-size: 1.4rem; font-weight: 700; \x7d",
   ".chart-container \x7b background: var(--card); border-radius: 12px; padding: 1rem; "
     ++ "margin-top: 2rem; box-shadow: 0 2px 8px rgba(0,0,0,.08); \x7d",
   ".table-responsive \x7b overflow-x: auto; \x7d",
   "table \x7b width: 100%; border-collapse: collapse; \x7d",
   "th, td \x7b padding: .5rem; border-bottom: 1px solid #eceff1; text-align: left; \x7d",
   ".fade-in \x7b animation: fade .4s ease-in; \x7d",
   "@keyframes fade \x7b from \x7b opacity: 0; \x7d to \x7b opacity: 1; \x7d \x7d"]

/-- The lines of the page script, which mounts charts and applies the updates that follow. -/
def scriptLines : List String :=
  ["const charts = \x7b\x7d;",
   "const slots = \x7b overview: 'overviewChart', details: 'detailsChart' \x7d;",
   "const fragments = \x7b cards: 'roomCards', selector: 'roomSelectContainer', table: "
     ++ "'dataTableContainer' \x7d;",
   "",
   "function mountChart(update) \x7b",
   "  if (charts[update.slot]) \x7b",
   "    charts[update.slot].destroy();",
   "    delete charts[update.slot];",
   "  \x7d",
   "  const canvas = document.getElementById(slots[update.slot]);",
   "  if (!canvas) return;",
   "  const tooltip = update.config.options.plugins.tooltip || \x7b\x7d;",
   "  const suffix = tooltip.valueSuffix || '';",
   "  tooltip.callbacks = \x7b",
   "    label: (context) => `$\x7bcontext.dataset.label || ''\x7d: "
     ++ "$\x7bcontext.parsed.y\x7d$\x7bsuffix\x7d`",
   "  \x7d;",
   "  update.config.options.plugins.tooltip = tooltip;",
   "  charts[update.slot] = new Chart(canvas, update.config);",
   "\x7d",
   "",
   "function applyUpdate(update) \x7b",
   "  for (const [key, id] of Object.entries(fragments)) \x7b",
   "    const element = document.getElementById(id);",
   "    if (element && update[key] != null) element.innerHTML = update[key];",
   "  \x7d",
   "  update.charts.forEach(mountChart);",
   "\x7d",
   "",
   "const initial = JSON.parse(document.getElementById('initialCharts').textContent);",
   "initial.forEach(mountChart);",
   "",
   "const events = new EventSource(EVENTS_URL);",
   "events.addEventListener('refresh', (event) => applyUpdate(JSON.parse(event.data)));",
   "",
   "window.addEventListener('beforeunload', () => \x7b",
   "  events.close();",
   "  Object.values(charts).forEach((chart) => chart.destroy());",
   "\x7d);"]

/-- Lines that each end in a line feed. -/
def ofLines (lines : List String) : String :=
  String.join (lines.map (· ++ "\n"))

/-- Lines between line feeds. -/
def block (lines : List String) : String :=
  "\n" ++ ofLines lines

/-- The path and query of a page's event stream, which takes over the chart that is mounted. -/
def eventsUrl (page : Page) (update : ViewUpdate) : String :=
  let path := match page with
    | .overview => "/events/overview"
    | .details _ => "/events/details"
  let room := match page with
    | .overview => []
    | .details filter => ["room=" ++ Form.encode filter.word]
  let chart := update.charts.head?.toList.map fun update =>
    "chart=" ++ toString update.chart.number
  match room ++ chart with
  | [] => path
  | parameters => path ++ "?" ++ String.intercalate "&" parameters

/-- The opening tag of the element that holds the charts of a page. -/
def chartsMark : String :=
  "<script type=\"application/json\" id=\"initialCharts\">"

/-- The element that holds the charts of an update. -/
def chartsLine (update : ViewUpdate) : String :=
  chartsMark ++ (update.chartsJson.scriptText ++ "</script>")

/-- The beginning of the statement that names a page's event stream. -/
def eventsMark : String :=
  "const EVENTS_URL = "

/-- The statement that names a page's event stream. -/
def eventsLine (page : Page) (update : ViewUpdate) : String :=
  eventsMark ++ ((Json.string (eventsUrl page update)).scriptText ++ ";")

/-- The elements that load what charts are drawn with. -/
def libraryLines (display : Display) : List String :=
  ["<script src=\"" ++ Html.escape display.chartScript ++ "\"></script>",
   "<script src=\"" ++ Html.escape display.adapterScript ++ "\"></script>"]

/-- The script elements of a page that shows an update. -/
def scripts (display : Display) (page : Page) (update : ViewUpdate) : String :=
  ofLines (libraryLines display ++ [chartsLine update, "<script>", eventsLine page update, ""]
    ++ scriptLines ++ ["</script>"])

/-- The attribute of the navigation link of the page that is shown. -/
def activeClass (active : Bool) : String :=
  if active then " class=\"active\"" else ""

/-- A document out of its title, its main part and its scripts. -/
def layout (title : String) (slot : ChartSlot) (main scripts : String) : String :=
  "<!DOCTYPE html>\n"
    ++ "<html lang=\"en\">\n"
    ++ "<head>\n"
    ++ "<meta charset=\"utf-8\">\n"
    ++ "<meta name=\"viewport\" content=\"width=device-width, initial-scale=1\">\n"
    ++ "<title>" ++ Html.escape title ++ "</title>\n"
    ++ "<style>" ++ block styleLines ++ "</style>\n"
    ++ "</head>\n"
    ++ "<body>\n"
    ++ "<header>\n"
    ++ "  <h1>Air Quality</h1>\n"
    ++ "  <nav><a href=\"/\"" ++ activeClass (slot == .overview) ++ ">Dashboard</a> "
    ++ "<a href=\"/details\"" ++ activeClass (slot == .details) ++ ">Details</a></nav>\n"
    ++ "</header>\n"
    ++ "<main>\n"
    ++ main ++ "\n"
    ++ "</main>\n"
    ++ scripts ++ ofLines ["</body>", "</html>"]

/-- The main part of the overview page around its cards. -/
def overviewMain (cards : String) : String :=
  "<section>\n"
    ++ "  <h2>Rooms</h2>\n"
    ++ "  <div id=\"roomCards\" class=\"cards\">" ++ cards ++ "</div>\n"
    ++ "</section>\n"
    ++ "<section class=\"chart-container\">\n"
    ++ "  <h2>AQI Overview</h2>\n"
    ++ "  <canvas id=\"overviewChart\"></canvas>\n"
    ++ "</section>"

/-- The main part of the details page around its selector and its table. -/
def detailsMain (selector table : String) : String :=
  "<section>\n"
    ++ "  <label for=\"roomSelect\">Room</label>\n"
    ++ "  <div id=\"roomSelectContainer\">" ++ selector ++ "</div>\n"
    ++ "</section>\n"
    ++ "<section class=\"chart-container\">\n"
    ++ "  <canvas id=\"detailsChart\"></canvas>\n"
    ++ "</section>\n"
    ++ "<section id=\"dataTableContainer\">" ++ table ++ "</section>"

/-- The main part of a page, without an update the load error in place of the cards or the table. -/
def mainPart (page : Page) (update : Option ViewUpdate) : String :=
  match page, update with
  | .overview, some update => overviewMain (update.cards.getD "")
  | .overview, none => overviewMain (Fragment.errorMessage loadError)
  | .details _, some update => detailsMain (update.selector.getD "") (update.table.getD "")
  | .details _, none => detailsMain "" (Fragment.errorMessage loadError)

/-- The title of a page's document. -/
def documentTitle : Page → String
  | .overview => "Air Quality Dashboard"
  | .details _ => "Air Quality Details"

/-- The document of a page; without an update it has no scripts and so asks for no events. -/
def document (display : Display) (page : Page) (update : Option ViewUpdate) : String :=
  layout (documentTitle page) page.slot (mainPart page update)
    ((update.map (scripts display page)).getD "")

end RoomAir.Shell
