import RoomAir.Dashboard.Details
import RoomAir.Dashboard.Overview
import RoomAir.Text.Form
import RoomAir.Text.Html
import RoomAir.Time.Pattern

/-! The fragments of HTML that a refresh replaces: cards, room selector and table. -/

namespace RoomAir.Fragment

/-- A metric as it is shown, a dash standing for a missing one. -/
def metric : Option Double → String
  | some value => value.display
  | none => "–"

/-- The link to a room's details. -/
def detailsLink (room : String) : String :=
  "/details?room=" ++ Form.encode room

/-- The card of one gauge. -/
def gaugeCard (gauge : Gauge) : String :=
  "<div class=\"card fade-in\">\n"
    ++ "  <a href=\"" ++ Html.escape (detailsLink gauge.room) ++ "\" class=\"card-link\">\n"
    ++ "    <div class=\"gauge-container\">\n"
    ++ "      <div class=\"gauge\"></div>\n"
    ++ "      <div class=\"needle\" style=\"transform: rotate("
    ++ String.ofList (Json.integerChars gauge.severity.rotation) ++ "deg);\"></div>\n"
    ++ "      <div class=\"gauge-center\">\n"
    ++ "        <div class=\"gauge-label\">" ++ Html.escape gauge.room ++ "</div>\n"
    ++ "        <div class=\"gauge-value\" style=\"color: " ++ gauge.severity.color ++ "\">"
    ++ gauge.aqi.display ++ " AQI</div>\n"
    ++ "        <div class=\"gauge-subvalue\">" ++ metric gauge.temperature ++ " °C</div>\n"
    ++ "      </div>\n"
    ++ "    </div>\n"
    ++ "  </a>\n"
    ++ "</div>\n"

/-- The cards of an overview, one for each gauge. -/
def roomCards (overview : Overview) : String :=
  String.join (overview.gauges.map gaugeCard)

/-- One option of the selector, whose value and text are given as they stand in the page. -/
def optionElement (value text : String) (selected : Bool) : String :=
  "<option value=\"" ++ value ++ "\"" ++ (if selected then " selected" else "") ++ ">"
    ++ text ++ "</option>"

/-- The option of one room. -/
def roomOption (room : String) (selected : Bool) : String :=
  optionElement (Html.escape room) (Html.escape room) selected

/-- The rooms to choose from, a requested room without readings coming last. -/
def roomChoices (details : Details) : List String :=
  match details.filter with
  | .all => details.rooms
  | .room name => if details.rooms.contains name then details.rooms else details.rooms ++ [name]

/-- The selector of rooms, on which the filter is selected. -/
def roomSelector (details : Details) : String :=
  "<select id=\"roomSelect\" onchange=\"window.location.search = '?room=' + "
    ++ "encodeURIComponent(this.value)\">"
    ++ optionElement RoomFilter.allWord "All Rooms" (details.filter == .all)
    ++ String.join ((roomChoices details).map fun room =>
      roomOption room (details.filter == .room room))
    ++ "</select>"

/-- The row of one reading, whose time is already rendered and stands in the page as it is. -/
def tableRow (time : String) (reading : Reading) : String :=
  "<tr>\n"
    ++ "  <td>" ++ time ++ "</td>\n"
    ++ "  <td>" ++ Html.escape reading.room ++ "</td>\n"
    ++ "  <td style=\"color: " ++ (Severity.ofAqi reading.aqi).color ++ "\">"
    ++ reading.aqi.display ++ "</td>\n"
    ++ "  <td>" ++ metric reading.temperature ++ "</td>\n"
    ++ "  <td>" ++ metric reading.co2 ++ "</td>\n"
    ++ "  <td>" ++ metric reading.humidity ++ "</td>\n"
    ++ "  <td>" ++ metric reading.tvoc ++ "</td>\n"
    ++ "</tr>\n"

/-- The head of the table. -/
def tableHead : String :=
  "<div class=\"chart-container\">\n"
    ++ "  <div class=\"table-responsive\">\n"
    ++ "    <table>\n"
    ++ "      <thead>\n"
    ++ "        <tr>\n"
    ++ "          <th>Time</th>\n"
    ++ "          <th>Room</th>\n"
    ++ "          <th>AQI</th>\n"
    ++ "          <th>Temp (°C)</th>\n"
    ++ "          <th>CO₂ (ppm)</th>\n"
    ++ "          <th>Humidity (%)</th>\n"
    ++ "          <th>TVOC (ppb)</th>\n"
    ++ "        </tr>\n"
    ++ "      </thead>\n"
    ++ "      <tbody>\n"

/-- The foot of the table. -/
def tableFoot : String :=
  "      </tbody>\n    </table>\n  </div>\n</div>\n"

/-- The table of readings, if the pattern renders the time of each. -/
def dataTable? (rows : List Reading) (timeFormat : String) : Option String :=
  let pattern := TimePattern.ofText timeFormat
  let row (reading : Reading) : Option String :=
    (pattern.render? reading.time).map (tableRow · reading)
  (rows.mapM row).map fun cells => tableHead ++ String.join cells ++ tableFoot

/-- A message in place of what could not be shown. -/
def errorMessage (message : String) : String :=
  "<div class=\"error-message\" style=\"color: var(--danger); padding: 1rem; "
    ++ "text-align: center;\">" ++ Html.escape message ++ "</div>"

end RoomAir.Fragment
