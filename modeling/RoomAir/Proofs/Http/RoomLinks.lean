import RoomAir.Proofs.Http.HandOff
import RoomAir.Proofs.Projection.Series
import RoomAir.Proofs.Text.Html
import RoomAir.Proofs.Traversal
import RoomAir.Reading.Document

/-! The links on the cards of rooms: each leads to the details of its own room. -/

namespace RoomAir

/-! ## Following a link -/

namespace Fragment

/-- How the tag of a link begins, its bracket left out. -/
def linkMark : List Char :=
  "a href=\"".toList

/-- The address in a tag, if it is the tag of a link. -/
def address? (tag : List Char) : Option String :=
  (tag.dropPrefix? linkMark).map fun attributes =>
    -- The value ends at the quote, and its entities stand for other characters.
    Html.unescape (String.ofList (attributes.takeWhile (· ≠ '"')))

/-- The target of the first link in a fragment. -/
def linkTarget? (fragment : String) : Option String :=
  (Form.splitAt '<' fragment.toList).findSome? address?

/-- The address is read back from a tag, whatever other attributes the tag has. -/
theorem address?_link (target : String) (others : List Char) :
    address? (linkMark ++ ((Html.escape target).toList ++ '"' :: others)) = some target := by
  -- The quote that closes the value is the first one behind the mark.
  have value : ∀ c ∈ (Html.escape target).toList, decide (c ≠ '"') = true := by
    intro c member
    simpa using fun same : c = '"' => Html.notMem_escape (by decide) target (same ▸ member)
  rw [address?, List.dropPrefix?_append_of_beq _ (beq_self_eq_true _), Option.map_some,
    takeWhile_run value (endsRun_cons (by decide) _), String.ofList_toList, Html.unescape_escape]

/-- Behind tags that are no links, the target of a link is found, whatever follows its tag. -/
theorem linkTarget?_append (front target others rest : String)
    (noLink : (Form.splitAt '<' front.toList).findSome? address? = none)
    (clean : '<' ∉ others.toList) :
    linkTarget? (front ++ "<a href=\"" ++ (Html.escape target ++ ("\"" ++ others ++ ("<" ++ rest))))
      = some target := by
  -- Split at its brackets, the fragment has the tag of the link as one of its pieces.
  have tags : (front ++ "<a href=\""
      ++ (Html.escape target ++ ("\"" ++ others ++ ("<" ++ rest)))).toList
      = front.toList ++ '<' :: (linkMark ++ ((Html.escape target).toList ++ '"' :: others.toList)
        ++ '<' :: rest.toList) := by
    have tag : "<a href=\"".toList = '<' :: linkMark := by decide
    have quote : "\"".toList = ['"'] := by decide
    have bracket : "<".toList = ['<'] := by decide
    simp only [String.toList_append, tag, quote, bracket, List.append_assoc, List.cons_append,
      List.nil_append]
  -- The tag of the link has no further bracket in it, so it is one of the pieces.
  have whole : '<' ∉ linkMark ++ ((Html.escape target).toList ++ '"' :: others.toList) := by
    simp only [List.mem_append, List.mem_cons, not_or]
    exact ⟨by decide, Html.notMem_escape (by decide) target, by decide, clean⟩
  -- The pieces in front are no links, so the search goes on to this one.
  rw [linkTarget?, tags, Form.splitAt_append, Form.splitAt_append, Form.splitAt_of_notMem whole,
    List.findSome?_append, noLink, List.singleton_append, List.findSome?_cons, address?_link]
  rfl

/-- The link on a card leads to the details of its room. -/
theorem linkTarget?_gaugeCard (gauge : Gauge) :
    linkTarget? (gaugeCard gauge) = some (detailsLink gauge.room) := by
  -- The tag of the link stands between two other ones, each on a line of its own.
  have opening : "<div class=\"card fade-in\">\n" ++ "  <a href=\""
      = "<div class=\"card fade-in\">\n  " ++ "<a href=\"" := by decide +kernel
  have ending : "\" class=\"card-link\">\n" ++ "    <div class=\"gauge-container\">\n"
      = "\"" ++ " class=\"card-link\">\n    " ++ ("<" ++ "div class=\"gauge-container\">\n") := by
    decide +kernel
  -- What follows the tag behind the link does not matter, so it is left open.
  obtain ⟨rest, card⟩ : ∃ rest, gaugeCard gauge
      = "<div class=\"card fade-in\">\n" ++ "  <a href=\""
        ++ (Html.escape (detailsLink gauge.room)
          ++ ("\" class=\"card-link\">\n" ++ "    <div class=\"gauge-container\">\n"
            ++ rest)) := by
    unfold gaugeCard
    simp only [String.append_assoc]
    exact ⟨_, rfl⟩
  have found := linkTarget?_append "<div class=\"card fade-in\">\n  " (detailsLink gauge.room)
    " class=\"card-link\">\n    " ("div class=\"gauge-container\">\n" ++ rest)
    (by decide) (by decide)
  rw [card, opening, ending]
  simpa only [String.append_assoc] using found

end Fragment

/-- The selection that a target asks the details page for, read as the page's handler reads it. -/
def Request.selection? (target : String) : Option RoomFilter := do
  let request ← Request.ofTarget? target
  match request.resource with
  | .detailsPage => ((Query.read false request.query).toOption).map Query.filter
  | _ => none

/-- The link of a room asks for the selection that the room's name stands for. -/
theorem Request.selection?_detailsLink (room : String) :
    selection? (Fragment.detailsLink room) = some (.ofQuery (some room)) := by
  -- The link is a path and a query with the room as its only field.
  have target : Fragment.detailsLink room = "/details" ++ "?" ++ ("room=" ++ Form.encode room) := by
    rw [Fragment.detailsLink, ← String.append_assoc]
    rfl
  have split := Request.splitTarget_append "/details" (by decide) ("room=" ++ Form.encode room)
  -- The path is that of the details page, and its query is passed on as it is.
  have request : Request.ofTarget? (Fragment.detailsLink room) = some
      { resource := .detailsPage, query := some ("room=" ++ Form.encode room), headers := [] } := by
    rw [target, Request.ofTarget?, split]
    rfl
  simp only [selection?, request, Option.bind_eq_bind, Option.bind_some, Query.read_room]
  rfl

/-! ## What the link shows -/

/-- Details that show the room of a gauge, and begin where the gauge stands. -/
structure Details.ShowsRoom (details : Details) (readings : List Reading) (gauge : Gauge) :
    Prop where
  /-- The rows are the readings of the room, all of them and no other room's. -/
  rows : details.rows.Perm (readings.filter (·.room = gauge.room))
  title : details.title = gauge.room ++ " Data"
  newest : details.rows.head?.map Reading.time = some gauge.time

/-- Details of all rooms. -/
structure Details.ShowsAll (details : Details) (readings : List Reading) : Prop where
  rows : details.rows.Perm readings
  title : details.title = "All Rooms Data"

/-- A selected room is shown together with the time of its gauge. -/
theorem Details.showsRoom_room {readings : List Reading} {gauge : Gauge}
    (shown : gauge ∈ (Overview.ofReadings readings).gauges) :
    (Details.ofReadings readings (.room gauge.room)).ShowsRoom readings gauge := by
  -- The gauge is that of the latest reading of its room, which heads the rows of the room.
  obtain ⟨latest, listed, rfl⟩ := List.mem_map.mp shown
  refine ⟨?_, rfl, Projection.head?_newestFirst_room listed⟩
  have rows := Projection.newestFirst_perm readings (.room latest.room)
  rwa [Projection.filter_accepts_room] at rows

/-- With all rooms selected every reading is shown. -/
theorem Details.showsAll_all (readings : List Reading) :
    (Details.ofReadings readings .all).ShowsAll readings := by
  refine ⟨?_, rfl⟩
  -- With every reading accepted the rows are the readings in another order.
  have rows := Projection.newestFirst_perm readings .all
  rwa [Projection.filter_accepts_all] at rows

/-- Every room that has a reading has a gauge. -/
theorem Overview.exists_gauge {readings : List Reading} {room : String}
    (occurs : room ∈ readings.map Reading.room) :
    ∃ gauge ∈ (Overview.ofReadings readings).gauges, gauge.room = room := by
  -- The latest readings list every room that occurs.
  have listed : room ∈ (Projection.latestPerRoom readings).map Reading.room := by
    rw [Projection.rooms_latestPerRoom]
    exact Projection.mem_distinctRooms.mpr (List.mem_map.mp occurs)
  obtain ⟨latest, found, same⟩ := List.mem_map.mp listed
  exact ⟨.ofReading latest, List.mem_map_of_mem found, same⟩

/--
The card of every gauge links to the details of its own room, as far as a query can name the room.

A room without a name, and a room that is called like the word for all rooms, cannot be selected by
itself: the cards of these two link to the details of all rooms.
-/
theorem Overview.cards_lead_to_rooms (readings : List Reading) {gauge : Gauge}
    (shown : gauge ∈ (Overview.ofReadings readings).gauges) :
    ∃ target filter, Fragment.linkTarget? (Fragment.gaugeCard gauge) = some target
      ∧ Request.selection? target = some filter
      ∧ (gauge.room ≠ "" ∧ gauge.room ≠ RoomFilter.allWord →
        (Details.ofReadings readings filter).ShowsRoom readings gauge)
      ∧ (gauge.room = "" ∨ gauge.room = RoomFilter.allWord →
        (Details.ofReadings readings filter).ShowsAll readings) := by
  -- The link and its selection are the same for every name, and the name decides what is selected.
  refine ⟨_, _, Fragment.linkTarget?_gaugeCard gauge, Request.selection?_detailsLink gauge.room,
    fun ⟨named, other⟩ => ?_, fun every => ?_⟩
  · rw [RoomFilter.ofQuery, if_neg (not_or.mpr ⟨named, other⟩)]
    exact Details.showsRoom_room shown
  · rw [RoomFilter.ofQuery, if_pos every]
    exact Details.showsAll_all readings

/-- The card of a room with a name full of marks links to its own details. -/
theorem Overview.card_leads_to_marks :
    let bytes := Utf8.encode "[[\"a&b=c+%#'<é\",\"2024-03-01T10:00:00Z\",42]]"
    ∃ document, Document.decode bytes = .ok document
      ∧ ∃ gauge ∈ (Overview.ofReadings document.readings).gauges,
        ∃ target filter, Fragment.linkTarget? (Fragment.gaugeCard gauge) = some target
          ∧ Request.selection? target = some filter
          ∧ (Details.ofReadings document.readings filter).ShowsRoom document.readings gauge := by
  intro bytes
  -- The document has the one room, with its name as it is.
  have decodes : (Document.decode bytes).toOption.map
      (fun document => document.readings.map Reading.room) = some ["a&b=c+%#'<é"] := by
    decide +kernel
  obtain ⟨document, decoded, rooms⟩ := exists_ok_of_map decodes
  obtain ⟨gauge, shown, named⟩ := exists_gauge (rooms ▸ List.mem_singleton_self _)
  obtain ⟨target, filter, link, selected, own, -⟩ := cards_lead_to_rooms document.readings shown
  refine ⟨document, decoded, gauge, shown, target, filter, link, selected, own ?_⟩
  rw [named]
  decide

/-- The card of a room that is called like the word for all rooms leads to other rooms as well. -/
theorem Overview.card_leads_astray :
    let bytes := Utf8.encode
      "[[\"all\",\"2024-03-01T10:00:00Z\",42],[\"Hall\",\"2024-03-01T11:00:00Z\",7]]"
    ∃ document, Document.decode bytes = .ok document
      ∧ ∃ gauge ∈ (Overview.ofReadings document.readings).gauges,
        ∃ target filter, Fragment.linkTarget? (Fragment.gaugeCard gauge) = some target
          ∧ Request.selection? target = some filter
          ∧ ¬ (Details.ofReadings document.readings filter).ShowsRoom document.readings gauge := by
  intro bytes
  have decodes : (Document.decode bytes).toOption.map
      (fun document => document.readings.map Reading.room) = some ["all", "Hall"] := by
    decide +kernel
  obtain ⟨document, decoded, rooms⟩ := exists_ok_of_map decodes
  -- Both rooms have a reading, and the card is that of the first one.
  have occurs : ∀ room ∈ ["all", "Hall"], room ∈ document.readings.map Reading.room :=
    fun _ member => rooms ▸ member
  obtain ⟨gauge, shown, named⟩ := exists_gauge (occurs "all" (by decide))
  obtain ⟨reading, member, hall⟩ := List.mem_map.mp (occurs "Hall" (by decide))
  refine ⟨document, decoded, gauge, shown, _, _,
    Fragment.linkTarget?_gaugeCard gauge, Request.selection?_detailsLink gauge.room, fun own => ?_⟩
  -- The query means all rooms, so the reading of the other room is among the rows.
  have every : RoomFilter.ofQuery (some gauge.room) = .all := by
    rw [named]
    rfl
  -- Among the rows of its own room the other reading could not be.
  rw [every] at own
  have shows := (Details.showsAll_all document.readings).rows.mem_iff.mpr member
  have found := (List.mem_filter.mp (own.rows.mem_iff.mp shows)).2
  rw [named, hall] at found
  exact absurd found (by decide)

end RoomAir
