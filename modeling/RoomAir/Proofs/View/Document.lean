import RoomAir.Proofs.Json.Comments
import RoomAir.Proofs.Json.Kept
import RoomAir.View.Shell

/-! Whole pages read back: the charts and the address of events that a page's scripts state. -/

namespace RoomAir.Shell

/-! ## Reading a document -/

/-- The lines of a document. -/
def lines (document : String) : List (List Char) :=
  Form.splitAt '\n' document.toList

/-- What follows a mark on the last line that begins with it. -/
def afterMark? (mark : List Char) (lines : List (List Char)) : Option (List Char) :=
  (lines.findRev? mark.isPrefixOf).map (·.drop mark.length)

/-- The content of an element, up to the first tag that closes one. -/
def untilClosingTag : List Char → List Char
  | [] => []
  | '<' :: '/' :: _ => []
  | c :: rest => c :: untilClosingTag rest

/-- The charts that a page mounts at first. -/
def initialCharts? (document : String) : Option Json :=
  (afterMark? chartsMark.toList (lines document)).bind fun content =>
    (Json.readExactly (untilClosingTag content)).toOption

/-- The string that a statement's literal stands for, up to its semicolon. -/
def literal? (statement : List Char) : Option String :=
  match statement.getLast?, Json.readExactly statement.dropLast with
  | some ';', .ok (.string text) => some text
  | _, _ => none

/-- The address that a page listens to for events. -/
def eventsTarget? (document : String) : Option String :=
  (afterMark? eventsMark.toList (lines document)).bind literal?

/-! ## Lines -/

/-- A line feed parts the lines before it from those after it. -/
theorem lines_append (first second : String) :
    lines (first ++ "\n" ++ second) = lines first ++ lines second := by
  have text : (first ++ "\n" ++ second).toList = first.toList ++ '\n' :: second.toList := by
    simp
  rw [lines, text, Form.splitAt_append]
  rfl

/-- A text without line feeds is one line. -/
theorem lines_of_notMem {text : String} (clean : '\n' ∉ text.toList) :
    lines text = [text.toList] :=
  Form.splitAt_of_notMem clean

/-- Lines that each end in a line feed are followed by the lines of what comes after them. -/
theorem lines_ofLines_append {texts : List String} (clean : ∀ text ∈ texts, '\n' ∉ text.toList)
    (rest : String) : lines (ofLines texts ++ rest) = texts.map String.toList ++ lines rest := by
  -- Each text ends with its own line feed, so the induction takes off one line at a time.
  induction texts with
  | nil => simp [ofLines]
  | cons text texts ih =>
    -- The first line feed ends the first line.
    rw [List.forall_mem_cons] at clean
    have split : ofLines (text :: texts) ++ rest = text ++ "\n" ++ (ofLines texts ++ rest) := by
      rw [ofLines, List.map_cons, String.join_cons, ofLines, String.append_assoc]
    rw [split, lines_append, lines_of_notMem clean.1, ih clean.2]
    rfl

/-- Lines are written one after the other. -/
theorem ofLines_append (first second : List String) :
    ofLines (first ++ second) = ofLines first ++ ofLines second := by
  rw [ofLines, List.map_append, String.join_append, ofLines, ofLines]

/-- The last of the lines that begin with a mark is found. -/
theorem afterMark?_append {mark content : List Char} (front : List (List Char))
    {back : List (List Char)} (other : ∀ line ∈ back, mark.isPrefixOf line = false) :
    afterMark? mark (front ++ (mark ++ content) :: back) = some content := by
  -- Searched from the end, the lines behind it are passed over first.
  have none : back.findRev? mark.isPrefixOf = none := by
    induction back with
    | nil => rfl
    | cons line back ih =>
      rw [List.forall_mem_cons] at other
      rw [List.findRev?, ih other.2, other.1]
      rfl
  have found : (front ++ (mark ++ content) :: back).findRev? mark.isPrefixOf
      = some (mark ++ content) := by
    induction front with
    | nil =>
      have begins : mark.isPrefixOf (mark ++ content) = true :=
        List.isPrefixOf_iff_prefix.mpr (List.prefix_append ..)
      rw [List.nil_append, List.findRev?, none, begins]
      rfl
    | cons line front ih => rw [List.cons_append, List.findRev?, ih]
  rw [afterMark?, found, Option.map_some, List.drop_left]

/-- A character that begins no closing tag belongs to the content. -/
theorem untilClosingTag_cons {c : Char} {rest : List Char}
    (noTag : ∀ later, c = '<' → rest = '/' :: later → False) :
    untilClosingTag (c :: rest) = c :: untilClosingTag rest := by
  -- The reader stops only at a bracket with a stroke behind it.
  rw [untilClosingTag]
  exact noTag

/-- Breaking closing tags leaves the first character where it is. -/
theorem head?_breakClosingTags (text : List Char) :
    (Json.breakClosingTags text).head? = text.head? := by
  -- A backslash is put in behind a bracket, never in front of a text.
  unfold Json.breakClosingTags
  split <;> rfl

/-- A text whose closing tags are broken ends where its element is closed. -/
theorem untilClosingTag_breakClosingTags (text rest : List Char) :
    untilClosingTag (Json.breakClosingTags text ++ '<' :: '/' :: rest)
      = Json.breakClosingTags text := by
  -- The induction follows the breaking of tags, which goes on behind each broken tag.
  induction text using Json.breakClosingTags.induct with
  | case1 => rfl
  | case2 text ih =>
    -- A backslash stands between the bracket and the stroke, so no tag is closed.
    rw [Json.breakClosingTags, List.cons_append, List.cons_append, List.cons_append,
      untilClosingTag_cons (by simp), untilClosingTag_cons (by simp),
      untilClosingTag_cons (by simp), ih]
  | case3 c text noTag ih =>
    rw [Json.breakClosingTags, List.cons_append, untilClosingTag_cons, ih]
    · -- A stroke that follows would stand in the text already.
      intro later opens stroke
      have head := head?_breakClosingTags text
      cases broken : Json.breakClosingTags text with
      | nil => simp [broken] at stroke
      | cons first more =>
        rw [broken, List.cons_append] at stroke
        rw [broken, (List.cons.inj stroke).1] at head
        cases text with
        | nil => simp at head
        | cons first text => exact noTag text opens (by simpa using head.symm)
    · exact noTag

/-! ## Documents of pages -/

/-- The lines after the statement of a page's event stream. -/
def lastLines : List String :=
  "" :: scriptLines ++ ["</script>", "</body>", "</html>"]

/-- None of the last lines is broken, and none begins with a mark. -/
theorem lastLines_unmarked : ∀ line ∈ (lastLines ++ [""]).map String.toList, '\n' ∉ line
    ∧ chartsMark.toList.isPrefixOf line = false ∧ eventsMark.toList.isPrefixOf line = false := by
  simp only [lastLines, scriptLines, chartsMark, eventsMark, List.cons_append, List.nil_append,
    List.map_cons, List.map_nil, String.toList_append]
  -- Each literal is taken for the list of its characters, without decoding its bytes.
  repeat rw [String.toList_ofList]
  decide +kernel

/-- The line of the charts is its mark, the text of the charts and a closing tag. -/
theorem toList_chartsLine (update : ViewUpdate) : (chartsLine update).toList = chartsMark.toList
    ++ (Json.breakClosingTags update.chartsJson.chars ++ '<' :: '/' :: "script>".toList) := by
  rw [chartsLine, String.toList_append, String.toList_append, Json.scriptText,
    String.toList_ofList]
  rfl

/-- The line of the events is its mark, the address as a string and a semicolon. -/
theorem toList_eventsLine (page : Page) (update : ViewUpdate) :
    (eventsLine page update).toList = eventsMark.toList
      ++ ((Json.string (eventsUrl page update)).scriptText.toList ++ [';']) := by
  rw [eventsLine, String.toList_append, String.toList_append]
  rfl

/-- The charts of an update are written on one line. -/
theorem newline_notMem_chartsLine (update : ViewUpdate) :
    '\n' ∉ (chartsLine update).toList := by
  -- The mark, the text of the charts and the closing tag are each one line.
  rw [chartsLine, String.toList_append, String.toList_append, List.mem_append, List.mem_append,
    not_or, not_or]
  exact ⟨by decide, Json.newline_notMem_scriptText _, by decide⟩

/-- So is the address of its events. -/
theorem newline_notMem_eventsLine (page : Page) (update : ViewUpdate) :
    '\n' ∉ (eventsLine page update).toList := by
  -- Whatever stands in the address, JSON writes it on one line.
  rw [eventsLine, String.toList_append, String.toList_append, List.mem_append, List.mem_append,
    not_or, not_or]
  exact ⟨by decide, Json.newline_notMem_scriptText _, by decide⟩

/-- The scripts of a document are followed by the tags that end it. -/
theorem exists_layout (title : String) (slot : ChartSlot) (main scripts : String) :
    ∃ before, layout title slot main scripts
      = before ++ (scripts ++ ofLines ["</body>", "</html>"]) := by
  unfold layout
  exact ⟨_, String.append_assoc ..⟩

/-- The lines of a page that shows an update, its charts and its event stream among them. -/
theorem exists_lines_document (display : Display) (page : Page) (update : ViewUpdate) :
    ∃ front, lines (document display page (some update))
      = front ++ (chartsLine update).toList :: "<script>".toList :: (eventsLine page update).toList
        :: (lastLines ++ [""]).map String.toList := by
  obtain ⟨head, whole⟩ := exists_layout (documentTitle page) page.slot
    (mainPart page (some update)) (scripts display page update)
  -- What stands before the charts may have any lines.
  obtain ⟨before, library⟩ : ∃ before, ofLines (libraryLines display) = before ++ "\n" :=
    ⟨"<script src=\"" ++ Html.escape display.chartScript ++ "\"></script>" ++ "\n"
      ++ ("<script src=\"" ++ Html.escape display.adapterScript ++ "\"></script>"), by
      simp only [ofLines, libraryLines, List.map_cons, List.map_nil, String.join_cons,
        String.join_nil, String.append_empty, String.append_assoc]⟩
  -- From the charts on, every line is known.
  obtain ⟨known, same⟩ : ∃ known, known
      = [chartsLine update, "<script>", eventsLine page update] ++ lastLines := ⟨_, rfl⟩
  have inside : scripts display page update ++ ofLines ["</body>", "</html>"]
      = before ++ "\n" ++ ofLines known := by
    rw [scripts, ← library, ← ofLines_append, ← ofLines_append, same, lastLines]
    simp only [List.append_assoc, List.cons_append, List.nil_append]
  -- None of the known lines is broken, so each of them is one line of the document.
  have clean : ∀ line ∈ known, '\n' ∉ line.toList := by
    rw [same]
    simp only [List.cons_append, List.nil_append, List.forall_mem_cons]
    exact ⟨newline_notMem_chartsLine update, by decide, newline_notMem_eventsLine page update,
      fun line member => (lastLines_unmarked line.toList
        (List.mem_map_of_mem (List.mem_append_left _ member))).1⟩
  have text : document display page (some update)
      = head ++ before ++ "\n" ++ (ofLines known ++ "") := by
    rw [document, Option.map_some, Option.getD_some, whole, inside]
    simp only [String.append_assoc, String.append_empty]
  refine ⟨lines (head ++ before), ?_⟩
  rw [text, lines_append, lines_ofLines_append clean, same]
  simp only [List.cons_append, List.nil_append, List.map_cons, List.map_append, List.map_nil]
  rfl

/-- The charts of a page that shows an update are those of the update. -/
theorem initialCharts?_document (display : Display) (page : Page) (update : ViewUpdate) :
    initialCharts? (document display page (some update)) = some update.chartsJson := by
  obtain ⟨front, same⟩ := exists_lines_document display page update
  -- The line of the charts is the last one with its mark, and its content ends at the closing tag.
  rw [initialCharts?, same, toList_chartsLine, toList_eventsLine, afterMark?_append front]
  · rw [Option.bind_some, untilClosingTag_breakClosingTags,
      Json.readExactly_escaped (.breakClosingTags _)]
    rfl
  · -- The statement that follows begins otherwise, as do the lines after it.
    intro line member
    rcases List.mem_cons.mp member with rfl | member
    · decide
    rcases List.mem_cons.mp member with rfl | member
    · rfl
    · exact (lastLines_unmarked line member).2.1

/-- The address of events on a page that shows an update is the one made for the update. -/
theorem eventsTarget?_document (display : Display) (page : Page) (update : ViewUpdate) :
    eventsTarget? (document display page (some update)) = some (eventsUrl page update) := by
  obtain ⟨front, same⟩ := exists_lines_document display page update
  -- No line of the script begins like the statement of the address.
  have last : ∀ line ∈ (lastLines ++ [""]).map String.toList,
      eventsMark.toList.isPrefixOf line = false :=
    fun line member => (lastLines_unmarked line member).2.2
  -- The lines of the charts are among those before the statement.
  have earlier : front ++ (chartsLine update).toList :: "<script>".toList
      :: (eventsLine page update).toList :: (lastLines ++ [""]).map String.toList
      = (front ++ [(chartsLine update).toList, "<script>".toList])
        ++ (eventsLine page update).toList :: (lastLines ++ [""]).map String.toList := by
    rw [List.append_assoc]
    rfl
  rw [eventsTarget?, same, earlier, toList_eventsLine, afterMark?_append _ last, Option.bind_some,
    literal?, List.getLast?_concat, List.dropLast_concat, Json.readExactly_scriptText]
  rfl

/-! ## Values in scripts -/

/--
A value keeps its meaning inside a script element, whatever characters stand together in it.

Its text has no stroke after an opening bracket, and a browser reads it as the value. So does the
reader of documents, within its limits: numbers that it keeps, and lists that nest less deep than it
goes. On a page the charts of an update and the address of its events are read in this way.
-/
theorem scripts_keep_values :
    (∀ value : Json, ScriptData.Tagless value.scriptText.toList
      ∧ Json.readExactly value.scriptText.toList = .ok value
      ∧ (Json.Kept Json.depthLimit value → Json.read (Utf8.encode value.scriptText) = .ok value))
    ∧ ∀ display page update,
      initialCharts? (document display page (some update)) = some update.chartsJson
        ∧ eventsTarget? (document display page (some update)) = some (eventsUrl page update) :=
  ⟨fun value => ⟨Json.tagless_scriptText value, Json.readExactly_scriptText value,
    Json.Kept.isDocument_scriptText⟩,
    fun display page update => ⟨initialCharts?_document display page update,
      eventsTarget?_document display page update⟩⟩

/-- End tags, backslashes and quotes side by side in a key and in a string are all kept. -/
theorem scripts_keep_marks :
    let value := Json.object [("</a\\", .array [.string "<\\/\"</<//", .integer (-12), .null])]
    ScriptData.Tagless value.scriptText.toList
      ∧ Json.readExactly value.scriptText.toList = .ok value
      ∧ Json.Kept Json.depthLimit value
      ∧ Json.read (Utf8.encode value.scriptText) = .ok value := by
  intro value
  -- The numbers are small and the value is two levels deep, so the reader keeps it.
  have kept : Json.Kept Json.depthLimit value := by
    refine .object (by decide) (List.forall_mem_singleton.mpr (.array (by decide) ?_))
    simp only [List.forall_mem_cons]
    exact ⟨.string _, .integer (by decide) (by decide), .null, List.forall_mem_nil _⟩
  obtain ⟨tagless, exactly, document⟩ := scripts_keep_values.1 value
  exact ⟨tagless, exactly, kept, document kept⟩

end RoomAir.Shell
