import RoomAir.Proofs.Text.Html
import RoomAir.Proofs.Text.Pages
import RoomAir.Proofs.View.Document

/-! The containers of a page: each holds the fragment of the update that the page shows. -/

namespace RoomAir

/-! ## The first place of a mark -/

/-- What follows the first place where a mark stands in a text. -/
def behind? (mark : List Char) : List Char → Option (List Char)
  | [] => none
  | c :: rest =>
    if mark.isPrefixOf (c :: rest) then some ((c :: rest).drop mark.length) else behind? mark rest

/-- A text that can be passed over: the mark does not begin in it, whatever follows. -/
def Clear (mark front : List Char) : Prop :=
  ∀ back, behind? mark (front ++ back) = behind? mark back

/-- Whether two texts differ before either of them ends. -/
def differ : List Char → List Char → Bool
  | a :: first, b :: second => a != b || differ first second
  | _, _ => false

/-- Whether a text shows by itself, from each of its characters on, that it is not the mark. -/
def isClear (mark : List Char) : List Char → Bool
  | [] => true
  | c :: rest => differ mark (c :: rest) && isClear mark rest

variable {mark first second rest : List Char}

/-- A mark does not stand at the beginning of a text that differs from it. -/
theorem isPrefixOf_of_differ (different : differ mark first = true) (rest : List Char) :
    mark.isPrefixOf (first ++ rest) = false := by
  -- Character by character the two agree until they differ.
  induction mark generalizing first with
  | nil => cases different
  | cons a mark ih =>
    cases first with
    | nil => cases different
    | cons b first =>
      rw [List.cons_append, List.isPrefixOf_cons_cons]
      rw [differ, Bool.or_eq_true, bne_iff_ne] at different
      rcases different with here | later
      · rw [beq_eq_false_iff_ne.mpr here, Bool.false_and]
      · rw [ih later, Bool.and_false]

/-- A text that shows by itself that the mark is not in it can be passed over. -/
theorem clear_of_isClear (clear : isClear mark first = true) : Clear mark first := by
  intro back
  -- At each character the mark is ruled out by what the text itself holds, whatever follows.
  induction first with
  | nil => rfl
  | cons c first ih =>
    rw [isClear, Bool.and_eq_true] at clear
    have here := isPrefixOf_of_differ clear.1 back
    rw [List.cons_append] at here ⊢
    rw [behind?, here, ih clear.2]
    rfl

/-- A text without the first character of the mark can be passed over. -/
theorem clear_of_notMem {c : Char} (absent : c ∉ first) : Clear (c :: mark) first := by
  refine clear_of_isClear ?_
  -- No place of the text has the character that the mark begins with.
  induction first with
  | nil => rfl
  | cons d first ih =>
    rw [List.mem_cons, not_or] at absent
    rw [isClear, ih absent.2, Bool.and_true, differ, bne_iff_ne.mpr absent.1, Bool.true_or]

/-- Two texts that can be passed over can be passed over together. -/
theorem Clear.append (front : Clear mark first) (back : Clear mark second) :
    Clear mark (first ++ second) := by
  intro rest
  rw [List.append_assoc, front, back]

/-- So can any number of them. -/
theorem clear_join {parts : List String} (all : ∀ part ∈ parts, Clear mark part.toList) :
    Clear mark (String.join parts).toList := by
  induction parts with
  | nil => exact fun _ => rfl
  | cons part parts ih =>
    rw [List.forall_mem_cons] at all
    rw [String.join_cons, String.toList_append]
    exact all.1.append (ih all.2)

/-- A mark is no longer than a text that it stands in. -/
theorem length_le_of_behind? (found : behind? mark first = some rest) :
    mark.length ≤ first.length := by
  -- Where the mark is found it is a part of the text, and further on there is less of the text
  -- left.
  induction first with
  | nil => cases found
  | cons c first ih =>
    rw [behind?] at found
    split at found
    case isTrue here => exact (List.isPrefixOf_iff_prefix.mp here).length_le
    case isFalse => exact Nat.le_succ_of_le (ih found)

/-- The first place of a mark stays the first one when something is written behind it. -/
theorem behind?_append (found : behind? mark first = some rest) (back : List Char) :
    behind? mark (first ++ back) = some (rest ++ back) := by
  -- The induction follows the search, which stops at the same place in the longer text.
  induction first with
  | nil => cases found
  | cons c first ih =>
    rw [behind?] at found
    rw [List.cons_append, behind?]
    split at found
    case isTrue here =>
      have front := List.isPrefixOf_iff_prefix.mp here
      have whole : mark.isPrefixOf (c :: (first ++ back)) = true :=
        List.isPrefixOf_iff_prefix.mpr (front.trans (List.prefix_append _ _))
      rw [if_pos whole, ← List.cons_append, List.drop_append_of_le_length front.length_le,
        Option.some.inj found]
    case isFalse other =>
      -- The mark is found further on, so it does not reach beyond the end from here.
      have within : mark.length ≤ (c :: first).length :=
        Nat.le_succ_of_le (length_le_of_behind? found)
      have absent : ¬ mark.isPrefixOf (c :: (first ++ back)) = true := fun here =>
        other (List.isPrefixOf_iff_prefix.mpr (List.prefix_of_prefix_length_le
          (List.isPrefixOf_iff_prefix.mp here) (List.prefix_append (c :: first) back) within))
      rw [if_neg absent, ih found]

/-- A mark that a text ends with is followed by what is written behind the text. -/
theorem behind?_of_ends (found : behind? mark first = some []) (back : List Char) :
    behind? mark (first ++ back) = some back := by
  rw [behind?_append found, List.nil_append]

/-! ## Containers -/

/-- An element of a page whose content is replaced by the fragments of updates. -/
structure Container where
  opening : String
  closing : String

namespace Container

/-- The cards of the overview. -/
def cards : Container :=
  ⟨"<div id=\"roomCards\" class=\"cards\">", "</div>"⟩

/-- The selector of rooms. -/
def selector : Container :=
  ⟨"<div id=\"roomSelectContainer\">", "</div>"⟩

/-- The table of readings. -/
def table : Container :=
  ⟨"<section id=\"dataTableContainer\">", "</section>"⟩

/-- The container of a document holds a fragment: it stands between the container's tags. -/
def Holds (container : Container) (document fragment : String) : Prop :=
  ∃ rest, behind? container.opening.toList document.toList = some (fragment.toList ++ rest)
    ∧ container.closing.toList <+: rest

end Container

/-- The containers of a page, each with the fragment of an update that belongs in it. -/
def Page.contents (page : Page) (update : ViewUpdate) : List (Container × Option String) :=
  match page with
  | .overview => [(.cards, update.cards)]
  | .details _ => [(.selector, update.selector), (.table, update.table)]

/-- The selector of rooms does not open the container of the table. -/
theorem Fragment.clear_roomSelector (details : Details) :
    Clear Container.table.opening.toList (roomSelector details).toList := by
  -- An option consists of fixed texts and of texts without brackets.
  have option (value text : String) (selected : Bool) (plain : '<' ∉ value.toList)
      (plain' : '<' ∉ text.toList) :
      Clear Container.table.opening.toList (optionElement value text selected).toList := by
    unfold optionElement
    simp only [String.toList_append]
    refine Clear.append (Clear.append (Clear.append (Clear.append (Clear.append (Clear.append ?_
      (clear_of_notMem plain)) ?_) ?_) ?_) (clear_of_notMem plain')) ?_
    case refine_3 => cases selected <;> exact clear_of_isClear (by decide +kernel)
    all_goals exact clear_of_isClear (by decide +kernel)
  unfold roomSelector
  simp only [String.toList_append]
  refine Clear.append (Clear.append (Clear.append (Clear.append ?_ ?_) ?_) (clear_join ?_)) ?_
  · exact clear_of_isClear (by decide +kernel)
  · exact clear_of_isClear (by decide +kernel)
  -- The first option has fixed texts, and those of the rooms are escaped.
  · exact option _ _ _ (by decide) (by decide)
  · intro part member
    obtain ⟨room, -, rfl⟩ := List.mem_map.mp member
    have plain : '<' ∉ (Html.escape room).toList := Html.notMem_escape (by decide) room
    exact option _ _ _ plain plain
  · exact clear_of_isClear (by decide +kernel)

namespace Shell

/-- What stands before the main part of a page has no container and no script in it. -/
theorem exists_head (page : Page) : ∃ head : String,
    (∀ main scripts, layout (documentTitle page) page.slot main scripts
      = head ++ main ++ "\n" ++ "</main>\n" ++ scripts ++ ofLines ["</body>", "</html>"])
    ∧ (∀ container ∈ [Container.cards, .selector, .table],
        Clear container.opening.toList head.toList)
    ∧ Markup.Around head.toList := by
  -- The head is a known text for either page, so it is searched as it stands.
  cases page
  all_goals
    simp only [documentTitle, Page.slot]
    refine ⟨_, fun main scripts => rfl, fun container member => clear_of_isClear ?_,
      Markup.around_of_isAround ?_⟩
    on_goal 1 => revert container
    all_goals
      simp only [List.forall_mem_cons, Container.cards, Container.selector, Container.table,
        activeClass, styleLines, block, ofLines, Html.escape, List.map_cons, List.map_nil,
        String.join_cons, String.join_nil, String.toList_append]
      -- Each literal is taken for the list of its characters, without decoding its bytes.
      repeat rw [String.toList_ofList]
      decide +kernel

/-- The cards of the overview stand in their container. -/
theorem holds_overviewMain {head : String}
    (clear : Clear Container.cards.opening.toList head.toList) (cards rest : String) :
    Container.cards.Holds (head ++ overviewMain cards ++ rest) cards := by
  have closes : Container.cards.closing.toList <+: "</div>\n".toList := by decide +kernel
  unfold overviewMain
  simp only [Container.Holds, String.toList_append, List.append_assoc]
  -- The tag of the container stands at the end of the third line.
  rw [clear, clear_of_isClear, clear_of_isClear, behind?_of_ends]
  · exact ⟨_, rfl, closes.trans (List.prefix_append _ _)⟩
  all_goals decide +kernel

/-- The selector and the table of the details stand in their containers. -/
theorem holds_detailsMain {head : String} (details : Details)
    (clear : ∀ container ∈ [Container.cards, .selector, .table],
      Clear container.opening.toList head.toList) (table rest : String) :
    Container.selector.Holds
        (head ++ detailsMain (Fragment.roomSelector details) table ++ rest)
        (Fragment.roomSelector details)
      ∧ Container.table.Holds
        (head ++ detailsMain (Fragment.roomSelector details) table ++ rest) table := by
  have closes : Container.selector.closing.toList <+: "</div>\n".toList := by decide +kernel
  unfold detailsMain
  simp only [Container.Holds, String.toList_append, List.append_assoc]
  constructor
  -- The container of the selector comes first on the page.
  · rw [clear _ (by simp), clear_of_isClear, clear_of_isClear, behind?_of_ends]
    · exact ⟨_, rfl, closes.trans (List.prefix_append _ _)⟩
    all_goals decide +kernel
  · -- What stands before the table is passed over, the selector included.
    rw [clear _ (by simp), clear_of_isClear, clear_of_isClear, clear_of_isClear,
      Fragment.clear_roomSelector, clear_of_isClear, clear_of_isClear, clear_of_isClear,
      clear_of_isClear, clear_of_isClear, behind?_of_ends]
    · exact ⟨_, rfl, List.prefix_append _ _⟩
    all_goals decide +kernel

/-- The fragments of a page stand in its containers when the page shows their update. -/
theorem holds_document {display : Display} {page : Page} {readings : List Reading}
    {update : ViewUpdate} (made : page.fragments? display readings
      = some ⟨update.cards, update.selector, update.table⟩) :
    ∀ content ∈ page.contents update, ∃ fragment, content.2 = some fragment
      ∧ content.1.Holds (document display page (some update)) fragment := by
  obtain ⟨head, whole, clear, -⟩ := exists_head page
  -- Behind the main part there may be anything.
  obtain ⟨rest, text⟩ : ∃ rest, document display page (some update)
      = head ++ mainPart page (some update) ++ rest := by
    rw [document, whole]
    exact ⟨_, by simp only [String.append_assoc]; rfl⟩
  rw [text]
  cases page with
  | overview =>
    obtain ⟨cards, selector, table, charts⟩ := update
    -- The update has the fragments that the page makes, so they stand in its main part.
    obtain ⟨rfl, rfl, rfl⟩ := PageFragments.mk.inj (Option.some.inj made)
    intro content member
    obtain rfl := List.mem_singleton.mp member
    exact ⟨_, rfl, holds_overviewMain (clear _ (by simp)) _ _⟩
  | details filter =>
    obtain ⟨cards, selector, table, charts⟩ := update
    -- There is a table, as the fragments could be made.
    obtain ⟨written, -, parts⟩ := Option.map_eq_some_iff.mp made
    obtain ⟨rfl, rfl, rfl⟩ := PageFragments.mk.inj parts
    obtain ⟨inSelector, inTable⟩ :=
      holds_detailsMain (Details.ofReadings readings filter) clear written rest
    intro content member
    simp only [Page.contents, List.mem_cons, List.not_mem_nil, or_false] at member
    rcases member with rfl | rfl
    · exact ⟨_, rfl, inSelector⟩
    · exact ⟨_, rfl, inTable⟩

end Shell

end RoomAir
