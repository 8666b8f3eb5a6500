import Mathlib.Data.List.Basic
import RoomAir.Proofs.Text.Infix
import RoomAir.Text.Html

/-! Escaped texts: no mark of markup is in them, and read back they are what was escaped. -/

namespace RoomAir.Html

/-- The marks that tags and quoted attribute values end at have entities of their own. -/
theorem notMem_escape {mark : Char} (special : mark ∈ ['<', '>', '"', '\'']) (text : String) :
    mark ∉ (escape text).toList := by
  rw [escape, String.toList_ofList]
  intro member
  obtain ⟨c, -, inside⟩ := List.mem_flatMap.mp member
  -- No entity has such a mark in it, and any other character is none.
  unfold escapeChar at inside
  split at inside
  case h_6 ampersand less greater double single =>
    rw [List.mem_singleton.mp inside] at special
    simp_all
  all_goals
    simp only [List.mem_cons, List.not_mem_nil, or_false] at special
    rcases special with rfl | rfl | rfl | rfl <;> exact absurd inside (by decide)

/-- A character that is no ampersand stands for itself. -/
theorem unescapeChars_cons {c : Char} (plain : c ≠ '&') (rest : List Char) :
    unescapeChars (c :: rest) = c :: unescapeChars rest := by
  -- The first five equations of the function ask for an ampersand.
  rw [unescapeChars] <;> simp [plain]

/-- An escaped character is read back, whatever follows it. -/
theorem unescapeChars_escapeChar (c : Char) (rest : List Char) :
    unescapeChars (escapeChar c ++ rest) = c :: unescapeChars rest := by
  -- Each of the five entities is replaced as a whole, and then the function goes on with the rest.
  unfold escapeChar
  split
  case h_6 ampersand _ _ _ _ => exact unescapeChars_cons ampersand rest
  all_goals rfl

/-- An escaped text stands for the text that was escaped. -/
theorem unescape_escape (text : String) : unescape (escape text) = text := by
  -- Character by character the entities are read back in the order they were written.
  have chars (text : List Char) : unescapeChars (text.flatMap escapeChar) = text := by
    induction text with
    | nil => rfl
    | cons c text ih => rw [List.flatMap_cons, unescapeChars_escapeChar, ih]
  rw [unescape, escape, String.toList_ofList, chars, String.ofList_toList]

/-- A text without ampersands stands for itself. -/
theorem unescape_of_notMem {text : String} (plain : '&' ∉ text.toList) : unescape text = text := by
  -- Nothing is replaced, so each character is left as it is.
  have chars {text : List Char} (plain : '&' ∉ text) : unescapeChars text = text := by
    induction text with
    | nil => rfl
    | cons c text ih =>
      rw [List.mem_cons, not_or] at plain
      rw [unescapeChars_cons (Ne.symm plain.1), ih plain.2]
  rw [unescape, chars plain, String.ofList_toList]

/-- Texts are escaped one after the other as they are together. -/
theorem escape_append (first second : String) :
    escape (first ++ second) = escape first ++ escape second := by
  -- The characters are escaped one by one, whichever of the two texts they are in.
  rw [escape, String.toList_append, List.flatMap_append, String.ofList_append, escape, escape]

/-! ## Which texts are escaped -/

/-- The characters that have an entity, each with its own. -/
def entities : List (Char × String) :=
  [('&', "&amp;"), ('<', "&lt;"), ('>', "&gt;"), ('"', "&quot;"), ('\'', "&#39;")]

/-- Characters without a mark of markup, every ampersand of which begins an entity. -/
structure IsEscaped (content : List Char) : Prop where
  unmarked : ∀ mark ∈ ['<', '>', '"', '\''], mark ∉ content
  ampersand : ∀ rest, '&' :: rest <:+ content →
    ∃ entity ∈ entities, entity.2.toList <+: '&' :: rest

/-- A character with an entity is escaped as it. -/
theorem escapeChar_of_mem {entity : Char × String} (listed : entity ∈ entities) :
    escapeChar entity.1 = entity.2.toList := by
  -- There are five characters to look at.
  have each : ∀ entity ∈ entities, escapeChar entity.1 = entity.2.toList := by decide
  exact each entity listed

/-- A character without an entity is left as it is. -/
theorem escapeChar_of_notMem {c : Char} (plain : c ∉ entities.map Prod.fst) :
    escapeChar c = [c] := by
  unfold escapeChar
  split
  -- The last case is the one for all other characters; the first five are the characters listed.
  case h_6 => rfl
  all_goals exact absurd (by decide) plain

/-- No character is escaped as nothing. -/
theorem escapeChar_ne_nil (c : Char) : escapeChar c ≠ [] := by
  unfold escapeChar
  split <;> exact List.cons_ne_nil _ _

/-- The ampersand that an entity begins with is the only one in it. -/
theorem exists_ampersand {entity : Char × String} (listed : entity ∈ entities) :
    ∃ more, entity.2.toList = '&' :: more ∧ '&' ∉ more := by
  -- All five spellings are looked at, first character and rest.
  have begins : ∀ entity ∈ entities,
      entity.2.toList.head? = some '&' ∧ '&' ∉ entity.2.toList.tail := by
    decide
  obtain ⟨first, once⟩ := begins entity listed
  exact ⟨_, List.eq_cons_of_mem_head? first, once⟩

/-- Where characters are escaped, every ampersand begins an entity. -/
theorem exists_entity {text rest : List Char} (ending : '&' :: rest <:+ text.flatMap escapeChar) :
    ∃ entity ∈ entities, entity.2.toList <+: '&' :: rest := by
  induction text with
  -- Nothing does not end with an ampersand.
  | nil => exact absurd (List.suffix_nil.mp ending) (List.cons_ne_nil _ _)
  | cons c text ih =>
    rw [List.flatMap_cons] at ending
    by_cases special : c ∈ entities.map Prod.fst
    -- The entity that is written has one ampersand, with which it begins.
    · obtain ⟨entity, listed, rfl⟩ := List.mem_map.mp special
      obtain ⟨more, spelled, once⟩ := exists_ampersand listed
      rw [escapeChar_of_mem listed, spelled, List.cons_append, List.suffix_cons_iff] at ending
      rcases ending with same | later
      -- Either this is where the ending begins, or the ending begins behind the whole entity.
      · refine ⟨entity, listed, ?_⟩
        rw [same, spelled, ← List.cons_append]
        exact List.prefix_append _ _
      · exact ih (suffix_of_suffix_append once later)
    · -- A character without an entity is no ampersand.
      have plain : '&' ∉ escapeChar c := by
        rw [escapeChar_of_notMem special, List.mem_singleton]
        rintro rfl
        exact special (by decide)
      exact ih (suffix_of_suffix_append plain ending)

/-- Whatever text is escaped, this is how it is written. -/
theorem isEscaped_escape (text : String) : IsEscaped (escape text).toList where
  unmarked _ special := notMem_escape special text
  ampersand rest ending := by
    -- The ending stands in what the characters are escaped as, one behind the other.
    rw [escape, String.toList_ofList] at ending
    exact exists_entity ending

namespace IsEscaped

/-- What escaped content ends with is escaped. -/
theorem of_append {first rest : List Char} (escaped : IsEscaped (first ++ rest)) :
    IsEscaped rest where
  unmarked mark special member :=
    -- A mark in the rest would be a mark in the whole.
    escaped.unmarked mark special (List.mem_append_right first member)
  ampersand later ending :=
    -- What the rest ends with is what the whole ends with.
    escaped.ampersand later (ending.trans (List.suffix_append first rest))

/-- Escaped content begins with what some character is escaped as. -/
theorem exists_escapeChar {head : Char} {tail : List Char} (escaped : IsEscaped (head :: tail)) :
    ∃ c rest, escapeChar c ++ rest = head :: tail := by
  by_cases ampersand : head = '&'
  -- With an ampersand the content begins with a whole entity.
  · subst ampersand
    obtain ⟨entity, listed, rest, same⟩ := escaped.ampersand tail List.suffix_rfl
    exact ⟨entity.1, rest, by rw [escapeChar_of_mem listed, same]⟩
  · -- Beside the ampersand only the marks have entities.
    have plain : head ∉ entities.map Prod.fst :=
      List.not_mem_cons_of_ne_of_not_mem ampersand fun mark =>
        escaped.unmarked head mark (List.mem_cons_self ..)
    exact ⟨head, tail, by rw [escapeChar_of_notMem plain, List.singleton_append]⟩

/-- Content of this kind is what some text is escaped as. -/
theorem exists_text {content : List Char} (escaped : IsEscaped content) :
    ∃ text : List Char, text.flatMap escapeChar = content := by
  -- By induction on the length: behind its first character the content is shorter, and escaped.
  induction length : content.length using Nat.strongRecOn generalizing content with
  | _ n ih =>
    cases content with
    -- No content is what no text is escaped as.
    | nil => exact ⟨[], rfl⟩
    | cons head tail =>
      obtain ⟨c, rest, same⟩ := escaped.exists_escapeChar
      rw [← same] at escaped length
      -- What the first character is escaped as is not nothing, so the rest is shorter.
      have shorter : rest.length < n := by
        rw [← length, List.length_append]
        exact Nat.lt_add_of_pos_left (List.length_pos_iff.mpr (escapeChar_ne_nil c))
      obtain ⟨text, written⟩ := ih rest.length shorter escaped.of_append rfl
      exact ⟨c :: text, by rw [List.flatMap_cons, written, same]⟩

end IsEscaped

/-- Escaped content is content that comes back when the text it stands for is escaped. -/
theorem isEscaped_iff (content : String) :
    IsEscaped content.toList ↔ escape (unescape content) = content := by
  constructor
  -- Such content is the escape of some text, and that text is what it stands for.
  · intro escaped
    obtain ⟨text, written⟩ := escaped.exists_text
    have same : content = escape (String.ofList text) := by
      rw [escape, String.toList_ofList, written, String.ofList_toList]
    rw [same, unescape_escape]
  · intro same
    rw [← same]
    exact isEscaped_escape _

/--
Escaping makes texts safe and loses nothing of them.

What it makes has no mark of markup in it, every ampersand there begins one of the five entities,
and all content of this kind is made by it. Replacing the entities gives back the text, so no two
texts are escaped alike, not even where one of them spells out an entity. Texts are escaped one
after the other as they are together.
-/
theorem escapes_faithfully :
    (∀ text, IsEscaped (escape text).toList ∧ unescape (escape text) = text)
    ∧ (∀ content, IsEscaped content.toList ↔ escape (unescape content) = content)
    ∧ Function.Injective escape
    ∧ ∀ first second, escape (first ++ second) = escape first ++ escape second :=
  ⟨fun text => ⟨isEscaped_escape text, unescape_escape text⟩, isEscaped_iff,
    Function.LeftInverse.injective unescape_escape, escape_append⟩

/-- A text in which an entity is spelled out is told apart from the text that it stands for. -/
theorem escapes_spelledOut :
    let content := "&amp;lt; &lt;&#39;"
    escape "&lt; <'" = content ∧ IsEscaped content.toList ∧ unescape content = "&lt; <'"
      ∧ escape "< <'" ≠ content ∧ escape "&lt; " ++ escape "<'" = content
      ∧ ¬ IsEscaped "&nbsp;&amp;".toList := by
  -- The content spells out an entity, behind an ampersand that is escaped.
  intro content
  have written : escape "&lt; <'" = content := by decide
  obtain ⟨texts, contents, injective, joined⟩ := escapes_faithfully
  obtain ⟨escaped, readBack⟩ := texts "&lt; <'"
  rw [written] at escaped readBack
  refine ⟨written, escaped, readBack, ?_, ?_, ?_⟩
  -- The two texts are different, so by injectivity they are escaped differently.
  · exact fun same => absurd (injective (same.trans written.symm)) (by decide)
  · exact (joined ..).symm.trans written
  · -- The first ampersand begins no entity, so escaping would write one for it.
    exact fun escaped => absurd ((contents _).mp escaped) (by decide)

end RoomAir.Html
