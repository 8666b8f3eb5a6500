import RoomAir.Proofs.Text.Markup
import RoomAir.Proofs.Text.ScriptData

/-! Whole pages as the HTML standard tokenizes them: what is inside of a script is no content. -/

namespace RoomAir.Markup

/-! ## Content that may have brackets in it -/

/-- Content that is read as its tokens, although there may be brackets among its characters. -/
def Legible (markup : Markup) : Prop :=
  run step .data markup.chars = (markup.tokens, .data)

/-- A text of which every character is read as such: no bracket in it opens a tag. -/
def OpensNoTag (text : List Char) : Prop :=
  run step .data text = (text.map .character, .data)

namespace OpensNoTag

/-- Where no tag is opened in two texts, none is opened in the one behind the other. -/
theorem append {first second : List Char} (front : OpensNoTag first) (back : OpensNoTag second) :
    OpensNoTag (first ++ second) := by
  rw [OpensNoTag, List.map_append]
  -- The first text leaves the reader in plain content, where the second one starts.
  exact run_append front back

/-- Where no tag is opened in any of several texts, none is opened in all of them in a row. -/
theorem flatten {parts : List (List Char)} (all : ∀ part ∈ parts, OpensNoTag part) :
    OpensNoTag parts.flatten := by
  induction parts with
  | nil => rfl
  | cons part parts ih =>
    rw [List.forall_mem_cons] at all
    exact all.1.append (ih all.2)

/-- Without brackets there are no tags. -/
theorem of_notMem {text : List Char} (absent : '<' ∉ text) : OpensNoTag text := by
  induction text with
  | nil => rfl
  | cons c text ih =>
    rw [List.mem_cons, not_or] at absent
    -- The first character is no bracket, and the others are read from the same state on.
    exact run_append (run_character (Ne.symm absent.1)) (ih absent.2)

/-- A bracket opens no tag when a digit stands behind it. -/
theorem pair (c : Char) {digit : Char} (isDigit : digit.isDigit = true) :
    OpensNoTag [c, digit] := by
  -- What can stand behind the bracket of a tag is no digit.
  have other : digit ≠ '<' ∧ digit ≠ '/' ∧ digit ≠ '!' ∧ digit ≠ '?' ∧ digit.isAlpha = false :=
    of_isDigit isDigit (by decide)
  obtain ⟨plain, noStroke, noMark, noQuery, noLetter⟩ := other
  -- With a bracket in front, it and the digit are two characters; without one, each is by itself.
  by_cases bracket : c = '<'
  · simp [OpensNoTag, run, step, onData, bracket, noStroke, noMark, noQuery, noLetter]
  · exact run_append (run_character bracket) (run_character plain)

end OpensNoTag

namespace Legible

/-- Plain content is read as its tokens. -/
theorem of_isPlain {markup : Markup} (plain : markup.IsPlain) : markup.Legible :=
  run_chars plain

/-- Content is read as its tokens before other content that is. -/
theorem append {first second : Markup} (front : first.Legible) (back : second.Legible) :
    (first ++ second).Legible := by
  rw [Legible, chars_append, tokens_append]
  exact run_append front back

/-- A text is read as its characters when no tag is opened in it. -/
theorem text {written : String} (unmarked : OpensNoTag written.toList) :
    (Markup.text written).Legible := by
  -- The tokens of a text are its characters, which is what `OpensNoTag` says of the reading.
  rw [Legible, chars_text, tokens, gather_text, ← List.map_eq_flatMap]
  exact unmarked

/-- A text without brackets is read as its characters. -/
theorem plainText {written : String} (plain : '<' ∉ written.toList) :
    (Markup.text written).Legible :=
  .text (.of_notMem plain)

/-- An element is read as its tokens when its content is. -/
theorem tag {name : String} {attributes : List Attribute} {content : Markup}
    (named : isName name = true) (plain : ∀ item ∈ attributes, IsPlainAttribute item)
    (inside : content.Legible) : (Markup.tag name attributes content).Legible := by
  rw [Legible, chars, tokens, gather_tag, gather_tag]
  -- The opening tag is read, then the content from plain content on, then the closing tag.
  exact run_append (run_append (run_openingChars named plain) inside) (run_closingChars named)

/-- Several parts are read as their tokens when each of them is. -/
theorem join {parts : List Markup} (all : ∀ part ∈ parts, part.Legible) :
    (Markup.join parts).Legible := by
  induction parts with
  | nil => rfl
  | cons part parts ih =>
    rw [List.forall_mem_cons] at all
    exact all.1.append (ih all.2)

end Legible

/-! ## Scripts -/

/-- The states in which a page is read: as content, or as the text of a script. -/
inductive PageState where
  | content (state : State)
  | script (state : ScriptData.State)
  deriving DecidableEq

/-- Whether a token is the opening tag of a script. -/
def Token.opensScript : Token → Bool
  | .opening name _ => name == "script"
  | _ => false

/-- The state behind the name of the end tag of a script. -/
def scriptEnd : State :=
  .tagName ⟨true, "script".toList, []⟩

/-- The state after a character of a page, and the tokens that it completes.

Titles and style sheets are read as content here, since there are no brackets in those of a page.
-/
def pageStep : PageState → Char → List Token × PageState
  | .content state, c =>
    let (tokens, next) := step state c
    (tokens, if tokens.any Token.opensScript then .script .data else .content next)
  | .script state, c =>
    match ScriptData.step state c with
    | some next => ([], .script next)
    | none =>
      -- The name of the end tag has been read, and the tag may go on behind it.
      let (tokens, next) := step scriptEnd c
      (tokens, .content next)

/-- The tokens of a page, read on from a state. -/
def pageTokensFrom (state : PageState) (text : List Char) : List Token :=
  match run pageStep state text with
  | (tokens, .content final) => tokens ++ unfinished final
  | (tokens, .script _) => tokens

/-- The tokens of a page, which are those outside of its scripts. -/
def pageTokens (page : String) : List Token :=
  pageTokensFrom (.content .data) page.toList

/-- The tokens of a page begin with those that its beginning completes. -/
theorem pageTokensFrom_append {state next : PageState} {text : List Char} {tokens : List Token}
    (read : run pageStep state text = (tokens, next)) (rest : List Char) :
    pageTokensFrom state (text ++ rest) = tokens ++ pageTokensFrom next rest := by
  -- Where the rest of the page is left decides what is still unfinished, so it is named first.
  cases back : run pageStep next rest with
  | mk later final =>
    rw [pageTokensFrom, pageTokensFrom, run_append read back, back]
    cases final
    · exact List.append_assoc ..
    · rfl

/-- Content that opens no script is read in a page as by itself. -/
theorem run_pageStep {state next : State} {text : List Char} {tokens : List Token}
    (read : run step state text = (tokens, next))
    (scriptless : ∀ token ∈ tokens, token.opensScript = false) :
    run pageStep (.content state) text = (tokens, .content next) := by
  induction text generalizing state tokens with
  | nil =>
    -- No character is read and no token completed.
    obtain ⟨rfl, rfl⟩ := Prod.mk.inj read
    rfl
  | cons c text ih =>
    -- One character completes some tokens, and the rest of the text completes the others.
    cases stepped : step state c with
    | mk first middle =>
      cases rest : run step middle text with
      | mk later final =>
        rw [run_cons stepped rest] at read
        obtain ⟨rfl, rfl⟩ := Prod.mk.inj read
        rw [List.forall_mem_append] at scriptless
        -- No token so far opens a script, so the page stays in its content.
        have stays : first.any Token.opensScript = false :=
          List.any_eq_false.mpr fun token member => by simp [scriptless.1 token member]
        refine run_cons ?_ (ih rest scriptless.2)
        simp [pageStep, stepped, stays]

/-- The name of a tag. -/
def Token.name? : Token → Option String
  | .character _ => none
  | .opening name _ => some name
  | .closing name => some name

/-- Every tag among the tokens of content is one of an element of its name. -/
theorem exists_of_name? {markup : Markup} {token : Token} {name : String}
    (member : token ∈ markup.tokens) (named : token.name? = some name) :
    ∃ element ∈ markup.allElements, element.name = name := by
  induction markup with
  | empty => cases member
  | character c rest ih =>
    -- The character itself has no name, so a tag with the name stands behind it.
    rcases List.mem_cons.mp member with rfl | behind
    · cases named
    · exact ih behind
  | element other attributes content rest inside ih =>
    have found : token = .opening other attributes ∨ token ∈ content.tokens
        ∨ token = .closing other ∨ token ∈ rest.tokens := by
      -- A token of an element is one of its two tags, or stands inside it or behind it.
      simpa [tokens, gather] using member
    rcases found with rfl | within | rfl | behind
    -- The tags of the element have its own name; the others are found by the induction hypotheses.
    · exact ⟨_, List.mem_cons_self, Option.some.inj named⟩
    · obtain ⟨element, listed, same⟩ := inside within
      exact ⟨element, List.mem_cons_of_mem _ (List.mem_append_left _ listed), same⟩
    · exact ⟨_, List.mem_cons_self, Option.some.inj named⟩
    · obtain ⟨element, listed, same⟩ := ih behind
      exact ⟨element, List.mem_cons_of_mem _ (List.mem_append_right _ listed), same⟩

/-- Content without elements of a name has no tags of that name. -/
theorem name?_ne_of_named {markup : Markup} {name : String} (absent : markup.named name = [])
    {token : Token} (member : token ∈ markup.tokens) : token.name? ≠ some name := by
  -- A tag of the name would be that of an element of the name, and there is none.
  intro named
  obtain ⟨element, listed, same⟩ := exists_of_name? member named
  exact List.filter_eq_nil_iff.mp absent element listed (by simp [same])

/-- Content without scripts is read in a page as its tokens. -/
theorem Legible.run_pageStep {markup : Markup} (legible : markup.Legible)
    (scriptless : markup.named "script" = []) :
    run pageStep (.content .data) markup.chars = (markup.tokens, .content .data) := by
  refine Markup.run_pageStep legible fun token member => ?_
  -- No tag in the content has the name of scripts, least of all an opening one.
  have other := name?_ne_of_named scriptless member
  cases token with
  | opening name attributes => simpa [Token.opensScript, Token.name?] using other
  | character | closing => rfl

/-! ## What is around scripts and table bodies -/

/-- Whether a token is none of a script or of the body of a table. -/
def Token.isAround (token : Token) : Bool :=
  token.name? != some "script" && token.name? != some "tbody"

/-- A token is around when it has neither of the two names. -/
theorem Token.isAround_iff {token : Token} :
    token.isAround = true ↔ token.name? ≠ some "script" ∧ token.name? ≠ some "tbody" := by
  rw [isAround, Bool.and_eq_true, bne_iff_ne, bne_iff_ne]

/-- Whether a text is whole content of a page, without a tag of a script or of a table body. -/
def isAround : PageState → List Char → Bool
  | .content .data, [] => true
  | _, [] => false
  | state, c :: rest =>
    (pageStep state c).1.all Token.isAround && isAround (pageStep state c).2 rest

/-- A text that is read in a page as whole content around its scripts and the body of its table. -/
def Around (text : List Char) : Prop :=
  ∃ tokens, run pageStep (.content .data) text = (tokens, .content .data)
    ∧ ∀ token ∈ tokens, token.isAround = true

/-- From whichever state a text is looked at, it is read as it is found to be. -/
theorem exists_run_of_isAround {state : PageState} {text : List Char}
    (found : isAround state text = true) : ∃ tokens,
      run pageStep state text = (tokens, .content .data)
        ∧ ∀ token ∈ tokens, token.isAround = true := by
  -- The cases are those of `isAround`: the end in plain content, another end, one more character.
  fun_induction isAround state text with
  | case1 => exact ⟨[], rfl, nofun⟩
  | case2 => cases found
  | case3 state c rest ih =>
    rw [Bool.and_eq_true, List.all_eq_true] at found
    -- The tokens of the first character are around by the test, the later ones by the hypothesis.
    obtain ⟨tokens, read, apart⟩ := ih found.2
    exact ⟨_, run_cons rfl read, List.forall_mem_append.mpr ⟨found.1, apart⟩⟩

/-- What is found to be around by reading it is around. -/
theorem around_of_isAround {text : List Char} (found : isAround (.content .data) text = true) :
    Around text :=
  exists_run_of_isAround found

/-- What is around stands behind what is around. -/
theorem Around.append {first second : List Char} (front : Around first) (back : Around second) :
    Around (first ++ second) := by
  -- The first text ends in plain content, where the second one begins.
  obtain ⟨tokens, read, apart⟩ := front
  obtain ⟨later, readLater, apartLater⟩ := back
  exact ⟨_, run_append read readLater, List.forall_mem_append.mpr ⟨apart, apartLater⟩⟩

/-- Content that is read as its tokens is around, without a script and a table body in it. -/
theorem Legible.around {markup : Markup} (legible : markup.Legible)
    (scriptless : markup.named "script" = []) (bodiless : markup.named "tbody" = []) :
    Around markup.chars := by
  -- A tag of either name would belong to an element of the name.
  refine ⟨_, legible.run_pageStep scriptless, fun token member => ?_⟩
  exact Token.isAround_iff.mpr
    ⟨name?_ne_of_named scriptless member, name?_ne_of_named bodiless member⟩

/-- Plain content that is written out is around, without a script and a table body in it. -/
theorem Writes.around {markup : Markup} {written : String} (writes : markup.Writes written)
    (scriptless : markup.named "script" = []) (bodiless : markup.named "tbody" = []) :
    Around written.toList :=
  writes.chars ▸ Legible.around (.of_isPlain writes.plain) scriptless bodiless

/-! ## The only element of a name -/

/-- The content of the first element of a name, up to the next tag of that name. -/
def content? (name : String) (tokens : List Token) : Option Markup :=
  match tokens.dropWhile (·.name? != some name) with
  | .opening .. :: inside =>
    match assemble (inside.takeWhile (·.name? != some name)) with
    | some (content, []) => some content
    | _ => none
  | _ => none

/-- The tokens of content are parted by the tags of its only element of a name. -/
theorem exists_tokens_of_named {markup : Markup} {name : String} {element : Element}
    (single : markup.named name = [element]) : ∃ before after,
      markup.tokens = before ++ .opening name element.attributes
        :: (element.content.tokens ++ .closing name :: after)
      ∧ (∀ token ∈ before, token.name? ≠ some name)
      ∧ ∀ token ∈ element.content.tokens, token.name? ≠ some name := by
  -- The element is the first one of the content, or inside of the first one, or behind it.
  induction markup with
  | empty => cases single
  | character c rest ih =>
    -- The character comes before the element that is looked for.
    obtain ⟨before, after, split, apart, inside⟩ := ih single
    refine ⟨.character c :: before, after, ?_, List.forall_mem_cons.mpr ⟨nofun, apart⟩, inside⟩
    rw [List.cons_append, ← split]
    rfl
  | element other attributes content rest ihContent ihRest =>
    have parts : Markup.element other attributes content rest
        = tag other attributes content ++ rest := rfl
    rw [parts, tokens_append, tokens_tag]
    rw [parts, named_append, named_tag] at single
    by_cases same : other = name
    case pos =>
      -- It is the element that is looked for, so there is none in it or behind it.
      subst same
      rw [beq_self_eq_true, if_pos rfl, List.cons_append, List.cons_eq_cons,
        List.append_eq_nil_iff] at single
      obtain ⟨rfl, absent, -⟩ := single
      exact ⟨[], rest.tokens, by simp, nofun, fun token => name?_ne_of_named absent⟩
    case neg =>
      -- The tags of another element do not count as tags of the name.
      have opens : (Token.opening other attributes).name? ≠ some name := fun named =>
        same (Option.some.inj named)
      have closes : (Token.closing other).name? ≠ some name := fun named =>
        same (Option.some.inj named)
      rw [beq_false_of_ne same, if_neg Bool.false_ne_true, List.append_eq_singleton_iff] at single
      rcases single with ⟨absent, behind⟩ | ⟨within, -⟩
      -- It stands behind this element, whose tokens all come before it.
      · obtain ⟨before, after, split, apart, inside⟩ := ihRest behind
        refine ⟨.opening other attributes :: content.tokens ++ .closing other :: before, after,
          by simp [split], ?_, inside⟩
        simp only [List.forall_mem_append, List.forall_mem_cons]
        exact ⟨⟨opens, fun token => name?_ne_of_named absent⟩, closes, apart⟩
      -- It stands inside this element, whose closing tag comes after it.
      · obtain ⟨before, after, split, apart, inside⟩ := ihContent within
        exact ⟨.opening other attributes :: before, after ++ .closing other :: rest.tokens,
          by simp [split], List.forall_mem_cons.mpr ⟨opens, apart⟩, inside⟩

/-- The content of the only element of a name is found, wherever it stands between other tokens. -/
theorem content?_eq {markup : Markup} {name : String} {element : Element}
    (single : markup.named name = [element]) {front : List Token}
    (apart : ∀ token ∈ front, token.name? ≠ some name) (back : List Token) :
    content? name (front ++ (markup.tokens ++ back)) = some element.content := by
  -- The tokens around the content only make what comes before and after the element longer.
  obtain ⟨before, after, split, earlier, inside⟩ := exists_tokens_of_named single
  have whole : front ++ (markup.tokens ++ back) = (front ++ before)
      ++ .opening name element.attributes
        :: (element.content.tokens ++ .closing name :: (after ++ back)) := by
    simp [split]
  -- All tokens up to the opening tag are passed over, and from there to the closing tag taken.
  have reached : (front ++ (markup.tokens ++ back)).dropWhile (·.name? != some name)
      = .opening name element.attributes
        :: (element.content.tokens ++ .closing name :: (after ++ back)) := by
    rw [whole, List.dropWhile_append_of_pos, List.dropWhile_cons_of_neg]
    · simp [Token.name?]
    · exact fun token member =>
        bne_iff_ne.mpr (List.forall_mem_append.mpr ⟨apart, earlier⟩ token member)
  -- There is no tag of the name inside the element, so its closing tag is the next one.
  have taken : (element.content.tokens ++ .closing name :: (after ++ back)).takeWhile
      (·.name? != some name) = element.content.tokens := by
    rw [List.takeWhile_append_of_pos, List.takeWhile_cons_of_neg, List.append_nil]
    · simp [Token.name?]
    · exact fun token member => bne_iff_ne.mpr (inside token member)
  -- The tokens between the two tags are assembled to the content of the element.
  have assembled := assemble_tokens element.content (show assemble [] = some (.empty, []) from rfl)
  rw [List.append_nil, append_empty] at assembled
  simp only [content?, reached, taken, assembled]

/-! ## The text of a script -/

/-- Behind its opening tag the text of a script begins. -/
theorem run_pageStep_script {attributes : List Attribute}
    (plain : ∀ item ∈ attributes, IsPlainAttribute item) :
    run pageStep (.content .data) (openingChars "script" attributes)
      = ([.opening "script" attributes], .script .data) := by
  have named : isName "script" = true := by decide
  -- Up to its bracket the tag is content, and the bracket completes it.
  obtain ⟨next, pauses, read⟩ := exists_pauses named plain
  refine run_append (Markup.run_pageStep read nofun) ?_
  -- In the script's text nothing has been read yet.
  simp [run, pageStep, pauses.bracket, Tag.token, Token.opensScript]

/-- The character behind the name of a script's end tag is read as in any end tag. -/
theorem pageStep_eq_of_closing {state : ScriptData.State} {c : Char}
    (closing : ScriptData.step state c = none) :
    pageStep (.script state) c = pageStep (.content scriptEnd) c := by
  -- Behind the name of an end tag no character completes an opening tag.
  have stays : (step scriptEnd c).1.any Token.opensScript = false := by
    simp only [scriptEnd, step]
    split_ifs <;> rfl
  simp only [pageStep, closing, stays]
  rfl

/-- The text of a script ends where its end tag is read. -/
theorem pageTokensFrom_script (state : ScriptData.State) (text : List Char) :
    pageTokensFrom (.script state) text = match ScriptData.closing state text with
      | some rest => pageTokensFrom (.content scriptEnd) rest
      | none => [] := by
  induction text generalizing state with
  -- The text of a script that never ends gives no tokens.
  | nil => rfl
  | cons c text ih =>
    rw [ScriptData.closing]
    cases stepped : ScriptData.step state c with
    | some next =>
      -- A character of the script's text is no token.
      have passed : run pageStep (.script state) [c] = ([], .script next) := by
        simp [run, pageStep, stepped]
      exact (pageTokensFrom_append passed text).trans (ih next)
    | none =>
      -- The end tag has been reached, and from here on both sides read the same characters.
      rw [pageTokensFrom, run, pageStep_eq_of_closing stepped]
      rfl

/-- The text of a script is no content, and behind its end tag the page goes on. -/
theorem pageTokensFrom_openingChars {attributes : List Attribute}
    (plain : ∀ item ∈ attributes, IsPlainAttribute item) (text : List Char) :
    pageTokensFrom (.content .data) (openingChars "script" attributes ++ text)
      = .opening "script" attributes :: match ScriptData.closing .data text with
        | some rest => pageTokensFrom (.content scriptEnd) rest
        | none => [] := by
  -- The opening tag is a token of the page, and what is read behind it is a script's text.
  rw [pageTokensFrom_append (run_pageStep_script plain), pageTokensFrom_script]
  rfl

/-! ## What is read from a page -/

/-- The tags of a page outside of its scripts, without the values of some attributes. -/
def pageTags (hidden : List String) (page : String) : List Token :=
  (pageTokens page).filterMap (Token.tag? hidden)

/-- Where the script of a tag is loaded from. -/
def Token.source? : Token → Option String
  | .opening name attributes =>
    if name = "script" then Element.attribute? ⟨name, attributes, .empty⟩ "src" else none
  | _ => none

/-- Where the scripts of a page are loaded from, in order. -/
def scriptSources (page : String) : List String :=
  (pageTokens page).filterMap Token.source?

/-- What is in the body of the table on a page. -/
def tableBody? (page : String) : Option Markup :=
  content? "tbody" (pageTokens page)

/-- Only the opening tag of a script loads one. -/
theorem Token.source?_eq_none {token : Token} (other : token.name? ≠ some "script") :
    token.source? = none := by
  -- A tag has a source only if its name is that of scripts.
  cases token with
  | opening name attributes => exact if_neg fun same => other (congrArg some same)
  | character | closing => rfl

end RoomAir.Markup
