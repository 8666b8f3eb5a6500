import Mathlib.Data.List.Forall2
import RoomAir.Proofs.Text.Html
import RoomAir.Proofs.Text.Tokens

/-! Markup: characters and elements that are read back from the text they are written as. -/

namespace RoomAir

/-- Content: nothing, or a character or an element and the content that follows it. -/
inductive Markup where
  | empty
  | character (c : Char) (rest : Markup)
  | element (name : String) (attributes : List Markup.Attribute) (content rest : Markup)

namespace Markup

/-- An element with what is between its tags. -/
structure Element where
  name : String
  attributes : List Attribute
  content : Markup

/-- Content with other content behind it. -/
def append : Markup → Markup → Markup
  | .empty, later => later
  | .character c rest, later => .character c (rest.append later)
  | .element name attributes content rest, later =>
    .element name attributes content (rest.append later)

instance : Append Markup := ⟨append⟩

/-- Nothing behind content leaves it as it is. -/
theorem append_empty (markup : Markup) : markup ++ empty = markup := by
  change markup.append empty = markup
  induction markup with
  | empty => rfl
  | character c rest ih => rw [append, ih]
  | element name attributes content rest _ ih => rw [append, ih]

/-- The characters of a text, as it is written. -/
def text (written : String) : Markup :=
  written.toList.foldr character empty

/-- A single element. -/
def tag (name : String) (attributes : List Attribute) (content : Markup) : Markup :=
  element name attributes content empty

/-- Content that consists of several parts. -/
def join (parts : List Markup) : Markup :=
  parts.foldr append empty

/-- What the characters and the elements of content give in order.

What an element gives is made of what its own content gives.
-/
def gather {β : Type} (ofCharacter : Char → List β) (ofElement : Element → List β → List β) :
    Markup → List β
  | .empty => []
  | .character c rest => ofCharacter c ++ rest.gather ofCharacter ofElement
  | .element name attributes content rest =>
    ofElement ⟨name, attributes, content⟩ (content.gather ofCharacter ofElement)
      ++ rest.gather ofCharacter ofElement

/-- Content as it is written. -/
def chars : Markup → List Char :=
  gather (fun c => [c]) fun element inside =>
    openingChars element.name element.attributes ++ inside ++ closingChars element.name

/-- The tokens of content. -/
def tokens : Markup → List Token :=
  gather (fun c => [.character c]) fun element inside =>
    .opening element.name element.attributes :: inside ++ [.closing element.name]

/-- The characters of content, those inside of elements included. -/
def characters : Markup → List Char :=
  gather (fun c => [c]) fun _ inside => inside

/-- The elements of content in the order of their opening tags. -/
def allElements : Markup → List Element :=
  gather (fun _ => []) fun element inside => element :: inside

/-- The elements of content that are in no other one. -/
def elements : Markup → List Element :=
  gather (fun _ => []) fun element _ => [element]

section Gathering

variable {β : Type} (ofCharacter : Char → List β) (ofElement : Element → List β → List β)

/-- Content and what stands behind it give what each of them gives, in this order. -/
theorem gather_append (first second : Markup) :
    (first ++ second).gather ofCharacter ofElement
      = first.gather ofCharacter ofElement ++ second.gather ofCharacter ofElement := by
  -- `++` is `append`, and the recursion of `append` is the one that the induction follows.
  change (first.append second).gather ofCharacter ofElement = _
  induction first with
  | empty => rfl
  | character c rest ih => rw [append, gather, gather, ih, List.append_assoc]
  | element name attributes content rest _ ih => rw [append, gather, gather, ih, List.append_assoc]

/-- A text gives what its characters give in order. -/
theorem gather_text (written : String) :
    (text written).gather ofCharacter ofElement = written.toList.flatMap ofCharacter := by
  rw [text]
  induction written.toList with
  | nil => rfl
  | cons c rest ih => rw [List.foldr_cons, gather, ih, List.flatMap_cons]

/-- A single element gives what it makes of the content inside it. -/
theorem gather_tag (name : String) (attributes : List Attribute) (content : Markup) :
    (tag name attributes content).gather ofCharacter ofElement
      = ofElement ⟨name, attributes, content⟩ (content.gather ofCharacter ofElement) := by
  rw [tag, gather, gather, List.append_nil]

/-- Content of several parts gives what the parts give in order. -/
theorem gather_join (parts : List Markup) :
    (join parts).gather ofCharacter ofElement
      = parts.flatMap fun part => part.gather ofCharacter ofElement := by
  induction parts with
  | nil => rfl
  | cons part parts ih =>
    -- The first part stands before the others.
    rw [List.flatMap_cons, ← ih, ← gather_append]
    rfl

end Gathering

/-- Nothing is written as nothing. -/
@[simp] theorem chars_empty : empty.chars = [] :=
  rfl

/-- Content and what stands behind it are written in this order. -/
@[simp] theorem chars_append (first second : Markup) :
    (first ++ second).chars = first.chars ++ second.chars :=
  gather_append ..

/-- The characters of a text are written as they are. -/
@[simp] theorem chars_text (written : String) : (text written).chars = written.toList := by
  rw [chars, gather_text, List.flatMap_singleton']

/-- An element is written from the bracket of one tag to that of the other. -/
@[simp] theorem chars_tag (name : String) (attributes : List Attribute) (content : Markup) :
    (tag name attributes content).chars
      = '<' :: (name.toList ++ (attributes.flatMap attributeChars
        ++ '>' :: (content.chars ++ '<' :: '/' :: (name.toList ++ ['>'])))) := by
  rw [chars, gather_tag, openingChars, closingChars]
  -- Only the brackets of `++` are moved to the right, as the statement has them.
  simp only [List.append_assoc, List.cons_append, List.nil_append]

/-- Content of several parts is written as its parts in order. -/
@[simp] theorem chars_join (parts : List Markup) : (join parts).chars = parts.flatMap chars :=
  gather_join ..

/-- The characters of a text are all that can be read in it. -/
@[simp] theorem characters_text (written : String) :
    (text written).characters = written.toList := by
  rw [characters, gather_text, List.flatMap_singleton']

/-- There are no elements in nothing. -/
@[simp] theorem allElements_empty : empty.allElements = [] :=
  rfl

/-- The elements of content come before those of what stands behind it. -/
@[simp] theorem allElements_append (first second : Markup) :
    (first ++ second).allElements = first.allElements ++ second.allElements :=
  gather_append ..

/-- There are no elements in a text. -/
@[simp] theorem allElements_text (written : String) : (text written).allElements = [] := by
  rw [allElements, gather_text]
  exact List.flatMap_eq_nil_iff.mpr fun _ _ => rfl

/-- An element comes before the elements that are inside it. -/
@[simp] theorem allElements_tag (name : String) (attributes : List Attribute) (content : Markup) :
    (tag name attributes content).allElements
      = ⟨name, attributes, content⟩ :: content.allElements :=
  gather_tag ..

/-- The outer elements of content come before those of what stands behind it. -/
@[simp] theorem elements_append (first second : Markup) :
    (first ++ second).elements = first.elements ++ second.elements :=
  gather_append ..

/-- There are no outer elements in a text. -/
@[simp] theorem elements_text (written : String) : (text written).elements = [] := by
  rw [elements, gather_text]
  exact List.flatMap_eq_nil_iff.mpr fun _ _ => rfl

/-- A single element is the only outer one of its own. -/
@[simp] theorem elements_tag (name : String) (attributes : List Attribute) (content : Markup) :
    (tag name attributes content).elements = [⟨name, attributes, content⟩] :=
  gather_tag ..

/-- The outer elements of several parts are those of the parts in order. -/
@[simp] theorem elements_join (parts : List Markup) :
    (join parts).elements = parts.flatMap elements :=
  gather_join ..

/-- Parts that are one element each are these elements in order. -/
theorem elements_join_map {α : Type} {part : α → Markup} {element : α → Element}
    (single : ∀ item, (part item).elements = [element item]) (items : List α) :
    (join (items.map part)).elements = items.map element := by
  -- The list that `flatMap` makes of one element for each item is the one that `map` makes.
  rw [elements_join, List.flatMap_map, List.map_eq_flatMap]
  exact List.flatMap_congr fun item _ => single item

/-- The tokens of content come before those of what stands behind it. -/
@[simp] theorem tokens_append (first second : Markup) :
    (first ++ second).tokens = first.tokens ++ second.tokens :=
  gather_append ..

/-- The tokens of an element are its two tags, with the tokens of its content between them. -/
@[simp] theorem tokens_tag (name : String) (attributes : List Attribute) (content : Markup) :
    (tag name attributes content).tokens
      = .opening name attributes :: content.tokens ++ [.closing name] :=
  gather_tag ..

/-- The tokens of several parts are those of the parts in order. -/
@[simp] theorem tokens_join (parts : List Markup) : (join parts).tokens = parts.flatMap tokens :=
  gather_join ..

/-! ## Reading what was written -/

/-- Content that is read as it was written: no bracket in its characters, no quote in a value. -/
def IsPlain : Markup → Prop
  | .empty => True
  | .character c rest => c ≠ '<' ∧ rest.IsPlain
  | .element name attributes content rest =>
    isName name = true ∧ (∀ item ∈ attributes, IsPlainAttribute item) ∧ content.IsPlain
      ∧ rest.IsPlain

/-- Content and what stands behind it are plain when both are. -/
@[simp] theorem isPlain_append {first second : Markup} :
    (first ++ second).IsPlain ↔ first.IsPlain ∧ second.IsPlain := by
  change (first.append second).IsPlain ↔ _
  -- Each constructor adds the conditions on its own part, so only the brackets of `∧` move.
  induction first with
  | empty => simp [append, IsPlain]
  | character c rest ih => simp [append, IsPlain, ih, and_assoc]
  | element name attributes content rest _ ih => simp [append, IsPlain, ih, and_assoc]

/-- A text is plain when there is no bracket in it. -/
@[simp] theorem isPlain_text {written : String} :
    (text written).IsPlain ↔ '<' ∉ written.toList := by
  rw [text]
  induction written.toList with
  | nil => simp [IsPlain]
  | cons c rest ih => simp [IsPlain, ih, eq_comm]

/-- An element is plain when its name, its attributes and its content are. -/
@[simp] theorem isPlain_tag {name : String} {attributes : List Attribute} {content : Markup} :
    (tag name attributes content).IsPlain
      ↔ isName name = true ∧ (∀ item ∈ attributes, IsPlainAttribute item) ∧ content.IsPlain := by
  simp [tag, IsPlain]

/-- Content of several parts is plain when each of the parts is. -/
@[simp] theorem isPlain_join {parts : List Markup} :
    (join parts).IsPlain ↔ ∀ part ∈ parts, part.IsPlain := by
  induction parts with
  | nil => simp [join, IsPlain]
  | cons part parts ih =>
    rw [List.forall_mem_cons, ← ih, ← isPlain_append]
    rfl

/-- Content is read as its tokens, and whatever follows it is content again. -/
theorem run_chars {markup : Markup} (plain : markup.IsPlain) :
    run step .data markup.chars = (markup.tokens, .data) := by
  induction markup with
  -- Nothing is read as no tokens, and the state stays where it is.
  | empty => rfl
  | character c later ih =>
    -- A character that opens no tag is a token by itself.
    obtain ⟨noBracket, others⟩ := plain
    exact run_append (run_character noBracket) (ih others)
  | element name attributes content later inside ih =>
    -- The tags enclose the tokens of the content, and the later tokens follow.
    obtain ⟨named, items, within, others⟩ := plain
    exact run_append (run_append (run_append (run_openingChars named items) (inside within))
      (run_closingChars named)) (ih others)

/-- The content that tokens make, read from the last one on.

Beside it stand the elements that are closed but not opened yet: the name of each, and the content
behind it.
-/
def assemble : List Token → Option (Markup × List (String × Markup))
  | [] => some (.empty, [])
  | token :: later => do
    let (content, closed) ← assemble later
    match token, closed with
    | .character c, closed => some (.character c content, closed)
    | .closing name, closed => some (.empty, (name, content) :: closed)
    | .opening name attributes, (closing, rest) :: closed =>
      if name = closing then some (.element name attributes content rest, closed) else none
    | .opening .., [] => none

/-- The content of a text in which every element is closed. -/
def read? (written : String) : Option Markup :=
  match assemble (tokensFrom .data written.toList) with
  | some (content, []) => some content
  | _ => none

/-- The tokens of content are assembled to it, before whatever follows them. -/
theorem assemble_tokens (markup : Markup) {later : List Token} {rest : Markup}
    {closed : List (String × Markup)} (assembled : assemble later = some (rest, closed)) :
    assemble (markup.tokens ++ later) = some (markup ++ rest, closed) := by
  induction markup generalizing later rest closed with
  -- Behind nothing the later tokens are assembled to what they were.
  | empty => exact assembled
  | character c more ih =>
    -- A character is put in front of what the tokens behind it make.
    change assemble (.character c :: (more.tokens ++ later)) = _
    rw [assemble, ih assembled]
    rfl
  | element name attributes content more inside ih =>
    -- The tokens of the element itself are followed by those of the content behind it.
    have same : (element name attributes content more).tokens ++ later
        = .opening name attributes
          :: (content.tokens ++ .closing name :: (more.tokens ++ later)) := by
      simp [tokens, gather]
    -- The closing tag keeps what follows until the opening tag is reached.
    have closes : assemble (.closing name :: (more.tokens ++ later))
        = some (.empty, (name, more ++ rest) :: closed) := by
      rw [assemble, ih assembled]
      rfl
    rw [same, assemble, inside closes, append_empty]
    simp only [Option.bind_eq_bind, Option.bind_some, if_true]
    rfl

/-- A text that content was written as, to be read back as that content. -/
structure Writes (markup : Markup) (written : String) : Prop where
  chars : written.toList = markup.chars
  plain : markup.IsPlain

namespace Writes

variable {markup : Markup} {written : String}

/-- Content that is written out is read as its tokens. -/
theorem tokensFrom_eq (writes : markup.Writes written) :
    tokensFrom .data written.toList = markup.tokens := by
  -- What follows the content in `tokensFrom_append` is nothing here.
  have read := tokensFrom_append (run_chars writes.plain) []
  -- Behind the content there is nothing more to read.
  have nothing : tokensFrom .data [] = [] := rfl
  rwa [List.append_nil, nothing, List.append_nil, ← writes.chars] at read

/-- Content is read back from the text that it was written as. -/
theorem read?_eq (writes : markup.Writes written) : read? written = some markup := by
  -- No element is left open or closed without having been opened.
  have assembled : assemble (markup.tokens ++ []) = some (markup ++ .empty, []) :=
    assemble_tokens markup rfl
  rw [List.append_nil, append_empty] at assembled
  rw [read?, writes.tokensFrom_eq, assembled]

/-- Parts that are written one after the other are written as a whole. -/
theorem join {α : Type} {part : α → Markup} {text : α → String} {items : List α}
    (each : ∀ item ∈ items, (part item).Writes (text item)) :
    (Markup.join (items.map part)).Writes (String.join (items.map text)) where
  chars := by
    rw [chars_join]
    -- The characters of the whole are those of the first part and of the others.
    induction items with
    | nil => rfl
    | cons item items ih =>
      obtain ⟨first, others⟩ := List.forall_mem_cons.mp each
      rw [List.map_cons, String.join_cons, String.toList_append, first.chars, ih others,
        List.map_cons, List.flatMap_cons]
  plain := by
    -- No part has a bracket or a quote that the whole would get from it.
    rw [isPlain_join, List.forall_mem_map]
    exact fun item member => (each item member).plain

end Writes

/-! ## What is read -/

namespace Element

/-- The text of an element, entities standing for other characters. -/
def shown (element : Element) : String :=
  Html.unescape (String.ofList element.content.characters)

/-- The value of an attribute, which is empty where none is written. -/
def attribute? (element : Element) (key : String) : Option String :=
  (element.attributes.lookup key).map fun value => Html.unescape (value.getD "")

/-- The first attribute of a name counts. -/
theorem attribute?_self (name key value : String) (others : List Attribute) (content : Markup) :
    attribute? ⟨name, (key, some value) :: others, content⟩ key = some (Html.unescape value) := by
  -- The lookup ends at the first key, which is the one that is looked for.
  simp [attribute?]

/-- An attribute of another name is passed over. -/
theorem attribute?_other {key other : String} (apart : key ≠ other) (name : String)
    (value : Option String) (others : List Attribute) (content : Markup) :
    attribute? ⟨name, (other, value) :: others, content⟩ key
      = attribute? ⟨name, others, content⟩ key := by
  -- The lookup goes on behind a key that is another one.
  rw [attribute?, List.lookup_cons, beq_false_of_ne apart, attribute?]

/-- An element with a text in it shows what the text stands for. -/
theorem shown_text (name : String) (attributes : List Attribute) (written : String) :
    shown ⟨name, attributes, text written⟩ = Html.unescape written := by
  -- What is shown is made of the characters of the content, which are those of the text.
  rw [shown, characters_text, String.ofList_toList]

/-- An element with an escaped text in it shows the text. -/
theorem shown_escape (name : String) (attributes : List Attribute) (written : String) :
    shown ⟨name, attributes, text (Html.escape written)⟩ = written := by
  rw [shown_text, Html.unescape_escape]

end Element

/-- The elements of a name, wherever they are in content. -/
def named (name : String) (markup : Markup) : List Element :=
  markup.allElements.filter (·.name == name)

section Named

variable (name : String)

/-- There is no element of any name in nothing. -/
@[simp] theorem named_empty : empty.named name = [] :=
  rfl

/-- The elements of a name in content come before those in what stands behind it. -/
@[simp] theorem named_append (first second : Markup) :
    (first ++ second).named name = first.named name ++ second.named name := by
  rw [named, allElements_append, List.filter_append, named, named]

/-- There is no element of any name in a text. -/
@[simp] theorem named_text (written : String) : (text written).named name = [] := by
  rw [named, allElements_text, List.filter_nil]

/-- An element counts if it has the name, and the elements inside it count in any case. -/
@[simp] theorem named_tag (other : String) (attributes : List Attribute) (content : Markup) :
    (tag other attributes content).named name
      = if other == name then ⟨other, attributes, content⟩ :: content.named name
        else content.named name := by
  rw [named, allElements_tag, List.filter_cons, named]

/-- The elements of a name in several parts are those in the parts in order. -/
theorem named_join (parts : List Markup) :
    (join parts).named name = parts.flatMap (named name) := by
  -- Filtering all the elements is filtering those of each part.
  rw [named, allElements, gather_join, List.filter_flatMap]
  rfl

end Named

/-- The elements of a class, wherever they are in content. -/
def ofClass (value : String) (markup : Markup) : List Element :=
  markup.allElements.filter (·.attribute? "class" == some value)

/-- A tag without the values of some of its attributes. -/
def Token.tag? (hidden : List String) : Token → Option Token
  | .character _ => none
  | .opening name attributes =>
    some (.opening name (attributes.map fun item =>
      (item.1, if item.1 ∈ hidden then none else item.2)))
  | .closing name => some (.closing name)

/-- The tags of a text in order, without the values of some attributes. -/
def tags (hidden : List String) (written : String) : List Token :=
  (tokensFrom .data written.toList).filterMap (Token.tag? hidden)

/-- The tags of content in order, without the values of some attributes. -/
def outline (hidden : List String) (markup : Markup) : List Token :=
  markup.tokens.filterMap (Token.tag? hidden)

/-- The tags of a text are those of the content that it was written from. -/
theorem Writes.tags_eq {markup : Markup} {written : String} (writes : markup.Writes written)
    (hidden : List String) : tags hidden written = markup.outline hidden := by
  rw [tags, writes.tokensFrom_eq, outline]

section Outlines

variable (hidden : List String)

/-- The tags of content come before those of what stands behind it. -/
@[simp] theorem outline_append (first second : Markup) :
    (first ++ second).outline hidden = first.outline hidden ++ second.outline hidden := by
  rw [outline, tokens_append, List.filterMap_append, outline, outline]

/-- There are no tags in a text. -/
@[simp] theorem outline_text (written : String) : (text written).outline hidden = [] := by
  rw [outline, tokens, gather_text, List.filterMap_flatMap]
  -- Every token of a text is a character, and a character is no tag.
  exact List.flatMap_eq_nil_iff.mpr fun _ _ => rfl

/-- The tags of an element are its own two, with the tags of its content between them. -/
@[simp] theorem outline_tag (name : String) (attributes : List Attribute) (content : Markup) :
    (tag name attributes content).outline hidden
      = .opening name (attributes.map fun item =>
          (item.1, if item.1 ∈ hidden then none else item.2))
        :: content.outline hidden ++ [.closing name] := by
  rw [outline, tokens_tag, List.filterMap_append, List.filterMap_cons, outline]
  -- The closing tag stands last, and it has no values to be hidden.
  rfl

/-- The tags of several parts are those of the parts in order. -/
theorem outline_join (parts : List Markup) :
    (join parts).outline hidden = parts.flatMap (outline hidden) := by
  -- Looking for tags in all the tokens is looking for them in those of each part.
  rw [outline, tokens_join, List.filterMap_flatMap]
  rfl

/-- Parts with the same tags in each have the same tags as a whole. -/
theorem outline_join_congr {parts others : List Markup}
    (same : List.Forall₂ (fun part other => part.outline hidden = other.outline hidden)
      parts others) : (join parts).outline hidden = (join others).outline hidden := by
  rw [outline_join, outline_join]
  -- Part by part the tags are the same, so the lists that they are joined to are.
  induction same with
  | nil => rfl
  | cons first _ ih => rw [List.flatMap_cons, List.flatMap_cons, first, ih]

end Outlines

end Markup

end RoomAir
