import RoomAir.Proofs.Number.Digits

/-! Content of elements as the HTML standard tokenizes it: characters, and tags with attributes. -/

namespace RoomAir.Markup

/-- An attribute and its value as it is written, which may be missing. -/
abbrev Attribute := String × Option String

/-- What content consists of. -/
inductive Token where
  | character (c : Char)
  | opening (name : String) (attributes : List Attribute)
  | closing (name : String)
  deriving DecidableEq, Repr

/-- As much of a tag as has been read. -/
structure Tag where
  closes : Bool
  name : List Char
  attributes : List Attribute
  deriving DecidableEq

namespace Tag

/-- The tag with one more attribute. -/
def add (tag : Tag) (name : List Char) (value : Option (List Char)) : Tag :=
  { tag with attributes := tag.attributes ++ [(String.ofList name, value.map String.ofList)] }

/-- The token of a tag that has been read; what a closing tag has for attributes is dropped. -/
def token (tag : Tag) : Token :=
  if tag.closes then .closing (String.ofList tag.name)
  else .opening (String.ofList tag.name) tag.attributes

end Tag

/-- The states in which content is read. -/
inductive State where
  | data
  | tagOpen
  | endTagOpen
  /-- In a declaration or a comment, either of which is passed over up to the next bracket. -/
  | declaration
  | tagName (tag : Tag)
  | beforeName (tag : Tag)
  | attributeName (tag : Tag) (name : List Char)
  | afterName (tag : Tag) (name : List Char)
  | beforeValue (tag : Tag) (name : List Char)
  | quoted (quote : Char) (tag : Tag) (name value : List Char)
  | unquoted (tag : Tag) (name value : List Char)
  deriving DecidableEq

/-- Whether a character separates the parts of a tag. -/
def isSpace (c : Char) : Bool :=
  c ∈ ['\t', '\n', '\x0c', ' ']

/-- The state after a character of plain content, and the tokens that it completes. -/
def onData : Char → List Token × State
  | '<' => ([], .tagOpen)
  | c => ([.character c], .data)

/-- The state after a character, and the tokens that it completes. -/
def step : State → Char → List Token × State
  | .data, c => onData c
  | .tagOpen, c =>
    if c = '/' then ([], .endTagOpen)
    else if c = '!' || c = '?' then ([], .declaration)
    else if c.isAlpha then ([], .tagName ⟨false, [c.toLower], []⟩)
    else
      -- The bracket opened no tag, so it is a character like any other.
      let (tokens, next) := onData c
      (.character '<' :: tokens, next)
  | .endTagOpen, c =>
    if c.isAlpha then ([], .tagName ⟨true, [c.toLower], []⟩)
    else if c = '>' then ([], .data)
    else ([], .declaration)
  | .declaration, c => ([], if c = '>' then .data else .declaration)
  | .tagName tag, c =>
    if isSpace c || c = '/' then ([], .beforeName tag)
    else if c = '>' then ([tag.token], .data)
    else ([], .tagName { tag with name := tag.name ++ [c.toLower] })
  | .beforeName tag, c =>
    if isSpace c || c = '/' then ([], .beforeName tag)
    else if c = '>' then ([tag.token], .data)
    else ([], .attributeName tag [c.toLower])
  | .attributeName tag name, c =>
    if isSpace c then ([], .afterName tag name)
    else if c = '/' then ([], .beforeName (tag.add name none))
    else if c = '>' then ([(tag.add name none).token], .data)
    else if c = '=' then ([], .beforeValue tag name)
    else ([], .attributeName tag (name ++ [c.toLower]))
  | .afterName tag name, c =>
    if isSpace c then ([], .afterName tag name)
    else if c = '/' then ([], .beforeName (tag.add name none))
    else if c = '>' then ([(tag.add name none).token], .data)
    else if c = '=' then ([], .beforeValue tag name)
    else ([], .attributeName (tag.add name none) [c.toLower])
  | .beforeValue tag name, c =>
    if isSpace c then ([], .beforeValue tag name)
    else if c = '"' || c = '\'' then ([], .quoted c tag name [])
    else if c = '>' then ([(tag.add name (some [])).token], .data)
    else ([], .unquoted tag name [c])
  | .quoted quote tag name value, c =>
    -- Inside quotes brackets and white space are part of the value.
    if c = quote then ([], .beforeName (tag.add name (some value)))
    else ([], .quoted quote tag name (value ++ [c]))
  | .unquoted tag name value, c =>
    if isSpace c then ([], .beforeName (tag.add name (some value)))
    else if c = '>' then ([(tag.add name (some value)).token], .data)
    else ([], .unquoted tag name (value ++ [c]))

/-- The tokens that remain where content ends; a tag that has been begun is dropped. -/
def unfinished : State → List Token
  | .tagOpen => [.character '<']
  | .endTagOpen => [.character '<', .character '/']
  | _ => []

/-- The tokens of content, read on from a state. -/
def tokensFrom : State → List Char → List Token
  | state, [] => unfinished state
  | state, c :: rest => (step state c).1 ++ tokensFrom (step state c).2 rest

/-! ## Runs of characters -/

section Run

variable {σ : Type} {reads : σ → Char → List Token × σ} {state middle final : σ}

/-- The tokens that a text completes, and the state after it. -/
def run (reads : σ → Char → List Token × σ) : σ → List Char → List Token × σ
  | state, [] => ([], state)
  | state, c :: rest =>
    let later := run reads (reads state c).2 rest
    ((reads state c).1 ++ later.1, later.2)

/-- A text is read behind a character. -/
theorem run_cons {c : Char} {rest : List Char} {tokens later : List Token}
    (stepped : reads state c = (tokens, middle)) (read : run reads middle rest = (later, final)) :
    run reads state (c :: rest) = (tokens ++ later, final) := by
  rw [run, stepped, read]

/-- One text is read behind another. -/
theorem run_append {first second : List Char} {tokens later : List Token}
    (front : run reads state first = (tokens, middle))
    (back : run reads middle second = (later, final)) :
    run reads state (first ++ second) = (tokens ++ later, final) := by
  -- What is completed by the whole is told by the two halves, wherever the first one leads.
  have whole : run reads state (first ++ second)
      = ((run reads state first).1 ++ (run reads (run reads state first).2 second).1,
        (run reads (run reads state first).2 second).2) := by
    clear front back
    induction first generalizing state with
    | nil => rfl
    -- The state after the first character is where the induction goes on.
    | cons c first ih => simp only [List.cons_append, run, ih, List.append_assoc]
  rw [whole, front, back]

/-- What a state takes up character by character, it takes up as a whole. -/
theorem run_takes (state : List Char → σ) {text : List Char}
    (takes : ∀ read, ∀ c ∈ text, reads (state read) c = ([], state (read ++ [c])))
    (read : List Char) : run reads (state read) text = ([], state (read ++ text)) := by
  induction text generalizing read with
  | nil => rw [List.append_nil, run]
  | cons c text ih =>
    -- What has been read so far grows by one character, and no token is completed.
    have later := ih (fun read c member => takes read c (List.mem_cons_of_mem _ member))
      (read ++ [c])
    rw [List.append_assoc, List.singleton_append] at later
    exact run_cons (takes read c List.mem_cons_self) later

end Run

/-- The tokens of content begin with those that its beginning completes. -/
theorem tokensFrom_append {state next : State} {text : List Char} {tokens : List Token}
    (read : run step state text = (tokens, next)) (rest : List Char) :
    tokensFrom state (text ++ rest) = tokens ++ tokensFrom next rest := by
  -- The statement for any run follows the recursion; the hypothesis names the result of this one.
  have whole : tokensFrom state (text ++ rest)
      = (run step state text).1 ++ tokensFrom (run step state text).2 rest := by
    clear read
    induction text generalizing state with
    | nil => rfl
    | cons c text ih => rw [List.cons_append, tokensFrom, ih, run, List.append_assoc]
  rw [whole, read]

/-- Whether a character may stand in a name that is written in lower case. -/
def isNameChar (c : Char) : Bool :=
  c.isLower || c.isDigit

/-- A name that begins with a letter and is written in lower case. -/
def isName (name : String) : Bool :=
  name.toList.head?.any Char.isLower && name.toList.all isNameChar

/-- Characters that end a name, or stand where one does not begin. -/
def tagMarks : List Char :=
  ['\t', '\n', '\x0c', ' ', '/', '>', '=', '!', '?']

/-- The marks of tags are in no name. -/
theorem ne_of_isNameChar {c mark : Char} (named : isNameChar c = true)
    (special : mark ∈ tagMarks) : c ≠ mark := by
  -- None of the marks is a small letter or a digit, which is seen one by one.
  have none : ∀ mark ∈ tagMarks, isNameChar mark = false := forall_mem_of_all (by decide)
  rintro rfl
  rw [none c special] at named
  cases named

/-- What may stand in a name is no white space. -/
theorem isSpace_of_isNameChar {c : Char} (named : isNameChar c = true) : isSpace c = false := by
  -- White space is among the marks of tags.
  have spaces : ∀ mark ∈ ['\t', '\n', '\x0c', ' '], mark ∈ tagMarks :=
    forall_mem_of_all (by decide)
  rw [isSpace, decide_eq_false_iff_not]
  exact fun member => ne_of_isNameChar named (spaces c member) rfl

/-- A small letter is a letter. -/
theorem isAlpha_of_isLower {c : Char} (small : c.isLower = true) : c.isAlpha = true :=
  Bool.or_eq_true_iff.mpr (.inr small)

/-- A character of a name in lower case stays as it is. -/
theorem toLower_of_isNameChar {c : Char} (named : isNameChar c = true) : c.toLower = c := by
  rw [isNameChar, Bool.or_eq_true] at named
  rcases named with small | digit
  · -- Small letters come after the capital ones.
    obtain ⟨low, -⟩ := Bool.and_eq_true_iff.mp small
    have apart : 'Z'.val < 'a'.val := by decide
    exact dif_neg fun capital => UInt32.not_le.mpr
      (UInt32.lt_of_lt_of_le apart (of_decide_eq_true low)) capital.2
  -- There are no capital forms of digits.
  · exact of_isDigit digit (by decide)

/-- A name is a letter with more letters and digits behind it. -/
theorem exists_of_isName {name : String} (named : isName name = true) :
    ∃ first rest, name.toList = first :: rest ∧ first.isLower = true
      ∧ ∀ c ∈ first :: rest, isNameChar c = true := by
  rw [isName, Bool.and_eq_true, List.all_eq_true] at named
  cases chars : name.toList with
  | nil => simp [chars] at named
  -- The first character of the text is the one that the test looks at.
  | cons first rest => exact ⟨first, rest, rfl, by simpa [chars] using named.1, chars ▸ named.2⟩

/-- A name goes on in a tag. -/
theorem step_tagName {c : Char} (named : isNameChar c = true) (tag : Tag) :
    step (.tagName tag) c = ([], .tagName { tag with name := tag.name ++ [c] }) := by
  -- Neither of the characters that could end the name is in one.
  have noStroke : c ≠ '/' := ne_of_isNameChar named (by decide)
  have noBracket : c ≠ '>' := ne_of_isNameChar named (by decide)
  simp [step, isSpace_of_isNameChar named, noStroke, noBracket, toLower_of_isNameChar named]

/-- The name of an attribute goes on. -/
theorem step_attributeName {c : Char} (named : isNameChar c = true) (tag : Tag)
    (name : List Char) :
    step (.attributeName tag name) c = ([], .attributeName tag (name ++ [c])) := by
  -- Besides the stroke and the bracket, a sign of equality could end the name of an attribute.
  have noStroke : c ≠ '/' := ne_of_isNameChar named (by decide)
  have noBracket : c ≠ '>' := ne_of_isNameChar named (by decide)
  have noSign : c ≠ '=' := ne_of_isNameChar named (by decide)
  simp [step, isSpace_of_isNameChar named, noStroke, noBracket, noSign,
    toLower_of_isNameChar named]

/-! ## Tags -/

/-- States in which a tag may end or go on with an attribute. -/
inductive Pauses : State → Tag → Prop
  | tagName (tag : Tag) : Pauses (.tagName tag) tag
  | value (tag : Tag) : Pauses (.beforeName tag) tag
  | attributeName (tag : Tag) (name : List Char) :
    Pauses (.attributeName tag name) (tag.add name none)

namespace Pauses

variable {state : State} {tag : Tag}

/-- A bracket ends a tag. -/
theorem bracket (pauses : Pauses state tag) : step state '>' = ([tag.token], .data) := by
  -- In each of the three states the bracket completes the tag.
  cases pauses <;> rfl

/-- After a space the name of an attribute begins. -/
theorem space (pauses : Pauses state tag) {c : Char} (named : isNameChar c = true) :
    run step state [' ', c] = ([], .attributeName tag [c]) := by
  -- The character behind the space is none of those that would end the tag or begin a value.
  have noStroke : c ≠ '/' := ne_of_isNameChar named (by decide)
  have noBracket : c ≠ '>' := ne_of_isNameChar named (by decide)
  have noSign : c ≠ '=' := ne_of_isNameChar named (by decide)
  have noSpace := isSpace_of_isNameChar named
  -- The space ends a name or is passed over, whichever of the three states it is read in.
  have blank : isSpace ' ' = true := by decide
  cases pauses <;>
    simp [run, step, blank, noSpace, noStroke, noBracket, noSign, toLower_of_isNameChar named]

/-- After a space the name of an attribute is read. -/
theorem name (pauses : Pauses state tag) {name : String} (named : isName name = true) :
    run step state (' ' :: name.toList) = ([], .attributeName tag name.toList) := by
  -- The first character ends the pause, and the others go on with the name.
  obtain ⟨first, others, chars, -, all⟩ := exists_of_isName named
  obtain ⟨begins, goesOn⟩ := List.forall_mem_cons.mp all
  rw [chars]
  exact run_append (pauses.space begins) (run_takes (State.attributeName tag)
    (fun read c member => step_attributeName (goesOn c member) tag read) [first])

end Pauses

/-- An attribute as it is written in a tag. -/
def attributeChars : Attribute → List Char
  | (name, none) => ' ' :: name.toList
  | (name, some value) => ' ' :: name.toList ++ '=' :: '"' :: value.toList ++ ['"']

/-- An attribute that is read as it was written. -/
def IsPlainAttribute (item : Attribute) : Prop :=
  isName item.1 = true ∧ ∀ value ∈ item.2, '"' ∉ value.toList

/-- An attribute without a value is plain when its name is. -/
@[simp] theorem isPlainAttribute_none {name : String} :
    IsPlainAttribute (name, none) ↔ isName name = true := by
  simp [IsPlainAttribute]

/-- An attribute with a value is plain when its name is and there is no quote in the value. -/
@[simp] theorem isPlainAttribute_some {name value : String} :
    IsPlainAttribute (name, some value) ↔ isName name = true ∧ '"' ∉ value.toList := by
  simp [IsPlainAttribute]

instance : ∀ item : Attribute, Decidable (IsPlainAttribute item)
  | (_, none) => decidable_of_iff _ isPlainAttribute_none.symm
  | (_, some _) => decidable_of_iff _ isPlainAttribute_some.symm

/-- A quoted value is read up to its quote. -/
theorem run_quoted {value : String} (clean : '"' ∉ value.toList) (tag : Tag) (name : List Char) :
    run step (.attributeName tag name) ('=' :: '"' :: value.toList ++ ['"'])
      = ([], .beforeName (tag.add name (some value.toList))) := by
  -- Up to the quote every character is taken up into the value.
  have goesOn (read : List Char) (c : Char) (member : c ∈ value.toList) :
      step (.quoted '"' tag name read) c = ([], .quoted '"' tag name (read ++ [c])) := by
    have noQuote : c ≠ '"' := fun same => clean (same ▸ member)
    simp [step, noQuote]
  have quoted := run_takes (State.quoted '"' tag name) goesOn []
  -- The quote adds the attribute to the tag.
  have ends : run step (.quoted '"' tag name value.toList) ['"']
      = ([], .beforeName (tag.add name (some value.toList))) := rfl
  exact run_append quoted ends

namespace Pauses

variable {state : State} {tag : Tag}

/-- An attribute is read where a tag may go on, and the tag may go on after it. -/
theorem item (pauses : Pauses state tag) {item : Attribute} (plain : IsPlainAttribute item) :
    ∃ next, Pauses next { tag with attributes := tag.attributes ++ [item] }
      ∧ run step state (attributeChars item) = ([], next) := by
  obtain ⟨name, value⟩ := item
  obtain ⟨named, clean⟩ := plain
  -- What `add` puts behind the attributes is the one that was written, with or without a value.
  have added (value : Option String) : tag.add name.toList (value.map String.toList)
      = { tag with attributes := tag.attributes ++ [(name, value)] } := by
    cases value <;> simp [Tag.add]
  -- A value decides on the state in which the attribute leaves the tag.
  cases value with
  | none =>
    -- Without a value the tag may go on while the name is still being read.
    exact ⟨_, added none ▸ .attributeName tag name.toList, pauses.name named⟩
  | some value =>
    refine ⟨.beforeName (tag.add name.toList (some value.toList)),
      added (some value) ▸ .value _, ?_⟩
    rw [attributeChars, List.append_assoc]
    exact run_append (pauses.name named) (run_quoted (clean value rfl) tag name.toList)

/-- All attributes of a tag are read, one after the other. -/
theorem items (pauses : Pauses state tag) {items : List Attribute}
    (plain : ∀ item ∈ items, IsPlainAttribute item) :
    ∃ next, Pauses next { tag with attributes := tag.attributes ++ items }
      ∧ run step state (items.flatMap attributeChars) = ([], next) := by
  induction items generalizing state tag with
  -- No attributes leave the tag in the state in which it was.
  | nil => exact ⟨state, by rwa [List.append_nil], rfl⟩
  | cons first items ih =>
    -- Behind the first attribute the tag may go on, which is what the others need.
    obtain ⟨one, others⟩ := List.forall_mem_cons.mp plain
    obtain ⟨middle, pausesThere, readFirst⟩ := pauses.item one
    obtain ⟨next, pausesNext, readOthers⟩ := ih pausesThere others
    rw [List.append_assoc, List.singleton_append] at pausesNext
    exact ⟨next, pausesNext, run_append readFirst readOthers⟩

end Pauses

/-- An opening tag as it is written. -/
def openingChars (name : String) (attributes : List Attribute) : List Char :=
  '<' :: name.toList ++ attributes.flatMap attributeChars ++ ['>']

/-- A closing tag as it is written. -/
def closingChars (name : String) : List Char :=
  '<' :: '/' :: name.toList ++ ['>']

/-- The name of a tag is read behind its bracket, and behind the stroke if the tag closes. -/
theorem run_name {name : String} (named : isName name = true) :
    run step .data ('<' :: name.toList) = ([], .tagName ⟨false, name.toList, []⟩)
      ∧ run step .data ('<' :: '/' :: name.toList) = ([], .tagName ⟨true, name.toList, []⟩) := by
  obtain ⟨first, others, chars, letter, all⟩ := exists_of_isName named
  obtain ⟨begins, goesOn⟩ := List.forall_mem_cons.mp all
  -- The first letter decides that this is a tag and not a declaration.
  have noStroke : first ≠ '/' := ne_of_isNameChar begins (by decide)
  have noMark : first ≠ '!' := ne_of_isNameChar begins (by decide)
  have noQuery : first ≠ '?' := ne_of_isNameChar begins (by decide)
  -- The characters behind the first one are taken up into the name in either kind of tag.
  have rest (closes : Bool) := run_takes (fun name => State.tagName ⟨closes, name, []⟩)
    (fun read c member => step_tagName (goesOn c member) ⟨closes, read, []⟩) [first]
  -- The first letter opens the name behind the bracket, or behind the bracket and the stroke.
  have opens : run step .data ['<', first] = ([], .tagName ⟨false, [first], []⟩) := by
    simp [run, step, onData, noStroke, noMark, noQuery, isAlpha_of_isLower letter,
      toLower_of_isNameChar begins]
  have closes : run step .data ['<', '/', first] = ([], .tagName ⟨true, [first], []⟩) := by
    simp [run, step, onData, isAlpha_of_isLower letter, toLower_of_isNameChar begins]
  rw [chars]
  exact ⟨run_append opens (rest false), run_append closes (rest true)⟩

/-- An opening tag may end behind its attributes. -/
theorem exists_pauses {name : String} {attributes : List Attribute} (named : isName name = true)
    (plain : ∀ item ∈ attributes, IsPlainAttribute item) :
    ∃ next, Pauses next ⟨false, name.toList, attributes⟩
      ∧ run step .data ('<' :: name.toList ++ attributes.flatMap attributeChars) = ([], next) := by
  obtain ⟨next, pauses, read⟩ := (Pauses.tagName ⟨false, name.toList, []⟩).items plain
  exact ⟨next, pauses, run_append (run_name named).1 read⟩

/-- An opening tag is read with all its attributes. -/
theorem run_openingChars {name : String} {attributes : List Attribute}
    (named : isName name = true) (plain : ∀ item ∈ attributes, IsPlainAttribute item) :
    run step .data (openingChars name attributes) = ([.opening name attributes], .data) := by
  obtain ⟨next, pauses, read⟩ := exists_pauses named plain
  -- The bracket is read wherever the attributes have left the tag.
  refine run_append read ?_
  simp [run, pauses.bracket, Tag.token]

/-- A closing tag is read. -/
theorem run_closingChars {name : String} (named : isName name = true) :
    run step .data (closingChars name) = ([.closing name], .data) := by
  -- A closing tag has no attributes, so it ends right behind its name.
  refine run_append (run_name named).2 ?_
  simp [run, (Pauses.tagName _).bracket, Tag.token]

/-- A character of plain content is read by itself. -/
theorem run_character {c : Char} (plain : c ≠ '<') :
    run step .data [c] = ([.character c], .data) := by
  -- The catch-all case of `onData` asks for a proof that its first pattern does not fit.
  rw [run, step, onData]
  · rfl
  · exact plain

end RoomAir.Markup
