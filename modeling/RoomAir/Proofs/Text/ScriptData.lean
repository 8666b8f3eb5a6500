import Mathlib.Data.List.Infix

/-! Script data as the HTML standard tokenizes it: which end tag closes a script element. -/

namespace RoomAir.ScriptData

/-- The states in which the text of a script element is read. -/
inductive State where
  | data
  | lessThan
  | endTagOpen
  | endTagName (name : List Char)
  | escapeStart
  | escapeStartDash
  | escaped
  | escapedDash
  | escapedDashDash
  | escapedLessThan
  | escapedEndTagOpen
  | escapedEndTagName (name : List Char)
  | doubleEscapeStart (name : List Char)
  | doubleEscaped
  | doubleEscapedDash
  | doubleEscapedDashDash
  | doubleEscapedLessThan
  | doubleEscapeEnd (name : List Char)
  deriving DecidableEq

/-- Whether a character ends the name of a tag: white space, a stroke or the closing bracket. -/
def endsName (c : Char) : Bool :=
  c ∈ ['\t', '\n', '\x0c', ' ', '/', '>']

/-- Whether a name is that of script elements, in letters of either case. -/
def isScript (name : List Char) : Bool :=
  name.map Char.toLower == ['s', 'c', 'r', 'i', 'p', 't']

/-- The state after a character of plain script data. -/
def onData : Char → State
  | '<' => .lessThan
  | _ => .data

/-- The state after a character of escaped script data. -/
def onEscaped : Char → State
  | '-' => .escapedDash
  | '<' => .escapedLessThan
  | _ => .escaped

/-- The state after a character of double escaped script data. -/
def onDoubleEscaped : Char → State
  | '-' => .doubleEscapedDash
  | '<' => .doubleEscapedLessThan
  | _ => .doubleEscaped

/-- The state after a character, if it does not end the name of the tag that closes the element. -/
def step (state : State) (c : Char) : Option State :=
  -- A character that does not go on with a mark is read as data of the depth that was reached.
  match state with
  | .data => some (onData c)
  | .lessThan =>
    some (if c = '/' then .endTagOpen else if c = '!' then .escapeStart else onData c)
  | .endTagOpen => some (if c.isAlpha then .endTagName [c] else onData c)
  | .endTagName name =>
    if c.isAlpha then some (.endTagName (name ++ [c]))
    -- Only the end tag of a script closes one.
    else if endsName c && isScript name then none
    else some (onData c)
  | .escapeStart => some (if c = '-' then .escapeStartDash else onData c)
  | .escapeStartDash => some (if c = '-' then .escapedDashDash else onData c)
  | .escaped => some (onEscaped c)
  | .escapedDash => some (if c = '-' then .escapedDashDash else onEscaped c)
  | .escapedDashDash =>
    some (if c = '-' then .escapedDashDash else if c = '>' then .data else onEscaped c)
  | .escapedLessThan =>
    some (if c = '/' then .escapedEndTagOpen
      else if c.isAlpha then .doubleEscapeStart [c] else onEscaped c)
  | .escapedEndTagOpen => some (if c.isAlpha then .escapedEndTagName [c] else onEscaped c)
  | .escapedEndTagName name =>
    if c.isAlpha then some (.escapedEndTagName (name ++ [c]))
    else if endsName c && isScript name then none
    else some (onEscaped c)
  | .doubleEscapeStart name =>
    some (if c.isAlpha then .doubleEscapeStart (name ++ [c])
      else if endsName c && isScript name then .doubleEscaped else onEscaped c)
  | .doubleEscaped => some (onDoubleEscaped c)
  | .doubleEscapedDash => some (if c = '-' then .doubleEscapedDashDash else onDoubleEscaped c)
  | .doubleEscapedDashDash =>
    some (if c = '-' then .doubleEscapedDashDash
      else if c = '>' then .data else onDoubleEscaped c)
  | .doubleEscapedLessThan => some (if c = '/' then .doubleEscapeEnd [] else onDoubleEscaped c)
  | .doubleEscapeEnd name =>
    some (if c.isAlpha then .doubleEscapeEnd (name ++ [c])
      -- This tag ends the script inside the comment and leaves the element open.
      else if endsName c && isScript name then .escaped else onDoubleEscaped c)

/-- The state after a text in which the element is not closed. -/
def run (state : State) (text : List Char) : Option State :=
  text.foldlM step state

/-- What follows the name of the end tag that closes the element, if one does. -/
def closing : State → List Char → Option (List Char)
  | _, [] => none
  | state, c :: rest =>
    match step state c with
    | some next => closing next rest
    | none => some (c :: rest)

/-- The state after a character and then a text. -/
theorem run_cons {state next : State} {c : Char}
    (stepped : step state c = some next) (text : List Char) :
    run state (c :: text) = run next text := by
  rw [run, List.foldlM_cons, stepped]
  rfl

/-- The state after one text and then another. -/
theorem run_append {state next : State} {text : List Char}
    (read : run state text = some next) (rest : List Char) :
    run state (text ++ rest) = run next rest := by
  -- The fold over the whole text is the fold over the first one and then over the second.
  rw [run, List.foldlM_append]
  change (run state text).bind _ = _
  rw [read]
  rfl

/-- A text that is read to its end leaves what follows to be read. -/
theorem closing_append {state next : State} {text : List Char}
    (read : run state text = some next) (rest : List Char) :
    closing state (text ++ rest) = closing next rest := by
  induction text generalizing state with
  -- Nothing has been read, so the two states are the same.
  | nil => cases read; rfl
  | cons c text ih =>
    cases stepped : step state c with
    -- The element is closed in the text itself, which `read` excludes.
    | none => rw [run, List.foldlM_cons, stepped] at read; cases read
    | some middle =>
      -- The first character leads on, and the rest of the text is read behind it.
      rw [run_cons stepped] at read
      rw [List.cons_append, closing, stepped]
      exact ih read

/-! ## Comments and the scripts in them -/

/-- No end tag begins in a text. -/
def Tagless (text : List Char) : Prop :=
  ¬ ['<', '/'] <:+: text

/-- No comment ends in a text. -/
def Unended (text : List Char) : Prop :=
  ¬ ['-', '-', '>'] <:+: text

/-- A script begins in a text. -/
def BeginsScript (text : List Char) : Prop :=
  ∃ inside name mark rest, text = inside ++ '<' :: (name ++ mark :: rest)
    ∧ isScript name = true ∧ endsName mark = true

/-- A text opens a comment in which a script begins. -/
def Opens (text : List Char) : Prop :=
  ∃ comment, '<' :: '!' :: comment <:+ text ∧ ['-', '-'] <+: comment ∧ BeginsScript comment

/-- A text opens a comment in which a script begins, and does not end it. -/
def Hides (text : List Char) : Prop :=
  ∃ comment, '<' :: '!' :: comment <:+ text ∧ ['-', '-'] <+: comment ∧ BeginsScript comment
    ∧ Unended comment

/-- A part of a text without end tags has none. -/
theorem Tagless.mono {inner outer : List Char} (tagless : Tagless outer)
    (inside : inner <:+: outer) : Tagless inner :=
  fun tag => tagless (tag.trans inside)

/-- A part of a text in which no comment ends has no end of one. -/
theorem Unended.mono {inner outer : List Char} (unended : Unended outer)
    (inside : inner <:+: outer) : Unended inner :=
  fun ending => unended (ending.trans inside)

/-- A text without brackets begins no end tag. -/
theorem tagless_of_notMem {text : List Char} (absent : '<' ∉ text) : Tagless text :=
  fun tag => absent (tag.subset (List.mem_cons_self ..))

/-- Only a text that opens a comment hides a script. -/
theorem Hides.opensComment {text : List Char} (hides : Hides text) :
    ['<', '!', '-', '-'] <:+: text := by
  -- The two dashes with which the comment begins stand right behind its bracket and mark.
  obtain ⟨comment, inside, ⟨rest, rfl⟩, -⟩ := hides
  exact (List.prefix_append ['<', '!', '-', '-'] rest).isInfix.trans inside.isInfix

/-- How deep in comments and scripts a text is read. -/
inductive Depth where
  | plain
  | escaped
  | doubleEscaped
  deriving DecidableEq

namespace State

/-- The depth of a state. -/
def depth : State → Depth
  | data | lessThan | endTagOpen | endTagName _ | escapeStart | escapeStartDash => .plain
  | escaped | escapedDash | escapedDashDash | escapedLessThan | escapedEndTagOpen
  | escapedEndTagName _ | doubleEscapeStart _ => .escaped
  | doubleEscaped | doubleEscapedDash | doubleEscapedDashDash | doubleEscapedLessThan
  | doubleEscapeEnd _ => .doubleEscaped

/-- Whether no end tag has begun. -/
def IsOutside : State → Prop
  | endTagOpen | endTagName _ | escapedEndTagOpen | escapedEndTagName _ | doubleEscapeEnd _ => False
  | _ => True

/-- At the start of a script no end tag has begun. -/
theorem isOutside_data : data.IsOutside :=
  trivial

/-- In a script inside a comment no end tag has begun. -/
theorem isOutside_doubleEscaped : doubleEscaped.IsOutside :=
  trivial

/-- The end of the text that a state outside of end tags remembers. -/
def pending : State → List Char
  | lessThan | escapedLessThan | doubleEscapedLessThan => ['<']
  | escapeStart => ['<', '!']
  | escapeStartDash => ['<', '!', '-']
  | escapedDash | doubleEscapedDash => ['-']
  | escapedDashDash | doubleEscapedDashDash => ['-', '-']
  | doubleEscapeStart name => '<' :: name
  | _ => []

end State

/-- Whether and how a character changes the depth at which a text is read. -/
inductive Passes : State → Char → State → Prop
  | level {state next : State} {c : Char} (same : next.depth = state.depth) : Passes state c next
  | comment : Passes .escapeStartDash '-' .escapedDashDash
  | script {name : List Char} {mark : Char} (named : isScript name = true)
    (ended : endsName mark = true) : Passes (.doubleEscapeStart name) mark .doubleEscaped
  | commentEnd : Passes .escapedDashDash '>' .data
  | scriptEnd : Passes .doubleEscapedDashDash '>' .data

/-- A character that begins no end tag leads from one state to the next. -/
structure Follows (state : State) (c : Char) (next : State) : Prop where
  outside : next.IsOutside
  pending : next.pending <:+ state.pending ++ [c]
  passes : Passes state c next

variable {state next final : State} {c : Char} {text rest : List Char}

/-- Plain script data is followed by plain script data. -/
theorem follows_onData (plain : state.depth = .plain) : Follows state c (onData c) := by
  unfold onData
  -- A bracket is remembered, and any other character is forgotten; either way the depth stays.
  split
  · exact ⟨trivial, List.suffix_append .., .level plain.symm⟩
  · exact ⟨trivial, List.nil_suffix, .level plain.symm⟩

/-- Escaped script data is followed by escaped script data. -/
theorem follows_onEscaped (escaped : state.depth = .escaped) : Follows state c (onEscaped c) := by
  unfold onEscaped
  -- A dash or a bracket is remembered, and any other character is forgotten.
  split
  · exact ⟨trivial, List.suffix_append .., .level escaped.symm⟩
  · exact ⟨trivial, List.suffix_append .., .level escaped.symm⟩
  · exact ⟨trivial, List.nil_suffix, .level escaped.symm⟩

/-- Double escaped script data is followed by double escaped script data. -/
theorem follows_onDoubleEscaped (escaped : state.depth = .doubleEscaped) :
    Follows state c (onDoubleEscaped c) := by
  -- The three cases are those of escaped data, one level deeper.
  unfold onDoubleEscaped
  split
  · exact ⟨trivial, List.suffix_append .., .level escaped.symm⟩
  · exact ⟨trivial, List.suffix_append .., .level escaped.symm⟩
  · exact ⟨trivial, List.nil_suffix, .level escaped.symm⟩

/-- Outside of end tags a character that begins none leads to another such state. -/
theorem exists_follows (outside : state.IsOutside)
    (tagless : Tagless (state.pending ++ [c])) :
    ∃ next, step state c = some next ∧ Follows state c next := by
  -- In each state a character goes on with what is remembered, or all of that is forgotten.
  cases state with
  | data => exact ⟨_, rfl, follows_onData rfl⟩
  | lessThan =>
    by_cases stroke : c = '/'
    · -- The bracket is still remembered, and the two would begin an end tag.
      exact absurd (stroke ▸ List.infix_rfl) tagless
    by_cases mark : c = '!'
    · exact ⟨.escapeStart, by simp [step, mark], trivial, mark ▸ List.suffix_rfl, .level rfl⟩
    · exact ⟨_, by simp [step, stroke, mark], follows_onData rfl⟩
  | endTagOpen => exact outside.elim
  | endTagName name => exact outside.elim
  | escapeStart =>
    by_cases dash : c = '-'
    · exact ⟨.escapeStartDash, by simp [step, dash], trivial, dash ▸ List.suffix_rfl, .level rfl⟩
    · exact ⟨_, by simp [step, dash], follows_onData rfl⟩
  | escapeStartDash =>
    by_cases dash : c = '-'
    · -- With the second dash a comment is open, and both dashes may belong to its end.
      exact ⟨.escapedDashDash, by simp [step, dash], trivial, dash ▸ ⟨['<', '!'], rfl⟩,
        dash ▸ .comment⟩
    · exact ⟨_, by simp [step, dash], follows_onData rfl⟩
  | escaped => exact ⟨_, rfl, follows_onEscaped rfl⟩
  | escapedDash =>
    by_cases dash : c = '-'
    · exact ⟨.escapedDashDash, by simp [step, dash], trivial, dash ▸ List.suffix_rfl, .level rfl⟩
    · exact ⟨_, by simp [step, dash], follows_onEscaped rfl⟩
  | escapedDashDash =>
    by_cases dash : c = '-'
    · exact ⟨.escapedDashDash, by simp [step, dash], trivial, dash ▸ ⟨['-'], rfl⟩, .level rfl⟩
    by_cases close : c = '>'
    · exact ⟨.data, by simp [step, close], trivial, List.nil_suffix, close ▸ .commentEnd⟩
    · exact ⟨_, by simp [step, dash, close], follows_onEscaped rfl⟩
  | escapedLessThan =>
    by_cases stroke : c = '/'
    · exact absurd (stroke ▸ List.infix_rfl) tagless
    by_cases letter : c.isAlpha
    · exact ⟨.doubleEscapeStart [c], by simp [step, stroke, letter], trivial, List.suffix_rfl,
        .level rfl⟩
    · exact ⟨_, by simp [step, stroke, letter], follows_onEscaped rfl⟩
  | escapedEndTagOpen => exact outside.elim
  | escapedEndTagName name => exact outside.elim
  | doubleEscapeStart name =>
    by_cases letter : c.isAlpha
    · exact ⟨.doubleEscapeStart (name ++ [c]), by simp [step, letter], trivial, List.suffix_rfl,
        .level rfl⟩
    by_cases begins : endsName c ∧ isScript name
    · -- Only here does a script begin inside a comment.
      exact ⟨.doubleEscaped, by simp [step, letter, begins], trivial, List.nil_suffix,
        .script begins.2 begins.1⟩
    · exact ⟨_, by simp [step, letter, begins], follows_onEscaped rfl⟩
  | doubleEscaped => exact ⟨_, rfl, follows_onDoubleEscaped rfl⟩
  | doubleEscapedDash =>
    by_cases dash : c = '-'
    · exact ⟨.doubleEscapedDashDash, by simp [step, dash], trivial, dash ▸ List.suffix_rfl,
        .level rfl⟩
    · exact ⟨_, by simp [step, dash], follows_onDoubleEscaped rfl⟩
  | doubleEscapedDashDash =>
    by_cases dash : c = '-'
    · exact ⟨.doubleEscapedDashDash, by simp [step, dash], trivial, dash ▸ ⟨['-'], rfl⟩,
        .level rfl⟩
    by_cases close : c = '>'
    · exact ⟨.data, by simp [step, close], trivial, List.nil_suffix, close ▸ .scriptEnd⟩
    · exact ⟨_, by simp [step, dash, close], follows_onDoubleEscaped rfl⟩
  | doubleEscapedLessThan =>
    by_cases stroke : c = '/'
    · exact absurd (stroke ▸ List.infix_rfl) tagless
    · exact ⟨_, by simp [step, stroke], follows_onDoubleEscaped rfl⟩
  | doubleEscapeEnd name => exact outside.elim

/-! ## Texts without end tags -/

/-- A text that is read from one state to another without the beginning of an end tag. -/
inductive Reads : State → List Char → State → Prop
  | nil (state : State) : Reads state [] state
  | cons {state next final : State} {c : Char} {text : List Char} (first : Follows state c next)
    (rest : Reads next text final) : Reads state (c :: text) final

/-- What is remembered after a character ends what was remembered before it. -/
theorem Follows.suffix (follows : Follows state c next) (text : List Char) :
    next.pending ++ text <:+ state.pending ++ c :: text := by
  -- What the character makes one forget is in front of both sides.
  obtain ⟨dropped, same⟩ := follows.pending
  refine ⟨dropped, ?_⟩
  rw [← List.append_assoc, same, List.append_assoc]
  rfl

/-- A text without the beginning of an end tag is read to its end. -/
theorem exists_reads (outside : state.IsOutside)
    (tagless : Tagless (state.pending ++ text)) :
    ∃ final, run state text = some final ∧ Reads state text final ∧ final.IsOutside := by
  -- What is remembered stays in front of the text that is left, so no tag goes unnoticed.
  induction text generalizing state with
  | nil => exact ⟨state, rfl, .nil state, outside⟩
  | cons c text ih =>
    -- Neither the first character nor the rest behind it begins an end tag.
    have first : state.pending ++ [c] <:+: state.pending ++ c :: text := ⟨[], text, by simp⟩
    obtain ⟨next, stepped, follows⟩ := exists_follows outside (tagless.mono first)
    obtain ⟨final, ran, reads, outside⟩ := ih follows.outside
      (tagless.mono (follows.suffix text).isInfix)
    exact ⟨final, (run_cons stepped text).trans ran, .cons follows reads, outside⟩

/-- So any state that it is read to is reached in this way. -/
theorem reads_of_run (outside : state.IsOutside) (tagless : Tagless (state.pending ++ text))
    (read : run state text = some final) : Reads state text final := by
  -- The run has one result only, so the state that is found is the given one.
  obtain ⟨_, ran, reads, -⟩ := exists_reads outside tagless
  cases ran.symm.trans read
  exact reads

/-- A script that begins in the end of a text begins in the text. -/
theorem BeginsScript.of_suffix {inner outer : List Char} (begins : BeginsScript inner)
    (suffix : inner <:+ outer) : BeginsScript outer := by
  obtain ⟨inside, name, mark, rest, rfl, named, ended⟩ := begins
  -- The script only gets more text in front of it.
  obtain ⟨before, rfl⟩ := suffix
  exact ⟨before ++ inside, name, mark, rest, (List.append_assoc ..).symm, named, ended⟩

/-- A comment that the end of a text opens is opened by the text. -/
theorem Opens.of_suffix {inner outer : List Char} (opens : Opens inner) (suffix : inner <:+ outer) :
    Opens outer := by
  obtain ⟨comment, inside, dashes, begins⟩ := opens
  exact ⟨comment, inside.trans suffix, dashes, begins⟩

/-- A script that the end of a text hides is hidden by the text. -/
theorem Hides.of_suffix {inner outer : List Char} (hides : Hides inner) (suffix : inner <:+ outer) :
    Hides outer := by
  obtain ⟨comment, inside, rest⟩ := hides
  exact ⟨comment, inside.trans suffix, rest⟩

/-- Where a text is read to a double escaped state, what leads there stands in the text. -/
theorem Reads.of_doubleEscaped (reads : Reads state text final)
    (escaped : final.depth = .doubleEscaped) :
    state.depth = .doubleEscaped
      ∨ (state.depth = .escaped ∧ BeginsScript (state.pending ++ text))
      ∨ Opens (state.pending ++ text) := by
  -- The first character is the one that leads deeper, or what leads there stands behind it.
  induction reads with
  | nil => exact .inl escaped
  | @cons state next final c text first rest ih =>
    have suffix := first.suffix text
    rcases ih escaped with double | ⟨single, begins⟩ | opens
    · -- Only a script leads to double escaped states.
      cases first.passes with
      | level same => exact .inl (same ▸ double)
      | comment => cases double
      | script named ended => exact .inr (.inl ⟨rfl, [], _, c, text, rfl, named, ended⟩)
      | commentEnd => cases double
      | scriptEnd => cases double
    · -- Only the start of a comment leads to escaped states.
      cases first.passes with
      | level same => exact .inr (.inl ⟨same ▸ single, begins.of_suffix suffix⟩)
      | comment => exact .inr (.inr ⟨_, List.suffix_rfl, ⟨text, rfl⟩, begins⟩)
      | script => cases single
      | commentEnd => cases single
      | scriptEnd => cases single
    · exact .inr (.inr (opens.of_suffix suffix))

/-- Without the end of a comment no depth is lost. -/
theorem Reads.keeps_depth (reads : Reads state text final)
    (unended : Unended (state.pending ++ text)) :
    (state.depth ≠ .plain → final.depth ≠ .plain)
      ∧ (state.depth = .doubleEscaped → final.depth = .doubleEscaped) := by
  -- A depth is lost where two dashes are remembered and a bracket follows them.
  induction reads with
  -- Nothing is read, so no depth changes.
  | nil => exact ⟨id, id⟩
  | @cons state next final c text first rest ih =>
    obtain ⟨stays, staysDouble⟩ := ih (unended.mono (first.suffix text).isInfix)
    -- The depth falls only in the last two cases, and there a comment ends in the text.
    cases first.passes with
    | level same => exact ⟨fun deep => stays (same ▸ deep), fun deep => staysDouble (same ▸ deep)⟩
    | comment => exact ⟨fun deep => absurd rfl deep, nofun⟩
    | script => exact ⟨fun _ => stays nofun, fun _ => staysDouble rfl⟩
    | commentEnd => exact absurd ⟨[], text, rfl⟩ unended
    | scriptEnd => exact absurd ⟨[], text, rfl⟩ unended

/-- Wherever the end of a comment is read, plain script data follows. -/
theorem run_commentEnd (state : State) : run state ['-', '-', '>'] = some .data := by
  -- Each state forgets what it remembers when the three characters have been read.
  cases state <;> rfl

/-- Wherever the start of a comment is read, its dashes are escaped. -/
theorem exists_run_commentStart (state : State) :
    ∃ next, run state ['<', '!', '-', '-'] = some next ∧ next.IsOutside ∧ next.depth ≠ .plain
      ∧ next.pending = ['-', '-'] := by
  -- All of the plain and the escaped states come to one state, the double escaped ones to another.
  cases state <;> first
    | exact ⟨.escapedDashDash, rfl, trivial, nofun, rfl⟩
    | exact ⟨.doubleEscapedDashDash, rfl, trivial, nofun, rfl⟩

/-- The name of scripts has letters only. -/
theorem isAlpha_of_isScript {name : List Char} (named : isScript name = true) :
    ∀ c ∈ name, c.isAlpha = true := by
  intro c member
  -- The name is that of scripts when its capitals are made small.
  by_cases upper : c.isUpper = true
  · change (c.isUpper || c.isLower) = true
    rw [upper, Bool.true_or]
  · -- What is no capital is its own small letter.
    have letters : ['s', 'c', 'r', 'i', 'p', 't'].all Char.isAlpha = true := by decide
    have lower : c.toLower = c := dif_neg fun inside => upper (decide_eq_true inside)
    have letter : c ∈ ['s', 'c', 'r', 'i', 'p', 't'] :=
      lower ▸ eq_of_beq named ▸ List.mem_map_of_mem member
    exact List.all_eq_true.mp letters c letter

/-- What ends a name is no letter. -/
theorem isAlpha_of_endsName {mark : Char} (ended : endsName mark = true) :
    mark.isAlpha = false := by
  -- The six marks are looked at one by one.
  have marks : ['\t', '\n', '\x0c', ' ', '/', '>'].all (!Char.isAlpha ·) = true := by decide
  have noLetter := List.all_eq_true.mp marks mark (of_decide_eq_true ended)
  rwa [Bool.not_eq_true'] at noLetter

/-- Letters are added to the name of a tag. -/
theorem run_letters {letters : List Char} (alpha : ∀ c ∈ letters, c.isAlpha = true)
    (name : List Char) :
    run (.doubleEscapeStart name) letters = some (.doubleEscapeStart (name ++ letters)) := by
  induction letters generalizing name with
  -- Without letters the name stays as it is.
  | nil => rw [List.append_nil]; rfl
  | cons c letters ih =>
    rw [List.forall_mem_cons] at alpha
    -- A letter goes on with the name.
    have first : step (.doubleEscapeStart name) c = some (.doubleEscapeStart (name ++ [c])) := by
      rw [step, if_pos alpha.1]
    rw [run_cons first, ih alpha.2, List.append_assoc]
    rfl

/-- A script that begins in escaped data makes the escape a double one. -/
theorem run_script {name : List Char} {mark : Char} (escaped : state.depth = .escaped)
    (outside : state.IsOutside) (named : isScript name = true) (ended : endsName mark = true)
    (rest : List Char) :
    run state ('<' :: (name ++ mark :: rest)) = run .doubleEscaped rest := by
  have alpha := isAlpha_of_isScript named
  have bracket : step state '<' = some .escapedLessThan := by
    -- Wherever escaped data is read, a bracket is remembered.
    cases state <;> first | rfl | exact outside.elim | cases escaped
  cases name with
  | nil => cases named
  | cons c letters =>
    -- The first letter opens the name, the others are added, and the mark ends it.
    rw [List.forall_mem_cons] at alpha
    have first : step .escapedLessThan c = some (.doubleEscapeStart [c]) := by
      have noStroke : c ≠ '/' := fun same => absurd alpha.1 (same ▸ by decide)
      rw [step, if_neg noStroke, if_pos alpha.1]
    have last : step (.doubleEscapeStart ([c] ++ letters)) mark = some .doubleEscaped := by
      simp [step, isAlpha_of_endsName ended, ended, named]
    rw [run_cons bracket, List.cons_append, run_cons first, run_append (run_letters alpha.2 [c]),
      run_cons last]

/-! ## Scripts that are hidden -/

/-- Inside a comment that is not ended, a script that begins is not left. -/
theorem doubleEscaped_of_begins {inside name : List Char} {mark : Char} (outside : state.IsOutside)
    (deep : state.depth ≠ .plain) (named : isScript name = true) (ended : endsName mark = true)
    (tagless : Tagless (state.pending ++ (inside ++ '<' :: (name ++ mark :: rest))))
    (unended : Unended (state.pending ++ (inside ++ '<' :: (name ++ mark :: rest))))
    (read : run state (inside ++ '<' :: (name ++ mark :: rest)) = some final) :
    final.depth = .doubleEscaped := by
  -- The induction is on what stands before the script.
  induction inside generalizing state with
  | nil =>
    rw [List.nil_append] at tagless unended read
    by_cases double : state.depth = .doubleEscaped
    -- The script is a double one already, and without the end of a comment it stays so.
    · exact ((reads_of_run outside tagless read).keeps_depth unended).2 double
    · -- The script makes the escape a double one, which it stays.
      have escaped : state.depth = .escaped := by
        cases depth : state.depth <;> simp_all
      have suffix : rest <:+ state.pending ++ '<' :: (name ++ mark :: rest) :=
        ⟨state.pending ++ '<' :: (name ++ [mark]), by simp⟩
      rw [run_script escaped outside named ended] at read
      have reads := reads_of_run State.isOutside_doubleEscaped
        (tagless.mono suffix.isInfix) read
      exact (reads.keeps_depth (unended.mono suffix.isInfix)).2 rfl
  | cons c inside ih =>
    -- The first character is inside the text, so it begins no end tag.
    have first : state.pending ++ [c]
        <:+: state.pending ++ (c :: inside ++ '<' :: (name ++ mark :: rest)) :=
      ⟨[], inside ++ '<' :: (name ++ mark :: rest), by simp⟩
    obtain ⟨next, stepped, follows⟩ := exists_follows outside (tagless.mono first)
    have later := (follows.suffix (inside ++ '<' :: (name ++ mark :: rest))).isInfix
    rw [List.cons_append, run_cons stepped] at read
    -- The character does not end the comment.
    have deep := ((Reads.cons follows (.nil next)).keeps_depth (unended.mono first)).1 deep
    exact ih follows.outside deep (tagless.mono later) (unended.mono later) read

/-- A text that hides a script leaves the element double escaped. -/
theorem doubleEscaped_of_hides {text : List Char} (hides : Hides text) (tagless : Tagless text)
    (read : run .data text = some final) : final.depth = .doubleEscaped := by
  obtain ⟨comment, suffix, ⟨rest, rfl⟩, ⟨inside, name, mark, after, same, named, ended⟩, unended⟩ :=
    hides
  -- The two dashes come before the script.
  obtain ⟨later, rfl⟩ : ∃ later, inside = '-' :: '-' :: later := by
    rcases inside with _ | ⟨first, _ | ⟨second, later⟩⟩
    -- Without two characters in front of it the comment would begin with the script's bracket.
    · cases same
    · cases same
    · cases same
      exact ⟨later, rfl⟩
  obtain rfl : rest = later ++ '<' :: (name ++ mark :: after) := by simpa using same
  have taglessComment : Tagless (['-', '-'] ++ (later ++ '<' :: (name ++ mark :: after))) :=
    (tagless.mono suffix.isInfix).mono (List.suffix_append ['<', '!'] _).isInfix
  obtain ⟨before, rfl⟩ := suffix
  -- Whatever stands before the comment, its start leads into escaped data.
  obtain ⟨middle, ran, -⟩ := exists_reads State.isOutside_data
    -- The text before the comment is read to its end, and its start is read behind it.
    (tagless.mono (List.prefix_append before _).isInfix)
  obtain ⟨dashes, started, outside, deep, pending⟩ := exists_run_commentStart middle
  rw [run_append ran] at read
  change run middle (['<', '!', '-', '-'] ++ _) = _ at read
  rw [run_append started] at read
  exact doubleEscaped_of_begins outside deep named ended (pending ▸ taglessComment)
    (pending ▸ unended) read

/-- A text that leaves the element double escaped hides a script. -/
theorem hides_of_doubleEscaped {text : List Char} (tagless : Tagless text)
    (read : run .data text = some final) (escaped : final.depth = .doubleEscaped) :
    Hides text := by
  by_cases ended : ['-', '-', '>'] <:+: text
  · -- What stands before the end of a comment has no effect on what follows.
    obtain ⟨before, after, same⟩ := ended
    rw [List.append_assoc] at same
    have front : before <:+: text := same ▸ (List.prefix_append ..).isInfix
    have back : after <:+ text := same ▸ ⟨before ++ ['-', '-', '>'], List.append_assoc ..⟩
    obtain ⟨middle, ran, -⟩ := exists_reads State.isOutside_data (tagless.mono front)
    rw [← same, run_append ran, run_append (run_commentEnd middle)] at read
    have shorter : after.length < text.length := by
      rw [← same, List.length_append, List.length_append]
      -- There are three characters more in the text than in what follows the end of the comment.
      exact Nat.lt_of_lt_of_le (Nat.lt_add_of_pos_left (by decide)) (Nat.le_add_left ..)
    exact (hides_of_doubleEscaped (tagless.mono back.isInfix) read escaped).of_suffix back
  · -- No comment is ended, so neither is the one in which the script begins.
    rcases (reads_of_run State.isOutside_data tagless read).of_doubleEscaped escaped with
      double | ⟨single, -⟩ | ⟨comment, inside, dashes, begins⟩
    -- At the start of the text the depth is plain, so only the third of the cases is left.
    · cases double
    · cases single
    · have unended : Unended comment := fun ending => ended
        ((ending.trans (List.suffix_append ['<', '!'] comment).isInfix).trans inside.isInfix)
      exact ⟨comment, inside, dashes, begins, unended⟩
termination_by text.length

/-! ## End tags -/

/-- The end tag of a script element. -/
def endTag : List Char :=
  ['<', '/', 's', 'c', 'r', 'i', 'p', 't', '>']

/-- Outside of scripts in comments the end tag closes the element. -/
theorem closing_endTag (outside : state.IsOutside) (shallow : state.depth ≠ .doubleEscaped)
    (after : List Char) : closing state (endTag ++ after) = some ('>' :: after) := by
  -- In the states that are left, the characters of the end tag lead to the same one.
  cases state <;> first | rfl | exact outside.elim | exact absurd rfl shallow

/-- Inside of a script in a comment the end tag ends that script only. -/
theorem closing_endTag_of_doubleEscaped (outside : state.IsOutside)
    (escaped : state.depth = .doubleEscaped) (after : List Char) :
    closing state (endTag ++ after) = closing .escaped after := by
  -- In a script inside a comment the tag leads back into the comment.
  cases state <;> first | rfl | exact outside.elim | cases escaped

/--
A script element whose content begins no end tag is closed by its own end tag or by a later one.

It is closed by its own end tag unless its content hides a script.
Then its own end tag ends that script, and the element goes on as escaped data.
-/
theorem closing_content {content : List Char} (tagless : Tagless content) (after : List Char) :
    (¬ Hides content → closing .data (content ++ (endTag ++ after)) = some ('>' :: after))
      ∧ (Hides content →
        closing .data (content ++ (endTag ++ after)) = closing .escaped after) := by
  obtain ⟨final, read, -, outside⟩ := exists_reads State.isOutside_data tagless
  -- Where the content is left decides what its end tag does.
  rw [closing_append read]
  constructor
  · intro shown
    have shallow : final.depth ≠ .doubleEscaped := fun escaped =>
      shown (hides_of_doubleEscaped tagless read escaped)
    exact closing_endTag outside shallow after
  · intro hides
    exact closing_endTag_of_doubleEscaped outside (doubleEscaped_of_hides hides tagless read) after

/-- The opening tag of a script element on a line of its own. -/
def nextLine : List Char :=
  ['\n', '<', 's', 'c', 'r', 'i', 'p', 't', '>']

/-- Behind an element that hides a script, the next element is taken for that script again. -/
theorem closing_nextLine {content : List Char} (tagless : Tagless content)
    (unended : Unended content) (after : List Char) :
    closing .escaped (nextLine ++ (content ++ (endTag ++ after))) = closing .escaped after := by
  -- The opening tag is read as the beginning of a script in the comment.
  have opened : run .escaped nextLine = some .doubleEscaped := by
    -- The opening tag is nine characters long, and each of them is read.
    decide
  obtain ⟨final, read, reads, outside⟩ := exists_reads State.isOutside_doubleEscaped tagless
  rw [closing_append opened, closing_append read,
    closing_endTag_of_doubleEscaped outside ((reads.keeps_depth unended).2 rfl)]

end RoomAir.ScriptData
