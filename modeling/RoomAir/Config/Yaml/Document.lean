import RoomAir.Config.Yaml.Node
import RoomAir.Config.Yaml.Scan

/-! YAML documents: nodes put together from tokens. -/

namespace RoomAir.Yaml

/-- What is left to read of a document, and what has been named in it. -/
structure Reader where
  tokens : List Token
  /-- What the handles of tags stand for. -/
  handles : List (String × String)
  /-- The numbers of anchors, the last one of a name first. -/
  anchors : List (String × Nat)
  /-- The nodes of anchors by their numbers, as far as they are complete. -/
  nodes : List (Nat × Node)

namespace Reader

/-- The token that comes next. -/
def head (reader : Reader) : Option Token :=
  reader.tokens.head?

/-- The reader after one token. -/
def next (reader : Reader) : Reader :=
  { reader with tokens := reader.tokens.drop 1 }

/-- Gives an anchor the next number. -/
def declare (name : String) (reader : Reader) : Nat × Reader :=
  let number := reader.anchors.length
  (number, { reader with anchors := (name, number) :: reader.anchors })

/-- The node that an alias stands for, which has no value before it is complete. -/
def resolve? (name : String) (reader : Reader) : Option Node :=
  (reader.anchors.lookup name).map fun number => (reader.nodes.lookup number).getD .invalid

/-- Completes the node of an anchor. -/
def complete (anchor : Option Nat) (node : Node) (reader : Reader) : Reader :=
  match anchor with
  | some number => { reader with nodes := (number, node) :: reader.nodes }
  | none => reader

/-- The tag that a handle and what follows it stand for; a closed handle must be declared. -/
def tag? (handle suffix : String) (reader : Reader) : Option Node.Tag :=
  match reader.handles.lookup handle with
  | some space => some ⟨space, suffix⟩
  | none =>
    if handle = "!!" then some ⟨Node.commonTags, suffix⟩
    else if isClosed handle.toList then none
    else some ⟨handle, suffix⟩

/-- The anchor and the tag in front of a node, in either order. -/
def properties? (reader : Reader) : Option (Option Nat × Option Node.Tag × Reader) := do
  match reader.tokens with
  | .anchor name :: .tag handle suffix :: _ =>
    let (number, reader) := reader.declare name
    some (some number, some (← reader.tag? handle suffix), reader.next.next)
  | .tag handle suffix :: .anchor name :: _ =>
    let tag ← reader.tag? handle suffix
    let (number, reader) := reader.declare name
    some (some number, some tag, reader.next.next)
  | .anchor name :: _ =>
    let (number, reader) := reader.declare name
    some (some number, none, reader.next)
  | .tag handle suffix :: _ => some (none, some (← reader.tag? handle suffix), reader.next)
  | _ => some (none, none, reader)

end Reader

/-! ## Nodes -/

/-- Whether a part of a block mapping is missing before a token. -/
def endsBlockPart (token : Option Token) : Bool :=
  token = some .key || token = some .value || token = some .blockEnd

/-- Whether a value of a flow collection is missing before a token. -/
def endsFlowPart (close : Token) (token : Option Token) : Bool :=
  token = some .comma || token = some close

mutual

/-- A node: `block` says whether one in block style may come, and `indentless` whether a sequence
may come whose dashes are not indented. -/
def node? : Nat → Bool → Bool → Reader → Option (Node × Reader)
  | 0, _, _, _ => none
  | fuel + 1, block, indentless, reader =>
    match reader.head with
    | some (.alias name) => (reader.resolve? name).map fun node => (node, reader.next)
    | _ => do
      let (anchor, tag, reader) ← reader.properties?
      let (node, reader) ← match reader.head with
        | some (.scalar isPlain content) => some (Node.ofScalar isPlain tag content, reader.next)
        | some .bracketOpen => do
          let (items, reader) ← flowItems? fuel true reader.next
          some (.sequence items, reader)
        | some .braceOpen => do
          let (pairs, reader) ← flowPairs? fuel true .empty reader.next
          some (.mapping pairs.entries, reader)
        | head => do
          if head = some .dash ∧ indentless then
            let (items, reader) ← dashes? fuel reader
            some (.sequence items, reader)
          else if head = some .sequenceStart ∧ block then
            let (items, reader) ← blockItems? fuel reader.next
            some (.sequence items, reader)
          else if head = some .mappingStart ∧ block then
            let (pairs, reader) ← blockPairs? fuel .empty reader.next
            some (.mapping pairs.entries, reader)
          else if anchor.isSome ∨ tag.isSome then some (Node.ofScalar true tag "", reader)
          else none
      some (node, reader.complete anchor node)

/-- The items of a block sequence up to its end. -/
def blockItems? : Nat → Reader → Option (List Node × Reader)
  | 0, _ => none
  | fuel + 1, reader =>
    match reader.head with
    | some .blockEnd => some ([], reader.next)
    | some .dash => do
      let reader := reader.next
      let isMissing := reader.head = some .dash ∨ reader.head = some .blockEnd
      let (item, reader) ← if isMissing then some (.null, reader) else node? fuel true false reader
      let (items, reader) ← blockItems? fuel reader
      some (item :: items, reader)
    | _ => none

/-- The items of a sequence whose dashes are not indented. -/
def dashes? : Nat → Reader → Option (List Node × Reader)
  | 0, _ => none
  | fuel + 1, reader =>
    if reader.head ≠ some .dash then some ([], reader)
    else do
      let reader := reader.next
      let isMissing := reader.head = some .dash ∨ endsBlockPart reader.head
      let (item, reader) ← if isMissing then some (.null, reader) else node? fuel true false reader
      let (items, reader) ← dashes? fuel reader
      some (item :: items, reader)

/-- The pairs of a block mapping up to its end. -/
def blockPairs? : Nat → Node.Pairs → Reader → Option (Node.Pairs × Reader)
  | 0, _, _ => none
  | fuel + 1, pairs, reader =>
    match reader.head with
    | some .blockEnd => some (pairs, reader.next)
    | some .key => do
      let reader := reader.next
      let (key, reader) ←
        if endsBlockPart reader.head then some (.null, reader) else node? fuel true true reader
      blockValue? fuel (← pairs.take? key) reader
    -- A value without a key has none that means anything.
    | some .value => do blockValue? fuel (← pairs.take? .null) reader
    | _ => none

/-- The value of a block mapping's key, which may be missing, and the pairs after it. -/
def blockValue? : Nat → Node.Pairs → Reader → Option (Node.Pairs × Reader)
  | 0, _, _ => none
  | fuel + 1, pairs, reader => do
    let (value, reader) ←
      if reader.head ≠ some .value then some (.null, reader)
      else if endsBlockPart reader.next.head then some (.null, reader.next)
      else node? fuel true true reader.next
    blockPairs? fuel (← pairs.take? value) reader

/-- The items of a flow sequence up to its closing bracket, `first` saying whether none came. -/
def flowItems? : Nat → Bool → Reader → Option (List Node × Reader)
  | 0, _, _ => none
  | fuel + 1, first, reader =>
    if reader.head = some .bracketClose then some ([], reader.next)
    else do
      let reader ←
        if first then some reader
        else if reader.head = some .comma then some reader.next
        else none
      if reader.head = some .bracketClose then some ([], reader.next)
      else
        let (item, reader) ←
          if reader.head = some .key then flowPair? fuel reader.next
          else node? fuel false false reader
        let (items, reader) ← flowItems? fuel false reader
        some (item :: items, reader)

/-- The only pair of a mapping in a flow sequence, after its mark. -/
def flowPair? : Nat → Reader → Option (Node × Reader)
  | 0, _ => none
  | fuel + 1, reader => do
    let isMissing := reader.head = some .value ∨ endsFlowPart .bracketClose reader.head
    let (key, reader) ←
      if isMissing then some (.null, reader.next) else node? fuel false false reader
    let (value, reader) ←
      if reader.head ≠ some .value then some (.null, reader)
      else if endsFlowPart .bracketClose reader.next.head then some (.null, reader.next)
      else node? fuel false false reader.next
    let pairs ← (← Node.Pairs.empty.take? key).take? value
    some (.mapping pairs.entries, reader)

/-- The pairs of a flow mapping up to its closing brace, `first` saying whether none came. -/
def flowPairs? : Nat → Bool → Node.Pairs → Reader → Option (Node.Pairs × Reader)
  | 0, _, _, _ => none
  | fuel + 1, first, pairs, reader =>
    if reader.head = some .braceClose then some (pairs, reader.next)
    else do
      let reader ←
        if first then some reader
        else if reader.head = some .comma then some reader.next
        else none
      match reader.head with
      | some .braceClose => some (pairs, reader.next)
      | some .key => do
        let reader := reader.next
        let isMissing := reader.head = some .value ∨ endsFlowPart .braceClose reader.head
        let (key, reader) ←
          if isMissing then some (.null, reader) else node? fuel false false reader
        flowValue? fuel (← pairs.take? key) reader
      | some .value => flowValue? fuel (← pairs.take? .null) reader
      | _ => do
        let (key, reader) ← node? fuel false false reader
        flowPairs? fuel false (← (← pairs.take? key).take? .null) reader

/-- The value of a flow mapping's key, which may be missing, and the pairs after it. -/
def flowValue? : Nat → Node.Pairs → Reader → Option (Node.Pairs × Reader)
  | 0, _, _ => none
  | fuel + 1, pairs, reader => do
    let (value, reader) ←
      if reader.head ≠ some .value then some (.null, reader)
      else if endsFlowPart .braceClose reader.next.head then some (.null, reader.next)
      else node? fuel false false reader.next
    flowPairs? fuel false (← pairs.take? value) reader

end

/-! ## Documents -/

/-- What the handles of tags stand for after directives, the last of which alone counts, whether
there are directives, and the tokens after them; there is one version at most. -/
def directives? : Bool → List (String × String) → Bool → List Token →
    Option (List (String × String) × Bool × List Token)
  | versioned, _, _, .version :: tokens =>
    if versioned then none else directives? true [] true tokens
  | versioned, _, _, .handle name expansion :: tokens =>
    directives? versioned [(name, expansion)] true tokens
  | _, handles, found, tokens => some (handles, found, tokens)

/-- Whether a token is not part of a document's content. -/
def isBetweenDocuments : Option Token → Bool
  | none => true
  | some .version => true
  | some (.handle ..) => true
  | some .documentStart => true
  | some .documentEnd => true
  | _ => false

/-- The node that a document's tokens make, nothing being left of them but marks of its end. -/
def document? (tokens : List Token) : Option Node := do
  let (handles, hasDirectives, tokens) ← directives? false [] false tokens
  let isMarked := tokens.head? = some .documentStart
  if hasDirectives && !isMarked then none
  else
    let reader : Reader := ⟨if isMarked then tokens.drop 1 else tokens, handles, [], []⟩
    let (node, reader) ←
      if isMarked && isBetweenDocuments reader.head then some (.null, reader)
      else node? (4 * reader.tokens.length + 4) true false reader
    if reader.tokens.all (· = .documentEnd) then some node else none

/-- The entries of the only document of a text, which is a mapping; without one there are none. -/
def read? (text : String) : Option (List (String × Config)) := do
  let tokens := (← tokens? text.toList).dropWhile (· = .documentEnd)
  if tokens.isEmpty then some []
  else match ← (← document? tokens).toConfig? with
    | .table entries => some entries
    | _ => none

end RoomAir.Yaml
