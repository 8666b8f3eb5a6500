import RoomAir.Proofs.Json.Locality.Numbers
import RoomAir.Proofs.Json.RoundTrip

/-! A value in a document is read by itself, whatever follows that ends a number. -/

namespace RoomAir.Json

/-- What a reader takes, given three steps for each byte and room for as many levels. -/
def TakesInSteps (read : Nat → Nat → Bytes → Except Fault (α × Bytes)) (depth : Nat)
    (used : Bytes) (found : α) : Prop :=
  ∀ fuel deeper rest, 3 * used.length ≤ fuel → depth ≤ deeper → EndsRun isNumberByte rest →
    read fuel deeper (used ++ rest) = .ok (found, rest)

/-! ## White space -/

/-- Whether there is nothing but white space. -/
def IsBlank (bytes : Bytes) : Prop :=
  ∀ byte ∈ bytes, isSpace byte = true

/-- Nothing is white space. -/
theorem isBlank_nil : IsBlank [] := by
  simp [IsBlank]

/-- White space before a token is skipped. -/
theorem skipSpace_append {space : Bytes} (blank : IsBlank space) (rest : Bytes) :
    skipSpace (space ++ rest) = skipSpace rest :=
  List.dropWhile_append_of_pos blank

/-- White space is skipped up to a token. -/
theorem skipSpace_append_cons {space : Bytes} (blank : IsBlank space) {byte : UInt8}
    (token : isSpace byte = false) (rest : Bytes) :
    skipSpace (space ++ byte :: rest) = byte :: rest := by
  -- The white space is skipped, and the token stops the skipping.
  rw [skipSpace_append blank, skipSpace_cons token]

/-- White space with nothing behind it is skipped altogether. -/
theorem skipSpace_eq_nil_iff {bytes : Bytes} : skipSpace bytes = [] ↔ IsBlank bytes :=
  List.dropWhile_eq_nil_iff

/-- The first byte that is no white space has only white space before it. -/
theorem exists_of_skipSpace_eq_cons {byte : UInt8} {bytes rest : Bytes}
    (skipped : skipSpace bytes = byte :: rest) :
    ∃ space, bytes = space ++ byte :: rest ∧ IsBlank space ∧ isSpace byte = false := by
  -- What is skipped is the longest run of white space in front.
  refine ⟨bytes.takeWhile isSpace, ?_, fun space member => List.mem_takeWhile_imp member, ?_⟩
  · rw [← skipped]
    exact List.takeWhile_append_dropWhile.symm
  -- The run ends at a byte that is no white space.
  · have first := List.head?_dropWhile_not isSpace bytes
    rw [show bytes.dropWhile isSpace = byte :: rest from skipped] at first
    simpa using first

/-- White space is no part of a number. -/
theorem isNumberByte_of_isSpace {byte : UInt8} (space : isSpace byte = true) :
    isNumberByte byte = false := by
  -- There are four bytes of white space to look at.
  simp only [isSpace, Bool.or_eq_true, beq_iff_eq] at space
  rcases space with ((rfl | rfl) | rfl) | rfl <;> rfl

/-- White space and a mark end a number. -/
theorem endsRun_space {space : Bytes} (blank : IsBlank space) {mark : Char}
    (closing : mark ∈ [',', ']', '\x7d']) (rest : Bytes) :
    EndsRun isNumberByte (space ++ ascii mark :: rest) := by
  -- The first byte is white space, if there is any, or the mark.
  cases space with
  | nil => exact endsRun_ascii closing rest
  | cons byte space =>
    exact endsRun_cons (isNumberByte_of_isSpace (blank byte (List.mem_cons_self ..))) _

/-! ## What follows a value inside of a list -/

section Steps

variable {fuel depth : Nat} {bytes rest : Bytes}

/-- White space before a value is skipped. -/
theorem readValue_append {space : Bytes} (blank : IsBlank space) (bytes : Bytes) :
    readValue readNumber (fuel + 1) depth (space ++ bytes)
      = readValue readNumber (fuel + 1) depth bytes := by
  -- The reader skips white space first, in front of either.
  rw [readValue, readValue, skipSpace_append blank]

/-- White space before the items of an array is skipped. -/
theorem readItems_append {space : Bytes} (blank : IsBlank space) (bytes : Bytes) :
    readItems readNumber (fuel + 1) depth (space ++ bytes)
      = readItems readNumber (fuel + 1) depth bytes := by
  -- Items are looked for behind the white space.
  rw [readItems, readItems, skipSpace_append blank]

/-- White space before the members of an object is skipped. -/
theorem readMembers_append {space : Bytes} (blank : IsBlank space) (bytes : Bytes) :
    readMembers readNumber (fuel + 1) depth (space ++ bytes)
      = readMembers readNumber (fuel + 1) depth bytes := by
  -- Members are looked for behind the white space.
  rw [readMembers, readMembers, skipSpace_append blank]

/-- Items that were read begin with one, and a bracket or a comma and more items follow it. -/
theorem exists_of_readItemsOn_eq_ok {items : List Json}
    (read : readItemsOn readNumber (fuel + 1) depth bytes = .ok (items, rest)) :
    ∃ item after, readValue readNumber fuel depth bytes = .ok (item, after)
      ∧ ((skipSpace after = ascii ']' :: rest ∧ items = [item])
        ∨ ∃ between next later others, skipSpace after = ascii ',' :: between
          ∧ skipSpace between = next :: later ∧ next ≠ ascii ']'
          ∧ readItemsOn readNumber fuel depth (next :: later) = .ok (others, rest)
          ∧ items = item :: others) := by
  -- The item is read first, and what stands behind it decides how reading goes on.
  rw [readItemsOn] at read
  obtain ⟨⟨item, after⟩, value, done⟩ := exists_of_bind_eq_ok read
  refine ⟨item, after, value, ?_⟩
  dsimp only at done
  split at done
  case h_1 => cases done
  case h_2 byte left skipped =>
    split at done
    -- The bracket ends the items.
    case isTrue bracket =>
      obtain ⟨rfl, rfl⟩ := Prod.mk.inj (Except.ok.inj done)
      exact .inl ⟨by rw [skipped, eq_of_beq bracket], rfl⟩
    case isFalse =>
      split at done
      case isTrue comma =>
        -- Behind the comma something has to follow that is no bracket.
        split at done
        case h_1 => cases done
        case h_2 next later opening =>
          split at done
          case isTrue => cases done
          case isFalse notEnd =>
            obtain ⟨⟨others, last⟩, more, done⟩ := exists_of_bind_eq_ok done
            obtain ⟨rfl, rfl⟩ := Prod.mk.inj (Except.ok.inj done)
            exact .inr ⟨left, next, later, others, by rw [skipped, eq_of_beq comma], opening,
              by simpa using notEnd, more, rfl⟩
      -- Anything else is an error.
      case isFalse => cases done

/-- A colon has only white space before it. -/
theorem exists_of_readColon_eq_ok {found : Unit} (read : readColon bytes = .ok (found, rest)) :
    ∃ space, bytes = space ++ ascii ':' :: rest ∧ IsBlank space := by
  unfold readColon at read
  -- A colon has to be the first byte behind the white space.
  split at read
  case h_1 => cases read
  case h_2 byte left skipped =>
    split at read
    case isFalse => cases read
    case isTrue colon =>
      obtain ⟨space, rfl, blank, -⟩ := exists_of_skipSpace_eq_cons skipped
      obtain rfl := (Prod.mk.inj (Except.ok.inj read)).2
      exact ⟨space, by rw [eq_of_beq colon], blank⟩

/-- A colon is read with the white space before it. -/
theorem readColon_append {space : Bytes} (blank : IsBlank space) (rest : Bytes) :
    readColon (space ++ ascii ':' :: rest) = .ok ((), rest) := by
  -- The first byte behind the white space is the colon.
  rw [readColon, skipSpace_append_cons blank rfl]
  rfl

/-- Members that were read begin with one, and a brace or a comma and more members follow it. -/
theorem exists_of_readMembersOn_eq_ok {members : List (String × Json)}
    (read : readMembersOn readNumber (fuel + 1) depth bytes = .ok (members, rest)) :
    ∃ key afterKey before value after, readString bytes = .ok (key, afterKey)
      ∧ readColon afterKey = .ok ((), before)
      ∧ readValue readNumber fuel depth before = .ok (value, after)
      ∧ ((skipSpace after = ascii '\x7d' :: rest ∧ members = [(key, value)])
        ∨ ∃ between later others, skipSpace after = ascii ',' :: between
          ∧ skipSpace between = ascii '"' :: later
          ∧ readMembersOn readNumber fuel depth later = .ok (others, rest)
          ∧ members = (key, value) :: others) := by
  -- Key, colon and value are read first, and what stands behind them decides.
  rw [readMembersOn] at read
  obtain ⟨⟨key, afterKey⟩, readKey, done⟩ := exists_of_bind_eq_ok read
  obtain ⟨⟨_, before⟩, colon, done⟩ := exists_of_bind_eq_ok done
  obtain ⟨⟨value, after⟩, readValue, done⟩ := exists_of_bind_eq_ok done
  refine ⟨key, afterKey, before, value, after, readKey, colon, readValue, ?_⟩
  dsimp only at done
  split at done
  case h_1 => cases done
  case h_2 byte left skipped =>
    split at done
    -- The brace ends the members.
    case isTrue brace =>
      obtain ⟨rfl, rfl⟩ := Prod.mk.inj (Except.ok.inj done)
      exact .inl ⟨by rw [skipped, eq_of_beq brace], rfl⟩
    case isFalse =>
      split at done
      case isTrue comma =>
        -- Behind the comma the next key has to open.
        split at done
        case h_1 => cases done
        case h_2 next later opening =>
          split at done
          case isTrue quote =>
            obtain ⟨⟨others, last⟩, more, done⟩ := exists_of_bind_eq_ok done
            obtain ⟨rfl, rfl⟩ := Prod.mk.inj (Except.ok.inj done)
            exact .inr ⟨left, later, others, by rw [skipped, eq_of_beq comma],
              by rw [opening, eq_of_beq quote], more, rfl⟩
          -- Behind a comma anything but a quote is an error.
          case isFalse => split at done <;> cases done
      case isFalse => cases done

end Steps

/-! ## Values that hold no other values -/

/-- The letters of a word are read by themselves. -/
theorem exists_takes_readWord {word value : Json} {letters : List Char} {bytes rest : Bytes}
    (read : readWord word letters bytes = .ok (value, rest)) :
    ∃ used, bytes = used ++ rest ∧ Takes (readWord word letters) used value := by
  induction letters generalizing bytes with
  -- There are no letters left, and nothing is taken.
  | nil =>
    obtain ⟨rfl, rfl⟩ := Prod.mk.inj (Except.ok.inj read)
    exact ⟨[], rfl, fun rest => rfl⟩
  | cons letter letters ih =>
    -- A letter of the word has to be there.
    cases bytes with
    | nil => cases read
    | cons byte after =>
      rw [readWord] at read
      split at read
      case isFalse => cases read
      -- The byte is the letter, and the other letters are taken behind it.
      case isTrue same =>
        obtain ⟨used, rfl, takes⟩ := ih read
        refine ⟨byte :: used, rfl, fun rest => ?_⟩
        rw [List.cons_append, readWord, if_pos same]
        exact takes rest

/-- A value that holds no other value is read by itself after its first byte. -/
theorem exists_takesNumber_readScalar {byte : UInt8} {bytes rest : Bytes} {value : Json}
    (read : readScalar readNumber byte bytes = .ok (value, rest)) :
    ∃ used, bytes = used ++ rest ∧ TakesNumber (readScalar readNumber byte) used value := by
  -- A word says by its first letter which one it is.
  have word {letters : List Char} {value' : Json}
      (isWord : ∀ later, readScalar readNumber byte later = readWord value' letters later) :
      ∃ used, bytes = used ++ rest ∧ TakesNumber (readScalar readNumber byte) used value := by
    rw [isWord] at read
    obtain ⟨used, rfl, takes⟩ := exists_takes_readWord read
    exact ⟨used, rfl, fun later _ => by rw [isWord, takes]⟩
  -- Each word is told by its first letter; what is none of them is read by the other branches.
  by_cases isNull : (byte == ascii 'n') = true
  · exact word fun later => by rw [readScalar, if_pos isNull]
  by_cases isTrue : (byte == ascii 't') = true
  · exact word fun later => by rw [readScalar, if_neg isNull, if_pos isTrue]
  by_cases isFalse : (byte == ascii 'f') = true
  · exact word fun later => by rw [readScalar, if_neg isNull, if_neg isTrue, if_pos isFalse]
  -- What begins none of the words is a number or a string.
  have others (later : Bytes) : readScalar readNumber byte later
      = if byte == ascii '-' then readNumber true later
        else if isDigit byte then readNumber false (byte :: later)
        else if byte == ascii '"' then
          (readString later).bind fun found => .ok (.string found.1, found.2)
        else .error ⟨.expectedValue, later⟩ := by
    rw [readScalar, if_neg isNull, if_neg isTrue, if_neg isFalse]
    rfl
  rw [others] at read
  split at read
  -- The sign has been read, and the number is taken behind it.
  case isTrue minus =>
    obtain ⟨used, rfl, -, takes⟩ := exists_takesNumber_readNumber read
    exact ⟨used, rfl, fun later ends => by rw [others, if_pos minus, takes later ends]⟩
  case isFalse noMinus =>
    split at read
    case isTrue digit =>
      -- The first digit is read again as part of the number.
      obtain ⟨used, same, filled, takes⟩ := exists_takesNumber_readNumber read
      obtain ⟨first, more, rfl⟩ := List.exists_cons_of_ne_nil filled
      obtain ⟨rfl, rfl⟩ := List.cons.inj same
      refine ⟨more, rfl, fun later ends => ?_⟩
      rw [others, if_neg noMinus, if_pos digit]
      exact takes later ends
    case isFalse noDigit =>
      -- Anything else has to be a string.
      split at read
      case isFalse => cases read
      case isTrue quote =>
        -- A string is taken up to its closing quote, whatever follows.
        obtain ⟨⟨text, left⟩, inner, done⟩ := exists_of_bind_eq_ok read
        obtain ⟨rfl, rfl⟩ := Prod.mk.inj (Except.ok.inj done)
        obtain ⟨used, rfl, takes⟩ := exists_takes_readString inner
        refine ⟨used, rfl, fun later _ => ?_⟩
        rw [others, if_neg noMinus, if_neg noDigit, if_pos quote, takes later]
        rfl

/-! ## Putting together what is taken -/

namespace TakesInSteps

variable {depth : Nat} {used front inner name space gap : Bytes} {value item : Json}
  {items : List Json} {key : String} {members : List (String × Json)}

/-- White space before a value is taken with it. -/
theorem spaced (blank : IsBlank space)
    (takes : TakesInSteps (readValue readNumber) depth used value) :
    TakesInSteps (readValue readNumber) depth (space ++ used) value := by
  intro fuel deeper rest enough deep ends
  rw [List.length_append] at enough
  have read := takes fuel deeper rest (by omega) deep ends
  -- Without steps no value is read.
  cases fuel with
  | zero => rw [readValue] at read; cases read
  | succ fuel => rw [List.append_assoc, readValue_append blank, read]

/-- A value that holds no other value nests at no level. -/
theorem scalar {byte : UInt8} (token : isSpace byte = false) (notArray : byte ≠ ascii '[')
    (notObject : byte ≠ ascii '\x7b')
    (takes : TakesNumber (readScalar readNumber byte) used value) :
    TakesInSteps (readValue readNumber) depth (byte :: used) value := by
  intro fuel deeper rest enough deep ends
  rw [List.length_cons] at enough
  -- There is a step for the value, since it has a byte at least.
  obtain ⟨steps, rfl⟩ : ∃ less, fuel = less + 1 := ⟨fuel - 1, by omega⟩
  rw [List.cons_append, readValue_scalar token notArray notObject]
  exact takes rest ends

/-- An array takes its items one level further down. -/
theorem array (deep : 1 < depth)
    (takes : TakesInSteps (fun fuel => readItems readNumber (fuel + 1)) (depth - 1) used items) :
    TakesInSteps (readValue readNumber) depth (ascii '[' :: used) (.array items) := by
  intro fuel deeper rest enough deepEnough ends
  rw [List.length_cons] at enough
  -- The opening bracket pays for two steps.
  obtain ⟨steps, rfl⟩ : ∃ less, fuel = less + 2 := ⟨fuel - 2, by omega⟩
  exact readValue_array (by omega) (takes steps (deeper - 1) rest (by omega) (by omega) ends)

/-- An object takes its members one level further down. -/
theorem object (deep : 1 < depth)
    (takes : TakesInSteps (fun fuel => readMembers readNumber (fuel + 1)) (depth - 1) used
      members) :
    TakesInSteps (readValue readNumber) depth (ascii '\x7b' :: used) (.object members) := by
  intro fuel deeper rest enough deepEnough ends
  rw [List.length_cons] at enough
  -- The opening brace pays for two steps.
  obtain ⟨steps, rfl⟩ : ∃ less, fuel = less + 2 := ⟨fuel - 2, by omega⟩
  exact readValue_object (by omega) (takes steps (deeper - 1) rest (by omega) (by omega) ends)

/-- Without items there is only the closing bracket. -/
theorem noItems (blank : IsBlank space) :
    TakesInSteps (fun fuel => readItems readNumber (fuel + 1)) depth (space ++ [ascii ']']) [] := by
  -- The bracket is found behind the white space.
  intro fuel deeper rest _ _ _
  simp only [List.append_assoc, List.singleton_append]
  rw [readItems_append blank, readItems_nil]

/-- Items that do not begin with the closing bracket are taken up to it. -/
theorem someItems {byte : UInt8} (blank : IsBlank space) (token : isSpace byte = false)
    (notEnd : byte ≠ ascii ']')
    (takes : TakesInSteps (readItemsOn readNumber) depth (byte :: used) items) :
    TakesInSteps (fun fuel => readItems readNumber (fuel + 1)) depth (space ++ byte :: used)
      items := by
  intro fuel deeper rest enough deep ends
  rw [List.length_append] at enough
  -- The white space takes no step of its own.
  have read := takes fuel deeper rest (by omega) deep ends
  dsimp only
  rw [List.append_assoc, readItems_append blank]
  rw [List.cons_append] at read ⊢
  rw [readItems_cons token notEnd, read]

/-- Without members there is only the closing brace. -/
theorem noMembers (blank : IsBlank space) :
    TakesInSteps (fun fuel => readMembers readNumber (fuel + 1)) depth
      (space ++ [ascii '\x7d']) [] := by
  -- The brace is found behind the white space.
  intro fuel deeper rest _ _ _
  simp only [List.append_assoc, List.singleton_append]
  rw [readMembers_append blank, readMembers_nil]

/-- Members are taken after the quote that opens the first key. -/
theorem someMembers (blank : IsBlank space)
    (takes : TakesInSteps (readMembersOn readNumber) depth used members) :
    TakesInSteps (fun fuel => readMembers readNumber (fuel + 1)) depth
      (space ++ ascii '"' :: used) members := by
  intro fuel deeper rest enough deep ends
  rw [List.length_append, List.length_cons] at enough
  dsimp only
  -- The quote of the first key is found behind the white space.
  rw [List.append_assoc, List.cons_append, readMembers_append blank, readMembers_cons]
  exact takes fuel deeper rest (by omega) deep ends

/-- The last item is taken with the closing bracket. -/
theorem lastItem (takes : TakesInSteps (readValue readNumber) depth front item)
    (blank : IsBlank space) :
    TakesInSteps (readItemsOn readNumber) depth (front ++ (space ++ [ascii ']'])) [item] := by
  intro fuel deeper rest enough deep ends
  simp only [List.length_append, List.length_singleton] at enough
  -- The bracket pays for the step that reads the item.
  obtain ⟨steps, rfl⟩ : ∃ less, fuel = less + 1 := ⟨fuel - 1, by omega⟩
  simp only [List.append_assoc, List.singleton_append]
  exact readItemsOn_last (takes steps deeper _ (by omega) deep
    (endsRun_space blank (by decide) rest)) (skipSpace_append_cons blank rfl _)

/-- An item is taken with the comma behind it and the other items. -/
theorem moreItems {next : UInt8} (takes : TakesInSteps (readValue readNumber) depth front item)
    (blank : IsBlank space) (gapBlank : IsBlank gap) (token : isSpace next = false)
    (notEnd : next ≠ ascii ']')
    (others : TakesInSteps (readItemsOn readNumber) depth (next :: inner) items) :
    TakesInSteps (readItemsOn readNumber) depth
      (front ++ (space ++ ascii ',' :: (gap ++ next :: inner))) (item :: items) := by
  intro fuel deeper rest enough deep ends
  simp only [List.length_append, List.length_cons] at enough
  -- The comma pays for the step that reads the item.
  obtain ⟨steps, rfl⟩ : ∃ less, fuel = less + 1 := ⟨fuel - 1, by omega⟩
  simp only [List.append_assoc, List.cons_append]
  exact readItemsOn_more (takes steps deeper _ (by omega) deep
    (endsRun_space blank (by decide) _)) (skipSpace_append_cons blank rfl _)
    (skipSpace_append_cons gapBlank token _) notEnd
    (others steps deeper rest (by rw [List.length_cons]; omega) deep ends)

/-- The last member is its key, a colon, its value and the closing brace. -/
theorem lastMember (takesKey : Takes readString name key) (gapBlank : IsBlank gap)
    (takes : TakesInSteps (readValue readNumber) depth front value) (blank : IsBlank space) :
    TakesInSteps (readMembersOn readNumber) depth
      (name ++ (gap ++ ascii ':' :: (front ++ (space ++ [ascii '\x7d'])))) [(key, value)] := by
  intro fuel deeper rest enough deep ends
  simp only [List.length_append, List.length_cons, List.length_nil] at enough
  -- The brace pays for the step that reads the member.
  obtain ⟨steps, rfl⟩ : ∃ less, fuel = less + 1 := ⟨fuel - 1, by omega⟩
  simp only [List.append_assoc, List.cons_append, List.nil_append]
  exact readMembersOn_last (takesKey _) (readColon_append gapBlank _)
    (takes steps deeper _ (by omega) deep (endsRun_space blank (by decide) rest))
    (skipSpace_append_cons blank rfl _)

/-- A member is taken with the comma behind it, the quote of the next key and the other members. -/
theorem moreMembers {quoteGap : Bytes} (takesKey : Takes readString name key)
    (gapBlank : IsBlank gap) (takes : TakesInSteps (readValue readNumber) depth front value)
    (blank : IsBlank space) (quoteBlank : IsBlank quoteGap)
    (others : TakesInSteps (readMembersOn readNumber) depth inner members) :
    TakesInSteps (readMembersOn readNumber) depth
      (name ++ (gap ++ ascii ':' :: (front ++ (space ++ ascii ','
        :: (quoteGap ++ ascii '"' :: inner))))) ((key, value) :: members) := by
  intro fuel deeper rest enough deep ends
  simp only [List.length_append, List.length_cons] at enough
  -- The comma pays for the step that reads the member.
  obtain ⟨steps, rfl⟩ : ∃ less, fuel = less + 1 := ⟨fuel - 1, by omega⟩
  simp only [List.append_assoc, List.cons_append]
  exact readMembersOn_more (takesKey _) (readColon_append gapBlank _)
    (takes steps deeper _ (by omega) deep (endsRun_space blank (by decide) _))
    (skipSpace_append_cons blank rfl _) (skipSpace_append_cons quoteBlank rfl _)
    (others steps deeper rest (by omega) deep ends)

end TakesInSteps

/-! ## All values -/

/-- Values that are read in so many steps are read by themselves. -/
def ValuesLocal (fuel : Nat) : Prop :=
  ∀ {depth : Nat} {bytes rest : Bytes} {value : Json},
    readValue readNumber fuel depth bytes = .ok (value, rest) →
    ∃ used, bytes = used ++ rest ∧ used ≠ [] ∧ TakesInSteps (readValue readNumber) depth used value

/-- The items of an array, and its closing bracket, are read by themselves. -/
def ItemsLocal (fuel : Nat) : Prop :=
  ∀ {depth : Nat} {bytes rest : Bytes} {items : List Json},
    readItemsOn readNumber fuel depth bytes = .ok (items, rest) →
    ∃ used, bytes = used ++ rest ∧ used ≠ []
      ∧ TakesInSteps (readItemsOn readNumber) depth used items

/-- The members of an object, and its closing brace, are read by themselves. -/
def MembersLocal (fuel : Nat) : Prop :=
  ∀ {depth : Nat} {bytes rest : Bytes} {members : List (String × Json)},
    readMembersOn readNumber fuel depth bytes = .ok (members, rest) →
    ∃ used, bytes = used ++ rest ∧ TakesInSteps (readMembersOn readNumber) depth used members

section Lists

variable {fuel depth : Nat} {bytes rest : Bytes}

/-- An array is read by itself after its opening bracket where its items are. -/
theorem exists_readItems (itemsLocal : ∀ less < fuel, ItemsLocal less) {items : List Json}
    (read : readItems readNumber fuel depth bytes = .ok (items, rest)) :
    ∃ used, bytes = used ++ rest
      ∧ TakesInSteps (fun fuel => readItems readNumber (fuel + 1)) depth used items := by
  cases fuel with
  -- Without steps nothing is read.
  | zero => rw [readItems] at read; cases read
  | succ fuel =>
    rw [readItems] at read
    split at read
    case h_1 => cases read
    case h_2 byte left skipped =>
      obtain ⟨space, rfl, blank, token⟩ := exists_of_skipSpace_eq_cons skipped
      split at read
      -- The closing bracket is found right away.
      case isTrue bracket =>
        obtain ⟨rfl, rfl⟩ := Prod.mk.inj (Except.ok.inj read)
        obtain rfl := eq_of_beq bracket
        exact ⟨space ++ [ascii ']'], by simp, .noItems blank⟩
      -- Items are taken up to the bracket.
      case isFalse notEnd =>
        obtain ⟨used, same, filled, takes⟩ := itemsLocal fuel (Nat.lt_succ_self fuel) read
        obtain ⟨first, inner, rfl⟩ := List.exists_cons_of_ne_nil filled
        obtain ⟨rfl, rfl⟩ := List.cons.inj same
        exact ⟨space ++ byte :: inner, by simp,
          .someItems blank token (by simpa using notEnd) takes⟩

/-- An object is read by itself after its opening brace where its members are. -/
theorem exists_readMembers (membersLocal : ∀ less < fuel, MembersLocal less)
    {members : List (String × Json)}
    (read : readMembers readNumber fuel depth bytes = .ok (members, rest)) :
    ∃ used, bytes = used ++ rest
      ∧ TakesInSteps (fun fuel => readMembers readNumber (fuel + 1)) depth used members := by
  cases fuel with
  -- Without steps nothing is read.
  | zero => rw [readMembers] at read; cases read
  | succ fuel =>
    rw [readMembers] at read
    split at read
    case h_1 => cases read
    case h_2 byte left skipped =>
      obtain ⟨space, rfl, blank, token⟩ := exists_of_skipSpace_eq_cons skipped
      split at read
      -- The closing brace is found right away.
      case isTrue brace =>
        obtain ⟨rfl, rfl⟩ := Prod.mk.inj (Except.ok.inj read)
        obtain rfl := eq_of_beq brace
        exact ⟨space ++ [ascii '\x7d'], by simp, .noMembers blank⟩
      case isFalse =>
        split at read
        case isFalse => cases read
        -- The quote opens the first key, and members are taken up to the brace.
        case isTrue quote =>
          obtain rfl := eq_of_beq quote
          obtain ⟨used, rfl, takes⟩ := membersLocal fuel (Nat.lt_succ_self fuel) read
          exact ⟨space ++ ascii '"' :: used, by simp, .someMembers blank takes⟩

/-- A value is read by itself where the items and members in it are. -/
theorem valuesLocal_of (itemsLocal : ∀ less < fuel, ItemsLocal less)
    (membersLocal : ∀ less < fuel, MembersLocal less) : ValuesLocal fuel := by
  intro depth bytes rest value read
  cases fuel with
  -- Without steps nothing is read.
  | zero => rw [readValue] at read; cases read
  | succ fuel =>
    rw [readValue] at read
    split at read
    case h_1 => cases read
    case h_2 byte left skipped =>
      obtain ⟨space, rfl, blank, token⟩ := exists_of_skipSpace_eq_cons skipped
      -- White space and the first byte are taken in every case.
      have taken {inner : Bytes} (same : left = inner ++ rest)
          (takes : TakesInSteps (readValue readNumber) depth (byte :: inner) value) :
          ∃ used, space ++ byte :: left = used ++ rest ∧ used ≠ []
            ∧ TakesInSteps (readValue readNumber) depth used value :=
        ⟨space ++ byte :: inner, by simp [same], by simp, takes.spaced blank⟩
      split at read
      -- An array is entered if the depth allows it, and its items are read by themselves.
      case isTrue bracket =>
        split at read
        case isTrue => cases read
        case isFalse deep =>
          obtain ⟨⟨items, last⟩, inside, done⟩ := exists_of_bind_eq_ok read
          obtain ⟨rfl, rfl⟩ := Prod.mk.inj (Except.ok.inj done)
          obtain rfl := eq_of_beq bracket
          obtain ⟨used, same, takes⟩ :=
            exists_readItems (fun less small => itemsLocal less (by omega)) inside
          exact taken same (.array (by omega) takes)
      case isFalse noArray =>
        split at read
        -- So is an object, with its members.
        case isTrue brace =>
          split at read
          case isTrue => cases read
          case isFalse deep =>
            obtain ⟨⟨members, last⟩, inside, done⟩ := exists_of_bind_eq_ok read
            obtain ⟨rfl, rfl⟩ := Prod.mk.inj (Except.ok.inj done)
            obtain rfl := eq_of_beq brace
            obtain ⟨used, same, takes⟩ :=
              exists_readMembers (fun less small => membersLocal less (by omega)) inside
            exact taken same (.object (by omega) takes)
        -- Any other value holds no values.
        case isFalse noObject =>
          obtain ⟨used, same, takes⟩ := exists_takesNumber_readScalar read
          exact taken same (.scalar token (by simpa using noArray) (by simpa using noObject) takes)

/-- Items are read by themselves where each of them is, one after the other. -/
theorem itemsLocal_succ (valuesLocal : ValuesLocal fuel) (itemsLocal : ItemsLocal fuel) :
    ItemsLocal (fuel + 1) := by
  intro depth bytes rest items read
  -- The item is read by itself, and then what follows it.
  obtain ⟨item, after, value, follows⟩ := exists_of_readItemsOn_eq_ok read
  obtain ⟨front, rfl, -, takes⟩ := valuesLocal value
  rcases follows with ⟨closing, rfl⟩
    | ⟨between, next, later, others, comma, opening, notEnd, more, rfl⟩
  · -- White space may stand before the closing bracket.
    obtain ⟨space, rfl, blank, -⟩ := exists_of_skipSpace_eq_cons closing
    exact ⟨front ++ (space ++ [ascii ']']), by simp, by simp, takes.lastItem blank⟩
  · -- So it may on both sides of a comma.
    obtain ⟨space, rfl, blank, -⟩ := exists_of_skipSpace_eq_cons comma
    obtain ⟨gap, rfl, gapBlank, token⟩ := exists_of_skipSpace_eq_cons opening
    obtain ⟨back, same, filled, goesOn⟩ := itemsLocal more
    obtain ⟨first, inner, rfl⟩ := List.exists_cons_of_ne_nil filled
    obtain ⟨rfl, rfl⟩ := List.cons.inj same
    exact ⟨front ++ (space ++ ascii ',' :: (gap ++ next :: inner)), by simp, by simp,
      takes.moreItems blank gapBlank token notEnd goesOn⟩

/-- Members are read by themselves where each of their values is, one after the other. -/
theorem membersLocal_succ (valuesLocal : ValuesLocal fuel) (membersLocal : MembersLocal fuel) :
    MembersLocal (fuel + 1) := by
  intro depth bytes rest members read
  -- Key, colon and value are each read by themselves, and then what follows them.
  obtain ⟨key, afterKey, before, value, after, readKey, colon, inside, follows⟩ :=
    exists_of_readMembersOn_eq_ok read
  obtain ⟨name, rfl, takesKey⟩ := exists_takes_readString readKey
  obtain ⟨gap, rfl, gapBlank⟩ := exists_of_readColon_eq_ok colon
  obtain ⟨front, rfl, -, takes⟩ := valuesLocal inside
  rcases follows with ⟨closing, rfl⟩ | ⟨between, later, others, comma, opening, more, rfl⟩
  · -- The brace comes after the key, the colon and the value.
    obtain ⟨space, rfl, blank, -⟩ := exists_of_skipSpace_eq_cons closing
    exact ⟨name ++ (gap ++ ascii ':' :: (front ++ (space ++ [ascii '\x7d']))), by simp,
      takes.lastMember takesKey gapBlank blank⟩
  · -- After a comma the quote of the next key is taken as well.
    obtain ⟨space, rfl, blank, -⟩ := exists_of_skipSpace_eq_cons comma
    obtain ⟨quoteGap, rfl, quoteBlank, -⟩ := exists_of_skipSpace_eq_cons opening
    obtain ⟨back, rfl, goesOn⟩ := membersLocal more
    exact ⟨name ++ (gap ++ ascii ':' :: (front ++ (space ++ ascii ',' ::
      (quoteGap ++ ascii '"' :: back)))), by simp,
      takes.moreMembers takesKey gapBlank blank quoteBlank goesOn⟩

/-- Whatever is read in any number of steps is read by itself. -/
theorem allLocal (fuel : Nat) : ValuesLocal fuel ∧ ItemsLocal fuel ∧ MembersLocal fuel := by
  induction fuel using Nat.strongRecOn with
  | _ fuel ih =>
    -- A list is entered with two steps at once, so the induction looks back further than one.
    have values : ValuesLocal fuel := valuesLocal_of (fun less smaller => (ih less smaller).2.1)
      fun less smaller => (ih less smaller).2.2
    cases fuel with
    | zero =>
      -- Without steps neither items nor members are read.
      refine ⟨values, fun read => ?_, fun read => ?_⟩
      · rw [readItemsOn] at read; cases read
      · rw [readMembersOn] at read; cases read
    | succ fuel =>
      obtain ⟨valuesLocal, itemsLocal, membersLocal⟩ := ih fuel (Nat.lt_succ_self fuel)
      exact ⟨values, itemsLocal_succ valuesLocal itemsLocal,
        membersLocal_succ valuesLocal membersLocal⟩

end Lists

end RoomAir.Json
