import Mathlib.Data.List.DropRight
import RoomAir.Proofs.Json.Locality.Values

/-! Comma-separated values between brackets are read as a list, which may be put together. -/

namespace RoomAir.Json

/-- One value or more with a comma between each two, given which texts are values. -/
inductive Listing (isValue : Bytes → Json → Prop) : Bytes → List Json → Prop
  | last {text : Bytes} {value : Json} : isValue text value → Listing isValue text [value]
  | more {text later : Bytes} {value : Json} {values : List Json} : isValue text value →
    Listing isValue later values → Listing isValue (text ++ ascii ',' :: later) (value :: values)

/-- The text of a whole document that is the given value. -/
def IsDocument (text : Bytes) (value : Json) : Prop :=
  read text = .ok value

/-- The text of a value that nests at most so deep, with any white space around it. -/
def IsValue (depth : Nat) (text : Bytes) (value : Json) : Prop :=
  ∃ used space, text = used ++ space ∧ used ≠ [] ∧ IsBlank space
    ∧ TakesInSteps (readValue readNumber) depth used value

/-- The text of an array whose items are listed. -/
def bracketed (text : Bytes) : Bytes :=
  ascii '[' :: (text ++ [ascii ']'])

/-- Two listings with a comma between them are one listing. -/
theorem Listing.append {isValue : Bytes → Json → Prop} {first second : Bytes}
    {firstValues secondValues : List Json} (one : Listing isValue first firstValues)
    (two : Listing isValue second secondValues) :
    Listing isValue (first ++ ascii ',' :: second) (firstValues ++ secondValues) := by
  -- The induction moves the comma past the values of the first listing.
  induction one with
  | last value => exact .more value two
  | more value later ih =>
    rw [List.append_assoc, List.cons_append]
    exact .more value ih

/-- A listing of values of one kind is one of any kind that includes them. -/
theorem Listing.mono {isValue isOther : Bytes → Json → Prop} {text : Bytes} {values : List Json}
    (listing : Listing isValue text values)
    (includes : ∀ {text value}, isValue text value → isOther text value) :
    Listing isOther text values := by
  -- Each value of the listing is one of the other kind, and the commas stay where they are.
  induction listing with
  | last value => exact .last (includes value)
  | more value _ ih => exact .more (includes value) ih

/-- Bytes are taken in one way only. -/
theorem TakesInSteps.unique {read : Nat → Nat → Bytes → Except Fault (α × Bytes)}
    {depth otherDepth : Nat} {used other rest otherRest : Bytes} {found otherFound : α}
    (takes : TakesInSteps read depth used found)
    (otherTakes : TakesInSteps read otherDepth other otherFound)
    (same : used ++ rest = other ++ otherRest) (ends : EndsRun isNumberByte rest)
    (otherEnds : EndsRun isNumberByte otherRest) :
    found = otherFound ∧ used = other ∧ rest = otherRest := by
  -- Enough steps and levels for both readings are given to each of them.
  have one := takes (3 * used.length + 3 * other.length) (max depth otherDepth) rest (by omega)
    (Nat.le_max_left ..) ends
  have two := otherTakes (3 * used.length + 3 * other.length) (max depth otherDepth) otherRest
    (by omega) (Nat.le_max_right ..) otherEnds
  rw [same, two] at one
  obtain ⟨rfl, rfl⟩ := Prod.mk.inj (Except.ok.inj one)
  exact ⟨rfl, List.append_cancel_right same, rfl⟩

/-- A document is read as its value with nothing but white space behind it. -/
theorem IsDocument.exists_readValue {text : Bytes} {value : Json}
    (document : IsDocument text value) :
    ∃ rest, readValue readNumber (stepsFor text) depthLimit text = .ok (value, rest)
      ∧ IsBlank rest := by
  -- The result is looked at: either it failed, or it is a value with something behind it.
  rw [IsDocument, read] at document
  cases found : readValue readNumber (stepsFor text) depthLimit text with
  | error fault => rw [found] at document; cases document
  | ok taken =>
    obtain ⟨whole, rest⟩ := taken
    rw [found] at document
    simp only [Except.bind, complete] at document
    split at document
    -- White space only is left behind the value, so the whole document is read.
    case h_1 blank =>
      obtain rfl := Except.ok.inj document
      exact ⟨rest, rfl, skipSpace_eq_nil_iff.mp blank⟩
    case h_2 => cases document

/-- A document is a value that nests at most as deep as the limit. -/
theorem IsDocument.isValue {text : Bytes} {value : Json} (document : IsDocument text value) :
    IsValue depthLimit text value := by
  -- What is read is taken from the bytes in front, and what is left is white space.
  obtain ⟨rest, read, blank⟩ := document.exists_readValue
  obtain ⟨used, rfl, filled, takes⟩ := (allLocal _).1 read
  exact ⟨used, rest, rfl, filled, blank, takes⟩

/-- A value that nests at most so deep nests at most deeper. -/
theorem IsValue.mono {depth deeper : Nat} {text : Bytes} {value : Json}
    (isValue : IsValue depth text value) (deep : depth ≤ deeper) : IsValue deeper text value := by
  -- Where a depth is enough, any greater one is.
  obtain ⟨used, space, same, filled, blank, takes⟩ := isValue
  exact ⟨used, space, same, filled, blank, fun fuel deepest rest enough deepEnough ends =>
    takes fuel deepest rest enough (Nat.le_trans deep deepEnough) ends⟩

section Items

variable {fuel depth : Nat} {text bytes rest left : Bytes} {values items : List Json}

/-! ## White space before items -/

/-- Without a step for the items and one for the first of them nothing is read. -/
theorem two_le_of_readItemsOn (read : readItemsOn readNumber fuel depth bytes = .ok (items, rest)) :
    ∃ less, fuel = less + 2 := by
  rcases fuel with _ | _ | fuel
  -- Without any step nothing is read, and with one step the first value is not.
  · rw [readItemsOn] at read
    cases read
  · rw [readItemsOn, readValue] at read
    cases read
  · exact ⟨fuel, rfl⟩

/-- White space before the first item makes no difference. -/
theorem readItemsOn_skipSpace :
    readItemsOn readNumber fuel depth (skipSpace bytes) = .ok (items, rest)
      ↔ readItemsOn readNumber fuel depth bytes = .ok (items, rest) := by
  -- Once skipped, there is no more white space to skip.
  have again : skipSpace (skipSpace bytes) = skipSpace bytes :=
    List.dropWhile_idempotent isSpace bytes
  -- Both sides skip it, one step further down, where the first value begins.
  have same (less : Nat) : readItemsOn readNumber (less + 2) depth (skipSpace bytes)
      = readItemsOn readNumber (less + 2) depth bytes := by
    rw [readItemsOn, readItemsOn, readValue, readValue, again]
  constructor
  · intro read
    obtain ⟨less, rfl⟩ := two_le_of_readItemsOn read
    rw [← same, read]
  · intro read
    obtain ⟨less, rfl⟩ := two_le_of_readItemsOn read
    rw [same, read]

/-- Items begin with something that is neither white space nor a closing bracket. -/
theorem exists_of_readItemsOn (read : readItemsOn readNumber fuel depth bytes = .ok (items, rest)) :
    ∃ byte later, skipSpace bytes = byte :: later ∧ byte ≠ ascii ']'
      ∧ readItemsOn readNumber fuel depth (byte :: later) = .ok (items, rest) := by
  rw [← readItemsOn_skipSpace] at read
  obtain ⟨fuel, rfl⟩ := two_le_of_readItemsOn read
  cases skipped : skipSpace bytes with
  -- There is nothing to be read, so reading fails.
  | nil =>
    rw [skipped, readItemsOn, readValue] at read
    cases read
  | cons byte later =>
    -- The first byte behind the white space is where the items begin.
    rw [skipped] at read
    refine ⟨byte, later, rfl, ?_, read⟩
    -- A bracket begins no value.
    rintro rfl
    rw [readItemsOn, readValue_scalar rfl (by decide) (by decide)] at read
    cases read

/-- Items that can be read are read after an opening bracket. -/
theorem readItems_of_readItemsOn
    (read : readItemsOn readNumber fuel depth bytes = .ok (items, rest)) :
    readItems readNumber (fuel + 1) depth bytes = .ok (items, rest) := by
  obtain ⟨byte, later, skipped, notEnd, read⟩ := exists_of_readItemsOn read
  rw [readItems, skipped]
  dsimp only
  -- Behind the opening bracket the reader looks for the closing one and does not find it.
  rw [if_neg (by simpa using notEnd), read]

/-! ## Reading a listing -/

/-- A listing is read up to the bracket behind it. -/
theorem Listing.readItemsOn (listing : Listing (IsValue depth) text values)
    (enough : 3 * text.length < fuel) (rest : Bytes) :
    Json.readItemsOn readNumber fuel depth (text ++ ascii ']' :: rest) = .ok (values, rest) := by
  induction listing generalizing fuel with
  | last value =>
    -- The last value is followed by its white space and the bracket.
    obtain ⟨used, space, rfl, -, blank, takes⟩ := value
    obtain ⟨fuel, rfl⟩ : ∃ less, fuel = less + 1 := ⟨fuel - 1, by omega⟩
    rw [List.length_append] at enough
    rw [List.append_assoc]
    exact readItemsOn_last (takes fuel depth _ (by omega) (Nat.le_refl _)
      (endsRun_space blank (by decide) rest)) (skipSpace_append_cons blank rfl rest)
  | @more text tail value values isValue others ih =>
    obtain ⟨used, space, rfl, -, blank, takes⟩ := isValue
    obtain ⟨fuel, rfl⟩ : ∃ less, fuel = less + 1 := ⟨fuel - 1, by omega⟩
    simp only [List.length_append, List.length_cons] at enough
    -- The values behind the comma are read from the first byte that is no white space.
    have fewer : 3 * tail.length < fuel := by omega
    obtain ⟨next, later, opening, notEnd, more⟩ := exists_of_readItemsOn (ih fewer)
    simp only [List.append_assoc, List.cons_append]
    exact readItemsOn_more (takes fuel depth _ (by omega) (Nat.le_refl _)
      (endsRun_space blank (by decide) _)) (skipSpace_append_cons blank rfl _) opening notEnd more

/-- A document before a mark is the value that is read there. -/
theorem IsDocument.of_readValue {value item : Json} {after : Bytes} {mark found : Char}
    (document : IsDocument text value) (closing : mark ∈ [',', ']', '\x7d'])
    (read : readValue readNumber fuel depth (text ++ ascii mark :: rest) = .ok (item, after))
    (foundClosing : found ∈ [',', ']', '\x7d']) (follows : skipSpace after = ascii found :: left) :
    item = value ∧ ascii found :: left = ascii mark :: rest ∧ IsValue depth text value := by
  obtain ⟨used, space, rfl, filled, blank, takes⟩ := document.isValue
  obtain ⟨front, same, -, frontTakes⟩ := (allLocal _).1 read
  obtain ⟨gap, rfl, gapBlank, -⟩ := exists_of_skipSpace_eq_cons follows
  rw [List.append_assoc] at same
  -- What the value takes by itself is what it takes before the mark.
  obtain ⟨rfl, rfl, others⟩ := takes.unique frontTakes same (endsRun_space blank closing rest)
    (endsRun_space gapBlank foundClosing left)
  refine ⟨rfl, ?_, used, space, rfl, filled, blank, frontTakes⟩
  have token : ∀ mark ∈ [',', ']', '\x7d'], isSpace (ascii mark) = false :=
    forall_mem_of_all (by decide)
  -- The marks are the same, because both are what stands behind the white space.
  rw [← skipSpace_append_cons gapBlank (token found foundClosing), ← others,
    skipSpace_append_cons blank (token mark closing)]

/-- The documents of a listing are what is read from it, where they nest no deeper than allowed. -/
theorem Listing.of_readItemsOn (listing : Listing IsDocument text values)
    (read : Json.readItemsOn readNumber fuel depth (text ++ ascii ']' :: rest)
      = .ok (items, left)) :
    items = values ∧ left = rest ∧ Listing (IsValue depth) text values := by
  induction listing generalizing fuel items with
  | last document =>
    obtain ⟨fuel, rfl⟩ := two_le_of_readItemsOn read
    obtain ⟨item, after, value, follows⟩ := exists_of_readItemsOn_eq_ok read
    rcases follows with ⟨closing, rfl⟩ | ⟨between, next, later, others, comma, -⟩
    · obtain ⟨rfl, same, isValue⟩ :=
        document.of_readValue (by decide) value (by decide) closing
      exact ⟨rfl, (List.cons.inj same).2, .last isValue⟩
    · -- The bracket behind the last document is no comma.
      obtain ⟨-, same, -⟩ := document.of_readValue (by decide) value (by decide) comma
      -- That bracket is what the reader finds behind the item, and a comma is something else.
      exact absurd (List.cons.inj same).1 (by decide)
  | more document others ih =>
    obtain ⟨fuel, rfl⟩ := two_le_of_readItemsOn read
    obtain ⟨item, after, value, follows⟩ := exists_of_readItemsOn_eq_ok read
    rw [List.append_assoc, List.cons_append] at value
    rcases follows with ⟨closing, rfl⟩ | ⟨between, next, later, found, comma, opening, -, more, rfl⟩
    -- Behind a document that is not the last stands a comma and no bracket.
    · obtain ⟨-, same, -⟩ :=
        document.of_readValue (by decide) value (by decide) closing
      exact absurd (List.cons.inj same).1 (by decide)
    · obtain ⟨rfl, same, isValue⟩ :=
        document.of_readValue (by decide) value (by decide) comma
      obtain rfl := (List.cons.inj same).2
      -- What follows the comma is read from its first byte that is no white space.
      rw [← opening, readItemsOn_skipSpace] at more
      obtain ⟨rfl, rfl, listed⟩ := ih more
      exact ⟨rfl, rfl, .more isValue listed⟩

/-! ## Whole arrays -/

variable {quote : String → String}

/-- A document is an array where the reader takes everything behind its opening bracket. -/
theorem TakesInSteps.readArray {inner : Bytes}
    (takes : TakesInSteps (fun fuel => readItems readNumber (fuel + 1)) (depthLimit - 1) inner
      items) :
    Json.readArray quote (ascii '[' :: inner) = .ok items := by
  -- The bracket pays for the steps that enter the array.
  have enough : 3 * inner.length ≤ stepsFor (ascii '[' :: inner) - 1 := by
    simp only [stepsFor, List.length_cons]
    omega
  have steps : stepsFor (ascii '[' :: inner) - 1 + 1 = stepsFor (ascii '[' :: inner) := by
    simp only [stepsFor]
    omega
  have read := takes _ (depthLimit - 1) [] enough (Nat.le_refl _) (endsRun_nil _)
  dsimp only at read
  rw [steps, List.append_nil] at read
  rw [Json.readArray, readTopArray, skipSpace_cons rfl]
  dsimp only
  rw [if_pos BEq.rfl, read]
  rfl

/-- A listing between brackets is read as its values. -/
theorem Listing.readArray (listing : Listing (IsValue (depthLimit - 1)) text values) :
    Json.readArray quote (bracketed text) = .ok values := by
  refine TakesInSteps.readArray fun fuel deeper rest enough deep _ => ?_
  -- The depth at which the items are read may be greater than what they need.
  have deeperListing := listing.mono fun isValue => isValue.mono deep
  rw [List.length_append, List.length_singleton] at enough
  rw [List.append_assoc]
  exact readItems_of_readItemsOn (deeperListing.readItemsOn (by omega) rest)

/-- A listing of documents does not begin with a closing bracket. -/
theorem Listing.exists_skipSpace_eq_cons (listing : Listing IsDocument text values)
    (rest : Bytes) :
    ∃ byte later, skipSpace (text ++ ascii ']' :: rest) = byte :: later ∧ byte ≠ ascii ']' := by
  -- Read as items, the listing begins with something other than the bracket.
  have read := (listing.mono IsDocument.isValue).readItemsOn (Nat.lt_succ_self _) rest
  obtain ⟨byte, later, skipped, notEnd, -⟩ := exists_of_readItemsOn read
  exact ⟨byte, later, skipped, notEnd⟩

/-- Documents listed between brackets are what is read there, if anything is. -/
theorem Listing.of_readArray (listing : Listing IsDocument text values)
    (read : Json.readArray quote (bracketed text) = .ok items) :
    items = values ∧ Listing (IsValue (depthLimit - 1)) text values := by
  rw [Json.readArray, readTopArray, bracketed, skipSpace_cons rfl] at read
  dsimp only at read
  rw [if_pos BEq.rfl, ← bracketed] at read
  -- What the reader makes of the items decides what it makes of the array.
  cases found : readItems readNumber (stepsFor (bracketed text)) (depthLimit - 1)
      (text ++ [ascii ']']) with
  | error fault => rw [found] at read; cases read
  | ok taken =>
    obtain ⟨whole, left⟩ := taken
    rw [found] at read
    obtain ⟨byte, later, skipped, notEnd⟩ := listing.exists_skipSpace_eq_cons []
    have steps : stepsFor (bracketed text) = stepsFor (bracketed text) - 1 + 1 := by
      simp only [stepsFor]
      omega
    -- The items are read from their first byte, and they are all there is.
    rw [steps, readItems, skipped] at found
    dsimp only at found
    rw [if_neg (by simpa using notEnd), ← skipped, readItemsOn_skipSpace] at found
    obtain ⟨rfl, rfl, listed⟩ := listing.of_readItemsOn found
    exact ⟨(Except.ok.inj read).symm, listed⟩

end Items

end RoomAir.Json
