import RoomAir.Proofs.Json.Listing

/-! A written value is read back where its numbers are, to whatever depth lists may nest in it. -/

namespace RoomAir.Json

/-- Whatever is written from a value is read as that value, nesting at most so deep. -/
def ReadsBack (depth : Nat) (value : Json) : Prop :=
  ∀ bytes, Written value.chars bytes → TakesInSteps (readValue readNumber) depth bytes value

/-- The text of a double is read as that double. -/
def Survives (x : Double) : Prop :=
  IsDocument (Utf8.encode x.jsonText) (.number x)

/-- Whether what was read is the given number. -/
def isNumber (x : Double) : Except JsonError Json → Bool
  | .ok (.number found) => found == x
  | _ => false

/-- The test finds out whether the given number was read and nothing else. -/
theorem isNumber_iff {x : Double} {result : Except JsonError Json} :
    isNumber x result = true ↔ result = .ok (.number x) := by
  constructor
  -- Only a number that is equal passes the test.
  · intro same
    unfold isNumber at same
    split at same
    case h_1 => rw [eq_of_beq same]
    case h_2 => cases same
  -- The number is equal to itself.
  · rintro rfl
    exact beq_self_eq_true x

instance : DecidablePred Survives :=
  fun _ => decidable_of_iff _ isNumber_iff

/-- A text without a backslash at any stroke is one way to write it. -/
theorem written_self (text : List Char) : Written text (text.flatMap Utf8.encodeChar) := by
  -- No stroke gets a backslash, so each character stands for itself.
  refine ⟨text, ?_, rfl⟩
  induction text with
  | nil => exact .nil
  | cons c text ih => exact .same c ih

/-! ## Values that hold no other values -/

section Scalars

variable {depth : Nat}

/-- The word for nothing is read back. -/
theorem readsBack_null : ReadsBack depth .null := by
  intro bytes written
  -- There is no stroke in the word, so it is written in one way.
  rw [written.eq_of_notMem (by decide)]
  have word : TakesNumber (readScalar readNumber (ascii 'n')) ("ull".toList.flatMap Utf8.encodeChar)
    .null := fun rest _ => rfl
  exact .scalar rfl (by decide) (by decide) word

/-- Strings are read back, whatever characters they have. -/
theorem readsBack_string (text : String) : ReadsBack depth (.string text) := by
  intro bytes written
  -- The content of the string is read up to its closing quote, whatever it holds.
  obtain ⟨inner, rfl, read⟩ := exists_quoted_bytes written
  refine .scalar rfl (by decide) (by decide) fun rest _ => ?_
  change (readString _).bind _ = _
  rw [read]
  rfl

/-- A double that survives by itself survives inside of any list. -/
theorem readsBack_number {x : Double} (survives : Survives x) : ReadsBack depth (.number x) := by
  intro bytes written
  -- A number has no stroke in it, so it is written in one way.
  have none : '/' ∉ x.jsonText.toList :=
    stroke_notMem_of_isNumberChar fun _ => isNumberChar_of_mem_jsonText
  have same : bytes = Utf8.encode x.jsonText := written.eq_of_notMem none
  -- All its bytes are bytes of a number.
  have inNumber : ∀ byte ∈ bytes, isNumberByte byte = true := by
    rw [same, Utf8.encode, flatMap_encodeChar_of_ascii fun c member =>
      (isNumberByte_ascii (isNumberChar_of_mem_jsonText member)).1]
    intro byte member
    obtain ⟨c, inside, rfl⟩ := List.mem_map.mp member
    exact (isNumberByte_ascii (isNumberChar_of_mem_jsonText inside)).2
  obtain ⟨byte, more, rfl, token, -⟩ := exists_bytes_eq_cons written
  have first := inNumber byte (List.mem_cons_self ..)
  -- Its first byte is one of a number, so it opens no list.
  have notArray : byte ≠ ascii '[' := by rintro rfl; cases first
  have notObject : byte ≠ ascii '\x7b' := by rintro rfl; cases first
  -- Its text opens no list, so the depth at which it is read makes no difference.
  obtain ⟨rest, read, blank⟩ := survives.exists_readValue
  rw [← same, show stepsFor (byte :: more) = 3 * (byte :: more).length + 2 + 1 from rfl,
    readValue_scalar token notArray notObject] at read
  obtain ⟨used, rfl, takes⟩ := exists_takesNumber_readScalar read
  -- Nothing of it is white space, so nothing of it is left over.
  have ended : rest = [] := by
    refine List.eq_nil_iff_forall_not_mem.mpr fun byte member => ?_
    have inside := inNumber byte (List.mem_cons_of_mem _ (List.mem_append_right used member))
    rw [isNumberByte_of_isSpace (blank byte member)] at inside
    cases inside
  rw [ended, List.append_nil]
  exact .scalar token notArray notObject takes

end Scalars

/-! ## Lists -/

section Lists

variable {depth : Nat} {bytes : Bytes}

/-- Items are read back where each of them is. -/
theorem takes_items {item : Json} {items : List Json}
    (readBack : ∀ each ∈ item :: items, ReadsBack depth each)
    (written : Written (itemChars (item :: items)) bytes) :
    TakesInSteps (readItemsOn readNumber) depth (bytes ++ [ascii ']']) (item :: items) := by
  induction items generalizing item bytes with
  | nil =>
    -- The last item is followed by the closing bracket.
    rw [itemChars] at written
    exact (readBack item (List.mem_cons_self ..) bytes written).lastItem isBlank_nil
  | cons next items ih =>
    -- The item before the comma is a value, and those after it are fewer items.
    obtain ⟨front, back, rfl, first, others⟩ := Written.separated (by decide) written
    have later := ih (fun later member => readBack later (List.mem_cons_of_mem _ member)) others
    obtain ⟨byte, more, rfl, token, notEnd⟩ := exists_itemBytes_eq_cons others
    rw [List.append_assoc]
    have goesOn := (readBack item (List.mem_cons_self ..) front first).moreItems isBlank_nil
      isBlank_nil token notEnd later
    exact goesOn

/-- What is between the brackets of an array is read back where its items are. -/
theorem takes_inArray {items : List Json} (readBack : ∀ item ∈ items, ReadsBack depth item)
    (written : Written (itemChars items) bytes) :
    TakesInSteps (fun fuel => readItems readNumber (fuel + 1)) depth (bytes ++ [ascii ']'])
      items := by
  cases items with
  -- Without items the bracket closes right away.
  | nil =>
    rw [written.eq_nil]
    exact .noItems isBlank_nil
  | cons item items =>
    -- The first item begins with neither white space nor the bracket.
    have takes := takes_items readBack written
    obtain ⟨byte, more, rfl, token, notEnd⟩ := exists_itemBytes_eq_cons written
    have some := TakesInSteps.someItems isBlank_nil token notEnd takes
    exact some

/-- The text of an array is read as its items. -/
theorem readArray_text {quote : String → String} {items : List Json}
    (readBack : ∀ item ∈ items, ReadsBack (depthLimit - 1) item) :
    readArray quote (Utf8.encode (Json.array items).text) = .ok items := by
  -- The text has no backslashes at its strokes.
  have written := written_self (Json.array items).chars
  rw [chars] at written
  obtain ⟨inner, same, content⟩ := written.enclosed (by decide) (by decide)
  -- The two brackets enclose what the items are written as.
  have document : Utf8.encode (Json.array items).text = ascii '[' :: (inner ++ [ascii ']']) := by
    rw [← same, Utf8.encode, text, String.toList_ofList, chars]
  rw [document]
  exact (takes_inArray readBack content).readArray

/-- Members are read back where each of their values is. -/
theorem takes_members {member : String × Json} {members : List (String × Json)} {inner : Bytes}
    (readBack : ∀ each ∈ member :: members, ReadsBack depth each.2)
    (written : Written (memberChars (member :: members)) (ascii '"' :: inner)) :
    TakesInSteps (readMembersOn readNumber) depth (inner ++ [ascii '\x7d'])
      (member :: members) := by
  induction members generalizing member inner with
  | nil =>
    obtain ⟨key, value⟩ := member
    -- The closing brace follows the value.
    obtain ⟨keyBytes, valueBytes, same, readKey, content⟩ := exists_member_bytes written
    obtain rfl := (List.cons.inj same).2
    rw [List.append_assoc]
    have last := (readBack (key, value) (List.mem_cons_self ..) valueBytes content).lastMember
      readKey isBlank_nil isBlank_nil
    exact last
  | cons next members ih =>
    obtain ⟨key, value⟩ := member
    -- Before the comma stands one member, and after it the next key opens with a quote.
    obtain ⟨front, back, same, first, others⟩ := Written.separated (by decide) written
    obtain ⟨keyBytes, valueBytes, rfl, readKey, content⟩ := exists_member_bytes first
    obtain ⟨later, rfl⟩ := exists_memberBytes_eq_cons others
    rw [List.cons_append] at same
    obtain rfl := (List.cons.inj same).2
    have more := ih (fun later member => readBack later (List.mem_cons_of_mem _ member)) others
    simp only [List.append_assoc, List.cons_append]
    have goesOn := (readBack (key, value) (List.mem_cons_self ..) valueBytes content).moreMembers
      readKey isBlank_nil isBlank_nil isBlank_nil more
    exact goesOn

/-- An object is read back where the values of its members are. -/
theorem readsBack_object {members : List (String × Json)} (deep : 1 < depth)
    (readBack : ∀ member ∈ members, ReadsBack (depth - 1) member.2) :
    ReadsBack depth (.object members) := by
  intro bytes written
  rw [chars] at written
  -- Only the content between the two braces is left to be read.
  obtain ⟨inner, rfl, content⟩ := written.enclosed (by decide) (by decide)
  refine .object deep ?_
  cases members with
  -- Without members the brace closes right away.
  | nil =>
    rw [content.eq_nil]
    exact .noMembers isBlank_nil
  | cons member members =>
    -- The first key opens with its quote.
    obtain ⟨later, rfl⟩ := exists_memberBytes_eq_cons content
    exact .someMembers isBlank_nil (takes_members readBack content)

end Lists

end RoomAir.Json
