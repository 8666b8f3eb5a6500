import RoomAir.Proofs.Json.Scalars

/-! JSON values that were written read back as the values they were. -/

namespace RoomAir.Json

/-! ## What a reader does with a list -/

section Steps

variable {numbers : NumberReader} {fuel depth : Nat} {bytes rest : Bytes}

/-- An array is read where its items are, with one level less to go. -/
theorem readValue_array {items : List Json} (deep : 1 < depth)
    (read : readItems numbers fuel (depth - 1) bytes = .ok (items, rest)) :
    readValue numbers (fuel + 1) depth (ascii '[' :: bytes) = .ok (.array items, rest) := by
  -- The first byte decides, and the level that is entered has to be there.
  rw [readValue, skipSpace_cons rfl]
  simp only [BEq.rfl, if_true]
  rw [if_neg (by omega), read]
  rfl

/-- An object is read where its members are, with one level less to go. -/
theorem readValue_object {members : List (String × Json)} (deep : 1 < depth)
    (read : readMembers numbers fuel (depth - 1) bytes = .ok (members, rest)) :
    readValue numbers (fuel + 1) depth (ascii '\x7b' :: bytes) = .ok (.object members, rest) := by
  -- The first byte is no bracket, so it is compared with the brace.
  rw [readValue, skipSpace_cons rfl]
  dsimp only
  rw [if_neg (by decide), if_pos BEq.rfl, if_neg (by omega), read]
  rfl

/-- The closing bracket behind the opening one leaves no items. -/
theorem readItems_nil :
    readItems numbers (fuel + 1) depth (ascii ']' :: rest) = .ok ([], rest) := by
  -- The bracket is no white space, so it is the byte that is looked at.
  rw [readItems, skipSpace_cons rfl]
  rfl

/-- What does not close an array is its first item. -/
theorem readItems_cons {byte : UInt8} (token : isSpace byte = false) (notEnd : byte ≠ ascii ']')
    (bytes : Bytes) : readItems numbers (fuel + 1) depth (byte :: bytes)
      = readItemsOn numbers fuel depth (byte :: bytes) := by
  -- The reader skips nothing and does not find the bracket.
  rw [readItems, skipSpace_cons token]
  dsimp only
  rw [if_neg (by simpa using notEnd)]

/-- The item before the closing bracket is the last one. -/
theorem readItemsOn_last {item : Json} {after : Bytes}
    (read : readValue numbers fuel depth bytes = .ok (item, after))
    (closing : skipSpace after = ascii ']' :: rest) :
    readItemsOn numbers (fuel + 1) depth bytes = .ok ([item], rest) := by
  -- Behind the item the bracket is found, and reading ends there.
  rw [readItemsOn, read]
  simp only [bind, Except.bind]
  rw [closing]
  rfl

/-- After a comma more items follow. -/
theorem readItemsOn_more {item : Json} {items : List Json} {next : UInt8}
    {after between later : Bytes}
    (read : readValue numbers fuel depth bytes = .ok (item, after))
    (comma : skipSpace after = ascii ',' :: between) (opening : skipSpace between = next :: later)
    (notEnd : next ≠ ascii ']')
    (others : readItemsOn numbers fuel depth (next :: later) = .ok (items, rest)) :
    readItemsOn numbers (fuel + 1) depth bytes = .ok (item :: items, rest) := by
  -- Behind the comma the next item must begin, not the closing bracket.
  rw [readItemsOn, read]
  simp only [bind, Except.bind]
  rw [comma]
  dsimp only
  rw [if_neg (by decide), if_pos BEq.rfl, opening]
  dsimp only
  rw [if_neg (by simpa using notEnd), others]

/-- The closing brace behind the opening one leaves no members. -/
theorem readMembers_nil :
    readMembers numbers (fuel + 1) depth (ascii '\x7d' :: rest) = .ok ([], rest) := by
  -- The brace is no white space, so it is the byte that is looked at.
  rw [readMembers, skipSpace_cons rfl]
  rfl

/-- A quote opens the key of the first member. -/
theorem readMembers_cons (bytes : Bytes) :
    readMembers numbers (fuel + 1) depth (ascii '"' :: bytes)
      = readMembersOn numbers fuel depth bytes := by
  -- The quote is no white space, and it is no brace.
  rw [readMembers, skipSpace_cons rfl]
  rfl

/-- The member before the closing brace is the last one. -/
theorem readMembersOn_last {key : String} {value : Json} {afterKey before after : Bytes}
    (readKey : readString bytes = .ok (key, afterKey))
    (colon : readColon afterKey = .ok ((), before))
    (read : readValue numbers fuel depth before = .ok (value, after))
    (closing : skipSpace after = ascii '\x7d' :: rest) :
    readMembersOn numbers (fuel + 1) depth bytes = .ok ([(key, value)], rest) := by
  -- A key, a colon and a value are read before the brace is seen.
  rw [readMembersOn, readKey]
  simp only [bind, Except.bind, colon, read]
  rw [closing]
  rfl

/-- After a comma more members follow. -/
theorem readMembersOn_more {key : String} {value : Json} {members : List (String × Json)}
    {afterKey before after between later : Bytes}
    (readKey : readString bytes = .ok (key, afterKey))
    (colon : readColon afterKey = .ok ((), before))
    (read : readValue numbers fuel depth before = .ok (value, after))
    (comma : skipSpace after = ascii ',' :: between)
    (opening : skipSpace between = ascii '"' :: later)
    (others : readMembersOn numbers fuel depth later = .ok (members, rest)) :
    readMembersOn numbers (fuel + 1) depth bytes = .ok ((key, value) :: members, rest) := by
  -- Behind the comma the next key must open with a quote.
  rw [readMembersOn, readKey]
  simp only [bind, Except.bind, colon, read]
  rw [comma]
  dsimp only
  rw [if_neg (by decide), if_pos BEq.rfl, opening]
  dsimp only
  rw [if_pos BEq.rfl, others]

end Steps

/-! ## How lists begin and end -/

/-- What follows an item or a member ends a number. -/
theorem endsRun_ascii {mark : Char} (closing : mark ∈ [',', ']', '\x7d']) (rest : Bytes) :
    EndsRun isNumberByte (ascii mark :: rest) := by
  -- None of the three marks may stand in a number.
  have all : ∀ mark ∈ [',', ']', '\x7d'], isNumberByte (ascii mark) = false :=
    forall_mem_of_all (by decide)
  exact endsRun_cons (all mark closing) rest

/-- The text of some items begins with that of the first one. -/
theorem exists_itemChars (item : Json) (items : List Json) :
    ∃ tail, itemChars (item :: items) = item.chars ++ tail := by
  -- A single item is written with nothing behind it.
  cases items with
  | nil => exact ⟨[], by rw [itemChars, List.append_nil]⟩
  | cons next items => exact ⟨_, rfl⟩

/-- The text of some members begins with the first key. -/
theorem exists_memberChars (member : String × Json) (members : List (String × Json)) :
    ∃ tail, memberChars (member :: members) = quotedChars member.1 ++ tail := by
  -- Whatever follows the key stands behind it, in a single member and in the first of several.
  cases members with
  | nil => exact ⟨_, rfl⟩
  | cons next members => exact ⟨_, List.append_assoc ..⟩

/-- The bytes of written items begin as the first item does. -/
theorem exists_itemBytes_eq_cons {item : Json} {items : List Json} {bytes : Bytes}
    (written : Written (itemChars (item :: items)) bytes) :
    ∃ byte more, bytes = byte :: more ∧ isSpace byte = false ∧ byte ≠ ascii ']' := by
  -- The first item is written before everything else.
  obtain ⟨tail, same⟩ := exists_itemChars item items
  rw [same] at written
  obtain ⟨front, back, rfl, first, -⟩ := written.append
  obtain ⟨byte, more, rfl, token⟩ := exists_bytes_eq_cons first
  exact ⟨byte, more ++ back, rfl, token⟩

/-- The bytes of written members begin with a quote. -/
theorem exists_memberBytes_eq_cons {member : String × Json} {members : List (String × Json)}
    {bytes : Bytes} (written : Written (memberChars (member :: members)) bytes) :
    ∃ inner, bytes = ascii '"' :: inner := by
  -- The first key is written before everything else.
  obtain ⟨tail, same⟩ := exists_memberChars member members
  rw [same] at written
  obtain ⟨front, back, rfl, key, -⟩ := written.append
  obtain ⟨inner, rfl, -⟩ := exists_quoted_bytes key
  exact ⟨inner ++ back, rfl⟩

/-- A written member is its key, a colon and its value. -/
theorem exists_member_bytes {key : String} {value : Json} {bytes : Bytes}
    (written : Written (quotedChars key ++ ':' :: value.chars) bytes) :
    ∃ inner valueBytes, bytes = ascii '"' :: (inner ++ ascii ':' :: valueBytes)
      ∧ (∀ rest, readString (inner ++ rest) = .ok (key, rest))
      ∧ Written value.chars valueBytes := by
  -- The colon is outside of the key, whatever the key holds.
  obtain ⟨front, valueBytes, rfl, first, second⟩ := written.separated (by decide)
  obtain ⟨inner, rfl, read⟩ := exists_quoted_bytes first
  exact ⟨inner, valueBytes, rfl, read, second⟩

/-! ## All values -/

/-- Values are read back in so many steps, three for each byte being enough. -/
def ValuesRead (fuel : Nat) : Prop :=
  ∀ {value : Json} {bytes : Bytes} (rest : Bytes) (depth : Nat),
    Written value.chars bytes → EndsRun isNumberByte rest →
    3 * bytes.length ≤ fuel → bytes.length ≤ depth →
    readValue readExactNumber fuel depth (bytes ++ rest) = .ok (value, rest)

/-- The items of an array are read back in so many steps. -/
def ItemsRead (fuel : Nat) : Prop :=
  ∀ {item : Json} {items : List Json} {bytes : Bytes} (rest : Bytes) (depth : Nat),
    Written (itemChars (item :: items)) bytes →
    3 * bytes.length < fuel → bytes.length ≤ depth →
    readItemsOn readExactNumber fuel depth (bytes ++ ascii ']' :: rest)
      = .ok (item :: items, rest)

/-- The members of an object are read back in so many steps, the first quote being gone. -/
def MembersRead (fuel : Nat) : Prop :=
  ∀ {member : String × Json} {members : List (String × Json)} {inner : Bytes} (rest : Bytes)
    (depth : Nat), Written (memberChars (member :: members)) (ascii '"' :: inner) →
    3 * (inner.length + 1) < fuel → inner.length + 1 ≤ depth →
    readMembersOn readExactNumber fuel depth (inner ++ ascii '\x7d' :: rest)
      = .ok (member :: members, rest)

/-- An array is read back where its items are. -/
theorem readValue_items {fuel depth : Nat} {items : List Json} {bytes : Bytes} (rest : Bytes)
    (itemsRead : ItemsRead fuel) (written : Written (Json.array items).chars bytes)
    (enough : 3 * bytes.length ≤ fuel + 2) (deep : bytes.length ≤ depth) :
    readValue readExactNumber (fuel + 2) depth (bytes ++ rest) = .ok (.array items, rest) := by
  rw [chars] at written
  obtain ⟨inner, rfl, content⟩ := written.enclosed (by decide) (by decide)
  simp only [List.length_cons, List.length_append, List.length_nil] at enough deep
  rw [List.cons_append, List.append_assoc, List.singleton_append]
  -- The two brackets pay for the steps that enter the array.
  refine readValue_array (by omega) ?_
  cases items with
  | nil =>
    -- Between the brackets there is nothing.
    rw [content.eq_nil]
    exact readItems_nil
  | cons item items =>
    -- What comes first is no closing bracket, so the items are read.
    obtain ⟨byte, more, rfl, token, notEnd⟩ := exists_itemBytes_eq_cons content
    have read := itemsRead rest (depth - 1) content (by omega) (by omega)
    rw [List.cons_append] at read ⊢
    rw [readItems_cons token notEnd]
    exact read

/-- An object is read back where its members are. -/
theorem readValue_members {fuel depth : Nat} {members : List (String × Json)} {bytes : Bytes}
    (rest : Bytes) (membersRead : MembersRead fuel)
    (written : Written (Json.object members).chars bytes)
    (enough : 3 * bytes.length ≤ fuel + 2) (deep : bytes.length ≤ depth) :
    readValue readExactNumber (fuel + 2) depth (bytes ++ rest) = .ok (.object members, rest) := by
  rw [chars] at written
  obtain ⟨inner, rfl, content⟩ := written.enclosed (by decide) (by decide)
  simp only [List.length_cons, List.length_append, List.length_nil] at enough deep
  rw [List.cons_append, List.append_assoc, List.singleton_append]
  -- The two braces pay for the steps that enter the object.
  refine readValue_object (by omega) ?_
  cases members with
  | nil =>
    -- Between the braces there is nothing.
    rw [content.eq_nil]
    exact readMembers_nil
  | cons member members =>
    -- The quote of the first key is taken off before the members are read.
    obtain ⟨later, rfl⟩ := exists_memberBytes_eq_cons content
    rw [List.length_cons] at enough deep
    rw [List.cons_append, readMembers_cons]
    exact membersRead rest (depth - 1) content (by omega) (by omega)

/-- A value is read back where the items and members in it are. -/
theorem valuesRead_of {fuel : Nat} (itemsRead : ∀ less < fuel, ItemsRead less)
    (membersRead : ∀ less < fuel, MembersRead less) : ValuesRead fuel := by
  intro value bytes rest depth written ends enough deep
  -- A value takes at least one byte, and so there are at least three steps.
  obtain ⟨byte, more, same, -⟩ := exists_bytes_eq_cons written
  have size : bytes.length = more.length + 1 := same ▸ List.length_cons
  obtain ⟨fuel, rfl⟩ : ∃ steps, fuel = steps + 2 := ⟨fuel - 2, by omega⟩
  cases value
  case array items => exact readValue_items rest (itemsRead fuel (by omega)) written enough deep
  case object members =>
    exact readValue_members rest (membersRead fuel (by omega)) written enough deep
  -- The other values are read in one step.
  all_goals exact readValue_flat written nofun nofun ends

/-- Items are read back where each of them is, one after the other. -/
theorem itemsRead_succ {fuel : Nat} (valuesRead : ValuesRead fuel)
    (itemsRead : ItemsRead fuel) : ItemsRead (fuel + 1) := by
  intro item items bytes rest depth written enough deep
  cases items with
  | nil =>
    -- The closing bracket follows the value.
    rw [itemChars] at written
    exact readItemsOn_last
      (valuesRead _ _ written (endsRun_ascii (by decide) rest) (by omega) deep)
      (skipSpace_cons rfl _)
  | cons next items =>
    -- The item before the comma is a value, and those after it are fewer items.
    obtain ⟨front, back, rfl, first, others⟩ := Written.separated (by decide) written
    simp only [List.length_append, List.length_cons] at enough deep
    -- The comma behind the item ends it, even if it is a number.
    have read := valuesRead (ascii ',' :: back ++ ascii ']' :: rest) depth first
      (endsRun_ascii (by decide) _) (by omega) (by omega)
    -- The items behind the comma are shorter by the comma, so the steps are enough for them.
    have later := itemsRead rest depth others (by omega) (by omega)
    obtain ⟨byte, more, rfl, token, notEnd⟩ := exists_itemBytes_eq_cons others
    rw [List.append_assoc]
    exact readItemsOn_more read (skipSpace_cons rfl _) (skipSpace_cons token _) notEnd later

/-- Members are read back where each of their values is, one after the other. -/
theorem membersRead_succ {fuel : Nat} (valuesRead : ValuesRead fuel)
    (membersRead : MembersRead fuel) : MembersRead (fuel + 1) := by
  rintro ⟨key, value⟩ members inner rest depth written enough deep
  cases members with
  | nil =>
    -- The closing brace follows the value.
    obtain ⟨keyBytes, valueBytes, same, readKey, content⟩ := exists_member_bytes written
    obtain rfl := (List.cons.inj same).2
    simp only [List.length_append, List.length_cons] at enough deep
    rw [List.append_assoc]
    exact readMembersOn_last (readKey _) rfl
      (valuesRead _ _ content (endsRun_ascii (by decide) rest) (by omega) (by omega))
      (skipSpace_cons rfl _)
  | cons next members =>
    -- Before the comma stands one member, and after it the next key opens with a quote.
    obtain ⟨front, back, same, first, others⟩ := Written.separated (by decide) written
    obtain ⟨keyBytes, valueBytes, rfl, readKey, content⟩ := exists_member_bytes first
    obtain ⟨later, rfl⟩ := exists_memberBytes_eq_cons others
    rw [List.cons_append] at same
    obtain rfl := (List.cons.inj same).2
    simp only [List.length_append, List.length_cons] at enough deep
    -- The comma behind the value ends it, even if it is a number.
    have read := valuesRead (ascii ',' :: ascii '"' :: (later ++ ascii '\x7d' :: rest)) depth
      content (endsRun_ascii (by decide) _) (by omega) (by omega)
    -- The members behind the comma are shorter by it, so the steps are enough for them.
    have remaining := membersRead rest depth others (by omega) (by omega)
    simp only [List.append_assoc, List.cons_append]
    exact readMembersOn_more (readKey _) rfl read (skipSpace_cons rfl _) (skipSpace_cons rfl _)
      remaining

/-- Any number of steps reads back what it is enough for. -/
theorem allRead (fuel : Nat) : ValuesRead fuel ∧ ItemsRead fuel ∧ MembersRead fuel := by
  induction fuel using Nat.strongRecOn with
  | _ fuel ih =>
    -- Entering a list takes two steps at once, so the induction looks back further than one.
    have values : ValuesRead fuel := valuesRead_of (fun less smaller => (ih less smaller).2.1)
      fun less smaller => (ih less smaller).2.2
    cases fuel with
    -- In no steps neither items nor members are read, since they ask for more steps than that.
    | zero => exact ⟨values, fun _ _ _ enough => absurd enough (Nat.not_lt_zero _),
        fun _ _ _ enough => absurd enough (Nat.not_lt_zero _)⟩
    | succ fuel =>
      obtain ⟨valuesRead, itemsRead, membersRead⟩ := ih fuel (Nat.lt_succ_self fuel)
      exact ⟨values, itemsRead_succ valuesRead itemsRead,
        membersRead_succ valuesRead membersRead⟩

/-- What was written from a value, with or without backslashes at its strokes, is that value. -/
theorem readExactly_escaped {value : Json} {written : List Char}
    (escaped : StrokeEscaped value.chars written) : readExactly written = .ok value := by
  -- The reader allows as many steps as are enough, and nests as deep as there are bytes.
  have enough : 3 * (written.flatMap Utf8.encodeChar).length
      ≤ stepsFor (written.flatMap Utf8.encodeChar) := Nat.le_add_right _ _
  have read := (allRead (stepsFor (written.flatMap Utf8.encodeChar))).1 []
    ((written.flatMap Utf8.encodeChar).length + 1) ⟨written, escaped, rfl⟩ (endsRun_nil _)
    enough (Nat.le_succ _)
  rw [List.append_nil] at read
  simp only [readExactly, read]
  rfl

/-- A value's text is read as that value. -/
theorem readExactly_chars (value : Json) : readExactly value.chars = .ok value :=
  -- A text may be written without any backslash.
  readExactly_escaped (.refl value.chars)

/-- A value's text in a script element is read as that value. -/
theorem readExactly_scriptText (value : Json) :
    readExactly value.scriptText.toList = .ok value := by
  -- The writer's backslashes stand before strokes only.
  rw [scriptText, String.toList_ofList]
  exact readExactly_escaped (.breakClosingTags value.chars)

end RoomAir.Json
