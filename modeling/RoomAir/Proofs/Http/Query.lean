import RoomAir.Http.Query
import RoomAir.Proofs.Number.Digits
import RoomAir.Proofs.Text.Form

/-! Queries of event streams read back as the room and the chart that they were made from. -/

namespace RoomAir

/-- A filter that a query made is made again by its own word. -/
theorem RoomFilter.ofQuery_word (room : Option String) :
    ofQuery (some (ofQuery room).word) = ofQuery room := by
  -- Without a room the word is the one for all rooms, which means all of them again.
  cases room with
  | none => rfl
  | some name =>
    by_cases all : name = "" ∨ name = allWord
    · -- Both ways to name all rooms come to the same word.
      have same : ofQuery (some name) = .all := if_pos all
      rw [same]
      rfl
    · have same : ofQuery (some name) = .room name := if_neg all
      rw [same, word, same]

namespace Query

/-- Digits are added up as long as the sum is a number of 64 bits. -/
theorem digits_eq_ok (text : List Char) (value : Nat) (all : ∀ c ∈ text, c.isDigit = true)
    (small : value * 10 ^ text.length + digitsValue text < 2 ^ 64) :
    digits value text = .ok (value * 10 ^ text.length + digitsValue text) := by
  -- The induction is on the digits that are left, and the value so far grows with each of them.
  induction text generalizing value with
  | nil => simp [digits, digitsValue]
  | cons c text ih =>
    rw [List.forall_mem_cons] at all
    -- The first digit weighs as much as all that follow it leave room for.
    have sum : value * 10 ^ (c :: text).length + digitsValue (c :: text)
        = (value * 10 + digitsValue [c]) * 10 ^ text.length + digitsValue text := by
      have front := digitsValue_append [c] text
      rw [List.singleton_append] at front
      rw [front, List.length_cons, Nat.pow_succ', Nat.add_mul, Nat.mul_assoc, Nat.add_assoc]
    rw [sum] at small ⊢
    -- A sum within bounds was within them from the first digit on.
    have next : value * 10 + digitsValue [c] < 2 ^ 64 := by
      have := Nat.le_mul_of_pos_right (value * 10 + digitsValue [c])
        (Nat.pow_pos (n := text.length) (show 0 < 10 by decide))
      omega
    rw [digits, if_pos all.1]
    simp only [next, if_true]
    exact ih _ all.2 small

/-- A number is written in its digits. -/
theorem toList_toString (value : Nat) : (toString value).toList = Nat.toDigits 10 value := by
  rw [Nat.toString_eq_ofList_toDigits, String.toList_ofList]

/-- A number of 64 bits is read back. -/
theorem number_toString {value : Nat} (small : value < 2 ^ 64) :
    number (toString value) = .ok value := by
  -- What is written are digits, whose value is the number itself.
  have all : ∀ c ∈ Nat.toDigits 10 value, c.isDigit = true := fun _ => isDigit_of_mem_toDigits
  have read := digits_eq_ok (Nat.toDigits 10 value) 0 all
  rw [digitsValue_toDigits, Nat.zero_mul, Nat.zero_add] at read
  rw [number, toList_toString, ← read small]
  -- Neither an empty text nor a sign is what a number is written as.
  split
  case h_1 empty => exact absurd empty Nat.toDigits_ne_nil
  case h_2 sign => exact absurd (all '+' (sign ▸ List.mem_cons_self)) (by decide)
  case h_3 sign => exact absurd (all '+' (sign ▸ List.mem_cons_self)) (by decide)
  case h_4 => rfl

/-- The fields of two parameters are those of each of them. -/
theorem fields_append (first second : String) : Form.fields (first ++ "&" ++ second)
      = Form.fields first ++ Form.fields second := by
  -- The ampersand between them is where the text is split.
  have parts : (first ++ "&" ++ second).toList = first.toList ++ '&' :: second.toList := by
    simp
  -- A part that is empty is dropped on both sides alike.
  rw [Form.fields, parts, Form.splitAt_append, List.filter_append, List.map_append]
  rfl

/-- A parameter without separators is one field. -/
theorem fields_parameter {name value : List Char} (plainName : ∀ c ∈ name, Form.IsPlain c)
    (valueOk : ∀ c ∈ value, c = '%' ∨ Form.IsPlain c) :
    Form.fields (String.ofList (name ++ '=' :: value))
      = [(String.ofList name, Form.decode value)] := by
  -- Neither the name nor the value has a separator in it.
  have whole : '&' ∉ name ++ '=' :: value := by
    simp only [List.mem_append, List.mem_cons, not_or]
    refine ⟨fun member => (plainName _ member).2.2.2.1 rfl, by decide, fun member => ?_⟩
    rcases valueOk _ member with percent | plain
    · exact absurd percent (by decide)
    · exact plain.2.2.2.1 rfl
  have named : '=' ∉ name := fun member => (plainName _ member).2.2.2.2.1 rfl
  -- The only part is split at its first equals sign, which is the one in the middle.
  rw [Form.fields, String.toList_ofList, Form.splitAt_of_notMem whole]
  simp [Form.field_append named, Form.decode_of_isPlain plainName]

/-- A query of parameters has no fragment to lose. -/
theorem withoutFragment_of_notMem {text : String} (none : '#' ∉ text.toList) :
    withoutFragment text = text := by
  -- The run of other characters is the whole text.
  have all : ∀ c ∈ text.toList, decide (c ≠ '#') = true := by
    intro c member
    simpa using fun same : c = '#' => none (same ▸ member)
  have whole := takeWhile_run all (endsRun_nil _)
  rw [List.append_nil] at whole
  rw [withoutFragment, whole, String.ofList_toList]

/-- The characters of a number are plain. -/
theorem isPlain_of_isDigit {c : Char} (digit : c.isDigit = true) : Form.IsPlain c :=
  of_isDigit digit (by decide)

/-- The parameter of a chart is the field of its number. -/
theorem fields_chart (chart : Nat) :
    Form.fields ("chart=" ++ toString chart) = [("chart", toString chart)] := by
  -- Spelled out, the parameter is a name, an equals sign and digits.
  have text : "chart=" ++ toString chart
      = String.ofList ("chart".toList ++ '=' :: Nat.toDigits 10 chart) := by
    rw [← toList_toString]
    apply String.toList_inj.mp
    simp
  have plain : ∀ c ∈ Nat.toDigits 10 chart, Form.IsPlain c :=
    fun _ member => isPlain_of_isDigit (isDigit_of_mem_toDigits member)
  rw [text, fields_parameter (forall_mem_of_all (by decide)) fun c member => .inr (plain c member),
    Form.decode_of_isPlain plain, ← toList_toString, String.ofList_toList, String.ofList_toList]

/-- The parameter of a room is the field of its word, whatever characters are in it. -/
theorem fields_room (word : String) :
    Form.fields ("room=" ++ Form.encode word) = [("room", word)] := by
  -- The value is encoded, so it has no separator of its own.
  have text : "room=" ++ Form.encode word
      = String.ofList ("room".toList ++ '=' :: (Form.encode word).toList) := by
    apply String.toList_inj.mp
    simp
  have plain : ∀ c ∈ "room".toList, Form.IsPlain c := forall_mem_of_all (by decide)
  rw [text, fields_parameter plain fun _ => Form.isPlain_of_mem_encode, Form.decode_encode]
  rfl

/-- A hash is in no parameter. -/
theorem hash_notMem_chart (chart : Nat) : '#' ∉ ("chart=" ++ toString chart).toList := by
  -- Neither the name nor a digit is a hash.
  rw [String.toList_append, toList_toString, List.mem_append, not_or]
  exact ⟨by decide, fun member =>
    (isPlain_of_isDigit (isDigit_of_mem_toDigits member)).2.2.2.2.2 rfl⟩

/-- A hash is in no encoded room. -/
theorem hash_notMem_room (word : String) : '#' ∉ ("room=" ++ Form.encode word).toList := by
  -- An encoded word has percent signs and plain characters in it.
  rw [String.toList_append, List.mem_append, not_or]
  refine ⟨by decide, fun member => ?_⟩
  rcases Form.isPlain_of_mem_encode member with percent | plain
  · exact absurd percent (by decide)
  · exact plain.2.2.2.2.2 rfl

/-- A chart that is named first is taken. -/
theorem enter_chart (room : Option String) {chart : Nat} (small : chart < 2 ^ 64) :
    enter true ⟨room, none⟩ ("chart", toString chart) = .ok ⟨room, some chart⟩ := by
  -- No chart was named before, so the field is no duplicate.
  have other : "chart" ≠ "room" := by decide
  simp only [enter, other, if_false, true_and, if_true, Option.isSome_none, Bool.false_eq_true,
    number_toString small, Except.map]

/-- The query of the overview's event stream is read as the chart that it was made from. -/
theorem read_chart {chart : Nat} (small : chart < 2 ^ 64) :
    read true (some ("chart=" ++ toString chart)) = .ok ⟨none, some chart⟩ := by
  -- There is one field, and it is the chart's.
  rw [read, Option.getD_some, withoutFragment_of_notMem (hash_notMem_chart chart), fields_chart]
  rw [List.foldlM_cons, enter_chart none small]
  rfl

/-- The query of a room's link is read as the room that it was made from. -/
theorem read_room (live : Bool) (word : String) :
    read live (some ("room=" ++ Form.encode word)) = .ok ⟨some word, none⟩ := by
  -- A room is a field of pages and of streams alike.
  rw [read, Option.getD_some, withoutFragment_of_notMem (hash_notMem_room word), fields_room]
  rfl

/-- The query of the details' event stream is read as the room and the chart it was made from. -/
theorem read_room_chart (word : String) {chart : Nat} (small : chart < 2 ^ 64) :
    read true (some ("room=" ++ Form.encode word ++ "&" ++ ("chart=" ++ toString chart)))
      = .ok ⟨some word, some chart⟩ := by
  have noHash : '#' ∉ ("room=" ++ Form.encode word ++ "&"
      ++ ("chart=" ++ toString chart)).toList := by
    rw [String.toList_append, String.toList_append, List.mem_append, List.mem_append, not_or,
      not_or]
    exact ⟨⟨hash_notMem_room word, by decide⟩, hash_notMem_chart chart⟩
  -- The room is entered first and the chart after it, each into its own place.
  rw [read, Option.getD_some, withoutFragment_of_notMem noHash, fields_append, fields_room,
    fields_chart, List.singleton_append, List.foldlM_cons]
  have first : enter true ⟨none, none⟩ ("room", word) = .ok ⟨some word, none⟩ := rfl
  simp only [first, bind, Except.bind]
  rw [List.foldlM_cons, enter_chart (some word) small]
  rfl

end Query

end RoomAir
