import RoomAir.Http.Negotiation
import RoomAir.Proofs.Json.Numbers
import RoomAir.Proofs.Number.Layout
import RoomAir.Proofs.Text.Blank

/-! Lists of accepted codings: one that follows the grammar is taken for what it says of Brotli. -/

namespace RoomAir.Negotiation

/-! ## The grammar of a list of codings -/

/-- The characters that a token is made of. -/
def tokenChars : List Char :=
  ("!#$%&'*+-.^_`|~0123456789"
    ++ "ABCDEFGHIJKLMNOPQRSTUVWXYZabcdefghijklmnopqrstuvwxyz").toList

/-- Spaces and tabs, or nothing. -/
abbrev Padding := { text : List Char // ∀ c ∈ text, c = ' ' ∨ c = '\t' }

/-- A text with padding on either side. -/
def padded (before : Padding) (text : List Char) (behind : Padding) : List Char :=
  before.val ++ text ++ behind.val

/-- A weight from zero to one, in steps of a thousandth. -/
structure Weight where
  /-- Whether a one stands before the point. -/
  one : Bool
  /-- What stands behind the point, if there is one. -/
  decimals : Option (List Char)
  digits : ∀ run ∈ decimals, ∀ c ∈ run, c.isDigit = true
  atMostThree : ∀ run ∈ decimals, run.length ≤ 3
  /-- There is no weight above one. -/
  zeros : one = true → ∀ run ∈ decimals, ∀ c ∈ run, c = '0'

/-- The digit before the point. -/
def Weight.whole (weight : Weight) : Char :=
  if weight.one then '1' else '0'

/-- A weight as it is written. -/
def Weight.text (weight : Weight) : List Char :=
  weight.whole :: weight.decimals.elim [] ('.' :: ·)

/-- A weight with what joins it to its coding. -/
structure Quality where
  /-- What stands before the semicolon. -/
  before : Padding
  /-- What stands behind the semicolon. -/
  behind : Padding
  /-- Whether the letter is a capital one. -/
  capital : Bool
  weight : Weight

/-- The parameter that names a weight. -/
def Quality.parameter (quality : Quality) : List Char :=
  (if quality.capital then 'Q' else 'q') :: '=' :: quality.weight.text

/-- An entry of the list: a coding, perhaps with a weight, or nothing between two commas. -/
structure Entry where
  before : Padding
  coding : List Char
  token : ∀ c ∈ coding, c ∈ tokenChars
  quality : Option Quality
  behind : Padding

/-- An entry as it is written. -/
def Entry.text (entry : Entry) : List Char :=
  match entry.quality with
  | none => padded entry.before entry.coding entry.behind
  | some quality =>
    padded entry.before entry.coding quality.before
      ++ ';' :: padded quality.behind quality.parameter entry.behind

/-- The list as it is sent, with a comma between each two entries. -/
def listBytes (entries : List Entry) : Bytes :=
  Utf8.encode (String.ofList ([','].intercalate (entries.map Entry.text)))

/-- An entry names Brotli, and its weight, if it has one, has a digit other than zero. -/
def Entry.TakesBrotli (entry : Entry) : Prop :=
  lowercase entry.coding = "br".toList
    ∧ ∀ quality ∈ entry.quality, ∃ c ∈ quality.weight.text, c.isDigit = true ∧ c ≠ '0'

/-! ## Weights -/

namespace Weight

variable (weight : Weight)

/-- A zero and a one are digits. -/
theorem isDigit_whole : weight.whole.isDigit = true := by
  rw [whole]
  split <;> rfl

/-- The digits of the weight, without the point. -/
def allDigits : List Char :=
  weight.whole :: weight.decimals.getD []

/-- A weight has only digits besides its point. -/
theorem isDigit_of_mem_allDigits : ∀ c ∈ weight.allDigits, c.isDigit = true := by
  refine List.forall_mem_cons.mpr ⟨weight.isDigit_whole, ?_⟩
  -- A weight without a point has no digits behind it.
  cases decimals : weight.decimals with
  | none => simp
  | some run => exact weight.digits run decimals

/-- The digits of a weight are the characters of its text but for the point. -/
theorem mem_allDigits_iff {c : Char} :
    c ∈ weight.allDigits ↔ c ∈ weight.text ∧ c.isDigit = true := by
  have digit := weight.isDigit_of_mem_allDigits c
  -- Nothing is lost with the point, as it is no digit itself.
  have notPoint (digit : c.isDigit = true) : c ≠ '.' := of_isDigit digit (by decide)
  rw [allDigits] at digit ⊢
  rw [text]
  cases decimals : weight.decimals with
  | none =>
    simp only [decimals, Option.getD_none, Option.elim_none] at digit ⊢
    tauto
  | some run =>
    -- What stands behind the point is the same for both.
    simp only [decimals, Option.getD_some, Option.elim_some, List.mem_cons] at digit ⊢
    tauto

/-- Nothing but digits and a point stands in a weight. -/
theorem isDigit_or_eq_of_mem_text {c : Char} (member : c ∈ weight.text) :
    c.isDigit = true ∨ c = '.' := by
  rw [text] at member
  -- The text is the digit in front, and then perhaps a point and digits.
  cases decimals : weight.decimals with
  | none =>
    rw [decimals, Option.elim_none, List.mem_singleton] at member
    exact .inl (member ▸ weight.isDigit_whole)
  | some run =>
    rw [decimals, Option.elim_some, List.mem_cons, List.mem_cons] at member
    rcases member with rfl | point | behind
    · exact .inl weight.isDigit_whole
    · exact .inr point
    · exact .inl (weight.digits run decimals c behind)

/-- A weight is a number with as many places as it has decimals. -/
theorem read?_text :
    Literal.read? weight.text
      = some (.decimal false
          ⟨digitsValue weight.allDigits, 0 - ((weight.decimals.getD []).length : Int)⟩) := by
  rw [text, Literal.read?_digit weight.isDigit_whole, allDigits]
  cases decimals : weight.decimals with
  | none =>
    -- Without a point there is only the one digit.
    rw [whole]
    split <;> rfl
  | some run =>
    -- A digit, a point and a run of digits are read as a number with that many places.
    have point := Literal.readMagnitude?_point (List.cons_ne_nil weight.whole [])
      (List.forall_mem_singleton.mpr weight.isDigit_whole) (weight.digits run decimals)
      (endsRun_nil _)
    -- Nothing follows the decimals, so there is no exponent.
    have noExponent : Literal.readExponentPart? [] = some 0 := rfl
    rw [List.append_nil, noExponent] at point
    rw [Option.elim_some, Option.getD_some]
    exact congrArg (Option.map (Literal.decimal false)) point

end Weight

/-- A number of at most three places is above zero in single precision unless it is zero. -/
theorem positiveInSingle_decimal {value : Nat} {exponent : Int} (few : -3 ≤ exponent)
    (broken : exponent ≤ 0) :
    (Literal.decimal false ⟨value, exponent⟩).positiveInSingle = true ↔ value ≠ 0 := by
  -- With three places at most the leading digit cannot be that far behind the point.
  have near : ¬ Literal.leadingPosition ⟨value, exponent⟩ < -400 := by
    simp only [Literal.leadingPosition]
    omega
  -- A value that is not zero may be so large that its power of ten is not formed.
  by_cases zero : value = 0
  · simp [Literal.positiveInSingle, zero]
  by_cases far : 400 < Literal.leadingPosition ⟨value, exponent⟩
  · simp [Literal.positiveInSingle, zero, near, far]
  · -- Even a thousandth is far above what rounds to zero.
    have places : (-exponent).toNat ≤ 3 := by omega
    have small : 10 ^ (-exponent).toNat < 2 ^ 150 :=
      Nat.lt_of_le_of_lt (Nat.pow_le_pow_right (by decide) places) (by decide)
    have large : 2 ^ 150 ≤ value * 10 ^ exponent.toNat * 2 ^ 150 :=
      Nat.le_mul_of_pos_left _ (Nat.mul_pos (by omega) (Nat.pow_pos (by decide)))
    have above := Nat.lt_of_lt_of_le small large
    simp only [Literal.positiveInSingle, zero, near, far, above]
    simp [zero]

/-- A weight counts as one above zero if it has a digit other than zero. -/
theorem isPositive_text (weight : Weight) :
    isPositive weight.text = true ↔ ∃ c ∈ weight.text, c.isDigit = true ∧ c ≠ '0' := by
  have digits := weight.isDigit_of_mem_allDigits
  -- No blank is in the text, so trimming leaves it alone.
  have solid : Blank.Solid weight.text := by
    intro c member
    rcases weight.isDigit_or_eq_of_mem_text member with digit | rfl
    · exact of_isDigit digit (by decide)
    · decide
  -- With three decimals at most, no weight but zero is rounded to zero.
  have few : (weight.decimals.getD []).length ≤ 3 := by
    cases decimals : weight.decimals with
    | none => exact Nat.zero_le _
    | some run => exact weight.atMostThree run decimals
  -- The point does not count, so the text has such a digit if the digits do.
  have counted : (∃ c ∈ weight.text, c.isDigit = true ∧ c ≠ '0')
      ↔ ¬ ∀ c ∈ weight.allDigits, c = '0' := by
    simp only [weight.mem_allDigits_iff, not_forall, exists_prop, and_assoc]
  rw [isPositive, Blank.trim_of_solid solid, weight.read?_text, counted,
    ← digitsValue_eq_zero_iff digits]
  exact positiveInSingle_decimal (by omega) (by omega)

/-! ## Entries -/

/-- The characters that codings and parameters are made of. -/
def markChars : List Char :=
  '=' :: tokenChars

/-- The characters of a coding or a parameter with its padding. -/
def partChars : List Char :=
  ' ' :: '\t' :: markChars

/-- Texts of these characters have no blanks in them. -/
theorem solid_of_markChars {text : List Char} (marks : ∀ c ∈ text, c ∈ markChars) :
    Blank.Solid text := by
  -- The characters are few enough to look at each of them.
  have solid : ∀ c ∈ markChars, Blank.isBlank c = false := forall_mem_of_all (by decide +kernel)
  intro c member
  exact solid c (marks c member)

/-- A coding is made of the characters of a token. -/
theorem Entry.mem_of_mem_coding (entry : Entry) : ∀ c ∈ entry.coding, c ∈ markChars := by
  intro c member
  exact List.mem_cons_of_mem _ (entry.token c member)

/-- A parameter is made of the characters of a token and an equals sign. -/
theorem Quality.mem_of_mem_parameter (quality : Quality) :
    ∀ c ∈ quality.parameter, c ∈ markChars := by
  intro c member
  rw [parameter, List.mem_cons, List.mem_cons] at member
  -- The parameter is a letter, an equals sign and the weight.
  rcases member with letter | sign | inWeight
  · -- Both letters may stand in a token.
    rw [letter]
    split <;> decide +kernel
  · rw [sign]
    exact List.mem_cons_self
  -- The weight has digits and a point in it, which may both stand in a token.
  · rcases quality.weight.isDigit_or_eq_of_mem_text inWeight with digit | rfl
    · exact of_isDigit digit (by decide +kernel)
    · decide +kernel

/-- The parameter is one that names a weight, whichever letter it is written with. -/
theorem weightText?_parameter (quality : Quality) :
    weightText? quality.parameter = some quality.weight.text := by
  rw [Quality.parameter]
  split <;> rfl

section Padded

variable {text : List Char} (marks : ∀ c ∈ text, c ∈ markChars) (before behind : Padding)
include marks

/-- Padding adds nothing but blanks to what stands in a part. -/
theorem mem_of_mem_padded : ∀ c ∈ padded before text behind, c ∈ partChars := by
  -- Padding is made of spaces and tabs, which both count as characters of parts.
  have around (padding : Padding) : ∀ c ∈ padding.val, c ∈ partChars := by
    intro c member
    rcases padding.property c member with rfl | rfl <;> simp [partChars]
  intro c member
  rw [padded, List.mem_append, List.mem_append] at member
  rcases member with (front | inside) | back
  · exact around before c front
  · exact List.mem_cons_of_mem _ (List.mem_cons_of_mem _ (marks c inside))
  · exact around behind c back

/-- One part of an entry is what is left of it without its padding. -/
theorem splitAt_padded :
    (Form.splitAt ';' (padded before text behind)).map Blank.trim = [text] := by
  -- Both kinds of padding are trimmed off.
  have blank (padding : Padding) : ∀ c ∈ padding.val, Blank.isBlank c = true := by
    intro c member
    rcases padding.property c member with rfl | rfl <;> decide
  -- The semicolon stands neither in the text nor around it, so nothing is split.
  have whole : ';' ∉ padded before text behind := by
    intro member
    have inPart := mem_of_mem_padded marks before behind _ member
    revert inPart
    decide +kernel
  rw [Form.splitAt_of_notMem whole, List.map_singleton, padded,
    Blank.trim_append (blank before) (blank behind), Blank.trim_of_solid (solid_of_markChars marks)]

end Padded

/-- An entry is taken when it names Brotli with a weight above zero. -/
theorem entryAccepts_text (entry : Entry) :
    entryAccepts entry.text = true ↔ entry.TakesBrotli := by
  have coding := entry.mem_of_mem_coding
  rw [entryAccepts, Entry.text, Entry.TakesBrotli]
  -- Without a weight there is one part, which is the coding.
  cases weighted : entry.quality with
  | none => simp [splitAt_padded coding]
  | some quality =>
    -- The coding stands before the semicolon, and the weight is the only parameter behind it.
    have parts : (Form.splitAt ';' (padded entry.before entry.coding quality.before
        ++ ';' :: padded quality.behind quality.parameter entry.behind)).map Blank.trim
        = [entry.coding, quality.parameter] := by
      rw [Form.splitAt_append, List.map_append, splitAt_padded coding,
        splitAt_padded quality.mem_of_mem_parameter, List.singleton_append]
    simp [parts, weightText?_parameter, isPositive_text]

/-- An entry is made of parts and perhaps one semicolon. -/
theorem Entry.mem_of_mem_text (entry : Entry) : ∀ c ∈ entry.text, c ∈ ';' :: partChars := by
  have coding := entry.mem_of_mem_coding
  intro c member
  rw [text] at member
  -- Of the semicolon and the two parts around it only the coding is always there.
  cases weighted : entry.quality with
  | none =>
    rw [weighted] at member
    exact List.mem_cons_of_mem _ (mem_of_mem_padded coding _ _ c member)
  | some quality =>
    simp only [weighted, List.mem_append, List.mem_cons] at member
    rcases member with front | rfl | back
    · exact List.mem_cons_of_mem _ (mem_of_mem_padded coding _ _ c front)
    · exact List.mem_cons_self
    · exact List.mem_cons_of_mem _
        (mem_of_mem_padded quality.mem_of_mem_parameter _ _ c back)

/-! ## Lists of entries -/

/-- A character that may stand in the text of a header. -/
def IsVisible (c : Char) : Prop :=
  c = '\t' ∨ 0x20 ≤ c.toNat ∧ c.toNat < 0x7F

instance : DecidablePred IsVisible := fun c =>
  inferInstanceAs (Decidable (c = '\t' ∨ 0x20 ≤ c.toNat ∧ c.toNat < 0x7F))

/-- A visible text is read as it was sent. -/
theorem visibleText?_encode {text : List Char} (visible : ∀ c ∈ text, IsVisible c) :
    visibleText? (Utf8.encode (String.ofList text)) = some text := by
  -- Visible characters are single bytes, and each byte is read as its character.
  have ascii : ∀ c ∈ text, c.toNat < 0x80 := by
    intro c member
    rcases visible c member with rfl | ⟨-, small⟩
    · decide
    · omega
  have bytes : Utf8.encode (String.ofList text) = text.map Json.ascii := by
    rw [Utf8.encode, String.toList_ofList, Json.flatMap_encodeChar_of_ascii ascii]
  rw [bytes, visibleText?, Json.map_ofNat_ascii ascii]
  apply if_pos
  -- Each byte is the code of its character.
  rw [List.all_map, List.all_eq_true]
  intro c member
  rcases visible c member with rfl | ⟨shown, small⟩
  · decide
  · have code : (Json.ascii c).toNat = c.toNat := Utf8.toNat_toUInt8 (by omega)
    have bounds : 0x20 ≤ Json.ascii c ∧ Json.ascii c < 0x7F := by
      rw [UInt8.le_iff_toNat_le, UInt8.lt_iff_toNat_lt, code]
      exact ⟨shown, small⟩
    simp [bounds]

/-- What stands in a list of entries stands in an entry, or is a comma. -/
theorem mem_of_mem_list (entries : List Entry) :
    ∀ c ∈ [','].intercalate (entries.map Entry.text), c ∈ ',' :: ';' :: partChars := by
  -- There is a comma behind each entry but the last.
  induction entries with
  | nil => simp
  | cons entry entries ih =>
    intro c member
    -- The list begins with its first entry, and a comma follows only if there is another one.
    cases entries with
    | nil =>
      rw [List.map_singleton, List.intercalate_singleton] at member
      exact List.mem_cons_of_mem _ (entry.mem_of_mem_text c member)
    | cons next entries =>
      rw [List.map_cons, List.map_cons, List.intercalate_cons_cons, List.mem_append,
        List.mem_append, List.mem_singleton] at member
      rcases member with (front | rfl) | back
      · exact List.mem_cons_of_mem _ (entry.mem_of_mem_text c front)
      · exact List.mem_cons_self
      · exact ih c back

/-- A list of entries is sent in visible characters only. -/
theorem visibleText?_listBytes (entries : List Entry) :
    visibleText? (listBytes entries) = some ([','].intercalate (entries.map Entry.text)) := by
  -- Whatever an entry is made of can be seen, and so can the comma.
  have visible : ∀ c ∈ ',' :: ';' :: partChars, IsVisible c :=
    forall_mem_of_all (by decide +kernel)
  apply visibleText?_encode
  intro c member
  exact visible c (mem_of_mem_list entries c member)

/-- A list is split into its entries, and one without any is split into a blank one. -/
theorem any_entryAccepts (entries : List Entry) :
    (Form.splitAt ',' ([','].intercalate (entries.map Entry.text))).any entryAccepts = true
      ↔ ∃ entry ∈ entries, entry.TakesBrotli := by
  cases entries with
  | nil => simp [Form.splitAt, entryAccepts, lowercase, Blank.trim]
  | cons entry more =>
    -- No entry has a comma of its own.
    have absent : ∀ part ∈ (entry :: more).map Entry.text, ',' ∉ part := by
      intro part listed comma
      obtain ⟨entry, -, rfl⟩ := List.mem_map.mp listed
      have inEntry := entry.mem_of_mem_text _ comma
      revert inEntry
      decide +kernel
    rw [Form.splitAt_intercalate absent (List.cons_ne_nil _ _), List.any_map, List.any_eq_true]
    simp [entryAccepts_text]

/-! ## Headers -/

/-- A name of the header that lists the accepted codings. -/
def NamesCodings (name : String) : Prop :=
  lowercase name.toList = "accept-encoding".toList

/-- The first header that lists accepted codings has a value, whatever else there is. -/
def Offers (headers : List (String × Bytes)) (value : Bytes) : Prop :=
  ∃ before name behind, headers = before ++ (name, value) :: behind ∧ NamesCodings name
    ∧ ∀ header ∈ before, ¬ NamesCodings header.1

/-- The header is looked for by its name in lower case. -/
theorem lowercase_eq_iff (name : String) :
    (lowercase name.toList == lowercase "accept-encoding".toList) = true ↔ NamesCodings name := by
  have own : lowercase "accept-encoding".toList = "accept-encoding".toList := by decide
  rw [own, beq_iff_eq, NamesCodings]

/-- The header that is found is the first one of its name. -/
theorem header?_eq_some_iff (headers : List (String × Bytes)) (value : Bytes) :
    header? "accept-encoding" headers = some value ↔ Offers headers value := by
  rw [header?, Option.map_eq_some_iff]
  -- The search stops at the first header that it accepts, so it has passed over those before.
  constructor
  · rintro ⟨⟨name, value⟩, found, rfl⟩
    obtain ⟨names, before, behind, rfl, others⟩ := List.find?_eq_some_iff_append.mp found
    refine ⟨before, name, behind, rfl, (lowercase_eq_iff name).mp names, ?_⟩
    intro header member named
    -- A header before it that had the name would have been found in its place.
    have skipped := others header member
    rw [(lowercase_eq_iff header.1).mpr named] at skipped
    contradiction
  · rintro ⟨before, name, behind, rfl, names, others⟩
    refine ⟨(name, value), List.find?_eq_some_iff_append.mpr ?_, rfl⟩
    refine ⟨(lowercase_eq_iff name).mpr names, before, behind, rfl, ?_⟩
    intro header member
    rw [Bool.not_eq_true', Bool.eq_false_iff]
    exact fun found => others header member ((lowercase_eq_iff header.1).mp found)

/-- What comes behind the first such header does not change its value. -/
theorem Offers.append {headers : List (String × Bytes)} {value : Bytes}
    (offers : Offers headers value) (later : List (String × Bytes)) :
    Offers (headers ++ later) value := by
  obtain ⟨before, name, behind, rfl, names, others⟩ := offers
  -- The first such header is still where it was, with the same ones before it.
  exact ⟨before, name, behind ++ later, by simp, names, others⟩

/-- The answer is decided by the value of the first such header. -/
theorem acceptsBrotli_of_offers {headers : List (String × Bytes)} {value : Bytes}
    (offers : Offers headers value) :
    acceptsBrotli headers
      = (visibleText? value).elim false fun text => (Form.splitAt ',' text).any entryAccepts := by
  rw [acceptsBrotli, (header?_eq_some_iff headers value).mpr offers, Option.bind_some]
  cases visibleText? value <;> rfl

/-- A list that follows the grammar is searched for an entry that takes Brotli. -/
theorem acceptsBrotli_listBytes {headers : List (String × Bytes)} {entries : List Entry}
    (offers : Offers headers (listBytes entries)) :
    acceptsBrotli headers = true ↔ ∃ entry ∈ entries, entry.TakesBrotli := by
  -- The header is the one that is looked at, and it is read as the list that was sent.
  rw [acceptsBrotli_of_offers offers, visibleText?_listBytes, Option.elim_some]
  exact any_entryAccepts entries

/-- What decides whether a client with the given headers takes Brotli. -/
structure FollowsGrammar (headers : List (String × Bytes)) : Prop where
  /-- A list of codings is searched for an entry that names Brotli with a weight above zero. -/
  decided : ∀ entries, Offers headers (listBytes entries) →
    (acceptsBrotli headers = true ↔ ∃ entry ∈ entries, entry.TakesBrotli)
  /-- Neither the order of the entries nor the other codings matter. -/
  alike : ∀ entries, Offers headers (listBytes entries) →
    ∀ headers' entries', Offers headers' (listBytes entries') →
      (∀ entry : Entry, lowercase entry.coding = "br".toList →
        (entry ∈ entries ↔ entry ∈ entries')) →
      acceptsBrotli headers' = acceptsBrotli headers
  /-- Nor does any header behind the first one. -/
  first : ∀ value, Offers headers value →
    ∀ later, acceptsBrotli (headers ++ later) = acceptsBrotli headers
  /-- Without a list of codings, Brotli is not taken. -/
  unlisted : (∀ header ∈ headers, ¬ NamesCodings header.1) → acceptsBrotli headers = false
  /-- Nor is it when the list has a byte that is neither a visible character nor a blank. -/
  unreadable : ∀ value, Offers headers value →
    (∃ byte ∈ value, ¬ (0x20 ≤ byte ∧ byte < 0x7F) ∧ byte ≠ 0x09) →
    acceptsBrotli headers = false

/-- Whatever the headers, Brotli is taken when the first list of codings says so. -/
theorem brotli_follows_grammar (headers : List (String × Bytes)) : FollowsGrammar headers where
  decided _ := acceptsBrotli_listBytes
  alike entries offers headers' entries' offers' same := by
    -- Both answers are the same if both lists have an entry that takes Brotli or none has.
    rw [Bool.eq_iff_iff, acceptsBrotli_listBytes offers, acceptsBrotli_listBytes offers']
    apply exists_congr
    intro entry
    -- Only an entry that names Brotli can take it, and those are the same.
    constructor
    · rintro ⟨listed, takes⟩
      exact ⟨(same entry takes.1).mpr listed, takes⟩
    · rintro ⟨listed, takes⟩
      exact ⟨(same entry takes.1).mp listed, takes⟩
  first value offers later := by
    -- The value that decides is that of the first header both times.
    rw [acceptsBrotli_of_offers offers, acceptsBrotli_of_offers (offers.append later)]
  unlisted others := by
    -- No header is found, as none has the name.
    have missing : header? "accept-encoding" headers = none := by
      rw [header?, Option.map_eq_none_iff, List.find?_eq_none]
      intro header member found
      exact others header member ((lowercase_eq_iff header.1).mp found)
    rw [acceptsBrotli, missing, Option.bind_none]
  unreadable value offers hidden := by
    obtain ⟨byte, member, outside, notTab⟩ := hidden
    have unread : visibleText? value = none := by
      -- Every byte is looked at, this one too.
      rw [visibleText?]
      apply if_neg
      intro all
      have passes := List.all_eq_true.mp all byte member
      simp [outside, notTab] at passes
    rw [acceptsBrotli_of_offers offers, unread, Option.elim_none]

/-- A coding in capital letters with a small weight is taken among others that are not. -/
example : acceptsBrotli [("Accept-Encoding", Utf8.encode "brotli, BR ;\tQ=0.001,gzip;q=0")]
    = true := by
  decide +kernel

end RoomAir.Negotiation
