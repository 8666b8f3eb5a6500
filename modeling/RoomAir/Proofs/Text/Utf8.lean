import RoomAir.Text.Utf8

/-! Texts written as UTF-8 read back as they were. -/

namespace RoomAir.Utf8

/-- A number that fits a byte is the value of its byte. -/
theorem toNat_toUInt8 {value : Nat} (small : value < 256) : value.toUInt8.toNat = value := by
  -- The number is its own remainder.
  simp [Nat.toUInt8, Nat.mod_eq_of_lt small]

/-- A byte at a boundary acts as a leading byte. -/
theorem scanFrom_boundary (byte : UInt8) (rest : Bytes) :
    scanFrom .boundary (byte :: rest)
      = (lead byte.toNat).1 ++ scanFrom (lead byte.toNat).2 rest := rfl

/-- A continuation byte in range adds its six bits, and more bytes are owed. -/
theorem scanFrom_inside {owed low high value digit : Nat} (rest : Bytes) (small : digit < 64)
    (above : low ≤ 0x80 + digit) (below : 0x80 + digit ≤ high) :
    scanFrom (.inside (owed + 2) low high value) ((0x80 + digit).toUInt8 :: rest)
      = scanFrom (.inside (owed + 1) 0x80 0xBF (value * 64 + digit)) rest := by
  -- The upper two bits only mark the byte as a continuation.
  have low6 : (0x80 + digit) % 64 = digit := by omega
  simp only [scanFrom, step, toNat_toUInt8 (show 0x80 + digit < 256 by omega)]
  rw [if_pos ⟨above, below⟩, if_neg (by omega), low6]
  rfl

/-- The last continuation byte in range completes the character. -/
theorem scanFrom_last {low high value digit : Nat} (rest : Bytes) (small : digit < 64)
    (above : low ≤ 0x80 + digit) (below : 0x80 + digit ≤ high) :
    scanFrom (.inside 1 low high value) ((0x80 + digit).toUInt8 :: rest)
      = some (Char.ofNat (value * 64 + digit)) :: scanFrom .boundary rest := by
  -- The six bits complete the code, and the next byte is at a boundary.
  have low6 : (0x80 + digit) % 64 = digit := by omega
  simp only [scanFrom, step, toNat_toUInt8 (show 0x80 + digit < 256 by omega)]
  rw [if_pos ⟨above, below⟩, if_pos (Nat.le_refl 1), low6]
  rfl

/-- The leading byte of three asks for a second byte that keeps the character what it is. -/
theorem lead_three {code : Nat} (wide : 0x800 ≤ code) (small : code < 0x10000)
    (scalar : code < 0xD800 ∨ 0xDFFF < code) :
    ∃ low high, lead (0xE0 + code / 4096) = ([], .inside 2 low high (code / 4096))
      ∧ low ≤ 0x80 + code / 64 % 64 ∧ 0x80 + code / 64 % 64 ≤ high := by
  -- The code is wider than one byte, and the leading bytes of two are below those of three.
  simp only [lead]
  rw [if_neg (by omega), if_neg (by omega), if_neg (by omega)]
  -- The first and the fourteenth leading byte narrow the range of what follows.
  by_cases overlong : code / 4096 = 0
  · -- Below this range two bytes would have been enough.
    rw [if_pos (by omega)]
    exact ⟨0xA0, 0xBF, by rw [overlong], by omega, by omega⟩
  · rw [if_neg (by omega)]
    by_cases surrogate : code / 4096 = 13
    · -- Above this range the code would be a surrogate.
      rw [if_pos (by omega)]
      exact ⟨0x80, 0x9F, by rw [surrogate], by omega, by omega⟩
    · rw [if_neg (by omega), if_pos (by omega), Nat.add_sub_cancel_left]
      exact ⟨0x80, 0xBF, rfl, by omega, by omega⟩

/-- The leading byte of four asks for a second byte that keeps the character what it is. -/
theorem lead_four {code : Nat} (wide : 0x10000 ≤ code) (small : code < 0x110000) :
    ∃ low high, lead (0xF0 + code / 262144) = ([], .inside 3 low high (code / 262144))
      ∧ low ≤ 0x80 + code / 4096 % 64 ∧ 0x80 + code / 4096 % 64 ≤ high := by
  simp only [lead]
  -- The leading byte is above those of one, two and three bytes.
  rw [if_neg (by omega), if_neg (by omega), if_neg (by omega), if_neg (by omega),
    if_neg (by omega), if_neg (by omega)]
  by_cases overlong : code / 262144 = 0
  · -- Below this range three bytes would have been enough.
    rw [if_pos (by omega)]
    exact ⟨0x90, 0xBF, by rw [overlong], by omega, by omega⟩
  · rw [if_neg (by omega)]
    by_cases last : code / 262144 = 4
    · -- Above this range there are no characters.
      rw [if_neg (by omega), if_pos (by omega)]
      exact ⟨0x80, 0x8F, by rw [last], by omega, by omega⟩
    · rw [if_pos (by omega), Nat.add_sub_cancel_left]
      exact ⟨0x80, 0xBF, rfl, by omega, by omega⟩

/-- The bytes of a character are scanned as that character, whatever follows. -/
theorem scanFrom_encodeChar (c : Char) (rest : Bytes) :
    scanFrom .boundary (encodeChar c ++ rest) = some c :: scanFrom .boundary rest := by
  have valid : c.toNat < 0xD800 ∨ (0xDFFF < c.toNat ∧ c.toNat < 0x110000) := c.valid
  have back : Char.ofNat c.toNat = c := Char.ofNat_toNat c
  simp only [encodeChar]
  -- From here on only the size of the code matters.
  generalize c.toNat = code at valid back
  -- The number of bytes follows the size of the character's code.
  split
  case isTrue ascii =>
    -- The character is its own byte.
    rw [List.singleton_append, scanFrom_boundary, toNat_toUInt8 (by omega)]
    simp [lead, ascii, back]
  case isFalse wide =>
    split
    case isTrue two =>
      -- Six bits follow the leading byte.
      have first : lead (0xC0 + code / 64) = ([], .inside 1 0x80 0xBF (code / 64)) := by
        simp only [lead]
        rw [if_neg (by omega), if_neg (by omega), if_pos (by omega), Nat.add_sub_cancel_left]
      rw [List.cons_append, scanFrom_boundary, toNat_toUInt8 (by omega), first,
        List.singleton_append, scanFrom_last rest (by omega) (by omega) (by omega),
        Nat.div_add_mod', back, List.nil_append]
    case isFalse more =>
      split
      case isTrue three =>
        -- Twelve bits follow, and the code is no surrogate.
        have scalar : code < 0xD800 ∨ 0xDFFF < code := by omega
        obtain ⟨low, high, first, above, below⟩ := lead_three (by omega) three scalar
        have whole : (code / 4096 * 64 + code / 64 % 64) * 64 + code % 64 = code := by omega
        rw [List.cons_append, scanFrom_boundary, toNat_toUInt8 (by omega), first,
          List.cons_append, scanFrom_inside _ (by omega) above below, List.singleton_append,
          scanFrom_last rest (by omega) (by omega) (by omega), whole, back, List.nil_append]
      case isFalse four =>
        -- Eighteen bits follow, and the code is below the end of Unicode.
        have last : code < 0x110000 := by omega
        obtain ⟨low, high, first, above, below⟩ := lead_four (by omega) last
        have whole : ((code / 262144 * 64 + code / 4096 % 64) * 64 + code / 64 % 64) * 64
            + code % 64 = code := by omega
        rw [List.cons_append, scanFrom_boundary, toNat_toUInt8 (by omega), first,
          List.cons_append, scanFrom_inside _ (by omega) above below, List.cons_append,
          scanFrom_inside _ (by omega) (by omega) (by omega), List.singleton_append,
          scanFrom_last rest (by omega) (by omega) (by omega), whole, back, List.nil_append]

/-- The bytes of characters are scanned as those characters, whatever follows. -/
theorem scanFrom_flatMap_encodeChar (text : List Char) (rest : Bytes) :
    scanFrom .boundary (text.flatMap encodeChar ++ rest)
      = text.map some ++ scanFrom .boundary rest := by
  -- After each character the scan is at a boundary again.
  induction text with
  | nil => rfl
  | cons c text ih =>
    rw [List.flatMap_cons, List.append_assoc, scanFrom_encodeChar, ih, List.map_cons,
      List.cons_append]

/-- The bytes of a text are scanned as its characters. -/
theorem scan_encode (text : String) : scan (encode text) = text.toList.map some := by
  have all := scanFrom_flatMap_encodeChar text.toList []
  -- Behind the last character there is nothing left to scan.
  simpa [scan, encode, scanFrom] using all

/-- A text that was written as bytes is read back from them. -/
theorem decode?_encode (text : String) : decode? (encode text) = some text := by
  -- No place is malformed, so none stops the reading.
  have all (chars : List Char) : (chars.map some).mapM id = some chars := by
    induction chars with
    | nil => rfl
    | cons c chars ih => simp [ih]
  rw [decode?, scan_encode, all, Option.map_some, String.ofList_toList]

/-- A text that was written as bytes is read back with no place marked as malformed. -/
theorem decodeLossy_encode (text : String) : decodeLossy (encode text) = text := by
  -- With no malformed place there is nothing to be marked.
  simp [decodeLossy, scan_encode, Function.comp_def]

end RoomAir.Utf8
