import RoomAir.Text.Utf8

/-! Punycode: words of any script in letters, digits and hyphens. -/

namespace RoomAir.Punycode

/-! ## Numbers -/

/-- A digit in base 36, the letters standing for the lower values. -/
def digit (value : Nat) : Char :=
  if value < 26 then Char.ofNat ('a'.toNat + value) else Char.ofNat ('0'.toNat + (value - 26))

/-- The value from which on a digit at a position says that another one follows. -/
def threshold (bias position : Nat) : Nat :=
  max 1 (min 26 (position - bias))

/-- A number in digits that say themselves where the last one is. -/
def digits (bias position value : Nat) : List Char :=
  let least := threshold bias position
  if value < least then [digit value]
  else
    let rest := value - least
    let base := 36 - least
    digit (least + rest % base) :: digits bias (position + 36) (rest / base)
termination_by value
decreasing_by
  have positive : 1 ≤ threshold bias position := Nat.le_max_left ..
  exact Nat.lt_of_le_of_lt (Nat.div_le_self ..) (by omega)

/-- A number brought below a bound, and how far the positions move for it. -/
def reduce (value : Nat) : Nat × Nat :=
  if value ≤ 455 then (value, 0)
  else
    let (rest, moved) := reduce (value / 35)
    (rest, moved + 36)
termination_by value
decreasing_by exact Nat.div_lt_self (by omega) (by omega)

/-- The bias for the next number after one that so many characters led to. -/
def adapt (first : Bool) (number characters : Nat) : Nat :=
  let scaled := if first then number / 700 else number / 2
  let (rest, moved) := reduce (scaled + scaled / characters)
  moved + 36 * rest / (rest + 38)

/-! ## Words -/

/-- How far a word has been written. -/
structure Written where
  text : List Char
  /-- The steps since the last character that was written, each past a place or a code point. -/
  steps : Nat
  bias : Nat
  /-- How many characters have been written. -/
  count : Nat
  /-- Whether every one of them stands for itself. -/
  plain : Bool

namespace Written

/-- Goes past one place of a word while a code point is written. -/
def pass (code : Nat) (written : Written) (c : Char) : Written :=
  if c.toNat < code then { written with steps := written.steps + 1 }
  else if c.toNat = code then
    { text := written.text ++ digits written.bias 36 written.steps
      steps := 0
      bias := adapt written.plain written.steps (written.count + 1)
      count := written.count + 1
      plain := false }
  else written

/-- Writes the places of code points in a word, the code points ascending from the given one. -/
def passAll (word : List Char) : Nat → List Nat → Written → Written
  | _, [], written => written
  | least, code :: codes, written =>
    let skipped := { written with
      steps := written.steps + (code - least) * (written.count + 1) }
    let passed := word.foldl (pass code) skipped
    passAll word (code + 1) codes { passed with steps := passed.steps + 1 }

end Written

/-- Whether a character stands for itself. -/
def isPlain (c : Char) : Bool :=
  c.toNat < 0x80

/-- A word in punycode: its plain characters, a hyphen after them, and the places of the others. -/
def encode (word : List Char) : List Char :=
  let plain := word.filter isPlain
  let codes := ((word.filter (!isPlain ·)).map Char.toNat).mergeSort.eraseDups
  let start := if plain.isEmpty then [] else plain ++ ['-']
  (Written.passAll word 0x80 codes ⟨start, 0, 72, plain.length, true⟩).text

end RoomAir.Punycode
