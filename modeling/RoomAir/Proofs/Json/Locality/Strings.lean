import Mathlib.Tactic.SplitIfs
import RoomAir.Proofs.Json.Strings

/-! A string in a document is read by itself, whatever follows its closing quote. -/

namespace RoomAir.Json

/-- A computation of two parts succeeds where both of them do. -/
theorem exists_of_bind_eq_ok {ε α β : Type} {first : Except ε α} {second : α → Except ε β}
    {result : β} (done : (first >>= second) = .ok result) :
    ∃ value, first = .ok value ∧ second value = .ok result := by
  -- If the first part fails, so does the whole.
  cases first with
  | error fault => cases done
  | ok value => exact ⟨value, rfl, done⟩

/-- A computation that succeeds has a value. -/
theorem exists_of_isOk {ε α : Type} {result : Except ε α} (succeeds : result.isOk = true) :
    ∃ value, result = .ok value := by
  -- A failure is no success.
  cases result with
  | error fault => cases succeeds
  | ok value => exact ⟨value, rfl⟩

/-- A reader takes these bytes as what it finds, whatever follows them. -/
def Takes (read : Bytes → Except Fault (α × Bytes)) (used : Bytes) (found : α) : Prop :=
  ∀ rest, read (used ++ rest) = .ok (found, rest)

section Strings

variable {bytes rest found : Bytes}

/-! ## Escapes -/

/-- Four hexadecimal digits are read by themselves. -/
theorem exists_takes_readHex {code : Nat} (read : readHex bytes = .ok (code, rest)) :
    ∃ used, bytes = used ++ rest ∧ Takes readHex used code := by
  -- There must be four bytes, and each of them must be a digit.
  unfold readHex at read
  split at read
  case h_1 a b c d later =>
    split at read
    case h_1 high second third low digits =>
      simp only [Except.ok.injEq, Prod.mk.injEq] at read
      -- The four digits are what is taken, and they make up the same code whatever follows.
      obtain ⟨rfl, rfl⟩ := read
      exact ⟨[a, b, c, d], rfl, fun rest => by simp [readHex, *]⟩
    case h_2 => cases read
  case h_2 => cases read

/-- So is the second half of a surrogate pair. -/
theorem exists_takes_readTrailing {leading : Nat}
    (read : readTrailing leading bytes = .ok (found, rest)) :
    ∃ used, bytes = used ++ rest ∧ Takes (readTrailing leading) used found := by
  unfold readTrailing at read
  split at read
  -- Without two bytes in front reading fails.
  case h_1 => cases read
  case h_2 => split at read <;> cases read
  case h_3 first second later =>
    -- A backslash and its letter come before the digits.
    split at read
    case isTrue => cases read
    case isFalse backslash =>
      split at read
      case isTrue => cases read
      case isFalse letter =>
        obtain ⟨⟨trailing, left⟩, hex, done⟩ := exists_of_bind_eq_ok read
        -- The digits behind the two are read by themselves.
        obtain ⟨used, rfl, digits⟩ := exists_takes_readHex hex
        dsimp only at done
        split at done
        case isTrue => cases done
        case isFalse inRange =>
          simp only [Except.ok.injEq, Prod.mk.injEq] at done
          obtain ⟨rfl, rfl⟩ := done
          -- The backslash and the letter are taken together with the digits.
          refine ⟨first :: second :: used, rfl, fun rest => ?_⟩
          simp only [readTrailing, List.cons_append, backslash, letter, digits rest, bind,
            Except.bind, inRange]
          rfl

/-- A character given by its code units ends with the last of their digits. -/
theorem exists_takes_readUnicode (read : readUnicode bytes = .ok (found, rest)) :
    ∃ used, bytes = used ++ rest ∧ Takes readUnicode used found := by
  -- The first code unit is read by itself.
  obtain ⟨⟨code, left⟩, hex, done⟩ := exists_of_bind_eq_ok read
  obtain ⟨used, rfl, digits⟩ := exists_takes_readHex hex
  dsimp only at done
  split at done
  case isTrue => cases done
  case isFalse leading =>
    split at done
    case isTrue single =>
      simp only [Except.ok.injEq, Prod.mk.injEq] at done
      -- The unit is a character, and there is nothing else to take.
      obtain ⟨rfl, rfl⟩ := done
      refine ⟨used, rfl, fun rest => ?_⟩
      simp only [readUnicode, digits rest, bind, Except.bind, leading, single, if_true, if_false]
    case isFalse pair =>
      -- The first half of a pair is followed by the second one.
      obtain ⟨others, rfl, trailing⟩ := exists_takes_readTrailing done
      refine ⟨used ++ others, (List.append_assoc ..).symm, fun rest => ?_⟩
      rw [List.append_assoc]
      simp only [readUnicode, digits (others ++ rest), bind, Except.bind, leading, pair, if_false,
        trailing rest]

/-- An escape other than that of a code unit is one letter, or it is none. -/
theorem readEscape_letter {letter : UInt8} (noUnit : letter ≠ ascii 'u') :
    (∃ byte, ∀ after, readEscape (letter :: after) = .ok ([byte], after))
      ∨ ∀ after, readEscape (letter :: after) = .error ⟨.invalidEscape, after⟩ := by
  -- The letter of a code unit is compared first.
  have other : ¬ (letter == ascii 'u') = true := by simpa using noUnit
  -- What remains is a table of letters, each with its byte, and an error behind it.
  simp only [readEscape, if_neg other]
  split_ifs
  case neg => exact .inr fun _ => rfl
  all_goals exact .inl ⟨_, fun _ => rfl⟩

/-- An escape is read by itself. -/
theorem exists_takes_readEscape (read : readEscape bytes = .ok (found, rest)) :
    ∃ used, bytes = used ++ rest ∧ Takes readEscape used found := by
  cases bytes with
  -- Behind the backslash there has to be a letter.
  | nil => cases read
  | cons letter later =>
    by_cases unit : letter = ascii 'u'
    -- Letter and digits are taken together.
    · subst unit
      obtain ⟨used, rfl, takes⟩ := exists_takes_readUnicode (show readUnicode later = _ from read)
      exact ⟨ascii 'u' :: used, rfl, takes⟩
    · rcases readEscape_letter unit with ⟨byte, single⟩ | none
      -- The letter is all that is taken.
      · rw [single] at read
        simp only [Except.ok.injEq, Prod.mk.injEq] at read
        obtain ⟨rfl, rfl⟩ := read
        exact ⟨[letter], rfl, single⟩
      -- Any other letter is an error.
      · rw [none] at read
        cases read

/-! ## Whole strings -/

/-- What was read up to a closing quote is read so again, other bytes following the quote. -/
theorem exists_stringReads {fuel : Nat} {content : Bytes}
    (read : readStringBytes fuel bytes = .ok (content, rest)) :
    ∃ used, bytes = used ++ rest ∧ ∀ later, StringReads (used ++ later) content later := by
  -- Each step takes a quote, an escape or a plain byte, and the fuel says how many are left.
  induction fuel generalizing bytes content with
  -- Without steps nothing is read.
  | zero => cases read
  | succ fuel ih =>
    cases bytes with
    | nil => cases read
    | cons byte after =>
      unfold readStringBytes at read
      split at read
      -- The quote is taken, and the string ends with it.
      case isTrue quote =>
        simp only [Except.ok.injEq, Prod.mk.injEq] at read
        obtain ⟨rfl, rfl⟩ := read
        obtain rfl : byte = ascii '"' := by simpa using quote
        exact ⟨[ascii '"'], rfl, StringReads.quote⟩
      case isFalse notQuote =>
        split at read
        case isTrue backslash =>
          -- The escape is read by itself, and what follows it by induction.
          obtain rfl : byte = ascii '\\' := by simpa using backslash
          obtain ⟨⟨found, left⟩, escaped, done⟩ := exists_of_bind_eq_ok read
          obtain ⟨⟨more, last⟩, others, done⟩ := exists_of_bind_eq_ok done
          simp only [Except.ok.injEq, Prod.mk.injEq] at done
          obtain ⟨rfl, rfl⟩ := done
          obtain ⟨letters, rfl, takes⟩ := exists_takes_readEscape escaped
          obtain ⟨used, rfl, reads⟩ := ih others
          refine ⟨ascii '\\' :: (letters ++ used), by simp, fun later => ?_⟩
          rw [List.cons_append, List.append_assoc]
          exact .escape (takes _) (by simp) (reads later)
        case isFalse notBackslash =>
          split at read
          case isTrue => cases read
          case isFalse noControl =>
            obtain ⟨⟨more, last⟩, others, done⟩ := exists_of_bind_eq_ok read
            simp only [Except.ok.injEq, Prod.mk.injEq] at done
            obtain ⟨rfl, rfl⟩ := done
            -- The byte stands for itself, and what follows it is read by induction.
            obtain ⟨used, rfl, reads⟩ := ih others
            rw [UInt8.lt_iff_toNat_lt] at noControl
            exact ⟨byte :: used, rfl, fun later => .plain (by simpa using notQuote)
              (by simpa using notBackslash) (Nat.not_lt.mp noControl) (reads later)⟩

/-- A string after its opening quote is read up to its closing one. -/
theorem exists_takes_readString {text : String} (read : readString bytes = .ok (text, rest)) :
    ∃ used, bytes = used ++ rest ∧ Takes readString used text := by
  -- The content is read up to the quote before it is decoded.
  obtain ⟨⟨content, left⟩, inner, done⟩ := exists_of_bind_eq_ok read
  dsimp only at done
  split at done
  case h_1 text' decoded =>
    simp only [Except.ok.injEq, Prod.mk.injEq] at done
    obtain ⟨rfl, rfl⟩ := done
    obtain ⟨used, rfl, reads⟩ := exists_stringReads inner
    -- The reader allows one step more than there are bytes, which is enough again.
    refine ⟨used, rfl, fun later => ?_⟩
    simp only [readString, reads later _ (Nat.lt_succ_self _), bind, Except.bind, decoded]
  -- Bytes that are no text are an error.
  case h_2 => cases done

end Strings

end RoomAir.Json
