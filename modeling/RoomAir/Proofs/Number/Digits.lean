import Mathlib.Data.List.Induction
import RoomAir.Number.Literal

/-! Whole numbers written in decimal digits, and the digits read back. -/

namespace RoomAir

/-- What holds of every item of a list can be checked item by item. -/
theorem forall_mem_of_all {items : List α} {holds : α → Prop} [DecidablePred holds]
    (checked : items.all (fun item => decide (holds item)) = true) :
    ∀ item ∈ items, holds item := by
  simpa using checked

/-- The ten digits. -/
def digitChars : List Char :=
  ['0', '1', '2', '3', '4', '5', '6', '7', '8', '9']

/-- There is no other digit. -/
theorem mem_digitChars {c : Char} (digit : c.isDigit = true) : c ∈ digitChars := by
  -- The codes of ASCII are looked at one by one.
  have all : ∀ code < 0x80, (Char.ofNat code).isDigit = true → Char.ofNat code ∈ digitChars := by
    decide +kernel
  -- A digit is an ASCII character, so its code is among those that were looked at.
  have small : c.toNat < 0x80 :=
    Nat.lt_of_le_of_lt (Char.isDigit_iff_toNat.mp digit).2 (by decide)
  have found := all c.toNat small
  rw [Char.ofNat_toNat] at found
  exact found digit

/-- What holds of each of the ten digits holds of every character that is a digit. -/
@[elab_as_elim]
theorem of_isDigit {motive : Char → Prop} [DecidablePred motive] {c : Char}
    (digit : c.isDigit = true)
    (checked : digitChars.all (fun c => decide (motive c)) = true) : motive c :=
  forall_mem_of_all checked c (mem_digitChars digit)

/-- What follows a run of what a class accepts: nothing, or something the class rejects. -/
def EndsRun (accepts : α → Bool) (rest : List α) : Prop :=
  ∀ next ∈ rest.head?, accepts next = false

/-- Nothing ends any run. -/
theorem endsRun_nil (accepts : α → Bool) : EndsRun accepts [] := by
  simp [EndsRun]

/-- What a class rejects ends a run of what it accepts. -/
theorem endsRun_cons {accepts : α → Bool} {next : α} (rejected : accepts next = false)
    (rest : List α) : EndsRun accepts (next :: rest) := by
  simp [EndsRun, rejected]

/-- A run is taken as a whole and no further. -/
theorem takeWhile_run {accepts : α → Bool} {run rest : List α}
    (all : ∀ item ∈ run, accepts item = true) (ends : EndsRun accepts rest) :
    (run ++ rest).takeWhile accepts = run := by
  rw [List.takeWhile_append_of_pos all]
  -- Whatever comes next is not taken.
  cases rest with
  | nil => simp
  | cons next rest => simp [ends next rfl]

/-- What is left after a run is what follows it. -/
theorem dropWhile_run {accepts : α → Bool} {run rest : List α}
    (all : ∀ item ∈ run, accepts item = true) (ends : EndsRun accepts rest) :
    (run ++ rest).dropWhile accepts = rest := by
  rw [List.dropWhile_append_of_pos all]
  -- Whatever comes next is not dropped.
  cases rest with
  | nil => rfl
  | cons next rest => simp [ends next rfl]

/-- The digits are weighed as they are for a number of base ten. -/
theorem digitsValue_eq_ofDigitChars (digits : List Char) :
    digitsValue digits = Nat.ofDigitChars 10 digits 0 := by
  -- The two differ in the side on which ten stands in the product.
  simp only [digitsValue, Nat.ofDigitChars_eq_foldl, Nat.mul_comm]

/-- Digits before others count in the power of ten that the others take up. -/
theorem digitsValue_append (first second : List Char) :
    digitsValue (first ++ second)
      = digitsValue first * 10 ^ second.length + digitsValue second := by
  simp only [digitsValue_eq_ofDigitChars]
  -- A number with digits behind it counts as many times as the power of ten says.
  rw [Nat.ofDigitChars_append, Nat.ofDigitChars_eq_ofDigitChars_zero, Nat.mul_comm]

/-- A run of digits spells less than the power of ten behind it. -/
theorem digitsValue_lt {digits : List Char} (all : ∀ c ∈ digits, c.isDigit = true) :
    digitsValue digits < 10 ^ digits.length := by
  -- The last digit is added to ten times the number before it.
  induction digits using List.reverseRecOn with
  -- Without digits the number is zero, which is below one.
  | nil => decide
  | append_singleton digits digit ih =>
    have before := ih fun c member => all c (List.mem_append_left _ member)
    have last : digitsValue [digit] < 10 := of_isDigit (all digit (by simp)) (by decide)
    rw [digitsValue_append, List.length_append, List.length_singleton, Nat.pow_succ]
    omega

/-- Digits spell zero exactly when each of them is one. -/
theorem digitsValue_eq_zero_iff {digits : List Char} (all : ∀ c ∈ digits, c.isDigit = true) :
    digitsValue digits = 0 ↔ ∀ c ∈ digits, c = '0' := by
  -- The last digit is added to ten times the number before it, so both have to be zero.
  induction digits using List.reverseRecOn with
  -- Without digits there is no digit that could differ from zero.
  | nil => simp [digitsValue]
  | append_singleton digits digit ih =>
    have before := ih fun c member => all c (List.mem_append_left _ member)
    have last : digitsValue [digit] = 0 ↔ digit = '0' :=
      of_isDigit (all digit (by simp)) (by decide)
    rw [digitsValue_append, List.forall_mem_append, List.forall_mem_singleton, ← before, ← last,
      List.length_singleton]
    omega

/-- The digits of a number spell that number. -/
@[simp] theorem digitsValue_toDigits (value : Nat) :
    digitsValue (Nat.toDigits 10 value) = value := by
  rw [digitsValue_eq_ofDigitChars, Nat.ofDigitChars_ten_toDigits]

/-- Zeros alone spell zero. -/
@[simp] theorem digitsValue_replicate_zero (count : Nat) :
    digitsValue (List.replicate count '0') = 0 := by
  rw [digitsValue_eq_ofDigitChars, Nat.ofDigitChars_replicate_zero, Nat.mul_zero]

/-- A number is written in digits only. -/
theorem isDigit_of_mem_toDigits {value : Nat} {c : Char} (member : c ∈ Nat.toDigits 10 value) :
    c.isDigit = true :=
  Nat.isDigit_of_mem_toDigits (by decide) (by decide) member

end RoomAir
