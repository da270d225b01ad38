namespace LatchMutex

/-!
# Decimal digits

Decimal notation of a natural number as a list of digits, most significant one
first, and of its text.  Reading what was written gives the number back.
-/

namespace Digits

/-- Digits of a number, most significant one first. -/
def ofNat (number : Nat) : List Nat :=
  if number < 10 then
    [number]
  else
    ofNat (number / 10) ++ [number % 10]

/-- Continue a number by one digit. -/
def push (number digit : Nat) : Nat :=
  10 * number + digit

/-- Number written by digits, most significant one first. -/
def toNat (digits : List Nat) : Nat :=
  digits.foldl push 0

/-- Number written by digits, or a limit if the number is above it. -/
def toNatUpTo (limit : Nat) (digits : List Nat) : Nat :=
  digits.foldl (fun number digit => min limit (push number digit)) 0

/-- Character of a digit. -/
def char (digit : Nat) : Char :=
  Char.ofNat (48 + digit)

/-- Digit of a character. -/
def ofChar? (character : Char) : Option Nat :=
  if '0' ≤ character ∧ character ≤ '9' then
    some (character.toNat - 48)
  else
    none

/-- Decimal text of a number. -/
def text (number : Nat) : List Char :=
  (ofNat number).map char

/-- Decimal text of an integer, with a sign only if it is negative. -/
def signedText (number : Int) : List Char :=
  if number < 0 then '-' :: text number.natAbs else text number.natAbs

/-- Decimal text of a number with at least so many digits. -/
def paddedText (width number : Nat) : List Char :=
  let digits := text number
  List.replicate (width - digits.length) '0' ++ digits

/-- Number that a text spells, if it is all digits and not empty. -/
def parse? (characters : List Char) : Option Nat :=
  if characters.isEmpty then
    none
  else
    (characters.mapM ofChar?).map toNat

theorem toNat_append (digits : List Nat) (digit : Nat) :
    toNat (digits ++ [digit]) = push (toNat digits) digit := by
  simp [toNat]

theorem min_push_min (limit number digit : Nat) :
    min limit (push (min limit number) digit) = min limit (push number digit) := by
  simp only [push]
  omega

/-- Reading up to a limit gives the lesser of the limit and the number. -/
theorem toNatUpTo_eq_min (limit : Nat) (digits : List Nat) :
    toNatUpTo limit digits = min limit (toNat digits) := by
  have general : ∀ (digits : List Nat) (number : Nat),
      digits.foldl (fun number digit => min limit (push number digit)) (min limit number) =
        min limit (digits.foldl push number) := by
    intro digits
    induction digits with
    | nil => simp
    | cons digit rest inductionHypothesis =>
        intro number
        simp only [List.foldl_cons]
        rw [min_push_min, inductionHypothesis]
  have start := general digits 0
  rwa [Nat.min_zero] at start

/-- Reading the digits of a number gives the number. -/
theorem toNat_ofNat (number : Nat) : toNat (ofNat number) = number := by
  induction number using Nat.strongRecOn with
  | ind number inductionHypothesis =>
      unfold ofNat
      split
      · simp [toNat, push]
      · rename_i large
        rw [toNat_append, inductionHypothesis (number / 10) (by omega)]
        simp only [push]
        omega

/-- Every digit is below ten. -/
theorem lt_ten_of_mem_ofNat (number : Nat) : ∀ digit ∈ ofNat number, digit < 10 := by
  induction number using Nat.strongRecOn with
  | ind number inductionHypothesis =>
      intro digit member
      unfold ofNat at member
      split at member
      · simp_all
      · rename_i large
        rcases List.mem_append.mp member with higher | lowest
        · exact inductionHypothesis (number / 10) (by omega) digit higher
        · simp only [List.mem_singleton] at lowest
          omega

/-- A digit is read back from its character. -/
theorem ofChar?_char {digit : Nat} (small : digit < 10) : ofChar? (char digit) = some digit := by
  have all : ∀ digit < 10, ofChar? (char digit) = some digit := by decide
  exact all digit small

/-- Leading zeros do not change a number. -/
theorem toNat_zeros (count : Nat) (digits : List Nat) :
    toNat (List.replicate count 0 ++ digits) = toNat digits := by
  have zeros : (List.replicate count 0).foldl push 0 = 0 := by
    induction count with
    | zero =>
        rfl
    | succ count inductionHypothesis =>
        simpa [List.replicate_succ, push] using inductionHypothesis
  simp [toNat, zeros]

/-- The digits of a number are read back from its text, whatever its width. -/
theorem mapM_ofChar?_paddedText (width number : Nat) :
    (paddedText width number).mapM ofChar? =
      some (List.replicate (width - (text number).length) 0 ++ ofNat number) := by
  have digits (digits : List Nat) (small : ∀ digit ∈ digits, digit < 10) :
      (digits.map char).mapM ofChar? = some digits := by
    induction digits with
    | nil =>
        rfl
    | cons digit rest inductionHypothesis =>
        have first := ofChar?_char (small digit (by simp))
        have later := inductionHypothesis fun other member => small other (by simp [member])
        simp [first, later]
  have padded (count : Nat) : List.replicate count '0' = (List.replicate count 0).map char := by
    rw [List.map_replicate]
    rfl
  rw [paddedText, padded, text, ← List.map_append]
  refine digits _ fun digit member => ?_
  rcases List.mem_append.mp member with zero | digit
  · rw [List.eq_of_mem_replicate zero]
    decide
  · exact lt_ten_of_mem_ofNat number _ digit

/-- Numbers with the same text are the same. -/
theorem paddedText_injective
    {width first second : Nat}
    (same : paddedText width first = paddedText width second) :
    first = second := by
  have digits := congrArg (List.mapM ofChar?) same
  rw [mapM_ofChar?_paddedText, mapM_ofChar?_paddedText] at digits
  have numbers := congrArg toNat (Option.some.inj digits)
  rwa [toNat_zeros, toNat_zeros, toNat_ofNat, toNat_ofNat] at numbers

/-- The text of a number is made of digits. -/
theorem ofChar?_of_mem_paddedText
    {width number : Nat}
    {character : Char}
    (member : character ∈ paddedText width number) :
    ∃ digit, ofChar? character = some digit := by
  rcases List.mem_append.mp member with zero | written
  · rw [List.eq_of_mem_replicate zero]
    exact ⟨0, by decide⟩
  · obtain ⟨digit, inNumber, rfl⟩ := List.mem_map.mp written
    exact ⟨digit, ofChar?_char (lt_ten_of_mem_ofNat number digit inNumber)⟩

/-- A padded number is read back from its text. -/
theorem parse?_paddedText (width number : Nat) :
    parse? (paddedText width number) = some number := by
  have present : (paddedText width number).isEmpty = false := by
    have written : text number ≠ [] := by
      rw [text, ofNat]
      split <;> simp
    simp [paddedText, written]
  simp [parse?, present, mapM_ofChar?_paddedText, toNat_zeros, toNat_ofNat]

end Digits

end LatchMutex
