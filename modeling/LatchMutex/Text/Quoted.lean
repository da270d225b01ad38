import LatchMutex.Text
import LatchMutex.Text.Extending
import LatchMutex.Text.Unassigned

namespace LatchMutex

/-!
# Quoted texts

A diagnostic quotes a text so that every character of it can be told apart.
Quotes, backslashes and the common control characters have short forms.  Other
characters that would not show, or would merge with the one before them, are
given by their number.
-/

namespace Text

/-- Characters that do not show: controls, format marks, fillers, separators other than the
space, and points for private use. -/
def unseen : PointTable :=
  [(0x0, 0x1F), (0x7F, 0xA0), (0xAD, 0xAD), (0x600, 0x605), (0x61C, 0x61C), (0x6DD, 0x6DD),
    (0x70F, 0x70F), (0x890, 0x891), (0x8E2, 0x8E2), (0x115F, 0x1160), (0x1680, 0x1680),
    (0x180E, 0x180E), (0x2000, 0x200F), (0x2028, 0x202F), (0x205F, 0x2064), (0x2066, 0x206F),
    (0x3000, 0x3000), (0x3164, 0x3164), (0xE000, 0xF8FF), (0xFEFF, 0xFEFF), (0xFFA0, 0xFFA0),
    (0xFFF9, 0xFFFB), (0x110BD, 0x110BD), (0x110CD, 0x110CD), (0x13430, 0x1343F),
    (0x1BCA0, 0x1BCA3), (0x1D173, 0x1D17A), (0xE0001, 0xE0001), (0xE0020, 0xE007F),
    (0xF0000, 0xFFFFD), (0x100000, 0x10FFFD)]

/-- The ranges of the characters that do not show ascend and do not touch. -/
theorem ascends_unseen : unseen.ascends = true := by
  decide +kernel

/-- The halfwidth sound marks, which extend the character before them but fill a cell of their
own next to it. -/
def isSoundMark (character : Char) : Bool :=
  character = '\uFF9E' || character = '\uFF9F'

/-- Characters that would merge with the one before them. -/
def merges (character : Char) : Bool :=
  extending.contains character && !isSoundMark character

/-- Whether a quoted text gives a character by its number. -/
def isNumbered (character : Char) : Bool :=
  unseen.contains character || merges character || unassigned.contains character

/-- Hexadecimal digits of a number, most significant one first, at most eight. -/
def hexOf (number : Nat) : List Char :=
  let digits := (List.range 8).map fun index => number / Nat.pow 16 (7 - index) % 16
  let significant := digits.dropWhile (· = 0)
  (if significant.isEmpty then [0] else significant).map hexDigit

/-- A character inside a quoted text. -/
def escape (character : Char) : List Char :=
  match character with
  | '"' => ['\\', '"']
  | '\\' => ['\\', '\\']
  | '\t' => ['\\', 't']
  | '\n' => ['\\', 'n']
  | '\r' => ['\\', 'r']
  | '\x00' => ['\\', '0']
  | other =>
      if isNumbered other then
        ['\\', 'u', '\x7b'] ++ hexOf other.toNat ++ ['\x7d']
      else
        [other]

/-- A text in quotes. -/
def quote (text : String) : String :=
  String.ofList ('"' :: text.toList.flatMap escape ++ ['"'])

end Text

end LatchMutex
