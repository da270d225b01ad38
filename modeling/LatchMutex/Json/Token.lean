import LatchMutex.Json.Number

namespace LatchMutex

/-!
# Tokens of JSON text

`Token.scan?` cuts text into tokens, one character at a time, by the strict grammar
of JSON.  Blanks between tokens are space, tab, carriage return and line feed, and
there are no comments.  A number has no plus sign and no leading zero, and digits on
both sides of a point.  In a string a control character below the blank has to be
escaped, by one of the short escapes or by `u` and four hexadecimal digits.

A string token keeps its text, or nothing if it escapes one half of a surrogate pair
without the other: such a string is spelled correctly but stands for no text.
-/

/-- A token of JSON text. -/
inductive Token where
  | openBrace
  | closeBrace
  | openBracket
  | closeBracket
  | comma
  | colon
  | null
  | bool (value : Bool)
  | number (literal : Literal)
  /-- A string, or a correctly spelled string that stands for no text. -/
  | string (text : Option String)
  deriving Repr, DecidableEq, Inhabited

/-- Text of a string under construction: its characters, latest first, while it has a text. -/
abbrev Draft := Option (List Char)

namespace Draft

/-- Add a character. -/
def push (draft : Draft) (character : Char) : Draft :=
  draft.map (character :: ·)

/-- The finished text. -/
def finish (draft : Draft) : Option String :=
  draft.map fun characters => String.ofList characters.reverse

end Draft

/-- Where the scanner stands in a token. -/
inductive ScanMode where
  | between
  /-- In a word, with the characters still to come and the token it stands for. -/
  | word (rest : List Char) (token : Token)
  /-- In a string, after a high surrogate escape if there is one to pair. -/
  | string (draft : Draft) (high : Option Nat)
  /-- After a backslash. -/
  | escape (draft : Draft) (high : Option Nat)
  /-- In the four digits of a unit escape, with the value and the number of digits so far. -/
  | unit (draft : Draft) (high : Option Nat) (value count : Nat)
  /-- After a minus sign. -/
  | sign
  /-- In the digits before the point, latest first. -/
  | whole (negative : Bool) (digits : List Nat)
  /-- In the digits after the point, latest first. -/
  | fraction (literal : Literal) (digits : List Nat)
  /-- After the exponent mark. -/
  | mark (literal : Literal)
  /-- In the digits of the exponent, latest first, after its sign if there is one. -/
  | exponent (literal : Literal) (below : Bool) (digits : List Nat)
  deriving Repr, DecidableEq

/-- A scanner under way: its mode and the tokens so far, latest first. -/
structure Scan where
  mode : ScanMode := .between
  tokens : List Token := []
  deriving Repr, DecidableEq

namespace Scan

/-- Whether a character is a blank between tokens. -/
def isBlank (character : Char) : Bool :=
  character ∈ [' ', '\t', '\n', '\r']

/-- Finish a token. -/
def emit (scan : Scan) (token : Token) : Scan :=
  { mode := .between, tokens := token :: scan.tokens }

/-- Go on in another mode. -/
def enter (scan : Scan) (mode : ScanMode) : Scan :=
  { scan with mode }

/-- First character of a token, or a blank. -/
def start (scan : Scan) (character : Char) : Option Scan :=
  match character with
  | '\x7b' => some (scan.emit .openBrace)
  | '\x7d' => some (scan.emit .closeBrace)
  | '[' => some (scan.emit .openBracket)
  | ']' => some (scan.emit .closeBracket)
  | ',' => some (scan.emit .comma)
  | ':' => some (scan.emit .colon)
  | '"' => some (scan.enter (.string (some []) none))
  | 'n' => some (scan.enter (.word ['u', 'l', 'l'] .null))
  | 't' => some (scan.enter (.word ['r', 'u', 'e'] (.bool true)))
  | 'f' => some (scan.enter (.word ['a', 'l', 's', 'e'] (.bool false)))
  | '-' => some (scan.enter .sign)
  | _ =>
      if isBlank character then
        some (scan.enter .between)
      else
        (Digits.ofChar? character).map fun digit => scan.enter (.whole false [digit])

/-- Finish a number at the character after it. -/
def close (scan : Scan) (literal : Literal) (character : Char) : Option Scan :=
  (scan.emit (.number literal)).start character

/-- Value of a hexadecimal digit. -/
def hexValue? (character : Char) : Option Nat :=
  if '0' ≤ character ∧ character ≤ '9' then
    some (character.toNat - 48)
  else if 'a' ≤ character ∧ character ≤ 'f' then
    some (character.toNat - 87)
  else if 'A' ≤ character ∧ character ≤ 'F' then
    some (character.toNat - 55)
  else
    none

/-- Character of a short escape. -/
def escaped? (character : Char) : Option Char :=
  match character with
  | '"' => some '"'
  | '\\' => some '\\'
  | '/' => some '/'
  | 'b' => some '\x08'
  | 'f' => some '\x0c'
  | 'n' => some '\n'
  | 'r' => some '\r'
  | 't' => some '\t'
  | _ => none

/-- A high surrogate that was not paired leaves the string without text. -/
def unpaired (draft : Draft) (high : Option Nat) : Draft :=
  if high.isSome then none else draft

/-- Go on in a string after a whole unit escape. -/
def takeUnit (draft : Draft) (high : Option Nat) (unit : Nat) : ScanMode :=
  if 0xD800 ≤ unit ∧ unit < 0xDC00 then
    .string (unpaired draft high) (some unit)
  else if 0xDC00 ≤ unit ∧ unit < 0xE000 then
    match high with
    | some first =>
        let point := 0x10000 + (first - 0xD800) * 0x400 + (unit - 0xDC00)
        .string (draft.push (Char.ofNat point)) none
    | none => .string none none
  else
    .string ((unpaired draft high).push (Char.ofNat unit)) none

/-- Take one character. -/
def step (scan : Scan) (character : Char) : Option Scan :=
  match scan.mode with
  | .between => scan.start character
  | .word [] _ => none
  | .word (expected :: rest) token =>
      if character = expected then
        some (if rest.isEmpty then scan.emit token else scan.enter (.word rest token))
      else
        none
  | .string draft high =>
      if character = '"' then
        some (scan.emit (.string (unpaired draft high).finish))
      else if character = '\\' then
        some (scan.enter (.escape draft high))
      else if character.toNat < 0x20 then
        none
      else
        some (scan.enter (.string ((unpaired draft high).push character) none))
  | .escape draft high =>
      if character = 'u' then
        some (scan.enter (.unit draft high 0 0))
      else
        (escaped? character).map fun plain =>
          scan.enter (.string ((unpaired draft high).push plain) none)
  | .unit draft high value count =>
      (hexValue? character).map fun digit =>
        let longer := 16 * value + digit
        if count = 3 then
          scan.enter (takeUnit draft high longer)
        else
          scan.enter (.unit draft high longer (count + 1))
  | .sign => (Digits.ofChar? character).map fun digit => scan.enter (.whole true [digit])
  | .whole negative digits =>
      let literal : Literal := { negative, whole := digits.reverse }
      match Digits.ofChar? character with
      | some digit =>
          if digits = [0] then none else some (scan.enter (.whole negative (digit :: digits)))
      | none =>
          if character = '.' then
            some (scan.enter (.fraction literal []))
          else if character = 'e' ∨ character = 'E' then
            some (scan.enter (.mark literal))
          else
            scan.close literal character
  | .fraction literal digits =>
      let longer : Literal := { literal with fraction := some digits.reverse }
      match Digits.ofChar? character with
      | some digit => some (scan.enter (.fraction literal (digit :: digits)))
      | none =>
          if digits.isEmpty then
            none
          else if character = 'e' ∨ character = 'E' then
            some (scan.enter (.mark longer))
          else
            scan.close longer character
  | .mark literal =>
      if character = '+' then
        some (scan.enter (.exponent literal false []))
      else if character = '-' then
        some (scan.enter (.exponent literal true []))
      else
        (Digits.ofChar? character).map fun digit =>
          scan.enter (.exponent literal false [digit])
  | .exponent literal below digits =>
      match Digits.ofChar? character with
      | some digit => some (scan.enter (.exponent literal below (digit :: digits)))
      | none =>
          if digits.isEmpty then
            none
          else
            scan.close { literal with exponent := some (below, digits.reverse) } character

end Scan

namespace Token

/-- The tokens of a text, if it consists of tokens and blanks; a blank ends the last token. -/
def scan? (characters : List Char) : Option (List Token) := do
  let scanned ← characters.foldlM Scan.step {}
  let ended ← scanned.step ' '
  if ended.mode = .between then some ended.tokens.reverse else none

end Token

end LatchMutex
