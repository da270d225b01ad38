namespace LatchMutex

/-!
# Text

Lines, blanks, hexadecimal bytes, and the bytes of a text.
-/

namespace Text

/-- Whether a character is white space in the sense of the Unicode property. -/
def isBlank (character : Char) : Bool :=
  let point := character.toNat
  (0x09 ≤ point && point ≤ 0x0D) || point = 0x20 || point = 0x85 || point = 0xA0
    || point = 0x1680 || (0x2000 ≤ point && point ≤ 0x200A) || point = 0x2028
    || point = 0x2029 || point = 0x202F || point = 0x205F || point = 0x3000

/-- The text without the blanks at both ends. -/
def trim (text : String) : String :=
  let rest := text.toList.dropWhile isBlank
  String.ofList (rest.reverse.dropWhile isBlank).reverse

/-- A line without the carriage return that ended it; the line is given latest character first. -/
def endLine : List Char → List Char
  | '\r' :: rest => rest.reverse
  | characters => characters.reverse

/-- Lines of a text, each ended by a line feed except perhaps the last, after part of a line. -/
def linesFrom (part : List Char) : List Char → List (List Char)
  | [] => if part.isEmpty then [] else [part.reverse]
  | '\n' :: rest => endLine part :: linesFrom [] rest
  | character :: rest => linesFrom (character :: part) rest

/-- Lines of a text; a carriage return before a line feed is no part of a line. -/
def lines (text : String) : List String :=
  (linesFrom [] text.toList).map String.ofList

/-- Number of double colons, counted from the left and without overlap. -/
def separators : List Char → Nat
  | ':' :: ':' :: rest => separators rest + 1
  | _ :: rest => separators rest
  | [] => 0

/-- Text in lower case, as far as it is ASCII. -/
def fold (text : String) : String :=
  text.map Char.toLower

/-- Lower-case hexadecimal digit. -/
def hexDigit (digit : Nat) : Char :=
  if digit < 10 then Char.ofNat (48 + digit) else Char.ofNat (87 + digit)

/-- Bytes as two lower-case hexadecimal digits each. -/
def hex (bytes : List UInt8) : String :=
  String.ofList
    (bytes.flatMap fun byte => [hexDigit (byte.toNat / 16), hexDigit (byte.toNat % 16)])

/-- Text of bytes that are valid UTF-8. -/
def ofBytes? (bytes : List UInt8) : Option String :=
  String.fromUTF8? ⟨bytes.toArray⟩

/-- Bytes of a text. -/
def toBytes (text : String) : List UInt8 :=
  text.toUTF8.toList

end Text

end LatchMutex
