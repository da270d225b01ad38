import LatchMutex.Json.Value
import LatchMutex.Text

namespace LatchMutex

/-!
# Printing JSON

`Document` is what is printed: a value whose members stay in the order in which
they are given, so that records keep the order of their fields.  `compact` writes
no blanks; `pretty` starts a line for each item, indents by two blanks, writes one
behind a colon, and writes an empty container without any.

Quotes, backslashes and control characters below the blank are escaped, with the short
escape where there is one and lower-case hexadecimal digits otherwise; every other
character stands for itself.  Integers are written out.  A binary64 number is the
shortest decimal that reads back as it, with a point if it is integral, and with an
exponent below 1e-5 and from 1e16 on.
-/

/-- A value to be printed, with members in the order of printing. -/
inductive Document where
  | null
  | bool (value : Bool)
  | number (value : Number)
  | string (text : String)
  | array (items : List Document)
  | object (members : List (String × Document))
  deriving Repr, Inhabited

namespace Document

/-- Spelling of a character inside a string. -/
def escape (character : Char) : List Char :=
  match character with
  | '"' => ['\\', '"']
  | '\\' => ['\\', '\\']
  | '\x08' => ['\\', 'b']
  | '\t' => ['\\', 't']
  | '\n' => ['\\', 'n']
  | '\x0c' => ['\\', 'f']
  | '\r' => ['\\', 'r']
  | other =>
      if other.toNat < 0x20 then
        ['\\', 'u', '0', '0', Text.hexDigit (other.toNat / 16),
          Text.hexDigit (other.toNat % 16)]
      else
        [other]

/-- A string in quotes. -/
def quote (text : String) : List Char :=
  '"' :: text.toList.flatMap escape ++ ['"']

/-- Text of a truth value. -/
def boolText (value : Bool) : List Char :=
  (if value then "true" else "false").toList

mutual

/-- Text without blanks. -/
def compactText : Document → List Char
  | .null => "null".toList
  | .bool value => boolText value
  | .number value => value.text
  | .string text => quote text
  | .array items => '[' :: compactItems items
  | .object members => '\x7b' :: compactMembers members

/-- Items without blanks, up to the closing bracket. -/
def compactItems : List Document → List Char
  | [] => [']']
  | item :: rest => compactText item ++ compactItemsAfter rest

/-- Further items without blanks. -/
def compactItemsAfter : List Document → List Char
  | [] => [']']
  | item :: rest => ',' :: compactText item ++ compactItemsAfter rest

/-- Members without blanks, up to the closing brace. -/
def compactMembers : List (String × Document) → List Char
  | [] => ['\x7d']
  | (key, value) :: rest => quote key ++ ':' :: compactText value ++ compactMembersAfter rest

/-- Further members without blanks. -/
def compactMembersAfter : List (String × Document) → List Char
  | [] => ['\x7d']
  | (key, value) :: rest =>
      ',' :: quote key ++ ':' :: compactText value ++ compactMembersAfter rest

end

/-- A new line at a given depth. -/
def newLine (depth : Nat) : List Char :=
  '\n' :: List.replicate (2 * depth) ' '

mutual

/-- Text with one item a line, at a given depth. -/
def prettyText (depth : Nat) : Document → List Char
  | .null => "null".toList
  | .bool value => boolText value
  | .number value => value.text
  | .string text => quote text
  | .array items => '[' :: prettyItems depth items
  | .object members => '\x7b' :: prettyMembers depth members

/-- Items one a line, up to the closing bracket. -/
def prettyItems (depth : Nat) : List Document → List Char
  | [] => [']']
  | item :: rest =>
      newLine (depth + 1) ++ prettyText (depth + 1) item ++ prettyItemsAfter depth rest

/-- Further items one a line. -/
def prettyItemsAfter (depth : Nat) : List Document → List Char
  | [] => newLine depth ++ [']']
  | item :: rest =>
      ',' :: newLine (depth + 1) ++ prettyText (depth + 1) item ++ prettyItemsAfter depth rest

/-- Members one a line, up to the closing brace. -/
def prettyMembers (depth : Nat) : List (String × Document) → List Char
  | [] => ['\x7d']
  | (key, value) :: rest =>
      newLine (depth + 1) ++ quote key ++ ':' :: ' ' :: prettyText (depth + 1) value
        ++ prettyMembersAfter depth rest

/-- Further members one a line. -/
def prettyMembersAfter (depth : Nat) : List (String × Document) → List Char
  | [] => newLine depth ++ ['\x7d']
  | (key, value) :: rest =>
      ',' :: newLine (depth + 1) ++ quote key ++ ':' :: ' ' :: prettyText (depth + 1) value
        ++ prettyMembersAfter depth rest

end

/-- Text without blanks. -/
def compact (document : Document) : String :=
  String.ofList document.compactText

/-- Text with one item a line. -/
def pretty (document : Document) : String :=
  String.ofList (document.prettyText 0)

/-- Integer to be printed; one that fits no 64 bits prints as null. -/
def ofInt (value : Int) : Document :=
  match Number.ofInt? value with
  | some fitting => .number fitting
  | none => .null

/-- A member for a field that is there, and none for one that is absent. -/
def optional (key : String) (field : Option Document) : List (String × Document) :=
  field.toList.map (key, ·)

/-- List of texts. -/
def strings (texts : List String) : Document :=
  .array (texts.map .string)

end Document

namespace Json

mutual

/-- The value as it is printed. -/
def toDocument : Json → Document
  | .null => .null
  | .bool value => .bool value
  | .number value => .number value
  | .string text => .string text
  | .array items => .array (itemDocuments items)
  | .object members => .object (memberDocuments members)

/-- Items as they are printed. -/
def itemDocuments : List Json → List Document
  | [] => []
  | item :: rest => toDocument item :: itemDocuments rest

/-- Members as they are printed. -/
def memberDocuments : List (String × Json) → List (String × Document)
  | [] => []
  | (key, value) :: rest => (key, toDocument value) :: memberDocuments rest

end

end Json

end LatchMutex
