import LatchMutex.Json.Value

namespace LatchMutex

/-!
# Reading records

A record is an object with named fields, or an array of all its fields in order.
Unknown members of an object are ignored.  From a tree, a field that is given
twice is refused; from a value, where the last one was kept, it cannot be.

A field is read by a reader for its type: `required` insists on the field, and
`optional` takes an absent field or a null one as nothing.  The types keep to the
documented rules of reading records.  An integer is spelled without point and exponent
and fits the range of its type, while a binary64 number may be spelled as an integer.
A value of an enumeration without fields is its label as a string, or an object that
maps the label to null and has no other key.
-/

/-- What a reader needs to know of a text, whether it kept its spelling or not. -/
class Readable (Node : Type) where
  isNull : Node → Bool
  bool? : Node → Option Bool
  integer? : Node → Option Int
  float? : Node → Option Binary64
  string? : Node → Option String
  items? : Node → Option (List Node)
  /-- Label of an enumeration value: a string, or the only key of an object that maps it to null. -/
  label? : Node → Option String
  /-- Fields of a record by their names, each absent or there. -/
  fields? : List String → Node → Option (List (Option Node))

namespace Number

/-- The number as a binary64 number. -/
def float? : Number → Option Binary64
  | .integer value =>
      (Binary64.ofNat? value.value.natAbs).map fun magnitude =>
        { magnitude with negative := decide (value.value < 0) }
  | .float value => some value

end Number

namespace Json

/-- The fields of a record. -/
def fields? (names : List String) (value : Json) : Option (List (Option Json)) :=
  match value with
  | .object _ => some (names.map fun name => value.member? name)
  | .array items => if items.length = names.length then some (items.map some) else none
  | _ => none

/-- Label of an enumeration value. -/
def label? : Json → Option String
  | .string text => some text
  | .object [(label, .null)] => some label
  | _ => none

instance : Readable Json where
  isNull
    | .null => true
    | _ => false
  bool?
    | .bool value => some value
    | _ => none
  integer?
    | .number (.integer value) => some value.value
    | _ => none
  float?
    | .number value => value.float?
    | _ => none
  string?
    | .string text => some text
    | _ => none
  items?
    | .array items => some items
    | _ => none
  label? := Json.label?
  fields? := Json.fields?

end Json

namespace Raw

/-- Value of the one member with a key: nothing if there is none, refused if there are two. -/
def field? (members : List (String × Raw)) (name : String) : Option (Option Raw) :=
  match members.filter fun member => member.1 = name with
  | [] => some none
  | [(_, value)] => some (some value)
  | _ => none

/-- The fields of a record; every key has to be a text. -/
def fields? (names : List String) : Raw → Option (List (Option Raw))
  | .object members => do
      let named ← members.mapM fun (key, value) => key.map (·, value)
      names.mapM (field? named)
  | .array items => if items.length = names.length then some (items.map some) else none
  | _ => none

/-- Label of an enumeration value. -/
def label? : Raw → Option String
  | .string text => text
  | .object [(label, .null)] => label
  | _ => none

instance : Readable Raw where
  isNull
    | .null => true
    | _ => false
  bool?
    | .bool value => some value
    | _ => none
  integer?
    | .number literal => literal.integer?
    | _ => none
  float?
    | .number literal => literal.number?.bind Number.float?
    | _ => none
  string?
    | .string text => text
    | _ => none
  items?
    | .array items => some items
    | _ => none
  label? := Raw.label?
  fields? := Raw.fields?

end Raw

namespace Read

variable {Node : Type} [Readable Node] {Value : Type}

/-- Text of a string. -/
def text (node : Node) : Option String :=
  Readable.string? node

/-- Truth value. -/
def bool (node : Node) : Option Bool :=
  Readable.bool? node

/-- Binary64 number, also if it is spelled as an integer. -/
def float (node : Node) : Option Binary64 :=
  Readable.float? node

/-- Integer in a range. -/
def integerIn (low limit : Int) (node : Node) : Option Int := do
  let value ← Readable.integer? node
  if low ≤ value ∧ value < limit then some value else none

/-- Unsigned 64-bit integer. -/
def uint64 (node : Node) : Option UInt64 :=
  (integerIn 0 UInt64.size node).map fun value => value.toNat.toUInt64

/-- Unsigned 32-bit integer. -/
def uint32 (node : Node) : Option UInt32 :=
  (integerIn 0 UInt32.size node).map fun value => value.toNat.toUInt32

/-- Signed 32-bit integer. -/
def int32 (node : Node) : Option Int32 :=
  (integerIn Int32.minValue.toInt (Int32.maxValue.toInt + 1) node).map fun value => value.toInt32

/-- Value of an enumeration by its label. -/
def labeled (ofLabel? : String → Option Value) (node : Node) : Option Value :=
  (Readable.label? node).bind ofLabel?

/-- List of values. -/
def list (read : Node → Option Value) (node : Node) : Option (List Value) := do
  let items ← Readable.items? node
  items.mapM read

/-- A field that has to be there. -/
def required (read : Node → Option Value) (field : Option Node) : Option Value :=
  field.bind read

/-- A field that may be absent or null. -/
def optional (read : Node → Option Value) (field : Option Node) : Option (Option Value) :=
  match field with
  | none => some none
  | some node => if Readable.isNull node then some none else (read node).map some

end Read

end LatchMutex
