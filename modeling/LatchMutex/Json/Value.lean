import LatchMutex.Json.Raw

namespace LatchMutex

/-!
# JSON values

A value has no repeated keys.  The rules of reading one are the documented ones of the
reader behind logs and reports: members are in ascending order of their keys, byte by
byte, and of members that repeat a key the last one is kept; a number without point and
exponent is an integer if it fits 64 bits, signed or unsigned, and binary64 otherwise,
as is minus zero; containers are nested at most 127 deep, and a deeper text is refused.

`Raw.toJson?` gives the value of a tree that keeps to them, and whose strings all have a
text and whose numbers are not too large.
-/

/-- A JSON value. -/
inductive Json where
  | null
  | bool (value : Bool)
  | number (value : Number)
  | string (text : String)
  | array (items : List Json)
  /-- Members in ascending order of their keys. -/
  | object (members : List (String × Json))
  deriving Repr, Inhabited

namespace Json

/-- Store a member at its place in ascending order, in the place of one with the same key. -/
def insertMember (key : String) (value : Json) : List (String × Json) → List (String × Json)
  | [] => [(key, value)]
  | (first, other) :: rest =>
      if key = first then
        (key, value) :: rest
      else if key < first then
        (key, value) :: (first, other) :: rest
      else
        (first, other) :: insertMember key value rest

/-- Object with given members; of members that repeat a key the last one is kept. -/
def ofMembers (members : List (String × Json)) : Json :=
  .object (members.foldl (fun sorted (key, value) => insertMember key value sorted) [])

/-- Integer as a value; one that fits no 64 bits is null. -/
def ofInt (value : Int) : Json :=
  match Number.ofInt? value with
  | some fitting => .number fitting
  | none => .null

/-- Member of an object with a given key. -/
def member? (key : String) : Json → Option Json
  | .object members => (members.find? fun member => member.1 = key).map Prod.snd
  | _ => none

end Json

namespace Raw

/-- Greatest nesting of containers that has a value. -/
def greatestDepth : Nat := 127

mutual

/-- Value of a tree nested at most so deep. -/
def toJsonWithin? (depth : Nat) : Raw → Option Json
  | .null => some .null
  | .bool value => some (.bool value)
  | .number literal => literal.number?.map .number
  | .string text => text.map .string
  | .array items =>
      match depth with
      | 0 => none
      | inner + 1 => (itemsWithin? inner items).map .array
  | .object members =>
      match depth with
      | 0 => none
      | inner + 1 => (membersWithin? inner members).map Json.ofMembers

/-- Values of the items of an array. -/
def itemsWithin? (depth : Nat) : List Raw → Option (List Json)
  | [] => some []
  | item :: rest => do
      let value ← toJsonWithin? depth item
      let values ← itemsWithin? depth rest
      pure (value :: values)

/-- Values of the members of an object, in the order of the text. -/
def membersWithin? (depth : Nat) :
    List (Option String × Raw) → Option (List (String × Json))
  | [] => some []
  | (key, item) :: rest => do
      let key ← key
      let value ← toJsonWithin? depth item
      let values ← membersWithin? depth rest
      pure ((key, value) :: values)

end

/-- Value of a tree. -/
def toJson? (tree : Raw) : Option Json :=
  tree.toJsonWithin? greatestDepth

end Raw

/-- Value of a text. -/
def Json.parse? (text : String) : Option Json := do
  let tree ← Raw.parse? text
  tree.toJson?

end LatchMutex
