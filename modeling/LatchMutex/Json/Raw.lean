import LatchMutex.Json.Token

namespace LatchMutex

/-!
# JSON text as a tree

`Raw` is a JSON text as it was spelled: members in their order with repeated
keys, numbers as literals, and strings that may stand for no text.  `Raw.ofTokens?`
builds it with a stack of open containers, so that it reads any depth.  A text is one
value with nothing but blanks around it, and no comma stands before a closing bracket.

What a spelling may say and no value can hold is refused later, by whoever reads it: a
repeated key, a number that is too large, a string without a text, a nesting too deep.
-/

/-- A JSON text as it was spelled. -/
inductive Raw where
  | null
  | bool (value : Bool)
  | number (literal : Literal)
  | string (text : Option String)
  | array (items : List Raw)
  | object (members : List (Option String × Raw))
  deriving Repr, Inhabited

/-- An open container, with what it holds so far, latest first. -/
inductive Frame where
  | array (items : List Raw)
  /-- An object whose next value belongs to a key. -/
  | object (members : List (Option String × Raw)) (key : Option String)
  deriving Repr

/-- What a reader of tokens waits for. -/
inductive Reader where
  | awaitValue (stack : List Frame)
  /-- Just behind an opening bracket. -/
  | itemOrClose (stack : List Frame)
  /-- Just behind an opening brace. -/
  | keyOrClose (stack : List Frame)
  /-- Behind a comma in an object. -/
  | awaitKey (members : List (Option String × Raw)) (stack : List Frame)
  | awaitColon (members : List (Option String × Raw)) (key : Option String) (stack : List Frame)
  /-- Behind an item. -/
  | afterItem (items : List Raw) (stack : List Frame)
  /-- Behind a member. -/
  | afterMember (members : List (Option String × Raw)) (stack : List Frame)
  | finished (value : Raw)
  deriving Repr

namespace Reader

/-- A value is complete: it goes into the innermost open container. -/
def complete (value : Raw) : List Frame → Reader
  | [] => .finished value
  | .array items :: stack => .afterItem (value :: items) stack
  | .object members key :: stack => .afterMember ((key, value) :: members) stack

/-- First token of a value. -/
def startValue (stack : List Frame) : Token → Option Reader
  | .null => some (complete .null stack)
  | .bool value => some (complete (.bool value) stack)
  | .number literal => some (complete (.number literal) stack)
  | .string text => some (complete (.string text) stack)
  | .openBracket => some (.itemOrClose stack)
  | .openBrace => some (.keyOrClose stack)
  | _ => none

/-- Take one token. -/
def step (reader : Reader) (token : Token) : Option Reader :=
  match reader, token with
  | .awaitValue stack, token => startValue stack token
  | .itemOrClose stack, .closeBracket => some (complete (.array []) stack)
  | .itemOrClose stack, token => startValue (.array [] :: stack) token
  | .keyOrClose stack, .closeBrace => some (complete (.object []) stack)
  | .keyOrClose stack, .string key => some (.awaitColon [] key stack)
  | .awaitKey members stack, .string key => some (.awaitColon members key stack)
  | .awaitColon members key stack, .colon => some (.awaitValue (.object members key :: stack))
  | .afterItem items stack, .comma => some (.awaitValue (.array items :: stack))
  | .afterItem items stack, .closeBracket => some (complete (.array items.reverse) stack)
  | .afterMember members stack, .comma => some (.awaitKey members stack)
  | .afterMember members stack, .closeBrace =>
      some (complete (.object members.reverse) stack)
  | _, _ => none

/-- The value that was read, if it is complete. -/
def result? : Reader → Option Raw
  | .finished value => some value
  | _ => none

end Reader

namespace Raw

/-- The tree of tokens that spell exactly one value. -/
def ofTokens? (tokens : List Token) : Option Raw := do
  let reader ← tokens.foldlM Reader.step (.awaitValue [])
  reader.result?

/-- The tree of a text that spells exactly one value. -/
def parse? (text : String) : Option Raw := do
  let tokens ← Token.scan? text.toList
  ofTokens? tokens

end Raw

end LatchMutex
