import LatchMutex.Json.Raw

namespace LatchMutex

/-!
# Trees and their tokens

`Raw.tokens` spells a tree as tokens, with a comma between neighbors and nothing
behind the last one.  The reader goes back: at any place that waits for a value,
the tokens of a tree complete exactly that tree, whatever follows them.
-/

namespace Raw

mutual

/-- Tokens that spell a tree. -/
def tokens : Raw → List Token
  | .null => [.null]
  | .bool value => [.bool value]
  | .number literal => [.number literal]
  | .string text => [.string text]
  | .array items => .openBracket :: itemTokens items
  | .object members => .openBrace :: memberTokens members

/-- Tokens of items, up to the closing bracket. -/
def itemTokens : List Raw → List Token
  | [] => [.closeBracket]
  | item :: rest => tokens item ++ itemTokensAfter rest

/-- Tokens of further items. -/
def itemTokensAfter : List Raw → List Token
  | [] => [.closeBracket]
  | item :: rest => .comma :: tokens item ++ itemTokensAfter rest

/-- Tokens of members, up to the closing brace. -/
def memberTokens : List (Option String × Raw) → List Token
  | [] => [.closeBrace]
  | (key, value) :: rest => .string key :: .colon :: tokens value ++ memberTokensAfter rest

/-- Tokens of further members. -/
def memberTokensAfter : List (Option String × Raw) → List Token
  | [] => [.closeBrace]
  | (key, value) :: rest =>
      .comma :: .string key :: .colon :: tokens value ++ memberTokensAfter rest

end

/-- The first token of a tree closes nothing, so it can stand behind an opening bracket. -/
theorem exists_tokens_eq_cons (tree : Raw) :
    ∃ first rest, tree.tokens = first :: rest ∧ first ≠ .closeBracket := by
  cases tree <;> exact ⟨_, _, by rw [tokens], by simp⟩

end Raw

namespace Reader

/-- Behind an opening bracket an item is read as in an array that holds nothing so far. -/
theorem step_itemOrClose
    {token : Token}
    (opens : token ≠ .closeBracket)
    (stack : List Frame) :
    (Reader.itemOrClose stack).step token =
      (Reader.awaitValue (.array [] :: stack)).step token := by
  cases token with
  | closeBracket =>
      exact (opens rfl).elim
  | _ =>
      rfl

/-- The first item of an array is read like every other one. -/
theorem foldlM_itemOrClose (tree : Raw) (rest : List Token) (stack : List Frame) :
    (tree.tokens ++ rest).foldlM step (.itemOrClose stack) =
      (tree.tokens ++ rest).foldlM step (.awaitValue (.array [] :: stack)) := by
  obtain ⟨first, others, spelled, opens⟩ := tree.exists_tokens_eq_cons
  rw [spelled, List.cons_append, List.foldlM_cons, List.foldlM_cons, step_itemOrClose opens]

mutual

/-- The tokens of a tree complete it. -/
theorem foldlM_tokens (tree : Raw) (rest : List Token) (stack : List Frame) :
    (tree.tokens ++ rest).foldlM step (.awaitValue stack) =
      rest.foldlM step (complete tree stack) := by
  cases tree with
  | array items =>
      cases items with
      | nil =>
          rfl
      | cons item others =>
          have opened :
              ((Raw.array (item :: others)).tokens ++ rest).foldlM step (.awaitValue stack) =
                (item.tokens ++ (Raw.itemTokensAfter others ++ rest)).foldlM step
                  (.itemOrClose stack) := by
            simp [Raw.tokens, Raw.itemTokens, step, startValue]
          rw [opened, foldlM_itemOrClose, foldlM_tokens item]
          exact foldlM_itemTokensAfter others rest [item] stack
  | object members =>
      cases members with
      | nil =>
          rfl
      | cons member others =>
          obtain ⟨key, value⟩ := member
          have opened :
              ((Raw.object ((key, value) :: others)).tokens ++ rest).foldlM step
                  (.awaitValue stack) =
                (value.tokens ++ (Raw.memberTokensAfter others ++ rest)).foldlM step
                  (.awaitValue (.object [] key :: stack)) := by
            simp [Raw.tokens, Raw.memberTokens, step, startValue]
          rw [opened, foldlM_tokens value]
          exact foldlM_memberTokensAfter others rest [(key, value)] stack
  | _ =>
      rfl

/-- Further items go into the array that is open. -/
theorem foldlM_itemTokensAfter
    (items : List Raw)
    (rest : List Token)
    (earlier : List Raw)
    (stack : List Frame) :
    (Raw.itemTokensAfter items ++ rest).foldlM step (.afterItem earlier stack) =
      rest.foldlM step (complete (.array (earlier.reverse ++ items)) stack) := by
  cases items with
  | nil =>
      simp [Raw.itemTokensAfter, step]
  | cons item others =>
      have separated :
          (Raw.itemTokensAfter (item :: others) ++ rest).foldlM step
              (.afterItem earlier stack) =
            (item.tokens ++ (Raw.itemTokensAfter others ++ rest)).foldlM step
              (.awaitValue (.array earlier :: stack)) := by
        simp [Raw.itemTokensAfter, step]
      rw [separated, foldlM_tokens item]
      have later := foldlM_itemTokensAfter others rest (item :: earlier) stack
      simpa [complete] using later

/-- Further members go into the object that is open. -/
theorem foldlM_memberTokensAfter
    (members : List (Option String × Raw))
    (rest : List Token)
    (earlier : List (Option String × Raw))
    (stack : List Frame) :
    (Raw.memberTokensAfter members ++ rest).foldlM step (.afterMember earlier stack) =
      rest.foldlM step (complete (.object (earlier.reverse ++ members)) stack) := by
  cases members with
  | nil =>
      simp [Raw.memberTokensAfter, step]
  | cons member others =>
      obtain ⟨key, value⟩ := member
      have separated :
          (Raw.memberTokensAfter ((key, value) :: others) ++ rest).foldlM step
              (.afterMember earlier stack) =
            (value.tokens ++ (Raw.memberTokensAfter others ++ rest)).foldlM step
              (.awaitValue (.object earlier key :: stack)) := by
        simp [Raw.memberTokensAfter, step]
      rw [separated, foldlM_tokens value]
      have later := foldlM_memberTokensAfter others rest ((key, value) :: earlier) stack
      simpa [complete] using later

end

end Reader

/-- Every tree is read back from its tokens. -/
theorem Raw.ofTokens?_tokens (tree : Raw) : ofTokens? tree.tokens = some tree := by
  have reads := Reader.foldlM_tokens tree [] []
  rw [List.append_nil] at reads
  simp [ofTokens?, reads, Reader.complete, Reader.result?]

end LatchMutex
