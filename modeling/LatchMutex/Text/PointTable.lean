namespace LatchMutex

/-!
# Tables of code points

A class of characters is a table of ranges.  The ranges ascend and no two of
them touch, so that a class has one table only.
-/

/-- Ranges of code points, each given by its first and its last one. -/
abbrev PointTable := List (Nat × Nat)

namespace PointTable

/-- Whether a range holds a character. -/
def holds (range : Nat × Nat) (character : Char) : Bool :=
  range.1 ≤ character.toNat && character.toNat ≤ range.2

/-- Whether a table holds a character. -/
def contains (table : PointTable) (character : Char) : Bool :=
  table.any fun range => holds range character

/-- Whether the ranges ascend from a point on, with a gap before each of them. -/
def ascendsFrom (point : Nat) : PointTable → Bool
  | [] => true
  | (first, last) :: rest => point ≤ first && first ≤ last && ascendsFrom (last + 2) rest

/-- Whether the ranges ascend and no two of them touch. -/
def ascends (table : PointTable) : Bool :=
  ascendsFrom 0 table

/-- A character belongs to a table exactly when it lies in one of the ranges. -/
theorem contains_iff {table : PointTable} {character : Char} :
    table.contains character = true ↔
      ∃ range ∈ table, range.1 ≤ character.toNat ∧ character.toNat ≤ range.2 := by
  simp [contains, holds]

end PointTable

end LatchMutex
