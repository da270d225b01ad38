import LatchMutex.Fault

namespace LatchMutex

/-!
# Fallible allocation

The allocator itself never runs dry here.  A thread may carry a budget of
forced failures; `Budget.draw` spends one of them per allocation, also for
objects of size zero, and the allocations after that succeed again.
-/

/-- Forced allocation failures that a thread still has ahead of it. -/
structure Budget where
  failures : UInt32 := 0
  deriving Repr, DecidableEq, Inhabited

/-- An allocation that did not happen. -/
structure AllocationFailure where
  size : UInt64
  deriving Repr, DecidableEq, Inhabited

namespace AllocationFailure

/-- Wording of a failed allocation. -/
def message (failure : AllocationFailure) : String :=
  s!"allocation of {failure.size} bytes failed"

/-- A failed allocation as the fault of the mutex operation that needed it. -/
def fault (_ : AllocationFailure) : Fault :=
  .outOfMemory

end AllocationFailure

namespace Budget

/-- Whether the next allocation fails, and the budget left after it. -/
def draw (budget : Budget) : Bool × Budget :=
  if budget.failures = 0 then
    (false, budget)
  else
    (true, { failures := budget.failures - 1 })

/-- Put a value of a given size on the heap. -/
def allocate
    (budget : Budget)
    (size : UInt64)
    (value : α) :
    Except AllocationFailure α × Budget :=
  match budget.draw with
  | (true, rest) => (.error { size }, rest)
  | (false, rest) => (.ok value, rest)

/-- An allocation fails exactly while the budget is positive. -/
theorem draw_fst (budget : Budget) : budget.draw.1 = true ↔ budget.failures ≠ 0 := by
  unfold draw
  split
  · rename_i empty
    simp [empty]
  · rename_i positive
    simp [positive]

end Budget

end LatchMutex
