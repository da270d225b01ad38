import LatchMutex.Record
import LatchMutex.Table

namespace LatchMutex

/-!
# The slot latch

A latch is a flag beside a value.  A thread that raises the flag owns a guard,
and only through a guard the value is read or written.  `Bench` puts several threads
on one latch, and `Bench.step?` is one atomic step of one of them: the weak
compare-and-exchange of a blocking acquisition may fail although the flag is
down, the strong one of a single try may not.  A blocking acquisition that failed
looks at the flag until it is down, and only then makes its next attempt.

Owning a guard keeps no thread from asking for another one: a single try then
fails, and a blocking acquisition never ends.
-/

/-- A value behind an exclusive flag. -/
structure Latch (Value : Type) where
  held : Bool := false
  value : Value
  deriving Repr, DecidableEq

namespace Latch

variable {Value : Type}

/-- Raise the flag, if it is down. -/
def claim? (latch : Latch Value) : Option (Latch Value) :=
  if latch.held then none else some { latch with held := true }

/-- Lower the flag. -/
def release (latch : Latch Value) : Latch Value :=
  { latch with held := false }

/-- Replace the value. -/
def write (latch : Latch Value) (value : Value) : Latch Value :=
  { latch with value }

/-- Description of the latch, which never shows the value. -/
def describe (latch : Latch Value) : String :=
  s!"SlotLatch \x7b held: {latch.held}, .. \x7d"

/-- Description of a guard, which shows the value as it is described itself. -/
def describeGuard (describeValue : Value → String) (latch : Latch Value) : String :=
  s!"SlotGuard({describeValue latch.value})"

end Latch

/-- How far a thread has come with a blocking acquisition. -/
inductive LatchStage where
  | idle
  /-- An attempt failed; the thread looks at the flag until it is down. -/
  | watching
  /-- The flag was down at the last look; the next attempt is due. -/
  | retrying
  deriving Repr, DecidableEq, Inhabited

/-- Where a thread stands with one latch. -/
structure Stance where
  stage : LatchStage := .idle
  /-- Number of guards that the thread owns. -/
  guards : Nat := 0
  deriving Repr, DecidableEq, Inhabited

/-- One atomic step at a latch. -/
inductive LatchMove (Value : Type) where
  /-- One attempt of a blocking acquisition; `spurious` attempts fail in any case. -/
  | acquire (spurious : Bool)
  /-- One look at the flag between two attempts. -/
  | look
  | tryAcquire
  | read
  | write (value : Value)
  | release
  deriving Repr, DecidableEq

/-- What an atomic step at a latch answers. -/
inductive LatchReply (Value : Type) where
  | done
  | refused
  | seen (value : Value)
  deriving Repr, DecidableEq

/-- One latch and the threads around it. -/
structure Bench (Value : Type) where
  latch : Latch Value
  stances : Table ThreadId Stance := {}
  counters : Counters := {}
  deriving Repr, DecidableEq

namespace Bench

variable {Value : Type}

/-- Where a thread stands. -/
def stance (bench : Bench Value) (me : ThreadId) : Stance :=
  bench.stances.get me

/-- Number of guards that a thread owns. -/
def guards (bench : Bench Value) (me : ThreadId) : Nat :=
  (bench.stance me).guards

/-- Move a thread. -/
def setStance (bench : Bench Value) (me : ThreadId) (stance : Stance) : Bench Value :=
  { bench with stances := bench.stances.set me stance }

/-- Bring the blocking acquisition of a thread to another stage. -/
def setStage (bench : Bench Value) (me : ThreadId) (stage : LatchStage) : Bench Value :=
  bench.setStance me { bench.stance me with stage }

/-- Count one branch. -/
def count (bench : Bench Value) (branch : Branch) : Bench Value :=
  { bench with counters := bench.counters.record branch }

/-- Hand a claimed latch to a thread as a guard. -/
def grant (bench : Bench Value) (me : ThreadId) (latch : Latch Value) : Bench Value :=
  { bench with latch }.setStance me { guards := bench.guards me + 1 }

/-- One attempt of a blocking acquisition; only the first failure is counted. -/
def acquire (bench : Bench Value) (me : ThreadId) (spurious : Bool) :
    Bench Value × LatchReply Value :=
  match bench.latch.claim?, spurious with
  | some latch, false => (bench.grant me latch, .done)
  | _, _ =>
      let counted :=
        if (bench.stance me).stage = .idle then bench.count .slotContended else bench
      (counted.setStage me .watching, .refused)

/-- One look at the flag: the next attempt is due once it is down. -/
def look (bench : Bench Value) (me : ThreadId) : Bench Value × LatchReply Value :=
  if bench.latch.held then (bench, .refused) else (bench.setStage me .retrying, .done)

/-- A single try. -/
def tryAcquire (bench : Bench Value) (me : ThreadId) : Bench Value × LatchReply Value :=
  match bench.latch.claim? with
  | some latch => (bench.grant me latch, .done)
  | none => (bench.count .slotTryFailed, .refused)

/-- Give up a guard. -/
def drop (bench : Bench Value) (me : ThreadId) : Bench Value :=
  { bench with latch := bench.latch.release }.setStance me { guards := bench.guards me - 1 }

/-- A step that goes through a guard of the thread. -/
def guarded?
    (bench : Bench Value)
    (me : ThreadId)
    (step : Bench Value × LatchReply Value) :
    Option (Bench Value × LatchReply Value) :=
  if bench.guards me = 0 then none else some step

/-- One atomic step of one thread; nothing if its stance does not allow the step. -/
def step? (bench : Bench Value) (me : ThreadId) (move : LatchMove Value) :
    Option (Bench Value × LatchReply Value) :=
  match (bench.stance me).stage, move with
  | .idle, .acquire spurious | .retrying, .acquire spurious =>
      some (bench.acquire me spurious)
  | .watching, .look => some (bench.look me)
  | .idle, .tryAcquire => some (bench.tryAcquire me)
  | .idle, .read => bench.guarded? me (bench, .seen bench.latch.value)
  | .idle, .write value =>
      bench.guarded? me ({ bench with latch := bench.latch.write value }, .done)
  | .idle, .release => bench.guarded? me (bench.drop me, .done)
  | _, _ => none

/-- A run of atomic steps, if each is possible. -/
def run? (bench : Bench Value) :
    List (ThreadId × LatchMove Value) → Option (Bench Value × List (LatchReply Value))
  | [] => some (bench, [])
  | (me, move) :: rest => do
      let (next, reply) ← bench.step? me move
      let (last, replies) ← next.run? rest
      pure (last, reply :: replies)

end Bench

end LatchMutex
