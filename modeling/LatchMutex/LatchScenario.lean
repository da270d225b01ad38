import LatchMutex.Latch

namespace LatchMutex

/-!
# One latch between two threads

A script for a latch over 64-bit integers.  One thread keeps at most one guard
from step to step; the other one comes and goes within a single step.  A step
that could never end is answered instead of run: a second blocking acquisition
would hang, and the unique access needs the guard to be gone.  A single try of
the holder is only one more failed try.
-/

/-- One step of the script. -/
inductive LatchCommand where
  | acquire
  | tryAcquire
  | read
  | write (value : Int64)
  | release
  | describe
  | describeGuard
  /-- Replace the value through unique access. -/
  | replace (value : Int64)
  /-- The other thread adds under the latch, waiting for the holder to give way. -/
  | otherAdd (value : Int64)
  /-- The other thread tries once, and releases at once. -/
  | otherTry
  deriving Repr, DecidableEq

/-- What a step of the script answers. -/
inductive LatchAnswer where
  | done
  /-- There is no guard to use. -/
  | noGuard
  | wouldHang
  | held
  | flag (answer : Bool)
  | value (value : Option Int64)
  | text (text : Option String)
  deriving Repr, DecidableEq

namespace LatchScenario

/-- The thread that runs the script. -/
def holder : ThreadId := ⟨1⟩

/-- The thread that comes and goes. -/
def visitor : ThreadId := ⟨2⟩

/-- A bench before the first step. -/
def start (value : Int64) : Bench Int64 :=
  { latch := { value } }

/-- Apply an atomic step that leaves everything alone when it is not possible. -/
def move (bench : Bench Int64) (me : ThreadId) (move : LatchMove Int64) : Bench Int64 :=
  match bench.step? me move with
  | some (next, _) => next
  | none => bench

/-- Whether the script holds the guard. -/
def isHolding (bench : Bench Int64) : Bool :=
  bench.guards holder ≠ 0

/-- A single try by a thread, whatever its stance. -/
def tryOnce (bench : Bench Int64) (me : ThreadId) : Bench Int64 × Bool :=
  match bench.tryAcquire me with
  | (next, .done) => (next, true)
  | (next, _) => (next, false)

/-- The visit of a thread that adds under the latch; a holder gives way after the first attempt. -/
def visit (bench : Bench Int64) (value : Int64) : Bench Int64 :=
  let arrived := move bench visitor (.acquire false)
  let entered :=
    if arrived.guards visitor ≠ 0 then
      arrived
    else
      move (move (move arrived holder .release) visitor .look) visitor (.acquire false)
  move (move entered visitor (.write (entered.latch.value + value))) visitor .release

/-- One step of the script. -/
def step (bench : Bench Int64) (command : LatchCommand) : Bench Int64 × LatchAnswer :=
  match command with
  | .acquire =>
      if isHolding bench then
        (bench, .wouldHang)
      else
        (move bench holder (.acquire false), .done)
  | .tryAcquire =>
      let (next, taken) := tryOnce bench holder
      (next, .flag taken)
  | .read =>
      (bench, .value (if isHolding bench then some bench.latch.value else none))
  | .write value =>
      if isHolding bench then
        (move bench holder (.write value), .done)
      else
        (bench, .noGuard)
  | .release => (move bench holder .release, .flag (isHolding bench))
  | .describe => (bench, .text (some bench.latch.describe))
  | .describeGuard =>
      (bench, .text
        (if isHolding bench then some (bench.latch.describeGuard toString) else none))
  | .replace value =>
      if isHolding bench then
        (bench, .held)
      else
        ({ bench with latch := bench.latch.write value }, .value (some value))
  | .otherAdd value =>
      let next := visit bench value
      (next, .value (some next.latch.value))
  | .otherTry =>
      let (next, taken) := tryOnce bench visitor
      (move next visitor .release, .flag taken)

end LatchScenario

end LatchMutex
