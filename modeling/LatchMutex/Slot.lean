import LatchMutex.Record

namespace LatchMutex

/-!
# The slot and the latch-held sections of the public operations

A slot is empty, a sentinel that becomes a record on first use, or a record.
Each public operation is one section under the latch, except that a blocking
lock may be cut into several: `Operation.enter` is the first section of a call,
and `Slot.resume` is the section that a parked lock runs when it comes back.
-/

/-- What a handle holds. -/
inductive Slot where
  /-- Never constructed, or destroyed. -/
  | empty
  /-- Declared, to be constructed with default attributes on first use. -/
  | sentinel
  | constructed (record : Record)
  deriving Repr, DecidableEq, Inhabited

/-- What a reader of a handle sees. -/
inductive Snapshot where
  | uninitialized
  | constructed (record : Record)
  deriving Repr, DecidableEq, Inhabited

/-- What a successful operation answers. -/
inductive Answer where
  | done
  | seen (snapshot : Snapshot)
  deriving Repr, DecidableEq, Inhabited

/-- Result of a public operation. -/
abbrev Result := Except Fault Answer

/-- A result without what was seen. -/
def Result.outcome (result : Result) : Outcome :=
  result.map fun _ => ()

/-- The public operations on a handle. -/
inductive Operation where
  | create (attributes : Option Attributes)
  | destroy
  | lock
  | unlock
  | tryLock
  | snapshot
  deriving Repr, DecidableEq, Inhabited

/-- How far a latch-held section brought its call. -/
inductive Progress where
  | finished (result : Result)
  /-- Parked; the latch is free and the call comes back after a yield. -/
  | parked
  /-- Still spinning with the latch in hand. -/
  | spinning
  deriving Repr, DecidableEq

/-- What one latch-held section did. -/
structure Section where
  progress : Progress
  slot : Slot
  budget : Budget
  branches : List Branch := []
  deriving Repr, DecidableEq

namespace Slot

/-- Size in bytes of a record. -/
def recordSize : UInt64 := 64

/-- What a reader sees; an empty slot shows nothing. -/
def view : Slot → Except Fault Snapshot
  | .empty => .error .invalidArgument
  | .sentinel => .ok .uninitialized
  | .constructed record => .ok (.constructed record)

/-- Replace whatever is there by a fresh record; a failed allocation leaves the sentinel. -/
def create (attributes : Option Attributes) (budget : Budget) : Section :=
  match budget.allocate recordSize (Record.fresh attributes) with
  | (.ok record, rest) =>
      { progress := .finished (.ok .done), slot := .constructed record, budget := rest }
  | (.error failure, rest) =>
      { progress := .finished (.error failure.fault), slot := .sentinel, budget := rest }

/-- Empty the slot, unless it is empty already or its mutex is owned. -/
def destroy (slot : Slot) : Outcome × Slot :=
  match slot with
  | .empty => (.error .invalidArgument, slot)
  | .sentinel => (.ok (), .empty)
  | .constructed record =>
      if record.owner.isSome then (.error .busy, slot) else (.ok (), .empty)

/-- Construct a sentinel in place; a failed allocation keeps it. -/
def materialize
    (slot : Slot)
    (budget : Budget) :
    Except Fault Record × Slot × Budget × List Branch :=
  match slot with
  | .empty => (.error .invalidArgument, slot, budget, [])
  | .constructed record => (.ok record, slot, budget, [])
  | .sentinel =>
      match budget.allocate recordSize (Record.fresh none) with
      | (.ok record, rest) => (.ok record, .constructed record, rest, [.lazyInit])
      | (.error failure, rest) => (.error failure.fault, slot, rest, [])

/-- How far an attempt brings the lock that made it. -/
def progressOf : Decision → Progress
  | .acquired => .finished (.ok .done)
  | .deadlocked => .finished (.error .deadlock)
  | .parked => .parked
  | .spinning => .spinning

/-- One attempt of a blocking lock on a record. -/
def attempt
    (record : Record)
    (me : ThreadId)
    (budget : Budget)
    (earlier : List Branch) :
    Section :=
  let turn := record.attempt me
  { progress := progressOf turn.decision
    slot := .constructed turn.record
    budget
    branches := earlier ++ turn.branches }

/-- The first section of a blocking lock. -/
def lock (slot : Slot) (me : ThreadId) (budget : Budget) : Section :=
  match slot.materialize budget with
  | (.error fault, kept, rest, _) =>
      { progress := .finished (.error fault), slot := kept, budget := rest }
  | (.ok record, _, rest, branches) => attempt record me rest branches

/-- The section of a parked lock that comes back: a record that is gone ends the call. -/
def resume (slot : Slot) (me : ThreadId) (budget : Budget) : Section :=
  match slot with
  | .empty | .sentinel =>
      { progress := .finished (.error .invalidArgument), slot, budget }
  | .constructed record => attempt record.leaveWait me budget []

/-- Release one acquisition of the caller. -/
def unlock (slot : Slot) (me : ThreadId) : Outcome × Slot :=
  match slot with
  | .empty | .sentinel => (.error .invalidArgument, slot)
  | .constructed record =>
      let (outcome, released) := record.release me
      (outcome, .constructed released)

/-- The section of a single-try lock that got the latch. -/
def tryLock (slot : Slot) (me : ThreadId) (budget : Budget) : Section :=
  match slot.materialize budget with
  | (.error fault, kept, rest, _) =>
      { progress := .finished (.error fault), slot := kept, budget := rest }
  | (.ok record, _, rest, branches) =>
      let (path, after) := record.tryTake me
      { progress := .finished (path.outcome.map fun _ => .done)
        slot := .constructed after
        budget := rest
        branches }

end Slot

namespace Operation

/-- Whether a call is refused before it reaches the latch: sharing between processes never works. -/
def isRefused : Operation → Bool
  | .create (some attributes) => attributes.sharing = .processShared
  | _ => false

/-- A section that only changes the slot. -/
def plain (done : Outcome × Slot) (budget : Budget) : Section :=
  { progress := .finished (done.1.map fun _ => .done), slot := done.2, budget }

/-- The first latch-held section of a call. -/
def enter
    (operation : Operation)
    (me : ThreadId)
    (slot : Slot)
    (budget : Budget) :
    Section :=
  match operation with
  | .create attributes => Slot.create attributes budget
  | .destroy => plain slot.destroy budget
  | .lock => slot.lock me budget
  | .unlock => plain (slot.unlock me) budget
  | .tryLock => slot.tryLock me budget
  | .snapshot => { progress := .finished (slot.view.map .seen), slot, budget }

end Operation

end LatchMutex
