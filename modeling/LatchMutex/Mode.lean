import LatchMutex.Record
import LatchMutex.Table

namespace LatchMutex

/-!
# Runtime mode

The safety level decides how much the status-code boundary checks.  It comes
from an environment value that is read once, or from an override.

The level is cached in one atomic cell.  `ModeCache.step?` is one atomic step of
a thread that reads or overrides the level: a reader that finds the cell
unresolved seeds it by compare-and-exchange, so a level stored in between wins.
-/

/-- Runtime operating mode. -/
inductive SafetyLevel where
  /-- Null checks only. -/
  | strict
  /-- Attribute handles are checked against the registry of live objects. -/
  | hardened
  /-- No validation. -/
  | off
  deriving Repr, DecidableEq, Inhabited

namespace SafetyLevel

/-- Every level. -/
def all : List SafetyLevel :=
  [.strict, .hardened, .off]

/-- Label used in logs and reports. -/
def label : SafetyLevel → String
  | .strict => "strict"
  | .hardened => "hardened"
  | .off => "off"

/-- The level with a given label, if there is one. -/
def ofLabel? (label : String) : Option SafetyLevel :=
  all.find? fun level => level.label = label

/-- Names read as the hardened level. -/
def hardenedNames : List String :=
  ["hardened", "validate", "full"]

/-- Names read as the level without validation. -/
def offNames : List String :=
  ["off", "none", "disabled"]

/-- The level a name stands for, without regard to ASCII case; an unknown name is strict. -/
def ofName (name : String) : SafetyLevel :=
  let folded := name.map Char.toLower
  if folded ∈ hardenedNames then .hardened
  else if folded ∈ offNames then .off
  else .strict

/-- The level an environment value stands for: hardened by its names, else strict. -/
def ofEnvironmentName (name : String) : SafetyLevel :=
  if name.map Char.toLower ∈ hardenedNames then .hardened else .strict

/-- The level named by the bytes of an environment value; unset or no text is strict. -/
def ofEnvironment (value : Option ByteArray) : SafetyLevel :=
  match value with
  | none => .strict
  | some bytes =>
      match String.fromUTF8? bytes with
      | none => .strict
      | some name => ofEnvironmentName name

/-- Whether handles are checked against the registry of live objects. -/
def checksRegistry (level : SafetyLevel) : Bool :=
  level = .hardened

/-- Whether any validation is active. -/
def validates (level : SafetyLevel) : Bool :=
  level ≠ .off

/-- Labels identify levels. -/
theorem ofLabel?_label (level : SafetyLevel) : ofLabel? level.label = some level := by
  cases level <;> decide

/-- The environment never switches validation off. -/
theorem ofEnvironment_ne_off (value : Option ByteArray) : ofEnvironment value ≠ .off := by
  unfold ofEnvironment ofEnvironmentName
  repeat' split
  all_goals simp

end SafetyLevel

/-- A request to the mode cache. -/
inductive ModeRequest where
  | read
  | override (level : SafetyLevel)
  deriving Repr, DecidableEq, Inhabited

/-- How far a request to the mode cache has come. -/
inductive ModeStage where
  | idle
  /-- About to load the cell. -/
  | loading (request : ModeRequest)
  /-- The cell was unresolved; about to seed it. -/
  | seeding (request : ModeRequest)
  /-- The level before is known; about to store the override. -/
  | storing (level previous : SafetyLevel)
  deriving Repr, DecidableEq, Inhabited

/-- The cached level and the threads that work on it. -/
structure ModeCache where
  /-- The level that the environment names. -/
  environment : SafetyLevel
  cell : Option SafetyLevel := none
  stages : Table ThreadId ModeStage := {}
  deriving Repr, DecidableEq, Inhabited

/-- One step of one thread at the mode cache. -/
inductive ModeEvent where
  | start (request : ModeRequest)
  | proceed
  deriving Repr, DecidableEq, Inhabited

namespace ModeCache

/-- Where a thread stands. -/
def stage (cache : ModeCache) (me : ThreadId) : ModeStage :=
  cache.stages.get me

/-- Move a thread. -/
def setStage (cache : ModeCache) (me : ThreadId) (stage : ModeStage) : ModeCache :=
  { cache with stages := cache.stages.set me stage }

/-- The level is known: a read answers it, an override goes on to its store. -/
def learned (cache : ModeCache) (me : ThreadId) (request : ModeRequest) (level : SafetyLevel) :
    ModeCache × Option SafetyLevel :=
  match request with
  | .read => (cache.setStage me .idle, some level)
  | .override new => (cache.setStage me (.storing new level), none)

/-- One atomic step; the second part is the answer of a request that is done with it. -/
def step? (cache : ModeCache) (me : ThreadId) (event : ModeEvent) :
    Option (ModeCache × Option SafetyLevel) :=
  match cache.stage me, event with
  | .idle, .start request => some (cache.setStage me (.loading request), none)
  | .loading request, .proceed =>
      match cache.cell with
      | some level => some (cache.learned me request level)
      | none => some (cache.setStage me (.seeding request), none)
  | .seeding request, .proceed =>
      match cache.cell with
      | some level => some (cache.learned me request level)
      | none =>
          some
            ({ cache with cell := some cache.environment }.learned me request
              cache.environment)
  | .storing level previous, .proceed =>
      some ({ cache with cell := some level }.setStage me .idle, some previous)
  | _, _ => none

/-- Take steps of one thread until its request answers; three always suffice. -/
def follow (cache : ModeCache) (me : ThreadId) : Nat → ModeCache × SafetyLevel
  | 0 => (cache, cache.environment)
  | steps + 1 =>
      match cache.step? me .proceed with
      | some (next, some level) => (next, level)
      | some (next, none) => next.follow me steps
      | none => (cache, cache.environment)

/-- A request that no other thread disturbs. -/
def perform (cache : ModeCache) (me : ThreadId) (request : ModeRequest) :
    ModeCache × SafetyLevel :=
  (cache.setStage me (.loading request)).follow me 3

/-- The level in force, read by a thread that nobody disturbs. -/
def read (cache : ModeCache) (me : ThreadId) : ModeCache × SafetyLevel :=
  cache.perform me .read

/-- Override the level; the answer is the one in force before. -/
def override (cache : ModeCache) (me : ThreadId) (level : SafetyLevel) :
    ModeCache × SafetyLevel :=
  cache.perform me (.override level)

end ModeCache

end LatchMutex
