import LatchMutex.Latch
import LatchMutex.Platform
import LatchMutex.Scenario.Step

namespace LatchMutex

/-!
# A script under way

The names seen so far, the platform under them, and the threads that wait.  Each
operation of a named thread gives the next state and the answer of the step.

A mutex name may be given to a new handle, so that threads which wait for the
old one keep waiting for it.  Attribute slots are named as well.
-/

/-- A thread whose call waits. -/
structure Waiting where
  thread : String
  mutex : String
  handle : HandleId
  wording : Wording
  deriving Repr, DecidableEq, Inhabited

/-- A script under way. -/
structure Scenario where
  platform : Platform := {}
  mode : ModeCache := { environment := .strict, cell := some .strict }
  /-- Names of the threads seen so far; a thread is numbered by its place. -/
  threads : List String := []
  /-- Names of the attribute slots seen so far; a slot is numbered by its place. -/
  slots : List String := []
  mutexes : Table String HandleId := {}
  nextHandle : Nat := 0
  waiting : List Waiting := []
  /-- Whether a thread has waited since the counters were last known exactly. -/
  blurred : Bool := false
  deriving Repr, DecidableEq, Inhabited

namespace Scenario

/-- The script before its first step. -/
def start (sharing : Bool) : Scenario :=
  { platform := { sharing } }

/-- Number of a name, which is added to the names if it is new. -/
def place (name : String) (names : List String) : Nat × List String :=
  match names.idxOf? name with
  | some index => (index, names)
  | none => (names.length, names ++ [name])

/-- The thread of a name; its first mention starts it. -/
def threadOf (scenario : Scenario) (name : String) : ThreadId × Scenario :=
  let (index, threads) := place name scenario.threads
  (⟨index⟩, { scenario with threads })

/-- The attribute slot of a name; its first mention makes an empty one. -/
def slotOf (scenario : Scenario) (name : Option String) : Option SlotId × Scenario :=
  match name with
  | none => (none, scenario)
  | some name =>
      let (index, slots) := place name scenario.slots
      (some ⟨index⟩, { scenario with slots })

/-- Name of a thread. -/
def nameOf (scenario : Scenario) (thread : ThreadId) : Option String :=
  scenario.threads[thread.number]?

/-- The handle of a mutex name; an unknown name gets a new, empty handle. -/
def handleOf (scenario : Scenario) (mutex : String) : HandleId × Scenario :=
  match scenario.mutexes.find? mutex with
  | some handle => (handle, scenario)
  | none =>
      let handle : HandleId := ⟨scenario.nextHandle⟩
      (handle,
        { scenario with
          mutexes := scenario.mutexes.set mutex handle
          nextHandle := scenario.nextHandle + 1 })

/-- The handle of a mutex name, or the null pointer without one. -/
def pointerTo (scenario : Scenario) (mutex : Option String) : Option HandleId × Scenario :=
  match mutex with
  | none => (none, scenario)
  | some mutex =>
      let (handle, scenario) := scenario.handleOf mutex
      (some handle, scenario)

/-- Replace the world. -/
def setWorld (scenario : Scenario) (world : World) : Scenario :=
  { scenario with platform := { scenario.platform with world } }

/-- Let a thread that was canceled live on. -/
def recover (scenario : Scenario) (me : ThreadId) : Scenario :=
  scenario.setWorld (scenario.platform.world.recover me)

/-- The level in force. -/
def level (scenario : Scenario) (me : ThreadId) : SafetyLevel :=
  (scenario.mode.read me).2

/-- Attributes that a step asks for; without a discipline there are none. -/
def attributesFor (scenario : Scenario) (kind : Option Kind) (shared : Bool) :
    Option Attributes :=
  kind.map fun kind =>
    let attributes := Attributes.withKind kind
    if shared then
      (attributes.setSharing scenario.platform.sharing .processShared).2
    else
      attributes

/-- Word the reply of a world and let a canceled thread live on. -/
def conclude
    (scenario : Scenario)
    (name : String)
    (me : ThreadId)
    (reply : Reply)
    (word : Result → StepAnswer) :
    Scenario × StepAnswer :=
  match reply with
  | .returned result => (scenario, word result)
  | .canceled => (scenario.recover me, .canceled name)
  | .previousType type => (scenario, .type type)
  | .previousState state => (scenario, .state state)
  | .known answer => (scenario, .flag answer)
  | .silent => (scenario, .done)

/-- Run an event that does not wait. -/
def apply
    (scenario : Scenario)
    (name : String)
    (me : ThreadId)
    (event : Event)
    (word : Result → StepAnswer) :
    Scenario × StepAnswer :=
  let (world, reply) := scenario.platform.world.perform me event
  (scenario.setWorld world).conclude name me reply word

/-- Run an operation that may wait: once more if it parks, and then it is waiting. -/
def operate
    (scenario : Scenario)
    (name mutex : String)
    (me : ThreadId)
    (handle : HandleId)
    (operation : Operation)
    (guarded : Bool)
    (wording : Wording) :
    Scenario × StepAnswer :=
  let event := Event.call handle operation guarded
  match scenario.platform.world.performAlone 1 me event with
  | (world, .silent) =>
      let waiter : Waiting := { thread := name, mutex, handle, wording }
      ({ scenario.setWorld world with
          waiting := scenario.waiting ++ [waiter]
          blurred := true },
        .blocked)
  | (world, reply) =>
      (scenario.setWorld world).conclude name me reply (StepAnswer.ofResult wording)

/-- Run an operation on the mutex of a name. -/
def operateOn
    (scenario : Scenario)
    (name mutex : String)
    (me : ThreadId)
    (operation : Operation)
    (guarded : Bool)
    (wording : Wording) :
    Scenario × StepAnswer :=
  let (handle, scenario) := scenario.handleOf mutex
  scenario.operate name mutex me handle operation guarded wording

/-- Whether a reader who sees a result is the owner. -/
def seesOwner (me : ThreadId) : Result → Bool
  | .ok (.seen (.constructed record)) => record.owner = some me
  | _ => false

/-- Give up the latest guard: ask for the owner first, and unlock only what is owned. -/
def dropGuard (scenario : Scenario) (name : String) (me : ThreadId) : Scenario × StepAnswer :=
  let world := scenario.platform.world
  match (world.thread me).guards with
  | [] => (scenario, .nothing)
  | handle :: _ =>
      match world.perform me (.call handle .snapshot false) with
      | (next, .returned result) =>
          if seesOwner me result then
            let (last, reply) := next.perform me (.dropGuard 0)
            (scenario.setWorld last).conclude name me reply fun _ => .wasOwned true
          else
            (scenario.setWorld (next.apply me .forgetGuard).1, .wasOwned false)
      | (next, reply) =>
          -- The guard is dropped by the unwinding.
          let (last, _) := next.perform me (.dropGuard 0)
          (scenario.setWorld last).conclude name me reply fun _ => .done

/-- Run an event of the innermost scope or window, which may not be there. -/
def applyToTop
    (scenario : Scenario)
    (name : String)
    (me : ThreadId)
    (event : Event) :
    Scenario × StepAnswer :=
  match scenario.platform.world.step? me event with
  | none => (scenario, .nothing)
  | some (world, reply) => (scenario.setWorld world).conclude name me reply fun _ => .done

/-- The eight counters; three of them are not known once a thread has waited. -/
def readCounters (scenario : Scenario) : List (Branch × Option UInt64) :=
  let unknown := [Branch.slotContended, .slotTryFailed, .waitYield]
  Branch.all.map fun branch =>
    if scenario.blurred ∧ branch ∈ unknown then
      (branch, none)
    else
      (branch, some (scenario.platform.world.counters.get branch))

/-- Run a call on an attribute slot; a use of a freed object is worded as an invalid argument. -/
def callAttribute
    (scenario : Scenario)
    (me : ThreadId)
    (call : AttributeCall)
    (word : AttributeReply → Scenario → StepAnswer) :
    Scenario × StepAnswer :=
  match scenario.platform.callAttribute (scenario.level me) me call with
  | .error _ => (scenario, word (.refused .invalidArgument) scenario)
  | .ok (reply, platform) =>
      let next := { scenario with platform }
      (next, word reply next)

/-- Number in an output before a getter writes to it. -/
def untouchedOutput : Int32 := -7

/-- Wording of the answer of a getter. -/
def wordOutput (reply : AttributeReply) (_ : Scenario) : StepAnswer :=
  .output reply.status (reply.written.getD untouchedOutput)

/-- Wording of the answer of a call with a bare status. -/
def wordStatus (reply : AttributeReply) (_ : Scenario) : StepAnswer :=
  .status reply.status

/-- Initialize a mutex over the boundary; no name is the null pointer. -/
def initMutex
    (scenario : Scenario)
    (name : String)
    (mutex : Option String)
    (me : ThreadId)
    (slot : Option SlotId) :
    Scenario × StepAnswer :=
  let (handle, scenario) := scenario.pointerTo mutex
  match scenario.platform.initMutex (scenario.level me) me handle slot with
  | .error _ => (scenario, .status Fault.invalidArgument.status)
  | .ok (reply, platform) =>
      { scenario with platform }.conclude name me reply (StepAnswer.ofResult .status)

end Scenario

end LatchMutex
