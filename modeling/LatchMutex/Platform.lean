import LatchMutex.Boundary
import LatchMutex.Schedule

namespace LatchMutex

/-!
# Mutexes behind the status-code boundary

A platform is a world of mutexes beside the attribute objects of the boundary.
An attribute call draws on the allocation budget of the thread that makes it.
The initialization of a mutex reads its attributes first, and only when these
are accepted it overwrites the storage by an empty handle and creates in it.
-/

/-- Mutexes and attribute objects of one process. -/
structure Platform where
  world : World := {}
  boundary : Boundary := {}
  /-- Whether the platform stores requests for sharing between processes. -/
  sharing : Bool := false
  deriving Repr, DecidableEq, Inhabited

namespace Platform

/-- Make a call on an attribute slot. -/
def callAttribute
    (platform : Platform)
    (level : SafetyLevel)
    (me : ThreadId)
    (call : AttributeCall) :
    Except Misuse (AttributeReply × Platform) := do
  let thread := platform.world.thread me
  let (reply, boundary, budget) ←
    platform.boundary.perform platform.sharing level thread.budget call
  pure
    (reply,
      { platform with
        boundary
        world := platform.world.setThread me { thread with budget } })

/-- Start the initialization of a mutex, or refuse it and leave its storage alone. -/
def startInit
    (platform : Platform)
    (level : SafetyLevel)
    (me : ThreadId)
    (handle : HandleId)
    (slot : Option SlotId) :
    Except Misuse (Except Fault (World × Reply)) := do
  match ← platform.boundary.attributesOf level slot with
  | .error fault => pure (.error fault)
  | .ok attributes =>
      let overwritten := platform.world.setCell handle {}
      pure (.ok (overwritten.apply me (.call handle (.create attributes) false)))

/-- Initialize a mutex, followed until it answers; no mutex is the null pointer. -/
def initMutex
    (platform : Platform)
    (level : SafetyLevel)
    (me : ThreadId)
    (mutex : Option HandleId)
    (slot : Option SlotId) :
    Except Misuse (Reply × Platform) :=
  match mutex with
  | none => .ok (.returned (.error .invalidArgument), platform)
  | some handle => do
      match ← platform.startInit level me handle slot with
      | .error fault => pure (.returned (.error fault), platform)
      | .ok (world, .silent) =>
          let (world, reply) := world.follow me
          pure (reply, { platform with world })
      | .ok (world, answered) => pure (answered, { platform with world })

end Platform

end LatchMutex
