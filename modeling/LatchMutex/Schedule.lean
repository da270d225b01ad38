import LatchMutex.World

namespace LatchMutex

/-!
# Running one thread at a time

`World.step?` interleaves single small steps.  Here one thread runs on its own:
`World.follow` takes the small steps of a call until it answers or parks, and
`World.perform` starts a call and follows it.  A parked call is followed again
by `World.follow`, which is one whole turn of its wait loop.
-/

namespace World

/-- Whether a thread is parked in the wait loop. -/
def isParked (world : World) (me : ThreadId) : Bool :=
  match (world.thread me).call with
  | some call => call.phase = .parked
  | none => false

/-- An event that changes nothing where it is not possible. -/
def apply (world : World) (me : ThreadId) (event : Event) : World × Reply :=
  (world.step? me event).getD (world, .silent)

/-- Take at most so many small steps of a call; stop at its answer, and where it parks. -/
def followFor : Nat → World → ThreadId → World × Reply
  | 0, world, _ => (world, .silent)
  | steps + 1, world, me =>
      match world.apply me .proceed with
      | (next, .silent) =>
          if next.isParked me then (next, .silent) else next.followFor steps me
      | answered => answered

/-- Follow a call until it answers or parks: a yield, a section and the end of the scope. -/
def follow (world : World) (me : ThreadId) : World × Reply :=
  world.followFor 3 me

/-- Start what an event starts, and follow it unless it answers at once. -/
def perform (world : World) (me : ThreadId) (event : Event) : World × Reply :=
  match world.apply me event with
  | (next, .silent) => next.follow me
  | answered => answered

/-- Run a call alone for as long as it parks, up to a number of turns of its wait loop. -/
def performAlone (turns : Nat) (world : World) (me : ThreadId) (event : Event) :
    World × Reply :=
  let rec wait : Nat → World → World × Reply
    | 0, world => (world, .silent)
    | turns + 1, world =>
        match world.follow me with
        | (next, .silent) => wait turns next
        | answered => answered
  match world.perform me event with
  | (next, .silent) => wait turns next
  | answered => answered

/-- Stop a cancellation that unwinds a thread. -/
def recover (world : World) (me : ThreadId) : World :=
  (world.apply me .catchCancel).1

end World

end LatchMutex
