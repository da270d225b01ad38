import Mathlib.Algebra.Group.Int.Defs
import Mathlib.Algebra.Group.Nat.Defs
import Mathlib.Data.List.DropRight
import LatchMutex.Proofs.SmallSteps

namespace LatchMutex

/-!
# Histories of a handle

The history of a handle along a run is the list of the visits to it.  Each visit
finds what the one before it left, so a history links the first slot of the run
to its last one, and what holds of a slot is carried from visit to visit.

A `Course` is a run from the world before anything happened in which the handle
is reached through operations only: its storage starts empty or as a sentinel
and is never overwritten.
-/

/-- What a visit comes to, for the one who counts acquisitions. -/
inductive Deed where
  /-- The mutex was taken, be it again. -/
  | acquires
  /-- One acquisition was given back. -/
  | releases
  /-- The thread goes into the wait loop. -/
  | parks
  /-- The record that was there is gone. -/
  | renews
  | nothing
  deriving Repr, DecidableEq, Inhabited

/-- What the visit comes to; a create ends the old record even if it fails. -/
def Visit.deed (visit : Visit) : Deed :=
  match visit.operation, visit.done.progress with
  | .create _, _ => .renews
  | .destroy, .finished (.ok _) => .renews
  | .lock, .finished (.ok _) | .tryLock, .finished (.ok _) => .acquires
  | .unlock, .finished (.ok _) => .releases
  | _, .parked => .parks
  | _, _ => .nothing

/-- Admitted visits that lead from one slot to another, each from where the last one left it. -/
inductive Linked : Slot → List Visit → Slot → Prop where
  | nil (slot : Slot) :
      Linked slot [] slot
  | cons
      {visit : Visit} {rest : List Visit} {first last : Slot}
      (admitted : visit.Admitted)
      (finds : visit.slot = first)
      (later : Linked visit.done.slot rest last) :
      Linked first (visit :: rest) last

namespace Linked

/-- A history can be cut anywhere. -/
theorem split
    {first last : Slot}
    {earlier later : List Visit}
    (linked : Linked first (earlier ++ later) last) :
    ∃ middle, Linked first earlier middle ∧ Linked middle later last := by
  induction earlier generalizing first with
  | nil =>
      exact ⟨first, .nil first, linked⟩
  | cons visit rest inductionHypothesis =>
      cases linked with
      | cons admitted finds tail =>
          obtain ⟨middle, head, tail⟩ := inductionHypothesis tail
          exact ⟨middle, .cons admitted finds head, tail⟩

/-- The last visit of a history, and the history before it. -/
theorem of_snoc
    {first last : Slot}
    {history : List Visit}
    {visit : Visit}
    (linked : Linked first (history ++ [visit]) last) :
    Linked first history visit.slot ∧ visit.Admitted ∧ last = visit.done.slot := by
  obtain ⟨middle, head, tail⟩ := linked.split
  cases tail with
  | cons admitted finds empty =>
      subst finds
      cases empty
      exact ⟨head, admitted, rfl⟩

/-- Induction over the visits of a history, with the history so far at hand. -/
theorem visit_induction
    {motive : List Visit → Slot → Prop}
    {first last : Slot}
    {history : List Visit}
    (linked : Linked first history last)
    (opening : motive [] first)
    (step :
      ∀ earlier visit,
        visit.Admitted →
        motive earlier visit.slot →
        motive (earlier ++ [visit]) visit.done.slot) :
    motive history last := by
  induction history using List.reverseRecOn generalizing last with
  | nil =>
      cases linked
      exact opening
  | append_singleton earlier visit inductionHypothesis =>
      obtain ⟨head, admitted, rfl⟩ := linked.of_snoc
      exact step earlier visit admitted (inductionHypothesis head)

end Linked

namespace World

/-- The visits to a handle along a run. -/
def history (handle : HandleId) : World → List (ThreadId × Event) → List Visit
  | _, [] => []
  | world, (me, event) :: rest =>
      match world.step? me event with
      | none => []
      | some (next, _) => (world.visit? me event handle).toList ++ next.history handle rest

/-- Every call under way was let in. -/
def CallsAdmitted (world : World) : Prop :=
  ∀ thread call, (world.thread thread).call = some call → call.Admitted

/-- A nonempty run is a step and a run from where it led. -/
theorem run?_cons
    {world last : World}
    {me : ThreadId}
    {event : Event}
    {rest : List (ThreadId × Event)}
    {replies : List Reply} :
    world.run? ((me, event) :: rest) = some (last, replies) ↔
      ∃ next reply later,
        world.step? me event = some (next, reply) ∧
          next.run? rest = some (last, later) ∧
          replies = reply :: later := by
  simp only [run?, Option.bind_eq_bind, Option.bind_eq_some_iff, Option.pure_def,
    Option.some.injEq, Prod.mk.injEq, Prod.exists]
  constructor
  · rintro ⟨next, reply, stepped, final, later, ran, rfl, rfl⟩
    exact ⟨next, reply, later, stepped, ran, rfl⟩
  · rintro ⟨next, reply, later, stepped, ran, rfl⟩
    exact ⟨next, reply, stepped, last, later, ran, rfl, rfl⟩

/-- A run in two parts. -/
theorem run?_append
    {world last : World}
    {earlier later : List (ThreadId × Event)}
    {replies : List Reply} :
    world.run? (earlier ++ later) = some (last, replies) ↔
      ∃ middle before after,
        world.run? earlier = some (middle, before) ∧
          middle.run? later = some (last, after) ∧
          replies = before ++ after := by
  induction earlier generalizing world replies with
  | nil =>
      simp [run?]
  | cons step rest inductionHypothesis =>
      obtain ⟨me, event⟩ := step
      simp only [List.cons_append, run?_cons, inductionHypothesis]
      constructor
      · rintro ⟨next, reply, _, stepped, ⟨middle, before, after, head, tail, rfl⟩, rfl⟩
        exact ⟨middle, reply :: before, after, ⟨next, reply, before, stepped, head, rfl⟩,
          tail, rfl⟩
      · rintro ⟨middle, _, after, ⟨next, reply, before, stepped, head, rfl⟩, tail, rfl⟩
        exact ⟨next, reply, before ++ after, stepped,
          ⟨middle, before, after, head, tail, rfl⟩, rfl⟩

/-- The history of a run in two parts. -/
theorem history_append
    {world middle : World}
    {earlier : List (ThreadId × Event)}
    {replies : List Reply}
    (ran : world.run? earlier = some (middle, replies))
    (handle : HandleId)
    (later : List (ThreadId × Event)) :
    world.history handle (earlier ++ later) =
      world.history handle earlier ++ middle.history handle later := by
  induction earlier generalizing world replies with
  | nil =>
      cases ran
      rfl
  | cons step rest inductionHypothesis =>
      obtain ⟨next, reply, _, stepped, tail, rfl⟩ := run?_cons.mp ran
      simp [history, stepped, inductionHypothesis tail]

/-- The visit of one step is an admitted one. -/
theorem visit?_admitted
    {world : World}
    {me : ThreadId}
    {event : Event}
    {handle : HandleId}
    {visit : Visit}
    (admitted : world.CallsAdmitted)
    (visits : world.visit? me event handle = some visit) :
    visit.Admitted := by
  obtain ⟨-, call, running, -, -, rfl⟩ := visit?_eq_some_iff.mp visits
  have letIn := admitted me call running
  refine ⟨letIn.accepted, ?_⟩
  intro resumed
  have yielding : call.phase = .yielding := by
    simpa [visitOf] using resumed
  simpa [visitOf, yielding] using letIn.onlyLocksWait

/-- A run links what the handle held before it to what it holds after it. -/
theorem history_linked
    {world last : World}
    {run : List (ThreadId × Event)}
    {replies : List Reply}
    {handle : HandleId}
    (admitted : world.CallsAdmitted)
    (ran : world.run? run = some (last, replies))
    (kept : ∀ step ∈ run, step.2.keeps handle = true) :
    Linked (world.slot handle) (world.history handle run) (last.slot handle) := by
  induction run generalizing world replies with
  | nil =>
      cases ran
      exact .nil _
  | cons step rest inductionHypothesis =>
      obtain ⟨me, event⟩ := step
      obtain ⟨next, reply, _, stepped, tail, rfl⟩ := run?_cons.mp ran
      have slot := step?_slot stepped (kept _ List.mem_cons_self)
      have later :=
        inductionHypothesis (step?_admitted stepped admitted) tail
          fun step member => kept step (List.mem_cons_of_mem _ member)
      simp only [history, stepped]
      cases visits : world.visit? me event handle with
      | none =>
          simpa [visits, slot] using later
      | some visit =>
          rw [visits] at slot
          rw [slot] at later
          exact .cons (visit?_admitted admitted visits) (visit?_slot visits) later

/-- A run keeps every call one that was let in. -/
theorem run?_admitted
    {world last : World}
    {run : List (ThreadId × Event)}
    {replies : List Reply}
    (admitted : world.CallsAdmitted)
    (ran : world.run? run = some (last, replies)) :
    last.CallsAdmitted := by
  induction run generalizing world replies with
  | nil =>
      cases ran
      exact admitted
  | cons step rest inductionHypothesis =>
      obtain ⟨next, reply, _, stepped, tail, rfl⟩ := run?_cons.mp ran
      exact inductionHypothesis (step?_admitted stepped admitted) tail

/-- A run in which a thread takes no step leaves its call as it is. -/
theorem run?_call_of_ne
    {world last : World}
    {run : List (ThreadId × Event)}
    {replies : List Reply}
    {me : ThreadId}
    (ran : world.run? run = some (last, replies))
    (others : ∀ step ∈ run, step.1 ≠ me) :
    (last.thread me).call = (world.thread me).call := by
  induction run generalizing world replies with
  | nil =>
      cases ran
      rfl
  | cons step rest inductionHypothesis =>
      obtain ⟨next, reply, _, stepped, tail, rfl⟩ := run?_cons.mp ran
      have first := step?_call_of_ne stepped (Ne.symm (others step List.mem_cons_self))
      have later :=
        inductionHypothesis tail fun step member => others step (List.mem_cons_of_mem _ member)
      rw [later, first]

/-- A run in which a thread takes no step, and nobody asks for it, leaves it alone. -/
theorem run?_thread_of_unrequested
    {world last : World}
    {run : List (ThreadId × Event)}
    {replies : List Reply}
    {me : ThreadId}
    (ran : world.run? run = some (last, replies))
    (others : ∀ step ∈ run, step.1 ≠ me ∧ step.2.requests me = false) :
    last.thread me = world.thread me := by
  induction run generalizing world replies with
  | nil =>
      cases ran
      rfl
  | cons step rest inductionHypothesis =>
      obtain ⟨next, reply, _, stepped, tail, rfl⟩ := run?_cons.mp ran
      obtain ⟨⟨other, unrequested⟩, later⟩ := List.forall_mem_cons.mp others
      rw [inductionHypothesis tail later,
        step?_thread_of_unrequested stepped (Ne.symm other) unrequested]

/-- A run without a spinning visit leaves the latch free between its sections. -/
theorem run?_unlatched
    {world last : World}
    {run : List (ThreadId × Event)}
    {replies : List Reply}
    {handle : HandleId}
    (ran : world.run? run = some (last, replies))
    (kept : ∀ step ∈ run, step.2.keeps handle = true)
    (unlatched : (world.cells.get handle).holder = none)
    (smooth : ∀ visit ∈ world.history handle run, visit.done.progress ≠ .spinning) :
    (last.cells.get handle).holder = none := by
  induction run generalizing world replies with
  | nil =>
      cases ran
      exact unlatched
  | cons step rest inductionHypothesis =>
      obtain ⟨me, event⟩ := step
      obtain ⟨next, reply, _, stepped, tail, rfl⟩ := run?_cons.mp ran
      simp only [history, stepped, List.mem_append, Option.mem_toList] at smooth
      apply inductionHypothesis tail
      · intro step member
        exact kept step (List.mem_cons_of_mem _ member)
      · have cell := step?_cell stepped (kept _ List.mem_cons_self)
        cases visits : world.visit? me event handle with
        | none =>
            rw [visits] at cell
            rw [cell, unlatched]
        | some visit =>
            rw [visits] at cell
            simp [cell, smooth visit (.inl visits)]
      · intro visit member
        exact smooth visit (.inr member)

/-- The first world, with a handle that holds a given slot. -/
def opening (handle : HandleId) (start : Slot) : World :=
  initial.setCell handle { slot := start }

end World

/-- A run from the start in which a handle is reached through operations only. -/
structure Course
    (handle : HandleId)
    (start : Slot)
    (run : List (ThreadId × Event))
    (world : World) : Prop where
  unbuilt : ∀ record, start ≠ .constructed record
  kept : ∀ step ∈ run, step.2.keeps handle = true
  ran : ∃ replies, (World.opening handle start).run? run = some (world, replies)

namespace Course

variable {handle : HandleId} {start : Slot} {run : List (ThreadId × Event)} {world : World}

/-- Nobody is in the middle of a call at the start. -/
theorem opening_admitted (handle : HandleId) (start : Slot) :
    (World.opening handle start).CallsAdmitted := by
  intro thread call running
  cases running

/-- The history of a course links its start to what the handle holds. -/
theorem linked (course : Course handle start run world) :
    Linked start ((World.opening handle start).history handle run) (world.slot handle) := by
  obtain ⟨replies, ran⟩ := course.ran
  have linked := World.history_linked (opening_admitted handle start) ran course.kept
  simpa [World.opening, World.slot, World.setCell] using linked

/-- Every call under way after a course was let in. -/
theorem admitted (course : Course handle start run world) :
    world.CallsAdmitted := by
  obtain ⟨replies, ran⟩ := course.ran
  exact World.run?_admitted (opening_admitted handle start) ran

/-- Whatever run is possible is a course, if it keeps the handle. -/
theorem of_isSome
    (unbuilt : ∀ record, start ≠ .constructed record)
    (kept : ∀ step ∈ run, step.2.keeps handle = true)
    (possible : ((World.opening handle start).run? run).isSome = true) :
    Course handle start run (((World.opening handle start).run? run).get possible).1 where
  unbuilt := unbuilt
  kept := kept
  ran := ⟨_, (Option.some_get possible).symm⟩

end Course

end LatchMutex
