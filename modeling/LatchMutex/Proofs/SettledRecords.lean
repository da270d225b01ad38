import LatchMutex.Proofs.RecordSoundness

namespace LatchMutex

/-!
# What no depth can break

A record that has been relocked as often as its counter can tell is sound; one
that has been relocked more often is still settled.  Its guard is lowered, and
without recursion its counter says whether somebody owns it.  So in every course,
however deep, nobody is left spinning and the latch is free between the sections.
-/

/-- What holds of a record however often it was relocked. -/
structure Record.Settled (record : Record) : Prop where
  guardLowered : record.tryGuard = 0
  single :
    record.kind.isRecursive = false →
    record.lockIndex = if record.owner.isSome then 0 else unlocked

/-- Whatever record the slot holds is settled. -/
def Slot.Settled (slot : Slot) : Prop :=
  ∀ record, slot = .constructed record → record.Settled

namespace Record

theorem Settled.fresh (attributes : Option Attributes) : (Record.fresh attributes).Settled where
  guardLowered := rfl
  single _ := rfl

/-- A settled record of a single acquisition is free where nobody owns it. -/
theorem Settled.unowned_of_free
    {record : Record}
    (settled : record.Settled)
    (single : record.kind.isRecursive = false)
    (free : record.lockIndex = unlocked) :
    record.owner = none := by
  have counted := settled.single single
  rw [free] at counted
  cases owner : record.owner with
  | none =>
      rfl
  | some thread =>
      simp only [owner, Option.isSome_some, ↓reduceIte] at counted
      exact absurd counted (by decide)

end Record

namespace Slot

theorem settled_of_unbuilt {slot : Slot} (unbuilt : ∀ record, slot ≠ .constructed record) :
    slot.Settled := by
  intro record finds
  exact (unbuilt record finds).elim

theorem settled_constructed {record : Record} :
    (Slot.constructed record).Settled ↔ record.Settled := by
  simp [Settled]

theorem Settled.lowered {slot : Slot} (settled : slot.Settled) : slot.Lowered := by
  intro record finds
  exact (settled record finds).guardLowered

/-- What a settled slot offers is settled. -/
theorem Settled.offered
    {slot : Slot}
    {record : Record}
    (settled : slot.Settled)
    (offers : slot.offered = some record) :
    record.Settled := by
  cases slot with
  | empty =>
      contradiction
  | sentinel =>
      cases offers
      exact .fresh none
  | constructed found =>
      cases offers
      exact settled record rfl

end Slot

namespace Visit

/-- A visit keeps a slot settled. -/
theorem done_settled
    {visit : Visit}
    (admitted : visit.Admitted)
    (settled : visit.slot.Settled) :
    visit.done.slot.Settled := by
  have leaves := leaves_of_lowered admitted settled.lowered
  generalize visit.deed = deed at leaves
  generalize visit.done.slot = left at leaves
  cases leaves with
  | keeps =>
      exact settled
  | empties | declares =>
      exact Slot.settled_of_unbuilt (by simp)
  | creates attributes processPrivate =>
      exact Slot.settled_constructed.mpr (.fresh attributes)
  | @takes record waiters offers free =>
      refine Slot.settled_constructed.mpr ⟨(settled.offered offers).guardLowered, ?_⟩
      intro _
      change record.lockIndex + 1 = 0
      rw [free]
      decide
  | @relocks record waiters finds held owned recursive uncounted =>
      refine Slot.settled_constructed.mpr ⟨(settled record finds).guardLowered, ?_⟩
      intro single
      exact absurd (recursive.symm.trans single) (by decide)
  | @parks record finds lock =>
      obtain ⟨waiters, meets, -⟩ := visit.meets_eq record
      rw [meets]
      exact Slot.settled_constructed.mpr
        ⟨(settled record finds).guardLowered, (settled record finds).single⟩
  | @refuses record waiters finds owned checked uncounted =>
      exact Slot.settled_constructed.mpr
        ⟨(settled record finds).guardLowered, (settled record finds).single⟩
  | @unlocks record finds owned recursive nested =>
      refine Slot.settled_constructed.mpr ⟨(settled record finds).guardLowered, ?_⟩
      intro single
      exact absurd (recursive.symm.trans single) (by decide)
  | @frees record finds owned outermost =>
      refine Slot.settled_constructed.mpr ⟨(settled record finds).guardLowered, ?_⟩
      intro single
      have counted := (settled record finds).single single
      simp only [owned, Option.isSome_some, ↓reduceIte] at counted
      change record.lockIndex - 1 = unlocked
      rw [counted]
      decide

/-- A thread that somebody else's visit leaves as the owner was so before, and as deep. -/
theorem owner_of_done
    {visit : Visit}
    {left : Record}
    {thread : ThreadId}
    (admitted : visit.Admitted)
    (lowered : visit.slot.Lowered)
    (leavesRecord : visit.done.slot = .constructed left)
    (owned : left.owner = some thread)
    (other : visit.thread ≠ thread) :
    ∃ record,
      visit.slot = .constructed record ∧
        record.owner = some thread ∧
        record.kind = left.kind ∧
        record.lockIndex = left.lockIndex := by
  have leaves := leaves_of_lowered admitted lowered
  rw [leavesRecord] at leaves
  generalize visit.deed = deed at leaves
  generalize finalIs : Slot.constructed left = final at leaves
  cases leaves with
  | keeps =>
      exact ⟨left, finalIs.symm, owned, rfl, rfl⟩
  | empties | declares =>
      contradiction
  | creates attributes processPrivate =>
      cases finalIs
      contradiction
  | takes | relocks =>
      cases finalIs
      exact (other (Option.some.inj owned)).elim
  | @parks record finds lock =>
      cases finalIs
      obtain ⟨waiters, meets, -⟩ := visit.meets_eq record
      rw [meets] at owned ⊢
      exact ⟨record, finds, owned, rfl, rfl⟩
  | refuses waiters finds =>
      cases finalIs
      exact ⟨_, finds, owned, rfl, rfl⟩
  | unlocks finds mine =>
      cases finalIs
      exact (other (Option.some.inj (mine.symm.trans owned))).elim
  | frees finds =>
      cases finalIs
      contradiction

/-- Nobody parks on an error-checking mutex of its own. -/
theorem unowned_of_parks
    {visit : Visit}
    {record : Record}
    (lock : visit.operation = .lock)
    (settled : visit.slot.Settled)
    (finds : visit.slot = .constructed record)
    (parked : visit.done.progress = .parked)
    (checked : record.kind = .errorCheck) :
    record.owner ≠ some visit.thread := by
  have settledRecord := settled record finds
  have single : record.kind.isRecursive = false := by
    rw [checked]
    rfl
  obtain ⟨waiters, meets, -⟩ := visit.meets_eq record
  have attempted :=
    (visit.meets record).attempt_cases (by rw [meets]; exact settledRecord.guardLowered)
      visit.thread
  generalize attempts : (visit.meets record).attempt visit.thread = turn at attempted
  rw [done_of_lock lock finds, Slot.attempt, attempts] at parked
  cases attempted with
  | takes | resets | relocks | refuses =>
      contradiction
  | defers free awaited back contended =>
      rw [meets] at free
      simp [settledRecord.unowned_of_free single free]
  | waits held blocked =>
      rw [meets] at blocked
      intro owned
      exact (blocked owned).2 checked

end Visit

namespace Linked

/-- Along a history a slot stays settled. -/
theorem settled
    {start last : Slot}
    {history : List Visit}
    (linked : Linked start history last)
    (unbuilt : ∀ record, start ≠ .constructed record) :
    last.Settled := by
  apply linked.visit_induction (motive := fun _ slot => slot.Settled)
  · exact Slot.settled_of_unbuilt unbuilt
  · intro earlier visit admitted found
    exact Visit.done_settled admitted found

/-- Every visit of a history was let in and finds a settled slot. -/
theorem finds_settled
    {start last : Slot}
    {history : List Visit}
    {visit : Visit}
    (linked : Linked start history last)
    (unbuilt : ∀ record, start ≠ .constructed record)
    (member : visit ∈ history) :
    visit.Admitted ∧ visit.slot.Settled := by
  obtain ⟨earlier, later, rfl⟩ := List.append_of_mem member
  obtain ⟨middle, head, tail⟩ := linked.split
  cases tail with
  | cons admitted finds rest =>
      subst finds
      exact ⟨admitted, head.settled unbuilt⟩

end Linked

namespace Course

variable {handle : HandleId} {start : Slot} {run : List (ThreadId × Event)} {world : World}

/-- After every course the handle is settled. -/
theorem settled (course : Course handle start run world) : (world.slot handle).Settled :=
  course.linked.settled course.unbuilt

/-- No section of a course was left spinning. -/
theorem history_smooth (course : Course handle start run world) :
    ∀ visit ∈ (World.opening handle start).history handle run,
      visit.done.progress ≠ .spinning := by
  intro visit member
  obtain ⟨admitted, settled⟩ := course.linked.finds_settled course.unbuilt member
  exact Visit.progress_ne_spinning admitted settled.lowered

/-- After every course the latch is free. -/
theorem latch_free (course : Course handle start run world) :
    (world.cells.get handle).holder = none := by
  obtain ⟨replies, ran⟩ := course.ran
  apply World.run?_unlatched ran course.kept
  · simp [World.opening, World.setCell]
  · exact course.history_smooth

/-- The next section is let in, and finds a settled slot. -/
theorem visit_settled
    {me : ThreadId}
    {event : Event}
    {visit : Visit}
    (course : Course handle start run world)
    (visits : world.visit? me event handle = some visit) :
    visit.Admitted ∧ visit.slot.Settled := by
  refine ⟨World.visit?_admitted course.admitted visits, ?_⟩
  rw [World.visit?_slot visits]
  exact course.settled

/-- The next section is not left spinning. -/
theorem smooth
    {me : ThreadId}
    {event : Event}
    {visit : Visit}
    (course : Course handle start run world)
    (visits : world.visit? me event handle = some visit) :
    visit.done.progress ≠ .spinning := by
  obtain ⟨admitted, settled⟩ := course.visit_settled visits
  exact Visit.progress_ne_spinning admitted settled.lowered

end Course

end LatchMutex
