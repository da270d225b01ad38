import LatchMutex.Proofs.CallsUnderway
import LatchMutex.Proofs.ContractWalks

namespace LatchMutex

/-!
# How deep a mutex can be nested

The counter of a recursive mutex has 32 bits, and nothing asks for room before it
is raised.  Up to `2 ^ 32 - 1` nested acquisitions keep everybody else out, and are
given back one by one.  A snapshot shows half of them: from `2 ^ 31` on it shows a
depth of zero, and beyond that a mutex that is not locked.  The acquisition after
the last one makes the mutex free for everybody.
-/

namespace Record

variable {record : Record} {me : ThreadId} {kind : Kind} {depth count : Nat}

/-- What a snapshot of a mutex shows that one thread has nested so deep. -/
structure Shows (record : Record) (me : ThreadId) (count : Nat) : Prop where
  locked : record.isLocked = true
  owner : record.owner = some me
  depth : record.depth.toNat = count
  /-- The depth is computed without an overflow. -/
  fits : record.lockIndex.toInt - unlocked.toInt < 2 ^ 31

/-- The upper half of the range reads as negative. -/
theorem toInt_ofNat_of_lt (bounded : depth < 2 ^ 32) :
    (Int32.ofNat depth).toInt = if depth < 2 ^ 31 then (depth : Int) else depth - 2 ^ 32 := by
  have values : ((Int32.size : Nat) : Int) = 4294967296 := rfl
  simp only [Int32.toInt_ofNat', Int.bmod_def, values]
  split <;> split <;> omega

theorem Tracked.sub_unlocked (tracked : record.Tracked me kind depth) :
    record.lockIndex - unlocked = Int32.ofNat depth := by
  rw [← tracked.counter, unlocked]
  grind

/-- A snapshot counts the depth in the lower half of the range, and nothing in the upper one. -/
theorem Tracked.toNat_depth
    (tracked : record.Tracked me kind depth)
    (bounded : depth < 2 ^ 32) :
    record.depth.toNat = if depth < 2 ^ 31 then depth else 0 := by
  have counted := toInt_ofNat_of_lt bounded
  unfold Record.depth
  simp only [tracked.sub_unlocked, Int32.lt_iff_toInt_lt]
  split
  · rename_i negative
    rw [counted] at negative
    split at negative
    · change (depth : Int) < 0 at negative
      omega
    · rename_i upper
      rw [if_neg upper]
      rfl
  · rename_i nonnegative
    rw [counted] at nonnegative
    have lower : depth < 2 ^ 31 := by
      by_contra upper
      rw [if_neg upper] at nonnegative
      change ¬ (depth : Int) - 2 ^ 32 < 0 at nonnegative
      omega
    rw [if_pos lower, Int32.toUInt32_ofNat', UInt32.toNat_ofNat', Nat.mod_eq_of_lt bounded]

theorem Tracked.toInt_lockIndex
    (tracked : record.Tracked me kind depth)
    (held : depth ≠ 0)
    (bounded : depth < 2 ^ 32) :
    record.lockIndex.toInt = if depth ≤ 2 ^ 31 then (depth : Int) - 1 else depth - 1 - 2 ^ 32 := by
  have counter : record.lockIndex = Int32.ofNat (depth - 1) := by
    have counts := tracked.counter
    rw [Int32.ofNat_sub depth 1 (by omega), ← counts]
    simp
  rw [counter, toInt_ofNat_of_lt (by omega)]
  split <;> split <;> omega

theorem Tracked.isLocked_iff
    (tracked : record.Tracked me kind depth)
    (held : depth ≠ 0)
    (bounded : depth < 2 ^ 32) :
    record.isLocked = true ↔ depth ≤ 2 ^ 31 := by
  rw [isLocked, decide_eq_true_iff, Int32.lt_iff_toInt_lt, tracked.toInt_lockIndex held bounded]
  change -1 < _ ↔ _
  split <;> omega

/-- A snapshot shows a nested mutex as it is in the lower half of the range of its counter. -/
theorem Tracked.shows_iff
    (tracked : record.Tracked me kind depth)
    (held : depth ≠ 0)
    (bounded : depth < 2 ^ 32) :
    record.Shows me depth ↔ depth < 2 ^ 31 := by
  have counted := tracked.toNat_depth bounded
  constructor
  · intro shows_
    by_contra upper
    rw [if_neg upper, shows_.depth] at counted
    exact held counted
  · intro lower
    rw [if_pos lower] at counted
    refine
      ⟨(tracked.isLocked_iff held bounded).mpr (by omega), tracked.owned_iff.mpr held, counted, ?_⟩
    rw [tracked.toInt_lockIndex held bounded, if_pos (by omega)]
    change (depth : Int) - 1 - -1 < _
    omega

/-- The bookkeeping of waiters has no part in the depth. -/
theorem Tracked.withWaiters
    (tracked : record.Tracked me kind depth)
    (waiters : UInt32)
    (last : Option ThreadId) :
    { record with waiters, lastWaiter := last }.Tracked me kind depth where
  guardLowered := tracked.guardLowered
  resolved := tracked.resolved
  counter := tracked.counter
  owner := tracked.owner
  single := tracked.single

/-- The first acquisition of a free mutex. -/
theorem Tracked.of_take
    (lowered : record.tryGuard = 0)
    (recursive : record.kind = .recursive)
    (free : record.lockIndex = unlocked)
    (waiters : UInt32) :
    { record.claim.take me with waiters }.Tracked me .recursive 1 where
  guardLowered := lowered
  resolved := recursive
  counter := by
    change record.lockIndex + 1 + 1 = _
    rw [free]
    decide
  owner := rfl
  single := by decide

/-- Whoever owns a mutex that a thread has nested is that thread. -/
theorem Tracked.eq_of_owned
    {thread : ThreadId}
    (tracked : record.Tracked me kind depth)
    (held : depth ≠ 0)
    (owned : record.owner = some thread) :
    thread = me := by
  rw [tracked.owned_iff.mpr held] at owned
  exact (Option.some.inj owned).symm

end Record

namespace Visit

variable {visit : Visit} {record : Record} {me : ThreadId} {kind : Kind} {depth : Nat}

/-- How deep a thread has nested a mutex after a visit to it. -/
def depthAfter (visit : Visit) (me : ThreadId) (depth : Nat) : Nat :=
  if visit.thread = me then
    match visit.deed with
    | .acquires => depth + 1
    | .releases => depth - 1
    | _ => depth
  else
    depth

/-- A visit to a mutex that a thread has nested changes the depth by what the thread does. -/
theorem tracked_done
    (admitted : visit.Admitted)
    (finds : visit.slot = .constructed record)
    (tracked : record.Tracked me kind depth)
    (recursive : kind.isRecursive = true)
    (held : depth ≠ 0)
    (bounded : depth < 2 ^ 32)
    (kept : visit.deed ≠ .renews) :
    ∃ left,
      visit.done.slot = .constructed left ∧
        left.Tracked me kind (visit.depthAfter me depth) := by
  have lowered : visit.slot.Lowered := by
    rw [finds]
    rintro same found
    cases found
    exact tracked.guardLowered
  have leaves := leaves_of_lowered admitted lowered
  unfold depthAfter
  generalize visit.deed = deed at leaves kept
  generalize visit.done.slot = final at leaves
  cases leaves with
  | keeps =>
      exact ⟨record, finds, by simpa using tracked⟩
  | empties | declares | creates =>
      exact (kept rfl).elim
  | takes waiters offers free =>
      rw [finds, Slot.offered, Option.some.injEq] at offers
      subst offers
      exact (held ((tracked.free_iff bounded).mp free)).elim
  | relocks waiters found counted owned =>
      cases finds.symm.trans found
      rw [tracked.eq_of_owned held owned, if_pos rfl]
      exact ⟨_, rfl, tracked.take (.inr recursive) waiters⟩
  | parks found lock =>
      cases finds.symm.trans found
      obtain ⟨waiters, meets, -⟩ := visit.meets_eq record
      rw [meets]
      refine ⟨_, rfl, ?_⟩
      split <;> exact tracked.withWaiters _ _
  | refuses waiters found owned checked =>
      cases finds.symm.trans found
      have single := tracked.isRecursive
      rw [checked, recursive] at single
      contradiction
  | unlocks found owned _ nested =>
      cases finds.symm.trans found
      rw [ne_eq, tracked.lockIndex_eq_zero_iff bounded held] at nested
      rw [if_pos (tracked.eq_of_owned held owned)]
      exact ⟨_, rfl, tracked.unclaim (by omega)⟩
  | frees found owned outermost =>
      cases finds.symm.trans found
      have once := tracked.depth_of_outermost bounded (tracked.owned_iff.mpr held) outermost
      subst once
      rw [if_pos (tracked.eq_of_owned held owned)]
      exact ⟨_, rfl, tracked.free⟩

/-- Nobody gets a nested mutex by a try-lock, its owner neither. -/
theorem busy_of_tryLock
    (admitted : visit.Admitted)
    (finds : visit.slot = .constructed record)
    (tracked : record.Tracked me kind depth)
    (held : depth ≠ 0)
    (bounded : depth < 2 ^ 32)
    (tryLock : visit.operation = .tryLock) :
    visit.done.progress = .finished (.error .busy) := by
  have counted : record.lockIndex ≠ unlocked := by
    rwa [ne_eq, tracked.free_iff bounded]
  rw [done_of_ne_lock admitted (by simp [tryLock]), tryLock, Operation.enter, Slot.tryLock, finds]
  simp [Slot.materialize, Record.tryTake_of_held counted, TryPath.outcome, Except.map]

/-- A lock of anybody else parks on a nested mutex. -/
theorem parks_of_lock
    (finds : visit.slot = .constructed record)
    (tracked : record.Tracked me kind depth)
    (held : depth ≠ 0)
    (bounded : depth < 2 ^ 32)
    (lock : visit.operation = .lock)
    (other : visit.thread ≠ me) :
    visit.done.progress = .parked := by
  obtain ⟨waiters, meets, -⟩ := visit.meets_eq record
  have met : (visit.meets record).Tracked me kind depth := by
    rw [meets]
    exact tracked.withWaiters waiters record.lastWaiter
  have counted : (visit.meets record).lockIndex ≠ unlocked := by
    rwa [ne_eq, met.free_iff bounded]
  have attempted := (visit.meets record).attempt_cases met.guardLowered visit.thread
  generalize attempts : (visit.meets record).attempt visit.thread = turn at attempted
  rw [done_of_lock lock finds, Slot.attempt, attempts]
  cases attempted with
  | takes free | resets free | defers free =>
      exact (counted free).elim
  | relocks _ owned | refuses _ owned =>
      exact (other (met.eq_of_owned held owned)).elim
  | waits =>
      rfl

/-- An unlock of the thread that has nested a mutex gives one acquisition back. -/
theorem releases_of_unlock
    (admitted : visit.Admitted)
    (finds : visit.slot = .constructed record)
    (tracked : record.Tracked me kind depth)
    (held : depth ≠ 0)
    (unlock : visit.operation = .unlock)
    (mine : visit.thread = me) :
    visit.done.progress = .finished (.ok .done) ∧ visit.deed = .releases := by
  have done := done_of_ne_lock admitted (by simp [unlock])
  have owned : record.owner = some visit.thread := by
    rw [mine]
    exact tracked.owned_iff.mpr held
  have finished : visit.done.progress = .finished (.ok .done) := by
    rw [done, unlock, Operation.enter, Operation.plain, finds, Slot.unlock, Record.release]
    simp only [owned, ne_eq, not_true_eq_false, ↓reduceIte]
    split <;> rfl
  exact ⟨finished, by simp [deed, unlock, finished]⟩

end Visit

/-- A history at whose end a thread has nested a recursive mutex, and given nothing back. -/
inductive Nest (me : ThreadId) : List Visit → Nat → Prop where
  | intro
      {earlier during : List Visit} {take : Visit} {record : Record}
      (mine : take.thread = me)
      (acquires : take.deed = .acquires)
      (offers : take.slot.offered = some record)
      (free : record.lockIndex = unlocked)
      (recursive : record.kind = .recursive)
      (kept : ∀ visit ∈ during, visit.deed ≠ .renews)
      (keeps : ∀ visit ∈ during, visit.thread = me → visit.deed ≠ .releases) :
      Nest me (earlier ++ take :: during)
        (1 + during.countP fun visit => visit.thread = me ∧ visit.deed = .acquires)

namespace Linked

variable
  {me : ThreadId} {kind : Kind} {record : Record} {first last : Slot} {depth count : Nat}
  {visits history : List Visit}

/-- Without a release, a mutex is nested as deep as its thread has acquired it. -/
theorem nests
    (linked : Linked (.constructed record) visits last)
    (tracked : record.Tracked me kind depth)
    (recursive : kind.isRecursive = true)
    (held : depth ≠ 0)
    (kept : ∀ visit ∈ visits, visit.deed ≠ .renews)
    (keeps : ∀ visit ∈ visits, visit.thread = me → visit.deed ≠ .releases)
    (bounded :
      depth + (visits.countP fun visit => visit.thread = me ∧ visit.deed = .acquires) < 2 ^ 32) :
    ∃ left,
      last = .constructed left ∧
        left.Tracked me kind
          (depth + visits.countP fun visit => visit.thread = me ∧ visit.deed = .acquires) := by
  induction visits using List.reverseRecOn generalizing last with
  | nil =>
      cases linked
      exact ⟨record, rfl, by simpa using tracked⟩
  | append_singleton earlier visit inductionHypothesis =>
      rw [List.countP_append] at bounded ⊢
      rw [List.forall_mem_append] at kept keeps
      obtain ⟨head, admitted, rfl⟩ := linked.of_snoc
      obtain ⟨found, finds, trackedFound⟩ :=
        inductionHypothesis head kept.1 keeps.1 (by omega)
      obtain ⟨left, leaves, trackedLeft⟩ :=
        visit.tracked_done admitted finds trackedFound recursive (by omega) (by omega)
          (kept.2 visit (by simp))
      refine ⟨left, leaves, ?_⟩
      have released := keeps.2 visit (by simp)
      unfold Visit.depthAfter at trackedLeft
      by_cases mine : visit.thread = me
      · cases deed : visit.deed <;>
          simp_all [Nat.add_assoc]
      · simpa [mine] using trackedLeft

/-- A thread that only unlocks gives back one acquisition after the other. -/
theorem unwinds
    (linked : Linked (.constructed record) visits last)
    (tracked : record.Tracked me kind depth)
    (recursive : kind.isRecursive = true)
    (bounded : depth < 2 ^ 32)
    (kept : ∀ visit ∈ visits, visit.deed ≠ .renews)
    (unlocks : ∀ visit ∈ visits, visit.thread = me → visit.operation = .unlock)
    (within : (visits.countP fun visit => visit.thread = me) ≤ depth) :
    (∀ visit ∈ visits, visit.thread = me → visit.done.progress = .finished (.ok .done)) ∧
      ((visits.countP fun visit => visit.thread = me) < depth ∨
          (visits.getLast?.any fun visit => visit.thread = me) = true →
        ∃ left,
          last = .constructed left ∧
            left.Tracked me kind (depth - visits.countP fun visit => visit.thread = me)) := by
  induction visits using List.reverseRecOn generalizing last with
  | nil =>
      cases linked
      exact ⟨by simp, fun _ => ⟨record, rfl, by simpa using tracked⟩⟩
  | append_singleton earlier visit inductionHypothesis =>
      rw [List.countP_append] at within ⊢
      rw [List.forall_mem_append] at kept unlocks ⊢
      obtain ⟨head, admitted, rfl⟩ := linked.of_snoc
      obtain ⟨given, foundAt⟩ := inductionHypothesis head kept.1 unlocks.1 (by omega)
      -- As long as one acquisition is left, the next visit finds the mutex nested.
      have next
          (deep : (earlier.countP fun visit => visit.thread = me) < depth) :
          ∃ found,
            visit.slot = .constructed found ∧
              found.Tracked me kind (depth - earlier.countP fun visit => visit.thread = me) ∧
              ∃ left,
                visit.done.slot = .constructed left ∧
                  left.Tracked me kind
                    (visit.depthAfter me
                      (depth - earlier.countP fun visit => visit.thread = me)) := by
        obtain ⟨found, finds, trackedFound⟩ := foundAt (.inl deep)
        exact ⟨found, finds, trackedFound,
          visit.tracked_done admitted finds trackedFound recursive (by omega) (by omega)
            (kept.2 visit (by simp))⟩
      by_cases mine : visit.thread = me
      · simp only [List.countP_singleton, mine, decide_true, ↓reduceIte] at within ⊢
        obtain ⟨found, finds, trackedFound, left, leaves, trackedLeft⟩ := next (by omega)
        obtain ⟨finished, released⟩ :=
          visit.releases_of_unlock admitted finds trackedFound (by omega)
            (unlocks.2 visit (by simp) mine) mine
        refine ⟨⟨given, by simpa using fun _ => finished⟩, fun _ => ⟨left, leaves, ?_⟩⟩
        rw [Visit.depthAfter, if_pos mine, released] at trackedLeft
        rwa [Nat.sub_sub] at trackedLeft
      · simp only [List.countP_singleton, mine, decide_false, Bool.false_eq_true, ↓reduceIte,
          Nat.add_zero]
        refine ⟨⟨given, by simp [mine]⟩, ?_⟩
        intro still
        have deep : (earlier.countP fun visit => visit.thread = me) < depth := by
          simpa [mine] using still
        obtain ⟨found, finds, trackedFound, left, leaves, trackedLeft⟩ := next deep
        rw [Visit.depthAfter, if_neg mine] at trackedLeft
        exact ⟨left, leaves, trackedLeft⟩

end Linked

/-- A nest is tracked by the counter of its record, up to all its values. -/
theorem Nest.tracked
    {me : ThreadId}
    {first last : Slot}
    {history : List Visit}
    {count : Nat}
    (nest : Nest me history count)
    (linked : Linked first history last)
    (unbuilt : ∀ record, first ≠ .constructed record)
    (bounded : count < 2 ^ 32) :
    count ≠ 0 ∧
      ∃ record, last = .constructed record ∧ record.Tracked me .recursive count := by
  cases nest with
  | @intro earlier during take record mine acquires offers free recursive kept keeps =>
      refine ⟨by omega, ?_⟩
      obtain ⟨middle, head, tail⟩ := linked.split
      cases tail with
      | cons admitted finds rest =>
          subst finds
          have settled := head.settled unbuilt
          have taken :
              ∃ left, take.done.slot = .constructed left ∧ left.Tracked me .recursive 1 := by
            have leaves := Visit.leaves_of_lowered admitted settled.lowered
            rw [acquires] at leaves
            generalize take.done.slot = final at leaves
            cases leaves with
            | takes waiters offered =>
                cases offers.symm.trans offered
                rw [mine]
                exact ⟨_, rfl,
                  .of_take (settled.offered offers).guardLowered recursive free waiters⟩
            | relocks waiters found counted =>
                -- What is offered free is taken for the first time.
                rw [found, Slot.offered, Option.some.injEq] at offers
                rw [offers] at counted
                exact (counted free).elim
          obtain ⟨left, leaves, tracked⟩ := taken
          rw [leaves] at rest
          exact rest.nests tracked rfl (by decide) kept keeps bounded

namespace World

/-- No lock of another thread gets the mutex, and no try-lock of anybody. -/
def Excludes (world : World) (me : ThreadId) (handle : HandleId) : Prop :=
  ∀ who event visit,
    world.visit? who event handle = some visit →
    (visit.operation = .tryLock → visit.done.progress = .finished (.error .busy)) ∧
      (visit.operation = .lock → who ≠ me → visit.done.progress = .parked)

/-- What a thread comes to that gives back some of its acquisitions along a run. -/
structure GivesBack
    (world later : World)
    (me : ThreadId)
    (handle : HandleId)
    (count : Nat)
    (more : List (ThreadId × Event)) : Prop where
  given :
    ∀ visit ∈ world.history handle more,
      visit.thread = me →
      visit.done.progress = .finished (.ok .done)
  /-- The mutex is the thread's own as long as one acquisition is left. -/
  held :
    ((world.history handle more).countP fun visit => visit.thread = me) < count →
    later.Excludes me handle ∧
      ∃ record, later.slot handle = .constructed record ∧ record.owner = some me
  /-- The last one makes it free. -/
  freed :
    ((world.history handle more).countP fun visit => visit.thread = me) = count →
    ((world.history handle more).getLast?.any fun visit => visit.thread = me) = true →
    ∃ record,
      later.slot handle = .constructed record ∧
        record.owner = none ∧
        record.lockIndex = unlocked

end World

/-- Who has nested a mutex keeps everybody else out of it. -/
theorem Course.excludes
    {handle : HandleId}
    {start : Slot}
    {run : List (ThreadId × Event)}
    {world : World}
    {me : ThreadId}
    {kind : Kind}
    {record : Record}
    {depth : Nat}
    (course : Course handle start run world)
    (holds : world.slot handle = .constructed record)
    (tracked : record.Tracked me kind depth)
    (held : depth ≠ 0)
    (bounded : depth < 2 ^ 32) :
    world.Excludes me handle := by
  intro who event visit visits
  have admitted := World.visit?_admitted course.admitted visits
  have finds := (World.visit?_slot visits).trans holds
  constructor
  · intro tryLock
    exact visit.busy_of_tryLock admitted finds tracked held bounded tryLock
  · intro lock other
    rw [← World.visit?_thread visits] at other
    exact visit.parks_of_lock finds tracked held bounded lock other

/--
After a thread has nested a mutex, a snapshot shows it as it is exactly below a
depth of `2 ^ 31`.  Below `2 ^ 32` all others are kept out, and as many unlocks as
there were acquisitions, each with success, make the mutex free.
-/
theorem Course.nested_exactly
    {handle : HandleId}
    {start : Slot}
    {run : List (ThreadId × Event)}
    {world : World}
    {me : ThreadId}
    {count : Nat}
    (course : Course handle start run world)
    (nest : Nest me ((World.opening handle start).history handle run) count) :
    ((∃ record, world.slot handle = .constructed record ∧ record.Shows me count) ↔
        count < 2 ^ 31) ∧
      (count < 2 ^ 32 →
        world.Excludes me handle ∧
          ∀ more later,
            (∃ replies, world.run? more = some (later, replies)) →
            (∀ step ∈ more, step.2.keeps handle = true) →
            (∀ visit ∈ world.history handle more, visit.deed ≠ .renews) →
            (∀ visit ∈ world.history handle more,
              visit.thread = me → visit.operation = .unlock) →
            ((world.history handle more).countP fun visit => visit.thread = me) ≤ count →
            world.GivesBack later me handle count more) := by
  have trackedBelow (bounded : count < 2 ^ 32) := nest.tracked course.linked course.unbuilt bounded
  constructor
  · constructor
    · rintro ⟨record, holds, shows_⟩
      have bounded : count < 2 ^ 32 := by
        rw [← shows_.depth]
        exact record.depth.toNat_lt
      obtain ⟨held, same, holdsToo, tracked⟩ := trackedBelow bounded
      cases holds.symm.trans holdsToo
      exact (tracked.shows_iff held bounded).mp shows_
    · intro lower
      have bounded : count < 2 ^ 32 := by
        omega
      obtain ⟨held, record, holds, tracked⟩ := trackedBelow bounded
      exact ⟨record, holds, (tracked.shows_iff held bounded).mpr lower⟩
  · intro bounded
    obtain ⟨held, record, holds, tracked⟩ := trackedBelow bounded
    refine ⟨course.excludes holds tracked held bounded, ?_⟩
    rintro more later ⟨replies, ran⟩ keeps kept unlocks within
    have courseLater := course.append ran keeps
    have linked := World.history_linked course.admitted ran keeps
    rw [holds] at linked
    obtain ⟨given, left⟩ := linked.unwinds tracked rfl bounded kept unlocks within
    refine ⟨given, ?_, ?_⟩
    · intro fewer
      obtain ⟨rest, holdsRest, trackedRest⟩ := left (.inl fewer)
      exact
        ⟨courseLater.excludes holdsRest trackedRest (by omega) (by omega), rest, holdsRest,
          trackedRest.owned_iff.mpr (by omega)⟩
    · intro all last
      obtain ⟨rest, holdsRest, trackedRest⟩ := left (.inr last)
      rw [all, Nat.sub_self] at trackedRest
      exact
        ⟨rest, holdsRest, trackedRest.unowned_iff.mpr rfl,
          (trackedRest.free_iff (by decide)).mpr rfl⟩

/-- A lock of thread 0 that need not wait. -/
def briefLock : List (ThreadId × Event) :=
  [(⟨0⟩, .call ⟨0⟩ .lock false), (⟨0⟩, .proceed), (⟨0⟩, .proceed)]

/-- So many of them, one after the other. -/
def nestedLocks (count : Nat) : List (ThreadId × Event) :=
  (List.replicate count briefLock).flatten

/-- The section of such a lock. -/
def briefVisit (slot : Slot) : Visit where
  thread := ⟨0⟩
  operation := .lock
  resumed := false
  budget := {}
  slot := slot

theorem Nest.snoc
    {me : ThreadId}
    {history : List Visit}
    {count : Nat}
    {visit : Visit}
    (nest : Nest me history count)
    (mine : visit.thread = me)
    (acquires : visit.deed = .acquires) :
    Nest me (history ++ [visit]) (count + 1) := by
  cases nest with
  | @intro earlier during take record takes first offers free recursive kept keeps =>
      have longer :
          Nest me (earlier ++ take :: (during ++ [visit]))
            (1 + (during ++ [visit]).countP fun visit =>
              visit.thread = me ∧ visit.deed = .acquires) := by
        refine .intro takes first offers free recursive ?_ ?_
        · rw [List.forall_mem_append]
          exact ⟨kept, by simp [acquires]⟩
        · rw [List.forall_mem_append]
          exact ⟨keeps, by simp [acquires]⟩
      simpa [List.countP_append, mine, acquires, Nat.add_assoc] using longer

/-- A lock that need not wait is done in three steps, of which one visits the handle. -/
theorem World.Ready.locks
    {world : World}
    {slot left : Slot}
    (ready : world.Ready ⟨0⟩ ⟨0⟩ slot {})
    (finishes : (briefVisit slot).done.progress = .finished (.ok .done))
    (leaves : (briefVisit slot).done.slot = left)
    (unspent : (briefVisit slot).done.budget = {}) :
    ∃ after replies,
      world.run? briefLock = some (after, replies) ∧
        after.Ready ⟨0⟩ ⟨0⟩ left {} ∧
        world.history ⟨0⟩ briefLock = [briefVisit slot] := by
  have accepted : Operation.lock.isRefused = false :=
    rfl
  obtain ⟨entered, started, serving⟩ := ready.starts accepted false
  generalize (world.thread ⟨0⟩).cancel.type = previous at serving
  have sectionIs :
      Call.nextSection ⟨⟨0⟩, .lock, false, previous, .arriving⟩ ⟨0⟩ slot {} =
        (briefVisit slot).done :=
    rfl
  obtain ⟨visited, visits, servingOn⟩ :=
    serving.visits (.inl rfl) (by simp [sectionIs, finishes])
  rw [sectionIs, finishes, leaves, unspent] at servingOn
  obtain ⟨after, returned, readyAfter⟩ := servingOn.leaves rfl
  refine ⟨after, [.silent, .silent, .returned (.ok .done)], ?_, readyAfter, ?_⟩
  · simp [briefLock, World.run?, started, visits, returned]
  · have arrives : world.visit? ⟨0⟩ (.call ⟨0⟩ .lock false) ⟨0⟩ = none :=
      rfl
    have visit : entered.visit? ⟨0⟩ .proceed ⟨0⟩ = some (briefVisit slot) := by
      rw [World.visit?_eq_some_iff]
      refine ⟨rfl, _, serving.running, rfl, .inl rfl, ?_⟩
      simp [World.visitOf, World.slot, serving.cell, serving.funded, briefVisit]
    have ended : visited.visit? ⟨0⟩ .proceed ⟨0⟩ = none := by
      simp [World.visit?, servingOn.running, Phase.ofProgress]
    simp [briefLock, World.history, started, visits, returned, arrives, visit, ended]

theorem deed_briefVisit
    {slot : Slot}
    (finishes : (briefVisit slot).done.progress = .finished (.ok .done)) :
    (briefVisit slot).deed = .acquires := by
  rw [Visit.deed, finishes]
  rfl

/-- A sentinel is taken by the first lock. -/
theorem briefVisit_sentinel :
    (briefVisit .sentinel).done.progress = .finished (.ok .done) ∧
      (briefVisit .sentinel).done.budget = {} ∧
      ∃ record,
        (briefVisit .sentinel).done.slot = .constructed record ∧
          record.Tracked ⟨0⟩ .recursive 1 := by
  have lowered : (Record.fresh none).tryGuard = 0 :=
    rfl
  exact ⟨rfl, rfl, _, rfl, .of_take lowered rfl rfl 0⟩

/-- And it is taken again by the next ones. -/
theorem briefVisit_relocks
    {record : Record}
    {depth : Nat}
    (tracked : record.Tracked ⟨0⟩ .recursive depth)
    (held : depth ≠ 0)
    (bounded : depth < 2 ^ 32) :
    (briefVisit (.constructed record)).done.progress = .finished (.ok .done) ∧
      (briefVisit (.constructed record)).done.budget = {} ∧
      ∃ left,
        (briefVisit (.constructed record)).done.slot = .constructed left ∧
          left.Tracked ⟨0⟩ .recursive (depth + 1) := by
  have counted : record.lockIndex ≠ unlocked := by
    rwa [ne_eq, tracked.free_iff bounded]
  have recursive : record.kind.isRecursive = true :=
    tracked.isRecursive
  have attempts : record.attempt ⟨0⟩ = ⟨.acquired, record.claim.take ⟨0⟩, []⟩ := by
    simp [Record.attempt, counted, tracked.guardLowered, tracked.owned_iff.mpr held, recursive]
  have done :
      (briefVisit (.constructed record)).done = Slot.attempt record ⟨0⟩ {} [] :=
    rfl
  rw [done, Slot.attempt, attempts]
  exact ⟨rfl, rfl, _, rfl, tracked.take (.inr rfl) record.waiters⟩

/-- So many nested locks make a nest so deep, up to all values of the counter. -/
theorem nestedLocks_nest
    {count : Nat}
    (held : count ≠ 0)
    (bounded : count ≤ 2 ^ 32) :
    ∃ world record,
      Course ⟨0⟩ .sentinel (nestedLocks count) world ∧
        Nest ⟨0⟩ ((World.opening ⟨0⟩ .sentinel).history ⟨0⟩ (nestedLocks count)) count ∧
        world.Ready ⟨0⟩ ⟨0⟩ (.constructed record) {} ∧
        record.Tracked ⟨0⟩ .recursive count := by
  induction count with
  | zero =>
      contradiction
  | succ count inductionHypothesis =>
      by_cases first : count = 0
      · subst first
        obtain ⟨finishes, unspent, record, leaves, tracked⟩ := briefVisit_sentinel
        obtain ⟨world, replies, ran, ready, visits⟩ :=
          (World.opening_ready ⟨0⟩ ⟨0⟩ .sentinel).locks finishes leaves unspent
        refine ⟨world, record, ⟨by simp, by decide, replies, ran⟩, ?_, ready, tracked⟩
        change Nest ⟨0⟩ ((World.opening ⟨0⟩ .sentinel).history ⟨0⟩ briefLock) 1
        rw [visits]
        have offers : (briefVisit .sentinel).slot.offered = some (Record.fresh none) :=
          rfl
        have single : Nest ⟨0⟩ ([] ++ briefVisit .sentinel :: []) 1 :=
          .intro rfl (deed_briefVisit finishes) offers rfl rfl (by simp) (by simp)
        exact single
      · obtain ⟨world, record, course, nest, ready, tracked⟩ :=
          inductionHypothesis first (by omega)
        obtain ⟨finishes, unspent, left, leaves, trackedLeft⟩ :=
          briefVisit_relocks tracked first (by omega)
        obtain ⟨after, replies, ran, readyAfter, visits⟩ := ready.locks finishes leaves unspent
        have runIs : nestedLocks (count + 1) = nestedLocks count ++ briefLock := by
          simp [nestedLocks, List.replicate_succ']
        obtain ⟨before, ranBefore⟩ := course.ran
        rw [runIs, World.history_append ranBefore, visits]
        exact
          ⟨after, left, course.append ran (by decide), nest.snoc rfl (deed_briefVisit finishes),
            readyAfter, trackedLeft⟩

/-- Three unlocks of thread 0. -/
def threeUnlocks : List (ThreadId × Event) :=
  (List.replicate 3
    [(⟨0⟩, .call ⟨0⟩ .unlock false), (⟨0⟩, .proceed), (⟨0⟩, .proceed)]).flatten

theorem Course.nested_exactly_threeDeep :
    ∃ world later record left,
      Course ⟨0⟩ .sentinel (nestedLocks 3) world ∧
        Nest ⟨0⟩ ((World.opening ⟨0⟩ .sentinel).history ⟨0⟩ (nestedLocks 3)) 3 ∧
        world.slot ⟨0⟩ = .constructed record ∧
        record.Shows ⟨0⟩ 3 ∧
        world.Excludes ⟨0⟩ ⟨0⟩ ∧
        world.GivesBack later ⟨0⟩ ⟨0⟩ 3 threeUnlocks ∧
        later.slot ⟨0⟩ = .constructed left ∧
        left.owner = none := by
  have course : Course ⟨0⟩ .sentinel (nestedLocks 3) _ :=
    Course.of_isSome (by simp) (by decide) (by decide)
  have nest : Nest ⟨0⟩ ((World.opening ⟨0⟩ .sentinel).history ⟨0⟩ (nestedLocks 3)) 3 := by
    obtain ⟨-, -, -, nest, -⟩ := nestedLocks_nest (by decide : 3 ≠ 0) (by decide)
    exact nest
  generalize worldIs :
    (((World.opening ⟨0⟩ .sentinel).run? (nestedLocks 3)).get _).1 = world at course
  have unlocks :
      (world.run? threeUnlocks).isSome = true ∧
        (∀ visit ∈ world.history ⟨0⟩ threeUnlocks, visit.deed ≠ .renews) ∧
        (∀ visit ∈ world.history ⟨0⟩ threeUnlocks,
          visit.thread = ⟨0⟩ → visit.operation = .unlock) ∧
        ((world.history ⟨0⟩ threeUnlocks).countP fun visit => visit.thread = ⟨0⟩) = 3 ∧
        ((world.history ⟨0⟩ threeUnlocks).getLast?.any fun visit =>
          visit.thread = ⟨0⟩) = true := by
    rw [← worldIs]
    decide
  obtain ⟨possible, kept, only, all, last⟩ := unlocks
  obtain ⟨⟨later, replies⟩, ran⟩ := Option.isSome_iff_exists.mp possible
  obtain ⟨shown, unwinds⟩ := course.nested_exactly nest
  obtain ⟨record, holds, shows_⟩ := shown.mpr (by decide)
  obtain ⟨excludes, givesBack⟩ := unwinds (by decide)
  have given := givesBack threeUnlocks later ⟨replies, ran⟩ (by decide) kept only all.le
  obtain ⟨left, leaves, unowned, -⟩ := given.freed all last
  exact ⟨world, later, record, left, course, nest, holds, shows_, excludes, given, leaves, unowned⟩

/-- Nobody but thread 0 takes part in its nested locks. -/
theorem nestedLocks_alone (count : Nat) :
    ∀ step ∈ nestedLocks count, step.1 ≠ ⟨1⟩ ∧ step.2.requests ⟨1⟩ = false := by
  have alone : ∀ step ∈ briefLock, step.1 ≠ ⟨1⟩ ∧ step.2.requests ⟨1⟩ = false := by
    decide
  intro step member
  obtain ⟨lock, isLock, member⟩ := List.mem_flatten.mp member
  rw [List.eq_of_mem_replicate isLock] at member
  exact alone step member

/-- One acquisition beyond `2 ^ 31` is shown as none, and with `2 ^ 32` another thread gets in. -/
theorem nestedLocks_escape :
    (∃ world record,
        Course ⟨0⟩ .sentinel (nestedLocks (2 ^ 31 + 1)) world ∧
          Nest ⟨0⟩ ((World.opening ⟨0⟩ .sentinel).history ⟨0⟩ (nestedLocks (2 ^ 31 + 1)))
            (2 ^ 31 + 1) ∧
          world.slot ⟨0⟩ = .constructed record ∧
          record.owner = some ⟨0⟩ ∧
          record.isLocked = false ∧
          record.depth.toNat = 0) ∧
      ∃ world entered visit,
        Course ⟨0⟩ .sentinel (nestedLocks (2 ^ 32)) world ∧
          Nest ⟨0⟩ ((World.opening ⟨0⟩ .sentinel).history ⟨0⟩ (nestedLocks (2 ^ 32))) (2 ^ 32) ∧
          world.step? ⟨1⟩ (.call ⟨0⟩ .tryLock false) = some (entered, .silent) ∧
          entered.visit? ⟨1⟩ .proceed ⟨0⟩ = some visit ∧
          visit.done.progress = .finished (.ok .done) := by
  constructor
  · obtain ⟨world, record, course, nest, ready, tracked⟩ :=
      nestedLocks_nest (by omega : 2 ^ 31 + 1 ≠ 0) (by omega)
    have hidden : ¬ record.isLocked = true := by
      rw [tracked.isLocked_iff (by omega) (by omega)]
      omega
    have shallow := tracked.toNat_depth (by omega)
    rw [if_neg (by omega)] at shallow
    exact ⟨world, record, course, nest, by rw [World.slot, ready.cell],
      tracked.owned_iff.mpr (by omega), by simpa using hidden, shallow⟩
  · obtain ⟨world, record, course, nest, ready, tracked⟩ :=
      nestedLocks_nest (by omega : 2 ^ 32 ≠ 0) (by omega)
    obtain ⟨replies, ran⟩ := course.ran
    have untouched : world.thread ⟨1⟩ = {} :=
      World.run?_thread_of_unrequested ran (nestedLocks_alone _)
    let entered := world.setThread ⟨1⟩ ((world.thread ⟨1⟩).start ⟨0⟩ .tryLock false)
    have stepped : world.step? ⟨1⟩ (.call ⟨0⟩ .tryLock false) = some (entered, .silent) :=
      World.step?_eq_some_iff.mpr ⟨by rw [untouched], .idle (by rw [untouched]) rfl⟩
    have running : (entered.thread ⟨1⟩).call = some _ :=
      congrArg Thread.call (World.thread_setThread_self _ _ _)
    have visits : entered.visit? ⟨1⟩ .proceed ⟨0⟩ = some _ :=
      World.visit?_eq_some_iff.mpr ⟨rfl, _, running, rfl, .inl rfl, rfl⟩
    have holds : entered.slot ⟨0⟩ = .constructed record := by
      change (world.cells.get ⟨0⟩).slot = _
      rw [ready.cell]
    refine ⟨world, entered, _, course, nest, stepped, visits, ?_⟩
    simp [Visit.done, World.visitOf, holds, Operation.enter, Slot.tryLock, Slot.materialize,
      Record.tryTake_of_free tracked.wraps, TryPath.outcome, Except.map]

end LatchMutex
