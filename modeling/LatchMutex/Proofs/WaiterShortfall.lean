import LatchMutex.Proofs.DeferralCredit
import LatchMutex.Proofs.Sections
import LatchMutex.Proofs.WaiterCounts

namespace LatchMutex

/-!
# Waiters that are not counted

A record starts with nobody counted, whether it is created or built from a sentinel,
so its count is exact from then on if nobody waits there.  It is so until a visit
forgets somebody: by resetting a count that it takes to be stale, which may erase a
thread that is still in the wait loop, or by parking where the count is at its top.
From the last such visit on, the count does not fall further behind.
-/

/-- Whether the visit may leave a thread in the wait loop uncounted. -/
def Visit.forgets (visit : Visit) : Bool :=
  visit.resets ∨
    visit.parks ∧ mostWaiters ≤ visit.slot.waiters - visit.resumed.toNat

/-- A visit that forgets nobody counts who comes and who goes. -/
theorem Visit.waiters_done_of_mindful
    {visit : Visit}
    (admitted : visit.Admitted)
    (kept : visit.deed ≠ .renews)
    (mindful : visit.forgets = false) :
    visit.done.slot.waiters =
      visit.slot.waiters - visit.resumed.toNat + visit.parks.toNat := by
  rw [waiters_done admitted, countLeft]
  simp only [forgets, Bool.decide_or, Bool.or_eq_false_iff, decide_eq_false_iff_not,
    not_and, Nat.not_le] at mindful
  obtain ⟨unreset, room⟩ := mindful
  simp only [kept, unreset, Bool.false_eq_true, or_self, ↓reduceIte]
  cases parks : visit.parks with
  | true =>
      have below := room parks
      simp only [↓reduceIte, Bool.toNat_true]
      omega
  | false =>
      rfl

/-- A visit that makes its record, or finds none, leaves nobody counted. -/
theorem Visit.waiters_done_of_fresh
    {visit : Visit}
    (admitted : visit.Admitted)
    (fresh : visit.deed = .renews ∨ ∀ record, visit.slot ≠ .constructed record) :
    visit.done.slot.waiters = 0 := by
  rw [waiters_done admitted, countLeft]
  rcases fresh with renews | unfound
  · rw [if_pos (.inl renews)]
  · have nobody : visit.slot.waiters = 0 := by
      cases finds : visit.slot with
      | empty | sentinel => rfl
      | constructed record => exact (unfound record finds).elim
    -- Only a lock that finds a record parks.
    have settled : visit.parks = false := by
      have counted := visit.counted admitted fun record finds => (unfound record finds).elim
      generalize visit.done.branches = branches at counted
      cases counted with
      | nothing unbuilt settled =>
          simpa [Visit.parks] using settled
      | builds builds progress | resets finds progress | refuses lock finds progress =>
          simp [Visit.parks, progress]
      | defers finds | waits finds =>
          exact (unfound _ finds).elim
    simp [nobody, settled]

/-- A count is reset by the last owner, if it waited last and finds the mutex free. -/
theorem Record.stale_of_resets
    {record : Record}
    {me : ThreadId}
    (resets : .staleWaiterReset ∈ (record.attempt me).branches) :
    (record.attempt me).decision = .acquired ∧
      record.lockIndex = unlocked ∧
      record.lastOwner = some me ∧
      record.lastWaiter = some me := by
  revert resets
  unfold attempt
  split
  · rename_i free
    split
    · rename_i awaited
      split
      · rename_i alone
        exact fun _ => ⟨rfl, free, awaited.2, alone⟩
      · simp
    · simp
  · split
    · simp
    · split
      · simp
      · split <;> simp

/-- A visit resets the count for the last owner, which waited last, and takes the free mutex. -/
theorem Visit.takes_of_resets
    {visit : Visit}
    (admitted : visit.Admitted)
    (resets : visit.resets = true) :
    visit.deed = .acquires ∧
      ∃ record,
        visit.slot = .constructed record ∧
          record.lockIndex = unlocked ∧
          record.lastOwner = some visit.thread ∧
          record.lastWaiter = some visit.thread := by
  have branch : Branch.staleWaiterReset ∈ visit.done.branches := by
    simpa [Visit.resets] using resets
  obtain ⟨lock, record, finds⟩ := finds_of_fairness admitted (.inr rfl) branch
  obtain ⟨waiters, meets, -⟩ := visit.meets_eq record
  have done := done_of_lock lock finds
  have attempted :
      .staleWaiterReset ∈ ((visit.meets record).attempt visit.thread).branches := by
    simpa [done, Slot.attempt] using branch
  obtain ⟨acquired, free, back, alone⟩ := Record.stale_of_resets attempted
  rw [meets] at free back alone
  refine ⟨?_, record, finds, free, back, alone⟩
  simp [deed, lock, done, Slot.attempt, acquired, Slot.progressOf]

namespace World

/-- A step that forgets nobody does not let the count fall behind. -/
theorem waitingAt_le_step
    {world next : World}
    {me : ThreadId}
    {event : Event}
    {reply : Reply}
    {handle : HandleId}
    (admitted : world.CallsAdmitted)
    (stepped : world.step? me event = some (next, reply))
    (kept : event.keeps handle = true)
    (mindful :
      ∀ visit,
        world.visit? me event handle = some visit →
          visit.deed ≠ .renews ∧ visit.forgets = false) :
    (next.waitingAt handle).card + (world.slot handle).waiters ≤
      (world.waitingAt handle).card + (next.slot handle).waiters := by
  obtain ⟨others, before, after⟩ := card_waitingAt_step stepped handle
  have slot := step?_slot stepped kept
  cases visits : world.visit? me event handle with
  | none =>
      have stays := isWaiting_of_unvisited stepped visits
      simp only [visits] at slot
      rw [slot]
      omega
  | some visit =>
      obtain ⟨resumed, parks, -⟩ := isWaiting_of_visit stepped visits
      obtain ⟨standing, counted⟩ := mindful visit visits
      have finds := visit?_slot visits
      have counts :=
        Visit.waiters_done_of_mindful (visit?_admitted admitted visits) standing counted
      simp only [visits] at slot
      rw [finds] at counts
      rw [slot, counts, before, after, resumed, parks]
      omega

/-- Along a run that forgets nobody the count does not fall behind. -/
theorem waitingAt_le_run
    {world last : World}
    {run : List (ThreadId × Event)}
    {replies : List Reply}
    {handle : HandleId}
    (admitted : world.CallsAdmitted)
    (ran : world.run? run = some (last, replies))
    (kept : ∀ step ∈ run, step.2.keeps handle = true)
    (mindful :
      ∀ visit ∈ world.history handle run, visit.deed ≠ .renews ∧ visit.forgets = false) :
    (last.waitingAt handle).card + (world.slot handle).waiters ≤
      (world.waitingAt handle).card + (last.slot handle).waiters := by
  induction run generalizing world replies with
  | nil =>
      cases ran
      exact Nat.le_refl _
  | cons step rest inductionHypothesis =>
      obtain ⟨me, event⟩ := step
      obtain ⟨next, reply, _, stepped, tail, rfl⟩ := run?_cons.mp ran
      simp only [history, stepped, List.mem_append, Option.mem_toList] at mindful
      have first :=
        waitingAt_le_step admitted stepped (kept _ List.mem_cons_self)
          fun visit visits => mindful visit (.inl visits)
      have later :=
        inductionHypothesis (step?_admitted stepped admitted) tail
          (fun step member => kept step (List.mem_cons_of_mem _ member))
          fun visit member => mindful visit (.inr member)
      omega

end World

/--
After any course whatever, a record is made with nobody counted.  From a point on where
the count is exact, and as long as the record is not renewed, the count stays exact while
nobody is canceled and nobody is forgotten; and it falls no further behind after the last
visit that forgets somebody.  A count is reset only by the last owner, which waited last
and takes the free mutex with it.
-/
theorem Course.waiters_short_of_forgotten
    {handle : HandleId}
    {start : Slot}
    {earlier later : List (ThreadId × Event)}
    {middle world : World}
    {replies : List Reply}
    {record : Record}
    (course : Course handle start earlier middle)
    (ran : middle.run? later = some (world, replies))
    (kept : ∀ step ∈ later, step.2.keeps handle = true)
    (standing : ∀ visit ∈ middle.history handle later, visit.deed ≠ .renews)
    (holds : world.slot handle = .constructed record) :
    (∀ visit ∈ (World.opening handle start).history handle earlier,
        (visit.deed = .renews ∨ ∀ found, visit.slot ≠ .constructed found) →
        visit.done.slot.waiters = 0) ∧
      ((middle.slot handle).waiters = (middle.waitingAt handle).card →
        .canceled ∉ replies →
        (∀ visit ∈ middle.history handle later, visit.forgets = false) →
        record.waiters.toNat = (world.waitingAt handle).card) ∧
      (∀ between rest point answers,
        later = between ++ rest →
        middle.run? between = some (point, answers) →
        (∀ visit ∈ point.history handle rest, visit.forgets = false) →
        (world.waitingAt handle).card + (point.slot handle).waiters ≤
          (point.waitingAt handle).card + record.waiters.toNat) ∧
      ∀ visit ∈ middle.history handle later,
        visit.resets = true →
        visit.deed = .acquires ∧
          ∃ found,
            visit.slot = .constructed found ∧
              found.lockIndex = unlocked ∧
              found.lastOwner = some visit.thread ∧
              found.lastWaiter = some visit.thread := by
  have apart :
      ∀ between rest point answers,
        later = between ++ rest →
        middle.run? between = some (point, answers) →
        (∀ visit ∈ point.history handle rest, visit.forgets = false) →
        (world.waitingAt handle).card + (point.slot handle).waiters ≤
          (point.waitingAt handle).card + record.waiters.toNat := by
    rintro between rest point answers rfl ranBetween mindful
    obtain ⟨here, _, after, ranHere, ranRest, -⟩ := World.run?_append.mp ran
    cases ranBetween.symm.trans ranHere
    rw [World.history_append ranBetween] at standing
    have behind :=
      World.waitingAt_le_run (World.run?_admitted course.admitted ranBetween) ranRest
        (fun step member => kept step (List.mem_append_right _ member))
        fun visit member => ⟨standing visit (List.mem_append_right _ member), mindful visit member⟩
    rwa [holds] at behind
  refine ⟨?_, ?_, apart, ?_⟩
  · intro visit member fresh
    exact Visit.waiters_done_of_fresh (course.linked.admitted_of_mem member) fresh
  · intro counted uncanceled mindful
    have atMost :=
      World.waiters_le_run course.admitted ran kept (counted.le.trans (Nat.le_add_right _ 0))
    rw [holds, Slot.waiters, World.canceledWaits_of_uncanceled ran uncanceled] at atMost
    have atLeast := apart [] later middle [] rfl rfl mindful
    omega
  · intro visit member resets
    have linked := World.history_linked course.admitted ran kept
    exact Visit.takes_of_resets (linked.admitted_of_mem member) resets

/--
Thread 1 parks behind thread 0, which unlocks, gives way at its next lock, and
comes back before thread 1 does.  Having waited last, it takes the count for stale.
-/
def erasedWaiter : List (ThreadId × Event) :=
  [(⟨0⟩, .call ⟨0⟩ .lock false), (⟨0⟩, .proceed), (⟨0⟩, .proceed),
    (⟨1⟩, .call ⟨0⟩ .lock false), (⟨1⟩, .proceed),
    (⟨0⟩, .call ⟨0⟩ .unlock false), (⟨0⟩, .proceed), (⟨0⟩, .proceed),
    (⟨0⟩, .call ⟨0⟩ .lock false), (⟨0⟩, .proceed), (⟨0⟩, .proceed), (⟨0⟩, .proceed)]

/-- The record then: held by thread 0, with nobody counted. -/
def undercounted : Record where
  kind := .recursive
  sharing := .processPrivate
  lockIndex := 0
  owner := some ⟨0⟩
  lastOwner := some ⟨0⟩

/-- Without a cancellation, a create or a destroy, a thread in the wait loop is not counted. -/
theorem erasedWaiter_undercounted :
    ∃ world replies record,
      Course ⟨0⟩ .sentinel erasedWaiter world ∧
        (World.opening ⟨0⟩ .sentinel).run? erasedWaiter = some (world, replies) ∧
        .canceled ∉ replies ∧
        (∀ visit ∈ (World.opening ⟨0⟩ .sentinel).history ⟨0⟩ erasedWaiter,
          visit.operation = .lock ∨ visit.operation = .unlock) ∧
        world.slot ⟨0⟩ = .constructed record ∧
        record.waiters.toNat < (world.waitingAt ⟨0⟩).card :=
  ⟨_, _, undercounted, Course.of_isSome (by simp) (by decide) (by decide),
    (Option.some_get (by decide)).symm, by decide, by decide, by decide, by decide⟩

/-- Thread 0 creates a normal mutex. -/
def createdNormal : List (ThreadId × Event) :=
  [(⟨0⟩, .call ⟨0⟩ (.create (some { kind := .normal })) false), (⟨0⟩, .proceed), (⟨0⟩, .proceed)]

/-- A waiter of a created mutex is erased all the same. -/
theorem Course.waiters_short_of_forgotten_erasedWaiter :
    ∃ middle world replies,
      Course ⟨0⟩ .empty createdNormal middle ∧
        middle.run? erasedWaiter = some (world, replies) ∧
        (∀ visit ∈ middle.history ⟨0⟩ erasedWaiter, visit.deed ≠ .renews) ∧
        world.slot ⟨0⟩ = .constructed { undercounted with kind := .normal } ∧
        (middle.slot ⟨0⟩).waiters = (middle.waitingAt ⟨0⟩).card ∧
        ∀ between rest point answers,
          erasedWaiter = between ++ rest →
          middle.run? between = some (point, answers) →
          (∀ visit ∈ point.history ⟨0⟩ rest, visit.forgets = false) →
          (world.waitingAt ⟨0⟩).card + (point.slot ⟨0⟩).waiters ≤
            (point.waitingAt ⟨0⟩).card + undercounted.waiters.toNat := by
  have course : Course ⟨0⟩ .empty createdNormal _ :=
    Course.of_isSome (by simp) (by decide) (by decide)
  generalize middleIs : (((World.opening ⟨0⟩ .empty).run? createdNormal).get _).1 = middle at course
  have possible :
      ((middle.run? erasedWaiter).any fun last =>
        last.1.slot ⟨0⟩ = .constructed { undercounted with kind := .normal }) = true := by
    rw [← middleIs]
    decide
  obtain ⟨⟨world, replies⟩, ran, holds⟩ := (Option.any_eq_true _ _).mp possible
  have standing : ∀ visit ∈ middle.history ⟨0⟩ erasedWaiter, visit.deed ≠ .renews := by
    rw [← middleIs]
    decide
  have counted : (middle.slot ⟨0⟩).waiters = (middle.waitingAt ⟨0⟩).card := by
    rw [← middleIs]
    decide
  have holds := of_decide_eq_true holds
  have short := course.waiters_short_of_forgotten ran (by decide) standing holds
  exact ⟨middle, world, replies, course, ran, standing, holds, counted, short.2.2.1⟩

end LatchMutex
