import LatchMutex.Proofs.Refusals
import LatchMutex.Proofs.WaiterCounts

namespace LatchMutex

/-!
# What a lock is told about a handle that changed

A lock that arrives constructs a sentinel, and fails with invalid argument only
on an empty handle.  A lock that comes back from its wait loop does not
construct: a sentinel fails it as an empty handle does.  It finds one only if a
create on the handle ran out of memory while it waited.
-/

namespace Visit

variable {visit : Visit}

/-- What a section of a lock promises. -/
structure KeepsPromise (visit : Visit) : Prop where
  /-- Only an empty handle is an invalid argument. -/
  invalid :
    visit.done.progress = .finished (.error .invalidArgument) →
    visit.slot = .empty
  /-- A sentinel is constructed, or there is no memory for it. -/
  constructs :
    visit.slot = .sentinel →
    (∃ record, visit.done.slot = .constructed record) ∨
      visit.done.progress = .finished (.error .outOfMemory)

/-- A create that finds no memory. -/
def LacksMemory (visit : Visit) : Prop :=
  (∃ attributes, visit.operation = .create attributes) ∧
    visit.done.progress = .finished (.error .outOfMemory)

/-- A lock that comes back to a sentinel is told that its argument is invalid. -/
theorem done_of_resumed_sentinel
    (resumed : visit.resumed = true)
    (sentinel : visit.slot = .sentinel) :
    visit.done.progress = .finished (.error .invalidArgument) ∧
      visit.done.slot = .sentinel := by
  simp [done, resumed, sentinel, Slot.resume]

/-- A lock that arrives at a sentinel takes a fresh record, or there is no memory for it. -/
theorem done_of_arriving_sentinel
    (lock : visit.operation = .lock)
    (arrives : visit.resumed = false)
    (sentinel : visit.slot = .sentinel) :
    visit.done.progress = .finished (.ok .done) ∧
        (∃ record, visit.done.slot = .constructed record) ∨
      visit.done.progress = .finished (.error .outOfMemory) ∧
        visit.done.slot = .sentinel := by
  have done : visit.done = visit.slot.lock visit.thread visit.budget := by
    simp [Visit.done, arrives, lock, Operation.enter]
  rw [done, Slot.lock, sentinel, Slot.materialize]
  by_cases empty : visit.budget.failures = 0
  · rw [Budget.allocate_of_empty empty]
    simp [Slot.attempt, Record.attempt_fresh, Slot.progressOf]
  · rw [Budget.allocate_of_positive empty]
    exact .inr ⟨rfl, rfl⟩

/-- On a record no attempt of a lock tells that the argument is invalid. -/
theorem progress_ne_invalid
    {record : Record}
    (lock : visit.operation = .lock)
    (finds : visit.slot = .constructed record) :
    visit.done.progress ≠ .finished (.error .invalidArgument) := by
  rw [done_of_lock lock finds, Slot.attempt]
  cases ((visit.meets record).attempt visit.thread).decision <;> simp [Slot.progressOf]

/-- A section of a lock keeps its promise, unless it comes back to a sentinel. -/
theorem keepsPromise_iff (lock : visit.operation = .lock) :
    visit.KeepsPromise ↔ ¬ (visit.resumed = true ∧ visit.slot = .sentinel) := by
  constructor
  · rintro keeps ⟨resumed, sentinel⟩
    have empty := keeps.invalid (done_of_resumed_sentinel resumed sentinel).1
    rw [sentinel] at empty
    contradiction
  · intro elsewhere
    cases finds : visit.slot with
    | empty =>
        exact ⟨fun _ => finds, by simp [finds]⟩
    | sentinel =>
        have arrives : visit.resumed = false := by
          simpa [finds] using elsewhere
        rcases done_of_arriving_sentinel lock arrives finds with ⟨taken, built⟩ | ⟨failed, -⟩
        · exact ⟨by simp [taken], fun _ => .inl built⟩
        · exact ⟨by simp [failed], fun _ => .inr failed⟩
    | constructed record =>
        exact ⟨fun refused => (progress_ne_invalid lock finds refused).elim, by simp [finds]⟩

/-- Only a create that lacks memory turns anything into a sentinel. -/
theorem lacksMemory_of_done_sentinel
    (admitted : visit.Admitted)
    (settled : visit.slot.Settled)
    (left : visit.done.slot = .sentinel)
    (unlike : visit.slot ≠ .sentinel) :
    visit.LacksMemory := by
  cases operation : visit.operation with
  | create attributes =>
      rcases done_of_create admitted operation with ⟨-, built⟩ | ⟨failed, -⟩
      · rw [built] at left
        contradiction
      · exact ⟨⟨attributes, operation⟩, failed⟩
  | destroy =>
      have done := done_of_ne_lock admitted (by simp [operation])
      rw [operation, Operation.enter, Operation.plain] at done
      rw [done] at left
      cases finds : visit.slot with
      | sentinel =>
          exact (unlike finds).elim
      | empty =>
          simp [finds, Slot.destroy] at left
      | constructed record =>
          simp only [finds, Slot.destroy] at left
          split at left <;> contradiction
  | _ =>
      have renews : visit.deed ≠ .renews :=
        deed_ne_renews (by simp [operation]) (by simp [operation])
      have leaves := leaves_of_lowered admitted settled.lowered
      generalize visit.deed = deed at leaves renews
      rw [left] at leaves
      generalize sentinel : Slot.sentinel = final at leaves
      cases leaves with
      | keeps =>
          exact (unlike sentinel.symm).elim
      | empties | declares | creates =>
          exact (renews rfl).elim
      | takes | relocks | parks | refuses | unlocks | frees =>
          contradiction

end Visit

namespace World

variable
  {me who : ThreadId} {handle : HandleId} {start : Slot} {world next last : World}
  {past run : List (ThreadId × Event)} {event : Event} {reply : Reply}

/-- A lock that parks leaves no sentinel. -/
theorem ne_sentinel_of_parks
    {visit : Visit}
    (course : Course handle start past world)
    (visits : world.visit? who event handle = some visit)
    (parks : visit.parks = true) :
    visit.done.slot ≠ .sentinel := by
  obtain ⟨admitted, settled⟩ := course.visit_settled visits
  have leaves := Visit.leaves_of_lowered admitted settled.lowered
  rw [(Visit.deed_eq_parks_iff admitted).mpr (by simpa [Visit.parks] using parks)] at leaves
  generalize visit.done.slot = left at leaves
  cases leaves
  simp

/-- A thread waits at a sentinel after a step if it did before, or if a create lacked memory. -/
theorem waits_at_sentinel_step
    (course : Course handle start past world)
    (stepped : world.step? who event = some (next, reply))
    (kept : event.keeps handle = true)
    (waiting : next.isWaiting handle me = true)
    (sentinel : next.slot handle = .sentinel) :
    (world.isWaiting handle me = true ∧ world.slot handle = .sentinel) ∨
      ∃ visit, world.visit? who event handle = some visit ∧ visit.LacksMemory := by
  have slot := step?_slot stepped kept
  rw [sentinel] at slot
  cases visits : world.visit? who event handle with
  | none =>
      rw [visits] at slot
      exact .inl ⟨isWaiting_of_later stepped visits waiting, slot.symm⟩
  | some visit =>
      rw [visits] at slot
      -- Its own visit leaves it waiting only if it parked, and it parks on a record.
      have other : me ≠ who := by
        rintro rfl
        have parks := (isWaiting_of_visit stepped visits).2.1
        rw [waiting] at parks
        exact ne_sentinel_of_parks course visits parks.symm slot.symm
      by_cases found : visit.slot = .sentinel
      · left
        rw [isWaiting, step?_call_of_ne stepped other] at waiting
        exact ⟨waiting, by rw [← visit?_slot visits, found]⟩
      · right
        obtain ⟨admitted, settled⟩ := course.visit_settled visits
        exact ⟨visit, rfl,
          visit.lacksMemory_of_done_sentinel admitted settled slot.symm found⟩

/-- So it does along a run, if no create lacks memory. -/
theorem Continues.waits_at_sentinel
    (continues : world.Continues me handle run last)
    (course : Course handle start past world)
    (waiting : last.isWaiting handle me = true)
    (sentinel : last.slot handle = .sentinel) :
    (world.isWaiting handle me = true ∧ world.slot handle = .sentinel) ∨
      ∃ visit ∈ world.history handle run, visit.LacksMemory := by
  induction continues generalizing past with
  | nil underway =>
      exact .inl ⟨waiting, sentinel⟩
  | @cons world next last who event reply rest underway stepped kept later inductionHypothesis =>
      simp only [history, stepped, List.mem_append, Option.mem_toList]
      rcases inductionHypothesis (course.snoc stepped kept) waiting sentinel with
        ⟨waitingNext, sentinelNext⟩ | ⟨visit, member, lacks⟩
      · rcases waits_at_sentinel_step course stepped kept waitingNext sentinelNext with
          before | ⟨visit, visits, lacks⟩
        · exact .inl before
        · exact .inr ⟨visit, .inl visits, lacks⟩
      · exact .inr ⟨visit, .inr member, lacks⟩

end World

/--
A lock gets into its scope, and whatever all threads do then comes to some point
in the middle of it.  Each of its sections so far kept what a lock promises,
exactly if it did not come back to a sentinel.  It came back to one only if a
create on the handle has lacked memory since the lock began.  And if the lock
returns invalid argument, then its last section found the handle empty, or did
come back to a sentinel.
-/
theorem Course.lock_told_truly
    {handle : HandleId}
    {start : Slot}
    {past run : List (ThreadId × Event)}
    {world entered last : World}
    {me : ThreadId}
    {event : Event}
    {reply : Reply}
    {call : Call}
    (course : Course handle start past world)
    (idle : (world.thread me).call = none)
    (stepped : world.step? me event = some (entered, reply))
    (running : (entered.thread me).call = some call)
    (here : call.handle = handle)
    (lock : call.operation = .lock)
    (continues : entered.Continues me handle run last) :
    (∀ visit ∈ entered.visitsOf me handle run,
        (visit.KeepsPromise ↔ ¬ (visit.resumed = true ∧ visit.slot = .sentinel)) ∧
          (visit.resumed = true →
            visit.slot = .sentinel →
            ∃ created ∈ entered.history handle run, created.LacksMemory)) ∧
      ∀ ended,
        last.step? me .proceed = some (ended, .returned (.error .invalidArgument)) →
        ∃ earlier visit,
          entered.visitsOf me handle run = earlier ++ [visit] ∧
            visit.done.progress = .finished (.error .invalidArgument) ∧
            (visit.slot = .empty ∨ visit.resumed = true ∧ visit.slot = .sentinel) := by
  obtain ⟨-, enters, -, -, arriving, -⟩ := World.enters_cases idle stepped running
  have courseEntered := course.snoc stepped (enters handle)
  constructor
  · intro visit member
    have mine : visit.thread = me := by
      simpa using List.of_mem_filter member
    obtain ⟨earlier, event, later, before, rfl, onward, visits⟩ :=
      continues.visit_of_mem (List.mem_of_mem_filter member)
    rw [mine] at visits
    obtain ⟨-, phaseBefore, runningBefore, -⟩ :=
      course.reached idle stepped running here onward
    obtain ⟨-, found, runningToo, there, -, visitIs⟩ := World.visit?_eq_some_iff.mp visits
    cases runningBefore.symm.trans runningToo
    refine ⟨Visit.keepsPromise_iff (by rw [visitIs]; exact lock), ?_⟩
    intro resumed sentinel
    have yielding : phaseBefore = .yielding := by
      simpa [visitIs, World.visitOf] using resumed
    have waiting : before.isWaiting handle me = true :=
      World.isWaiting_iff.mpr ⟨_, runningToo, there, .inr yielding⟩
    rw [World.visit?_slot visits] at sentinel
    rcases onward.waits_at_sentinel courseEntered waiting sentinel with
      ⟨waitedBefore, -⟩ | ⟨created, before, lacks⟩
    · simp [World.isWaiting, running, arriving] at waitedBefore
    · obtain ⟨⟨replies, ran⟩, -⟩ := onward.possible
      rw [World.history_append ran]
      exact ⟨created, List.mem_append_left _ before, lacks⟩
  · intro ended returned
    obtain ⟨-, phase, runningLast, reached⟩ :=
      course.reached idle stepped running here continues
    obtain ⟨leaving, -⟩ := World.leaving_of_returned runningLast returned
    dsimp only at leaving
    rw [leaving] at reached
    generalize entered.visitsOf me handle run = visits at reached
    cases reached with
    | @leaving earlier visit result parks same finishes =>
        refine ⟨earlier, visit, rfl, finishes, ?_⟩
        by_contra neither
        rw [not_or] at neither
        have keeps := (Visit.keepsPromise_iff (same.trans lock)).mpr neither.2
        exact neither.1 (keeps.invalid finishes)

/-- Thread 1 parks, and thread 0 replaces the mutex by a sentinel, for lack of memory. -/
def declaredMeanwhile : List (ThreadId × Event) :=
  [(⟨1⟩, .proceed), (⟨0⟩, .inject 1),
    (⟨0⟩, .call ⟨0⟩ (.create none) false), (⟨0⟩, .proceed), (⟨0⟩, .proceed),
    (⟨1⟩, .proceed), (⟨1⟩, .proceed)]

theorem declaredMeanwhile_fails : failsBehind declaredMeanwhile .sentinel = true := by
  decide

theorem Course.lock_told_truly_declaredMeanwhile :
    ∃ world entered last ended earlier,
      Course ⟨0⟩ .sentinel takenSentinel world ∧
        world.step? ⟨1⟩ (.call ⟨0⟩ .lock false) = some (entered, .silent) ∧
        entered.Continues ⟨1⟩ ⟨0⟩ declaredMeanwhile last ∧
        last.step? ⟨1⟩ .proceed = some (ended, .returned (.error .invalidArgument)) ∧
        entered.visitsOf ⟨1⟩ ⟨0⟩ declaredMeanwhile = earlier ++ [comingBack .sentinel] ∧
        ∃ created ∈ entered.history ⟨0⟩ declaredMeanwhile, created.LacksMemory := by
  obtain ⟨world, entered, last, ended, earlier, course, idle, stepped, running, continues,
    returned, visits⟩ :=
    of_failsBehind declaredMeanwhile_fails (by decide) (by decide)
  have told := (course.lock_told_truly idle stepped running rfl rfl continues).1
  have member : comingBack .sentinel ∈ entered.visitsOf ⟨1⟩ ⟨0⟩ declaredMeanwhile := by
    simp [visits]
  exact ⟨world, entered, last, ended, earlier, course, stepped, continues, returned, visits,
    (told (comingBack .sentinel) member).2 rfl rfl⟩

/-- Thread 1 is told that its argument is invalid, in a section that found a sentinel. -/
theorem declaredMeanwhile_breaksPromise :
    ∃ world entered last ended earlier visit,
      Course ⟨0⟩ .sentinel takenSentinel world ∧
        world.step? ⟨1⟩ (.call ⟨0⟩ .lock false) = some (entered, .silent) ∧
        entered.Continues ⟨1⟩ ⟨0⟩ declaredMeanwhile last ∧
        last.step? ⟨1⟩ .proceed = some (ended, .returned (.error .invalidArgument)) ∧
        entered.visitsOf ⟨1⟩ ⟨0⟩ declaredMeanwhile = earlier ++ [visit] ∧
        visit.slot = .sentinel ∧
        ¬ visit.KeepsPromise := by
  obtain ⟨world, entered, last, ended, earlier, course, -, stepped, -, continues, returned,
    visits⟩ :=
    of_failsBehind declaredMeanwhile_fails (by decide) (by decide)
  refine ⟨world, entered, last, ended, earlier, comingBack .sentinel, course, stepped, continues,
    returned, visits, rfl, ?_⟩
  intro keeps
  have empty := keeps.invalid (by decide)
  contradiction

end LatchMutex
