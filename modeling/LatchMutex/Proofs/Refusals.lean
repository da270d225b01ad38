import LatchMutex.Proofs.CallsUnderway
import LatchMutex.Proofs.Cancellations
import LatchMutex.Proofs.WaitLoops

namespace LatchMutex

/-!
# A call that fails takes everything back

An error leaves from many places: before the latch is taken, with a counter
raised, or after turns of the wait loop that each counted the caller as a waiter.
In all of them the last section leaves what it found.  The one that could fail to
is the relock of an error-checking mutex by a lock that comes back, since it has
counted itself out by then; but nobody comes back to a mutex of its own.
-/

/-- The slot holds no error-checking mutex that the thread owns. -/
def Slot.Foreign (slot : Slot) (thread : ThreadId) : Prop :=
  ∀ record, slot = .constructed record → record.kind = .errorCheck → record.owner ≠ some thread

namespace Visit

variable {visit : Visit} {thread : ThreadId} {fault : Fault}

/-- What a section leaves if it comes to an error: a create the sentinel, others what they find. -/
def leftByError (visit : Visit) : Slot :=
  match visit.operation with
  | .create _ => .sentinel
  | _ => visit.slot

theorem leftByError_of_kept (kept : ∀ attributes, visit.operation ≠ .create attributes) :
    visit.leftByError = visit.slot := by
  unfold leftByError
  split
  · rename_i attributes create
    exact (kept attributes create).elim
  · rfl

/-- A lock parks on what is not its own. -/
theorem foreign_of_parks
    (admitted : visit.Admitted)
    (settled : visit.slot.Settled)
    (parks : visit.deed = .parks) :
    visit.done.slot.Foreign visit.thread := by
  have parked := (deed_eq_parks_iff admitted).mp parks
  have leaves := leaves_of_lowered admitted settled.lowered
  rw [parks] at leaves
  generalize visit.done.slot = left at leaves
  cases leaves with
  | @parks record finds lock =>
      obtain ⟨waiters, meets, -⟩ := visit.meets_eq record
      rw [meets]
      intro counted same checked
      cases same
      have unowned : record.owner ≠ some visit.thread :=
        unowned_of_parks lock settled finds parked checked
      exact unowned

/-- The visits of others make nobody an owner. -/
theorem foreign_done
    (admitted : visit.Admitted)
    (settled : visit.slot.Settled)
    (other : visit.thread ≠ thread)
    (foreign : visit.slot.Foreign thread) :
    visit.done.slot.Foreign thread := by
  intro left leavesRecord checked owned
  obtain ⟨record, finds, ownedBefore, kind, -⟩ :=
    owner_of_done admitted settled.lowered leavesRecord owned other
  exact foreign record finds (kind.trans checked) ownedBefore

/-- A create fails for lack of memory only, and leaves the sentinel then. -/
theorem done_of_failed_create
    {attributes : Option Attributes}
    (admitted : visit.Admitted)
    (create : visit.operation = .create attributes)
    (fails : visit.done.progress = .finished (.error fault)) :
    fault = .outOfMemory ∧ visit.done.slot = .sentinel := by
  rcases done_of_create admitted create with ⟨finished, -⟩ | ⟨failed, declared⟩
  · simp [finished] at fails
  · rw [failed] at fails
    cases fails
    exact ⟨rfl, declared⟩

/-- A section that comes to an error has taken back whatever it did. -/
theorem done_of_error
    (admitted : visit.Admitted)
    (settled : visit.slot.Settled)
    (foreign : visit.resumed = true → visit.slot.Foreign visit.thread)
    (fails : visit.done.progress = .finished (.error fault)) :
    visit.done.slot = visit.leftByError := by
  cases operation : visit.operation with
  | create attributes =>
      rw [(done_of_failed_create admitted operation fails).2, leftByError, operation]
  | _ =>
      have kept : ∀ attributes, visit.operation ≠ .create attributes := by
        simp [operation]
      have leaves := leaves_of_lowered admitted settled.lowered
      rw [deed_of_refused kept fails] at leaves
      rw [leftByError_of_kept kept]
      generalize visit.done.slot = left at leaves
      cases leaves with
      | keeps =>
          rfl
      | @refuses record waiters finds owned checked uncounted =>
          cases resumed : visit.resumed with
          | false =>
              rw [uncounted resumed, finds]
          | true =>
              -- It has counted itself out, so it must not be its own mutex that refuses it.
              exact (foreign resumed record finds checked owned).elim

end Visit

/-- What is not a thread's own stays so while only others visit. -/
theorem Linked.foreign
    {first last : Slot}
    {history : List Visit}
    {thread : ThreadId}
    (linked : Linked first history last)
    (settled : first.Settled)
    (foreign : first.Foreign thread)
    (others : ∀ visit ∈ history, visit.thread ≠ thread) :
    last.Foreign thread := by
  have carried :
      (∀ visit ∈ history, visit.thread ≠ thread) → last.Settled ∧ last.Foreign thread := by
    apply linked.visit_induction
      (motive := fun history slot =>
        (∀ visit ∈ history, visit.thread ≠ thread) → slot.Settled ∧ slot.Foreign thread)
    · intro _
      exact ⟨settled, foreign⟩
    · intro earlier visit admitted inductionHypothesis others
      rw [List.forall_mem_append] at others
      obtain ⟨settled, foreign⟩ := inductionHypothesis others.1
      exact ⟨visit.done_settled admitted settled,
        visit.foreign_done admitted settled (others.2 visit (by simp)) foreign⟩
  exact (carried others).2

/-- A lock that comes back finds no error-checking mutex of its own. -/
theorem Course.foreign_of_resumed
    {handle : HandleId}
    {start : Slot}
    {run : List (ThreadId × Event)}
    {world : World}
    {me : ThreadId}
    {event : Event}
    {visit : Visit}
    (course : Course handle start run world)
    (visits : world.visit? me event handle = some visit)
    (resumed : visit.resumed = true) :
    visit.slot.Foreign visit.thread := by
  obtain ⟨earlier, parking, during, historyIs, mine, parks, others⟩ :=
    lastDeed_eq_some (course.recalled.1.visit visits resumed)
  have linked := course.linked
  rw [historyIs] at linked
  obtain ⟨middle, head, tail⟩ := linked.split
  cases tail with
  | cons admitted finds rest =>
      subst finds
      have settled := head.settled course.unbuilt
      have foreign := parking.foreign_of_parks admitted settled parks
      rw [mine] at foreign
      rw [World.visit?_slot visits]
      exact rest.foreign (parking.done_settled admitted settled) foreign others

namespace World

/-- A call that failed with all its changes taken back. -/
structure FailsCleanly
    (entered last ended : World)
    (me : ThreadId)
    (handle : HandleId)
    (call : Call)
    (run : List (ThreadId × Event))
    (fault : Fault) : Prop where
  /-- Every section but the last parked, and the last leaves what it found. -/
  sections :
    ∀ earlier visit,
      entered.visitsOf me handle run = earlier ++ [visit] →
      visit.operation = call.operation ∧
        visit.done.progress = .finished (.error fault) ∧
        visit.done.slot = visit.leftByError ∧
        ∀ before ∈ earlier, before.done.progress = .parked
  /-- Only a create that lacks memory leaves anything else than it found. -/
  exhausted : ∀ attributes, call.operation = .create attributes → fault = .outOfMemory
  /-- Only a try-lock fails without a section. -/
  sectionless :
    entered.visitsOf me handle run = [] → call.operation = .tryLock ∧ fault = .busy
  /-- If it never parked, then no step of it has changed a handle. -/
  unparked :
    (∀ visit ∈ entered.visitsOf me handle run, visit.done.progress ≠ .parked) →
    (∀ attributes, call.operation ≠ .create attributes) →
    ∀ earlier event later before after reply,
      run = earlier ++ (me, event) :: later →
      entered.Continues me handle earlier before →
      before.step? me event = some (after, reply) →
      ∀ other, after.cells.get other = before.cells.get other
  ending : ended.cells = last.cells
  released : ∀ other, (ended.cells.get other).holder ≠ some me

variable
  {me : ThreadId} {handle : HandleId} {start : Slot} {world entered before after last ended : World}
  {past run earlier later : List (ThreadId × Event)} {call : Call} {event : Event} {reply : Reply}
  {fault : Fault}

theorem LatchesInUse.opening (handle : HandleId) (start : Slot) :
    (World.opening handle start).LatchesInUse := by
  intro other thread holds
  by_cases here : other = handle
  · subst here
    simp [World.opening, setCell] at holds
  · rw [World.opening, setCell, Table.get_set_of_ne _ here] at holds
    exact LatchesInUse.initial other thread holds

/-- A thread outside of all calls holds no latch. -/
theorem LatchesInUse.unlatched_of_idle
    (inUse : world.LatchesInUse)
    (idle : (world.thread me).call = none)
    (handle : HandleId) :
    (world.cells.get handle).holder ≠ some me := by
  intro holds
  obtain ⟨call, running, -⟩ := inUse handle me holds
  rw [idle] at running
  contradiction

/-- A step of a call changes no handle, unless it runs a section that changes it. -/
theorem cells_of_own
    (course : Course handle start past before)
    (running : (before.thread me).call = some call)
    (here : call.handle = handle)
    (stepped : before.step? me event = some (after, reply))
    (keeps : ∀ visit, before.visit? me event handle = some visit → visit.done.slot = visit.slot)
    (other : HandleId) :
    after.cells.get other = before.cells.get other := by
  have kept : event.keeps other = true := by
    cases (step?_eq_some_iff.mp stepped).2 with
    | idle free =>
        simp [running] at free
    | _ =>
        rfl
  have cell := step?_cell stepped kept
  by_cases same : other = handle
  · subst same
    cases visits : before.visit? me event other with
    | none =>
        rw [cell, visits]
    | some visit =>
        have found : visit.slot = (before.cells.get other).slot := visit?_slot visits
        have unlatched := course.latch_free
        rw [cell, visits]
        simp only [course.smooth visits, ↓reduceIte, keeps visit visits, found, ← unlatched]
  · have elsewhere : before.visit? me event other = none := by
      by_contra visited
      obtain ⟨visit, visits⟩ := Option.ne_none_iff_exists'.mp visited
      obtain ⟨-, found, runningToo, there, -, -⟩ := visit?_eq_some_iff.mp visits
      cases running.symm.trans runningToo
      exact same (there.symm.trans here)
    rw [cell, elsewhere]

/-- So the steps of a call change no handle, if none of its sections does. -/
theorem Continues.cells_of_kept
    (onward : entered.Continues me handle earlier before)
    (course : Course handle start past entered)
    (running : (before.thread me).call = some call)
    (here : call.handle = handle)
    (stepped : before.step? me event = some (after, reply))
    (keeps :
      ∀ visit ∈ entered.visitsOf me handle (earlier ++ (me, event) :: later),
        visit.done.slot = visit.slot)
    (other : HandleId) :
    after.cells.get other = before.cells.get other := by
  apply cells_of_own (course.continues onward) running here stepped
  intro visit visits
  apply keeps visit
  rw [visitsOf_append onward, visitsOf_cons stepped]
  simp [visits]

/-- Whatever section of a call comes to an error has taken back what it did. -/
theorem Continues.takes_back
    {visit : Visit}
    (continues : entered.Continues me handle run last)
    (course : Course handle start past entered)
    (member : visit ∈ entered.visitsOf me handle run)
    (fails : visit.done.progress = .finished (.error fault)) :
    visit.Admitted ∧ visit.done.slot = visit.leftByError := by
  obtain ⟨earlier, event, later, before, -, onward, visits⟩ :=
    continues.visit_of_mem (List.mem_of_mem_filter member)
  have courseBefore := course.continues onward
  obtain ⟨admitted, settled⟩ := courseBefore.visit_settled visits
  exact ⟨admitted,
    Visit.done_of_error admitted settled (courseBefore.foreign_of_resumed visits) fails⟩

/-- A call that is refused at once has done nothing. -/
theorem eq_of_refused
    {operation : Operation}
    {guarded : Bool}
    {result : Result}
    (stepped :
      world.step? me (.call handle operation guarded) = some (entered, .returned result)) :
    entered = world := by
  generalize replyIs : Reply.returned result = reply at stepped
  cases (step?_eq_some_iff.mp stepped).2 with
  | idle free stepped =>
      cases stepIdle?_idles stepped with
      | refuses =>
          rfl
      | _ =>
          contradiction

end World

/--
An error is returned at once, and nothing has happened; or it is returned by a
call that had got into its scope, and whose last section left what it found.
-/
theorem Course.fails_cleanly
    {handle : HandleId}
    {start : Slot}
    {past : List (ThreadId × Event)}
    {world entered : World}
    {me : ThreadId}
    {event : Event}
    {reply : Reply}
    (course : Course handle start past world)
    (idle : (world.thread me).call = none)
    (stepped : world.step? me event = some (entered, reply)) :
    (∀ operation guarded fault,
        event = .call handle operation guarded →
        reply = .returned (.error fault) →
        entered = world ∧ ∀ other, (entered.cells.get other).holder ≠ some me) ∧
      ∀ call,
        (entered.thread me).call = some call →
        call.handle = handle →
        entered.cells = world.cells ∧
          ∀ run last ended fault,
            entered.Continues me handle run last →
            last.step? me .proceed = some (ended, .returned (.error fault)) →
            entered.FailsCleanly last ended me handle call run fault := by
  have inUse : world.LatchesInUse := by
    obtain ⟨replies, ran⟩ := course.ran
    exact (World.LatchesInUse.opening handle start).run ran
  constructor
  · rintro operation guarded fault rfl rfl
    have same := World.eq_of_refused stepped
    exact ⟨same, by rw [same]; exact inUse.unlatched_of_idle idle⟩
  intro call running here
  obtain ⟨-, enters, -, -, -, guards, enteredIs⟩ := World.enters_cases idle stepped running
  refine ⟨by rw [enteredIs]; rfl, ?_⟩
  intro run last ended fault continues returned
  have courseEntered := course.snoc stepped (enters handle)
  obtain ⟨courseLast, phase, runningLast, reached⟩ :=
    course.reached idle stepped running here continues
  obtain ⟨leaving, ending⟩ := World.leaving_of_returned runningLast returned
  dsimp only at leaving
  rw [leaving] at reached
  have released : ∀ other, (ended.cells.get other).holder ≠ some me := by
    obtain ⟨⟨replies, ran⟩, -⟩ := continues.possible
    intro other
    rw [ending]
    exact ((inUse.step stepped).run ran).unlatched runningLast (by simp [leaving]) other
  have unparked :
      (∀ visit ∈ entered.visitsOf me handle run, visit.done.progress ≠ .parked) →
      (∀ attributes, call.operation ≠ .create attributes) →
      ∀ earlier event later before after reply,
        run = earlier ++ (me, event) :: later →
        entered.Continues me handle earlier before →
        before.step? me event = some (after, reply) →
        ∀ other, after.cells.get other = before.cells.get other := by
    rintro single kept earlier event later before after reply rfl onward steppedThen
    obtain ⟨-, phaseBefore, runningBefore, -⟩ := course.reached idle stepped running here onward
    apply onward.cells_of_kept courseEntered runningBefore here steppedThen
    intro visit member
    -- It did not park, so it is the section that failed.
    obtain ⟨same, parks | fails⟩ := reached.of_mem member
    · exact (single visit member parks).elim
    · rw [← same] at kept
      rw [(continues.takes_back courseEntered member fails).2, Visit.leftByError_of_kept kept]
  generalize visitsAre : entered.visitsOf me handle run = visits at reached
  cases reached with
  | @leaving earlier visit result parks same finishes =>
      obtain ⟨admitted, left⟩ :=
        continues.takes_back courseEntered (by simp [visitsAre]) finishes
      exact
        { sections := by
            intro before other cut
            rw [visitsAre] at cut
            obtain ⟨rfl, last⟩ := List.append_inj' cut rfl
            cases last
            exact ⟨same, finishes, left, fun before member => (parks before member).2⟩
          exhausted := by
            intro attributes create
            exact (Visit.done_of_failed_create admitted (same.trans create) finishes).1
          sectionless := by simp [visitsAre]
          unparked
          ending
          released }
  | gaveUp single =>
      exact
        { sections := by simp [visitsAre]
          exhausted := by simp [single]
          sectionless := fun _ => ⟨single, rfl⟩
          unparked
          ending
          released }

/-- Thread 0 takes a sentinel. -/
def takenSentinel : List (ThreadId × Event) :=
  [(⟨0⟩, .call ⟨0⟩ .lock false), (⟨0⟩, .proceed), (⟨0⟩, .proceed)]

/-- The lock that thread 1 starts then. -/
def waitingLock : Call where
  handle := ⟨0⟩
  operation := .lock
  guarded := false
  previous := .deferred
  phase := .arriving

/-- The section in which thread 1 comes back to the slot. -/
def comingBack (slot : Slot) : Visit where
  thread := ⟨1⟩
  operation := .lock
  resumed := true
  budget := {}
  slot := slot

/-- Whether thread 1 starts a lock behind thread 0, and fails when it comes back after the run. -/
def failsBehind (run : List (ThreadId × Event)) (slot : Slot) : Bool :=
  ((World.opening ⟨0⟩ .sentinel).run? takenSentinel).any fun world =>
    (world.1.thread ⟨1⟩).call = none ∧
      (world.1.step? ⟨1⟩ (.call ⟨0⟩ .lock false)).any fun entered =>
        entered.2 = .silent ∧
          (entered.1.thread ⟨1⟩).call = some waitingLock ∧
          (entered.1.visitsOf ⟨1⟩ ⟨0⟩ run).getLast? = some (comingBack slot) ∧
          (entered.1.run? run).any fun last =>
            (last.1.thread ⟨1⟩).call ≠ none ∧
              (last.1.step? ⟨1⟩ .proceed).any fun ended =>
                ended.2 = .returned (.error .invalidArgument)

/-- The points of such a run. -/
theorem of_failsBehind
    {run : List (ThreadId × Event)}
    {slot : Slot}
    (fails : failsBehind run slot = true)
    (kept : ∀ step ∈ run, step.2.keeps ⟨0⟩ = true)
    (goesOn : ∀ step ∈ run, step.1 = ⟨1⟩ → step.2.continues = true) :
    ∃ world entered last ended earlier,
      Course ⟨0⟩ .sentinel takenSentinel world ∧
        (world.thread ⟨1⟩).call = none ∧
        world.step? ⟨1⟩ (.call ⟨0⟩ .lock false) = some (entered, .silent) ∧
        (entered.thread ⟨1⟩).call = some waitingLock ∧
        entered.Continues ⟨1⟩ ⟨0⟩ run last ∧
        last.step? ⟨1⟩ .proceed = some (ended, .returned (.error .invalidArgument)) ∧
        entered.visitsOf ⟨1⟩ ⟨0⟩ run = earlier ++ [comingBack slot] := by
  simp only [failsBehind, Option.any_eq_true, decide_eq_true_eq, Prod.exists,
    List.getLast?_eq_some_iff] at fails
  obtain ⟨world, before, taken, idle, entered, _, stepped, rfl, running, ⟨earlier, visits⟩, last,
    replies, ran, underway, ended, _, returned, rfl⟩ := fails
  exact ⟨world, entered, last, ended, earlier, ⟨by simp, by decide, before, taken⟩, idle, stepped,
    running, .of_run? ran kept goesOn underway, returned, visits⟩

/-- Thread 1 parks, thread 0 unlocks the mutex and destroys it, and thread 1 comes back. -/
def destroyedMeanwhile : List (ThreadId × Event) :=
  [(⟨1⟩, .proceed),
    (⟨0⟩, .call ⟨0⟩ .unlock false), (⟨0⟩, .proceed), (⟨0⟩, .proceed),
    (⟨0⟩, .call ⟨0⟩ .destroy false), (⟨0⟩, .proceed), (⟨0⟩, .proceed),
    (⟨1⟩, .proceed), (⟨1⟩, .proceed)]

theorem Course.fails_cleanly_destroyedMeanwhile :
    ∃ world entered last ended earlier,
      Course ⟨0⟩ .sentinel takenSentinel world ∧
        world.step? ⟨1⟩ (.call ⟨0⟩ .lock false) = some (entered, .silent) ∧
        entered.Continues ⟨1⟩ ⟨0⟩ destroyedMeanwhile last ∧
        last.step? ⟨1⟩ .proceed = some (ended, .returned (.error .invalidArgument)) ∧
        entered.visitsOf ⟨1⟩ ⟨0⟩ destroyedMeanwhile = earlier ++ [comingBack .empty] ∧
        entered.FailsCleanly last ended ⟨1⟩ ⟨0⟩ waitingLock destroyedMeanwhile
          .invalidArgument := by
  have fails : failsBehind destroyedMeanwhile .empty = true := by
    decide
  obtain ⟨world, entered, last, ended, earlier, course, idle, stepped, running, continues,
    returned, visits⟩ := of_failsBehind fails (by decide) (by decide)
  obtain ⟨-, failsCleanly⟩ := course.fails_cleanly idle stepped
  exact ⟨world, entered, last, ended, earlier, course, stepped, continues, returned, visits,
    (failsCleanly waitingLock running rfl).2 _ _ _ _ continues returned⟩

end LatchMutex
