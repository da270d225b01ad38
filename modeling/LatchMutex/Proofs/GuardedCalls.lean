import Mathlib.Algebra.BigOperators.Group.List.Basic
import Mathlib.Algebra.Ring.Int.Defs
import LatchMutex.Proofs.CallsUnderway
import LatchMutex.Proofs.Ownership

namespace LatchMutex

/-!
# Calls for a guard

A guard is made from what a call returns, after the scope of the call has ended.
So a call that took the mutex and is canceled at the end of its scope strands the
acquisition: the thread owns the mutex and has nothing to let go of it with.  Every
other call that hands no guard back leaves the account of its thread as it was.
-/

/-- Whether the operation is one that a guard can be asked of. -/
def Operation.isAcquiring : Operation → Bool
  | .lock | .tryLock => true
  | _ => false

/-- Whether a call that has come so far was successful under the latch. -/
def Phase.hasTaken : Phase → Bool
  | .leaving (.ok _) => true
  | _ => false

/-- Whether a call on a handle has acquired its mutex. -/
def Call.hasTaken (call : Call) (handle : HandleId) : Bool :=
  call.handle = handle ∧ call.operation.isAcquiring ∧ call.phase.hasTaken

/-- Whether a step of a thread with this reply strands an acquisition that its call has made. -/
def World.strands (world : World) (me : ThreadId) (handle : HandleId) (reply : Reply) : Bool :=
  reply = .canceled ∧ (world.thread me).call.any fun call => call.hasTaken handle

/-- Whether a reply hands back what was asked for. -/
def Reply.isSuccess : Reply → Bool
  | .returned (.ok _) => true
  | _ => false

/-- What a call for a guard has come to when it is over, between two histories of the handle. -/
structure World.SettlesGuard
    (world last ended : World)
    (me : ThreadId)
    (handle : HandleId)
    (answer : Reply)
    (before during : List Visit) :
    Prop where
  answers : answer = .canceled ∨ ∃ result, answer = .returned result
  guards :
    (ended.thread me).guards =
      if answer.isSuccess then handle :: (world.thread me).guards else (world.thread me).guards
  /-- Without a guard the account is as before, unless the acquisition is stranded. -/
  unchanged :
    answer.isSuccess = false →
    last.strands me handle answer = false →
    outstanding me (before ++ during) =
      if ∃ visit ∈ during, visit.deed = .renews then 0 else outstanding me before
  taken :
    answer.isSuccess = true ∨ last.strands me handle answer = true →
    (∀ visit ∈ during, visit.deed ≠ .renews) →
    outstanding me (before ++ during) = outstanding me before + 1

/-- A call of a thread, with the sections run on its handle from where it is made to its end. -/
inductive World.EndsCall
    (world : World)
    (me : ThreadId)
    (handle : HandleId)
    (operation : Operation)
    (guarded : Bool) :
    List Visit → World → Reply → World → Prop where
  | intro
      {entered last ended : World} {run : List (ThreadId × Event)} {event : Event}
      {reply answer : Reply}
      (asks : world.step? me (.call handle operation guarded) = some (entered, reply))
      (continues : entered.Continues me handle run last)
      (ends : last.step? me event = some (ended, answer))
      (closed : (ended.thread me).call = none) :
      EndsCall world me handle operation guarded (entered.history handle run) last answer ended

/-- Visits among which no record is renewed add up their gains. -/
theorem outstanding_append_of_kept
    {later : List Visit}
    (thread : ThreadId)
    (history : List Visit)
    (kept : ∀ visit ∈ later, visit.deed ≠ .renews) :
    outstanding thread (history ++ later) =
      outstanding thread history + (later.map fun visit => visit.gain thread).sum := by
  induction later using List.reverseRecOn with
  | nil =>
      simp
  | append_singleton earlier visit inductionHypothesis =>
      rw [List.forall_mem_append] at kept
      have keeps : visit.deed ≠ .renews := kept.2 visit (by simp)
      rw [← List.append_assoc, outstanding_snoc, if_neg keeps, inductionHypothesis kept.1]
      simp [Int.add_assoc]

/-- Visits without a gain for a thread leave its account, or clear it with the record. -/
theorem outstanding_append_of_idle
    {thread : ThreadId}
    {later : List Visit}
    (history : List Visit)
    (idle : ∀ visit ∈ later, visit.gain thread = 0) :
    outstanding thread (history ++ later) =
      if ∃ visit ∈ later, visit.deed = .renews then 0 else outstanding thread history := by
  induction later using List.reverseRecOn with
  | nil =>
      simp
  | append_singleton earlier visit inductionHypothesis =>
      rw [List.forall_mem_append] at idle
      rw [← List.append_assoc, outstanding_snoc, inductionHypothesis idle.1,
        idle.2 visit (by simp)]
      by_cases renews : visit.deed = .renews
      · rw [if_pos renews, if_pos ⟨visit, by simp, renews⟩]
      · rw [if_neg renews, Int.add_zero]
        congr 1
        simp [renews]

namespace Visit

variable {visit : Visit} {thread : ThreadId}

theorem gain_of_ne (other : visit.thread ≠ thread) : visit.gain thread = 0 := by
  simp [gain, other]

/-- Who parks or is refused gains nothing. -/
theorem gain_of_unfinished
    (acquiring : visit.operation.isAcquiring = true)
    (unfinished : ∀ answer, visit.done.progress ≠ .finished (.ok answer)) :
    visit.gain thread = 0 := by
  have deed : visit.deed = .parks ∨ visit.deed = .nothing := by
    unfold Visit.deed
    cases operation : visit.operation <;> cases progress : visit.done.progress <;>
      simp_all [Operation.isAcquiring]
  rcases deed with deed | deed <;> simp [gain, deed]

end Visit

/-- A call for the mutex gains an acquisition if it has taken the mutex, and nothing if not. -/
theorem Call.Reached.gains
    {operation : Operation}
    {phase : Phase}
    {visits : List Visit}
    {me : ThreadId}
    (reached : Call.Reached operation phase visits)
    (acquiring : operation.isAcquiring = true)
    (mine : ∀ visit ∈ visits, visit.thread = me) :
    (phase.hasTaken = false → ∀ visit ∈ visits, visit.gain me = 0) ∧
      (phase.hasTaken = true → (visits.map fun visit => visit.gain me).sum = 1) := by
  have parked
      {some : List Visit}
      (parks :
        ∀ visit ∈ some, visit.operation = operation ∧ visit.done.progress = .parked) :
      ∀ visit ∈ some, visit.gain me = 0 := by
    intro visit member
    obtain ⟨same, progress⟩ := parks visit member
    exact Visit.gain_of_unfinished (by rw [same, acquiring]) (by simp [progress])
  cases reached with
  | arriving | gaveUp =>
      simp [Phase.hasTaken]
  | parked parks | yielding parks =>
      exact ⟨fun _ => parked parks, by simp [Phase.hasTaken]⟩
  | @leaving earlier visit result parks same finishes =>
      cases result with
      | error fault =>
          refine ⟨fun _ => ?_, by simp [Phase.hasTaken]⟩
          rw [List.forall_mem_append]
          refine ⟨parked parks, ?_⟩
          intro last member
          obtain rfl := List.mem_singleton.mp member
          exact Visit.gain_of_unfinished (by rw [same, acquiring]) (by simp [finishes])
      | ok answer =>
          refine ⟨by simp [Phase.hasTaken], fun _ => ?_⟩
          have deed : visit.deed = .acquires := by
            unfold Visit.deed
            cases operation <;> simp_all [Operation.isAcquiring]
          have gain : visit.gain me = 1 := by
            simp [Visit.gain, deed, mine visit (by simp)]
          have before : (earlier.map fun visit => visit.gain me).sum = 0 :=
            List.sum_eq_zero (by simpa using parked parks)
          simp [before, gain]

/-- The gains of a thread along a history are those of its own visits. -/
theorem sum_gain_filter (history : List Visit) (me : ThreadId) :
    (history.map fun visit => visit.gain me).sum =
      ((history.filter fun visit => visit.thread = me).map fun visit => visit.gain me).sum := by
  induction history with
  | nil =>
      rfl
  | cons visit rest inductionHypothesis =>
      by_cases mine : visit.thread = me
      · simp [mine, inductionHypothesis]
      · simp [mine, Visit.gain_of_ne mine, inductionHypothesis]

namespace Thread

@[simp] theorem endYield_guards (thread : Thread) (call : Call) :
    (thread.endYield call).guards = thread.guards := by
  unfold endYield
  split <;> rfl

@[simp] theorem startYield_guards (thread : Thread) (call : Call) :
    (thread.startYield call).2.guards = thread.guards := by
  unfold startYield
  split
  · split <;> rfl
  · rfl

/-- A call that is over was canceled, or returned what it came to and left a guard if it is due. -/
theorem finish_guards (thread : Thread) (call : Call) (result : Result) :
    ((thread.finish call result).1 = .canceled ∧
        (thread.finish call result).2.guards = thread.guards) ∨
      ((thread.finish call result).1 = .returned result ∧
        (thread.finish call result).2.guards =
          if call.guarded ∧ result.toBool then call.handle :: thread.guards
          else thread.guards) := by
  unfold finish
  split
  · exact .inr ⟨rfl, rfl⟩
  · split
    · exact .inl ⟨rfl, rfl⟩
    · exact .inr ⟨rfl, rfl⟩

end Thread

namespace World

variable
  {me who : ThreadId} {handle : HandleId} {world next last : World} {event : Event}
  {reply : Reply} {run : List (ThreadId × Event)} {call : Call}

/-- The steps of other threads leave the guards of a thread alone. -/
theorem guards_of_ne
    (stepped : world.step? who event = some (next, reply))
    (different : me ≠ who) :
    (next.thread me).guards = (world.thread me).guards := by
  rcases step?_thread_of_ne stepped different with same | raised
  · rw [same]
  · rw [raised]

/-- A call neither gives nor takes a guard before it is over. -/
theorem guards_of_own
    (running : (world.thread me).call = some call)
    (stepped : world.step? me event = some (next, reply))
    (underway : (next.thread me).call ≠ none) :
    (next.thread me).guards = (world.thread me).guards := by
  cases (step?_eq_some_iff.mp stepped).2 with
  | idle free =>
      simp [running] at free
  | visits | yields | givesUp | waitsAgain =>
      simp [afterVisit]
  | spins | waits =>
      rfl
  | leaves found leaving =>
      simp at underway

theorem Continues.guards
    (continues : world.Continues me handle run last) :
    (last.thread me).guards = (world.thread me).guards := by
  induction continues with
  | nil underway =>
      rfl
  | @cons world next last who event reply rest underway stepped kept later inductionHypothesis =>
      rw [inductionHypothesis]
      by_cases mine : me = who
      · subst mine
        obtain ⟨call, running⟩ := Option.ne_none_iff_exists'.mp underway
        exact guards_of_own running stepped later.underway_first
      · exact guards_of_ne stepped mine

end World

/-- A call is over where it is canceled in its wait, or at the end of its scope. -/
theorem World.over_cases
    {me : ThreadId}
    {world next : World}
    {event : Event}
    {reply : Reply}
    {call : Call}
    (running : (world.thread me).call = some call)
    (stepped : world.step? me event = some (next, reply))
    (closed : (next.thread me).call = none) :
    (reply = .canceled ∧ (next.thread me).guards = (world.thread me).guards) ∨
      ∃ result,
        reply = .returned result ∧
          call.phase = .leaving result ∧
          (next.thread me).guards =
            if call.guarded ∧ result.toBool then call.handle :: (world.thread me).guards
            else (world.thread me).guards := by
  cases (step?_eq_some_iff.mp stepped).2 with
  | idle free =>
      simp [running] at free
  | visits | givesUp =>
      simp [afterVisit] at closed
  | yields found parked =>
      cases running.symm.trans found
      simp only [thread_counters, thread_setThread_self] at closed ⊢
      rcases Thread.startYield_cases (world.thread me) call with canceled | yielding
      · exact .inl ⟨canceled.1, by simp⟩
      · simp [yielding.2] at closed
  | @leaves found result runningToo leaving =>
      cases running.symm.trans runningToo
      rw [thread_setThread_self]
      rcases Thread.finish_guards (world.thread me) call result with canceled | returned
      · exact .inl canceled
      · exact .inr ⟨result, returned.1, leaving, returned.2⟩
  | spins | waits | waitsAgain =>
      simp [running] at closed

/-- A call for a guard that is over hands a guard back, or strands its acquisition, or has none. -/
theorem Course.settles_guard
    {handle : HandleId}
    {start : Slot}
    {past : List (ThreadId × Event)}
    {world last ended : World}
    {me : ThreadId}
    {operation : Operation}
    {during : List Visit}
    {answer : Reply}
    (course : Course handle start past world)
    (acquiring : operation.isAcquiring = true)
    (endsCall : world.EndsCall me handle operation true during last answer ended) :
    world.SettlesGuard last ended me handle answer
      ((World.opening handle start).history handle past) during := by
  obtain ⟨asks, continues, ends, closed⟩ := endsCall
  rename_i entered run event reply
  obtain ⟨idle, enteredIs⟩ :
      (world.thread me).call = none ∧
        entered = world.setThread me ((world.thread me).start handle operation true) := by
    have accepted : operation.isRefused = false := by
      cases operation <;> first | rfl | contradiction
    cases (World.step?_eq_some_iff.mp asks).2 with
    | idle free stepped =>
        cases World.stepIdle?_idles stepped with
        | calls =>
            exact ⟨free, rfl⟩
        | refuses refused =>
            simp [accepted] at refused
        | acts own =>
            contradiction
  have running :
      (entered.thread me).call =
        some
          { handle, operation
            guarded := true
            previous := (world.thread me).cancel.type
            phase := .arriving } := by
    rw [enteredIs, World.thread_setThread_self, Thread.start_call]
  have guards : (last.thread me).guards = (world.thread me).guards := by
    rw [continues.guards, enteredIs, World.thread_setThread_self]
    rfl
  obtain ⟨-, phase, runningLast, reached⟩ := course.reached idle asks running rfl continues
  have mine : ∀ visit ∈ entered.visitsOf me handle run, visit.thread = me := by
    simp [World.visitsOf]
  obtain ⟨gainsNothing, gainsOne⟩ := reached.gains acquiring mine
  have stranded : last.strands me handle answer = decide (answer = .canceled ∧ phase.hasTaken) := by
    simp [World.strands, runningLast, Call.hasTaken, acquiring]
  have ending := World.over_cases runningLast ends closed
  dsimp only at ending
  rw [guards] at ending
  refine
    { answers := ?_
      guards := ?_
      unchanged := ?_
      taken := ?_ }
  · rcases ending with ⟨canceled, -⟩ | ⟨result, returned, -⟩
    · exact .inl canceled
    · exact .inr ⟨result, returned⟩
  · rcases ending with ⟨rfl, same⟩ | ⟨result, rfl, -, left⟩
    · exact same
    · rw [left]
      cases result <;> rfl
  · intro withheld unstranded
    have untaken : phase.hasTaken = false := by
      rcases ending with ⟨rfl, -⟩ | ⟨result, rfl, rfl, -⟩
      · simpa [stranded] using unstranded
      · cases result with
        | error fault => rfl
        | ok value => contradiction
    apply outstanding_append_of_idle
    intro visit member
    by_cases own : visit.thread = me
    · exact gainsNothing untaken visit (List.mem_filter.mpr ⟨member, by simpa using own⟩)
    · exact Visit.gain_of_ne own
  · intro acquires kept
    have taken : phase.hasTaken = true := by
      rcases ending with ⟨rfl, -⟩ | ⟨result, rfl, rfl, -⟩
      · simpa [stranded, Reply.isSuccess] using acquires
      · cases result with
        | error fault => simp [stranded, Reply.isSuccess] at acquires
        | ok value => rfl
    rw [outstanding_append_of_kept me _ kept, sum_gain_filter]
    congr 1
    exact gainsOne taken

end LatchMutex
