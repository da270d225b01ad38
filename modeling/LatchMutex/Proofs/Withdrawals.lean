import LatchMutex.Proofs.Agreement

namespace LatchMutex

/-!
# Requests taken back

A call looks at the pending flag of its thread where it opens a window and where
it leaves its scope, and nowhere else.  So a call that was not canceled in its
wait loop does the same to the handles if every request to its thread is left
out, and then returns what it came to.
-/

/-- Whether a step goes on with a call under way. -/
def Event.continues : Event → Bool
  | .proceed | .missLatch => true
  | _ => false

namespace CancelStatus

/-- The status without a pending request. -/
def withdraw (status : CancelStatus) : CancelStatus :=
  { status with pending := false }

theorem withdraw_setType (status : CancelStatus) (type : CancelType) :
    status.withdraw.setType type = (status.setType type).withdraw :=
  rfl

/-- Nothing is delivered where nothing is pending. -/
theorem test_withdraw (status : CancelStatus) :
    status.withdraw.test = (false, status.withdraw) := by
  simp [test, isDeliverable, withdraw]

theorem openWindow_withdraw (status : CancelStatus) :
    status.withdraw.openWindow = (false, (status.setType .asynchronous).withdraw) := by
  rw [openWindow, withdraw_setType, test_withdraw]

theorem leaveScope_withdraw (status : CancelStatus) (previous : CancelType) :
    status.withdraw.leaveScope previous = (false, (status.setType previous).withdraw) := by
  simp [leaveScope, unwindScope, withdraw_setType, test_withdraw]

/-- A window that opens without a delivery makes the thread asynchronous. -/
theorem eq_setType_of_openWindow
    {status opened : CancelStatus}
    (opens : status.openWindow = (false, opened)) :
    opened = status.setType .asynchronous := by
  unfold openWindow test at opens
  split at opens <;> grind

/-- A scope ends with a delivery only for a thread that was asynchronous before it. -/
theorem asynchronous_of_leaveScope
    {status after : CancelStatus}
    {previous : CancelType}
    (delivers : status.leaveScope previous = (true, after)) :
    previous = .asynchronous := by
  unfold leaveScope at delivers
  split at delivers
  · assumption
  · simp at delivers

end CancelStatus

namespace Thread

/-- The thread without its pending request. -/
def withdraw (thread : Thread) : Thread :=
  { thread with cancel := thread.cancel.withdraw }

@[simp] theorem withdraw_call (thread : Thread) : thread.withdraw.call = thread.call :=
  rfl

@[simp] theorem withdraw_exited (thread : Thread) : thread.withdraw.exited = thread.exited :=
  rfl

theorem withdraw_endYield (thread : Thread) (call : Call) :
    thread.withdraw.endYield call = (thread.endYield call).withdraw := by
  unfold endYield
  split <;> rfl

/-- A wait that is not canceled starts its yield without the request, too. -/
theorem withdraw_startYield
    {thread : Thread}
    {call : Call}
    (kept : (thread.startYield call).2.call ≠ none) :
    (thread.withdraw.startYield call).2 = (thread.startYield call).2.withdraw := by
  unfold startYield at kept ⊢
  split
  · rename_i asynchronous
    simp only [asynchronous, ↓reduceIte] at kept
    rw [withdraw, CancelStatus.openWindow_withdraw]
    split at kept
    · exact (kept rfl).elim
    · rename_i opened opens
      rw [CancelStatus.eq_setType_of_openWindow opens]
      rfl
  · rfl

/-- Without a request the end of the scope returns what the call came to. -/
theorem withdraw_finish (thread : Thread) (call : Call) (result : Result) :
    (thread.withdraw.finish call result).1 = .returned result := by
  unfold finish
  split
  · rfl
  · rw [withdraw, CancelStatus.leaveScope_withdraw]

/-- A call is canceled at the end of its scope, or returns what it came to. -/
theorem finish_cases (thread : Thread) (call : Call) (result : Result) :
    (thread.finish call result).1 = .canceled ∨
      (thread.finish call result).1 = .returned result := by
  unfold finish
  split
  · exact .inr rfl
  · split
    · exact .inl rfl
    · exact .inr rfl

/-- A call canceled at the end of its scope is so once the previous type is restored. -/
theorem finish_of_canceled
    {thread : Thread}
    {call : Call}
    {result : Result}
    (canceled : (thread.finish call result).1 = .canceled) :
    call.previous = .asynchronous ∧
      (thread.finish call result).2.cancel.type = call.previous := by
  unfold finish at canceled ⊢
  split at canceled
  · contradiction
  · rename_i calm
    split at canceled
    · rename_i cancel delivers
      refine ⟨CancelStatus.asynchronous_of_leaveScope delivers, ?_⟩
      have restored := CancelStatus.leaveScope_type thread.cancel call.previous
      rw [delivers] at restored
      rw [if_neg calm]
      exact restored
    · contradiction

end Thread

namespace World

/-- The world without the pending request of a thread. -/
def withdraw (world : World) (me : ThreadId) : World :=
  world.setThread me (world.thread me).withdraw

/-- Two worlds that differ in their counters and in the pending request of a thread at most. -/
structure Calms (me : ThreadId) (world calm : World) : Prop extends Agree me world calm where
  mine : calm.thread me = (world.thread me).withdraw

namespace Calms

variable {me who : ThreadId} {world calm : World}

theorem withdraw (world : World) (me : ThreadId) : Calms me world (world.withdraw me) where
  toAgree := .of_setThread _ _ _
  mine := thread_setThread_self _ _ _

/-- Another thread's step is possible without the request, unless it is the request. -/
theorem step
    {next : World}
    {event : Event}
    {reply : Reply}
    (calms : Calms me world calm)
    (different : who ≠ me)
    (unrequested : event.requests me = false)
    (stepped : world.step? who event = some (next, reply)) :
    ∃ same answer, calm.step? who event = some (same, answer) ∧ Calms me next same := by
  obtain ⟨same, answer, steppedToo, agreed⟩ := calms.toAgree.step different stepped
  refine ⟨same, answer, steppedToo, agreed, ?_⟩
  rw [step?_thread_of_unrequested steppedToo (Ne.symm different) unrequested,
    step?_thread_of_unrequested stepped (Ne.symm different) unrequested, calms.mine]

/-- A request can be left out. -/
theorem request
    {next : World}
    {event : Event}
    {reply : Reply}
    (calms : Calms me world calm)
    (requested : event.requests me = true)
    (stepped : world.step? who event = some (next, reply)) :
    Calms me next calm := by
  rcases step?_of_requests stepped requested with rfl | rfl
  · refine ⟨(Agree.of_raisePending _ _).symm.trans calms.toAgree, ?_⟩
    obtain ⟨pending, raised⟩ := world.thread_raisePending me me
    rw [calms.mine, raised]
    rfl
  · exact calms

/-- A call that goes on can do so without the request. -/
theorem proceed
    {next : World}
    {event : Event}
    {reply : Reply}
    (calms : Calms me world calm)
    (stepped : world.step? me event = some (next, reply))
    (continues : event.continues = true)
    (kept : (next.thread me).call ≠ none) :
    ∃ same answer, calm.step? me event = some (same, answer) ∧ Calms me next same := by
  obtain ⟨awake, stepped⟩ := step?_eq_some_iff.mp stepped
  have call : (calm.thread me).call = (world.thread me).call := by
    rw [calms.mine, Thread.withdraw_call]
  have possible
      {same : World}
      {answer : Reply}
      (stepped : Stepped calm me event same answer)
      (follows : Calms me next same) :
      ∃ same answer, calm.step? me event = some (same, answer) ∧ Calms me next same := by
    refine ⟨same, answer, step?_eq_some_iff.mpr ⟨?_, stepped⟩, follows⟩
    rw [calms.mine, Thread.withdraw_exited, awake]
  cases stepped with
  | idle free stepped =>
      cases event <;> contradiction
  | @visits under running due unlatched =>
      rw [← call] at running
      rw [← calms.cells] at unlatched
      have visit : calm.visitOf me under = world.visitOf me under := by
        simp [visitOf, World.slot, calms.cells, calms.mine, Thread.withdraw]
      refine possible (.visits running due unlatched) ⟨?_, ?_⟩
      · unfold afterVisit
        rw [visit]
        exact ((calms.toAgree.setCell _ _).setThread_self _ _).withCounters _ _
      · simp only [afterVisit, thread_counters, thread_setThread_self, visit, calms.mine,
          Thread.withdraw_endYield]
        rfl
  | yields running parked =>
      rw [← call] at running
      refine possible (.yields running parked)
        ⟨(calms.toAgree.setThread_self _ _).withCounters _ _, ?_⟩
      simp only [thread_counters, thread_setThread_self] at kept
      simp only [thread_counters, thread_setThread_self, calms.mine,
        Thread.withdraw_startYield kept]
  | spins running spinning =>
      rw [← call] at running
      exact possible (.spins running spinning)
        ⟨calms.toAgree.withCounters _ _, calms.mine⟩
  | leaves running leaving =>
      simp at kept
  | givesUp running arriving single =>
      rw [← call] at running
      refine possible (.givesUp running arriving single)
        ⟨(calms.toAgree.setThread_self _ _).withCounters _ _, ?_⟩
      simp only [thread_counters, thread_setThread_self, calms.mine]
      rfl
  | waits running arriving blocking =>
      rw [← call] at running
      exact possible (.waits running arriving blocking)
        ⟨calms.toAgree.withCounters _ _, calms.mine⟩
  | waitsAgain running yielding =>
      rw [← call] at running
      refine possible (.waitsAgain running yielding)
        ⟨(calms.toAgree.setThread_self _ _).withCounters _ _, ?_⟩
      simp only [thread_counters, thread_setThread_self, calms.mine, Thread.withdraw_endYield]

end Calms

/-- A thread without a call has none to go on with. -/
theorem run?_call_of_free
    {world last : World}
    {run : List (ThreadId × Event)}
    {replies : List Reply}
    {me : ThreadId}
    (free : (world.thread me).call = none)
    (ran : world.run? run = some (last, replies))
    (continues : ∀ step ∈ run, step.1 = me → step.2.continues = true) :
    (last.thread me).call = none := by
  induction run generalizing world replies with
  | nil =>
      cases ran
      exact free
  | cons step rest inductionHypothesis =>
      obtain ⟨who, event⟩ := step
      obtain ⟨next, reply, _, stepped, tail, rfl⟩ := run?_cons.mp ran
      rw [List.forall_mem_cons] at continues
      apply inductionHypothesis _ tail continues.2
      by_cases mine : who = me
      · subst mine
        have goesOn := continues.1 rfl
        cases (step?_eq_some_iff.mp stepped).2 with
        | idle free stepped =>
            cases event <;> contradiction
        | _ running =>
            simp [free] at running
      · rw [step?_call_of_ne stepped (Ne.symm mine), free]

/-- As long as a call is under way, every request to its thread can be left out of a run. -/
theorem Calms.run
    {me : ThreadId}
    {world calm last : World}
    {run : List (ThreadId × Event)}
    {replies : List Reply}
    (calms : Calms me world calm)
    (ran : world.run? run = some (last, replies))
    (continues : ∀ step ∈ run, step.1 = me → step.2.continues = true)
    (running : (last.thread me).call ≠ none) :
    ∃ same answers,
      calm.run? (run.filter fun step => !step.2.requests me) = some (same, answers) ∧
        Calms me last same := by
  induction run generalizing world calm replies with
  | nil =>
      cases ran
      exact ⟨calm, [], rfl, calms⟩
  | cons step rest inductionHypothesis =>
      obtain ⟨who, event⟩ := step
      obtain ⟨next, reply, _, stepped, tail, rfl⟩ := run?_cons.mp ran
      rw [List.forall_mem_cons] at continues
      -- The call is under way at the end of the run, so no step before it has ended it.
      cases requested : event.requests me with
      | true =>
          obtain ⟨same, answers, ranToo, follows⟩ :=
            inductionHypothesis (calms.request requested stepped) tail continues.2
          exact ⟨same, answers, by simpa [requested] using ranToo, follows⟩
      | false =>
          have goesOn :
              ∃ same answer,
                calm.step? who event = some (same, answer) ∧ Calms me next same := by
            by_cases mine : who = me
            · subst mine
              apply calms.proceed stepped (continues.1 rfl)
              intro free
              exact running (run?_call_of_free free tail continues.2)
            · exact calms.step mine requested stepped
          obtain ⟨same, answer, steppedToo, follows⟩ := goesOn
          obtain ⟨final, answers, ranToo, calmsLast⟩ :=
            inductionHypothesis follows tail continues.2
          refine ⟨final, answer :: answers, ?_, calmsLast⟩
          rw [List.filter_cons_of_pos (by simp [requested])]
          exact run?_cons.mpr ⟨same, answer, answers, steppedToo, ranToo, rfl⟩

end World

end LatchMutex
