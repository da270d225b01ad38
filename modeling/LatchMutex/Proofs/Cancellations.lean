import LatchMutex.Proofs.Withdrawals

namespace LatchMutex

/-!
# Cancellations leave the handles alone

A call is canceled where its scope ends or where it opens the window around its
yield.  Its thread holds no latch at either place, and the delivery changes that
thread alone.  At the end of the scope the call has done all it would have done
without a request.  In the wait loop it has parked, and to the others a thread
that is gone from there is one that is never scheduled again.
-/

namespace World

/-- Whoever keeps a latch from one step to the next is spinning with it in hand. -/
def LatchesInUse (world : World) : Prop :=
  ∀ handle thread,
    (world.cells.get handle).holder = some thread →
    ∃ call, (world.thread thread).call = some call ∧ call.phase = .spinning

namespace LatchesInUse

variable {world next : World} {me : ThreadId}

theorem initial : World.initial.LatchesInUse := by
  intro handle thread holds
  contradiction

/-- A thread that does not spin holds no latch. -/
theorem unlatched
    {call : Call}
    (inUse : world.LatchesInUse)
    (running : (world.thread me).call = some call)
    (moving : call.phase ≠ .spinning)
    (handle : HandleId) :
    (world.cells.get handle).holder ≠ some me := by
  intro holds
  obtain ⟨spinning, found, phase⟩ := inUse handle me holds
  cases running.symm.trans found
  exact moving phase

/-- A step hands a latch on to a spinning thread only, and leaves it with one. -/
theorem step
    {event : Event}
    {reply : Reply}
    (inUse : world.LatchesInUse)
    (stepped : world.step? me event = some (next, reply)) :
    next.LatchesInUse := by
  intro handle thread holds
  have others
      (different : thread ≠ me)
      (held : (world.cells.get handle).holder = some thread) :
      ∃ call, (next.thread thread).call = some call ∧ call.phase = .spinning := by
    rw [step?_call_of_ne stepped different]
    exact inUse handle thread held
  -- A thread in the middle of a call is spinning, or holds no latch.
  have moved
      {call : Call}
      (running : (world.thread me).call = some call)
      (moving : call.phase ≠ .spinning)
      (held : (world.cells.get handle).holder = some thread) :
      ∃ call, (next.thread thread).call = some call ∧ call.phase = .spinning := by
    apply others _ held
    rintro rfl
    exact inUse.unlatched running moving handle held
  cases (step?_eq_some_iff.mp stepped).2 with
  | idle free idle =>
      have held : (world.cells.get handle).holder = some thread := by
        cases kept : event.keeps handle with
        | true =>
            rwa [stepIdle?_cell idle kept] at holds
        | false =>
            cases event with
            | place other slot =>
                have same : other = handle := by
                  simpa [Event.keeps] using kept
                cases idle
                simp [setCell, same] at holds
            | _ =>
                contradiction
      apply others _ held
      rintro rfl
      obtain ⟨call, running, -⟩ := inUse handle thread held
      simp [free] at running
  | @visits call running due unlatched =>
      have moving : call.phase ≠ .spinning := by
        rcases due with arriving | yielding
        · simp [arriving]
        · simp [yielding]
      by_cases here : handle = call.handle
      · subst here
        simp only [afterVisit, setThread, setCell, Table.get_set_self] at holds
        split at holds
        · rename_i spinning
          cases holds
          refine ⟨{ call with phase := .spinning }, ?_, rfl⟩
          simp [afterVisit, spinning]
        · contradiction
      · apply moved running moving
        simpa [afterVisit, setThread, setCell, Table.get_set_of_ne _ here] using holds
  | yields running parked =>
      exact moved running (by simp [parked]) holds
  | spins running spinning =>
      exact inUse handle thread holds
  | leaves running leaving =>
      exact moved running (by simp [leaving]) holds
  | givesUp running arriving single | waits running arriving blocking =>
      exact moved running (by simp [arriving]) holds
  | waitsAgain running yielding =>
      exact moved running (by simp [yielding]) holds

/-- Along a run every latch that is kept is kept by a spinning thread. -/
theorem run
    {run : List (ThreadId × Event)}
    {replies : List Reply}
    (inUse : world.LatchesInUse)
    (ran : world.run? run = some (next, replies)) :
    next.LatchesInUse := by
  induction run generalizing world replies with
  | nil =>
      cases ran
      exact inUse
  | cons first rest inductionHypothesis =>
      obtain ⟨_, _, _, stepped, tail, rfl⟩ := run?_cons.mp ran
      exact inductionHypothesis (inUse.step stepped) tail

end LatchesInUse

/-- A call canceled at the end of its scope, when it has come to a result. -/
structure CanceledAtEnd
    (world next : World)
    (me : ThreadId)
    (call : Call)
    (result : Result) : Prop where
  finished : call.phase = .leaving result
  asynchronous : call.previous = .asynchronous
  restored : (next.thread me).cancel.type = call.previous
  /-- From anywhere in the call, the same run without a request returns with the same handles. -/
  asUnrequested :
    ∀ (first : World) (since : List (ThreadId × Event)) (replies : List Reply),
      first.run? since = some (world, replies) →
      (∀ step ∈ since, step.1 = me → step.2.continues = true) →
      ∃ (calm : World) (answers : List Reply) (returned : World),
        (first.withdraw me).run? (since.filter fun step => !step.2.requests me) =
            some (calm, answers) ∧
          calm.step? me .proceed = some (returned, .returned result) ∧
          returned.cells = next.cells

/-- A lock canceled in its wait loop, where it opens the window around its yield. -/
structure CanceledInWait
    (world next : World)
    (me : ThreadId)
    (call : Call) : Prop where
  parked : call.phase = .parked
  locking : call.operation = .lock
  asynchronous : call.previous = .asynchronous
  /-- Whatever the others do after it, they do the same beside a thread that stays parked. -/
  asParked :
    ∀ run last replies,
      next.run? run = some (last, replies) →
      (∀ step ∈ run, step.1 = me → step.2.isPrivate = true) →
      ∃ same answers,
        world.run? (run.filter fun step => step.1 ≠ me) = some (same, answers) ∧
          (same.thread me).call = some call ∧
          same.cells = last.cells ∧
          ∀ handle,
            world.history handle (run.filter fun step => step.1 ≠ me) =
              next.history handle run
  /-- And whatever they can do beside a thread that stays parked, they can do after it. -/
  asCanceled :
    ∀ run last replies,
      world.run? run = some (last, replies) →
      (∀ step ∈ run, step.1 ≠ me) →
      ∃ same answers,
        next.run? run = some (same, answers) ∧
          same.cells = last.cells ∧
          ∀ handle, next.history handle run = world.history handle run

/-- A delivery at the end of the scope takes nothing back and adds nothing. -/
theorem canceledAtEnd_of_leaves
    {world : World}
    {me : ThreadId}
    {call : Call}
    {result : Result}
    (awake : (world.thread me).exited = false)
    (running : (world.thread me).call = some call)
    (leaving : call.phase = .leaving result)
    (canceled : ((world.thread me).finish call result).1 = .canceled) :
    CanceledAtEnd world (world.setThread me ((world.thread me).finish call result).2) me call
      result := by
  have ended := Thread.finish_of_canceled canceled
  refine ⟨leaving, ended.1, by simpa using ended.2, ?_⟩
  intro first since replies ran continues
  obtain ⟨calm, answers, ranToo, calms⟩ :=
    (Calms.withdraw first me).run ran continues (by simp [running])
  refine
    ⟨calm, answers, calm.setThread me ((calm.thread me).finish call result).2, ranToo, ?_,
      calms.cells⟩
  have runningToo : (calm.thread me).call = some call := by
    rw [calms.mine, Thread.withdraw_call, running]
  have returns : ((calm.thread me).finish call result).1 = .returned result := by
    rw [calms.mine, Thread.withdraw_finish]
  rw [← returns]
  refine step?_eq_some_iff.mpr ⟨?_, .leaves runningToo leaving⟩
  rw [calms.mine, Thread.withdraw_exited, awake]

/-- To the others, a lock canceled in its wait loop has stayed there. -/
theorem canceledInWait_of_yields
    {world : World}
    {me : ThreadId}
    {call : Call}
    (admitted : call.Admitted)
    (running : (world.thread me).call = some call)
    (parked : call.phase = .parked)
    (canceled : ((world.thread me).startYield call).1 = .canceled) :
    CanceledInWait world
      { world.setThread me ((world.thread me).startYield call).2 with
        counters := world.counters.record .waitYield } me call := by
  have agree :
      Agree me world
        { world.setThread me ((world.thread me).startYield call).2 with
          counters := world.counters.record .waitYield } :=
    (Agree.of_setThread world me _).withCounters world.counters _
  generalize ({ world.setThread me ((world.thread me).startYield call).2 with
    counters := world.counters.record .waitYield } : World) = next at agree
  refine ⟨parked, ?_, ?_, ?_, ?_⟩
  · simpa [parked] using admitted.onlyLocksWait
  · by_contra deferred
    simp [Thread.startYield, deferred] at canceled
  · intro run last replies ran own
    obtain ⟨same, answers, ranToo, agreed, seen⟩ := agree.symm.run ran own
    refine ⟨same, answers, ranToo, ?_, agreed.cells, seen⟩
    rw [run?_call_of_ne ranToo (by simp), running]
  · intro run last replies ran others
    obtain ⟨same, answers, ranToo, agreed, seen⟩ :=
      agree.run ran fun step member mine => (others step member mine).elim
    have whole : (run.filter fun step => step.1 ≠ me) = run := by
      simpa using others
    rw [whole] at ranToo seen
    exact ⟨same, answers, ranToo, agreed.cells, seen⟩

/--
In every reachable world, a cancellation that is delivered to a thread in a call,
or whatever else ends a call without an answer, is a step of the thread itself,
which holds no latch, at the end of the scope or in the window around the yield
of a parked lock.  It leaves every handle as it is: as the call leaves it without
a request, or as it is while the thread stays parked.
-/
theorem canceled_harmlessly
    {world next : World}
    {past : List (ThreadId × Event)}
    {replies : List Reply}
    {me who : ThreadId}
    {call : Call}
    {event : Event}
    {reply : Reply}
    (reached : World.initial.run? past = some (world, replies))
    (running : (world.thread me).call = some call)
    (stepped : world.step? who event = some (next, reply))
    (lost :
      who = me ∧ reply = .canceled ∨
        (next.thread me).call = none ∧ ∀ result, reply ≠ .returned result) :
    who = me ∧
      reply = .canceled ∧
      (next.thread me).call = none ∧
      next.cells = world.cells ∧
      (∀ handle, (world.cells.get handle).holder ≠ some me) ∧
      ((∃ result, CanceledAtEnd world next me call result) ∨
        CanceledInWait world next me call) := by
  have mine : who = me := by
    rcases lost with canceled | ended
    · exact canceled.1
    · by_contra other
      rw [step?_call_of_ne stepped (Ne.symm other), running] at ended
      simp at ended
  subst mine
  have nobody : World.initial.CallsAdmitted := by
    intro thread call running
    cases running
  have admitted := run?_admitted nobody reached who call running
  have unlatched := (LatchesInUse.initial.run reached).unlatched running
  obtain ⟨awake, stepped⟩ := step?_eq_some_iff.mp stepped
  cases stepped with
  | idle free stepped =>
      simp [free] at running
  | visits found due =>
      simp [afterVisit] at lost
  | yields found parked =>
      cases found.symm.trans running
      rcases Thread.startYield_cases (world.thread who) call with canceled | yielding
      · exact ⟨rfl, canceled.1, by simp [canceled.2], rfl, unlatched (by simp [parked]),
          .inr (canceledInWait_of_yields admitted running parked canceled.1)⟩
      · simp [yielding] at lost
  | @leaves leaver result found leaving =>
      cases found.symm.trans running
      have canceled : ((world.thread who).finish call result).1 = .canceled := by
        rcases Thread.finish_cases (world.thread who) call result with canceled | returned
        · exact canceled
        · simp [returned] at lost
      exact ⟨rfl, canceled, by simp, rfl, unlatched (by simp [leaving]),
        .inl ⟨result, canceledAtEnd_of_leaves awake running leaving canceled⟩⟩
  | spins found spinning | waits found arriving blocking =>
      simp [running] at lost
  | givesUp found arriving single =>
      simp at lost
  | waitsAgain found yielding =>
      simp [running] at lost

/--
Thread 0 takes a sentinel.  Thread 1 is asynchronous, parks behind it, and is
asked to cancel before its yield.
-/
def requestedWaiter : List (ThreadId × Event) :=
  [(⟨0⟩, .place ⟨0⟩ .sentinel), (⟨0⟩, .call ⟨0⟩ .lock false), (⟨0⟩, .proceed), (⟨0⟩, .proceed),
    (⟨1⟩, .setType .asynchronous), (⟨1⟩, .makeHandle), (⟨1⟩, .call ⟨0⟩ .lock false),
    (⟨1⟩, .proceed), (⟨0⟩, .request ⟨1⟩)]

/-- The lock of thread 1 then. -/
def requestedLock : Call where
  handle := ⟨0⟩
  operation := .lock
  guarded := false
  previous := .asynchronous
  phase := .parked

theorem canceled_harmlessly_requestedWaiter :
    ∃ world next replies,
      World.initial.run? requestedWaiter = some (world, replies) ∧
        (world.thread ⟨1⟩).call = some requestedLock ∧
        world.step? ⟨1⟩ .proceed = some (next, .canceled) ∧
        next.cells = world.cells ∧
        (∀ handle, (world.cells.get handle).holder ≠ some ⟨1⟩) ∧
        CanceledInWait world next ⟨1⟩ requestedLock := by
  have canceled :
      ((World.initial.run? requestedWaiter).any fun done =>
        (done.1.thread ⟨1⟩).call = some requestedLock ∧
          (done.1.step? ⟨1⟩ .proceed).map Prod.snd = some .canceled) = true := by
    decide
  simp only [Option.any_eq_true, decide_eq_true_eq, Option.map_eq_some_iff, Prod.exists]
    at canceled
  obtain ⟨world, replies, reached, running, next, reply, stepped, rfl⟩ := canceled
  obtain ⟨-, -, -, cells, unlatched, atEnd | inWait⟩ :=
    canceled_harmlessly reached running stepped (.inl ⟨rfl, rfl⟩)
  · obtain ⟨result, canceled⟩ := atEnd
    cases canceled.finished
  · exact ⟨world, next, replies, reached, running, stepped, cells, unlatched, inWait⟩

end World

end LatchMutex
