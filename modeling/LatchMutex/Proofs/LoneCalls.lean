import LatchMutex.Proofs.LoneAnswers

namespace LatchMutex

/-!
# Calls that run alone

A call runs alone when every step after its start is one of its own thread.
`World.Returns` says that it returns then, and `World.Waits` that it never does.
A call that comes to a result returns it, and a lock that is kept out stays in
its wait loop for ever.
-/

namespace Thread

@[simp] theorem endYield_exited (thread : Thread) (call : Call) :
    (thread.endYield call).exited = thread.exited := by
  unfold endYield
  split <;> rfl

/-- The end of a yield changes the cancel type only, which the end of the scope restores. -/
@[simp] theorem endYield_cancel_setType (thread : Thread) (call : Call) (type : CancelType) :
    (thread.endYield call).cancel.setType type = thread.cancel.setType type := by
  unfold endYield
  split <;> rfl

/-- The yield of a call that no cancellation meets is only a change of the cancel type. -/
theorem startYield_of_quiet
    {thread : Thread}
    {call : Call}
    (quiet : (thread.cancel.setType call.previous).isDeliverable = false) :
    ∃ type,
      thread.startYield call =
        (.silent,
          { thread with
            cancel := thread.cancel.setType type
            call := some { call with phase := .yielding } }) := by
  unfold startYield
  split
  · rename_i asynchronous
    rw [asynchronous] at quiet
    exact ⟨.asynchronous, by simp [CancelStatus.openWindow, CancelStatus.test, quiet]⟩
  · exact ⟨thread.cancel.type, rfl⟩

/-- The end of a scope that no cancellation meets hands the result back. -/
theorem finish_of_quiet
    {thread : Thread}
    {call : Call}
    (quiet : (thread.cancel.setType call.previous).isDeliverable = false)
    (result : Result) :
    thread.finish call result =
      (.returned result, thread.conclude call (thread.cancel.setType call.previous) result) := by
  unfold finish
  split
  · rfl
  · simp [CancelStatus.leaveScope, CancelStatus.unwindScope, CancelStatus.test, quiet]

end Thread

namespace World

/-- Started by an event, the call of a thread that runs alone returns. -/
def Returns
    (world : World)
    (me : ThreadId)
    (event : Event)
    (result : Result)
    (after : World) :
    Prop :=
  ∃ turns replies,
    world.run? ((me, event) :: List.replicate turns (me, .proceed)) =
      some (after, replies ++ [.returned result])

/-- Started by an event, the call of a thread that runs alone goes on for ever without an answer. -/
def Waits
    (world : World)
    (me : ThreadId)
    (event : Event)
    (meanwhile : World → Prop) :
    Prop :=
  ∀ turns,
    ∃ later replies,
      world.run? ((me, event) :: List.replicate turns (me, .proceed)) = some (later, replies) ∧
        (∀ reply ∈ replies, reply = .silent) ∧
        meanwhile later

theorem Returns.at_once
    {world after : World}
    {me : ThreadId}
    {event : Event}
    {result : Result}
    (stepped : world.step? me event = some (after, .returned result)) :
    world.Returns me event result after :=
  ⟨0, [], run?_cons.mpr ⟨after, _, [], stepped, rfl, rfl⟩⟩

theorem Returns.later
    {world next after : World}
    {me : ThreadId}
    {event : Event}
    {reply : Reply}
    {result : Result}
    (stepped : world.step? me event = some (next, reply))
    (returns : next.Returns me .proceed result after) :
    world.Returns me event result after := by
  obtain ⟨turns, replies, ran⟩ := returns
  refine ⟨turns + 1, reply :: replies, ?_⟩
  rw [List.replicate_succ]
  exact run?_cons.mpr ⟨next, reply, _, stepped, ran, rfl⟩

/-- A step that returns a result ends the call. -/
theorem step?_returned
    {world next : World}
    {me : ThreadId}
    {event : Event}
    {result : Result}
    (stepped : world.step? me event = some (next, .returned result)) :
    (next.thread me).call = none := by
  obtain ⟨awake, step⟩ := step?_eq_some_iff.mp stepped
  clear stepped
  generalize replyIs : Reply.returned result = reply at step
  cases step with
  | idle free stepped =>
      cases stepIdle?_idles stepped with
      | refuses =>
          exact free
      | acts own =>
          simp [Thread.step?_call free own]
      | _ =>
          contradiction
  | @yields call running parked =>
      rcases Thread.startYield_cases (world.thread me) call with canceled | yielding
      · simp [canceled.1] at replyIs
      · simp [yielding.1] at replyIs
  | leaves running leaving =>
      simp
  | visits | spins | givesUp | waits | waitsAgain =>
      cases replyIs

/-- A thread without a call has nothing to go on with. -/
theorem step?_proceed_of_idle
    {world : World}
    {me : ThreadId}
    (idle : (world.thread me).call = none) :
    world.step? me .proceed = none := by
  have nothing : (world.thread me).step? .proceed = none := rfl
  simp [step?, idle, stepIdle?, nothing]

/-- A run of one thread ends a call where its last reply returns a result. -/
theorem run?_returned
    {world last : World}
    {me : ThreadId}
    {run : List (ThreadId × Event)}
    {replies : List Reply}
    {result : Result}
    (own : ∀ step ∈ run, step.1 = me)
    (ran : world.run? run = some (last, replies ++ [.returned result])) :
    (last.thread me).call = none := by
  rcases List.eq_nil_or_concat run with rfl | ⟨earlier, ⟨thread, event⟩, rfl⟩
  · simp [run?] at ran
  · have mine : thread = me := own (thread, event) (by simp)
    subst mine
    rw [List.concat_eq_append] at ran
    obtain ⟨middle, before, _, -, tail, replies⟩ := run?_append.mp ran
    obtain ⟨next, reply, _, stepped, ended, rfl⟩ := run?_cons.mp tail
    cases ended
    obtain ⟨-, same⟩ := List.append_inj' replies rfl
    cases same
    exact step?_returned stepped

/-- A run of one thread is no longer than one after which the call of the thread is over. -/
theorem turns_le_of_idle
    {world after final : World}
    {me : ThreadId}
    {event : Event}
    {turns more : Nat}
    {replies others : List Reply}
    (ran :
      world.run? ((me, event) :: List.replicate turns (me, .proceed)) = some (after, replies))
    (idle : (after.thread me).call = none)
    (ranOn :
      world.run? ((me, event) :: List.replicate more (me, .proceed)) = some (final, others)) :
    more ≤ turns := by
  by_contra further
  obtain ⟨rest, rfl⟩ : ∃ rest, more = turns + (rest + 1) := ⟨more - turns - 1, by omega⟩
  rw [List.replicate_add, ← List.cons_append] at ranOn
  obtain ⟨middle, before, later, head, tail, -⟩ := run?_append.mp ranOn
  rw [ran] at head
  cases head
  rw [List.replicate_succ] at tail
  obtain ⟨next, reply, -, stepped, -⟩ := run?_cons.mp tail
  rw [step?_proceed_of_idle idle] at stepped
  contradiction

/-- A lone call returns once. -/
theorem Returns.unique
    {world after final : World}
    {me : ThreadId}
    {event : Event}
    {result second : Result}
    (returns : world.Returns me event result after)
    (again : world.Returns me event second final) :
    result = second ∧ after = final := by
  obtain ⟨turns, replies, ran⟩ := returns
  obtain ⟨more, others, ranOn⟩ := again
  -- Whichever run is longer would go on from where the other has returned.
  have idle : (after.thread me).call = none := run?_returned (by simp) ran
  have idleToo : (final.thread me).call = none := run?_returned (by simp) ranOn
  obtain rfl : turns = more :=
    Nat.le_antisymm (turns_le_of_idle ranOn idleToo ran) (turns_le_of_idle ran idle ranOn)
  rw [ran] at ranOn
  simp only [Option.some.injEq, Prod.mk.injEq] at ranOn
  obtain ⟨worlds, repliesSame⟩ := ranOn
  obtain ⟨-, last⟩ := List.append_inj' repliesSame rfl
  cases last
  exact ⟨rfl, worlds⟩

/-- A lone call that is canceled does not return. -/
theorem not_returns_of_canceled
    {world canceled after : World}
    {me : ThreadId}
    {event : Event}
    {turns : Nat}
    {replies : List Reply}
    {result : Result}
    (ran :
      world.run? ((me, event) :: List.replicate turns (me, .proceed)) =
        some (canceled, replies ++ [.canceled]))
    (idle : (canceled.thread me).call = none) :
    ¬ world.Returns me event result after := by
  rintro ⟨more, others, ranOn⟩
  have idleToo : (after.thread me).call = none := run?_returned (by simp) ranOn
  obtain rfl : turns = more :=
    Nat.le_antisymm (turns_le_of_idle ranOn idleToo ran) (turns_le_of_idle ran idle ranOn)
  rw [ran] at ranOn
  simp only [Option.some.injEq, Prod.mk.injEq] at ranOn
  obtain ⟨-, last⟩ := List.append_inj' ranOn.2 rfl
  simp at last

/-- A call that waits does not return. -/
theorem Waits.not_returns
    {world after : World}
    {me : ThreadId}
    {event : Event}
    {meanwhile : World → Prop}
    {result : Result}
    (waits : world.Waits me event meanwhile) :
    ¬ world.Returns me event result after := by
  rintro ⟨turns, replies, returned⟩
  obtain ⟨later, silences, ran, silent, -⟩ := waits turns
  rw [returned] at ran
  cases ran
  have answered := silent (.returned result) (by simp)
  contradiction

theorem Waits.mono
    {world : World}
    {me : ThreadId}
    {event : Event}
    {strong weak : World → Prop}
    (waits : world.Waits me event strong)
    (weaker : ∀ later, strong later → weak later) :
    world.Waits me event weak := by
  intro turns
  obtain ⟨later, replies, ran, silent, holds⟩ := waits turns
  exact ⟨later, replies, ran, silent, weaker later holds⟩

/-- A call waits if its next step is always a silent one. -/
theorem Waits.of_invariant
    {world : World}
    {me : ThreadId}
    {event : Event}
    {Invariant : World → Prop}
    (started : ∃ next, world.step? me event = some (next, .silent) ∧ Invariant next)
    (step :
      ∀ earlier,
        Invariant earlier →
        ∃ next, earlier.step? me .proceed = some (next, .silent) ∧ Invariant next) :
    world.Waits me event Invariant := by
  intro turns
  induction turns generalizing world event with
  | zero =>
      obtain ⟨next, stepped, holds⟩ := started
      exact ⟨next, [.silent], run?_cons.mpr ⟨next, _, [], stepped, rfl, rfl⟩, by simp, holds⟩
  | succ turns inductionHypothesis =>
      obtain ⟨next, stepped, holds⟩ := started
      obtain ⟨later, replies, ran, silent, still⟩ := inductionHypothesis (step next holds)
      refine ⟨later, .silent :: replies, ?_, ?_, still⟩
      · rw [List.replicate_succ]
        exact run?_cons.mpr ⟨next, _, replies, stepped, ran, rfl⟩
      · intro reply member
        rcases List.mem_cons.mp member with first | rest
        · exact first
        · exact silent reply rest

/-- A thread that may start a call on a handle, with what its call will find. -/
structure Ready
    (world : World)
    (me : ThreadId)
    (handle : HandleId)
    (slot : Slot)
    (budget : Budget) :
    Prop where
  awake : (world.thread me).exited = false
  idle : (world.thread me).call = none
  quiet : (world.thread me).cancel.isDeliverable = false
  funded : (world.thread me).budget = budget
  cell : world.cells.get handle = { slot }

/-- A call between two of its steps, with nothing in its way. -/
structure Serving
    (world : World)
    (me : ThreadId)
    (call : Call)
    (slot : Slot)
    (budget : Budget) :
    Prop where
  awake : (world.thread me).exited = false
  running : (world.thread me).call = some call
  /-- No cancellation is delivered under the type that the end of the scope restores. -/
  quiet : ((world.thread me).cancel.setType call.previous).isDeliverable = false
  funded : (world.thread me).budget = budget
  cell : world.cells.get call.handle = { slot }

theorem Ready.starts
    {world : World}
    {me : ThreadId}
    {handle : HandleId}
    {slot : Slot}
    {budget : Budget}
    {operation : Operation}
    (ready : world.Ready me handle slot budget)
    (accepted : operation.isRefused = false)
    (guarded : Bool) :
    ∃ next,
      world.step? me (.call handle operation guarded) = some (next, .silent) ∧
        next.Serving me
          { handle, operation, guarded
            previous := (world.thread me).cancel.type
            phase := .arriving }
          slot budget := by
  let next := world.setThread me ((world.thread me).start handle operation guarded)
  have started : world.stepIdle? me (.call handle operation guarded) = some (next, .silent) := by
    simp [stepIdle?, accepted, next]
  refine ⟨next, step?_eq_some_iff.mpr ⟨ready.awake, .idle ready.idle started⟩, ?_⟩
  exact
    { awake := by simpa [next, Thread.start] using ready.awake
      running := by simp [next]
      quiet := by
        simpa [next, Thread.start, CancelStatus.enterScope, CancelStatus.setType]
          using ready.quiet
      funded := by simpa [next, Thread.start] using ready.funded
      cell := ready.cell }

namespace Serving

variable {world : World} {me : ThreadId} {call : Call} {slot : Slot} {budget : Budget}

/-- A section moves the call on, unless it is left spinning. -/
theorem visits
    (serving : world.Serving me call slot budget)
    (due : call.phase = .arriving ∨ call.phase = .yielding)
    (smooth : (call.nextSection me slot budget).progress ≠ .spinning) :
    ∃ next,
      world.step? me .proceed = some (next, .silent) ∧
        next.Serving me
          { call with phase := .ofProgress (call.nextSection me slot budget).progress }
          (call.nextSection me slot budget).slot
          (call.nextSection me slot budget).budget := by
  have cell := serving.cell
  have unlatched : (world.cells.get call.handle).holder = none := by
    rw [cell]
  have done : (world.visitOf me call).done = call.nextSection me slot budget := by
    rw [world.visitOf_done due, World.slot, cell, serving.funded]
  refine ⟨_, step?_eq_some_iff.mpr ⟨serving.awake, .visits serving.running due unlatched⟩, ?_⟩
  exact
    { awake := by simpa [afterVisit, done] using serving.awake
      running := by simp [afterVisit, done]
      quiet := by simpa [afterVisit, done] using serving.quiet
      funded := by simp [afterVisit, done]
      cell := by simp [afterVisit, done, smooth, setThread, setCell] }

/-- A parked call that no cancellation meets comes to the middle of its yield. -/
theorem yields
    (serving : world.Serving me call slot budget)
    (parked : call.phase = .parked) :
    ∃ next,
      world.step? me .proceed = some (next, .silent) ∧
        next.Serving me { call with phase := .yielding } slot budget := by
  obtain ⟨type, yielding⟩ := Thread.startYield_of_quiet serving.quiet
  have stepped := step?_eq_some_iff.mpr ⟨serving.awake, .yields serving.running parked⟩
  rw [yielding] at stepped
  refine ⟨_, stepped, ?_⟩
  exact
    { awake := by simpa using serving.awake
      running := by simp
      quiet := by simpa [CancelStatus.setType] using serving.quiet
      funded := by simpa using serving.funded
      cell := serving.cell }

/-- A call that is about to leave its scope returns. -/
theorem leaves
    {result : Result}
    (serving : world.Serving me call slot budget)
    (leaving : call.phase = .leaving result) :
    ∃ next,
      world.step? me .proceed = some (next, .returned result) ∧
        next.Ready me call.handle slot budget := by
  have stepped := step?_eq_some_iff.mpr ⟨serving.awake, .leaves serving.running leaving⟩
  rw [Thread.finish_of_quiet serving.quiet] at stepped
  refine ⟨_, stepped, ?_⟩
  exact
    { awake := by simpa [Thread.conclude] using serving.awake
      idle := by simp [Thread.conclude]
      quiet := by simpa [Thread.conclude] using serving.quiet
      funded := by simpa [Thread.conclude] using serving.funded
      cell := serving.cell }

/-- A call whose next section is its last one returns. -/
theorem returns
    {result : Result}
    (serving : world.Serving me call slot budget)
    (due : call.phase = .arriving ∨ call.phase = .yielding)
    (finishes : (call.nextSection me slot budget).progress = .finished result) :
    ∃ after,
      world.Returns me .proceed result after ∧
        after.Ready me call.handle
          (call.nextSection me slot budget).slot (call.nextSection me slot budget).budget := by
  obtain ⟨next, visited, serving⟩ := serving.visits due (by simp [finishes])
  obtain ⟨after, left, ready⟩ := serving.leaves (by rw [finishes, Phase.ofProgress])
  exact ⟨after, .later visited (.at_once left), ready⟩

end Serving

end World

/-- A call that is finished by what it comes to alone returns when it runs alone. -/
theorem World.Ready.returns
    {world : World}
    {me : ThreadId}
    {handle : HandleId}
    {slot : Slot}
    {budget : Budget}
    {operation : Operation}
    {result : Result}
    (ready : world.Ready me handle slot budget)
    (accepted : operation.isRefused = false)
    (guarded : Bool)
    (finishes : (operation.alone me slot budget).progress = .finished result) :
    ∃ after,
      world.Returns me (.call handle operation guarded) result after ∧
        after.Ready me handle
          (operation.alone me slot budget).slot (operation.alone me slot budget).budget := by
  obtain ⟨entered, started, serving⟩ := ready.starts accepted guarded
  by_cases parks : (operation.enter me slot budget).progress = .parked
  · have alone :
        operation.alone me slot budget =
          (operation.enter me slot budget).slot.resume me
            (operation.enter me slot budget).budget := by
      simp [Operation.alone, parks]
    rw [alone] at finishes ⊢
    have smooth : (operation.enter me slot budget).progress ≠ .spinning := by
      simp [parks]
    obtain ⟨parked, visited, serving⟩ := serving.visits (.inl rfl) smooth
    obtain ⟨yielding, yielded, serving⟩ := serving.yields (congrArg Phase.ofProgress parks)
    obtain ⟨after, returned, ready⟩ := serving.returns (.inr rfl) finishes
    exact ⟨after, .later started (.later visited (.later yielded returned)), ready⟩
  · have alone : operation.alone me slot budget = operation.enter me slot budget := by
      simp [Operation.alone, parks]
    rw [alone] at finishes ⊢
    obtain ⟨after, returned, ready⟩ := serving.returns (.inl rfl) finishes
    exact ⟨after, .later started returned, ready⟩

/-- A call of lock that is kept out by a record, wherever in its wait loop it stands. -/
def World.Stuck
    (me : ThreadId)
    (handle : HandleId)
    (record : Record)
    (world : World) :
    Prop :=
  ∃ call waiters last budget,
    call.handle = handle ∧
      call.operation = .lock ∧
      (call.phase = .arriving ∨ call.phase = .parked ∨ call.phase = .yielding) ∧
      world.Serving me call (.constructed { record with waiters, lastWaiter := last }) budget

/-- A lock that comes to a record makes one attempt on it, in each of its sections. -/
theorem Call.nextSection_of_lock
    {call : Call}
    (lock : call.operation = .lock)
    (record : Record)
    (me : ThreadId)
    (budget : Budget) :
    ∃ waiters,
      call.nextSection me (.constructed record) budget =
        Slot.attempt { record with waiters } me budget [] := by
  unfold nextSection
  split
  · obtain ⟨waiters, left⟩ := record.leaveWait_eq
    exact ⟨waiters, by rw [Slot.resume, left]⟩
  · exact ⟨record.waiters, by rw [lock]; rfl⟩

namespace World

/-- Only the count of waiters and the last one change while a lock is kept out. -/
theorem Stuck.slot
    {me : ThreadId}
    {handle : HandleId}
    {record : Record}
    {world : World}
    (stuck : world.Stuck me handle record) :
    ∃ waiters last,
      world.slot handle = .constructed { record with waiters, lastWaiter := last } := by
  obtain ⟨call, waiters, last, budget, rfl, -, -, serving⟩ := stuck
  exact ⟨waiters, last, by rw [World.slot, serving.cell]⟩

/-- A lock that is kept out stays in its wait loop. -/
theorem Stuck.step
    {me : ThreadId}
    {handle : HandleId}
    {record : Record}
    {world : World}
    (barred : record.Barred me)
    (stuck : world.Stuck me handle record) :
    ∃ next,
      world.step? me .proceed = some (next, .silent) ∧ next.Stuck me handle record := by
  obtain ⟨call, waiters, last, budget, here, lock, phase, serving⟩ := stuck
  by_cases parked : call.phase = .parked
  · obtain ⟨next, yielded, serving⟩ := serving.yields parked
    exact ⟨next, yielded, { call with phase := .yielding }, waiters, last, budget, here, lock,
      .inr (.inr rfl), serving⟩
  · have due : call.phase = .arriving ∨ call.phase = .yielding := by
      simpa [parked] using phase
    obtain ⟨met, attempts⟩ :=
      Call.nextSection_of_lock lock { record with waiters, lastWaiter := last } me budget
    -- Both sections of the loop are an attempt on a record that still bars the thread.
    rw [Slot.attempt, (barred.withWaiters met last).attempt] at attempts
    have smooth := serving.visits due
    rw [attempts] at smooth
    obtain ⟨next, visited, serving⟩ := smooth (by simp [Slot.progressOf])
    exact ⟨next, visited, { call with phase := .parked }, _, some me, budget, here, lock,
      .inr (.inl rfl), serving⟩

/-- A lock that is kept out when it starts never returns. -/
theorem Ready.waits
    {world : World}
    {me : ThreadId}
    {handle : HandleId}
    {record : Record}
    {budget : Budget}
    (ready : world.Ready me handle (.constructed record) budget)
    (barred : record.Barred me)
    (guarded : Bool) :
    world.Waits me (.call handle .lock guarded) (World.Stuck me handle record) := by
  have accepted : Operation.lock.isRefused = false := rfl
  obtain ⟨entered, started, serving⟩ := ready.starts accepted guarded
  apply Waits.of_invariant
  · exact ⟨entered, started, _, _, _, budget, rfl, rfl, .inl rfl, serving⟩
  · intro earlier stuck
    exact stuck.step barred

/-- A lone call with memory to spare returns its answer, or is a lock that waits for ever. -/
theorem Ready.answered
    {world : World}
    {me : ThreadId}
    {handle : HandleId}
    {slot : Slot}
    {budget : Budget}
    {operation : Operation}
    (ready : world.Ready me handle slot budget)
    (accepted : operation.isRefused = false)
    (coherent : slot.Coherent)
    (funded : slot.needsMemory operation = true → budget.failures = 0)
    (guarded : Bool) :
    (∃ result left after,
        slot.Answers me operation result left ∧
          world.Returns me (.call handle operation guarded) result after ∧
          after.Ready me handle left budget) ∨
      ∃ record,
        operation = .lock ∧
          slot = .constructed record ∧
          record.Barred me ∧
          world.Waits me (.call handle operation guarded) (World.Stuck me handle record) := by
  rcases operation.answers_cases coherent me funded with
    ⟨result, left, ⟨branches, comes⟩, answers⟩ | ⟨rfl, record, rfl, barred⟩
  · have finishes : (operation.alone me slot budget).progress = .finished result := by
      rw [comes]
    obtain ⟨after, returns, ready⟩ := ready.returns accepted guarded finishes
    rw [comes] at ready
    exact .inl ⟨result, left, after, answers, returns, ready⟩
  · exact .inr ⟨record, rfl, rfl, barred, ready.waits barred guarded⟩

end World

end LatchMutex
