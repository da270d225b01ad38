import LatchMutex.Proofs.CallsUnderway
import LatchMutex.Schedule

namespace LatchMutex

/-!
# When a call is canceled

A thread that is asynchronous and enabled when it enters a call is canceled in it
from the moment that its pending flag is up, and in no other call.  The request
may come anywhere in the call: the next yield that would start is the delivery,
and so is the end of the scope, whether the call has succeeded or failed by then.
A yield that is under way when the request comes ends; no other one starts.
-/

namespace Phase

/-- A section ends before the next yield. -/
@[simp] theorem ofProgress_ne_yielding (progress : Progress) :
    ofProgress progress ≠ .yielding := by
  cases progress <;> simp [ofProgress]

/-- A section that is not left spinning brings its call to the next yield or to the end. -/
theorem ofProgress_outside
    {progress : Progress}
    (smooth : progress ≠ .spinning) :
    ofProgress progress = .parked ∨ ∃ result, ofProgress progress = .leaving result := by
  cases progress with
  | finished result =>
      exact .inr ⟨result, rfl⟩
  | parked =>
      exact .inl rfl
  | spinning =>
      exact (smooth rfl).elim

end Phase

namespace World

/-- A thread in the middle of a call that it entered without being unwound. -/
structure Engaged (world : World) (me : ThreadId) (call : Call) : Prop where
  running : (world.thread me).call = some call
  awake : (world.thread me).exited = false
  touched : (world.thread me).touched = true
  /-- Whoever requests the cancellation of the thread finds its cell. -/
  registers : world.Registers
  calm : (world.thread me).unwinding = false

/-- Whether a thread is in the middle of a yield. -/
def isYielding (world : World) (me : ThreadId) : Bool :=
  (world.thread me).call.any fun call => call.phase = .yielding

/-- The call of a thread is canceled and comes to nothing else. -/
structure Honors (asked : World) (me : ThreadId) (handle : HandleId) : Prop where
  /-- Whatever ends the call is the delivery. -/
  delivers :
    ∀ rest later who event ended reply,
      asked.Continues me handle rest later →
      later.step? who event = some (ended, reply) →
      (ended.thread me).call = none →
      who = me ∧
        reply = .canceled ∧
        (ended.thread me).unwinding = true ∧
        (ended.thread me).cancel.pending = false
  /-- A yield that the call is in later is the one that it was in when asked. -/
  yieldless :
    ∀ rest later,
      asked.Continues me handle rest later →
      later.isYielding me = true →
      asked.isYielding me = true ∧ ∀ step ∈ rest, step ≠ (me, .proceed)
  /-- From everywhere in the call, two more steps of its own are enough. -/
  reaches :
    ∀ rest later,
      asked.Continues me handle rest later →
      ∃ turns ended replies,
        turns ≤ 2 ∧
          later.run? (List.replicate turns (me, .proceed)) =
            some (ended, replies ++ [.canceled])

/-- If the call of a thread ends now it returns, and the pending flag stays as it is. -/
def Spares (world : World) (me : ThreadId) : Prop :=
  ∀ who event ended reply,
    world.step? who event = some (ended, reply) →
    (ended.thread me).call = none →
    who = me ∧
      (∃ result, reply = .returned result) ∧
      (ended.thread me).unwinding = false ∧
      (ended.thread me).cancel.pending = (world.thread me).cancel.pending

theorem isYielding_iff {world : World} {me : ThreadId} :
    world.isYielding me = true ↔
      ∃ call, (world.thread me).call = some call ∧ call.phase = .yielding := by
  simp [isYielding, Option.any_eq_true]

namespace Engaged

variable
  {me who : ThreadId} {handle : HandleId} {start : Slot} {world next last ended : World}
  {past run : List (ThreadId × Event)} {call : Call} {event : Event} {reply : Reply}

/-- A thread that gets into a call without being unwound is engaged in it. -/
theorem entered
    (registers : world.Registers)
    (calm : (world.thread me).unwinding = false)
    (idle : (world.thread me).call = none)
    (stepped : world.step? me event = some (next, reply))
    (running : (next.thread me).call = some call) :
    next.Engaged me call ∧
      call.previous = (world.thread me).cancel.type ∧
      (next.thread me).cancel.state = (world.thread me).cancel.state ∧
      (next.thread me).cancel.pending = (world.thread me).cancel.pending := by
  have registersNext := registers.step stepped
  obtain ⟨awake, -, -, -, -, guards, rfl⟩ := enters_cases idle stepped running
  rw [thread_setThread_self] at running
  have same := running
  rw [Thread.start_call, Option.some.injEq] at same
  constructor
  · exact ⟨by rw [thread_setThread_self, running], by simpa [Thread.start] using awake,
      by simp [Thread.start], registersNext, by simpa [Thread.start] using calm⟩
  · rw [← same]
    simp [Thread.start, CancelStatus.enterScope, CancelStatus.setType]

theorem sustained
    {requested : Bool}
    (engaged : world.Engaged me call)
    (sustains : (world.thread me).Sustains (last.thread me) requested)
    (registers : last.Registers) :
    ∃ phase, last.Engaged me { call with phase } := by
  obtain ⟨phase, running⟩ := sustains.call call engaged.running
  exact
    ⟨phase, running, sustains.awake.trans engaged.awake,
      sustains.touched.trans engaged.touched, registers,
      sustains.unwinding.trans engaged.calm⟩

/-- While its call is under way a thread stays engaged in it. -/
theorem later
    (engaged : world.Engaged me call)
    (continues : world.Continues me handle run last) :
    (∃ phase, last.Engaged me { call with phase }) ∧
      (world.thread me).Sustains (last.thread me) (run.any fun step => step.2.requests me) := by
  have sustains := continues.sustains engaged.registers engaged.awake engaged.touched
  obtain ⟨⟨replies, ran⟩, -⟩ := continues.possible
  exact ⟨engaged.sustained sustains (engaged.registers.run ran), sustains⟩

/-- A call ends where its thread would start a yield, or at the end of its scope. -/
theorem ends
    (engaged : world.Engaged me call)
    (stepped : world.step? who event = some (ended, reply))
    (gone : (ended.thread me).call = none) :
    who = me ∧
      ((reply, ended.thread me) = (world.thread me).startYield call ∨
        ∃ result, (reply, ended.thread me) = (world.thread me).finish call result) := by
  have mine : who = me := by
    by_contra other
    rw [step?_call_of_ne stepped (Ne.symm other), engaged.running] at gone
    contradiction
  subst mine
  refine ⟨rfl, ?_⟩
  have running := engaged.running
  cases (step?_eq_some_iff.mp stepped).2 with
  | idle free =>
      simp [running] at free
  | visits found due =>
      simp [afterVisit] at gone
  | yields found parked =>
      cases running.symm.trans found
      left
      simp only [thread_counters, thread_setThread_self]
  | @leaves leaver result found leaving =>
      cases running.symm.trans found
      right
      exact ⟨result, by rw [thread_setThread_self]⟩
  | spins found | waits found =>
      simp [running] at gone
  | givesUp found =>
      simp at gone
  | waitsAgain found =>
      simp [running] at gone

/-- Nothing but a delivery ends a call that is due to be canceled. -/
theorem ends_canceled
    (engaged : world.Engaged me call)
    (due : (world.thread me).isDue call = true)
    (stepped : world.step? who event = some (ended, reply))
    (gone : (ended.thread me).call = none) :
    who = me ∧
      reply = .canceled ∧
      (ended.thread me).unwinding = true ∧
      (ended.thread me).cancel.pending = false := by
  obtain ⟨mine, endedSo⟩ := engaged.ends stepped gone
  have delivered :
      (reply, ended.thread me) =
        (.canceled,
          (world.thread me).unwind
            { (world.thread me).cancel with type := call.previous, pending := false }) := by
    rcases endedSo with yields | ⟨result, leaves⟩
    · rw [yields, Thread.startYield_of_due due]
    · rw [leaves, Thread.finish_of_due engaged.calm due]
  rw [Prod.mk.injEq] at delivered
  refine ⟨mine, delivered.1, ?_⟩
  rw [delivered.2]
  exact ⟨rfl, rfl⟩

/-- A call that is not due to be canceled returns where it ends. -/
theorem spares
    (engaged : world.Engaged me call)
    (quiet : (world.thread me).isDue call = false) :
    world.Spares me := by
  intro who event ended reply stepped gone
  obtain ⟨mine, yields | ⟨result, leaves⟩⟩ := engaged.ends stepped gone
  · obtain ⟨type, started⟩ := Thread.startYield_of_quiet quiet
    rw [started, Prod.mk.injEq] at yields
    simp [yields.2] at gone
  · rw [Thread.finish_of_quiet quiet, Prod.mk.injEq] at leaves
    refine ⟨mine, ⟨result, leaves.1⟩, ?_⟩
    rw [leaves.2]
    exact ⟨engaged.calm, rfl⟩

/-- A call that is due to be canceled stays so. -/
theorem due_later
    {requested : Bool}
    (due : (world.thread me).isDue call = true)
    (sustains : (world.thread me).Sustains (last.thread me) requested) :
    (last.thread me).isDue call = true := by
  obtain ⟨asynchronous, enabled, pending⟩ := Thread.isDue_iff.mp due
  refine Thread.isDue_iff.mpr ⟨asynchronous, by rw [sustains.state, enabled], ?_⟩
  rw [sustains.pending, pending, Bool.true_or]

/-- No step starts a yield of a call that is due to be canceled. -/
theorem yielding_before
    (engaged : world.Engaged me call)
    (due : (world.thread me).isDue call = true)
    (stepped : world.step? who event = some (next, reply))
    (yielding : next.isYielding me = true) :
    world.isYielding me = true ∧ (who, event) ≠ (me, .proceed) := by
  rw [isYielding_iff] at yielding ⊢
  obtain ⟨now, runningNow, yieldingNow⟩ := yielding
  have running := engaged.running
  by_cases mine : me = who
  · subst mine
    cases (step?_eq_some_iff.mp stepped).2 with
    | idle free =>
        simp [running] at free
    | visits found phase =>
        simp only [afterVisit, thread_counters, thread_setThread_self,
          Option.some.injEq] at runningNow
        simp [← runningNow] at yieldingNow
    | yields found parked =>
        cases running.symm.trans found
        simp only [thread_counters, thread_setThread_self,
          Thread.startYield_of_due due] at runningNow
        contradiction
    | spins found spinning =>
        cases runningNow.symm.trans found
        simp [spinning] at yieldingNow
    | leaves found leaving =>
        simp at runningNow
    | givesUp found arriving single =>
        simp only [thread_counters, thread_setThread_self, Option.some.injEq] at runningNow
        simp [← runningNow] at yieldingNow
    | waits found arriving blocking =>
        cases runningNow.symm.trans found
        simp [arriving] at yieldingNow
    | waitsAgain found phase =>
        exact ⟨⟨call, running, by cases running.symm.trans found; exact phase⟩, by simp⟩
  · rw [step?_call_of_ne stepped mine] at runningNow
    refine ⟨⟨now, runningNow, yieldingNow⟩, ?_⟩
    intro same
    exact mine (congrArg Prod.fst same).symm

/-- A yield of a call that is due to be canceled is one that the call was in all along. -/
theorem yieldless
    (engaged : world.Engaged me call)
    (due : (world.thread me).isDue call = true)
    (continues : world.Continues me handle run last)
    (yielding : last.isYielding me = true) :
    world.isYielding me = true ∧ ∀ step ∈ run, step ≠ (me, .proceed) := by
  induction continues generalizing call with
  | nil underway =>
      exact ⟨yielding, by simp⟩
  | @cons world next last who event reply rest underway stepped kept tail inductionHypothesis =>
      have single : world.Continues me handle [(who, event)] next :=
        .cons underway stepped kept (.nil tail.underway_first)
      obtain ⟨⟨phase, engagedNext⟩, sustains⟩ := engaged.later single
      have dueNext : (next.thread me).isDue { call with phase } = true :=
        due_later due sustains
      obtain ⟨yieldingNext, idleLater⟩ := inductionHypothesis engagedNext dueNext yielding
      obtain ⟨yieldingNow, idleNow⟩ := engaged.yielding_before due stepped yieldingNext
      exact ⟨yieldingNow, List.forall_mem_cons.mpr ⟨idleNow, idleLater⟩⟩

/-- The next step of its own cancels a call that is due and out of its sections. -/
theorem canceled_next
    (engaged : world.Engaged me call)
    (due : (world.thread me).isDue call = true)
    (outside : call.phase = .parked ∨ ∃ result, call.phase = .leaving result) :
    ∃ ended, world.step? me .proceed = some (ended, .canceled) := by
  rcases outside with parked | ⟨result, leaving⟩
  · have stepped := step?_eq_some_iff.mpr ⟨engaged.awake, .yields engaged.running parked⟩
    rw [Thread.startYield_of_due due] at stepped
    exact ⟨_, stepped⟩
  · have stepped := step?_eq_some_iff.mpr ⟨engaged.awake, .leaves engaged.running leaving⟩
    rw [Thread.finish_of_due engaged.calm due] at stepped
    exact ⟨_, stepped⟩

/-- In a course, a call that is due to be canceled gets there in two steps of its own. -/
theorem canceled_soon
    {visits : List Visit}
    (engaged : world.Engaged me call)
    (course : Course handle start past world)
    (here : call.handle = handle)
    (reached : Call.Reached call.operation call.phase visits)
    (due : (world.thread me).isDue call = true) :
    ∃ turns ended replies,
      turns ≤ 2 ∧
        world.run? (List.replicate turns (me, .proceed)) =
          some (ended, replies ++ [.canceled]) := by
  by_cases outside : call.phase = .parked ∨ ∃ result, call.phase = .leaving result
  · obtain ⟨ended, stepped⟩ := engaged.canceled_next due outside
    exact ⟨1, ended, [], by simp, run?_cons.mpr ⟨ended, _, [], stepped, rfl, rfl⟩⟩
  · -- The call has a section to run, and is out of it then.
    have inside : call.phase = .arriving ∨ call.phase = .yielding := by
      generalize call.phase = phase at outside reached
      cases reached <;> simp_all
    have unlatched : (world.cells.get call.handle).holder = none := by
      rw [here, course.latch_free]
    have stepped :=
      step?_eq_some_iff.mpr ⟨engaged.awake, .visits engaged.running inside unlatched⟩
    have visited : world.visit? me .proceed handle = some (world.visitOf me call) :=
      visit?_eq_some_iff.mpr ⟨rfl, call, engaged.running, here, inside, rfl⟩
    have sustains := sustains_of_own engaged.running stepped (by simp [afterVisit])
    obtain ⟨phase, engagedNext⟩ :=
      engaged.sustained sustains (engaged.registers.step stepped)
    have samePhase : phase = .ofProgress (world.visitOf me call).done.progress := by
      simpa [afterVisit, eq_comm] using engagedNext.running
    have outsideNext : phase = .parked ∨ ∃ result, phase = .leaving result := by
      rw [samePhase]
      exact Phase.ofProgress_outside (course.smooth visited)
    have dueNext :
        ((world.afterVisit me call).thread me).isDue { call with phase } = true :=
      due_later due sustains
    obtain ⟨ended, ends⟩ := engagedNext.canceled_next dueNext outsideNext
    refine ⟨2, ended, [.silent], by simp, ?_⟩
    exact
      run?_cons.mpr
        ⟨_, _, [.canceled], stepped, run?_cons.mpr ⟨ended, _, [], ends, rfl, rfl⟩, rfl⟩

end Engaged

end World

/--
A thread that is not being unwound gets into a call on the handle, and whatever
all threads do then comes to some point in the middle of the call.  The pending
flag is up there if it was before or has been asked for since.  If it is up, and
the thread was asynchronous and enabled when it got in, then from there on the
call is canceled, without another yield and in two steps of its own.  If not, and
the call ends there, then it returns and leaves the flag as it is.
-/
theorem Course.canceled_exactly
    {handle : HandleId}
    {start : Slot}
    {past run : List (ThreadId × Event)}
    {world entered asked : World}
    {me : ThreadId}
    {event : Event}
    {reply : Reply}
    {call : Call}
    (course : Course handle start past world)
    (calm : (world.thread me).unwinding = false)
    (idle : (world.thread me).call = none)
    (stepped : world.step? me event = some (entered, reply))
    (running : (entered.thread me).call = some call)
    (here : call.handle = handle)
    (continues : entered.Continues me handle run asked) :
    (asked.thread me).cancel.pending =
        ((world.thread me).cancel.pending || run.any fun step => step.2.requests me) ∧
      ((world.thread me).cancel.type = .asynchronous ∧
          (world.thread me).cancel.state = .enabled ∧
          (asked.thread me).cancel.pending = true →
        asked.Honors me handle) ∧
      ((world.thread me).cancel.type = .deferred ∨
          (world.thread me).cancel.state = .disabled ∨
          (asked.thread me).cancel.pending = false →
        asked.Spares me) := by
  obtain ⟨engaged, previous, state, pending⟩ :=
    World.Engaged.entered course.registers calm idle stepped running
  obtain ⟨⟨phase, engagedAsked⟩, sustains⟩ := engaged.later continues
  -- The call is due at this point exactly where the statement says that it is canceled.
  have dueIff :
      (asked.thread me).isDue { call with phase } = true ↔
        (world.thread me).cancel.type = .asynchronous ∧
          (world.thread me).cancel.state = .enabled ∧
          (asked.thread me).cancel.pending = true := by
    simp only [Thread.isDue_iff, previous, sustains.state, state]
  refine ⟨by rw [sustains.pending, pending], ?_, ?_⟩
  · intro honored
    have due := dueIff.mpr honored
    refine ⟨?_, ?_, ?_⟩
    · intro rest later who event ended reply onward stepped gone
      obtain ⟨⟨laterPhase, engagedLater⟩, sustainsLater⟩ := engagedAsked.later onward
      exact engagedLater.ends_canceled (World.Engaged.due_later due sustainsLater) stepped gone
    · intro rest later onward yielding
      exact engagedAsked.yieldless due onward yielding
    · intro rest later onward
      obtain ⟨⟨laterPhase, engagedLater⟩, sustainsLater⟩ := engagedAsked.later onward
      obtain ⟨courseLater, reachedPhase, runningLater, reached⟩ :=
        course.reached idle stepped running here (continues.append onward)
      have same : reachedPhase = laterPhase := by
        rw [engagedLater.running] at runningLater
        simpa [eq_comm] using runningLater
      rw [same] at reached
      exact engagedLater.canceled_soon courseLater here reached
        (World.Engaged.due_later due sustainsLater)
  · intro spared
    apply engagedAsked.spares
    rw [← Bool.not_eq_true, dueIff]
    rcases spared with deferred | disabled | unasked
    · simp [deferred]
    · simp [disabled]
    · simp [unasked]

/-- Thread 0 has taken a sentinel, and thread 1 has become asynchronous and handed out a handle. -/
def heldBeforeAsynchronous : List (ThreadId × Event) :=
  [(⟨0⟩, .call ⟨0⟩ .lock false), (⟨0⟩, .proceed), (⟨0⟩, .proceed),
    (⟨1⟩, .setType .asynchronous), (⟨1⟩, .makeHandle)]

/-- Thread 1 parks behind thread 0, which asks it to cancel. -/
def parkedThenAsked : List (ThreadId × Event) :=
  [(⟨1⟩, .proceed), (⟨0⟩, .request ⟨1⟩)]

theorem Course.canceled_exactly_parkedThenAsked :
    ∃ world entered asked,
      Course ⟨0⟩ .sentinel heldBeforeAsynchronous world ∧
        world.step? ⟨1⟩ (.call ⟨0⟩ .lock false) = some (entered, .silent) ∧
        entered.Continues ⟨1⟩ ⟨0⟩ parkedThenAsked asked ∧
        asked.isParked ⟨1⟩ = true ∧
        asked.Honors ⟨1⟩ ⟨0⟩ := by
  have course : Course ⟨0⟩ .sentinel heldBeforeAsynchronous _ :=
    Course.of_isSome (by simp) (by decide) (by decide)
  generalize worldIs :
    (((World.opening ⟨0⟩ .sentinel).run? heldBeforeAsynchronous).get _).1 = world at course
  have calm : (world.thread ⟨1⟩).unwinding = false ∧ (world.thread ⟨1⟩).call = none := by
    rw [← worldIs]
    decide
  have posture :
      (world.thread ⟨1⟩).cancel.type = .asynchronous ∧
        (world.thread ⟨1⟩).cancel.state = .enabled := by
    rw [← worldIs]
    decide
  let entered := world.setThread ⟨1⟩ ((world.thread ⟨1⟩).start ⟨0⟩ .lock false)
  have stepped : world.step? ⟨1⟩ (.call ⟨0⟩ .lock false) = some (entered, .silent) := by
    have awake : (world.thread ⟨1⟩).exited = false := by
      rw [← worldIs]
      decide
    exact World.step?_eq_some_iff.mpr ⟨awake, .idle calm.2 rfl⟩
  have asks :
      ((entered.run? parkedThenAsked).any fun asked =>
        asked.1.isParked ⟨1⟩ ∧ (asked.1.thread ⟨1⟩).cancel.pending) = true := by
    simp only [entered, ← worldIs]
    decide
  simp only [Option.any_eq_true, decide_eq_true_eq, Prod.exists] at asks
  obtain ⟨asked, replies, ran, parked, pending⟩ := asks
  have underway : (asked.thread ⟨1⟩).call ≠ none := by
    intro free
    simp [World.isParked, free] at parked
  have continues : entered.Continues ⟨1⟩ ⟨0⟩ parkedThenAsked asked :=
    .of_run? ran (by decide) (by decide) underway
  have running : (entered.thread ⟨1⟩).call = some _ :=
    congrArg Thread.call (World.thread_setThread_self _ _ _)
  have answered := course.canceled_exactly calm.1 calm.2 stepped running rfl continues
  exact ⟨world, entered, asked, course, stepped, continues, parked,
    answered.2.1 ⟨posture.1, posture.2, pending⟩⟩

end LatchMutex
