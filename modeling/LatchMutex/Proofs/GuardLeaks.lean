import LatchMutex.Proofs.GuardedCalls

namespace LatchMutex

/-!
# Guards against acquisitions

The counter of a record says how many unlocks its owner still has to make.  A thread
that takes a mutex through guards only has that many guards on it, or is about to
get or to drop one, or has lost some: a guard that was forgotten, or an acquisition
that was stranded by a cancellation.  The bound holds at every depth, since
a counter that wraps around asks for fewer unlocks and not for more.
-/

/-- Unlocks that a record asks of a thread. -/
def Record.debt (record : Record) (me : ThreadId) : Nat :=
  if record.owner = some me then record.lockIndex.toUInt32.toNat + 1 else 0

/-- Unlocks that a slot asks of a thread. -/
def Slot.debt (slot : Slot) (me : ThreadId) : Nat :=
  match slot with
  | .empty | .sentinel => 0
  | .constructed record => record.debt me

namespace Record

variable {record : Record} {me : ThreadId}

theorem debt_of_ne (other : record.owner ≠ some me) : record.debt me = 0 :=
  if_neg other

/-- One acquisition more asks for one unlock more at most. -/
theorem debt_take_le (owned : record.owner = some me) (waiters : UInt32) :
    { record.claim.take me with waiters }.debt me ≤ record.debt me + 1 := by
  have raised : record.claim.lockIndex.toUInt32 = record.lockIndex.toUInt32 + 1 :=
    Int32.toUInt32_add _ _
  change (if some me = some me then record.claim.lockIndex.toUInt32.toNat + 1 else 0) ≤ _
  rw [debt, if_pos rfl, if_pos owned, raised, UInt32.toNat_add]
  exact Nat.succ_le_succ (Nat.mod_le _ _)

/-- The first acquisition asks for one unlock. -/
theorem debt_take_of_free (free : record.lockIndex = unlocked) (waiters : UInt32) :
    { record.claim.take me with waiters }.debt me = 1 := by
  have zero : record.claim.lockIndex = 0 := by
    rw [claim, free]
    rfl
  change (if some me = some me then record.claim.lockIndex.toUInt32.toNat + 1 else 0) = _
  rw [if_pos rfl, zero]
  rfl

/-- An owner that gives one of its acquisitions back has one unlock less to make. -/
theorem debt_unclaim (owned : record.owner = some me) (nested : record.lockIndex ≠ 0) :
    record.unclaim.debt me = record.debt me - 1 := by
  have lowered : record.unclaim.lockIndex.toUInt32 = record.lockIndex.toUInt32 - 1 :=
    Int32.toUInt32_sub _ _
  have nonzero : record.lockIndex.toUInt32.toNat ≠ 0 := by
    intro zero
    exact nested (Int32.toBitVec.inj (congrArg UInt32.toBitVec (UInt32.toNat.inj zero)))
  have positive : 1 ≤ record.lockIndex.toUInt32 :=
    UInt32.le_iff_toNat_le.mpr (Nat.one_le_iff_ne_zero.mpr nonzero)
  change (if record.owner = some me then record.unclaim.lockIndex.toUInt32.toNat + 1 else 0) = _
  rw [debt, if_pos owned, if_pos owned, lowered, UInt32.toNat_sub_of_le _ _ positive]
  change _ - 1 + 1 = _
  omega

/-- An unlock of the thread makes up for one of those asked for. -/
theorem debt_release_le (record : Record) (me : ThreadId) :
    (record.release me).2.debt me ≤ record.debt me - 1 := by
  by_cases owned : record.owner = some me
  · by_cases nested : record.kind.isRecursive = true ∧ record.lockIndex ≠ 0
    · rw [release_of_nested owned nested.1 nested.2, debt_unclaim owned nested.2]
    · rw [release_of_outermost owned (by simpa using nested), debt_of_ne (by simp [unclaim])]
      exact Nat.zero_le _
  · rw [release_of_stranger owned, debt_of_ne owned]

end Record

namespace Visit

variable {visit : Visit} {me : ThreadId}

/-- A section asks a thread for one unlock more at most, where the thread acquires. -/
theorem debt_done_le (admitted : visit.Admitted) (lowered : visit.slot.Lowered) :
    visit.done.slot.debt me ≤
      visit.slot.debt me + if visit.thread = me ∧ visit.deed = .acquires then 1 else 0 := by
  have leaves := leaves_of_lowered admitted lowered
  generalize visit.deed = deed at leaves
  generalize visit.done.slot = left at leaves
  cases leaves with
  | keeps =>
      exact Nat.le_add_right _ _
  | empties | declares =>
      exact Nat.zero_le _
  | creates attributes processPrivate =>
      rw [Slot.debt, Record.debt_of_ne (by simp [Record.fresh])]
      exact Nat.zero_le _
  | takes waiters offers free =>
      by_cases mine : visit.thread = me
      · subst mine
        rw [Slot.debt, Record.debt_take_of_free free, if_pos ⟨rfl, rfl⟩]
        exact Nat.le_add_left _ _
      · rw [Slot.debt, Record.debt_of_ne (by simpa [Record.take] using mine)]
        exact Nat.zero_le _
  | relocks waiters finds held owned recursive uncounted =>
      by_cases mine : visit.thread = me
      · subst mine
        rw [finds, if_pos ⟨rfl, rfl⟩]
        exact Record.debt_take_le owned waiters
      · rw [Slot.debt, Record.debt_of_ne (by simpa [Record.take] using mine)]
        exact Nat.zero_le _
  | @parks record finds lock =>
      obtain ⟨waiters, meets, -⟩ := visit.meets_eq record
      rw [finds, meets]
      exact Nat.le_add_right _ _
  | refuses waiters finds owned checked uncounted =>
      rw [finds]
      exact Nat.le_add_right _ _
  | @unlocks record finds owned recursive nested =>
      rw [finds]
      by_cases mine : visit.thread = me
      · rw [mine] at owned
        simp only [Slot.debt, Record.debt_unclaim owned nested]
        omega
      · rw [Slot.debt, Record.debt_of_ne (by simpa [Record.unclaim, owned] using mine)]
        exact Nat.zero_le _
  | frees finds owned outermost =>
      rw [Slot.debt, Record.debt_of_ne (by simp [Record.unclaim])]
      exact Nat.zero_le _

/-- An unlock of a thread makes up for one of the unlocks that are asked of it. -/
theorem debt_done_of_unlock (admitted : visit.Admitted) (unlock : visit.operation = .unlock) :
    visit.done.slot.debt visit.thread ≤ visit.slot.debt visit.thread - 1 := by
  rw [done_of_ne_lock admitted (by simp [unlock]), unlock, Operation.enter, Operation.plain]
  cases visit.slot with
  | empty | sentinel =>
      exact Nat.zero_le _
  | constructed record =>
      exact record.debt_release_le visit.thread

/-- Only a lock or a try-lock that is successful acquires. -/
theorem of_acquires (acquires : visit.deed = .acquires) :
    visit.operation.isAcquiring = true ∧
      ∃ answer, visit.done.progress = .finished (.ok answer) := by
  unfold deed at acquires
  split at acquires <;> simp_all [Operation.isAcquiring]

end Visit

/-- Unlocks that a call stands for: its own, or the one of the guard it is about to get. -/
def Call.cover (call : Call) (handle : HandleId) : Nat :=
  if
    call.handle = handle ∧ call.operation = .unlock ∧ call.phase = .arriving ∨
      call.hasTaken handle
  then
    1
  else
    0

/-- Unlocks that a thread has guards for, or a call. -/
def Thread.cover (thread : Thread) (handle : HandleId) : Nat :=
  thread.guards.count handle + thread.call.elim 0 fun call => call.cover handle

/-- Whether a step asks for a guard if it asks for the mutex of the handle. -/
def Event.isGuarded (handle : HandleId) : Event → Bool
  | .call target operation guarded => target = handle → operation.isAcquiring → guarded
  | _ => true

/-- Whether a step of a thread leaves an acquisition without a guard. -/
def World.loses
    (world : World)
    (me : ThreadId)
    (handle : HandleId)
    (event : Event)
    (reply : Reply) :
    Bool :=
  world.strands me handle reply ∨
    event = .forgetGuard ∧ (world.thread me).guards.head? = some handle

/-- How many acquisitions a thread leaves without a guard along a run. -/
def World.losses (me : ThreadId) (handle : HandleId) : World → List (ThreadId × Event) → Nat
  | _, [] => 0
  | world, (who, event) :: rest =>
      match world.step? who event with
      | none => 0
      | some (next, reply) =>
          (if who = me ∧ world.loses me handle event reply then 1 else 0) +
            next.losses me handle rest

namespace Call

variable {call : Call} {handle : HandleId}

theorem cover_of_ne (elsewhere : call.handle ≠ handle) : call.cover handle = 0 := by
  simp [cover, hasTaken, elsewhere]

theorem cover_of_parked (parked : call.phase = .parked) : call.cover handle = 0 := by
  simp [cover, hasTaken, parked, Phase.hasTaken]

theorem cover_of_leaving {result : Result} (leaving : call.phase = .leaving result) :
    call.cover handle = if call.hasTaken handle then 1 else 0 := by
  simp [cover, leaving]

end Call

namespace Thread

variable {thread : Thread} {handle : HandleId} {call : Call}

/-- Without one guard of a list there is one guard less on its handle. -/
theorem count_eraseIdx
    {guards : List HandleId}
    {position : Nat}
    {target : HandleId}
    (held : guards[position]? = some target) :
    guards.count handle =
      (guards.eraseIdx position).count handle + if target = handle then 1 else 0 := by
  obtain ⟨bound, found⟩ := List.getElem?_eq_some_iff.mp held
  rw [← (List.getElem_cons_eraseIdx_perm bound).count_eq, found, List.count_cons]
  simp

theorem cover_of_idle (free : thread.call = none) :
    thread.cover handle = thread.guards.count handle := by
  simp [cover, free]

theorem cover_of_call (running : thread.call = some call) :
    thread.cover handle = thread.guards.count handle + call.cover handle := by
  simp [cover, running]

/-- What a call has taken is handed over as a guard where it ends, or stranded. -/
theorem count_finish
    {result : Result}
    (thread : Thread)
    (leaving : call.phase = .leaving result)
    (guarded : call.hasTaken handle = true → call.guarded = true) :
    (thread.guards.count handle + if call.hasTaken handle then 1 else 0) ≤
      (thread.finish call result).2.guards.count handle +
        if (thread.finish call result).1 = .canceled ∧ call.hasTaken handle then 1 else 0 := by
  cases taken : call.hasTaken handle with
  | false =>
      rcases thread.finish_guards call result with ⟨-, guards⟩ | ⟨-, guards⟩
      · simp [guards]
      · simp only [guards, Bool.false_eq_true, ↓reduceIte, and_false, Nat.add_zero]
        split
        · exact List.count_le_count_cons
        · exact Nat.le_refl _
  | true =>
      rcases thread.finish_guards call result with ⟨canceled, guards⟩ | ⟨-, guards⟩
      · simp [canceled, guards]
      · obtain ⟨rfl, -, success⟩ : call.handle = handle ∧ _ ∧ _ := by
          simpa [Call.hasTaken] using taken
        have ok : result.toBool = true := by
          rw [leaving] at success
          cases result with
          | error fault => contradiction
          | ok answer => rfl
        simp [guards, guarded taken, ok]

/-- What a step of a thread without a call does to its guards. -/
inductive Disposes (thread : Thread) : Event → Thread → Prop where
  | calls
      {after : Thread} {target : HandleId} {operation : Operation} {guarded : Bool}
      (guards : after.guards = thread.guards)
      (running :
        after.call =
          some
            { handle := target
              operation, guarded
              previous := thread.cancel.type
              phase := .arriving }) :
      Disposes thread (.call target operation guarded) after
  | drops
      {after : Thread} {target : HandleId} {position : Nat}
      (held : thread.guards[position]? = some target)
      (guards : after.guards = thread.guards.eraseIdx position)
      (running :
        after.call =
          some
            { handle := target
              operation := .unlock
              guarded := false
              previous := thread.cancel.type
              phase := .arriving }) :
      Disposes thread (.dropGuard position) after
  | forgets
      {after : Thread} {target : HandleId}
      (guards : thread.guards = target :: after.guards)
      (idle : after.call = none) :
      Disposes thread .forgetGuard after
  | keeps
      {event : Event} {after : Thread}
      (guards : after.guards = thread.guards)
      (idle : after.call = none) :
      Disposes thread event after

/-- A test of its own leaves the guards alone. -/
@[simp] theorem afterTest_guards (thread : Thread) (tested : Bool × CancelStatus) :
    (thread.afterTest tested).2.guards = thread.guards := by
  obtain ⟨delivered, cancel⟩ := tested
  cases delivered <;> rfl

/-- A step on scopes, windows and cancel status at most forgets a guard. -/
theorem step?_disposes
    {after : Thread}
    {event : Event}
    {reply : Reply}
    (free : thread.call = none)
    (stepped : thread.step? event = some (reply, after)) :
    thread.Disposes event after := by
  have idle := step?_call free stepped
  cases step?_acts stepped with
  | forgets held =>
      exact .forgets held idle
  | tests | leavesScope | yields =>
      exact .keeps (by simp) idle
  | _ =>
      exact .keeps rfl idle

end Thread

namespace World

variable
  {me who : ThreadId} {handle : HandleId} {world next last : World} {event : Event}
  {reply : Reply} {lost : Nat}

theorem stepIdle?_disposes
    (free : (world.thread me).call = none)
    (stepped : world.stepIdle? me event = some (next, reply)) :
    (world.thread me).Disposes event (next.thread me) := by
  cases stepIdle?_idles stepped with
  | refuses | misses | places | resets =>
      exact .keeps rfl free
  | calls =>
      rw [thread_setThread_self]
      exact .calls rfl rfl
  | drops held =>
      rw [thread_setThread_self]
      exact .drops held rfl rfl
  | sharesHandle =>
      rw [thread_shareHandle, thread_setThread_self]
      exact .keeps rfl free
  | @requests target | @requestsById target =>
      obtain ⟨pending, raised⟩ := world.thread_raisePending target me
      rw [raised]
      exact .keeps rfl free
  | acts own =>
      rw [thread_setThread_self]
      exact Thread.step?_disposes free own

/-- A step that is no section on the handle covers as much as before, but for what it loses. -/
theorem cover_le_of_unvisited
    (guarded :
      ∀ call, (world.thread me).call = some call → call.hasTaken handle = true →
        call.guarded = true)
    (stepped : world.step? me event = some (next, reply))
    (unvisited : world.visit? me event handle = none) :
    (world.thread me).cover handle ≤
      (next.thread me).cover handle + if world.loses me handle event reply then 1 else 0 := by
  have kept (guards : (next.thread me).guards = (world.thread me).guards) :
      (world.thread me).guards.count handle ≤
        (next.thread me).cover handle + if world.loses me handle event reply then 1 else 0 := by
    rw [← guards]
    exact Nat.le_add_right_of_le (Nat.le_add_right _ _)
  cases (step?_eq_some_iff.mp stepped).2 with
  | idle free stepped =>
      rw [Thread.cover_of_idle free]
      have disposes := stepIdle?_disposes free stepped
      generalize next.thread me = after at disposes kept
      cases disposes with
      | calls guards | keeps guards =>
          exact kept guards
      | @drops _ target position held guards running =>
          rw [Thread.cover_of_call running, guards, Thread.count_eraseIdx held]
          by_cases here : target = handle
          · simp [Call.cover, here]
          · simp [here, Nat.add_assoc]
      | @forgets _ target guards idle =>
          rw [Thread.cover_of_idle idle, guards, List.count_cons]
          by_cases here : target = handle
          · simp [loses, guards, here]
          · simp [here]
  | @visits call running due unlatched =>
      have elsewhere : call.handle ≠ handle := by
        intro here
        simp [visit?, running, here, due] at unvisited
      rw [Thread.cover_of_call running, Call.cover_of_ne elsewhere]
      exact kept (by simp [afterVisit])
  | @yields call running parked =>
      rw [Thread.cover_of_call running, Call.cover_of_parked parked]
      exact kept (by simp)
  | @leaves call result running leaving =>
      have loses : world.loses me handle .proceed ((world.thread me).finish call result).1 =
          decide (((world.thread me).finish call result).1 = .canceled ∧ call.hasTaken handle) := by
        simp [loses, strands, running]
      rw [Thread.cover_of_call running, Call.cover_of_leaving leaving,
        Thread.cover_of_idle (by simp), thread_setThread_self, loses]
      simpa using Thread.count_finish (world.thread me) leaving (guarded call running)
  | @givesUp call running arriving single =>
      have uncovered : call.cover handle = 0 := by
        simp [Call.cover, Call.hasTaken, arriving, single, Phase.hasTaken]
      rw [Thread.cover_of_call running, uncovered]
      exact kept (by simp)
  | spins | waits =>
      exact Nat.le_add_right _ _
  | waitsAgain =>
      simp [Thread.cover]

/-- A section on the handle asks for what its call covers from then on, and no more than before. -/
theorem debt_le_of_visited
    {visit : Visit}
    (admitted : world.CallsAdmitted)
    (lowered : (world.slot handle).Lowered)
    (stepped : world.step? me event = some (next, reply))
    (visits : world.visit? me event handle = some visit)
    (covered : (world.slot handle).debt me ≤ (world.thread me).cover handle + lost) :
    visit.done.slot.debt me ≤ (next.thread me).cover handle + lost := by
  have letIn := visit?_admitted admitted visits
  have found := visit?_slot visits
  have mine := visit?_thread visits
  obtain ⟨call, running, here, due, visitIs, nextIs, -⟩ := step?_of_visit stepped visits
  have after :
      (next.thread me).guards = (world.thread me).guards ∧
        (next.thread me).call =
          some { call with phase := .ofProgress visit.done.progress } := by
    rw [nextIs, visitIs]
    simp [afterVisit]
  rw [← found, Thread.cover_of_call running] at covered
  rw [Thread.cover_of_call after.2, after.1]
  by_cases unlock : call.operation = .unlock
  · -- The unlock that the call has stood for is made now.
    have paid := Visit.debt_done_of_unlock letIn (by rw [visitIs]; exact unlock)
    have arriving : call.phase = .arriving := by
      rcases due with arriving | yielding
      · exact arriving
      · have lock := letIn.onlyLocksResume (by simp [visitIs, visitOf, yielding])
        simp [visitIs, visitOf, unlock] at lock
    have stands : call.cover handle = 1 := by
      simp [Call.cover, here, unlock, arriving]
    rw [mine] at paid
    omega
  · have uncovered : call.cover handle = 0 := by
      rcases due with arriving | yielding
      · simp [Call.cover, Call.hasTaken, unlock, arriving, Phase.hasTaken]
      · simp [Call.cover, Call.hasTaken, unlock, yielding, Phase.hasTaken]
    have grown :
        visit.done.slot.debt me ≤
          visit.slot.debt me + if visit.thread = me ∧ visit.deed = .acquires then 1 else 0 :=
      Visit.debt_done_le letIn (by rwa [found])
    by_cases acquires : visit.deed = .acquires
    · obtain ⟨acquiring, answer, progress⟩ := Visit.of_acquires acquires
      have stands :
          { call with phase := .ofProgress visit.done.progress }.cover handle = 1 := by
        rw [visitIs] at acquiring
        simp [Call.cover, Call.hasTaken, here, progress, Phase.ofProgress, Phase.hasTaken,
          show call.operation.isAcquiring = true from acquiring]
      rw [if_pos ⟨mine, acquires⟩] at grown
      omega
    · rw [if_neg (by simp [acquires])] at grown
      omega

/-- A thread that goes through guards has one for every unlock asked of it, but for those lost. -/
structure Backed (world : World) (me : ThreadId) (handle : HandleId) (lost : Nat) : Prop where
  covered : (world.slot handle).debt me ≤ (world.thread me).cover handle + lost
  guarded :
    ∀ call,
      (world.thread me).call = some call →
      call.handle = handle →
      call.operation.isAcquiring = true →
      call.guarded = true

namespace Backed

/-- A thread gets into no call on the handle but for a guard, and keeps to the one that it is in. -/
theorem guarded_step
    (backed : world.Backed me handle lost)
    (stepped : world.step? who event = some (next, reply))
    (asks : who = me → event.isGuarded handle = true) :
    ∀ call,
      (next.thread me).call = some call →
      call.handle = handle →
      call.operation.isAcquiring = true →
      call.guarded = true := by
  intro call running here acquiring
  by_cases mine : who = me
  · subst mine
    cases before : (world.thread who).call with
    | some earlier =>
        have sustains := sustains_of_own before stepped (by simp [running])
        obtain ⟨phase, runningToo⟩ := sustains.call earlier before
        cases running.symm.trans runningToo
        exact backed.guarded earlier before here acquiring
    | none =>
        cases (step?_eq_some_iff.mp stepped).2 with
        | idle free stepped =>
            have disposes := stepIdle?_disposes free stepped
            generalize next.thread who = after at disposes running
            cases disposes with
            | calls guards called =>
                cases running.symm.trans called
                dsimp only at here acquiring
                simpa [Event.isGuarded, here, acquiring] using asks rfl
            | drops held guards called =>
                cases running.symm.trans called
                contradiction
            | forgets guards idle | keeps guards idle =>
                simp [idle] at running
        | _ busy =>
            simp [before] at busy
  · rw [step?_call_of_ne stepped (Ne.symm mine)] at running
    exact backed.guarded call running here acquiring

/-- Any step keeps a thread backed, at the price of what it loses. -/
theorem step
    {start : Slot}
    {past : List (ThreadId × Event)}
    (backed : world.Backed me handle lost)
    (course : Course handle start past world)
    (stepped : world.step? who event = some (next, reply))
    (kept : event.keeps handle = true)
    (asks : who = me → event.isGuarded handle = true) :
    next.Backed me handle
      (lost + if who = me ∧ world.loses me handle event reply then 1 else 0) := by
  refine ⟨?_, backed.guarded_step stepped asks⟩
  have covered := backed.covered
  have slot := step?_slot stepped kept
  by_cases mine : who = me
  · subst mine
    cases visits : world.visit? who event handle with
    | none =>
        have guarded :
            ∀ call, (world.thread who).call = some call → call.hasTaken handle = true →
              call.guarded = true := by
          intro call running taken
          obtain ⟨here, acquiring, -⟩ : call.handle = handle ∧ _ ∧ _ := by
            simpa [Call.hasTaken] using taken
          exact backed.guarded call running here acquiring
        have covers := cover_le_of_unvisited guarded stepped visits
        rw [slot, visits]
        simp only [true_and]
        omega
    | some visit =>
        rw [slot, visits]
        have paid :=
          debt_le_of_visited course.admitted course.settled.lowered stepped visits covered
        exact paid.trans (by omega)
  · have covers : (next.thread me).cover handle = (world.thread me).cover handle := by
      rw [Thread.cover, guards_of_ne stepped (Ne.symm mine),
        step?_call_of_ne stepped (Ne.symm mine), Thread.cover]
    rw [covers, slot, if_neg (by simp [mine])]
    cases visits : world.visit? who event handle with
    | none =>
        exact covered
    | some visit =>
        obtain ⟨letIn, settled⟩ := course.visit_settled visits
        have grown :
            visit.done.slot.debt me ≤
              visit.slot.debt me + if visit.thread = me ∧ visit.deed = .acquires then 1 else 0 :=
          Visit.debt_done_le letIn settled.lowered
        rw [visit?_slot visits, if_neg (by simp [visit?_thread visits, mine])] at grown
        exact grown.trans covered

/-- Along a whole run a thread stays backed, at the price of what it loses on the way. -/
theorem run
    {start : Slot}
    {past steps : List (ThreadId × Event)}
    {replies : List Reply}
    (backed : world.Backed me handle lost)
    (course : Course handle start past world)
    (ran : world.run? steps = some (last, replies))
    (kept : ∀ step ∈ steps, step.2.keeps handle = true)
    (asks : ∀ step ∈ steps, step.1 = me → step.2.isGuarded handle = true) :
    last.Backed me handle (lost + world.losses me handle steps) := by
  induction steps generalizing world past replies lost with
  | nil =>
      cases ran
      exact backed
  | cons step rest inductionHypothesis =>
      obtain ⟨who, event⟩ := step
      obtain ⟨next, reply, later, stepped, tail, rfl⟩ := run?_cons.mp ran
      rw [List.forall_mem_cons] at kept asks
      have backedNext := backed.step course stepped kept.1 asks.1
      have backedLast :=
        inductionHypothesis backedNext (course.snoc stepped kept.1) tail kept.2 asks.2
      simpa only [losses, stepped, Nat.add_assoc] using backedLast

/-- At the start nothing is asked of anybody. -/
theorem opening
    {start : Slot}
    (unbuilt : ∀ record, start ≠ .constructed record)
    (me : ThreadId) :
    (World.opening handle start).Backed me handle 0 where
  covered := by
    have none : ((World.opening handle start).slot handle).debt me = 0 := by
      cases start with
      | empty | sentinel =>
          simp [World.opening, World.slot, World.setCell, Slot.debt]
      | constructed record =>
          exact (unbuilt record rfl).elim
    rw [none]
    exact Nat.zero_le _
  guarded := by
    intro call running
    cases running

end Backed

end World

/--
A call for a guard that does not hand one back leaves the account of its thread as
it was, unless it is canceled at the end of its scope after its last section has
taken the mutex.  A thread that takes the mutex through guards only, and is in no
call, owns it no deeper than it has guards on it, in whatever order it has dropped
the others, but for the acquisitions it has lost in that way or with a guard forgotten.
-/
theorem Course.guards_account
    {handle : HandleId}
    {start : Slot}
    {run : List (ThreadId × Event)}
    {world : World}
    {me : ThreadId}
    (course : Course handle start run world) :
    (∀ operation during last answer ended,
      operation.isAcquiring = true →
      world.EndsCall me handle operation true during last answer ended →
      world.SettlesGuard last ended me handle answer
        ((World.opening handle start).history handle run) during) ∧
      ((∀ step ∈ run, step.1 = me → step.2.isGuarded handle = true) →
        (world.thread me).call = none →
        ∀ record,
          world.slot handle = .constructed record →
          record.owner = some me →
          record.lockIndex.toUInt32.toNat + 1 ≤
            (world.thread me).guards.count handle +
              (World.opening handle start).losses me handle run) := by
  refine ⟨fun operation during last answer ended => course.settles_guard, ?_⟩
  intro asks idle record holds owned
  obtain ⟨replies, ran⟩ := course.ran
  have openingCourse : Course handle start [] (World.opening handle start) :=
    { unbuilt := course.unbuilt
      kept := by simp
      ran := ⟨[], rfl⟩ }
  have backed :=
    (World.Backed.opening course.unbuilt me).run openingCourse ran course.kept asks
  have covered := backed.covered
  rwa [holds, Slot.debt, Record.debt, if_pos owned, Thread.cover_of_idle idle, Nat.zero_add]
    at covered

/-- Thread 0 takes a sentinel through two guards, and drops the older of them. -/
def olderGuardDropped : List (ThreadId × Event) :=
  [(⟨0⟩, .call ⟨0⟩ .lock true), (⟨0⟩, .proceed), (⟨0⟩, .proceed),
    (⟨0⟩, .call ⟨0⟩ .lock true), (⟨0⟩, .proceed), (⟨0⟩, .proceed),
    (⟨0⟩, .dropGuard 1), (⟨0⟩, .proceed), (⟨0⟩, .proceed)]

/-- The record then: the other guard is left. -/
def guardedOnce : Record where
  kind := .recursive
  sharing := .processPrivate
  lockIndex := 0
  owner := some ⟨0⟩
  lastOwner := some ⟨0⟩

theorem Course.guards_account_olderGuardDropped :
    ∃ world last ended during,
      Course ⟨0⟩ .sentinel olderGuardDropped world ∧
        world.slot ⟨0⟩ = .constructed guardedOnce ∧
        guardedOnce.lockIndex.toUInt32.toNat + 1 ≤
          (world.thread ⟨0⟩).guards.count ⟨0⟩ +
            (World.opening ⟨0⟩ .sentinel).losses ⟨0⟩ ⟨0⟩ olderGuardDropped ∧
        world.EndsCall ⟨0⟩ ⟨0⟩ .tryLock true during last (.returned (.error .busy)) ended ∧
        (ended.thread ⟨0⟩).guards = (world.thread ⟨0⟩).guards ∧
        outstanding ⟨0⟩ ((World.opening ⟨0⟩ .sentinel).history ⟨0⟩ olderGuardDropped ++ during) =
          outstanding ⟨0⟩ ((World.opening ⟨0⟩ .sentinel).history ⟨0⟩ olderGuardDropped) := by
  have course : Course ⟨0⟩ .sentinel olderGuardDropped _ :=
    Course.of_isSome (by simp) (by decide) (by decide)
  generalize worldIs :
    (((World.opening ⟨0⟩ .sentinel).run? olderGuardDropped).get _).1 = world at course
  have holds : world.slot ⟨0⟩ = .constructed guardedOnce := by
    rw [← worldIs]
    decide
  have idle : (world.thread ⟨0⟩).call = none := by
    rw [← worldIs]
    decide
  have tries :
      ((world.step? ⟨0⟩ (.call ⟨0⟩ .tryLock true)).any fun entered =>
        (entered.1.thread ⟨0⟩).call ≠ none ∧
          (entered.1.history ⟨0⟩ [(⟨0⟩, .proceed)]).map Visit.deed = [.nothing] ∧
          (entered.1.step? ⟨0⟩ .proceed).any fun last =>
            (last.1.thread ⟨0⟩).call ≠ none ∧
              (last.1.step? ⟨0⟩ .proceed).any fun ended =>
                (ended.1.thread ⟨0⟩).call = none ∧
                  ended.2 = .returned (.error .busy)) = true := by
    rw [← worldIs]
    decide
  simp only [Option.any_eq_true, decide_eq_true_eq, Prod.exists] at tries
  obtain ⟨entered, _, asks, running, deeds, last, _, tried, leaving, ended, _, ends, closed, rfl⟩ :=
    tries
  have endsCall :
      world.EndsCall ⟨0⟩ ⟨0⟩ .tryLock true (entered.history ⟨0⟩ [(⟨0⟩, .proceed)]) last
        (.returned (.error .busy)) ended :=
    .intro asks (.cons running tried rfl (.nil leaving)) ends closed
  obtain ⟨settles, bound⟩ := course.guards_account
  have settled := settles .tryLock _ _ _ _ rfl endsCall
  have covered := bound (by decide) idle guardedOnce holds rfl
  have kept : ¬ ∃ visit ∈ entered.history ⟨0⟩ [(⟨0⟩, .proceed)], visit.deed = .renews := by
    rintro ⟨visit, member, renews⟩
    have listed := List.mem_map_of_mem (f := Visit.deed) member
    simp [deeds, renews] at listed
  have unchanged := settled.unchanged rfl (by simp [World.strands])
  rw [if_neg kept] at unchanged
  exact ⟨world, last, ended, _, course, holds, covered, endsCall, settled.guards, unchanged⟩

/-- Thread 0, asynchronous and asked to cancel, takes a sentinel for a guard. -/
def strandedGuard : List (ThreadId × Event) :=
  [(⟨0⟩, .setType .asynchronous), (⟨0⟩, .requestById ⟨0⟩),
    (⟨0⟩, .call ⟨0⟩ .lock true), (⟨0⟩, .proceed), (⟨0⟩, .proceed)]

/-- The call is canceled without a guard, and the thread owns the mutex with nothing to drop. -/
theorem strandedGuard_leaks :
    ∃ world record replies,
      Course ⟨0⟩ .sentinel strandedGuard world ∧
        (World.opening ⟨0⟩ .sentinel).run? strandedGuard =
          some (world, replies ++ [.canceled]) ∧
        (∀ step ∈ strandedGuard, step.2.isGuarded ⟨0⟩ = true ∧ step.2 ≠ .forgetGuard) ∧
        (world.thread ⟨0⟩).call = none ∧
        (world.thread ⟨0⟩).guards = [] ∧
        world.slot ⟨0⟩ = .constructed record ∧
        record.owner = some ⟨0⟩ ∧
        outstanding ⟨0⟩ ((World.opening ⟨0⟩ .sentinel).history ⟨0⟩ strandedGuard) = 1 := by
  have runs :
      (((World.opening ⟨0⟩ .sentinel).run? strandedGuard).any fun ended =>
        ended.2 = [.previousType .deferred, .known true, .silent, .silent] ++ [.canceled] ∧
          (ended.1.thread ⟨0⟩).call = none ∧
          (ended.1.thread ⟨0⟩).guards = [] ∧
          ended.1.slot ⟨0⟩ = .constructed guardedOnce) = true := by
    decide
  simp only [Option.any_eq_true, decide_eq_true_eq, Prod.exists] at runs
  obtain ⟨world, _, ran, rfl, idle, guards, holds⟩ := runs
  exact ⟨world, guardedOnce, _, ⟨by simp, by decide, _, ran⟩, ran, by decide, idle, guards, holds,
    rfl, by decide⟩

end LatchMutex
