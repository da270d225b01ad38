import LatchMutex.Proofs.Withdrawals

namespace LatchMutex

/-!
# Nested scopes and windows

The regions that a thread is in form a stack.  `Region.next?` follows it along the
steps of the thread and accepts exactly those that keep scopes, windows, yields and
operations nested; a cancellation that unwinds the thread ends its regions by the
same steps.  `Restores` says of a stack what type the thread has while it is in it
and what type every end of a region brings back.
-/

/-- A region that a thread is in. -/
inductive Region where
  | scope
  /-- A window inside some scope. -/
  | window
  deriving Repr, DecidableEq

namespace Region

/-- The regions after a step of the thread, innermost first, if it keeps them nested. -/
def next? (regions : List Region) (reply : Reply) : Event → Option (List Region)
  | .setType _ => none
  | .enterScope => some (.scope :: regions)
  | .leaveScope =>
      match regions with
      | .scope :: outer => some outer
      | _ => none
  | .openWindow =>
      if regions = [] then
        none
      else
        some (if reply = .canceled then regions else .window :: regions)
  | .closeWindow =>
      match regions with
      | .window :: outer => some outer
      | _ => none
  | .yieldPoint _ => if regions = [] then none else some regions
  | _ => some regions

/-- The regions of a thread after a run with its answers, if the thread keeps them nested. -/
def along? (me : ThreadId) :
    List Region → List ((ThreadId × Event) × Reply) → Option (List Region)
  | regions, [] => some regions
  | regions, ((who, event), reply) :: later =>
      if who = me then
        (next? regions reply event).bind fun inner => along? me inner later
      else
        along? me regions later

/-- A thread of some type is in these regions, whose scopes restore these types. -/
inductive Restores (base : CancelType) :
    List Region → CancelType → List CancelType → Prop where
  | outside :
      Restores base [] base []
  | scope
      {regions : List Region} {previous : CancelType} {types : List CancelType}
      (outer : Restores base regions previous types) :
      Restores base (.scope :: regions) .deferred (previous :: types)
  /-- A window ends deferred, whatever happened in it. -/
  | window
      {regions : List Region} {types : List CancelType}
      (type : CancelType)
      (outer : Restores base regions .deferred types) :
      Restores base (.window :: regions) type types

namespace Restores

variable {base type : CancelType} {regions : List Region} {types : List CancelType}

theorem eq_base (restores : Restores base [] type types) : type = base ∧ types = [] := by
  cases restores
  exact ⟨rfl, rfl⟩

/-- Directly inside a scope the type is deferred, and its end restores what was before. -/
theorem of_scope (restores : Restores base (.scope :: regions) type types) :
    type = .deferred ∧
      ∃ previous outer, types = previous :: outer ∧ Restores base regions previous outer := by
  cases restores with
  | scope outer =>
      exact ⟨rfl, _, _, rfl, outer⟩

theorem of_window (restores : Restores base (.window :: regions) type types) :
    Restores base regions .deferred types := by
  cases restores with
  | window type outer =>
      exact outer

/-- Inside any region the thread may become deferred. -/
theorem deferring
    (restores : Restores base regions type types)
    (inside : regions ≠ []) :
    Restores base regions .deferred types := by
  cases restores with
  | outside =>
      contradiction
  | scope outer =>
      exact .scope outer
  | window type outer =>
      exact .window .deferred outer

/-- A scope directly inside a scope restores the deferred type. -/
theorem restores_deferred
    {inner outer : List Region}
    (restores : Restores base (inner ++ .scope :: .scope :: outer) type types) :
    types[inner.count .scope]? = some .deferred := by
  induction inner generalizing type types with
  | nil =>
      cases restores with
      | scope first =>
          cases first with
          | scope second =>
              rfl
  | cons region rest inductionHypothesis =>
      cases restores with
      | scope first =>
          simpa using inductionHypothesis first
      | window type first =>
          simpa using inductionHypothesis first

end Restores

end Region

namespace CancelStatus

/-- Opening a window leaves the thread asynchronous, or deferred if that canceled it. -/
theorem openWindow_type (status : CancelStatus) :
    status.openWindow.2.type =
      if status.openWindow.1 then .deferred else .asynchronous := by
  unfold openWindow test
  split <;> grind [setType, closeWindow]

/-- A yield of a scope leaves the thread as it was, or deferred. -/
theorem yieldPoint_type (status : CancelStatus) (previous : CancelType) :
    (status.yieldPoint previous).2.type = status.type ∨
      (status.yieldPoint previous).2.type = .deferred := by
  unfold yieldPoint
  split
  · right
    have opened := status.openWindow_type
    split <;> simp_all [closeWindow, setType]
  · exact .inl rfl

end CancelStatus

namespace Thread

@[simp] theorem afterTest_cancel (thread : Thread) (tested : Bool × CancelStatus) :
    (thread.afterTest tested).2.cancel = tested.2 := by
  obtain ⟨delivered, cancel⟩ := tested
  cases delivered <;> rfl

@[simp] theorem afterTest_scopes (thread : Thread) (tested : Bool × CancelStatus) :
    (thread.afterTest tested).2.scopes = thread.scopes := by
  obtain ⟨delivered, cancel⟩ := tested
  cases delivered <;> rfl

/-- The cancel type of the thread outside the operation that it is in. -/
def restingType (thread : Thread) : CancelType :=
  match thread.call with
  | none => thread.cancel.type
  | some call => call.previous

/-- A thread in some regions, entered in a given posture. -/
structure Nests
    (thread : Thread)
    (base : CancelType)
    (outside : List CancelType)
    (regions : List Region) :
    Prop where
  restores :
    ∃ types,
      thread.scopes = types ++ outside ∧
        Region.Restores base regions thread.restingType types
  /-- An operation keeps the thread deferred but for its yields. -/
  deferred :
    ∀ call,
      thread.call = some call →
      thread.cancel.type = .deferred ∨
        call.phase = .yielding ∧ call.previous = .asynchronous

namespace Nests

variable
  {thread after : Thread} {base : CancelType} {outside types : List CancelType}
  {regions inner : List Region} {event : Event} {reply : Reply}

theorem of_free
    (types : List CancelType)
    (free : thread.call = none)
    (scopes : thread.scopes = types ++ outside)
    (restores : Region.Restores base regions thread.cancel.type types) :
    thread.Nests base outside regions where
  restores := ⟨types, scopes, by simpa [restingType, free] using restores⟩
  deferred := by simp [free]

/-- What has no part in types and scopes has no part in the nesting. -/
theorem congr
    (nests : thread.Nests base outside regions)
    (type : after.cancel.type = thread.cancel.type)
    (scopes : after.scopes = thread.scopes)
    (call : after.call = thread.call) :
    after.Nests base outside regions where
  restores := by
    obtain ⟨types, same, restores⟩ := nests.restores
    refine ⟨types, scopes.trans same, ?_⟩
    rw [restingType, call, type]
    exact restores
  deferred := by
    rw [call, type]
    exact nests.deferred

/-- A thread that is in no operation goes from regions to regions. -/
theorem step?
    (nests : thread.Nests base outside regions)
    (free : thread.call = none)
    (stepped : thread.step? event = some (reply, after))
    (nested : Region.next? regions reply event = some inner) :
    after.Nests base outside inner := by
  have idle := Thread.step?_call free stepped
  obtain ⟨types, scopes, restores⟩ := nests.restores
  rw [restingType, free] at restores
  unfold Region.next? at nested
  cases step?_acts stepped with
  | entersScope =>
      cases nested
      exact of_free (_ :: types) idle (by rw [scopes]; rfl) (.scope restores)
  | unwindsScope ends =>
      dsimp only at nested
      split at nested
      · cases nested
        obtain ⟨-, previous, outer, rfl, restoresOuter⟩ := restores.of_scope
        obtain ⟨rfl, rfl⟩ := List.cons.inj (ends.symm.trans scopes)
        exact of_free outer idle rfl restoresOuter
      · contradiction
  | leavesScope ends =>
      dsimp only at nested
      split at nested
      · cases nested
        obtain ⟨-, previous, outer, rfl, restoresOuter⟩ := restores.of_scope
        obtain ⟨rfl, rfl⟩ := List.cons.inj (ends.symm.trans scopes)
        refine of_free outer idle (by simp) ?_
        rwa [afterTest_cancel, CancelStatus.leaveScope_type]
      · contradiction
  | @yields position previous =>
      dsimp only at nested
      split at nested
      · contradiction
      · rename_i inside
        cases nested
        refine of_free types idle (by simpa using scopes) ?_
        rw [afterTest_cancel]
        rcases thread.cancel.yieldPoint_type previous with same | deferred
        · rwa [same]
        · rw [deferred]
          exact restores.deferring inside
  | @opensWindow cancel opens =>
      dsimp only at nested
      split at nested
      · contradiction
      · rename_i inside
        cases nested
        exact of_free types idle scopes (.window _ (restores.deferring inside))
  | @cancelsAtWindow cancel opens =>
      dsimp only at nested
      split at nested
      · contradiction
      · rename_i inside
        cases nested
        have type : cancel.type = .deferred := by
          simpa [opens] using thread.cancel.openWindow_type
        apply of_free types idle scopes
        change Region.Restores base regions cancel.type types
        rw [type]
        exact restores.deferring inside
  | closesWindow =>
      dsimp only at nested
      split at nested
      · cases nested
        exact of_free types idle scopes restores.of_window
      · contradiction
  | tests =>
      cases nested
      refine nests.congr ?_ (by simp) (idle.trans free.symm)
      rw [afterTest_cancel]
      exact thread.cancel.test_snd.1
  | setsType =>
      contradiction
  | setsState | touches | forgets | catches | injects | exits =>
      cases nested
      exact nests.congr rfl rfl (idle.trans free.symm)

/-- A thread gets into an operation. -/
theorem start
    (nests : thread.Nests base outside regions)
    (free : thread.call = none)
    (guards : List HandleId)
    (handle : HandleId)
    (operation : Operation)
    (guarded : Bool) :
    ({ thread with guards }.start handle operation guarded).Nests base outside regions where
  restores := by
    obtain ⟨types, scopes, restores⟩ := nests.restores
    rw [restingType, free] at restores
    exact ⟨types, scopes, restores⟩
  deferred := by
    intro call running
    exact .inl rfl

/-- An operation of the thread goes on. -/
theorem proceeds
    {call : Call}
    {phase : Phase}
    (nests : thread.Nests base outside regions)
    (running : thread.call = some call)
    (scopes : after.scopes = thread.scopes)
    (goesOn : after.call = some { call with phase })
    (deferred :
      after.cancel.type = .deferred ∨ phase = .yielding ∧ call.previous = .asynchronous) :
    after.Nests base outside regions where
  restores := by
    obtain ⟨types, same, restores⟩ := nests.restores
    refine ⟨types, scopes.trans same, ?_⟩
    rw [restingType, running] at restores
    rw [restingType, goesOn]
    exact restores
  deferred := by
    intro found here
    cases goesOn.symm.trans here
    exact deferred

/-- An operation of the thread ends, and brings back the type before it. -/
theorem ends
    {call : Call}
    (nests : thread.Nests base outside regions)
    (running : thread.call = some call)
    (scopes : after.scopes = thread.scopes)
    (free : after.call = none)
    (restored : after.cancel.type = call.previous) :
    after.Nests base outside regions := by
  obtain ⟨types, same, restores⟩ := nests.restores
  rw [restingType, running] at restores
  exact of_free types free (scopes.trans same) (by rwa [restored])

/-- A parked operation is canceled where its yield starts, or yields. -/
theorem startYield
    {call : Call}
    (nests : thread.Nests base outside regions)
    (running : thread.call = some call)
    (parked : call.phase = .parked) :
    (thread.startYield call).2.Nests base outside regions := by
  have deferred := nests.deferred call running
  simp only [parked, reduceCtorEq, false_and, or_false] at deferred
  unfold Thread.startYield
  split
  · rename_i asynchronous
    split
    · exact nests.ends running rfl rfl rfl
    · exact nests.proceeds running rfl rfl (.inr ⟨rfl, asynchronous⟩)
  · exact nests.proceeds running rfl rfl (.inl deferred)

end Nests

/-- The end of the scope of an operation restores the type before it. -/
theorem finish_type (thread : Thread) (call : Call) (result : Result) :
    (thread.finish call result).2.cancel.type = call.previous := by
  unfold finish
  split
  · rfl
  · have restored := thread.cancel.leaveScope_type call.previous
    split <;> simp_all [unwind, conclude]

@[simp] theorem finish_scopes (thread : Thread) (call : Call) (result : Result) :
    (thread.finish call result).2.scopes = thread.scopes := by
  unfold finish
  split
  · rfl
  · split <;> rfl

@[simp] theorem endYield_scopes (thread : Thread) (call : Call) :
    (thread.endYield call).scopes = thread.scopes := by
  unfold endYield
  split <;> rfl

/-- A yield that ends leaves the thread deferred again. -/
theorem endYield_type
    {thread : Thread}
    {call : Call}
    (deferred :
      thread.cancel.type = .deferred ∨
        call.phase = .yielding ∧ call.previous = .asynchronous) :
    (thread.endYield call).cancel.type = .deferred := by
  unfold endYield
  split
  · rfl
  · rename_i quiet
    exact deferred.resolve_right quiet

end Thread

namespace World

variable
  {world next : World} {me who : ThreadId} {event : Event} {reply : Reply}
  {base : CancelType} {outside : List CancelType} {regions inner : List Region}

/-- The steps of other threads have no part in the nesting. -/
theorem nests_of_ne
    (nests : (world.thread me).Nests base outside regions)
    (stepped : world.step? who event = some (next, reply))
    (different : who ≠ me) :
    (next.thread me).Nests base outside regions := by
  rcases step?_thread_of_ne stepped (Ne.symm different) with same | raised
  · rwa [same]
  · rw [raised]
    exact nests.congr rfl rfl rfl

theorem nests_of_idle
    (nests : (world.thread me).Nests base outside regions)
    (free : (world.thread me).call = none)
    (stepped : world.stepIdle? me event = some (next, reply))
    (nested : Region.next? regions reply event = some inner) :
    (next.thread me).Nests base outside inner := by
  cases stepIdle?_idles stepped with
  | refuses | misses | places | resets =>
      cases nested
      exact nests
  | calls | drops =>
      cases nested
      rw [thread_setThread_self]
      exact nests.start free _ _ _ _
  | sharesHandle =>
      cases nested
      rw [thread_shareHandle, thread_setThread_self]
      exact nests.congr rfl rfl rfl
  | @requests target | @requestsById target =>
      cases nested
      obtain ⟨pending, raised⟩ := world.thread_raisePending target me
      rw [raised]
      exact nests.congr rfl rfl rfl
  | acts own =>
      rw [thread_setThread_self]
      exact nests.step? free own nested

/-- A step of the thread goes from regions to regions. -/
theorem nests_of_own
    (nests : (world.thread me).Nests base outside regions)
    (stepped : world.step? me event = some (next, reply))
    (nested : Region.next? regions reply event = some inner) :
    (next.thread me).Nests base outside inner := by
  cases (step?_eq_some_iff.mp stepped).2 with
  | idle free stepped =>
      exact nests_of_idle nests free stepped nested
  | visits running due unlatched =>
      cases nested
      have deferred := Thread.endYield_type (nests.deferred _ running)
      simp only [afterVisit, thread_counters, thread_setThread_self]
      exact nests.proceeds running (by simp) rfl (.inl deferred)
  | yields running parked =>
      cases nested
      simp only [thread_counters, thread_setThread_self]
      exact nests.startYield running parked
  | spins running spinning =>
      cases nested
      exact nests
  | leaves running leaving =>
      cases nested
      rw [thread_setThread_self]
      exact nests.ends running (by simp) (by simp) (Thread.finish_type _ _ _)
  | givesUp running arriving single =>
      cases nested
      simp only [thread_counters, thread_setThread_self]
      have deferred := nests.deferred _ running
      simp only [arriving, reduceCtorEq, false_and, or_false] at deferred
      exact nests.proceeds running rfl rfl (.inl deferred)
  | waits running arriving blocking =>
      cases nested
      exact nests
  | @waitsAgain call running yielding =>
      cases nested
      simp only [thread_counters, thread_setThread_self]
      have deferred := Thread.endYield_type (nests.deferred _ running)
      have goesOn :
          ((world.thread me).endYield call).call = some { call with phase := call.phase } := by
        simp [running]
      exact nests.proceeds running (by simp) goesOn (.inl deferred)

/-- Along a run the regions of the thread tell what its types are. -/
theorem nests_of_run
    {last : World}
    {run : List (ThreadId × Event)}
    {replies : List Reply}
    (nests : (world.thread me).Nests base outside regions)
    (ran : world.run? run = some (last, replies))
    (nested : Region.along? me regions (run.zip replies) = some inner) :
    (last.thread me).Nests base outside inner := by
  induction run generalizing world regions replies with
  | nil =>
      cases ran
      cases nested
      exact nests
  | cons step rest inductionHypothesis =>
      obtain ⟨who, event⟩ := step
      obtain ⟨next, reply, later, stepped, tail, rfl⟩ := run?_cons.mp ran
      rw [List.zip_cons_cons, Region.along?] at nested
      split at nested
      · rename_i mine
        subst mine
        obtain ⟨between, nestedHere, nestedLater⟩ := Option.bind_eq_some_iff.mp nested
        exact inductionHypothesis (nests_of_own nests stepped nestedHere) tail nestedLater
      · rename_i other
        exact inductionHypothesis (nests_of_ne nests stepped other) tail nested

end World

/-- A step of an operation, or a yield or the end of a scope, directly inside a scope. -/
inductive Region.Shielded (thread : Thread) : List Region → Event → Prop where
  | operation
      {outer : List Region} {event : Event}
      (running : thread.call ≠ none) :
      Shielded thread (.scope :: outer) event
  | leaveScope
      {outer : List Region} :
      Shielded thread (.scope :: .scope :: outer) .leaveScope
  | yieldPoint
      {inner outer : List Region} :
      Shielded thread (inner ++ .scope :: .scope :: outer) (.yieldPoint (inner.count .scope))

namespace Thread

variable {thread after : Thread} {reply : Reply} {outer : List CancelType}

/-- The end of a scope that restores the deferred type delivers nothing. -/
theorem uncanceled_leaveScope
    (scopes : thread.scopes = .deferred :: outer)
    (stepped : thread.step? .leaveScope = some (reply, after)) :
    reply ≠ .canceled := by
  cases step?_acts stepped with
  | unwindsScope =>
      simp
  | leavesScope ends =>
      rw [scopes] at ends
      cases ends
      simp [CancelStatus.leaveScope, afterTest]

/-- A scope that was entered deferred yields without a window. -/
theorem uncanceled_yieldPoint
    {position : Nat}
    (found : thread.scopes[position]? = some .deferred)
    (stepped : thread.step? (.yieldPoint position) = some (reply, after)) :
    reply ≠ .canceled := by
  cases step?_acts stepped with
  | yields inside =>
      cases found.symm.trans inside
      simp [CancelStatus.yieldPoint, afterTest]

end Thread

namespace World

variable
  {world next : World} {me : ThreadId} {event : Event} {reply : Reply}
  {base : CancelType} {outside : List CancelType} {regions : List Region} {call : Call}

/-- An operation that was entered deferred is not canceled. -/
theorem uncanceled_of_deferred
    (running : (world.thread me).call = some call)
    (deferred : call.previous = .deferred)
    (stepped : world.step? me event = some (next, reply)) :
    reply ≠ .canceled := by
  cases (step?_eq_some_iff.mp stepped).2 with
  | idle free =>
      simp [running] at free
  | yields found parked =>
      cases running.symm.trans found
      simp [Thread.startYield, deferred]
  | @leaves found result runningToo leaving =>
      cases running.symm.trans runningToo
      intro canceled
      have asynchronous := (Thread.finish_of_canceled canceled).1
      simp [deferred] at asynchronous
  | _ =>
      simp

/-- Directly inside a scope nothing is delivered. -/
theorem uncanceled_of_shielded
    (nests : (world.thread me).Nests base outside regions)
    (shielded : Region.Shielded (world.thread me) regions event)
    (stepped : world.step? me event = some (next, reply)) :
    reply ≠ .canceled := by
  obtain ⟨types, scopes, restores⟩ := nests.restores
  cases shielded with
  | operation busy =>
      obtain ⟨call, running⟩ := Option.ne_none_iff_exists'.mp busy
      have deferred := restores.of_scope.1
      rw [Thread.restingType, running] at deferred
      exact uncanceled_of_deferred running deferred stepped
  | leaveScope =>
      obtain ⟨-, previous, outer, rfl, restoresOuter⟩ := restores.of_scope
      obtain ⟨rfl, -⟩ := restoresOuter.of_scope
      cases (step?_eq_some_iff.mp stepped).2 with
      | idle free stepped =>
          cases stepIdle?_idles stepped with
          | acts own =>
              exact Thread.uncanceled_leaveScope scopes own
  | @yieldPoint inner outer =>
      have deferred := restores.restores_deferred
      obtain ⟨bound, -⟩ := List.getElem?_eq_some_iff.mp deferred
      rw [← List.getElem?_append_left bound, ← scopes] at deferred
      cases (step?_eq_some_iff.mp stepped).2 with
      | idle free stepped =>
          cases stepIdle?_idles stepped with
          | acts own =>
              exact Thread.uncanceled_yieldPoint deferred own

end World

/-- What the type of a thread is in some regions that it entered with a given type. -/
structure World.KeepsType
    (world : World)
    (me : ThreadId)
    (base : CancelType)
    (regions : List Region) :
    Prop where
  restored :
    regions = [] →
    (world.thread me).call = none →
    (world.thread me).cancel.type = base
  deferred :
    regions.head? = some .scope →
    (world.thread me).cancel.type = .deferred
  /-- An operation is deferred wherever it is made, except in the middle of its yields. -/
  operating :
    ∀ call,
      (world.thread me).call = some call →
      (world.thread me).cancel.type = .deferred ∨
        call.phase = .yielding ∧ call.previous = .asynchronous
  undelivered :
    ∀ event next reply,
      Region.Shielded (world.thread me) regions event →
      world.step? me event = some (next, reply) →
      reply ≠ .canceled

/--
A thread that is in no operation sets out, and enters and leaves scopes, windows
inside scopes, yields and operations in a nested way, among any steps of the other
threads.  Once it is out of all of them, be it that a cancellation unwound it, its
cancel type is what it was.  Directly inside a scope the type is deferred, and no
operation, inner scope or yield of an inner scope delivers a cancellation.
-/
theorem World.nesting_restores_type
    {world later : World}
    {run : List (ThreadId × Event)}
    {replies : List Reply}
    {me : ThreadId}
    {regions : List Region}
    (idle : (world.thread me).call = none)
    (ran : world.run? run = some (later, replies))
    (nested : Region.along? me [] (run.zip replies) = some regions) :
    later.KeepsType me (world.thread me).cancel.type regions := by
  have setsOut :
      (world.thread me).Nests (world.thread me).cancel.type (world.thread me).scopes [] :=
    .of_free [] idle rfl .outside
  have nests := nests_of_run setsOut ran nested
  obtain ⟨types, scopes, restores⟩ := nests.restores
  refine
    { restored := ?_
      deferred := ?_
      operating := nests.deferred
      undelivered := fun _ _ _ => uncanceled_of_shielded nests }
  · rintro rfl free
    rw [Thread.restingType, free] at restores
    exact restores.eq_base.1
  · intro inside
    obtain ⟨outer, rfl⟩ := List.head?_eq_some_iff.mp inside
    have resting := restores.of_scope.1
    cases running : (later.thread me).call with
    | none =>
        rwa [Thread.restingType, running] at resting
    | some call =>
        rw [Thread.restingType, running] at resting
        rcases nests.deferred call running with deferred | ⟨-, asynchronous⟩
        · exact deferred
        · simp [asynchronous] at resting

/--
Thread 0 makes a handle and locks a sentinel inside two scopes, opens a window and enters
another scope in it, where thread 1 asks it to cancel.  The end of that scope delivers, and
the other three regions end on the way out.
-/
def unwoundNesting : List (ThreadId × Event) :=
  [(⟨0⟩, .makeHandle), (⟨0⟩, .enterScope), (⟨0⟩, .enterScope), (⟨0⟩, .yieldPoint 1),
    (⟨0⟩, .call ⟨0⟩ .lock true), (⟨0⟩, .proceed), (⟨0⟩, .proceed),
    (⟨0⟩, .openWindow), (⟨0⟩, .enterScope), (⟨1⟩, .request ⟨0⟩), (⟨0⟩, .leaveScope),
    (⟨0⟩, .dropGuard 0), (⟨0⟩, .proceed), (⟨0⟩, .proceed),
    (⟨0⟩, .closeWindow), (⟨0⟩, .leaveScope), (⟨0⟩, .leaveScope)]

theorem World.nesting_restores_type_unwoundNesting :
    ∃ world later replies,
      (World.opening ⟨0⟩ .sentinel).step? ⟨0⟩ (.setType .asynchronous) =
          some (world, .previousType .deferred) ∧
        world.run? unwoundNesting = some (later, replies) ∧
        .canceled ∈ replies ∧
        (later.thread ⟨0⟩).unwinding = true ∧
        (later.thread ⟨0⟩).cancel.type = .asynchronous := by
  have runs :
      ((World.opening ⟨0⟩ .sentinel).step? ⟨0⟩ (.setType .asynchronous)).any
        (fun world =>
          world.2 = .previousType .deferred ∧
            (world.1.thread ⟨0⟩).call = none ∧
            (world.1.thread ⟨0⟩).cancel.type = .asynchronous ∧
            (world.1.run? unwoundNesting).any fun later =>
              .canceled ∈ later.2 ∧
                (later.1.thread ⟨0⟩).unwinding ∧
                (later.1.thread ⟨0⟩).call = none ∧
                Region.along? ⟨0⟩ [] (unwoundNesting.zip later.2) = some []) = true := by
    decide
  simp only [Option.any_eq_true, decide_eq_true_eq, Prod.exists] at runs
  obtain ⟨world, _, stepped, rfl, idle, type, later, replies, ran, delivered, unwinding, free,
    nested⟩ := runs
  have restored := (nesting_restores_type idle ran nested).restored rfl free
  exact ⟨world, later, replies, stepped, ran, delivered, unwinding, restored.trans type⟩

end LatchMutex
