import LatchMutex.Proofs.RecordSoundness

namespace LatchMutex

/-!
# Locks that come back

A lock comes back to its handle only from where it parked: the visit of its
thread before a resumed one is one that parks.  Between the two, the call of the
thread is parked or in the middle of its yield.
-/

/-- What the last visit of a thread came to, if it made one. -/
def lastDeed (thread : ThreadId) (history : List Visit) : Option Deed :=
  (history.reverse.find? fun visit => visit.thread = thread).map Visit.deed

@[simp] theorem lastDeed_snoc (thread : ThreadId) (history : List Visit) (visit : Visit) :
    lastDeed thread (history ++ [visit]) =
      if visit.thread = thread then some visit.deed else lastDeed thread history := by
  by_cases mine : visit.thread = thread <;> simp [lastDeed, mine]

/-- After the last visit of a thread there are visits of others only. -/
theorem lastDeed_eq_some
    {thread : ThreadId}
    {history : List Visit}
    {deed : Deed}
    (last : lastDeed thread history = some deed) :
    ∃ earlier visit during,
      history = earlier ++ visit :: during ∧
        visit.thread = thread ∧
        visit.deed = deed ∧
        ∀ other ∈ during, other.thread ≠ thread := by
  induction history using List.reverseRecOn with
  | nil =>
      contradiction
  | append_singleton before visit inductionHypothesis =>
      rw [lastDeed_snoc] at last
      split at last
      · rename_i mine
        exact ⟨before, visit, [], rfl, mine, Option.some.inj last, by simp⟩
      · rename_i other
        obtain ⟨earlier, found, during, rfl, mine, same, others⟩ := inductionHypothesis last
        refine ⟨earlier, found, during ++ [visit], by simp, mine, same, ?_⟩
        rw [List.forall_mem_append]
        exact ⟨others, by simpa using other⟩

/-- Every resumed visit follows a visit of its thread that parked. -/
def Recalled (history : List Visit) : Prop :=
  ∀ earlier visit,
    earlier ++ [visit] <+: history →
    visit.resumed = true →
    lastDeed visit.thread earlier = some .parks

/-- Every call in the wait loop of a handle got there by the last visit of its thread. -/
def World.Recalls (handle : HandleId) (history : List Visit) (world : World) : Prop :=
  ∀ thread call,
    (world.thread thread).call = some call →
    call.handle = handle →
    call.phase = .parked ∨ call.phase = .yielding →
    lastDeed thread history = some .parks

namespace Recalled

theorem nil : Recalled [] := by
  intro earlier visit isEarlier
  simp at isEarlier

theorem snoc
    {history : List Visit}
    {visit : Visit}
    (recalled : Recalled history)
    (recalls : visit.resumed = true → lastDeed visit.thread history = some .parks) :
    Recalled (history ++ [visit]) := by
  intro earlier later isEarlier resumed
  rcases List.prefix_concat_iff.mp isEarlier with last | before
  · obtain ⟨rfl, same⟩ := List.append_inj' last rfl
    cases same
    exact recalls resumed
  · exact recalled earlier later before resumed

end Recalled

theorem lastDeed_append_ne_parks
    {thread : ThreadId}
    {past : List Visit}
    (later : List Visit)
    (settled : lastDeed thread past ≠ some .parks)
    (attentive : ∀ visit ∈ later, visit.thread = thread → visit.deed ≠ .parks) :
    lastDeed thread (past ++ later) ≠ some .parks := by
  induction later using List.reverseRecOn with
  | nil =>
      simpa using settled
  | append_singleton earlier visit inductionHypothesis =>
      rw [← List.append_assoc, lastDeed_snoc]
      split
      · rename_i mine
        simpa using attentive visit (by simp) mine
      · apply inductionHypothesis
        intro before member
        exact attentive before (List.mem_append_left _ member)

/-- A thread that is out of the wait loop, and does not park, does not come back to it. -/
theorem Recalled.unresumed
    {thread : ThreadId}
    {past later rest : List Visit}
    {visit : Visit}
    (recalled : Recalled (past ++ later ++ rest))
    (settled : lastDeed thread past ≠ some .parks)
    (attentive : ∀ visit ∈ later, visit.thread = thread → visit.deed ≠ .parks)
    (member : visit ∈ later)
    (mine : visit.thread = thread) :
    visit.resumed = false := by
  by_contra resumed
  obtain ⟨before, after, rfl⟩ := List.append_of_mem member
  have parked : lastDeed visit.thread (past ++ before) = some .parks := by
    apply recalled _ _ _ (by simpa using resumed)
    exact ⟨after ++ rest, by simp⟩
  rw [mine] at parked
  apply lastDeed_append_ne_parks before settled _ parked
  intro earlier isBefore
  exact attentive earlier (List.mem_append_left _ isBefore)

/-- Only a lock can park. -/
theorem Visit.progress_ne_parked
    {visit : Visit}
    (admitted : visit.Admitted)
    (single : visit.operation ≠ .lock) :
    visit.done.progress ≠ .parked := by
  obtain ⟨result, finished⟩ :=
    Operation.enter_progress single visit.thread visit.slot visit.budget
  rw [done_of_ne_lock admitted single, finished]
  simp

/-- A visit comes to parking exactly where it leaves its call parked. -/
theorem Visit.deed_eq_parks_iff
    {visit : Visit}
    (admitted : visit.Admitted) :
    visit.deed = .parks ↔ visit.done.progress = .parked := by
  constructor
  · intro parks
    unfold deed at parks
    split at parks <;> first | contradiction | assumption
  · intro parked
    have lock : visit.operation = .lock := by
      by_contra single
      exact Visit.progress_ne_parked admitted single parked
    simp [deed, lock, parked]

namespace World

/-- A step keeps every call in the wait loop accounted for. -/
theorem Recalls.step
    {handle : HandleId}
    {history : List Visit}
    {world next : World}
    {me : ThreadId}
    {event : Event}
    {reply : Reply}
    (recalls : world.Recalls handle history)
    (admitted : world.CallsAdmitted)
    (stepped : world.step? me event = some (next, reply)) :
    next.Recalls handle (history ++ (world.visit? me event handle).toList) := by
  intro thread later running here waiting
  by_cases mine : thread = me
  · subst mine
    cases (step?_eq_some_iff.mp stepped).2 with
    | idle free stepped =>
        have entered := stepIdle?_call free stepped running
        simp [entered.2] at waiting
    | @visits call before due unlatched =>
        simp only [afterVisit, thread_counters, thread_setThread_self,
          Option.some.injEq] at running
        subst running
        have visits : world.visit? thread .proceed handle = some (world.visitOf thread call) :=
          visit?_eq_some_iff.mpr ⟨rfl, call, before, here, due, rfl⟩
        have parked : (world.visitOf thread call).done.progress = .parked := by
          generalize (world.visitOf thread call).done.progress = progress at waiting
          cases progress <;> simp_all [Phase.ofProgress]
        have deed := (Visit.deed_eq_parks_iff (visit?_admitted admitted visits)).mpr parked
        have own : (world.visitOf thread call).thread = thread := rfl
        rw [visits, Option.toList_some, lastDeed_snoc, if_pos own, deed]
    | @yields call before parked =>
        simp only [thread_counters, thread_setThread_self] at running
        rcases Thread.startYield_cases (world.thread thread) call with canceled | yielding
        · simp [canceled.2] at running
        · rw [yielding.2, Option.some.injEq] at running
          subst running
          have parks := recalls thread call before here (.inl parked)
          simpa [visit?, before, parked] using parks
    | spins before spinning =>
        cases before.symm.trans running
        simp [spinning] at waiting
    | leaves before leaving =>
        simp at running
    | givesUp before arriving single =>
        simp only [thread_counters, thread_setThread_self, Option.some.injEq] at running
        subst running
        simp at waiting
    | waits before arriving blocking =>
        cases before.symm.trans running
        simp [arriving] at waiting
    | waitsAgain before yielding =>
        simp only [thread_counters, thread_setThread_self, Thread.endYield_call] at running
        simpa [visit?] using recalls thread later running here waiting
  · rw [step?_call_of_ne stepped mine] at running
    have parks := recalls thread later running here waiting
    cases visits : world.visit? me event handle with
    | none =>
        simpa using parks
    | some visit =>
        have other : visit.thread ≠ thread := by
          rw [visit?_thread visits]
          exact Ne.symm mine
        simpa [other] using parks

/-- A step makes a resumed visit only for a call that is accounted for. -/
theorem Recalls.visit
    {handle : HandleId}
    {history : List Visit}
    {world : World}
    {me : ThreadId}
    {event : Event}
    {visit : Visit}
    (recalls : world.Recalls handle history)
    (visits : world.visit? me event handle = some visit)
    (resumed : visit.resumed = true) :
    lastDeed visit.thread history = some .parks := by
  obtain ⟨-, call, running, here, -, rfl⟩ := visit?_eq_some_iff.mp visits
  have yielding : call.phase = .yielding := by
    simpa [visitOf] using resumed
  exact recalls me call running here (.inr yielding)

/-- Along a run, every resumed visit follows one that parked. -/
theorem Recalls.run
    {handle : HandleId}
    {past : List Visit}
    {world last : World}
    {run : List (ThreadId × Event)}
    {replies : List Reply}
    (recalls : world.Recalls handle past)
    (recalled : Recalled past)
    (admitted : world.CallsAdmitted)
    (ran : world.run? run = some (last, replies)) :
    last.Recalls handle (past ++ world.history handle run) ∧
      Recalled (past ++ world.history handle run) := by
  induction run generalizing world past replies with
  | nil =>
      cases ran
      simpa [history] using And.intro recalls recalled
  | cons step rest inductionHypothesis =>
      obtain ⟨me, event⟩ := step
      obtain ⟨next, reply, _, stepped, tail, rfl⟩ := run?_cons.mp ran
      have recalledNext : Recalled (past ++ (world.visit? me event handle).toList) := by
        cases visits : world.visit? me event handle with
        | none =>
            simpa using recalled
        | some visit =>
            exact recalled.snoc (recalls.visit visits)
      have later :=
        inductionHypothesis (recalls.step admitted stepped) recalledNext
          (step?_admitted stepped admitted) tail
      simpa [history, stepped] using later

end World

/-- In a course a lock comes back only from where it parked. -/
theorem Course.recalled
    {handle : HandleId}
    {start : Slot}
    {run : List (ThreadId × Event)}
    {world : World}
    (course : Course handle start run world) :
    world.Recalls handle ((World.opening handle start).history handle run) ∧
      Recalled ((World.opening handle start).history handle run) := by
  obtain ⟨replies, ran⟩ := course.ran
  have nobody : (World.opening handle start).Recalls handle [] := by
    intro thread call running
    cases running
  simpa using nobody.run .nil (Course.opening_admitted handle start) ran

end LatchMutex
