import LatchMutex.Proofs.Histories

namespace LatchMutex

/-!
# Worlds that agree but for one thread

What the other threads do to the mutexes depends on a thread through the mutexes
alone.  So in two worlds with the same mutexes that differ in one thread at
most, the others can take the same steps, make the same visits, and leave two
worlds that agree again.  They can request a cancellation of that thread in both, too,
as long as its handle has been made in both or in neither.  The steps that a thread
takes on its own can be left out of a run without any of this changing.
-/

/-- Whether a step is on the thread's own scopes, windows, guards and cancel status. -/
def Event.isPrivate : Event → Bool
  | .call .. | .dropGuard _ | .proceed | .missLatch => false
  | .makeHandle | .request _ | .requestById _ | .place .. | .resetCounters => false
  | _ => true

namespace World

/-- Two worlds that differ in one thread, the cells of flags and the counters at most. -/
structure Agree (me : ThreadId) (world other : World) : Prop where
  cells : other.cells = world.cells
  threads : ∀ thread, thread ≠ me → other.thread thread = world.thread thread
  enrolled :
    ∀ thread, thread ≠ me → other.facade.isEnrolled thread = world.facade.isEnrolled thread
  registered : ∀ thread, thread ≠ me → other.isRegistered thread = world.isRegistered thread
  handed : ∀ thread, other.facade.isHanded thread = world.facade.isHanded thread

namespace Agree

variable {me who : ThreadId} {world other : World}

theorem refl (world : World) : Agree me world world :=
  ⟨rfl, fun _ _ => rfl, fun _ _ => rfl, fun _ _ => rfl, fun _ => rfl⟩

theorem symm (agree : Agree me world other) : Agree me other world where
  cells := agree.cells.symm
  threads thread different := (agree.threads thread different).symm
  enrolled thread different := (agree.enrolled thread different).symm
  registered thread different := (agree.registered thread different).symm
  handed thread := (agree.handed thread).symm

theorem trans
    {third : World}
    (first : Agree me world other)
    (second : Agree me other third) :
    Agree me world third where
  cells := second.cells.trans first.cells
  threads thread different :=
    (second.threads thread different).trans (first.threads thread different)
  enrolled thread different :=
    (second.enrolled thread different).trans (first.enrolled thread different)
  registered thread different :=
    (second.registered thread different).trans (first.registered thread different)
  handed thread := (second.handed thread).trans (first.handed thread)

theorem withCounters
    (agree : Agree me world other)
    (counters otherCounters : Counters) :
    Agree me { world with counters } { other with counters := otherCounters } :=
  ⟨agree.cells, agree.threads, agree.enrolled, agree.registered, agree.handed⟩

theorem setCell
    (agree : Agree me world other)
    (handle : HandleId)
    (cell : Cell) :
    Agree me (world.setCell handle cell) (other.setCell handle cell) where
  cells := by simp [World.setCell, agree.cells]
  threads := agree.threads
  enrolled := agree.enrolled
  registered := agree.registered
  handed := agree.handed

theorem setThread
    (agree : Agree me world other)
    (who : ThreadId)
    (thread : Thread) :
    Agree me (world.setThread who thread) (other.setThread who thread) := by
  constructor
  case cells =>
    exact agree.cells
  case threads =>
    intro another different
    by_cases same : another = who
    · subst same
      simp
    · rw [thread_setThread_of_ne _ same, thread_setThread_of_ne _ same]
      exact agree.threads another different
  case enrolled =>
    intro another different
    have before := agree.enrolled another different
    by_cases same : another = who
    · subst same
      simp only [World.setThread, CancelFacade.isEnrolled_follow_self, before]
    · simp only [World.setThread, CancelFacade.isEnrolled_follow_of_ne _ same, before]
  case registered =>
    intro another different
    have before := agree.registered another different
    unfold World.isRegistered at before ⊢
    by_cases same : another = who
    · subst same
      simp only [World.setThread, CancelFacade.isRegistered_follow_self, before,
        agree.enrolled another different]
    · simp only [World.setThread, CancelFacade.isRegistered_follow_of_ne _ same, before]
  case handed =>
    intro another
    simp only [World.setThread, CancelFacade.isHanded_follow, agree.handed]

/-- A thread changes nothing for the others by changing itself. -/
theorem of_setThread (world : World) (me : ThreadId) (thread : Thread) :
    Agree me world (world.setThread me thread) where
  cells := rfl
  threads _ different := thread_setThread_of_ne world different thread
  enrolled _ different := CancelFacade.isEnrolled_follow_of_ne _ different
  registered _ different := CancelFacade.isRegistered_follow_of_ne _ different
  handed _ := CancelFacade.isHanded_follow _

/-- What the thread itself comes to does not matter. -/
theorem setThread_self
    (agree : Agree me world other)
    (mine theirs : Thread) :
    Agree me (world.setThread me mine) (other.setThread me theirs) :=
  ((of_setThread world me mine).symm.trans agree).trans (of_setThread other me theirs)

/-- A request to the thread itself changes nothing for the others. -/
theorem of_raisePending (world : World) (me : ThreadId) :
    Agree me world (world.raisePending me) where
  cells := cells_raisePending world me
  threads _ different := thread_raisePending_of_ne world different
  enrolled _ _ := isEnrolled_raisePending world me _
  registered _ _ := isRegistered_raisePending world me _
  handed _ := isHanded_raisePending world me _

theorem raisePending
    (agree : Agree me world other)
    (target : ThreadId) :
    Agree me (world.raisePending target) (other.raisePending target) := by
  by_cases mine : target = me
  · subst mine
    exact ((of_raisePending world target).symm.trans agree).trans (of_raisePending other target)
  · constructor
    case cells =>
      rw [cells_raisePending, cells_raisePending, agree.cells]
    case threads =>
      intro another different
      rw [thread_raisePending_eq, thread_raisePending_eq, agree.threads another different,
        agree.enrolled target mine]
    case enrolled =>
      intro another different
      rw [isEnrolled_raisePending, isEnrolled_raisePending, agree.enrolled another different]
    case registered =>
      intro another different
      rw [isRegistered_raisePending, isRegistered_raisePending,
        agree.registered another different]
    case handed =>
      intro another
      rw [isHanded_raisePending, isHanded_raisePending, agree.handed another]

/-- Another thread makes its handle in both worlds. -/
theorem shareHandle
    (agree : Agree me world other)
    (different : who ≠ me) :
    Agree me (world.shareHandle who) (other.shareHandle who) := by
  obtain ⟨-, own, registry⟩ := world.facade.share_keeps who
  obtain ⟨-, otherOwn, otherRegistry⟩ := other.facade.share_keeps who
  constructor
  case cells =>
    exact agree.cells
  case threads =>
    intro another different
    rw [thread_shareHandle, thread_shareHandle, agree.threads another different]
  case enrolled =>
    intro another different
    have before := agree.enrolled another different
    simp only [CancelFacade.isEnrolled, World.shareHandle, own, otherOwn] at before ⊢
    exact before
  case registered =>
    intro another different
    have before := agree.registered another different
    simp only [World.isRegistered, CancelFacade.isRegistered, World.shareHandle, registry,
      otherRegistry] at before ⊢
    exact before
  case handed =>
    intro another
    simp only [World.shareHandle, CancelFacade.isHanded_share, agree.handed another,
      agree.enrolled who different]

/-- The others make the same visits in both worlds. -/
theorem visit?
    (agree : Agree me world other)
    (different : who ≠ me)
    (event : Event)
    (handle : HandleId) :
    other.visit? who event handle = world.visit? who event handle := by
  have slot (handle : HandleId) : other.slot handle = world.slot handle := by
    simp [World.slot, agree.cells]
  simp only [World.visit?, visitOf, agree.threads who different, slot]

theorem afterVisit
    (agree : Agree me world other)
    (different : who ≠ me)
    (call : Call) :
    Agree me (world.afterVisit who call) (other.afterVisit who call) := by
  have visit : other.visitOf who call = world.visitOf who call := by
    simp [visitOf, World.slot, agree.cells, agree.threads who different]
  unfold World.afterVisit
  rw [visit, agree.threads who different]
  exact ((agree.setCell _ _).setThread _ _).withCounters _ _

/-- Whether the thread itself can be found by its identity does not matter either. -/
theorem stepIdle_requestById
    {next : World}
    {reply : Reply}
    (agree : Agree me world other)
    (target : ThreadId)
    (stepped : world.stepIdle? who (.requestById target) = some (next, reply)) :
    ∃ same answer,
      other.stepIdle? who (.requestById target) = some (same, answer) ∧
        Agree me next same := by
  by_cases mine : target = me
  · subst mine
    have unchanged
        {before after : World}
        {reply : Reply}
        (stepped : before.stepIdle? who (.requestById target) = some (after, reply)) :
        Agree target before after := by
      cases stepIdle?_idles stepped with
      | requestsById => exact of_raisePending before target
      | misses => exact .refl before
      | acts own => contradiction
    have possible : (other.stepIdle? who (.requestById target)).isSome = true := by
      simp only [stepIdle?]
      split <;> rfl
    obtain ⟨⟨same, answer⟩, answered⟩ := Option.isSome_iff_exists.mp possible
    exact ⟨same, answer, answered,
      ((unchanged stepped).symm.trans agree).trans (unchanged answered)⟩
  · have registered := agree.registered target mine
    cases stepIdle?_idles stepped with
    | requestsById found =>
        rw [← registered] at found
        exact ⟨_, _, (Idles.requestsById found).possible, agree.raisePending target⟩
    | misses unknown =>
        rw [← registered] at unknown
        exact ⟨_, _, (Idles.misses unknown).possible, agree⟩
    | acts own =>
        contradiction

/-- A thread without a call can take the same step in both worlds. -/
theorem stepIdle
    {event : Event}
    {next : World}
    {reply : Reply}
    (agree : Agree me world other)
    (different : who ≠ me)
    (stepped : world.stepIdle? who event = some (next, reply)) :
    ∃ same answer,
      other.stepIdle? who event = some (same, answer) ∧ Agree me next same := by
  have thread := agree.threads who different
  cases event with
  | call handle operation guarded =>
      by_cases refused : operation.isRefused = true
      · simp only [stepIdle?, refused, ↓reduceIte] at stepped ⊢
        cases stepped
        exact ⟨_, _, rfl, agree⟩
      · simp only [stepIdle?, thread, refused] at stepped ⊢
        cases stepped
        exact ⟨_, _, rfl, agree.setThread _ _⟩
  | dropGuard position =>
      simp only [stepIdle?, thread] at stepped ⊢
      split at stepped <;> cases stepped
      exact ⟨_, _, rfl, agree.setThread _ _⟩
  | makeHandle =>
      cases stepped
      rw [← thread]
      exact ⟨_, _, rfl, (agree.setThread _ _).shareHandle different⟩
  | request target =>
      cases stepIdle?_idles stepped with
      | requests handed =>
          rw [← agree.handed] at handed
          exact ⟨_, _, (Idles.requests handed).possible, agree.raisePending target⟩
      | acts own =>
          contradiction
  | requestById target =>
      exact agree.stepIdle_requestById target stepped
  | place handle slot =>
      cases stepped
      exact ⟨_, _, rfl, agree.setCell _ _⟩
  | resetCounters =>
      cases stepped
      exact ⟨_, _, rfl, agree.withCounters _ _⟩
  | _ =>
      simp only [stepIdle?, thread, Option.map_eq_some_iff] at stepped ⊢
      obtain ⟨⟨answer, after⟩, stepped, same⟩ := stepped
      cases same
      exact ⟨_, _, ⟨⟨_, _⟩, stepped, rfl⟩, agree.setThread _ _⟩

/-- Another thread can take the same step in both worlds, and they agree again after it. -/
theorem step
    {event : Event}
    {next : World}
    {reply : Reply}
    (agree : Agree me world other)
    (different : who ≠ me)
    (stepped : world.step? who event = some (next, reply)) :
    ∃ same answer, other.step? who event = some (same, answer) ∧ Agree me next same := by
  have thread := agree.threads who different
  obtain ⟨awake, stepped⟩ := step?_eq_some_iff.mp stepped
  rw [← thread] at awake
  have possible
      {same : World}
      {answer : Reply}
      (stepped : Stepped other who event same answer)
      (agreed : Agree me next same) :
      ∃ same answer, other.step? who event = some (same, answer) ∧ Agree me next same :=
    ⟨same, answer, step?_eq_some_iff.mpr ⟨awake, stepped⟩, agreed⟩
  cases stepped with
  | idle free stepped =>
      obtain ⟨same, answer, stepped, agreed⟩ := agree.stepIdle different stepped
      exact possible (.idle (by rw [thread, free]) stepped) agreed
  | visits running due unlatched =>
      rw [← thread] at running
      rw [← agree.cells] at unlatched
      exact possible (.visits running due unlatched) (agree.afterVisit different _)
  | yields running parked =>
      rw [← thread] at running
      refine possible (.yields running parked) ?_
      rw [thread]
      exact (agree.setThread _ _).withCounters _ _
  | spins running spinning =>
      rw [← thread] at running
      exact possible (.spins running spinning) (agree.withCounters _ _)
  | leaves running leaving =>
      rw [← thread] at running
      refine possible (.leaves running leaving) ?_
      rw [thread]
      exact agree.setThread _ _
  | givesUp running arriving single =>
      rw [← thread] at running
      refine possible (.givesUp running arriving single) ?_
      rw [thread]
      exact (agree.setThread _ _).withCounters _ _
  | waits running arriving blocking =>
      rw [← thread] at running
      exact possible (.waits running arriving blocking) (agree.withCounters _ _)
  | waitsAgain running yielding =>
      rw [← thread] at running
      refine possible (.waitsAgain running yielding) ?_
      rw [thread]
      exact (agree.setThread _ _).withCounters _ _

/-- A step of a thread on its own status is nothing to the others. -/
theorem of_private
    {event : Event}
    {next : World}
    {reply : Reply}
    (own : event.isPrivate = true)
    (stepped : world.step? me event = some (next, reply)) :
    Agree me world next ∧ ∀ handle, world.visit? me event handle = none := by
  have unseen : ∀ handle, world.visit? me event handle = none := by
    intro handle
    cases visits : world.visit? me event handle with
    | none => rfl
    | some visit =>
        obtain ⟨rfl, -⟩ := visit?_eq_some_iff.mp visits
        contradiction
  refine ⟨?_, unseen⟩
  cases (step?_eq_some_iff.mp stepped).2 with
  | idle free stepped =>
      cases stepIdle?_idles stepped with
      | acts =>
          exact of_setThread world me _
      | _ =>
          contradiction
  | _ =>
      contradiction

/--
Whatever run is possible, with a thread on its own, is possible without the
steps of that thread in a world that agrees: the handles see the same visits.
-/
theorem run
    {last : World}
    {replies : List Reply}
    {run : List (ThreadId × Event)}
    (agree : Agree me world other)
    (ran : world.run? run = some (last, replies))
    (own : ∀ step ∈ run, step.1 = me → step.2.isPrivate = true) :
    ∃ same answers,
      other.run? (run.filter fun step => step.1 ≠ me) = some (same, answers) ∧
        Agree me last same ∧
        ∀ handle,
          other.history handle (run.filter fun step => step.1 ≠ me) =
            world.history handle run := by
  induction run generalizing world other replies with
  | nil =>
      cases ran
      exact ⟨other, [], rfl, agree, fun _ => rfl⟩
  | cons step rest inductionHypothesis =>
      obtain ⟨who, event⟩ := step
      obtain ⟨next, reply, _, stepped, tail, rfl⟩ := run?_cons.mp ran
      rw [List.forall_mem_cons] at own
      -- A step of the thread itself is left out, and the worlds still agree.
      by_cases mine : who = me
      · subst mine
        obtain ⟨unchanged, unseen⟩ := of_private (own.1 rfl) stepped
        obtain ⟨same, answers, ranToo, agreed, seen⟩ :=
          inductionHypothesis (unchanged.symm.trans agree) tail own.2
        refine ⟨same, answers, by simpa using ranToo, agreed, ?_⟩
        intro handle
        simpa [history, stepped, unseen] using seen handle
      · obtain ⟨same, answer, steppedToo, agreedNext⟩ := agree.step mine stepped
        obtain ⟨final, answers, ranToo, agreed, seen⟩ :=
          inductionHypothesis agreedNext tail own.2
        refine ⟨final, answer :: answers, ?_, agreed, ?_⟩
        · rw [List.filter_cons_of_pos (by simpa using mine)]
          exact run?_cons.mpr ⟨same, answer, answers, steppedToo, ranToo, rfl⟩
        · intro handle
          rw [List.filter_cons_of_pos (by simpa using mine)]
          simp only [history, stepped, steppedToo, seen handle]
          rw [agree.visit? mine event handle]

end Agree

end World

end LatchMutex
