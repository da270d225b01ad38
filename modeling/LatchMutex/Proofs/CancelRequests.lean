import LatchMutex.Proofs.Registrations

namespace LatchMutex

/-!
# Where cancel requests go

A request raises the pending flag of one thread, and only a delivery to this thread
lowers it again.  Looking back over a whole run, a flag is up exactly when a request
to the thread has not been followed by a delivery to it, and a thread is known by its
identity exactly between its first use of the facade and its exit.  Whether the request
came through the registry or a handle, it has found the cell that the thread reads.

`World.Recounts` says so of a history of steps; every step of every run keeps it.
-/

/-- One small step of a run, with its answer. -/
structure Happening where
  thread : ThreadId
  event : Event
  reply : Reply
  deriving Repr, DecidableEq

namespace Happening

/-- The steps of a run with their answers. -/
def ofRun (events : List (ThreadId × Event)) (replies : List Reply) : List Happening :=
  events.zipWith (fun step reply => { thread := step.1, event := step.2, reply }) replies

/-- Whether the step is a request that reaches a thread. -/
def raises (target : ThreadId) (happening : Happening) : Bool :=
  match happening.event, happening.reply with
  | .request asked, .silent => asked = target
  | .requestById asked, .known answer => answer && asked = target
  | _, _ => false

/-- Whether the step is the delivery of a cancellation to a thread. -/
def delivers (target : ThreadId) (happening : Happening) : Bool :=
  happening.thread = target ∧ happening.reply = .canceled

/-- Whether the step is the use of the facade by a thread. -/
def touches (target : ThreadId) (happening : Happening) : Bool :=
  happening.thread = target ∧ happening.event.touches = true

/-- Whether the step is the exit of a thread. -/
def exits (target : ThreadId) (happening : Happening) : Bool :=
  happening.thread = target ∧ happening.event = .exit

/-- Whether the step is the making of a handle by a thread. -/
def hands (target : ThreadId) (happening : Happening) : Bool :=
  happening.thread = target ∧ happening.event = .makeHandle

/-- A request to a thread that no delivery to the thread has followed. -/
def Outstanding (target : ThreadId) (past : List Happening) : Prop :=
  ∃ earlier request later,
    past = earlier ++ request :: later ∧
      request.raises target = true ∧
      ∀ happening ∈ later, happening.delivers target = false

/-- A request is no delivery. -/
theorem delivers_of_raises
    {target : ThreadId}
    {happening : Happening}
    (raises : happening.raises target = true)
    (other : ThreadId) :
    happening.delivers other = false := by
  obtain ⟨thread, event, reply⟩ := happening
  cases reply with
  | canceled =>
      cases event <;> contradiction
  | _ =>
      simp [delivers]

/-- Whether a request is outstanding after one more step. -/
theorem outstanding_snoc
    {target : ThreadId}
    {past : List Happening}
    {happening : Happening} :
    Outstanding target (past ++ [happening]) ↔
      happening.raises target = true ∨
        happening.delivers target = false ∧ Outstanding target past := by
  constructor
  · rintro ⟨earlier, request, later, split, raises, undelivered⟩
    obtain rfl | ⟨between, last, rfl⟩ := List.eq_nil_or_concat' later
    · obtain ⟨-, same⟩ := List.append_inj' split rfl
      rw [List.cons.inj same |>.1]
      exact .inl raises
    · rw [← List.cons_append, ← List.append_assoc] at split
      obtain ⟨rfl, same⟩ := List.append_inj' split rfl
      obtain ⟨rfl, -⟩ := List.cons.inj same
      refine .inr ⟨undelivered _ (by simp), earlier, request, between, rfl, raises, ?_⟩
      exact fun other member => undelivered other (by simp [member])
  · rintro (raises | ⟨undelivered, earlier, request, later, rfl, raises, none⟩)
    · exact ⟨past, happening, [], rfl, raises, by simp⟩
    · refine ⟨earlier, request, later ++ [happening], by simp, raises, fun other member => ?_⟩
      obtain member | last := List.mem_append.mp member
      · exact none other member
      · rw [List.mem_singleton.mp last]
        exact undelivered

/-- Whether a thread has used the facade and not exited. -/
def isKnown (target : ThreadId) (past : List Happening) : Bool :=
  past.any (touches target) && !past.any (exits target)

/-- What a step has to be after the steps before it. -/
structure Fits (happening : Happening) (earlier : List Happening) : Prop where
  /-- A request by identity is answered by whether the thread is known. -/
  answered :
    ∀ target,
      happening.event = .requestById target →
      happening.reply = .known (isKnown target earlier)
  /-- A delivery answers an outstanding request to the same thread. -/
  due : happening.reply = .canceled → Outstanding happening.thread earlier
  /-- A thread takes no step after its exit. -/
  awake : earlier.any (exits happening.thread) = false

end Happening

namespace World

/-- How a step treats what is known of the threads. -/
structure Tracks (world : World) (happening : Happening) (next : World) : Prop where
  pending :
    ∀ other,
      (next.thread other).cancel.pending =
        (happening.raises other ||
          (world.thread other).cancel.pending && !happening.delivers other)
  touched :
    ∀ other,
      (next.thread other).touched =
        ((world.thread other).touched || happening.touches other)
  exited :
    ∀ other,
      (next.thread other).exited =
        ((world.thread other).exited || happening.exits other)
  handed :
    ∀ other,
      next.facade.isHanded other = (world.facade.isHanded other || happening.hands other)
  /-- A request that reaches its thread raises its flag and does nothing else. -/
  raised :
    ∀ target,
      happening.raises target = true →
      next = world.raisePending target
  answered :
    ∀ target,
      happening.event = .requestById target →
      happening.reply = .known (world.isRegistered target)
  /-- A delivery needs a thread that is enabled, and asynchronous where it tests. -/
  due :
    happening.reply = .canceled →
      (world.thread happening.thread).cancel.state = .enabled ∧
        (world.thread happening.thread).cancel.pending = true ∧
        (world.thread happening.thread).admits happening.event = true
  awake : (world.thread happening.thread).exited = false

variable {world next : World} {me : ThreadId} {event : Event} {reply : Reply}

/-- The flag that a request raises, seen from any thread. -/
theorem pending_raisePending
    {target : ThreadId}
    (enrolled : world.facade.isEnrolled target = true)
    (other : ThreadId) :
    ((world.raisePending target).thread other).cancel.pending =
      (decide (target = other) || (world.thread other).cancel.pending) := by
  by_cases same : target = other
  · subst same
    simp [thread_raisePending_self enrolled, CancelStatus.request]
  · simp [thread_raisePending_of_ne _ (Ne.symm same), same]

/-- A request that has found its way to the cell of a thread raises one flag. -/
theorem tracks_raisePending
    {target : ThreadId}
    (awake : (world.thread me).exited = false)
    (enrolled : world.facade.isEnrolled target = true)
    (asks : event.requests target = true)
    (raises :
      ∀ other, Happening.raises other ⟨me, event, reply⟩ = decide (target = other))
    (answered :
      ∀ other, event = .requestById other → reply = .known (world.isRegistered other))
    (calm : reply ≠ .canceled) :
    world.Tracks ⟨me, event, reply⟩ (world.raisePending target) where
  pending := by
    intro other
    rw [pending_raisePending enrolled, raises]
    simp [Happening.delivers, calm]
  touched := by
    intro other
    obtain ⟨pending, same⟩ := world.thread_raisePending target other
    simp [same, Happening.touches, event.touches_of_requests asks]
  exited := by
    intro other
    obtain ⟨pending, same⟩ := world.thread_raisePending target other
    simp [same, Happening.exits, event.ne_exit_of_requests asks]
  handed := by
    intro other
    simp [Happening.hands, event.ne_makeHandle_of_requests asks]
  raised := by
    intro other reaches
    rw [raises, decide_eq_true_iff] at reaches
    rw [reaches]
  answered := answered
  due := fun canceled => absurd canceled calm
  awake := awake

/-- A request to a thread that is not known does nothing. -/
theorem tracks_self
    {target : ThreadId}
    (awake : (world.thread me).exited = false)
    (unregistered : world.isRegistered target = false) :
    world.Tracks ⟨me, .requestById target, .known false⟩ world where
  pending := by simp [Happening.raises, Happening.delivers]
  touched := by simp [Happening.touches, Event.touches]
  exited := by simp [Happening.exits]
  handed := by simp [Happening.hands]
  raised := by simp [Happening.raises]
  answered := by
    rintro other ⟨⟩
    rw [unregistered]
  due := by simp
  awake := awake

/-- Only the making of a handle, by its own thread, makes a thread one that has a handle. -/
theorem step?_isHanded
    (stepped : world.step? me event = some (next, reply))
    (other : ThreadId) :
    next.facade.isHanded other =
      (world.facade.isHanded other || Happening.hands other ⟨me, event, reply⟩) := by
  have keeps (after : Thread) :
      (world.setThread me after).facade.isHanded other = world.facade.isHanded other :=
    CancelFacade.isHanded_follow _
  cases (step?_eq_some_iff.mp stepped).2 with
  | idle free stepped =>
      cases stepIdle?_idles stepped with
      | sharesHandle =>
          have enrolled :
              (world.setThread me
                { world.thread me with touched := true }).facade.isEnrolled me = true := by
            simp [World.setThread, CancelFacade.isEnrolled_follow_self]
          simp only [World.shareHandle, CancelFacade.isHanded_share, enrolled, keeps]
          simp [Happening.hands, eq_comm]
      | requests | requestsById =>
          simp [Happening.hands]
      | calls | drops =>
          simp [Happening.hands, keeps]
      | acts own =>
          cases event <;> first | contradiction | simp [Happening.hands, keeps]
      | refuses | misses | places | resets =>
          simp [Happening.hands, World.setCell]
  | visits | spins | waits =>
      simp [Happening.hands, World.afterVisit, World.setThread, World.setCell,
        CancelFacade.isHanded_follow]
  | _ =>
      simp [Happening.hands, keeps]

/-- Any other step treats only what its own thread has. -/
theorem tracks_of_unrequested
    (stepped : world.step? me event = some (next, reply))
    (asks : ∀ target, event.requests target = false) :
    world.Tracks ⟨me, event, reply⟩ next := by
  have own := step?_spends stepped (asks me)
  have others {other : ThreadId} (different : other ≠ me) :
      next.thread other = world.thread other :=
    step?_thread_of_unrequested stepped different (asks other)
  have quiet (other : ThreadId) : Happening.raises other ⟨me, event, reply⟩ = false := by
    cases event with
    | request target | requestById target =>
        simpa [Event.requests] using asks target
    | _ =>
        rfl
  constructor
  case pending =>
    intro other
    by_cases mine : me = other
    · subst mine
      simp [quiet, Happening.delivers, own.pending]
    · simp [quiet, Happening.delivers, mine, others (Ne.symm mine)]
  case touched =>
    intro other
    by_cases mine : me = other
    · subst mine
      simp [Happening.touches, own.touched]
    · simp [Happening.touches, mine, others (Ne.symm mine)]
  case exited =>
    intro other
    by_cases mine : me = other
    · subst mine
      simp [Happening.exits, own.exited]
    · simp [Happening.exits, mine, others (Ne.symm mine)]
  case handed =>
    exact step?_isHanded stepped
  case raised =>
    intro target reaches
    simp [quiet] at reaches
  case answered =>
    rintro target rfl
    simpa [Event.requests] using asks target
  case due =>
    exact own.due
  case awake =>
    exact (step?_eq_some_iff.mp stepped).1

/-- Every small step treats flags and registrations as it should. -/
theorem step?_tracks (stepped : world.step? me event = some (next, reply)) :
    world.Tracks ⟨me, event, reply⟩ next := by
  by_cases asks : ∀ target, event.requests target = false
  · exact tracks_of_unrequested stepped asks
  obtain ⟨target, asks⟩ := not_forall.mp asks
  rw [Bool.not_eq_false] at asks
  obtain ⟨awake, kind⟩ := step?_eq_some_iff.mp stepped
  cases kind with
  | idle free stepped =>
      cases stepIdle?_idles stepped with
      | requests handed =>
          exact
            tracks_raisePending awake (world.facade.isEnrolled_of_isHanded handed)
              (decide_eq_true rfl) (fun _ => rfl) (by simp) (by simp)
      | requestsById registered =>
          refine
            tracks_raisePending awake (world.facade.isEnrolled_of_isRegistered registered)
              (decide_eq_true rfl) (fun _ => Bool.true_and _) ?_ (by simp)
          rintro other ⟨⟩
          rw [registered]
      | misses unregistered =>
          exact tracks_self awake unregistered
      | acts own =>
          cases event <;> contradiction
      | _ =>
          contradiction
  | _ =>
      contradiction

end World

namespace World

/-- What a history of steps says of a world that it has led to. -/
structure Recounts (world : World) (past : List Happening) : Prop where
  pending :
    ∀ target,
      (world.thread target).cancel.pending = true ↔ Happening.Outstanding target past
  touched : ∀ target, (world.thread target).touched = past.any (Happening.touches target)
  exited : ∀ target, (world.thread target).exited = past.any (Happening.exits target)
  /-- A thread has its cell from its first use of the facade on. -/
  enrolled : ∀ target, world.facade.isEnrolled target = past.any (Happening.touches target)
  /-- The registry leads to a thread exactly while it is known. -/
  registered : ∀ target, world.isRegistered target = Happening.isKnown target past
  handed : ∀ target, world.facade.isHanded target = past.any (Happening.hands target)
  /-- Every step fits the steps before it. -/
  fits :
    ∀ earlier happening later,
      past = earlier ++ happening :: later →
      happening.Fits earlier

namespace Recounts

variable {world next last : World} {past : List Happening} {me : ThreadId} {event : Event}
  {reply : Reply}

/-- Before anything happened no flag is up and no thread is known. -/
theorem initial : World.initial.Recounts [] where
  pending := by
    intro target
    refine iff_of_false Bool.false_ne_true ?_
    rintro ⟨earlier, request, later, split, -⟩
    simp at split
  touched := fun _ => rfl
  exited := fun _ => rfl
  enrolled := fun _ => rfl
  registered := fun _ => rfl
  handed := fun _ => rfl
  fits := by simp

/-- The registry is right in a world that a history recounts. -/
theorem registers (recounts : world.Recounts past) : world.Registers where
  enrolled target := by rw [recounts.enrolled, recounts.touched]
  registered target := by
    rw [recounts.registered, recounts.touched, recounts.exited, Happening.isKnown]

/-- A small step continues the history. -/
theorem step
    (recounts : world.Recounts past)
    (stepped : world.step? me event = some (next, reply)) :
    next.Recounts (past ++ [⟨me, event, reply⟩]) := by
  have tracks := step?_tracks stepped
  have registers := recounts.registers.step stepped
  constructor
  case pending =>
    intro target
    rw [tracks.pending, Happening.outstanding_snoc, ← recounts.pending target]
    simp [and_comm]
  case touched =>
    intro target
    simp [tracks.touched, recounts.touched]
  case exited =>
    intro target
    simp [tracks.exited, recounts.exited]
  case enrolled =>
    intro target
    simp [registers.enrolled, tracks.touched, recounts.touched]
  case registered =>
    intro target
    simp [registers.registered, Happening.isKnown, tracks.touched, recounts.touched,
      tracks.exited, recounts.exited]
  case handed =>
    intro target
    simp [tracks.handed, recounts.handed]
  case fits =>
    intro earlier happening later split
    obtain rfl | ⟨between, final, rfl⟩ := List.eq_nil_or_concat' later
    · obtain ⟨rfl, same⟩ := List.append_inj' split rfl
      obtain ⟨rfl, -⟩ := List.cons.inj same
      exact
        { answered := fun target asked => by
            rw [tracks.answered target asked, recounts.registered]
          due := fun canceled => (recounts.pending _).mp (tracks.due canceled).2.1
          awake := by rw [← recounts.exited, tracks.awake] }
    · rw [← List.cons_append, ← List.append_assoc] at split
      exact recounts.fits earlier happening between (List.append_inj' split rfl).1

/-- So does a whole run. -/
theorem run
    {events : List (ThreadId × Event)}
    {replies : List Reply}
    (recounts : world.Recounts past)
    (ran : world.run? events = some (last, replies)) :
    last.Recounts (past ++ Happening.ofRun events replies) := by
  induction events generalizing world past replies with
  | nil =>
      cases ran
      simpa [Happening.ofRun] using recounts
  | cons happened rest inductionHypothesis =>
      obtain ⟨me, event⟩ := happened
      obtain ⟨next, reply, later, stepped, continued, rfl⟩ := run?_cons.mp ran
      simpa [Happening.ofRun] using inductionHypothesis (recounts.step stepped) continued

/-- Between two deliveries to a thread there is a request to it. -/
theorem request_between
    {target : ThreadId}
    {earlier middle later : List Happening}
    {first second : Happening}
    (recounts : world.Recounts (earlier ++ first :: (middle ++ second :: later)))
    (delivered : first.delivers target = true)
    (again : second.delivers target = true) :
    ∃ request ∈ middle, request.raises target = true := by
  obtain ⟨rfl, canceled⟩ := of_decide_eq_true again
  have fits := recounts.fits (earlier ++ first :: middle) second later (by simp)
  obtain ⟨before, request, after, split, raises, undelivered⟩ := fits.due canceled
  have different : first ≠ request := by
    rintro rfl
    rw [Happening.delivers_of_raises raises] at delivered
    contradiction
  obtain ⟨between, rfl, found⟩ | ⟨between, rfl, found⟩ := List.append_eq_append_iff.mp split
  · cases between with
    | nil =>
        exact absurd (List.cons.inj found).1 different
    | cons _ between =>
        obtain ⟨-, rfl⟩ := List.cons.inj found
        exact ⟨request, by simp, raises⟩
  · cases between with
    | nil =>
        exact absurd (List.cons.inj found).1.symm different
    | cons _ between =>
        obtain ⟨-, rfl⟩ := List.cons.inj found
        have late := undelivered first (by simp)
        rw [delivered] at late
        contradiction

/-- A thread does nothing any more after its exit. -/
theorem thread_ne_of_exits
    {target : ThreadId}
    {earlier later : List Happening}
    {exit : Happening}
    (recounts : world.Recounts (earlier ++ exit :: later))
    (exits : exit.exits target = true) :
    ∀ happening ∈ later, happening.thread ≠ target := by
  rintro happening member rfl
  obtain ⟨before, after, rfl⟩ := List.append_of_mem member
  have fits := recounts.fits (earlier ++ exit :: before) happening after (by simp)
  have awake := fits.awake
  simp [exits] at awake

end Recounts

/-- What a handle shows is the flag that its thread reads. -/
theorem seenPending?_eq (world : World) (target : ThreadId) :
    world.facade.seenPending? target =
      if world.facade.isHanded target = true then
        some (world.thread target).cancel.pending
      else
        none := by
  rw [CancelFacade.seenPending?, CancelFacade.isHanded]
  cases found : world.facade.handles.find? target with
  | none => rfl
  | some handle =>
      have there := (world.facade.handed target handle found).2
      simp [World.thread, CancelFacade.pending?, there]

/--
Whatever threads do from the beginning on, flags, cells, registrations and handles are
what the steps so far amount to, and every request by identity was answered accordingly.
Deliveries to a thread are separated by requests to it, and end with its exit.  A handle
shows the flag of the thread that has made it.  A thread that is still there and in no
call can request by any identity, and through the handle of every thread that has made
one, even after the exit of that thread; such a request raises the flag.
-/
theorem cancel_requests_exact
    {events : List (ThreadId × Event)}
    {replies : List Reply}
    {world : World}
    (ran : initial.run? events = some (world, replies)) :
    let past := Happening.ofRun events replies
    world.Recounts past ∧
      (∀ target earlier first middle second later,
        past = earlier ++ first :: (middle ++ second :: later) →
        first.delivers target = true →
        second.delivers target = true →
        ∃ request ∈ middle, request.raises target = true) ∧
      (∀ target earlier exit later,
        past = earlier ++ exit :: later →
        exit.exits target = true →
        ∀ happening ∈ later, happening.thread ≠ target) ∧
      (∀ me event next reply,
        world.step? me event = some (next, reply) →
        world.Tracks ⟨me, event, reply⟩ next) ∧
      (∀ target,
        world.facade.seenPending? target =
          if past.any (Happening.hands target) = true then
            some (world.thread target).cancel.pending
          else
            none) ∧
      ∀ me target,
        (world.thread me).exited = false →
        (world.thread me).call = none →
        (past.any (Happening.hands target) = true →
          ∃ next,
            world.step? me (.request target) = some (next, .silent) ∧
              (next.thread target).cancel.pending = true) ∧
          ∃ next,
            world.step? me (.requestById target) =
              some (next, .known (Happening.isKnown target past)) := by
  have recounts : world.Recounts (Happening.ofRun events replies) := Recounts.initial.run ran
  refine ⟨recounts, ?_, ?_, fun me event next reply => step?_tracks, ?_, ?_⟩
  · intro target earlier first middle second later split
    rw [split] at recounts
    exact recounts.request_between
  · intro target earlier exit later split
    rw [split] at recounts
    exact recounts.thread_ne_of_exits
  · intro target
    rw [seenPending?_eq, recounts.handed]
  · intro me target awake free
    have possible
        {event : Event}
        {next : World}
        {reply : Reply}
        (idles : world.Idles me event next reply) :
        world.step? me event = some (next, reply) :=
      step?_eq_some_iff.mpr ⟨awake, .idle free idles.possible⟩
    constructor
    · intro made
      have handed : world.facade.isHanded target = true := by
        rw [recounts.handed, made]
      refine ⟨world.raisePending target, possible (.requests handed), ?_⟩
      simp [pending_raisePending (world.facade.isEnrolled_of_isHanded handed)]
    · rw [← recounts.registered]
      cases registered : world.isRegistered target with
      | false => exact ⟨world, possible (.misses registered)⟩
      | true => exact ⟨world.raisePending target, possible (.requestsById registered)⟩

/--
A worker gives a handle away, is asked to stop by its identity, tests while it is disabled
and again once it is enabled, and exits; its identity is not known any more, but the handle
still leads to its cell.
-/
def stoppedWorker : List (ThreadId × Event) :=
  [(⟨1⟩, .makeHandle), (⟨0⟩, .requestById ⟨1⟩), (⟨1⟩, .setState .disabled),
    (⟨1⟩, .setType .asynchronous), (⟨1⟩, .test), (⟨1⟩, .setState .enabled), (⟨1⟩, .test),
    (⟨1⟩, .exit), (⟨0⟩, .requestById ⟨1⟩), (⟨0⟩, .request ⟨1⟩)]

/-- The hypothesis of `cancel_requests_exact` holds of this run, whose answers can be computed. -/
theorem cancel_requests_exact_stoppedWorker :
    ∃ world replies,
      initial.run? stoppedWorker = some (world, replies) ∧
        replies =
          [.silent, .known true, .previousState .enabled, .previousType .deferred, .silent,
            .previousState .disabled, .canceled, .silent, .known false, .silent] ∧
        world.Recounts (Happening.ofRun stoppedWorker replies) ∧
        world.facade.seenPending? ⟨1⟩ = some true := by
  have ran : (initial.run? stoppedWorker).isSome = true := by decide
  obtain ⟨⟨world, replies⟩, ran⟩ := Option.isSome_iff_exists.mp ran
  obtain ⟨recounts, -⟩ := cancel_requests_exact ran
  have computed :
      (initial.run? stoppedWorker).map
          (fun final => (final.2, final.1.facade.seenPending? ⟨1⟩)) =
        some
          ([.silent, .known true, .previousState .enabled, .previousType .deferred, .silent,
            .previousState .disabled, .canceled, .silent, .known false, .silent], some true) := by
    decide
  rw [ran] at computed
  obtain ⟨rfl, pending⟩ := Prod.mk.inj (Option.some.inj computed)
  exact ⟨world, _, ran, rfl, recounts, pending⟩

end World

end LatchMutex
