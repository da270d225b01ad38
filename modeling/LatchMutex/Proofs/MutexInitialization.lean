import LatchMutex.Proofs.AttributeLiveness
import LatchMutex.Proofs.LoneCalls

namespace LatchMutex

/-!
# The initialization of a mutex

The storage of a mutex is not looked at when the mutex is initialized: it is left
alone as long as an argument can be refused, then it is overwritten by an empty
handle, and only then sharing is refused or memory may be missing.  So what is
left tells how far the initialization got.  The mutex keeps a copy of the
attributes, and what becomes of their object later is nothing to it.
-/

namespace World

variable
  {me : ThreadId} {handle other : HandleId} {world next : World} {event : Event} {reply : Reply}

/-- A thread visits the handle of its call only. -/
theorem visit?_of_elsewhere
    (elsewhere : ∀ call, (world.thread me).call = some call → call.handle ≠ other) :
    world.visit? me event other = none := by
  apply Option.eq_none_iff_forall_not_mem.mpr
  intro visit visits
  obtain ⟨-, call, running, here, -⟩ := visit?_eq_some_iff.mp visits
  exact elsewhere call running here

/-- A step of a call leaves the other handles alone. -/
theorem cell_of_elsewhere
    (stepped : world.step? me event = some (next, reply))
    (kept : event.keeps other = true)
    (elsewhere : ∀ call, (world.thread me).call = some call → call.handle ≠ other) :
    next.cells.get other = world.cells.get other := by
  have cell := step?_cell stepped kept
  rwa [visit?_of_elsewhere elsewhere] at cell

theorem apply_of_step? (stepped : world.step? me event = some (next, reply)) :
    world.apply me event = (next, reply) := by
  rw [apply, stepped, Option.getD_some]

/-- A call that its first section finishes is performed to its end, and alters no other handle. -/
theorem Ready.performs
    {slot : Slot}
    {budget : Budget}
    {operation : Operation}
    {result : Result}
    (ready : world.Ready me handle slot budget)
    (accepted : operation.isRefused = false)
    (guarded : Bool)
    (finishes : (operation.enter me slot budget).progress = .finished result) :
    ∃ after,
      world.perform me (.call handle operation guarded) = (after, .returned result) ∧
        after.Ready me handle
          (operation.enter me slot budget).slot (operation.enter me slot budget).budget ∧
        ∀ other, other ≠ handle → after.cells.get other = world.cells.get other := by
  obtain ⟨entered, started, serving⟩ := ready.starts accepted guarded
  obtain ⟨visited, ran, leaving⟩ := serving.visits (.inl rfl) (by
    change (operation.enter me slot budget).progress ≠ .spinning
    simp [finishes])
  have phase :
      Phase.ofProgress (operation.enter me slot budget).progress = .leaving result := by
    rw [finishes, Phase.ofProgress]
  obtain ⟨after, returned, done⟩ := leaving.leaves phase
  refine ⟨after, ?_, done, ?_⟩
  · have busy : visited.isParked me = false := by
      rw [isParked, leaving.running]
      change decide (Phase.ofProgress (operation.enter me slot budget).progress = .parked) = false
      simp [phase]
    simp [perform, apply_of_step? started, follow, followFor, apply_of_step? ran, busy,
      apply_of_step? returned]
  · intro other different
    have first : entered.cells.get other = world.cells.get other :=
      cell_of_elsewhere started rfl (by simp [ready.idle])
    have second : visited.cells.get other = entered.cells.get other :=
      cell_of_elsewhere ran rfl (by simp [serving.running, Ne.symm different])
    have third : after.cells.get other = visited.cells.get other :=
      cell_of_elsewhere returned rfl (by simp [leaving.running, Ne.symm different])
    rw [third, second, first]

end World

namespace Slot

variable {attributes : Option Attributes} {budget : Budget}

/-- With memory a creation leaves a fresh record. -/
theorem create_of_empty (empty : budget.failures = 0) :
    create attributes budget =
      { progress := .finished (.ok .done)
        slot := .constructed (Record.fresh attributes)
        budget } := by
  rw [create, Budget.allocate_of_empty empty]

/-- Without memory it leaves the sentinel, and one failure less to come. -/
theorem create_of_positive (positive : budget.failures ≠ 0) :
    create attributes budget =
      { progress := .finished (.error .outOfMemory)
        slot := .sentinel
        budget := { failures := budget.failures - 1 } } := by
  rw [create, Budget.allocate_of_positive positive]
  rfl

end Slot

/-- Only sharing between processes keeps a creation from being let in. -/
theorem Operation.isRefused_create_eq_false_iff {attributes : Option Attributes} :
    (create attributes).isRefused = false ↔
      ∀ object ∈ attributes, object.sharing = .processPrivate := by
  cases attributes with
  | none =>
      simp [Operation.isRefused]
  | some object =>
      cases sharing : object.sharing <;> simp [Operation.isRefused, sharing]

namespace Platform

variable {platform : Platform} {level : SafetyLevel} {me : ThreadId} {handle : HandleId}
  {slot : Option SlotId}

/-- An initialization whose attributes are refused leaves everything as it was. -/
theorem initMutex_of_refused
    {fault : Fault}
    (refused : platform.boundary.attributesOf level slot = .ok (.error fault)) :
    platform.initMutex level me (some handle) slot =
      .ok (.returned (.error fault), platform) := by
  simp only [initMutex, startInit, refused]
  rfl

/-- Otherwise it is a creation in an empty handle. -/
theorem initMutex_of_accepted
    {attributes : Option Attributes}
    (accepted : platform.boundary.attributesOf level slot = .ok (.ok attributes)) :
    let performed :=
      (platform.world.setCell handle {}).perform me (.call handle (.create attributes) false)
    platform.initMutex level me (some handle) slot =
      .ok (performed.2, { platform with world := performed.1 }) := by
  have started :
      platform.startInit level me handle slot =
        .ok (.ok ((platform.world.setCell handle {}).apply me
          (.call handle (.create attributes) false))) := by
    simp only [startInit, accepted]
    rfl
  simp only [initMutex, started, World.perform]
  generalize
    (platform.world.setCell handle {}).apply me (.call handle (.create attributes) false) = answered
  obtain ⟨world, reply⟩ := answered
  cases reply <;> rfl

/-- What an initialization changes that gets as far as the storage: this and the budget. -/
structure Overwrites
    (before after : Platform)
    (me : ThreadId)
    (handle : HandleId)
    (left : Slot)
    (failures : UInt32) : Prop where
  objects : after.boundary = before.boundary
  cell : after.world.cells.get handle = { slot := left }
  others :
    ∀ other, other ≠ handle → after.world.cells.get other = before.world.cells.get other
  budget : (after.world.thread me).budget.failures = failures

/-- A creation in an empty handle that is not refused constructs a record or lacks memory. -/
theorem initMutex_creates
    {attributes : Option Attributes}
    (accepted : platform.boundary.attributesOf level slot = .ok (.ok attributes))
    (awake : (platform.world.thread me).exited = false)
    (idle : (platform.world.thread me).call = none)
    (deferred : (platform.world.thread me).cancel.type = .deferred)
    (unshared : (Operation.create attributes).isRefused = false)
    {result : Result}
    {left : Slot}
    {rest : Budget}
    (creates :
      Slot.create attributes (platform.world.thread me).budget =
        { progress := .finished result, slot := left, budget := rest }) :
    ∃ after,
      platform.initMutex level me (some handle) slot = .ok (.returned result, after) ∧
        platform.Overwrites after me handle left rest.failures := by
  have quiet : (platform.world.thread me).cancel.isDeliverable = false := by
    simp [CancelStatus.isDeliverable, deferred]
  have ready :
      (platform.world.setCell handle {}).Ready me handle .empty
        (platform.world.thread me).budget :=
    { awake, idle, quiet, funded := rfl, cell := Table.get_set_self _ _ _ }
  have finishes :
      ((Operation.create attributes).enter me .empty
        (platform.world.thread me).budget).progress = .finished result := by
    rw [Operation.enter, creates]
  obtain ⟨after, performed, done, others⟩ := ready.performs unshared false finishes
  rw [Operation.enter, creates] at done
  rw [initMutex_of_accepted accepted, performed]
  refine ⟨_, rfl, rfl, done.cell, ?_, by rw [done.funded]⟩
  intro other different
  exact (others other different).trans (Table.get_set_of_ne _ different _)

/-- A request for sharing is refused on the empty handle. -/
theorem initMutex_refuses
    {attributes : Option Attributes}
    (accepted : platform.boundary.attributesOf level slot = .ok (.ok attributes))
    (awake : (platform.world.thread me).exited = false)
    (idle : (platform.world.thread me).call = none)
    (shared : (Operation.create attributes).isRefused = true) :
    ∃ after,
      platform.initMutex level me (some handle) slot =
          .ok (.returned (.error .notSupported), after) ∧
        platform.Overwrites after me handle .empty (platform.world.thread me).budget.failures := by
  have stepped :
      (platform.world.setCell handle {}).step? me (.call handle (.create attributes) false) =
        some (platform.world.setCell handle {}, .returned (.error .notSupported)) := by
    simp [World.step?, World.stepIdle?, awake, idle, shared]
  have performed :
      (platform.world.setCell handle {}).perform me (.call handle (.create attributes) false) =
        (platform.world.setCell handle {}, .returned (.error .notSupported)) := by
    rw [World.perform, World.apply_of_step? stepped]
  rw [initMutex_of_accepted accepted, performed]
  exact ⟨_, rfl, rfl, Table.get_set_self _ _ _,
    fun other different => Table.get_set_of_ne _ different _, rfl⟩

end Platform

namespace AttributeSession

/-- What a slot gives for a mutex: nothing if it is null, or the attributes in a live object. -/
inductive Gives (session : AttributeSession) (slot : Option SlotId) : Option Attributes → Prop where
  | nothing
      (null : slot.bind session.boundary.handle = none) :
      Gives session slot none
  | object
      {address : Address} {attributes : Attributes}
      (leads : slot.bind session.boundary.handle = some address)
      (live : session.census.Live address)
      (there : session.boundary.heap.find? address = some attributes) :
      Gives session slot (some attributes)

/-- The status of an initialization and what it leaves, by what it is given. -/
inductive Initializes
    (session : AttributeSession)
    (me : ThreadId)
    (slot : Option SlotId) :
    Option HandleId → Int32 → Platform → Prop where
  | unpointed :
      Initializes session me slot none 22 session.platform
  | stale
      {handle : HandleId} {address : Address}
      (leads : slot.bind session.boundary.handle = some address)
      (gone : ¬ session.census.Live address)
      (hardened : session.level = .hardened) :
      Initializes session me slot (some handle) 22 session.platform
  | refuses
      {handle : HandleId} {attributes : Attributes} {after : Platform}
      (given : session.Gives slot (some attributes))
      (shared : attributes.sharing = .processShared)
      (leaves :
        session.platform.Overwrites after me handle .empty
          (session.platform.world.thread me).budget.failures) :
      Initializes session me slot (some handle) 38 after
  | starves
      {handle : HandleId} {attributes : Option Attributes} {after : Platform}
      (given : session.Gives slot attributes)
      (unshared : ∀ object ∈ attributes, object.sharing = .processPrivate)
      (pending : (session.platform.world.thread me).budget.failures ≠ 0)
      (leaves :
        session.platform.Overwrites after me handle .sentinel
          ((session.platform.world.thread me).budget.failures - 1)) :
      Initializes session me slot (some handle) 12 after
  | builds
      {handle : HandleId} {attributes : Option Attributes} {after : Platform} {kind : Kind}
      (given : session.Gives slot attributes)
      (unshared : ∀ object ∈ attributes, object.sharing = .processPrivate)
      (funded : (session.platform.world.thread me).budget.failures = 0)
      (resolved :
        kind =
          match attributes.map Attributes.kind with
          | none | some .byDefault => .recursive
          | some chosen => chosen)
      (leaves :
        session.platform.Overwrites after me handle
          (.constructed
            { kind, sharing := .processPrivate, lockIndex := unlocked, owner := none, waiters := 0,
              lastOwner := none, lastWaiter := none, tryGuard := 0 })
          0) :
      Initializes session me slot (some handle) 0 after

end AttributeSession

/-- Whether an event does nothing but to attribute objects, slots and the level. -/
def AttributeEvent.sparesMutexes : AttributeEvent → Bool
  | .call _ _ | .copy _ _ | .switch _ => true
  | .initMutex _ _ _ | .elsewhere _ => false

namespace AttributeSession

variable {session : AttributeSession} {me : ThreadId} {slot : Option SlotId}

/-- Such an event leaves all mutexes alone. -/
theorem cells_of_step
    {event : AttributeEvent}
    {answer : AttributeAnswer}
    {next : AttributeSession}
    (spares : event.sparesMutexes = true)
    (stepped : session.step event = .ok (answer, next)) :
    next.platform.world.cells = session.platform.world.cells := by
  cases event with
  | call me request =>
      simp only [step, Platform.callAttribute] at stepped
      cases performed :
        session.platform.boundary.perform session.platform.sharing session.level
          (session.platform.world.thread me).budget request with
      | error misuse =>
          rw [performed] at stepped
          contradiction
      | ok replied =>
          rw [performed] at stepped
          cases stepped
          rfl
  | copy | switch =>
      cases stepped
      rfl
  | initMutex | elsewhere =>
      contradiction

/-- So do any number of them. -/
theorem cells_of_run
    {events : List AttributeEvent}
    {answers : List AttributeAnswer}
    {last : AttributeSession}
    (spare : ∀ event ∈ events, event.sparesMutexes = true)
    (ran : session.run events = .ok (answers, last)) :
    last.platform.world.cells = session.platform.world.cells := by
  induction events generalizing session answers with
  | nil =>
      cases ran
      rfl
  | cons event rest inductionHypothesis =>
      obtain ⟨spares, spareRest⟩ := List.forall_mem_cons.mp spare
      rw [run] at ran
      cases stepped : session.step event with
      | error misuse =>
          rw [stepped] at ran
          contradiction
      | ok replied =>
          obtain ⟨answer, next⟩ := replied
          rw [stepped] at ran
          change (next.run rest >>= fun later => pure (answer :: later.1, later.2)) = _ at ran
          cases continued : next.run rest with
          | error misuse =>
              rw [continued] at ran
              contradiction
          | ok later =>
              rw [continued] at ran
              cases ran
              rw [inductionHypothesis spareRest continued, cells_of_step spares stepped]

/-- What a slot leads to is found, and is given if it is live. -/
theorem attributesOf_cases
    (tallies : session.boundary.Tallies session.census)
    {handle : HandleId}
    (permitted : session.Permits (.initMutex me (some handle) slot)) :
    (∃ attributes,
        session.Gives slot attributes ∧
          session.boundary.attributesOf session.level slot = .ok (.ok attributes)) ∨
      ∃ address,
        slot.bind session.boundary.handle = some address ∧
          ¬ session.census.Live address ∧
          session.level = .hardened ∧
          session.boundary.attributesOf session.level slot = .ok (.error .invalidArgument) := by
  cases leads : slot.bind session.boundary.handle with
  | none =>
      exact .inl ⟨none, .nothing leads, Boundary.attributesOf_of_not_handle leads⟩
  | some address =>
      obtain ⟨named, rfl, here⟩ := Option.bind_eq_some_iff.mp leads
      by_cases live : session.census.Live address
      · obtain ⟨resolved, attributes, there⟩ := tallies.resolve_of_live here live session.level
        exact .inl ⟨some attributes, .object leads live there,
          Boundary.attributesOf_of_resolved here resolved there⟩
      · have destroyed : address ∈ session.census.destroyed :=
          Decidable.byContradiction fun standing =>
            live ⟨tallies.created named address here, standing⟩
        have hardened := permitted address leads destroyed
        refine .inr ⟨address, rfl, live, hardened, ?_⟩
        apply Boundary.attributesOf_of_unresolved here
        rw [hardened]
        exact Boundary.resolve_of_not_mem here fun known =>
          live ((tallies.registry address).mp known)

/-- The record of a mutex that is initialized without sharing. -/
theorem fresh_of_unshared
    {attributes : Option Attributes}
    (unshared : ∀ object ∈ attributes, object.sharing = .processPrivate) :
    Record.fresh attributes =
      { kind :=
          match attributes.map Attributes.kind with
          | none | some .byDefault => .recursive
          | some chosen => chosen
        sharing := .processPrivate } := by
  cases attributes with
  | none =>
      rfl
  | some object =>
      have processPrivate := unshared object rfl
      cases chosen : object.kind <;>
        simp [Record.fresh, chosen, processPrivate, Kind.resolve]

/-- With attributes that are given it gets as far as the storage, and ends there. -/
theorem initializes_of_gives
    {handle : HandleId}
    {attributes : Option Attributes}
    (given : session.Gives slot attributes)
    (accepted : session.boundary.attributesOf session.level slot = .ok (.ok attributes))
    (awake : (session.platform.world.thread me).exited = false)
    (idle : (session.platform.world.thread me).call = none)
    (deferred : (session.platform.world.thread me).cancel.type = .deferred) :
    ∃ result after,
      session.platform.initMutex session.level me (some handle) slot =
          .ok (.returned result, after) ∧
        session.Initializes me slot (some handle) result.outcome.status after := by
  cases refused : (Operation.create attributes).isRefused with
  | true =>
      obtain ⟨object, rfl, shared⟩ :
          ∃ object, attributes = some object ∧ object.sharing = .processShared := by
        cases attributes with
        | none =>
            contradiction
        | some object =>
            exact ⟨object, rfl, by simpa [Operation.isRefused] using refused⟩
      obtain ⟨after, initialized, leaves⟩ :=
        Platform.initMutex_refuses accepted awake idle refused
      exact ⟨_, after, initialized, .refuses given shared leaves⟩
  | false =>
      have unshared := Operation.isRefused_create_eq_false_iff.mp refused
      by_cases empty : (session.platform.world.thread me).budget.failures = 0
      · obtain ⟨after, initialized, leaves⟩ :=
          Platform.initMutex_creates accepted awake idle deferred refused
            (Slot.create_of_empty empty)
        rw [fresh_of_unshared unshared, empty] at leaves
        exact ⟨_, after, initialized, .builds given unshared empty rfl leaves⟩
      · obtain ⟨after, initialized, leaves⟩ :=
          Platform.initMutex_creates accepted awake idle deferred refused
            (Slot.create_of_positive empty)
        exact ⟨_, after, initialized, .starves given unshared empty leaves⟩

/--
In a careful session, whatever the storage of the mutex holds and whatever failures
are pending, a deferred thread without a call that initializes a mutex is answered,
and not by a use of an object that is not there: it is refused with nothing changed
for lack of a pointer or of a live object, on the empty handle for sharing, and on
the sentinel for lack of memory, and else it has built a free record.  What then
happens to attribute objects, slots and the level changes no mutex any more.
-/
theorem initMutex_exact
    (sharing : Bool)
    (level : SafetyLevel)
    (world : World)
    (events : List AttributeEvent)
    (careful : (opening sharing level world).Careful events) :
    ∃ answers session,
      (opening sharing level world).run events = .ok (answers, session) ∧
        ∀ me mutex slot,
          session.Permits (.initMutex me mutex slot) →
          (session.platform.world.thread me).exited = false →
          (session.platform.world.thread me).call = none →
          (session.platform.world.thread me).cancel.type = .deferred →
          ∃ result after,
            session.platform.initMutex session.level me mutex slot =
                .ok (.returned result, after) ∧
              session.Initializes me slot mutex result.outcome.status after ∧
              ∀ later replies last,
                (∀ event ∈ later, event.sparesMutexes = true) →
                { session with platform := after }.run later = .ok (replies, last) →
                last.platform.world.cells = after.world.cells := by
  have start : (opening sharing level world).boundary.Tallies {} := .empty
  obtain ⟨answers, session, ran, tallies⟩ := run_ok start careful
  refine ⟨answers, session, ran, ?_⟩
  intro me mutex slot permitted awake idle deferred
  have ends :
      ∃ result after,
        session.platform.initMutex session.level me mutex slot =
            .ok (.returned result, after) ∧
          session.Initializes me slot mutex result.outcome.status after := by
    cases mutex with
    | none =>
        exact ⟨_, _, rfl, .unpointed⟩
    | some handle =>
        obtain ⟨attributes, given, accepted⟩ | ⟨address, leads, gone, hardened, refused⟩ :=
          attributesOf_cases tallies permitted
        · exact initializes_of_gives given accepted awake idle deferred
        · exact ⟨_, _, Platform.initMutex_of_refused refused, .stale leads gone hardened⟩
  obtain ⟨result, after, initialized, ends⟩ := ends
  exact ⟨result, after, initialized, ends, fun _ _ _ spare ran => cells_of_run spare ran⟩

/-- The mutex whose storage is given out again: thread 1 holds it. -/
def heldBefore : Record where
  kind := .normal
  sharing := .processPrivate
  lockIndex := 0
  owner := some ⟨1⟩
  waiters := 3
  lastOwner := some ⟨1⟩
  lastWaiter := some ⟨2⟩

/-- An object asks for checks; the storage of the mutex holds another one by then. -/
def checkedReuse : List AttributeEvent :=
  [.call ⟨0⟩ (.init (some ⟨0⟩)), .call ⟨0⟩ (.setKind (some ⟨0⟩) 2), .copy ⟨0⟩ ⟨1⟩,
    .switch .hardened, .elsewhere (World.opening ⟨0⟩ (.constructed heldBefore))]

/-- The owner of the object changes its mind and destroys it. -/
def changedMind : List AttributeEvent :=
  [.call ⟨1⟩ (.setKind (some ⟨1⟩) 0), .call ⟨1⟩ (.destroy (some ⟨1⟩))]

/-- The hypothesis of `initMutex_exact` holds of this session, and the object may go then. -/
theorem initMutex_exact_checkedReuse :
    ∃ answers session after replies last,
      (opening true .strict {}).run checkedReuse = .ok (answers, session) ∧
        session.platform.world.slot ⟨0⟩ = .constructed heldBefore ∧
        session.platform.initMutex session.level ⟨0⟩ (some ⟨0⟩) (some ⟨1⟩) =
          .ok (.returned (.ok .done), after) ∧
        session.Initializes ⟨0⟩ (some ⟨1⟩) (some ⟨0⟩) 0 after ∧
        { session with platform := after }.run changedMind = .ok (replies, last) ∧
        last.platform.world.cells = after.world.cells ∧
        after.world.slot ⟨0⟩ =
          .constructed { kind := .errorCheck, sharing := .processPrivate } := by
  obtain ⟨answers, session, ran, ends⟩ := initMutex_exact true .strict {} checkedReuse (by decide)
  have computed :
      ((opening true .strict {}).run checkedReuse).toOption.any (fun ran =>
        ran.2.Permits (.initMutex ⟨0⟩ (some ⟨0⟩) (some ⟨1⟩)) ∧
          (ran.2.platform.world.thread ⟨0⟩).exited = false ∧
          (ran.2.platform.world.thread ⟨0⟩).call = none ∧
          (ran.2.platform.world.thread ⟨0⟩).cancel.type = .deferred ∧
          ran.2.platform.world.slot ⟨0⟩ = .constructed heldBefore ∧
          (ran.2.platform.initMutex ran.2.level ⟨0⟩ (some ⟨0⟩) (some ⟨1⟩)).toOption.any
            fun initialized =>
              initialized.1 = .returned (.ok .done) ∧
                initialized.2.world.slot ⟨0⟩ =
                  .constructed { kind := .errorCheck, sharing := .processPrivate } ∧
                ({ ran.2 with platform := initialized.2 }.run changedMind).toOption.isSome) =
        true := by
    decide
  rw [ran] at computed
  obtain ⟨permitted, awake, idle, deferred, held, computed⟩ := of_decide_eq_true computed
  obtain ⟨result, after, initialized, ends, spared⟩ := ends _ _ _ permitted awake idle deferred
  rw [initialized] at computed
  obtain ⟨answered, built, goesOn⟩ := of_decide_eq_true computed
  cases answered
  obtain ⟨replies, last, changes⟩ :
      ∃ replies last,
        { session with platform := after }.run changedMind = .ok (replies, last) := by
    cases changes : ({ session with platform := after } : AttributeSession).run changedMind with
    | error misuse =>
        rw [changes] at goesOn
        contradiction
    | ok changed =>
        exact ⟨changed.1, changed.2, rfl⟩
  exact ⟨answers, session, after, replies, last, ran, held, initialized, ends, changes,
    spared changedMind replies last (by decide) changes, built⟩

end AttributeSession

end LatchMutex
