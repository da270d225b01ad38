import LatchMutex.Platform
import LatchMutex.Proofs.Allocations
import LatchMutex.Proofs.AttributeCalls

namespace LatchMutex

/-!
# Allocations of a process

A process is a platform together with attribute handles that threads use through
their methods.  Three kinds of its steps allocate: the first section of a call that
has no record to work on, the initialization of an attribute slot, and the creation
of an attribute handle.  `Process.accounts` says of every step what it spends and
what it creates.
-/

/-- A method that a thread calls on an attribute handle. -/
inductive OwnerCall where
  | create
  | destroy
  | setKind (code : Int32)
  | setSharing (code : Int32)
  | kind
  | sharing
  deriving Repr, DecidableEq

/-- Call a method of an attribute handle, without what a reading tells. -/
def AttributeHandle.call
    (supported : Bool)
    (handle : AttributeHandle)
    (budget : Budget) :
    OwnerCall → Outcome × AttributeHandle × Budget
  | .create => handle.create budget
  | .destroy => (handle.destroy.1, handle.destroy.2, budget)
  | .setKind code => ((handle.setKind code).1, (handle.setKind code).2, budget)
  | .setSharing code =>
      ((handle.setSharing supported code).1, (handle.setSharing supported code).2, budget)
  | .kind => (handle.kind.map fun _ => (), handle, budget)
  | .sharing => (handle.sharing.map fun _ => (), handle, budget)

/-- Identity of an attribute handle that is used through its methods. -/
structure OwnerId where
  number : Nat
  deriving Repr, DecidableEq, Inhabited

/-- The threads of a process with its mutexes and attribute objects. -/
structure Process where
  platform : Platform := {}
  /-- Level in force at the boundary. -/
  level : SafetyLevel := .strict
  owned : Table OwnerId AttributeHandle := {}
  deriving Repr, DecidableEq, Inhabited

/-- What a thread of a process calls that is over at once, or starts a call on a mutex. -/
inductive ProcessCall where
  | attributes (call : AttributeCall)
  | owner (owner : OwnerId) (call : OwnerCall)
  /-- Initialize a mutex; no mutex is the null pointer. -/
  | initMutex (mutex : Option HandleId) (slot : Option SlotId)
  /-- Any other operation on the null pointer. -/
  | nullMutex
  | copy (source target : SlotId)
  | switch (level : SafetyLevel)
  deriving Repr, DecidableEq

/-- What a thread of a process does in one step. -/
inductive ProcessEvent where
  /-- A small step of an operation on a mutex, or of the thread's own. -/
  | step (event : Event)
  | call (call : ProcessCall)
  deriving Repr, DecidableEq

/-- How a step of a process is answered. -/
inductive ProcessAnswer where
  | replied (reply : Reply)
  | status (reply : AttributeReply)
  | outcome (outcome : Outcome)
  deriving Repr

/-- Whether an outcome is a lack of memory. -/
def Outcome.lacksMemory : Outcome → Bool
  | .error fault => fault = .outOfMemory
  | .ok () => false

theorem Outcome.lacksMemory_iff {outcome : Outcome} :
    outcome.lacksMemory = true ↔ outcome = .error .outOfMemory := by
  cases outcome <;> simp [lacksMemory]

/-- Whether an answer reports that memory is missing. -/
def ProcessAnswer.lacksMemory : ProcessAnswer → Bool
  | .replied reply => reply = .returned (.error .outOfMemory)
  | .status reply => reply.status = Fault.outOfMemory.status
  | .outcome told => told.lacksMemory

/-- Whether an answer reports a success. -/
def ProcessAnswer.succeeds : ProcessAnswer → Bool
  | .replied reply => reply = .returned (.ok .done)
  | .status reply => reply = .success
  | .outcome told => told.toBool

/-- Whether a step neither injects failures nor overwrites storage. -/
def ProcessEvent.operates : ProcessEvent → Bool
  | .step (.inject _) | .step (.place _ _) => false
  | _ => true

theorem ProcessEvent.ne_inject
    {event : ProcessEvent}
    (operates : event.operates = true)
    (failures : UInt32) :
    event ≠ .step (.inject failures) := by
  rintro rfl
  contradiction

theorem ProcessEvent.ne_place
    {event : ProcessEvent}
    (operates : event.operates = true)
    (handle : HandleId)
    (slot : Slot) :
    event ≠ .step (.place handle slot) := by
  rintro rfl
  contradiction

namespace Process

/-- What belongs to a thread. -/
def thread (process : Process) (me : ThreadId) : Thread :=
  process.platform.world.thread me

/-- What a handle holds. -/
def slot (process : Process) (handle : HandleId) : Slot :=
  process.platform.world.slot handle

/-- Allocations of a thread that are still to fail. -/
def pending (process : Process) (me : ThreadId) : Nat :=
  (process.thread me).budget.failures.toNat

/-- Whether a thread can make a call. -/
def isFree (process : Process) (me : ThreadId) : Bool :=
  !(process.thread me).exited && (process.thread me).call.isNone

/-- Replace the world. -/
def withWorld (process : Process) (world : World) : Process :=
  { process with platform := { process.platform with world } }

/-- Make a call; a use of an object that is not allocated is none. -/
def call? (process : Process) (me : ThreadId) : ProcessCall → Option (ProcessAnswer × Process)
  | .attributes call =>
      match process.platform.callAttribute process.level me call with
      | .error _ => none
      | .ok (reply, platform) => some (.status reply, { process with platform })
  | .owner owner call =>
      let thread := process.thread me
      let (outcome, handle, budget) :=
        (process.owned.get owner).call process.platform.sharing thread.budget call
      let world := process.platform.world.setThread me { thread with budget }
      some (.outcome outcome,
        { process.withWorld world with owned := process.owned.set owner handle })
  | .initMutex none _ | .nullMutex =>
      some (.replied (.returned (.error .invalidArgument)), process)
  | .initMutex (some mutex) slot =>
      match process.platform.startInit process.level me mutex slot with
      | .error _ => none
      | .ok (.error fault) => some (.replied (.returned (.error fault)), process)
      | .ok (.ok (world, reply)) => some (.replied reply, process.withWorld world)
  | .copy source target =>
      let boundary := process.platform.boundary.copyHandle source target
      some (.replied .silent, { process with platform := { process.platform with boundary } })
  | .switch level => some (.replied .silent, { process with level })

/-- Take a step of a thread. -/
def step? (process : Process) (me : ThreadId) : ProcessEvent → Option (ProcessAnswer × Process)
  | .step event =>
      (process.platform.world.step? me event).map fun (world, reply) =>
        (.replied reply, process.withWorld world)
  | .call call => if process.isFree me then process.call? me call else none

/-- A run of all threads: the process after it and the answers, if every step is possible. -/
def run? : Process → List (ThreadId × ProcessEvent) →
    Option (Process × List (ThreadId × ProcessAnswer))
  | process, [] => some (process, [])
  | process, (who, event) :: rest => do
      let (answer, next) ← process.step? who event
      let (last, answers) ← next.run? rest
      pure (last, (who, answer) :: answers)

/-- Whether a step reaches an allocation. -/
def allocates (process : Process) (me : ThreadId) : ProcessEvent → Bool
  | .step event =>
      (process.platform.world.section? me event).any fun (_, visit) => visit.allocates
  | .call (.attributes (.init (some _))) => true
  | .call (.owner _ .create) => true
  | .call _ => false

/-- No attribute object and no mutex record is there that was not there before. -/
structure CreatesNothing (before after : Process) : Prop where
  objects :
    ∀ address,
      (after.platform.boundary.heap.find? address).isSome = true →
        (before.platform.boundary.heap.find? address).isSome = true
  owned :
    ∀ owner, (after.owned.get owner).isNull = false → (before.owned.get owner).isNull = false
  records : ∀ handle, (after.slot handle).isBuilt = true → (before.slot handle).isBuilt = true

/-- The objects stay as they are, and so do the slots, unless one is left a sentinel. -/
structure LeavesAlone (before after : Process) : Prop where
  boundary : after.platform.boundary = before.platform.boundary
  owned : ∀ owner, after.owned.get owner = before.owned.get owner
  slots : ∀ handle, after.slot handle = before.slot handle ∨ after.slot handle = .sentinel

/-- What a step creates that allocates: a record, an object in a slot, or one in a handle. -/
inductive Creates (before after : Process) (me : ThreadId) : ProcessEvent → Prop where
  | record
      {event : Event} {handle : HandleId} {visit : Visit}
      (runs : before.platform.world.section? me event = some (handle, visit))
      (succeeds : visit.done.progress = .finished (.ok .done))
      (built : (after.slot handle).isBuilt = true) :
      Creates before after me (.step event)
  | object
      {slot : SlotId}
      (placed : after.platform.boundary = before.platform.boundary.place slot) :
      Creates before after me (.call (.attributes (.init (some slot))))
  | owned
      {owner : OwnerId}
      (owns : after.owned.get owner = { object := some {} }) :
      Creates before after me (.call (.owner owner .create))

/-- What a step of a thread does to the pending failures, and what it creates. -/
structure Accounts (before after : Process) (me : ThreadId) (event : ProcessEvent) : Prop where
  others : ∀ other, other ≠ me → after.pending other = before.pending other
  injects : ∀ failures, event = .step (.inject failures) → after.pending me = failures.toNat
  starves :
    before.allocates me event = true →
      before.pending me ≠ 0 →
        after.pending me + 1 = before.pending me ∧ before.LeavesAlone after
  succeeds :
    before.allocates me event = true →
      before.pending me = 0 → after.pending me = 0 ∧ before.Creates after me event
  spares :
    before.allocates me event = false →
      (∀ failures, event ≠ .step (.inject failures)) → after.pending me = before.pending me
  abstains :
    before.allocates me event = false →
      (∀ handle slot, event ≠ .step (.place handle slot)) → before.CreatesNothing after

end Process

namespace AttributeHandle

variable {handle : AttributeHandle} {supported : Bool} {budget : Budget}

/-- Without memory the handle stays as it is. -/
theorem create_of_starved (pending : budget.failures ≠ 0) :
    handle.create budget =
      (.error .outOfMemory, handle, { failures := budget.failures - 1 }) := by
  rw [create, Budget.allocate_of_positive pending]
  rfl

/-- With memory it owns a new object. -/
theorem create_of_funded (funded : budget.failures = 0) :
    handle.create budget = (.ok (), { object := some {} }, budget) := by
  rw [create, Budget.allocate_of_empty funded]

/-- Every other method leaves the budget alone and makes no object. -/
theorem call_of_ne_create
    (handle : AttributeHandle)
    (supported : Bool)
    (budget : Budget)
    {call : OwnerCall}
    (acts : call ≠ .create) :
    (handle.call supported budget call).2.2 = budget ∧
      (handle.call supported budget call).1 ≠ .error .outOfMemory ∧
        ((handle.call supported budget call).2.1.isNull = false → handle.isNull = false) := by
  obtain ⟨object⟩ := handle
  cases call with
  | create =>
      exact (acts rfl).elim
  | destroy | kind | sharing =>
      cases object <;> simp [call, destroy, kind, sharing, get, isNull, null, Except.map]
  | setKind code =>
      cases object with
      | none =>
          simp [call, setKind, update]
      | some attributes =>
          simp only [call, setKind, update, Attributes.setKindCode, isNull]
          split <;> simp
  | setSharing code =>
      cases object with
      | none =>
          simp [call, setSharing, update]
      | some attributes =>
          simp only [call, setSharing, update, Attributes.setSharingCode, Attributes.setSharing,
            isNull]
          split
          · simp
          · split <;> simp

end AttributeHandle

/-- No other outcome has the status of missing memory. -/
theorem Outcome.status_eq_outOfMemory {outcome : Outcome} :
    outcome.status = Fault.outOfMemory.status ↔ outcome = .error .outOfMemory := by
  cases outcome with
  | ok =>
      exact iff_of_false (Ne.symm (Fault.status_ne_zero .outOfMemory)) (by simp)
  | error fault =>
      cases fault <;> simp [Outcome.status, Fault.status]

namespace Boundary

variable {boundary after : Boundary} {level : SafetyLevel} {supported : Bool}
  {budget rest : Budget} {reply : AttributeReply}

/-- Where a call leads to no object, its argument is invalid. -/
theorem eq_invalid_of_resolve
    {slot : Option SlotId}
    {fault : Fault}
    (refused : boundary.resolve level slot = .error fault) :
    fault = .invalidArgument := by
  unfold resolve at refused
  split at refused
  · cases refused
    rfl
  · split at refused
    · cases refused
      rfl
    · split at refused <;> cases refused
      rfl

/-- So is the argument of an initialization that is turned away. -/
theorem eq_invalid_of_attributesOf
    {slot : Option SlotId}
    {fault : Fault}
    (refused : boundary.attributesOf level slot = .ok (.error fault)) :
    fault = .invalidArgument := by
  unfold attributesOf at refused
  split at refused
  · cases refused
  · cases resolved : boundary.resolve level slot with
    | error told =>
        rw [resolved] at refused
        cases refused
        exact eq_invalid_of_resolve resolved
    | ok found =>
        obtain ⟨named, address⟩ := found
        simp only [resolved, bind, Except.bind] at refused
        split at refused <;> cases refused

/-- What a call does not make: it leaves the budget alone, reports no lack and makes no object. -/
structure Acts
    (before after : Boundary)
    (budget rest : Budget)
    (reply : AttributeReply) :
    Prop where
  budget : rest = budget
  status : reply.status ≠ Fault.outOfMemory.status
  objects :
    ∀ address,
      (after.heap.find? address).isSome = true → (before.heap.find? address).isSome = true

/-- A call that leaves the boundary alone makes nothing. -/
theorem Acts.unchanged
    (told : reply.status ≠ Fault.outOfMemory.status) :
    boundary.Acts boundary budget budget reply where
  budget := rfl
  status := told
  objects _ there := there

/-- Writing to an object that is there makes none. -/
theorem acts_of_change
    {address : Address}
    {update : Attributes → Outcome × Attributes}
    (told : ∀ attributes, (update attributes).1 ≠ .error .outOfMemory)
    (performed :
      (do
        let (reply, changed) ← boundary.change address update
        pure (reply, changed, budget)) =
        Except.ok (reply, after, rest)) :
    boundary.Acts after budget rest reply := by
  unfold change Boundary.read at performed
  split at performed
  · contradiction
  · rename_i attributes there
    cases performed
    refine ⟨rfl, fun lacks => told attributes (Outcome.status_eq_outOfMemory.mp lacks), ?_⟩
    intro other found
    by_cases same : other = address
    · simp [same, there]
    · rwa [write, Table.find?_set_of_ne _ same] at found

/-- An initialization spends a failure and makes nothing, or it makes an object. -/
theorem initializes_of_perform
    {slot : SlotId}
    (performed :
      boundary.perform supported level budget (.init (some slot)) = .ok (reply, after, rest)) :
    rest = budget.draw.2 ∧
      (budget.failures ≠ 0 → reply = .refused .outOfMemory ∧ after = boundary) ∧
        (budget.failures = 0 → reply = .success ∧ after = boundary.place slot) := by
  rw [perform_init] at performed
  by_cases funded : budget.failures = 0
  · rw [if_neg fun fails => (Budget.draw_fst _).mp fails funded] at performed
    cases performed
    exact ⟨rfl, fun pending => (pending funded).elim, fun _ => ⟨rfl, rfl⟩⟩
  · rw [if_pos ((Budget.draw_fst _).mpr funded)] at performed
    cases performed
    exact ⟨rfl, fun _ => ⟨rfl, rfl⟩, fun zero => (funded zero).elim⟩

/-- Every call but an initialization makes nothing. -/
theorem acts_of_perform
    {call : AttributeCall}
    (acts : call.isInit = false)
    (performed : boundary.perform supported level budget call = .ok (reply, after, rest)) :
    boundary.Acts after budget rest reply := by
  have refusal : call.refusal.status ≠ Fault.outOfMemory.status := by
    unfold AttributeCall.refusal
    split <;> decide
  cases resolved : boundary.resolve level call.slot with
  | error fault =>
      obtain rfl := eq_invalid_of_resolve resolved
      rw [perform_of_unresolved supported budget acts resolved] at performed
      cases performed
      exact .unchanged refusal
  | ok found =>
      obtain ⟨named, address⟩ := found
      cases call with
      | init =>
          contradiction
      | destroy slot =>
          rw [AttributeCall.slot] at resolved
          simp only [perform, resolved, Boundary.read] at performed
          split at performed
          · contradiction
          · cases performed
            refine ⟨rfl, by decide, fun other there => ?_⟩
            by_cases same : other = address
            · simp [free, same] at there
            · rwa [free, Table.find?_erase_of_ne _ same] at there
      | setKind slot code =>
          rw [AttributeCall.slot] at resolved
          simp only [perform, resolved] at performed
          split at performed
          · cases performed
            exact .unchanged (by decide)
          · exact acts_of_change (by simp) performed
      | setSharing slot code =>
          rw [AttributeCall.slot] at resolved
          simp only [perform, resolved] at performed
          split at performed
          · cases performed
            exact .unchanged (by decide)
          · refine acts_of_change (fun attributes => ?_) performed
            unfold Attributes.setSharing
            split <;> simp
      | getKind slot output | getSharing slot output =>
          rw [AttributeCall.slot] at resolved
          cases output with
          | false =>
              cases performed
              exact .unchanged (by decide)
          | true =>
              simp only [perform, resolved, Boundary.read] at performed
              split at performed
              · contradiction
              · cases performed
                exact .unchanged (Ne.symm (Fault.status_ne_zero .outOfMemory))

end Boundary

/-- A failure that is spent is one less. -/
theorem Budget.toNat_sub_one {budget : Budget} (pending : budget.failures ≠ 0) :
    (budget.failures - 1).toNat + 1 = budget.failures.toNat := by
  have positive : budget.failures.toNat ≠ 0 := fun zero => pending (UInt32.toNat_inj.mp zero)
  have one : (1 : UInt32).toNat = 1 := rfl
  rw [UInt32.toNat_sub_of_le _ _ (by rw [UInt32.le_iff_toNat_le, one]; omega), one]
  omega

namespace Process

variable
  {process next : Process} {me other : ThreadId} {event : Event} {call : ProcessCall}
  {answer : ProcessAnswer} {world : World} {reply : Reply}

theorem isFree_iff :
    process.isFree me = true ↔
      (process.thread me).exited = false ∧ (process.thread me).call = none := by
  simp [isFree]

theorem pending_eq_zero : process.pending me = 0 ↔ (process.thread me).budget.failures = 0 := by
  rw [pending, ← UInt32.toNat_inj]
  rfl

theorem pending_congr
    (same : (next.thread other).budget = (process.thread me).budget) :
    next.pending other = process.pending me := by
  rw [pending, pending, same]

/-- What leaves the rest alone creates nothing. -/
theorem LeavesAlone.createsNothing (leaves : process.LeavesAlone next) :
    process.CreatesNothing next where
  objects _ there := leaves.boundary ▸ there
  owned owner owns := leaves.owned owner ▸ owns
  records handle built := by
    rcases leaves.slots handle with same | sentinel
    · rwa [same] at built
    · simp [sentinel, Slot.isBuilt] at built

/-- A section that allocates fails where a failure is pending, and succeeds where none is. -/
theorem progress_of_allocating
    {visit : Visit}
    (budget : visit.budget = (process.thread me).budget)
    (allocates : visit.allocates = true) :
    visit.done.progress =
      .finished (if process.pending me = 0 then .ok .done else .error .outOfMemory) := by
  by_cases none : process.pending me = 0
  · rw [if_pos none]
    exact (Visit.done_of_funded allocates (budget ▸ pending_eq_zero.mp none)).1
  · rw [if_neg none, Visit.done_of_starved allocates (budget ▸ pending_eq_zero.not.mp none)]

/-- A small step accounts for the failures and the records. -/
theorem accounts_of_step
    (stepped : process.platform.world.step? me event = some (world, reply)) :
    process.Accounts (process.withWorld world) me (.step event) := by
  have records
      (nothing :
        ∀ handle,
          (world.slot handle).isBuilt = true →
            (process.platform.world.slot handle).isBuilt = true) :
      process.CreatesNothing (process.withWorld world) :=
    ⟨fun _ there => there, fun _ owns => owns, nothing⟩
  -- A section that allocates is the only one that this step runs.
  have allocating (allocates : process.allocates me (.step event) = true) :
      ∃ handle visit,
        process.platform.world.section? me event = some (handle, visit) ∧
          visit.allocates = true ∧ event = .proceed := by
    obtain ⟨⟨handle, visit⟩, runs, needs⟩ := (Option.any_eq_true _ _).mp allocates
    exact ⟨handle, visit, runs, needs,
      (World.visit?_eq_some_iff.mp (World.section?_eq_some_iff.mp runs)).1⟩
  constructor
  case others =>
    exact fun other different => pending_congr (World.budget_of_ne stepped different)
  case injects =>
    rintro failures ⟨⟩
    rw [pending, thread, withWorld, World.budget_of_injection stepped]
  case starves =>
    intro allocates pending
    obtain ⟨handle, visit, runs, needs, rfl⟩ := allocating allocates
    have budget : visit.budget = (process.thread me).budget := World.budget_of_visit runs
    have done := Visit.done_of_starved needs (budget ▸ pending_eq_zero.not.mp pending)
    constructor
    · have left := World.budget_of_section stepped runs
      rw [done, budget] at left
      rw [Process.pending, Process.pending, thread, withWorld, left]
      exact Budget.toNat_sub_one (pending_eq_zero.not.mp pending)
    · refine ⟨rfl, fun _ => rfl, fun other => ?_⟩
      have kept : Event.proceed.keeps other = true := rfl
      have slot := World.step?_slot stepped kept
      cases visits : process.platform.world.visit? me .proceed other with
      | none =>
          rw [visits] at slot
          exact .inl slot
      | some again =>
          cases runs.symm.trans (World.section?_eq_some_iff.mpr visits)
          simp only [visits, done] at slot
          exact .inr slot
  case succeeds =>
    intro allocates none
    obtain ⟨handle, visit, runs, needs, rfl⟩ := allocating allocates
    have budget : visit.budget = (process.thread me).budget := World.budget_of_visit runs
    obtain ⟨done, built, kept⟩ :=
      Visit.done_of_funded needs (budget ▸ pending_eq_zero.mp none)
    constructor
    · have left := World.budget_of_section stepped runs
      rw [kept, budget] at left
      rw [← none]
      exact pending_congr left
    · refine .record runs done ?_
      have kept : Event.proceed.keeps handle = true := rfl
      have slot := World.step?_slot stepped kept
      rw [World.section?_eq_some_iff.mp runs] at slot
      simpa [Process.slot, withWorld, slot] using built
  case spares =>
    intro spares uninjected
    apply pending_congr
    cases runs : process.platform.world.section? me event with
    | none =>
        exact World.budget_of_spared stepped runs fun failures same =>
          uninjected failures (same ▸ rfl)
    | some found =>
        obtain ⟨handle, visit⟩ := found
        have idle : visit.allocates = false := (Option.any_eq_false _ _).mp spares _ runs
        have left := World.budget_of_section stepped runs
        rw [(visit.abstains idle).budget, World.budget_of_visit runs] at left
        exact left
  case abstains =>
    intro spares kept
    refine records fun handle built => ?_
    have keeps : event.keeps handle = true := by
      cases event with
      | place other slot =>
          exact (kept other slot rfl).elim
      | _ =>
          rfl
    rcases World.isBuilt_of_step stepped keeps built with before | ⟨visit, runs, needs, -⟩
    · exact before
    · have idle : visit.allocates = false := (Option.any_eq_false _ _).mp spares _ runs
      simp [idle] at needs

/-- Where the same objects and records are, none was created. -/
theorem CreatesNothing.of_same
    (heap : next.platform.boundary.heap = process.platform.boundary.heap)
    (owned : next.owned = process.owned)
    (slots : ∀ handle, next.slot handle = process.slot handle) :
    process.CreatesNothing next where
  objects _ there := heap ▸ there
  owned _ owns := owned ▸ owns
  records handle built := slots handle ▸ built

/-- A thread is left a budget, and the others keep theirs. -/
structure Draws (before after : Process) (me : ThreadId) (budget : Budget) : Prop where
  mine : (after.thread me).budget = budget
  others : ∀ other, other ≠ me → (after.thread other).budget = (before.thread other).budget

theorem draws_of_setThread
    {budget : Budget}
    {own : Thread}
    (drawn :
      ∀ other,
        next.thread other = (process.platform.world.setThread me own).thread other)
    (left : own.budget = budget) :
    process.Draws next me budget where
  mine := by
    rw [drawn, World.thread_setThread_self, left]
  others other different := by
    rw [drawn, World.thread_setThread_of_ne _ different]
    rfl

/-- A call that does not allocate leaves the budgets as they are and creates nothing. -/
theorem accounts_of_spared
    (spares : process.allocates me (.call call) = false)
    (draws : process.Draws next me (process.thread me).budget)
    (nothing : process.CreatesNothing next) :
    process.Accounts next me (.call call) where
  others other different := pending_congr (draws.others other different)
  injects _ same := by contradiction
  starves allocates := by simp [spares] at allocates
  succeeds allocates := by simp [spares] at allocates
  spares _ _ := pending_congr draws.mine
  abstains _ _ := nothing

/-- So does a call that leaves the mutexes and the objects as they are. -/
theorem accounts_of_same
    (spares : process.allocates me (.call call) = false)
    (world : next.platform.world = process.platform.world)
    (heap : next.platform.boundary.heap = process.platform.boundary.heap)
    (owned : next.owned = process.owned) :
    process.Accounts next me (.call call) := by
  have same (other : ThreadId) : next.thread other = process.thread other := by
    rw [thread, thread, world]
  refine accounts_of_spared spares ⟨by rw [same], fun other _ => by rw [same]⟩
    (.of_same heap owned fun handle => ?_)
  rw [slot, slot, world]

/-- A call that allocates spends a failure and creates nothing, or it creates something. -/
theorem accounts_of_allocating
    (allocates : process.allocates me (.call call) = true)
    (draws : process.Draws next me (process.thread me).budget.draw.2)
    (starves : (process.thread me).budget.failures ≠ 0 → process.LeavesAlone next)
    (succeeds : (process.thread me).budget.failures = 0 → process.Creates next me (.call call)) :
    process.Accounts next me (.call call) where
  others other different := pending_congr (draws.others other different)
  injects _ same := by contradiction
  starves _ pending := by
    have short := pending_eq_zero.not.mp pending
    refine ⟨?_, starves short⟩
    rw [Process.pending, Process.pending, draws.mine, Budget.draw, if_neg short]
    exact Budget.toNat_sub_one short
  succeeds _ none := by
    have funded := pending_eq_zero.mp none
    refine ⟨pending_eq_zero.mpr ?_, succeeds funded⟩
    rw [draws.mine, Budget.draw, if_pos funded, funded]
  spares idle := by simp [allocates] at idle
  abstains idle := by simp [allocates] at idle

/-- A call on an attribute slot, as the boundary performs it. -/
theorem call?_attribute
    {call : AttributeCall}
    (called : process.call? me (.attributes call) = some (answer, next)) :
    ∃ reply boundary rest,
      process.platform.boundary.perform process.platform.sharing process.level
          (process.thread me).budget call = .ok (reply, boundary, rest) ∧
        answer = .status reply ∧
          next =
            { process with
              platform :=
                { process.platform with
                  boundary
                  world := process.platform.world.setThread me
                    { process.thread me with budget := rest } } } := by
  simp only [call?, Platform.callAttribute] at called
  cases performed :
      process.platform.boundary.perform process.platform.sharing process.level
        (process.thread me).budget call with
  | error misuse =>
      simp only [thread] at performed
      simp [performed, bind, Except.bind] at called
  | ok made =>
      obtain ⟨reply, boundary, rest⟩ := made
      simp only [thread] at performed
      simp only [performed, bind, pure, Except.bind, Except.pure, Option.some.injEq,
        Prod.mk.injEq] at called
      exact ⟨reply, boundary, rest, rfl, called.1.symm, called.2.symm⟩

/-- It accounts for the failures and the objects. -/
theorem accounts_of_attribute
    {call : AttributeCall}
    (called : process.call? me (.attributes call) = some (answer, next)) :
    process.Accounts next me (.call (.attributes call)) := by
  obtain ⟨reply, boundary, rest, performed, -, rfl⟩ := call?_attribute called
  cases initializes : call.isInit with
  | false =>
      have acts := Boundary.acts_of_perform initializes performed
      refine accounts_of_spared ?_ (draws_of_setThread (fun _ => rfl) acts.budget)
        ⟨acts.objects, fun _ owns => owns, fun _ built => built⟩
      cases call <;> first | rfl | contradiction
  | true =>
      cases call with
      | init place =>
          cases place with
          | none =>
              cases performed
              exact accounts_of_spared rfl (draws_of_setThread (fun _ => rfl) rfl)
                (.of_same rfl rfl fun _ => rfl)
          | some place =>
              obtain ⟨drawn, starves, succeeds⟩ := Boundary.initializes_of_perform performed
              exact accounts_of_allocating rfl (draws_of_setThread (fun _ => rfl) drawn)
                (fun pending => ⟨(starves pending).2, fun _ => rfl, fun _ => .inl rfl⟩)
                fun funded => .object (succeeds funded).2
      | destroy | setKind | setSharing | getKind | getSharing =>
          contradiction

/-- A handle that owns no more than before leaves nothing created. -/
theorem CreatesNothing.of_owner
    {owner : OwnerId}
    {handle : AttributeHandle}
    (heap : next.platform.boundary.heap = process.platform.boundary.heap)
    (owned : next.owned = process.owned.set owner handle)
    (slots : ∀ handle, next.slot handle = process.slot handle)
    (owns : handle.isNull = false → (process.owned.get owner).isNull = false) :
    process.CreatesNothing next where
  objects _ there := heap ▸ there
  owned other kept := by
    rw [owned] at kept
    by_cases same : other = owner
    · subst same
      exact owns (by simpa using kept)
    · rwa [Table.get_set_of_ne _ same] at kept
  records handle built := slots handle ▸ built

/-- A call on an attribute handle accounts for the failures and the objects. -/
theorem accounts_of_owner
    {owner : OwnerId}
    {call : OwnerCall}
    (called : process.call? me (.owner owner call) = some (answer, next)) :
    process.Accounts next me (.call (.owner owner call)) := by
  simp only [call?, Option.some.injEq, Prod.mk.injEq] at called
  obtain ⟨-, rfl⟩ := called
  by_cases creates : call = .create
  · subst creates
    refine accounts_of_allocating rfl (draws_of_setThread (fun _ => rfl) ?_) (fun pending => ?_)
      fun funded => ?_
    · by_cases funded : (process.thread me).budget.failures = 0
      · simp only [AttributeHandle.call, AttributeHandle.create_of_funded funded]
        rw [Budget.draw, if_pos funded]
      · simp only [AttributeHandle.call, AttributeHandle.create_of_starved funded]
        rw [Budget.draw, if_neg funded]
    · refine ⟨rfl, fun other => ?_, fun _ => .inl rfl⟩
      by_cases same : other = owner
      · simp [same, AttributeHandle.call, AttributeHandle.create_of_starved pending]
      · exact Table.get_set_of_ne _ same _
    · refine .owned ?_
      simp [AttributeHandle.call, AttributeHandle.create_of_funded funded]
  · obtain ⟨budget, -, owns⟩ :=
      (process.owned.get owner).call_of_ne_create process.platform.sharing
        (process.thread me).budget creates
    refine accounts_of_spared ?_ (draws_of_setThread (fun _ => rfl) budget)
      (.of_owner rfl rfl (fun _ => rfl) owns)
    cases call <;> first | rfl | exact (creates rfl).elim

/-- How far an initialization gets at once: only what is accepted empties the storage. -/
inductive Initiates
    (process : Process)
    (me : ThreadId)
    (mutex : HandleId)
    (place : Option SlotId) :
    ProcessAnswer → Process → Prop where
  | turnedAway
      {fault : Fault}
      (refused :
        process.platform.boundary.attributesOf process.level place = .ok (.error fault)) :
      Initiates process me mutex place (.replied (.returned (.error fault))) process
  | unsupported
      {attributes : Option Attributes}
      (accepted :
        process.platform.boundary.attributesOf process.level place = .ok (.ok attributes))
      (shared : (Operation.create attributes).isRefused = true) :
      Initiates process me mutex place (.replied (.returned (.error .notSupported)))
        (process.withWorld (process.platform.world.setCell mutex {}))
  | begins
      {attributes : Option Attributes}
      (accepted :
        process.platform.boundary.attributesOf process.level place = .ok (.ok attributes))
      (unshared : (Operation.create attributes).isRefused = false) :
      Initiates process me mutex place (.replied .silent)
        (process.withWorld
          ((process.platform.world.setCell mutex {}).setThread me
            ((process.thread me).start mutex (.create attributes) false)))

theorem initiates
    {mutex : HandleId}
    {place : Option SlotId}
    (free : process.isFree me = true)
    (called : process.call? me (.initMutex (some mutex) place) = some (answer, next)) :
    process.Initiates me mutex place answer next := by
  obtain ⟨awake, idle⟩ := isFree_iff.mp free
  simp only [call?, Platform.startInit] at called
  cases reads : process.platform.boundary.attributesOf process.level place with
  | error misuse =>
      simp [reads, bind, Except.bind] at called
  | ok read =>
      cases read with
      | error fault =>
          simp only [reads, bind, pure, Except.bind, Except.pure] at called
          cases called
          exact .turnedAway reads
      | ok attributes =>
          simp only [reads, bind, pure, Except.bind, Except.pure, World.apply] at called
          rw [(process.platform.world.setCell mutex {}).step?_call_of_free awake idle] at called
          cases shared : (Operation.create attributes).isRefused with
          | true =>
              rw [shared] at called
              cases called
              exact .unsupported reads shared
          | false =>
              rw [shared] at called
              cases called
              exact .begins reads shared

/-- Emptied storage holds no record. -/
theorem createsNothing_of_emptied
    {mutex : HandleId}
    (boundary : next.platform.boundary = process.platform.boundary)
    (owned : next.owned = process.owned)
    (cells : next.platform.world.cells = (process.platform.world.setCell mutex {}).cells) :
    process.CreatesNothing next where
  objects _ there := boundary ▸ there
  owned _ owns := owned ▸ owns
  records handle built := by
    rw [slot, World.slot, cells, World.setCell] at built
    by_cases same : handle = mutex
    · subst same
      simp [Slot.isBuilt] at built
    · rwa [Table.get_set_of_ne _ same] at built

/-- The start of an initialization only empties the storage. -/
theorem accounts_of_initMutex
    {mutex : Option HandleId}
    {place : Option SlotId}
    (free : process.isFree me = true)
    (called : process.call? me (.initMutex mutex place) = some (answer, next)) :
    process.Accounts next me (.call (.initMutex mutex place)) := by
  cases mutex with
  | none =>
      cases called
      exact accounts_of_same rfl rfl rfl rfl
  | some mutex =>
      cases initiates free called with
      | turnedAway =>
          exact accounts_of_same rfl rfl rfl rfl
      | unsupported =>
          exact accounts_of_spared rfl ⟨rfl, fun _ _ => rfl⟩
            (createsNothing_of_emptied rfl rfl rfl)
      | begins =>
          exact accounts_of_spared rfl (draws_of_setThread (fun _ => rfl) rfl)
            (createsNothing_of_emptied rfl rfl rfl)

/-- Every call that is over at once accounts for the failures and the objects. -/
theorem accounts_of_call
    (free : process.isFree me = true)
    (called : process.call? me call = some (answer, next)) :
    process.Accounts next me (.call call) := by
  cases call with
  | attributes call =>
      exact accounts_of_attribute called
  | owner owner call =>
      exact accounts_of_owner called
  | initMutex mutex place =>
      exact accounts_of_initMutex free called
  | nullMutex | copy source target | switch level =>
      cases called
      exact accounts_of_same rfl rfl rfl rfl

/-- So does every step of a process. -/
theorem accounts
    {event : ProcessEvent}
    (stepped : process.step? me event = some (answer, next)) :
    process.Accounts next me event := by
  cases event with
  | step event =>
      obtain ⟨⟨world, reply⟩, ran, done⟩ := Option.map_eq_some_iff.mp stepped
      cases done
      exact accounts_of_step ran
  | call call =>
      rw [step?] at stepped
      split at stepped
      · rename_i free
        exact accounts_of_call free stepped
      · contradiction

end Process

end LatchMutex
