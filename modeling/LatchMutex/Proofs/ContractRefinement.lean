import LatchMutex.Matrix.Observation
import LatchMutex.Proofs.LoneCalls
import LatchMutex.Proofs.Ownership

namespace LatchMutex

/-!
# The contract of single calls

`ContractState.Describes` relates a state of the contract to a slot as one thread
observes it.  A call that runs alone blocks exactly where the contract says so,
and answers with its status; it leaves the next state of the contract, except
that a nested unlock leaves the mutex with its owner.
-/

/-- What a thread observes of a slot, as a state of the contract. -/
inductive ContractState.Describes (me : ThreadId) : ContractState → Slot → Prop where
  | uninitialized :
      Describes me .uninitialized .empty
  | destroyed :
      Describes me .destroyed .empty
  | staticInitializer :
      Describes me .staticInitializer .sentinel
  | unlocked
      {record : Record}
      (unowned : record.owner = none) :
      Describes me .unlocked (.constructed record)
  | lockedBySelf
      {record : Record}
      (owned : record.owner = some me) :
      Describes me .lockedBySelf (.constructed record)
  | lockedByOther
      {record : Record} {other : ThreadId}
      (owned : record.owner = some other)
      (different : other ≠ me) :
      Describes me .lockedByOther (.constructed record)

namespace ContractState.Describes

variable {me : ThreadId} {state : ContractState} {record : Record}

theorem eq_unlocked
    (describes : state.Describes me (.constructed record))
    (unowned : record.owner = none) :
    state = .unlocked := by
  cases describes with
  | unlocked =>
      rfl
  | lockedBySelf owned | lockedByOther owned =>
      simp [unowned] at owned

theorem eq_lockedBySelf
    (describes : state.Describes me (.constructed record))
    (owned : record.owner = some me) :
    state = .lockedBySelf := by
  cases describes with
  | unlocked unowned =>
      simp [unowned] at owned
  | lockedBySelf =>
      rfl
  | lockedByOther other different =>
      simp [owned, different.symm] at other

end ContractState.Describes

theorem MatrixCell.isRefused_operationOf (kind : Kind) (operation : ContractOperation) :
    (operationOf kind operation).isRefused = false := by
  cases operation <;> rfl

theorem MatrixCell.operationOf_eq_lock {kind : Kind} {operation : ContractOperation} :
    operationOf kind operation = .lock ↔ operation = .lock := by
  cases operation <;> simp [operationOf]

namespace Contract

/-- The contract blocks a lock of what is held, unless the holder may relock or is told. -/
theorem blocks_rule
    (kind : Kind)
    (state : ContractState)
    (operation : ContractOperation) :
    (rule kind state operation).blocks = true ↔
      operation = .lock ∧
        (state = .lockedByOther ∨ state = .lockedBySelf ∧ kind = .normal) := by
  cases state <;> cases operation <;> cases kind <;>
    simp [rule, relock, moves, refuses, waits]

theorem transition_code
    (kind : Kind)
    (state : ContractState)
    (operation : ContractOperation) :
    transition kind.code state operation = rule kind state operation := by
  rw [transition, Kind.ofCode?_code]

/-- The contract of the default discipline is that of the one it runs. -/
theorem rule_resolve (kind : Kind) : rule kind.resolve = rule kind := by
  cases kind with
  | byDefault =>
      funext state operation
      cases state <;> cases operation <;> rfl
  | normal | recursive | errorCheck =>
      rfl

theorem relock_of_recursive
    {kind : Kind}
    (recursive : kind.isRecursive = true) :
    relock kind = moves .lockedBySelf := by
  cases kind with
  | recursive | byDefault =>
      rfl
  | normal | errorCheck =>
      contradiction

/-- The state after an operation: a nested unlock leaves the mutex with its owner. -/
def successor (rule : Transition) (operation : ContractOperation) (nested : Bool) :
    ContractState :=
  if operation = .unlock ∧ nested then .lockedBySelf else rule.next

end Contract

/-- Whether an unlock by a thread leaves it the owner. -/
def Slot.IsNested (slot : Slot) (me : ThreadId) : Prop :=
  ∃ record,
    slot = .constructed record ∧
      record.owner = some me ∧ record.kind.isRecursive = true ∧ record.lockIndex ≠ 0

/-- The discipline that a slot with a record runs is the one asked for. -/
def Slot.Runs (slot : Slot) (kind : Kind) : Prop :=
  ∀ record, slot = .constructed record → record.kind = kind.resolve

/-- How a rule compares with a result and with what it leaves. -/
structure Transition.Foretells
    (rule : Transition)
    (next : ContractState)
    (me : ThreadId)
    (result : Result)
    (left : Slot) :
    Prop where
  returns : rule.blocks = false
  status : result.outcome.status = rule.status
  describes : next.Describes me left

namespace Slot.Answers

variable {slot left : Slot} {me : ThreadId} {result : Result} {state : ContractState} {kind : Kind}

/-- A call that needs a record and finds an empty slot is foretold as refused. -/
theorem foretold_vacant
    {operation : ContractOperation}
    (builds : operation ≠ .init)
    (describes : state.Describes me .empty) :
    (Contract.rule kind state operation).Foretells
      (Contract.rule kind state operation).next me (.error .invalidArgument) .empty := by
  cases describes with
  | uninitialized =>
      cases operation with
      | init =>
          contradiction
      | _ =>
          exact ⟨rfl, rfl, .uninitialized⟩
  | destroyed =>
      cases operation with
      | init =>
          contradiction
      | _ =>
          exact ⟨rfl, rfl, .destroyed⟩

/-- An acquisition of a free mutex or a sentinel is foretold. -/
theorem foretold_takes
    {operation : ContractOperation}
    {record : Record}
    (acquiring : operation = .lock ∨ operation = .tryLock)
    (offers : slot.offered = some record)
    (free : record.lockIndex = unlocked)
    (describes : state.Describes me slot)
    (coherent : slot.Coherent)
    (waiters : UInt32) :
    (Contract.rule kind state operation).Foretells
      (Contract.rule kind state operation).next me (.ok .done)
      (.constructed { record.claim.take me with waiters }) := by
  have nowBySelf :
      ContractState.lockedBySelf.Describes me
        (.constructed { record.claim.take me with waiters }) :=
    .lockedBySelf rfl
  cases slot with
  | empty =>
      contradiction
  | sentinel =>
      cases describes
      rcases acquiring with rfl | rfl
      · exact ⟨rfl, rfl, nowBySelf⟩
      · exact ⟨rfl, rfl, nowBySelf⟩
  | constructed found =>
      cases offers
      have state := describes.eq_unlocked ((coherent record rfl).unowned_iff.mpr free)
      subst state
      rcases acquiring with rfl | rfl
      · exact ⟨rfl, rfl, nowBySelf⟩
      · exact ⟨rfl, rfl, nowBySelf⟩

theorem foretold_lock
    (answers : slot.Answers me .lock result left)
    (describes : state.Describes me slot)
    (coherent : slot.Coherent)
    (runs : slot.Runs kind) :
    (Contract.rule kind state .lock).Foretells
      (Contract.rule kind state .lock).next me result left := by
  cases answers with
  | vacant empty builds =>
      subst empty
      exact foretold_vacant (by simp) describes
  | takes waiters acquiring offers free =>
      exact foretold_takes (.inl rfl) offers free describes coherent waiters
  | relocks finds owned recursive =>
      subst finds
      have state := describes.eq_lockedBySelf owned
      subst state
      have kinds := runs _ rfl
      rw [kinds] at recursive
      cases kind with
      | recursive | byDefault =>
          exact ⟨rfl, rfl, .lockedBySelf rfl⟩
      | normal | errorCheck =>
          contradiction
  | reports finds owned checked =>
      subst finds
      have state := describes.eq_lockedBySelf owned
      subst state
      have kinds := runs _ rfl
      rw [checked] at kinds
      cases kind with
      | errorCheck =>
          exact ⟨rfl, rfl, describes⟩
      | normal | recursive | byDefault =>
          contradiction

theorem foretold_tryLock
    (answers : slot.Answers me .tryLock result left)
    (describes : state.Describes me slot)
    (coherent : slot.Coherent) :
    (Contract.rule kind state .tryLock).Foretells
      (Contract.rule kind state .tryLock).next me result left := by
  cases answers with
  | vacant empty builds =>
      subst empty
      exact foretold_vacant (by simp) describes
  | takes waiters acquiring offers free =>
      exact foretold_takes (.inr rfl) offers free describes coherent waiters
  | declines finds held =>
      subst finds
      cases describes with
      | unlocked unowned =>
          exact (held ((coherent _ rfl).unowned_iff.mp unowned)).elim
      | lockedBySelf owned =>
          exact ⟨rfl, rfl, .lockedBySelf owned⟩
      | lockedByOther owned different =>
          exact ⟨rfl, rfl, .lockedByOther owned different⟩

theorem foretold_unlock
    {nested : Bool}
    (answers : slot.Answers me .unlock result left)
    (describes : state.Describes me slot)
    (nests : nested = true ↔ slot.IsNested me) :
    (Contract.rule kind state .unlock).Foretells
      (Contract.successor (Contract.rule kind state .unlock) .unlock nested) me result left := by
  -- Only the owner can be nested, so everybody else finds the state of the rule.
  have once (notNested : ¬ slot.IsNested me) :
      Contract.successor (Contract.rule kind state .unlock) .unlock nested =
        (Contract.rule kind state .unlock).next := by
    have flat : nested = false := by
      simpa [notNested] using nests
    simp [Contract.successor, flat]
  cases answers with
  | vacant empty builds =>
      rw [once (by simp [Slot.IsNested, empty])]
      subst empty
      exact foretold_vacant (by simp) describes
  | takes waiters acquiring =>
      simp at acquiring
  | undeclared sentinel =>
      rw [once (by simp [Slot.IsNested, sentinel])]
      subst sentinel
      cases describes
      exact ⟨rfl, rfl, .staticInitializer⟩
  | denies finds stranger =>
      rw [once (by simp [Slot.IsNested, finds, stranger])]
      subst finds
      cases describes with
      | unlocked unowned =>
          exact ⟨rfl, rfl, .unlocked unowned⟩
      | lockedBySelf owned =>
          exact (stranger owned).elim
      | lockedByOther owned different =>
          exact ⟨rfl, rfl, .lockedByOther owned different⟩
  | unlocks finds owned recursive deep =>
      have nested := nests.mpr ⟨_, finds, owned, recursive, deep⟩
      subst finds
      have state := describes.eq_lockedBySelf owned
      subst state nested
      exact ⟨rfl, rfl, .lockedBySelf owned⟩
  | frees finds owned outermost =>
      rw [once (by simpa [Slot.IsNested, finds, owned] using outermost)]
      subst finds
      have state := describes.eq_lockedBySelf owned
      subst state
      exact ⟨rfl, rfl, .unlocked rfl⟩

theorem foretold_destroy
    (answers : slot.Answers me .destroy result left)
    (describes : state.Describes me slot) :
    (Contract.rule kind state .destroy).Foretells
      (Contract.rule kind state .destroy).next me result left := by
  cases answers with
  | vacant empty builds =>
      subst empty
      exact foretold_vacant (by simp) describes
  | takes waiters acquiring =>
      simp at acquiring
  | drops present unowned =>
      cases describes with
      | uninitialized | destroyed =>
          contradiction
      | staticInitializer | unlocked =>
          exact ⟨rfl, rfl, .destroyed⟩
      | lockedBySelf owned | lockedByOther owned =>
          simp [unowned _ rfl] at owned
  | protects finds owned =>
      subst finds
      cases describes with
      | unlocked unowned =>
          simp [unowned] at owned
      | lockedBySelf mine =>
          exact ⟨rfl, rfl, .lockedBySelf mine⟩
      | lockedByOther other different =>
          exact ⟨rfl, rfl, .lockedByOther other different⟩

/-- Whatever a lone call answers is foretold by the contract. -/
theorem foretold
    {requested : Kind}
    {operation : ContractOperation}
    {nested : Bool}
    (answers : slot.Answers me (MatrixCell.operationOf requested operation) result left)
    (describes : state.Describes me slot)
    (coherent : slot.Coherent)
    (runs : slot.Runs kind)
    (nests : nested = true ↔ slot.IsNested me) :
    (Contract.rule kind state operation).Foretells
      (Contract.successor (Contract.rule kind state operation) operation nested)
      me result left := by
  cases operation with
  | init =>
      simp only [MatrixCell.operationOf] at answers
      cases answers with
      | creates =>
          cases describes <;> exact ⟨rfl, rfl, .unlocked rfl⟩
      | vacant empty builds =>
          exact (builds _ rfl).elim
      | takes waiters acquiring =>
          simp at acquiring
  | lock =>
      exact foretold_lock answers describes coherent runs
  | tryLock =>
      exact foretold_tryLock answers describes coherent
  | unlock =>
      exact foretold_unlock answers describes nests
  | destroy =>
      exact foretold_destroy answers describes

end Slot.Answers

/-- The contract blocks a lock that a coherent record bars. -/
theorem Record.Barred.blocks
    {record : Record}
    {me : ThreadId}
    {state : ContractState}
    {kind : Kind}
    (barred : record.Barred me)
    (describes : state.Describes me (.constructed record))
    (coherent : record.Coherent)
    (runs : record.kind = kind.resolve) :
    (Contract.rule kind state .lock).blocks = true := by
  rw [Contract.blocks_rule]
  refine ⟨rfl, ?_⟩
  cases describes with
  | unlocked unowned =>
      exact (barred.held (coherent.unowned_iff.mp unowned)).elim
  | lockedByOther owned different =>
      exact .inl rfl
  | lockedBySelf owned =>
      have blocked := barred.blocked owned
      rw [runs] at blocked
      cases kind with
      | normal =>
          exact .inr ⟨rfl, rfl⟩
      | recursive | errorCheck | byDefault =>
          exact absurd blocked (by decide)

/-- Counting waiters changes nothing that a thread observes. -/
theorem ContractState.Describes.withWaiters
    {me : ThreadId}
    {state : ContractState}
    {record : Record}
    (describes : state.Describes me (.constructed record))
    (waiters : UInt32)
    (last : Option ThreadId) :
    state.Describes me (.constructed { record with waiters, lastWaiter := last }) := by
  cases describes with
  | unlocked unowned =>
      exact .unlocked unowned
  | lockedBySelf owned =>
      exact .lockedBySelf owned
  | lockedByOther owned different =>
      exact .lockedByOther owned different

/-- How a call that runs alone compares with a rule of the contract. -/
structure World.Conforms
    (world : World)
    (me : ThreadId)
    (handle : HandleId)
    (event : Event)
    (state next : ContractState)
    (rule : Transition) :
    Prop where
  blocks_iff : rule.blocks = true ↔ ∀ result after, ¬ world.Returns me event result after
  meanwhile :
    rule.blocks = true →
      world.Waits me event fun later => state.Describes me (later.slot handle)
  returns :
    rule.blocks = false →
      ∃ result after,
        world.Returns me event result after ∧
          result.outcome.status = rule.status ∧
          next.Describes me (after.slot handle)

/-- A lone call with memory to spare does what the contract says. -/
theorem World.Ready.conforms
    {world : World}
    {me : ThreadId}
    {handle : HandleId}
    {slot : Slot}
    {budget : Budget}
    {state : ContractState}
    {kind : Kind}
    {operation : ContractOperation}
    {nested : Bool}
    (ready : world.Ready me handle slot budget)
    (describes : state.Describes me slot)
    (coherent : slot.Coherent)
    (runs : slot.Runs kind)
    (nests : nested = true ↔ slot.IsNested me)
    (funded :
      slot.needsMemory (MatrixCell.operationOf kind operation) = true → budget.failures = 0)
    (guarded : Bool) :
    world.Conforms me handle
      (.call handle (MatrixCell.operationOf kind operation) guarded)
      state
      (Contract.successor (Contract.rule kind state operation) operation nested)
      (Contract.rule kind state operation) := by
  have accepted := MatrixCell.isRefused_operationOf kind operation
  rcases ready.answered accepted coherent funded guarded with
    ⟨result, left, after, answers, returns, ready⟩ | ⟨record, lock, rfl, barred, waits⟩
  · have foretold := answers.foretold describes coherent runs nests
    have flows := foretold.returns
    refine
      { blocks_iff := ?_
        meanwhile := by simp [flows]
        returns := ?_ }
    · constructor
      · simp [flows]
      · intro never
        exact (never result after returns).elim
    · intro _
      refine ⟨result, after, returns, foretold.status, ?_⟩
      rw [World.slot, ready.cell]
      exact foretold.describes
  · have isLock := MatrixCell.operationOf_eq_lock.mp lock
    subst isLock
    have blocks := barred.blocks describes (coherent _ rfl) (runs _ rfl)
    refine
      { blocks_iff := ?_
        meanwhile := ?_
        returns := by simp [blocks] }
    · refine ⟨fun _ result after => waits.not_returns, fun _ => blocks⟩
    · intro _
      apply waits.mono
      intro later stuck
      obtain ⟨waiters, last, holds⟩ := stuck.slot
      rw [holds]
      exact describes.withWaiters waiters last

/-- Whether a thread holds a recursive mutex at a depth of two or more. -/
def Slot.isHeldTwice (slot : Slot) (me : ThreadId) : Bool :=
  match slot with
  | .empty | .sentinel => false
  | .constructed record =>
      record.owner = some me ∧ record.kind.isRecursive ∧ 2 ≤ record.depth

/-- A sound record with room in its counter is held twice exactly where an unlock is nested. -/
theorem Slot.Sound.isHeldTwice_iff
    {slot : Slot}
    {me : ThreadId}
    (sound : slot.Sound)
    (room : ∀ record, slot = .constructed record → record.share me < 2 ^ 31) :
    slot.isHeldTwice me = true ↔ slot.IsNested me := by
  cases slot with
  | empty | sentinel =>
      simp [isHeldTwice, IsNested]
  | constructed record =>
      by_cases owned : record.owner = some me
      · have bounded := room record rfl
        simp only [Record.share, owned, ↓reduceIte] at bounded
        have counted := (sound record rfl).counted_of_held ((sound record rfl).held_of_owned owned)
        have depth := Record.toNat_depth (sound record rfl).counted bounded
        have deep : 2 ≤ record.depth ↔ record.lockIndex ≠ 0 := by
          rw [UInt32.le_iff_toNat_le, ne_eq, ← Int32.toInt_inj]
          change 2 ≤ record.depth.toNat ↔ ¬ record.lockIndex.toInt = 0
          omega
        simp [isHeldTwice, IsNested, owned, deep]
      · simp [isHeldTwice, IsNested, owned]

/-- After a shallow course a thread without a call is ready for one, if nothing cancels it. -/
theorem Course.ready
    {handle : HandleId}
    {start : Slot}
    {run : List (ThreadId × Event)}
    {world : World}
    {me : ThreadId}
    (course : Course handle start run world)
    (shallow : Shallow ((World.opening handle start).history handle run))
    (awake : (world.thread me).exited = false)
    (idle : (world.thread me).call = none)
    (quiet : (world.thread me).cancel.isDeliverable = false) :
    world.Ready me handle (world.slot handle) (world.thread me).budget where
  awake := awake
  idle := idle
  quiet := quiet
  funded := rfl
  cell := by
    have unlatched := course.unlatched shallow
    rw [← unlatched]
    rfl

/--
After every shallow course, a call that runs alone without being canceled does
what the contract says of the state that its thread observes; a nested unlock
keeps the mutex locked, and a call without the memory it needs is refused.
-/
theorem Course.contract_exact
    {handle : HandleId}
    {start : Slot}
    {run : List (ThreadId × Event)}
    {world : World}
    {me : ThreadId}
    {state : ContractState}
    {kind : Kind}
    (course : Course handle start run world)
    (shallow : Shallow ((World.opening handle start).history handle run))
    (awake : (world.thread me).exited = false)
    (idle : (world.thread me).call = none)
    (quiet : (world.thread me).cancel.isDeliverable = false)
    (describes : state.Describes me (world.slot handle))
    (runs : (world.slot handle).Runs kind)
    (operation : ContractOperation)
    (guarded : Bool) :
    let event := Event.call handle (MatrixCell.operationOf kind operation) guarded
    let rule := Contract.transition kind.code state operation
    let nested := (world.slot handle).isHeldTwice me
    if (world.slot handle).needsMemory (MatrixCell.operationOf kind operation) = true ∧
        (world.thread me).budget.failures ≠ 0 then
      ∃ after,
        world.Returns me event (.error .outOfMemory) after ∧ after.slot handle = .sentinel
    else
      world.Conforms me handle event state
        (Contract.successor rule operation nested) rule := by
  intro event rule nested
  have ready := course.ready shallow awake idle quiet
  split
  · rename_i failing
    have alone := Operation.alone_of_failure failing.1 failing.2 me
    have accepted := MatrixCell.isRefused_operationOf kind operation
    obtain ⟨after, returns, left⟩ := ready.returns accepted guarded (by rw [alone])
    refine ⟨after, returns, ?_⟩
    rw [World.slot, left.cell, alone]
  · rename_i funded
    obtain ⟨sound, accounts⟩ := course.linked.accounts course.unbuilt shallow
    have nests : nested = true ↔ (world.slot handle).IsNested me := by
      apply sound.isHeldTwice_iff
      intro record holds
      have bounded := shallow _ (List.prefix_refl _) me
      rw [accounts, holds] at bounded
      exact bounded
    have conforms :=
      ready.conforms describes sound.coherent runs nests
        (by simpa using funded) guarded
    rw [← Contract.transition_code] at conforms
    exact conforms

/-- Thread 0 unlocks once what it holds twice, while thread 1 waits. -/
theorem Course.contract_exact_nestedUnlock :
    ∃ world,
      Course ⟨0⟩ .sentinel contendedRelock world ∧
        Shallow ((World.opening ⟨0⟩ .sentinel).history ⟨0⟩ contendedRelock) ∧
        (world.thread ⟨0⟩).exited = false ∧
        (world.thread ⟨0⟩).call = none ∧
        (world.thread ⟨0⟩).cancel.isDeliverable = false ∧
        ContractState.lockedBySelf.Describes ⟨0⟩ (world.slot ⟨0⟩) ∧
        (world.slot ⟨0⟩).Runs .byDefault ∧
        world.Conforms ⟨0⟩ ⟨0⟩ (.call ⟨0⟩ .unlock false) .lockedBySelf .lockedBySelf
          (Contract.transition Kind.byDefault.code .lockedBySelf .unlock) := by
  have course : Course ⟨0⟩ .sentinel contendedRelock _ :=
    Course.of_isSome (by simp) (by decide) (by decide)
  have shallow :
      Shallow ((World.opening ⟨0⟩ .sentinel).history ⟨0⟩ contendedRelock) :=
    .of_length_lt (by decide)
  refine ⟨_, course, shallow, ?_⟩
  generalize worldIs :
    (((World.opening ⟨0⟩ .sentinel).run? contendedRelock).get _).1 = world at course ⊢
  have holds : world.slot ⟨0⟩ = .constructed relockedTwice := by
    rw [← worldIs]
    decide
  have describes : ContractState.lockedBySelf.Describes ⟨0⟩ (world.slot ⟨0⟩) := by
    rw [holds]
    exact .lockedBySelf rfl
  have runs : (world.slot ⟨0⟩).Runs .byDefault := by
    rw [holds]
    rintro record same
    cases same
    rfl
  have awake : (world.thread ⟨0⟩).exited = false := by
    rw [← worldIs]
    decide
  have idle : (world.thread ⟨0⟩).call = none := by
    rw [← worldIs]
    decide
  have quiet : (world.thread ⟨0⟩).cancel.isDeliverable = false := by
    rw [← worldIs]
    decide
  refine ⟨awake, idle, quiet, describes, runs, ?_⟩
  have conforms := course.contract_exact shallow awake idle quiet describes runs .unlock false
  simp only [holds] at conforms
  exact conforms

/-- Thread 0 is asynchronous and asks itself to cancel. -/
def selfRequested : List (ThreadId × Event) :=
  [(⟨0⟩, .setType .asynchronous), (⟨0⟩, .makeHandle), (⟨0⟩, .request ⟨0⟩)]

/--
The contract says that a lock of a sentinel does not block, but that of a thread with a
request of its own to deliver never returns: it is canceled at the end of its scope.
-/
theorem selfRequested_unanswered :
    ∃ world canceled replies,
      Course ⟨0⟩ .sentinel selfRequested world ∧
        Shallow ((World.opening ⟨0⟩ .sentinel).history ⟨0⟩ selfRequested) ∧
        (world.thread ⟨0⟩).exited = false ∧
        (world.thread ⟨0⟩).call = none ∧
        (world.thread ⟨0⟩).budget.failures = 0 ∧
        ContractState.staticInitializer.Describes ⟨0⟩ (world.slot ⟨0⟩) ∧
        (world.slot ⟨0⟩).Runs .byDefault ∧
        (Contract.transition Kind.byDefault.code .staticInitializer .lock).blocks = false ∧
        world.run? ((⟨0⟩, .call ⟨0⟩ .lock false) :: List.replicate 2 (⟨0⟩, .proceed)) =
          some (canceled, replies ++ [.canceled]) ∧
        ∀ result after, ¬ world.Returns ⟨0⟩ (.call ⟨0⟩ .lock false) result after := by
  have course : Course ⟨0⟩ .sentinel selfRequested _ :=
    Course.of_isSome (by simp) (by decide) (by decide)
  generalize worldIs :
    (((World.opening ⟨0⟩ .sentinel).run? selfRequested).get _).1 = world at course
  have stands :
      (world.thread ⟨0⟩).exited = false ∧
        (world.thread ⟨0⟩).call = none ∧
        (world.thread ⟨0⟩).budget.failures = 0 ∧
        world.slot ⟨0⟩ = .sentinel := by
    rw [← worldIs]
    decide
  obtain ⟨awake, idle, funded, holds⟩ := stands
  have cancels :
      ((world.run? ((⟨0⟩, .call ⟨0⟩ .lock false) :: List.replicate 2 (⟨0⟩, .proceed))).any
        fun ended =>
          ended.2 = [.silent, .silent] ++ [.canceled] ∧
            (ended.1.thread ⟨0⟩).call = none) = true := by
    rw [← worldIs]
    decide
  simp only [Option.any_eq_true, decide_eq_true_eq, Prod.exists] at cancels
  obtain ⟨canceled, _, ran, rfl, ended⟩ := cancels
  refine ⟨world, canceled, _, course, .of_length_lt (by decide), awake, idle, funded, ?_, ?_,
    by decide, ran, ?_⟩
  · rw [holds]
    exact .staticInitializer
  · rw [holds]
    rintro record ⟨⟩
  · exact fun result after => World.not_returns_of_canceled ran ended

end LatchMutex
