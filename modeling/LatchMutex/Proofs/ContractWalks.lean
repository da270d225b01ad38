import LatchMutex.Proofs.ContractRefinement

namespace LatchMutex

/-!
# The contract along one thread's calls

The contract does not know how often a recursive mutex is held, nor that a
sentinel becomes a mutex of the default discipline, so folding it over a history
goes wrong.  An `Outlook` carries both along, and then the contract foretells
every call of a thread that has the handle to itself, up to the first that waits.
-/

/-- What a prediction of one thread's calls carries along. -/
structure Outlook where
  state : ContractState
  /-- Discipline whose contract applies. -/
  kind : Kind
  /-- Acquisitions that the thread has not given back. -/
  depth : Nat := 0
  deriving Repr, DecidableEq, Inhabited

namespace Outlook

/-- The prediction at the start; a sentinel will run the default discipline. -/
def opening (requested : Kind) (state : ContractState) : Outlook where
  state := state
  kind := if state = .staticInitializer then .byDefault else requested

/-- What the contract says of the next operation. -/
def rule (outlook : Outlook) (operation : ContractOperation) : Transition :=
  Contract.transition outlook.kind.code outlook.state operation

/-- The depth after an operation that succeeds. -/
def depthAfter (outlook : Outlook) : ContractOperation → Nat
  | .init | .destroy => 0
  | .lock | .tryLock => outlook.depth + 1
  | .unlock => outlook.depth - 1

/-- The prediction after an operation; an unlock out of several keeps the mutex locked. -/
def advance (outlook : Outlook) (requested : Kind) (operation : ContractOperation) : Outlook where
  state := Contract.successor (outlook.rule operation) operation (2 ≤ outlook.depth)
  kind := if operation = .init then requested else outlook.kind
  depth :=
    if (outlook.rule operation).status = 0 then outlook.depthAfter operation else outlook.depth

/-- What the contract says along a history. -/
def walk (requested : Kind) : Outlook → List ContractOperation → List Transition
  | _, [] => []
  | outlook, operation :: rest =>
      outlook.rule operation :: walk requested (outlook.advance requested operation) rest

/-- Up to the first that waits, none finds as many acquisitions as the counter has values. -/
def Bounded (requested : Kind) : Outlook → List ContractOperation → Prop
  | _, [] => True
  | outlook, operation :: rest =>
      outlook.depth < 2 ^ 32 ∧
        ((outlook.rule operation).blocks = false →
          Bounded requested (outlook.advance requested operation) rest)

instance decidableBounded (requested : Kind) :
    (outlook : Outlook) →
    (operations : List ContractOperation) →
    Decidable (Bounded requested outlook operations)
  | _, [] => .isTrue trivial
  | outlook, operation :: rest =>
      have := decidableBounded requested (outlook.advance requested operation) rest
      inferInstanceAs (Decidable (_ ∧ (_ → _)))

end Outlook

/-- What a handle holds before its first call, as the contract calls it. -/
inductive ContractState.Starts : ContractState → Slot → Prop where
  | null :
      Starts .uninitialized .empty
  | declared :
      Starts .staticInitializer .sentinel

/-- One thread makes calls on a handle, each after the one before has returned. -/
inductive World.Performs (me : ThreadId) (handle : HandleId) (requested : Kind) :
    World → List ContractOperation → List Result → World → Prop where
  | nil (world : World) :
      Performs me handle requested world [] [] world
  | cons
      {world next last : World} {operation : ContractOperation} {result : Result}
      {rest : List ContractOperation} {results : List Result}
      (returns :
        world.Returns me (.call handle (MatrixCell.operationOf requested operation) false)
          result next)
      (later : Performs me handle requested next rest results last) :
      Performs me handle requested world (operation :: rest) (result :: results) last

/-- The same calls from the same world have the same results. -/
theorem World.Performs.unique
    {me : ThreadId}
    {handle : HandleId}
    {requested : Kind}
    {world last final : World}
    {operations : List ContractOperation}
    {results others : List Result}
    (performs : World.Performs me handle requested world operations results last)
    (again : World.Performs me handle requested world operations others final) :
    results = others := by
  induction performs generalizing others with
  | nil =>
      cases again
      rfl
  | cons returns later inductionHypothesis =>
      cases again with
      | cons returnsAgain laterAgain =>
          obtain ⟨rfl, rfl⟩ := returns.unique returnsAgain
          rw [inductionHypothesis laterAgain]

/-- Up to the first rule that blocks, calls have the status numbers that the rules say. -/
structure World.Follows
    (world : World)
    (me : ThreadId)
    (handle : HandleId)
    (requested : Kind)
    (operations : List ContractOperation)
    (rules : List Transition)
    (results : List Result)
    (last : World) :
    Prop where
  performs :
    World.Performs me handle requested world (operations.take results.length) results last
  statuses :
    (results.map fun result => result.outcome.status) =
      (rules.takeWhile fun rule => !rule.blocks).map Transition.status

/-- A record that one thread alone has used, at a depth that the counter may not tell. -/
structure Record.Tracked (record : Record) (me : ThreadId) (kind : Kind) (depth : Nat) : Prop where
  guardLowered : record.tryGuard = 0
  resolved : record.kind = kind.resolve
  counter : record.lockIndex + 1 = Int32.ofNat depth
  owner : record.owner = if depth = 0 then none else some me
  single : kind.isRecursive = false → depth ≤ 1

namespace Record

variable {record : Record} {me : ThreadId} {kind : Kind} {depth : Nat}

theorem ofNat_eq_zero_iff (bounded : depth < 2 ^ 32) : Int32.ofNat depth = 0 ↔ depth = 0 := by
  constructor
  · intro zero
    have same : (Int32.ofNat depth).toUInt32.toNat = 0 := by
      rw [zero]
      rfl
    rw [Int32.toUInt32_ofNat', UInt32.toNat_ofNat'] at same
    omega
  · rintro rfl
    rfl

/-- Below the number of values of the counter, only a free mutex counts as free. -/
theorem Tracked.free_iff
    (tracked : record.Tracked me kind depth)
    (bounded : depth < 2 ^ 32) :
    record.lockIndex = unlocked ↔ depth = 0 := by
  rw [← ofNat_eq_zero_iff bounded, ← tracked.counter, unlocked]
  grind

theorem Tracked.lockIndex_eq_zero_iff
    (tracked : record.Tracked me kind depth)
    (bounded : depth < 2 ^ 32)
    (held : depth ≠ 0) :
    record.lockIndex = 0 ↔ depth = 1 := by
  have below : depth - 1 < 2 ^ 32 := by
    omega
  have counter : record.lockIndex = Int32.ofNat (depth - 1) := by
    have counts := tracked.counter
    rw [Int32.ofNat_sub depth 1 (by omega), ← counts]
    simp
  rw [counter, ofNat_eq_zero_iff below]
  omega

theorem Tracked.unowned_iff (tracked : record.Tracked me kind depth) :
    record.owner = none ↔ depth = 0 := by
  rw [tracked.owner]
  split <;> simp_all

theorem Tracked.owned_iff (tracked : record.Tracked me kind depth) :
    record.owner = some me ↔ depth ≠ 0 := by
  rw [tracked.owner]
  split <;> simp_all

theorem Tracked.isRecursive (tracked : record.Tracked me kind depth) :
    record.kind.isRecursive = kind.isRecursive := by
  rw [tracked.resolved]
  cases kind <;> rfl

/-- An owner about to let go has one acquisition. -/
theorem Tracked.depth_of_outermost
    (tracked : record.Tracked me kind depth)
    (bounded : depth < 2 ^ 32)
    (owned : record.owner = some me)
    (outermost : record.kind.isRecursive = true → record.lockIndex = 0) :
    depth = 1 := by
  have held := tracked.owned_iff.mp owned
  rw [tracked.isRecursive, tracked.lockIndex_eq_zero_iff bounded held] at outermost
  by_cases recursive : kind.isRecursive = true
  · exact outermost recursive
  · have once := tracked.single (by simpa using recursive)
    omega

theorem Tracked.coherent
    (tracked : record.Tracked me kind depth)
    (bounded : depth < 2 ^ 32) :
    record.Coherent where
  guardLowered := tracked.guardLowered
  unowned_iff := tracked.unowned_iff.trans (tracked.free_iff bounded).symm

theorem Tracked.fresh
    (attributes : Option Attributes)
    (me : ThreadId) :
    (Record.fresh attributes).Tracked me (attributes.getD {}).kind 0 where
  guardLowered := rfl
  resolved := rfl
  counter := by
    rw [lockIndex_fresh]
    decide
  owner := rfl
  single := by simp

theorem Tracked.take
    (tracked : record.Tracked me kind depth)
    (entitled : depth = 0 ∨ kind.isRecursive = true)
    (waiters : UInt32) :
    { record.claim.take me with waiters }.Tracked me kind (depth + 1) where
  guardLowered := tracked.guardLowered
  resolved := tracked.resolved
  counter := by
    rw [Int32.ofNat_add, ← tracked.counter]
    rfl
  owner := by simp [Record.take]
  single := by
    intro single
    rcases entitled with free | recursive
    · omega
    · simp [recursive] at single

theorem Tracked.unclaim
    (tracked : record.Tracked me kind depth)
    (nested : 2 ≤ depth) :
    record.unclaim.Tracked me kind (depth - 1) where
  guardLowered := tracked.guardLowered
  resolved := tracked.resolved
  counter := by
    rw [Int32.ofNat_sub depth 1 (by omega), ← tracked.counter]
    simp [Record.unclaim]
  owner := by
    change record.owner = _
    rw [tracked.owner, if_neg (by omega), if_neg (by omega)]
  single := by
    intro single
    have once := tracked.single single
    omega

theorem Tracked.free
    (tracked : record.Tracked me kind 1) :
    { record with owner := none }.unclaim.Tracked me kind 0 where
  guardLowered := tracked.guardLowered
  resolved := tracked.resolved
  counter := by
    have counter := tracked.counter
    change record.lockIndex - 1 + 1 = 0
    grind
  owner := rfl
  single := by simp

/-- As many acquisitions as the counter has values count as none. -/
theorem Tracked.wraps
    (tracked : record.Tracked me kind (2 ^ 32)) :
    record.lockIndex = unlocked := by
  have counter := tracked.counter
  have zero : Int32.ofNat (2 ^ 32) = 0 := by
    decide
  rw [zero] at counter
  rw [unlocked]
  grind

end Record

/-- A prediction is right about a slot that its thread has to itself. -/
structure Outlook.Holds (outlook : Outlook) (me : ThreadId) (slot : Slot) : Prop where
  describes : outlook.state.Describes me slot
  tracked :
    ∀ record, slot.offered = some record → record.Tracked me outlook.kind outlook.depth
  vacant : slot = .empty → outlook.depth = 0

namespace Outlook

variable {outlook : Outlook} {me : ThreadId} {slot left : Slot} {result : Result}

theorem Holds.coherent
    (holds : outlook.Holds me slot)
    (bounded : outlook.depth < 2 ^ 32) :
    slot.Coherent := by
  rintro record rfl
  exact (holds.tracked record rfl).coherent bounded

theorem Holds.runs (holds : outlook.Holds me slot) : slot.Runs outlook.kind := by
  rintro record rfl
  exact (holds.tracked record rfl).resolved

/-- The depth tells whether an unlock leaves the thread the owner. -/
theorem Holds.nests
    (holds : outlook.Holds me slot)
    (bounded : outlook.depth < 2 ^ 32) :
    decide (2 ≤ outlook.depth) = true ↔ slot.IsNested me := by
  rw [decide_eq_true_iff]
  cases slot with
  | empty =>
      simp [Slot.IsNested, holds.vacant rfl]
  | sentinel =>
      have free := (holds.tracked _ rfl).unowned_iff.mp rfl
      simp [Slot.IsNested, free]
  | constructed record =>
      have tracked := holds.tracked record rfl
      have recursive := tracked.isRecursive
      constructor
      · intro nested
        refine ⟨record, rfl, tracked.owned_iff.mpr (by omega), ?_, ?_⟩
        · rw [recursive]
          by_contra single
          have once := tracked.single (by simpa using single)
          omega
        · rw [ne_eq, tracked.lockIndex_eq_zero_iff bounded (by omega)]
          omega
      · rintro ⟨same, found, owned, -, deep⟩
        cases found
        have held := tracked.owned_iff.mp owned
        rw [ne_eq, tracked.lockIndex_eq_zero_iff bounded held] at deep
        omega

theorem Holds.advance_refused
    {requested : Kind}
    {operation : ContractOperation}
    {fault : Fault}
    (holds : outlook.Holds me slot)
    (lasting : operation ≠ .init)
    (foretold :
      (outlook.rule operation).Foretells (outlook.advance requested operation).state
        me (.error fault) slot) :
    (outlook.advance requested operation).Holds me slot := by
  have kind : (outlook.advance requested operation).kind = outlook.kind := by
    simp [advance, lasting]
  have refused : (outlook.rule operation).status = fault.status :=
    foretold.status.symm
  have depth : (outlook.advance requested operation).depth = outlook.depth := by
    simp [advance, refused, fault.status_ne_zero]
  refine ⟨foretold.describes, ?_, ?_⟩
  · rw [kind, depth]
    exact holds.tracked
  · rw [depth]
    exact holds.vacant

theorem advance_done
    {requested : Kind}
    {operation : ContractOperation}
    {record : Record}
    (foretold :
      (outlook.rule operation).Foretells (outlook.advance requested operation).state
        me (.ok .done) (.constructed record))
    (tracked :
      record.Tracked me (outlook.advance requested operation).kind
        (outlook.depthAfter operation)) :
    (outlook.advance requested operation).Holds me (.constructed record) := by
  have done : (outlook.rule operation).status = 0 :=
    foretold.status.symm
  have depth :
      (outlook.advance requested operation).depth = outlook.depthAfter operation := by
    simp [advance, done]
  refine ⟨foretold.describes, ?_, by simp⟩
  intro found same
  cases same
  rw [depth]
  exact tracked

/-- A taken mutex is followed, whether it was free or the thread's own. -/
theorem Holds.advance_acquired
    {requested : Kind}
    {operation : ContractOperation}
    {record : Record}
    {waiters : UInt32}
    (holds : outlook.Holds me slot)
    (acquiring : operation = .lock ∨ operation = .tryLock)
    (offers : slot.offered = some record)
    (entitled : outlook.depth = 0 ∨ outlook.kind.isRecursive = true)
    (foretold :
      (outlook.rule operation).Foretells (outlook.advance requested operation).state
        me (.ok .done) (.constructed { record.claim.take me with waiters })) :
    (outlook.advance requested operation).Holds me
      (.constructed { record.claim.take me with waiters }) := by
  have tracked := (holds.tracked record offers).take entitled waiters
  rcases acquiring with rfl | rfl
  · exact advance_done foretold tracked
  · exact advance_done foretold tracked

/-- An unlock is followed by the depth, be it one out of several or the last. -/
theorem Holds.advance_unlock
    {requested : Kind}
    (holds : outlook.Holds me slot)
    (bounded : outlook.depth < 2 ^ 32)
    (answers : slot.Answers me .unlock result left)
    (foretold :
      (outlook.rule .unlock).Foretells (outlook.advance requested .unlock).state
        me result left) :
    (outlook.advance requested .unlock).Holds me left := by
  cases answers with
  | vacant | undeclared | denies =>
      exact holds.advance_refused (by simp) foretold
  | takes waiters acquiring =>
      simp at acquiring
  | unlocks finds owned recursive deep =>
      have nested : 2 ≤ outlook.depth := by
        simpa using (holds.nests bounded).mpr ⟨_, finds, owned, recursive, deep⟩
      subst finds
      exact advance_done foretold ((holds.tracked _ rfl).unclaim nested)
  | frees finds owned outermost =>
      subst finds
      have tracked := holds.tracked _ rfl
      have once := tracked.depth_of_outermost bounded owned outermost
      rw [once] at tracked
      apply advance_done foretold
      rw [depthAfter, once]
      exact tracked.free

/-- After what a lone call answers, the prediction is right about what it leaves. -/
theorem Holds.advance
    {requested : Kind}
    {operation : ContractOperation}
    (holds : outlook.Holds me slot)
    (bounded : outlook.depth < 2 ^ 32)
    (answers : slot.Answers me (MatrixCell.operationOf requested operation) result left) :
    (outlook.rule operation).Foretells (outlook.advance requested operation).state
        me result left ∧
      (outlook.advance requested operation).Holds me left := by
  have foretold :
      (outlook.rule operation).Foretells (outlook.advance requested operation).state
        me result left := by
    have foretold :=
      answers.foretold holds.describes (holds.coherent bounded) holds.runs (holds.nests bounded)
    rw [← Contract.transition_code] at foretold
    exact foretold
  refine ⟨foretold, ?_⟩
  cases operation with
  | init =>
      simp only [MatrixCell.operationOf] at answers
      cases answers with
      | creates =>
          exact advance_done foretold (.fresh _ me)
      | vacant empty builds =>
          exact (builds _ rfl).elim
      | takes waiters acquiring =>
          simp at acquiring
  | lock =>
      simp only [MatrixCell.operationOf] at answers
      cases answers with
      | vacant | reports =>
          exact holds.advance_refused (by simp) foretold
      | takes waiters acquiring offers free =>
          have free := ((holds.tracked _ offers).free_iff bounded).mp free
          exact holds.advance_acquired (.inl rfl) offers (.inl free) foretold
      | relocks finds owned recursive =>
          subst finds
          have tracked := holds.tracked _ rfl
          rw [tracked.isRecursive] at recursive
          exact holds.advance_acquired (.inl rfl) rfl (.inr recursive) foretold
  | tryLock =>
      simp only [MatrixCell.operationOf] at answers
      cases answers with
      | vacant | declines =>
          exact holds.advance_refused (by simp) foretold
      | takes waiters acquiring offers free =>
          have free := ((holds.tracked _ offers).free_iff bounded).mp free
          exact holds.advance_acquired (.inr rfl) offers (.inl free) foretold
  | unlock =>
      exact holds.advance_unlock bounded answers foretold
  | destroy =>
      simp only [MatrixCell.operationOf] at answers
      cases answers with
      | vacant | protects =>
          exact holds.advance_refused (by simp) foretold
      | takes waiters acquiring =>
          simp at acquiring
      | drops =>
          have done : (outlook.rule .destroy).status = 0 :=
            foretold.status.symm
          refine ⟨foretold.describes, by simp [Slot.offered], ?_⟩
          intro _
          simp [Outlook.advance, done, depthAfter]

/-- A thread that has the handle to itself performs what is predicted, until it waits. -/
theorem Holds.follows
    {world : World}
    {handle : HandleId}
    {budget : Budget}
    {requested : Kind}
    {operations : List ContractOperation}
    (holds : outlook.Holds me slot)
    (ready : world.Ready me handle slot budget)
    (funded : budget.failures = 0)
    (bounded : outlook.Bounded requested operations) :
    ∃ results last,
      world.Follows me handle requested operations (outlook.walk requested operations)
          results last ∧
        ∀ operation,
          operations[results.length]? = some operation →
            last.Waits me (.call handle (MatrixCell.operationOf requested operation) false)
              fun _ => True := by
  induction operations generalizing world outlook slot with
  | nil =>
      exact ⟨[], world, ⟨.nil world, rfl⟩, by simp⟩
  | cons operation rest inductionHypothesis =>
      have accepted := MatrixCell.isRefused_operationOf requested operation
      rcases ready.answered accepted (holds.coherent bounded.1) (fun _ => funded) false with
        ⟨result, left, after, answers, returns, ready⟩ | ⟨record, lock, rfl, barred, waits⟩
      · obtain ⟨foretold, holds⟩ := holds.advance bounded.1 answers
        obtain ⟨results, last, follows, waits⟩ :=
          inductionHypothesis holds ready (bounded.2 foretold.returns)
        refine ⟨result :: results, last, ⟨.cons returns follows.performs, ?_⟩, ?_⟩
        · simp [walk, foretold.returns, foretold.status, follows.statuses]
        · simpa using waits
      · have isLock := MatrixCell.operationOf_eq_lock.mp lock
        subst isLock
        have blocks : (outlook.rule .lock).blocks = true := by
          rw [rule, Contract.transition_code]
          exact barred.blocks holds.describes (holds.coherent bounded.1 _ rfl) (holds.runs _ rfl)
        refine ⟨[], world, ⟨.nil world, ?_⟩, ?_⟩
        · simp [walk, blocks]
        · intro operation next
          cases next
          exact waits.mono fun _ _ => trivial

/-- A prediction that starts where a handle starts is right about it. -/
theorem opening_holds
    {state : ContractState}
    (starts : state.Starts slot)
    (requested : Kind)
    (me : ThreadId) :
    (opening requested state).Holds me slot := by
  cases starts with
  | null =>
      exact ⟨.uninitialized, by simp [Slot.offered], fun _ => rfl⟩
  | declared =>
      refine ⟨.staticInitializer, ?_, fun _ => rfl⟩
      rintro record offers
      cases offers
      exact .fresh none me

/-- No unlock gives back one of several acquisitions. -/
def Flat (requested : Kind) : Outlook → List ContractOperation → Prop
  | _, [] => True
  | outlook, operation :: rest =>
      (operation = .unlock → outlook.depth ≤ 1) ∧
        Flat requested (outlook.advance requested operation) rest

/-- A flat prediction under the contract of the requested discipline is the plain fold. -/
theorem walk_eq_of_flat
    {requested : Kind}
    {operations : List ContractOperation}
    (same : outlook.kind.resolve = requested.resolve)
    (flat : outlook.Flat requested operations) :
    outlook.walk requested operations =
      Contract.walk requested.code outlook.state operations := by
  induction operations generalizing outlook with
  | nil =>
      rfl
  | cons operation rest inductionHypothesis =>
      have rule :
          outlook.rule operation =
            Contract.transition requested.code outlook.state operation := by
        rw [Outlook.rule, Contract.transition_code, Contract.transition_code,
          ← Contract.rule_resolve, same, Contract.rule_resolve]
      have kind : (outlook.advance requested operation).kind.resolve = requested.resolve := by
        simp only [Outlook.advance]
        split
        · rfl
        · exact same
      have next :
          (outlook.advance requested operation).state = (outlook.rule operation).next := by
        have once : operation = .unlock → ¬ 2 ≤ outlook.depth := by
          intro unlock
          have shallow := flat.1 unlock
          omega
        simp only [Outlook.advance, Contract.successor]
        split
        · rename_i nested
          simp [once nested.1] at nested
        · rfl
      rw [walk, Contract.walk, inductionHypothesis kind flat.2, next, rule]

end Outlook

/--
What an `Outlook` predicts for the calls of a thread that has a handle to itself
from its start is what they answer, up to the first call that waits, and that
call never returns.  Where no unlock is nested, and no sentinel stands for a
discipline that it will not run, this is the plain fold of the contract.
-/
theorem World.Ready.walk_exact
    {world : World}
    {me : ThreadId}
    {handle : HandleId}
    {slot : Slot}
    {budget : Budget}
    {requested : Kind}
    {state : ContractState}
    {operations : List ContractOperation}
    (starts : state.Starts slot)
    (ready : world.Ready me handle slot budget)
    (funded : budget.failures = 0)
    (bounded : (Outlook.opening requested state).Bounded requested operations) :
    (∃ results last,
        world.Follows me handle requested operations
            ((Outlook.opening requested state).walk requested operations) results last ∧
          ∀ operation,
            operations[results.length]? = some operation →
              last.Waits me (.call handle (MatrixCell.operationOf requested operation) false)
                fun _ => True) ∧
      (state = .uninitialized ∨ requested.resolve = .recursive →
        (Outlook.opening requested state).Flat requested operations →
        (Outlook.opening requested state).walk requested operations =
          Contract.walk requested.code state operations) := by
  refine ⟨(Outlook.opening_holds starts requested me).follows ready funded bounded, ?_⟩
  intro plain flat
  apply Outlook.walk_eq_of_flat _ flat
  cases starts with
  | null =>
      rfl
  | declared =>
      rcases plain with other | recursive
      · contradiction
      · exact recursive.symm

theorem World.opening_ready (me : ThreadId) (handle : HandleId) (slot : Slot) :
    (World.opening handle slot).Ready me handle slot {} where
  awake := rfl
  idle := rfl
  quiet := rfl
  funded := rfl
  cell := by simp [World.opening, World.setCell]

/-- A recursive mutex that is locked twice and unlocked twice. -/
def nestedHistory : List ContractOperation :=
  [.init, .lock, .lock, .unlock, .unlock]

theorem World.Ready.walk_exact_nestedHistory :
    (World.opening ⟨0⟩ .empty).Ready ⟨0⟩ ⟨0⟩ .empty {} ∧
      (Outlook.opening .recursive .uninitialized).Bounded .recursive nestedHistory ∧
      ∃ results last,
        (World.opening ⟨0⟩ .empty).Follows ⟨0⟩ ⟨0⟩ .recursive nestedHistory
          ((Outlook.opening .recursive .uninitialized).walk .recursive nestedHistory)
          results last := by
  have ready := World.opening_ready ⟨0⟩ ⟨0⟩ .empty
  have bounded : (Outlook.opening .recursive .uninitialized).Bounded .recursive nestedHistory := by
    decide
  obtain ⟨results, last, follows, -⟩ := (ready.walk_exact .null rfl bounded).1
  exact ⟨ready, bounded, results, last, follows⟩

/-- Calls that were all answered otherwise follow no rules. -/
theorem World.Performs.not_follows
    {world last : World}
    {me : ThreadId}
    {handle : HandleId}
    {requested : Kind}
    {operations : List ContractOperation}
    {results : List Result}
    {rules : List Transition}
    (performs : World.Performs me handle requested world operations results last)
    (flows : ∀ rule ∈ rules, rule.blocks = false)
    (complete : rules.length = operations.length)
    (differs :
      (results.map fun result => result.outcome.status) ≠ rules.map Transition.status) :
    ¬ ∃ others final, world.Follows me handle requested operations rules others final := by
  rintro ⟨others, final, follows⟩
  have statuses := follows.statuses
  rw [List.takeWhile_eq_self_iff.mpr (by simpa using flows)] at statuses
  have length : others.length = operations.length := by
    simpa [complete] using congrArg List.length statuses
  have again := follows.performs
  rw [length, List.take_length] at again
  rw [performs.unique again] at differs
  exact differs statuses

theorem Outlook.length_walk
    (requested : Kind)
    (operations : List ContractOperation)
    (outlook : Outlook) :
    (outlook.walk requested operations).length = operations.length := by
  induction operations generalizing outlook with
  | nil =>
      rfl
  | cons operation rest inductionHypothesis =>
      simp [walk, inductionHypothesis]

/-- Rules that differ from a prediction without waits are not followed. -/
theorem ContractState.Starts.not_follows
    {state : ContractState}
    {slot : Slot}
    {requested : Kind}
    {operations : List ContractOperation}
    {rules : List Transition}
    (starts : state.Starts slot)
    (bounded : (Outlook.opening requested state).Bounded requested operations)
    (returns :
      ∀ rule ∈ (Outlook.opening requested state).walk requested operations, rule.blocks = false)
    (flows : ∀ rule ∈ rules, rule.blocks = false)
    (complete : rules.length = operations.length)
    (differs :
      ((Outlook.opening requested state).walk requested operations).map Transition.status ≠
        rules.map Transition.status) :
    ¬ ∃ results last,
        (World.opening ⟨0⟩ slot).Follows ⟨0⟩ ⟨0⟩ requested operations rules results last := by
  obtain ⟨results, last, follows, -⟩ :=
    (Outlook.opening_holds starts requested ⟨0⟩).follows
      (World.opening_ready ⟨0⟩ ⟨0⟩ slot) rfl bounded
  have statuses := follows.statuses
  rw [List.takeWhile_eq_self_iff.mpr (by simpa using returns)] at statuses
  have length : results.length = operations.length := by
    simpa [Outlook.length_walk] using congrArg List.length statuses
  have performs := follows.performs
  rw [length, List.take_length] at performs
  apply performs.not_follows flows complete
  rw [statuses]
  exact differs

/-- A sentinel that is relocked. -/
def relockHistory : List ContractOperation :=
  [.lock, .lock]

namespace Outlook.Holds

variable
  {outlook : Outlook} {me : ThreadId} {slot : Slot} {world : World} {handle : HandleId}
  {budget : Budget} {requested : Kind}

/-- A thread that may relock gets a lock, and has one acquisition more to give back. -/
theorem locks_again
    (holds : outlook.Holds me slot)
    (ready : world.Ready me handle slot budget)
    (funded : budget.failures = 0)
    (opened : outlook.state = .staticInitializer ∨ outlook.state = .lockedBySelf)
    (recursive : outlook.kind.isRecursive = true)
    (bounded : outlook.depth < 2 ^ 32)
    (requested : Kind) :
    ∃ result left after,
      world.Returns me (.call handle .lock false) result after ∧
        result.outcome.status = 0 ∧
        after.Ready me handle left budget ∧
        (outlook.advance requested .lock).Holds me left ∧
        (outlook.advance requested .lock).state = .lockedBySelf ∧
        (outlook.advance requested .lock).depth = outlook.depth + 1 := by
  have rule : outlook.rule .lock = Contract.moves .lockedBySelf := by
    rw [Outlook.rule, Contract.transition_code]
    rcases opened with declared | held
    · rw [declared]
      rfl
    · rw [held]
      exact Contract.relock_of_recursive recursive
  have accepted : Operation.lock.isRefused = false := rfl
  rcases ready.answered accepted (holds.coherent bounded) (fun _ => funded) false with
    ⟨result, left, after, answers, returns, ready⟩ | ⟨record, -, rfl, barred, -⟩
  · have answersLock :
        slot.Answers me (MatrixCell.operationOf requested .lock) result left :=
      answers
    obtain ⟨foretold, later⟩ := holds.advance bounded answersLock
    refine ⟨result, left, after, returns, ?_, ready, later, ?_, ?_⟩
    · rw [foretold.status, rule]
      rfl
    · simp [Outlook.advance, rule, Contract.moves, Contract.successor]
    · simp [Outlook.advance, rule, Contract.moves, Outlook.depthAfter]
  · have blocks :=
      barred.blocks holds.describes (holds.coherent bounded _ rfl) (holds.runs _ rfl)
    rw [← Contract.transition_code] at blocks
    change (outlook.rule .lock).blocks = true at blocks
    rw [rule] at blocks
    contradiction

/-- With as many acquisitions as the counter has values, a try-lock finds the mutex free. -/
theorem tries_wrapped
    (holds : outlook.Holds me slot)
    (ready : world.Ready me handle slot budget)
    (full : outlook.depth = 2 ^ 32) :
    ∃ after, world.Returns me (.call handle .tryLock false) (.ok .done) after := by
  cases slot with
  | empty =>
      simp [holds.vacant rfl] at full
  | sentinel =>
      simp [(holds.tracked _ rfl).unowned_iff.mp rfl] at full
  | constructed record =>
      have tracked := holds.tracked record rfl
      rw [full] at tracked
      obtain ⟨result, left, ⟨branches, comes⟩, answers⟩ :=
        Operation.answers_tryLock record me budget
      cases answers with
      | declines found counted =>
          cases found
          exact (counted tracked.wraps).elim
      | vacant empty =>
          contradiction
      | takes waiters acquiring offers free =>
          have finishes :
              (Operation.tryLock.alone me (.constructed record) budget).progress =
                .finished (.ok .done) := by
            rw [comes]
          obtain ⟨after, returns, -⟩ := ready.returns rfl false finishes
          exact ⟨after, returns⟩

/-- A thread may lock as often as the counter has values, and then even a try-lock succeeds. -/
theorem wraps
    {count : Nat}
    (holds : outlook.Holds me slot)
    (ready : world.Ready me handle slot budget)
    (funded : budget.failures = 0)
    (opened : outlook.state = .staticInitializer ∨ outlook.state = .lockedBySelf)
    (recursive : outlook.kind.isRecursive = true)
    (full : outlook.depth + count = 2 ^ 32) :
    ∃ results last,
      World.Performs me handle requested world
          (List.replicate count .lock ++ [.tryLock]) results last ∧
        ∀ result ∈ results, result.outcome.status = 0 := by
  induction count generalizing world outlook slot with
  | zero =>
      obtain ⟨after, returns⟩ := holds.tries_wrapped ready full
      refine ⟨[.ok .done], after, .cons returns (.nil after), ?_⟩
      intro result member
      rw [List.mem_singleton.mp member]
      rfl
  | succ count inductionHypothesis =>
      obtain ⟨result, left, after, returns, done, ready, later, held, deeper⟩ :=
        holds.locks_again ready funded opened recursive (by omega) requested
      obtain ⟨results, last, performs, allDone⟩ :=
        inductionHypothesis later ready (.inr held) recursive (by omega)
      refine ⟨result :: results, last, .cons returns performs, ?_⟩
      intro answer member
      rcases List.mem_cons.mp member with rfl | rest
      · exact done
      · exact allDone answer rest

end Outlook.Holds

/-- The contract refuses the last call of a history of locks and one try-lock. -/
theorem Contract.walk_lockedOften (count : Nat) :
    walk Kind.recursive.code .staticInitializer
        (List.replicate (count + 1) .lock ++ [.tryLock]) =
      List.replicate (count + 1) (moves .lockedBySelf) ++ [refuses .lockedBySelf .busy] := by
  have held :
      walk Kind.recursive.code .lockedBySelf (List.replicate count .lock ++ [.tryLock]) =
        List.replicate count (moves .lockedBySelf) ++ [refuses .lockedBySelf .busy] := by
    induction count with
    | zero =>
        rfl
    | succ count inductionHypothesis =>
        rw [List.replicate_succ, List.cons_append, walk, List.replicate_succ, List.cons_append,
          ← inductionHypothesis]
        rfl
  rw [List.replicate_succ, List.cons_append, walk, List.replicate_succ, List.cons_append, ← held]
  rfl

/-- A sentinel that is locked often and tried then. -/
def lockedOften (count : Nat) : List ContractOperation :=
  List.replicate (count + 1) .lock ++ [.tryLock]

/-- The contract does not follow a thread that locks as often as the counter has values. -/
theorem Contract.not_follows_lockedOften
    {count : Nat}
    (full : count + 1 = 2 ^ 32) :
    ¬ ∃ results last,
        (World.opening ⟨0⟩ .sentinel).Follows ⟨0⟩ ⟨0⟩ .recursive (lockedOften count)
          (walk Kind.recursive.code .staticInitializer (lockedOften count)) results last := by
  have depth :
      (Outlook.opening .recursive .staticInitializer).depth + (count + 1) = 2 ^ 32 := by
    rw [full]
    rfl
  obtain ⟨results, last, performs, done⟩ :=
    (Outlook.opening_holds .declared .recursive ⟨0⟩).wraps
      (World.opening_ready ⟨0⟩ ⟨0⟩ .sentinel) rfl (.inl rfl) rfl depth
  apply World.Performs.not_follows performs
  · rw [lockedOften, walk_lockedOften]
    intro rule member
    rcases List.mem_append.mp member with lock | tried
    · rw [List.eq_of_mem_replicate lock]
      rfl
    · rw [List.mem_singleton.mp tried]
      rfl
  · simp [lockedOften, walk_lockedOften]
  · rw [lockedOften, walk_lockedOften]
    intro same
    have busy :
        Fault.busy.status ∈ results.map fun result => result.outcome.status := by
      rw [same]
      simp [refuses]
    obtain ⟨result, member, status⟩ := List.mem_map.mp busy
    rw [done result member] at status
    exact absurd status (by decide)

/-- The plain fold of the contract misses the depth of a recursive mutex... -/
theorem Contract.walk_misses :
    (¬ ∃ results last,
        (World.opening ⟨0⟩ .empty).Follows ⟨0⟩ ⟨0⟩ .recursive nestedHistory
          (Contract.walk Kind.recursive.code .uninitialized nestedHistory) results last) ∧
      (¬ ∃ results last,
        (World.opening ⟨0⟩ .sentinel).Follows ⟨0⟩ ⟨0⟩ .errorCheck relockHistory
          (Contract.walk Kind.errorCheck.code .staticInitializer relockHistory) results last) ∧
      (¬ ∃ results last,
        (World.opening ⟨0⟩ .sentinel).Follows ⟨0⟩ ⟨0⟩ .recursive (lockedOften (2 ^ 32 - 1))
          (Contract.walk Kind.recursive.code .staticInitializer (lockedOften (2 ^ 32 - 1)))
          results last) := by
  refine ⟨?_, ?_, ?_⟩
  · exact ContractState.Starts.null.not_follows
      (by decide) (by decide) (by decide) (by decide) (by decide)
  · exact ContractState.Starts.declared.not_follows
      (by decide) (by decide) (by decide) (by decide) (by decide)
  · exact Contract.not_follows_lockedOften (by omega)

end LatchMutex
