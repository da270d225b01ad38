import LatchMutex.Record
import LatchMutex.Table

namespace LatchMutex

/-!
# The cells behind cancellation

The pending flag of a thread lies in a cell, which the thread makes when it first
uses the facade.  The registry leads from the identity of a thread to its cell until
the thread exits; a handle leads there for as long as anybody keeps it.  A request
raises the flag in whatever cell it was led to, and the thread itself reads and
lowers the flag in the cell that it made.

That all these ways lead to the same cell, and to nobody else's, is kept by every
operation: the four propositions in `CancelFacade`.
-/

/-- Address of a cell with one pending flag. -/
structure CancelCell where
  number : Nat
  deriving Repr, DecidableEq, Inhabited

/-- What others keep to request the cancellation of a thread. -/
structure CancelHandle where
  thread : ThreadId
  cell : CancelCell
  deriving Repr, DecidableEq, Inhabited

/-- The cells that the threads have made, and the ways to them. -/
structure CancelFacade where
  /-- The pending flag in each cell. -/
  flags : Table CancelCell Bool := {}
  /-- The cell that each thread has made. -/
  own : Table ThreadId CancelCell := {}
  /-- The cells that can be found by the identity of a thread. -/
  registry : Table ThreadId CancelCell := {}
  /-- The handle of each thread that has made one; all that a thread makes are alike. -/
  handles : Table ThreadId CancelHandle := {}
  /-- How many cells have been made. -/
  made : Nat := 0
  bounded : ∀ thread cell, own.find? thread = some cell → cell.number < made
  distinct :
    ∀ first second cell,
      own.find? first = some cell → own.find? second = some cell → first = second
  listed : ∀ thread cell, registry.find? thread = some cell → own.find? thread = some cell
  handed :
    ∀ thread handle,
      handles.find? thread = some handle →
        handle.thread = thread ∧ own.find? thread = some handle.cell
  deriving Repr, DecidableEq

namespace CancelFacade

/-- The facade before anybody uses it. -/
def untouched : CancelFacade where
  bounded := by simp [Table.find?, Table.lookup]
  distinct := by simp [Table.find?, Table.lookup]
  listed := by simp [Table.find?, Table.lookup]
  handed := by simp [Table.find?, Table.lookup]

instance : Inhabited CancelFacade := ⟨untouched⟩

/-- The cell that is made next. -/
def fresh (facade : CancelFacade) : CancelCell :=
  ⟨facade.made⟩

section Enrolling

variable {me thread : ThreadId} {cell : CancelCell} (facade : CancelFacade)

/-- Nobody has made the next cell yet. -/
theorem ne_fresh (found : facade.own.find? thread = some cell) : cell ≠ facade.fresh := by
  rintro rfl
  exact Nat.lt_irrefl _ (facade.bounded thread _ found)

theorem bounded_enroll (thread : ThreadId) (cell : CancelCell)
    (found : (facade.own.set me facade.fresh).find? thread = some cell) :
    cell.number < facade.made + 1 := by
  rw [Table.find?_set] at found
  split at found
  · cases found
    exact Nat.lt_succ_self _
  · exact Nat.lt_succ_of_lt (facade.bounded thread cell found)

theorem distinct_enroll (first second : ThreadId) (cell : CancelCell)
    (atFirst : (facade.own.set me facade.fresh).find? first = some cell)
    (atSecond : (facade.own.set me facade.fresh).find? second = some cell) :
    first = second := by
  rw [Table.find?_set] at atFirst atSecond
  split at atFirst <;> split at atSecond
  next here there =>
    exact here.trans there.symm
  next =>
    cases atFirst
    exact absurd rfl (facade.ne_fresh atSecond)
  next =>
    cases atSecond
    exact absurd rfl (facade.ne_fresh atFirst)
  next =>
    exact facade.distinct first second cell atFirst atSecond

theorem listed_enroll (thread : ThreadId) (cell : CancelCell)
    (found : (facade.registry.set me facade.fresh).find? thread = some cell) :
    (facade.own.set me facade.fresh).find? thread = some cell := by
  rw [Table.find?_set] at found ⊢
  split at found
  next same =>
    rwa [if_pos same]
  next different =>
    rw [if_neg different]
    exact facade.listed thread cell found

/-- The handles lead to cells of others, for whoever makes a cell has no handle. -/
theorem handed_enroll (absent : facade.own.find? me = none)
    (thread : ThreadId) (handle : CancelHandle)
    (found : facade.handles.find? thread = some handle) :
    handle.thread = thread ∧
      (facade.own.set me facade.fresh).find? thread = some handle.cell := by
  obtain ⟨same, there⟩ := facade.handed thread handle found
  have different : thread ≠ me := by
    rintro rfl
    simp [absent] at there
  exact ⟨same, (Table.find?_set_of_ne _ different _).trans there⟩

end Enrolling

/-- A thread that has no cell makes one with its flag down, and enters it in the registry. -/
def enroll (facade : CancelFacade) (me : ThreadId) : CancelFacade :=
  if absent : facade.own.find? me = none then
    { facade with
      flags := facade.flags.set facade.fresh false
      own := facade.own.set me facade.fresh
      registry := facade.registry.set me facade.fresh
      made := facade.made + 1
      bounded := facade.bounded_enroll
      distinct := facade.distinct_enroll
      listed := facade.listed_enroll
      handed := facade.handed_enroll absent }
  else
    facade

/-- The registry forgets a thread. -/
def withdraw (facade : CancelFacade) (me : ThreadId) : CancelFacade :=
  { facade with
    registry := facade.registry.erase me
    listed := by
      intro thread cell found
      rw [Table.find?_erase] at found
      split at found
      · contradiction
      · exact facade.listed thread cell found }

/-- Raise the flag in a cell. -/
def raise (facade : CancelFacade) (cell : CancelCell) : CancelFacade :=
  { facade with flags := facade.flags.set cell true }

/-- A thread writes the flag in its cell. -/
def store (facade : CancelFacade) (me : ThreadId) (pending : Bool) : CancelFacade :=
  match facade.own.find? me with
  | none => facade
  | some cell => { facade with flags := facade.flags.set cell pending }

/-- A thread makes a handle that leads to its cell. -/
def share (facade : CancelFacade) (me : ThreadId) : CancelFacade :=
  match there : facade.own.find? me with
  | none => facade
  | some cell =>
      { facade with
        handles := facade.handles.set me { thread := me, cell }
        handed := by
          intro thread handle found
          rw [Table.find?_set] at found
          split at found
          next same =>
            cases found
            exact ⟨same.symm, same ▸ there⟩
          next =>
            exact facade.handed thread handle found }

/-- The flag in the cell of a thread, if it has made one. -/
def pending? (facade : CancelFacade) (thread : ThreadId) : Option Bool :=
  (facade.own.find? thread).map facade.flags.get

/-- What the handle of a thread shows of its flag, if the thread has made one. -/
def seenPending? (facade : CancelFacade) (thread : ThreadId) : Option Bool :=
  (facade.handles.find? thread).map fun handle => facade.flags.get handle.cell

/-- Whether a thread has made its cell. -/
def isEnrolled (facade : CancelFacade) (thread : ThreadId) : Bool :=
  (facade.own.find? thread).isSome

/-- Whether a thread can be found by its identity. -/
def isRegistered (facade : CancelFacade) (thread : ThreadId) : Bool :=
  (facade.registry.find? thread).isSome

/-- Whether a thread has made a handle. -/
def isHanded (facade : CancelFacade) (thread : ThreadId) : Bool :=
  (facade.handles.find? thread).isSome

/--
What a step of a thread does to the facade: the first use of it enrolls the thread, its
exit withdraws it, and the flag in its cell is what the step has left.
-/
def follow
    (facade : CancelFacade)
    (me : ThreadId)
    (touched exited pending : Bool) :
    CancelFacade :=
  let enrolled := if touched then facade.enroll me else facade
  let listed := if exited then enrolled.withdraw me else enrolled
  listed.store me pending

section

variable
  {me other thread : ThreadId} {cell : CancelCell} {touched exited pending : Bool}
  (facade : CancelFacade)

theorem isEnrolled_of_isRegistered (registered : facade.isRegistered thread = true) :
    facade.isEnrolled thread = true := by
  obtain ⟨cell, found⟩ := Option.isSome_iff_exists.mp registered
  exact Option.isSome_iff_exists.mpr ⟨cell, facade.listed thread cell found⟩

theorem isEnrolled_of_isHanded (handed : facade.isHanded thread = true) :
    facade.isEnrolled thread = true := by
  obtain ⟨handle, found⟩ := Option.isSome_iff_exists.mp handed
  exact Option.isSome_iff_exists.mpr ⟨handle.cell, (facade.handed thread handle found).2⟩

/-- A flag that is raised in the cell of one thread is raised for no other. -/
theorem pending?_raise
    (found : facade.own.find? thread = some cell)
    (other : ThreadId) :
    (facade.raise cell).pending? other =
      if other = thread then some true else facade.pending? other := by
  unfold pending? raise
  split
  next same =>
    simp [same, found]
  next different =>
    cases elsewhere : facade.own.find? other with
    | none =>
        rfl
    | some there =>
        have apart : there ≠ cell := by
          rintro rfl
          exact different (facade.distinct other thread there elsewhere found)
        simp [Table.get_set_of_ne _ apart]

theorem own_enroll_of_ne (different : other ≠ me) :
    (facade.enroll me).own.find? other = facade.own.find? other := by
  unfold enroll
  split
  · exact Table.find?_set_of_ne _ different _
  · rfl

theorem isEnrolled_enroll_self : (facade.enroll me).isEnrolled me = true := by
  unfold isEnrolled enroll
  split
  next absent =>
    simp
  next there =>
    exact Option.isSome_iff_ne_none.mpr there

/-- A cell that is made holds nobody's flag yet. -/
theorem pending?_enroll_of_ne (different : other ≠ me) :
    (facade.enroll me).pending? other = facade.pending? other := by
  rw [pending?, own_enroll_of_ne facade different, pending?]
  cases found : facade.own.find? other with
  | none =>
      rfl
  | some there =>
      unfold enroll
      split
      · simp [Table.get_set_of_ne _ (facade.ne_fresh found)]
      · rfl

theorem isRegistered_enroll_self :
    (facade.enroll me).isRegistered me =
      (facade.isRegistered me || !facade.isEnrolled me) := by
  unfold isRegistered isEnrolled enroll
  split
  next absent =>
    simp [absent]
  next there =>
    simp [Option.isSome_iff_ne_none.mpr there]

theorem isRegistered_enroll_of_ne (different : other ≠ me) :
    (facade.enroll me).isRegistered other = facade.isRegistered other := by
  unfold isRegistered enroll
  split
  · simp [Table.find?_set_of_ne _ different]
  · rfl

theorem isHanded_enroll : (facade.enroll me).isHanded thread = facade.isHanded thread := by
  unfold enroll
  split <;> rfl

theorem own_store : (facade.store me pending).own = facade.own := by
  unfold store
  split <;> rfl

theorem isRegistered_store :
    (facade.store me pending).isRegistered thread = facade.isRegistered thread := by
  unfold store
  split <;> rfl

theorem isHanded_store :
    (facade.store me pending).isHanded thread = facade.isHanded thread := by
  unfold store
  split <;> rfl

theorem pending?_store_self :
    (facade.store me pending).pending? me = (facade.pending? me).map fun _ => pending := by
  rw [pending?, own_store, pending?]
  cases found : facade.own.find? me with
  | none => rfl
  | some cell => simp [store, found]

theorem pending?_store_of_ne (different : other ≠ me) :
    (facade.store me pending).pending? other = facade.pending? other := by
  unfold store
  split
  next =>
    rfl
  next cell found =>
    rw [pending?, pending?]
    cases elsewhere : facade.own.find? other with
    | none =>
        rfl
    | some there =>
        have apart : there ≠ cell := by
          rintro rfl
          exact different (facade.distinct other me there elsewhere found)
        simp [Table.get_set_of_ne _ apart]

/-- After its step a thread reads the flag that it has left. -/
theorem pending?_follow_self :
    ((facade.follow me touched exited pending).pending? me).getD pending = pending := by
  unfold follow
  rw [pending?_store_self]
  cases (if exited = true then _ else _ : CancelFacade).pending? me <;> rfl

/-- The step of a thread leaves the flags of the others alone. -/
theorem pending?_follow_of_ne (different : other ≠ me) :
    (facade.follow me touched exited pending).pending? other = facade.pending? other := by
  unfold follow
  rw [pending?_store_of_ne _ different]
  cases touched <;> cases exited <;>
    first | rfl | exact pending?_enroll_of_ne facade different

theorem isEnrolled_follow_self :
    (facade.follow me touched exited pending).isEnrolled me =
      (facade.isEnrolled me || touched) := by
  unfold follow isEnrolled
  rw [own_store]
  cases touched
  · cases exited <;> exact (Bool.or_false _).symm
  · rw [Bool.or_true]
    cases exited <;> exact facade.isEnrolled_enroll_self

theorem isEnrolled_follow_of_ne (different : other ≠ me) :
    (facade.follow me touched exited pending).isEnrolled other = facade.isEnrolled other := by
  unfold follow isEnrolled
  rw [own_store]
  cases touched <;> cases exited <;>
    first | rfl | exact congrArg Option.isSome (facade.own_enroll_of_ne different)

/-- A thread can be found from its first use of the facade to its exit. -/
theorem isRegistered_follow_self :
    (facade.follow me touched exited pending).isRegistered me =
      (!exited && (facade.isRegistered me || touched && !facade.isEnrolled me)) := by
  unfold follow
  rw [isRegistered_store]
  cases touched <;> cases exited
  · simp
  · simp [isRegistered, withdraw]
  · simpa using facade.isRegistered_enroll_self
  · simp [isRegistered, withdraw]

theorem isRegistered_follow_of_ne (different : other ≠ me) :
    (facade.follow me touched exited pending).isRegistered other =
      facade.isRegistered other := by
  have withdrawn (facade : CancelFacade) :
      (facade.withdraw me).isRegistered other = facade.isRegistered other := by
    simp [isRegistered, withdraw, Table.find?_erase_of_ne _ different]
  unfold follow
  rw [isRegistered_store]
  cases touched <;> cases exited
  · rfl
  · exact withdrawn facade
  · exact facade.isRegistered_enroll_of_ne different
  · exact (withdrawn _).trans (facade.isRegistered_enroll_of_ne different)

theorem isHanded_follow :
    (facade.follow me touched exited pending).isHanded thread = facade.isHanded thread := by
  unfold follow
  rw [isHanded_store]
  cases touched <;> cases exited <;> first | rfl | exact facade.isHanded_enroll

/-- Only a thread that has a cell makes a handle. -/
theorem isHanded_share :
    (facade.share me).isHanded thread =
      (facade.isHanded thread || (decide (thread = me) && facade.isEnrolled me)) := by
  unfold isHanded isEnrolled share
  split
  next absent =>
    simp [absent]
  next cell there =>
    by_cases same : thread = me
    · simp [same, there]
    · simp [same, Table.find?_set_of_ne _ same]

/-- A handle changes no flag and no other way to a cell. -/
theorem share_keeps (me : ThreadId) :
    (facade.share me).flags = facade.flags ∧
      (facade.share me).own = facade.own ∧ (facade.share me).registry = facade.registry := by
  unfold share
  split <;> exact ⟨rfl, rfl, rfl⟩

end

end CancelFacade

end LatchMutex
