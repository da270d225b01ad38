import LatchMutex.Proofs.AttributeCalls

namespace LatchMutex

/-!
# One slot as one handle

The calls on one slot that is never copied are the methods of one handle.  Both run
side by side, with the level in force and the failures forced on the allocator free
at every call: they answer the same, draw the same allocations, and the slot leads
to the attributes that the handle owns.
-/

/-- A call, the level in force and the failures forced on the allocator before it. -/
structure AttributeStep where
  level : SafetyLevel
  /-- Number of allocations to fail from here on, if it is set anew. -/
  inject : Option UInt32 := none
  call : AttributeCall
  deriving Repr, DecidableEq

namespace AttributeStep

/-- Budget that the call draws on. -/
def budget (step : AttributeStep) (left : Budget) : Budget :=
  match step.inject with
  | none => left
  | some failures => { failures }

end AttributeStep

/-- Make calls one after the other through the methods of a handle. -/
def AttributeHandle.performAll
    (supported : Bool)
    (handle : AttributeHandle)
    (budget : Budget) :
    List AttributeStep → List AttributeReply × AttributeHandle × Budget
  | [] => ([], handle, budget)
  | step :: later =>
      let (reply, next, rest) := handle.perform supported (step.budget budget) step.call
      let (replies, last) := next.performAll supported rest later
      (reply :: replies, last)

namespace AttributeHandle

variable {supported : Bool} {handle : AttributeHandle} {budget : Budget} {call : AttributeCall}

/-- The discipline is written exactly by a reading that succeeds. -/
theorem written_getKind (slot : Option SlotId) (output : Bool) :
    let reply := (handle.perform supported budget (.getKind slot output)).1
    reply.written.isSome = true ↔ reply.status = 0 := by
  obtain ⟨object⟩ := handle
  have invalid : Fault.invalidArgument.status ≠ 0 := by decide
  cases slot with
  | none =>
      exact iff_of_false Bool.false_ne_true invalid
  | some slot =>
      cases output with
      | false =>
          exact iff_of_false Bool.false_ne_true invalid
      | true =>
          cases object with
          | none =>
              exact iff_of_false Bool.false_ne_true invalid
          | some attributes =>
              exact iff_of_true rfl rfl

/-- A reading of the sharing mode that fails writes the private mode. -/
theorem written_getSharing (slot : Option SlotId) :
    let reply := (handle.perform supported budget (.getSharing slot true)).1
    reply.status ≠ 0 → reply.written = some Sharing.processPrivate.code := by
  obtain ⟨object⟩ := handle
  cases slot with
  | none =>
      exact fun _ => rfl
  | some slot =>
      cases object with
      | none =>
          exact fun _ => rfl
      | some attributes =>
          exact fun failed => absurd rfl failed

/-- A flawed call is an invalid argument and leaves the handle alone. -/
theorem perform_of_isFlawed
    (handle : AttributeHandle)
    (supported : Bool)
    (budget : Budget)
    (flawed : call.isFlawed = true) :
    (handle.perform supported budget call).1.status = Fault.invalidArgument.status ∧
      (handle.perform supported budget call).2.1 = handle := by
  obtain ⟨object⟩ := handle
  cases call with
  | init | destroy =>
      contradiction
  | setKind slot code =>
      have unknown : Kind.ofCode? code = none := Option.isNone_iff_eq_none.mp flawed
      cases slot with
      | none =>
          exact ⟨rfl, rfl⟩
      | some slot =>
          rw [perform, if_pos ⟨rfl, rfl⟩]
          simp only [setKind, update, Attributes.setKindCode, unknown]
          cases object <;> exact ⟨rfl, rfl⟩
  | setSharing slot code =>
      have unknown : Sharing.ofCode? code = none := Option.isNone_iff_eq_none.mp flawed
      cases slot with
      | none =>
          exact ⟨rfl, rfl⟩
      | some slot =>
          rw [perform, if_pos ⟨rfl, rfl⟩]
          simp only [setSharing, update, Attributes.setSharingCode, unknown]
          cases object <;> exact ⟨rfl, rfl⟩
  | getKind slot output | getSharing slot output =>
      cases output with
      | true =>
          contradiction
      | false =>
          cases slot <;> exact ⟨rfl, rfl⟩

/-- Without support a request for sharing makes the object private and keeps its discipline. -/
theorem perform_unsupported (attributes : Attributes) (slot : SlotId) :
    ({ object := some attributes } : AttributeHandle).perform false budget
        (.setSharing (some slot) Sharing.processShared.code) =
      (.refused .notSupported,
        { object := some { attributes with sharing := .processPrivate } }, budget) :=
  rfl

/-- Nothing that the handle owns is shared. -/
def Unshared (handle : AttributeHandle) : Prop :=
  ∀ attributes, handle.object = some attributes → attributes.sharing ≠ .processShared

/-- A change that never shares what was not shared keeps the handle so. -/
theorem Unshared.update
    {change : Attributes → Outcome × Attributes}
    (unshared : handle.Unshared)
    (changes :
      ∀ attributes,
        attributes.sharing ≠ .processShared →
        (change attributes).2.sharing ≠ .processShared) :
    (handle.update change).2.Unshared := by
  obtain ⟨object⟩ := handle
  cases object with
  | none =>
      exact unshared
  | some attributes =>
      rintro _ ⟨⟩
      exact changes attributes (unshared attributes rfl)

/-- Without support nothing that a handle owns is ever shared. -/
theorem Unshared.perform
    (unshared : handle.Unshared)
    (budget : Budget)
    (call : AttributeCall) :
    (handle.perform false budget call).2.1.Unshared := by
  rw [AttributeHandle.perform.eq_def]
  split
  case isFalse =>
    exact unshared
  case isTrue =>
    cases call with
    | init slot =>
        dsimp only
        rw [create, Budget.allocate]
        cases budget.draw with
        | mk fails rest =>
            cases fails with
            | true =>
                exact unshared
            | false =>
                rintro _ ⟨⟩
                decide
    | destroy slot =>
        dsimp only
        rw [destroy]
        split
        · exact unshared
        · simp [Unshared, null]
    | setKind slot code =>
        refine unshared.update fun attributes kept => ?_
        rw [Attributes.setKindCode]
        split <;> exact kept
    | setSharing slot code =>
        refine unshared.update fun attributes kept => ?_
        rw [Attributes.setSharingCode]
        split
        · exact kept
        · rw [Attributes.setSharing]
          split
          case isTrue =>
            simp
          case isFalse supported =>
            exact fun shared => supported ⟨shared, rfl⟩
    | getKind | getSharing =>
        exact unshared

theorem Unshared.performAll
    (unshared : handle.Unshared)
    (budget : Budget)
    (steps : List AttributeStep) :
    (handle.performAll false budget steps).2.1.Unshared := by
  induction steps generalizing handle budget with
  | nil =>
      exact unshared
  | cons step later inductionHypothesis =>
      exact inductionHypothesis (unshared.perform (step.budget budget) step.call) _

end AttributeHandle

namespace Boundary

/-- Make calls one after the other on the slots that they name. -/
def performAll
    (supported : Bool)
    (boundary : Boundary)
    (budget : Budget) :
    List AttributeStep → Except Misuse (List AttributeReply × Boundary × Budget)
  | [] => .ok ([], boundary, budget)
  | step :: later => do
      let (reply, next, rest) ←
        boundary.perform supported step.level (step.budget budget) step.call
      let (replies, last) ← next.performAll supported rest later
      pure (reply :: replies, last)

/-- Attributes that a slot leads to. -/
def stored (boundary : Boundary) (slot : SlotId) : Option Attributes :=
  (boundary.handle slot).bind boundary.heap.find?

/-- A slot leads to what a handle owns, and nothing that it holds is stale. -/
structure Mirrors (boundary : Boundary) (slot : SlotId) (handle : AttributeHandle) : Prop where
  stored : boundary.stored slot = handle.object
  standing :
    ∀ address,
      boundary.handle slot = some address →
      address ∈ boundary.registry ∧ (boundary.heap.find? address).isSome = true

namespace Mirrors

variable {boundary : Boundary} {slot : SlotId} {handle : AttributeHandle} {address : Address}

/-- A slot that holds nothing mirrors the handle that owns nothing. -/
theorem null (empty : boundary.handle slot = none) : boundary.Mirrors slot .null where
  stored := by simp [Boundary.stored, empty, AttributeHandle.null]
  standing := by simp [empty]

theorem handle_eq_none_iff (mirrors : boundary.Mirrors slot handle) :
    boundary.handle slot = none ↔ handle.isNull = true := by
  rw [AttributeHandle.isNull, ← mirrors.stored, Boundary.stored]
  cases holds : boundary.handle slot with
  | none =>
      simp
  | some address =>
      simpa using Option.isSome_iff_ne_none.mp (mirrors.standing address holds).2

/-- A new object mirrors a handle that owns the default attributes. -/
theorem place (boundary : Boundary) (slot : SlotId) :
    (boundary.place slot).Mirrors slot { object := some {} } := by
  have holds := handle_place boundary slot
  have there : (boundary.place slot).heap.find? ⟨boundary.next⟩ = some {} :=
    Table.find?_set_self _ _ _
  constructor
  · rw [Boundary.stored, holds, Option.bind_some, there]
  · intro address here
    obtain rfl := Option.some.inj (holds.symm.trans here)
    exact ⟨List.mem_cons_self, by rw [there]; rfl⟩

/-- Changing the object in the slot changes what the handle owns. -/
theorem write
    (mirrors : boundary.Mirrors slot handle)
    (holds : boundary.handle slot = some address)
    (attributes : Attributes) :
    (boundary.write address attributes).Mirrors slot { object := some attributes } := by
  have there : (boundary.write address attributes).heap.find? address = some attributes :=
    Table.find?_set_self _ _ _
  constructor
  · change (boundary.handle slot).bind (boundary.write address attributes).heap.find? = _
    rw [holds, Option.bind_some, there]
  · intro other here
    obtain rfl := Option.some.inj (holds.symm.trans here)
    exact ⟨(mirrors.standing address holds).1, by rw [there]; rfl⟩

/-- One call on the slot answers and does what the method of the handle does. -/
theorem perform
    (mirrors : boundary.Mirrors slot handle)
    (supported : Bool)
    (level : SafetyLevel)
    (budget : Budget)
    {call : AttributeCall}
    (named : call.slot = none ∨ call.slot = some slot) :
    let answered := handle.perform supported budget call
    ∃ next,
      boundary.perform supported level budget call = .ok (answered.1, next, answered.2.2) ∧
        next.Mirrors slot answered.2.1 := by
  dsimp only
  obtain unnamed | named := named
  · have unreached : ¬ (call.slot.isSome = true ∧ call.hasOutput = true) := by
      simp [unnamed]
    rw [AttributeHandle.perform_of_unreached unreached]
    exact ⟨boundary, perform_of_unreached supported budget unreached, mirrors⟩
  cases acts : call.isInit with
  | true =>
      obtain rfl : call = .init (some slot) := by
        cases call <;> first | exact congrArg _ named | contradiction
      rw [perform_init, AttributeHandle.perform_init]
      cases budget.draw.1 with
      | true =>
          exact ⟨boundary, rfl, mirrors⟩
      | false =>
          exact ⟨boundary.place slot, rfl, .place boundary slot⟩
  | false =>
      have owned : handle = { object := boundary.stored slot } := by
        rw [mirrors.stored]
      cases holds : boundary.handle slot with
      | none =>
          rw [Boundary.stored, holds] at owned
          obtain rfl : handle = .null := owned
          have unresolved : boundary.resolve level call.slot = .error .invalidArgument := by
            rw [named]
            exact resolve_of_not_handle holds
          rw [AttributeHandle.perform_null supported budget acts]
          exact ⟨boundary, perform_of_unresolved supported budget acts unresolved, mirrors⟩
      | some address =>
          obtain ⟨known, there⟩ := mirrors.standing address holds
          obtain ⟨attributes, there⟩ := Option.isSome_iff_exists.mp there
          rw [Boundary.stored, holds, Option.bind_some, there] at owned
          obtain rfl := owned
          have resolved : boundary.resolve level call.slot = .ok (slot, address) := by
            rw [named]
            exact resolve_of_handle holds fun _ => known
          refine ⟨_, perform_of_resolved supported budget acts resolved there, ?_⟩
          obtain ⟨-, destroyed⟩ | ⟨-, changed, kept⟩ :=
            AttributeHandle.perform_owner supported attributes budget acts named
          · rw [destroyed]
            exact .null (handle_free boundary slot address)
          · rw [kept]
            exact mirrors.write holds changed

/-- So do any number of them. -/
theorem performAll
    {steps : List AttributeStep}
    (mirrors : boundary.Mirrors slot handle)
    (supported : Bool)
    (budget : Budget)
    (alone : ∀ step ∈ steps, step.call.slot = none ∨ step.call.slot = some slot) :
    let answered := handle.performAll supported budget steps
    ∃ last,
      boundary.performAll supported budget steps =
          .ok (answered.1, last, answered.2.2) ∧
        last.Mirrors slot answered.2.1 := by
  induction steps generalizing boundary handle budget with
  | nil =>
      exact ⟨boundary, rfl, mirrors⟩
  | cons step later inductionHypothesis =>
      obtain ⟨named, others⟩ := List.forall_mem_cons.mp alone
      obtain ⟨next, performed, mirrored⟩ :=
        mirrors.perform supported step.level (step.budget budget) named
      dsimp only
      rw [AttributeHandle.performAll]
      generalize handle.perform supported (step.budget budget) step.call = answered
        at performed mirrored ⊢
      obtain ⟨reply, handled, rest⟩ := answered
      obtain ⟨last, ran, mirrors⟩ := inductionHypothesis mirrored rest others
      have continued :
          boundary.performAll supported budget (step :: later) =
            (next.performAll supported rest later).map fun ran => (reply :: ran.1, ran.2) := by
        rw [Boundary.performAll, performed]
        rfl
      rw [ran] at continued
      exact ⟨last, continued, mirrors⟩

end Mirrors

/-- What a call writes to an output, and what it may do to the attributes of the slot. -/
structure Orderly
    (supported : Bool)
    (slot : SlotId)
    (before : Boundary)
    (call : AttributeCall)
    (reply : AttributeReply)
    (after : Boundary) : Prop where
  /-- Without a slot or an output nothing happens. -/
  unreached :
    ¬ (call.slot.isSome = true ∧ call.hasOutput = true) →
      reply = call.refusal ∧ after = before
  /-- An unknown code is an invalid argument and changes nothing. -/
  flawed :
    call.isFlawed = true →
      reply.status = Fault.invalidArgument.status ∧ after.stored slot = before.stored slot
  kindOutput :
    ∀ named output,
      call = .getKind named output →
      (reply.written.isSome = true ↔ reply.status = 0)
  sharingOutput :
    ∀ named,
      call = .getSharing named true →
      reply.status ≠ 0 → reply.written = some Sharing.processPrivate.code
  /-- A request for sharing that is refused stores the private mode and nothing else. -/
  unsupported :
    ∀ attributes,
      supported = false →
      call = .setSharing (some slot) Sharing.processShared.code →
      before.stored slot = some attributes →
      reply.status = Fault.notSupported.status ∧
        after.stored slot = some { attributes with sharing := .processPrivate }

/-- A call that answers as the method of a handle is orderly. -/
theorem Mirrors.orderly
    {boundary next : Boundary}
    {slot : SlotId}
    {handle : AttributeHandle}
    {supported : Bool}
    {level : SafetyLevel}
    {budget : Budget}
    {call : AttributeCall}
    (mirrors : boundary.Mirrors slot handle)
    (performed :
      boundary.perform supported level budget call =
        .ok
          ((handle.perform supported budget call).1, next,
            (handle.perform supported budget call).2.2))
    (mirrored : next.Mirrors slot (handle.perform supported budget call).2.1) :
    Orderly supported slot boundary call (handle.perform supported budget call).1 next := by
  constructor
  case unreached =>
    intro unreached
    rw [perform_of_unreached supported budget unreached] at performed
    obtain ⟨reply, same⟩ := Prod.mk.inj (Except.ok.inj performed)
    exact ⟨reply.symm, (Prod.mk.inj same).1.symm⟩
  case flawed =>
    intro flawed
    obtain ⟨invalid, kept⟩ := handle.perform_of_isFlawed supported budget flawed
    exact ⟨invalid, by rw [mirrored.stored, kept, mirrors.stored]⟩
  case kindOutput =>
    rintro named output rfl
    exact AttributeHandle.written_getKind named output
  case sharingOutput =>
    rintro named rfl
    exact AttributeHandle.written_getSharing named
  case unsupported =>
    rintro attributes rfl rfl stored
    obtain rfl : handle = { object := some attributes } := by
      rw [← stored, mirrors.stored]
    rw [AttributeHandle.perform_unsupported] at mirrored ⊢
    exact ⟨rfl, mirrored.stored⟩

/--
From a null slot on, calls on this slot alone answer and draw what the methods of one
handle do, at any levels and with any failures forced on the allocator; afterwards
the slot is null exactly when the handle is, leads to what the handle owns, and
without support leads to nothing shared.  Whatever call comes next is orderly.
-/
theorem refines_handle
    (supported : Bool)
    (start : Boundary)
    (slot : SlotId)
    (budget : Budget)
    (steps : List AttributeStep)
    (null : start.handle slot = none)
    (alone : ∀ step ∈ steps, step.call.slot = none ∨ step.call.slot = some slot) :
    let (replies, handle, rest) := AttributeHandle.null.performAll supported budget steps
    ∃ boundary,
      start.performAll supported budget steps = .ok (replies, boundary, rest) ∧
        (boundary.handle slot = none ↔ handle.isNull = true) ∧
        boundary.stored slot = handle.object ∧
        (supported = false →
          ∀ attributes,
            boundary.stored slot = some attributes →
            attributes.sharing ≠ .processShared) ∧
        ∀ level budget call,
          call.slot = none ∨ call.slot = some slot →
          let (reply, next, rest) := handle.perform supported budget call
          ∃ after,
            boundary.perform supported level budget call = .ok (reply, after, rest) ∧
              after.stored slot = next.object ∧
              Orderly supported slot boundary call reply after := by
  obtain ⟨boundary, ran, mirrors⟩ :=
    (Mirrors.null null).performAll supported budget alone
  refine ⟨boundary, ran, mirrors.handle_eq_none_iff, mirrors.stored, ?_, ?_⟩
  · rintro rfl attributes stored
    have unshared : AttributeHandle.null.Unshared := nofun
    exact unshared.performAll budget steps attributes (mirrors.stored ▸ stored)
  · intro level budget call named
    obtain ⟨after, performed, mirrored⟩ := mirrors.perform supported level budget named
    exact ⟨after, performed, mirrored.stored, mirrors.orderly performed mirrored⟩

/--
An allocation that fails and one that succeeds, an unknown discipline and a known
one, a request for sharing that is refused, and two readings of the sharing mode.
-/
def refusedSharing : List AttributeStep :=
  [{ level := .strict, inject := some 1, call := .init (some ⟨0⟩) },
    { level := .hardened, call := .init (some ⟨0⟩) },
    { level := .hardened, call := .setKind (some ⟨0⟩) 99 },
    { level := .off, call := .setKind (some ⟨0⟩) 1 },
    { level := .strict, call := .setSharing (some ⟨0⟩) 1 },
    { level := .strict, call := .getSharing (some ⟨0⟩) true },
    { level := .hardened, call := .getSharing none true }]

/-- The hypotheses of `refines_handle` hold of these calls, and the answers can be computed. -/
theorem refines_handle_refusedSharing :
    ∃ replies boundary rest,
      ({} : Boundary).performAll false {} refusedSharing = .ok (replies, boundary, rest) ∧
        replies.map AttributeReply.status = [12, 0, 22, 0, 38, 0, 22] ∧
        boundary.stored ⟨0⟩ = some { kind := .recursive, sharing := .processPrivate } := by
  obtain ⟨boundary, ran, -, stored, -⟩ :=
    refines_handle false {} ⟨0⟩ {} refusedSharing (by decide) (by decide)
  exact ⟨_, boundary, _, ran, by decide, by rw [stored]; decide⟩

end Boundary

end LatchMutex
