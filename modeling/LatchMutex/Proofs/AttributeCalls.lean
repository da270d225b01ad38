import LatchMutex.Boundary

namespace LatchMutex

/-!
# Calls on attribute objects

A call on an attribute slot is settled in one of three ways.  It is turned away
when the slot leads to no object that its level accepts; it puts a new object into
the slot; or it acts on the object that the slot leads to, and then it answers and
changes what the methods of a handle that owns this object would.
-/

namespace AttributeCall

/-- Slot that a call names. -/
def slot : AttributeCall → Option SlotId
  | .init slot => slot
  | .destroy slot => slot
  | .setKind slot _ => slot
  | .setSharing slot _ => slot
  | .getKind slot _ => slot
  | .getSharing slot _ => slot

/-- Whether a call has everywhere to write to: a getter needs an output. -/
def hasOutput : AttributeCall → Bool
  | .getKind _ output => output
  | .getSharing _ output => output
  | _ => true

/-- What a call answers that leads to no object. -/
def refusal : AttributeCall → AttributeReply
  | .getSharing _ true =>
      { status := Fault.invalidArgument.status, written := some Sharing.processPrivate.code }
  | _ => .refused .invalidArgument

/-- Whether a call makes a new object. -/
def isInit : AttributeCall → Bool
  | .init _ => true
  | _ => false

/-- Whether a call destroys its object. -/
def isDestroy : AttributeCall → Bool
  | .destroy _ => true
  | _ => false

/-- Whether a call is wrong in itself: it has a code without a meaning, or no output. -/
def isFlawed : AttributeCall → Bool
  | .setKind _ code => (Kind.ofCode? code).isNone
  | .setSharing _ code => (Sharing.ofCode? code).isNone
  | call => !call.hasOutput

end AttributeCall

namespace AttributeReply

/-- Reply of a method that writes nothing. -/
def ofOutcome (outcome : Outcome) : AttributeReply :=
  { status := outcome.status }

/-- Reply of a reading that writes a value, or something else when there is none. -/
def ofReading
    (code : Value → Int32)
    (otherwise : Option Int32) :
    Except Fault Value → AttributeReply
  | .ok value => { status := 0, written := some (code value) }
  | .error fault => { status := fault.status, written := otherwise }

end AttributeReply

namespace AttributeHandle

/--
Make a call on a handle through its methods.  Without a slot or an output the
methods are not reached.
-/
def perform
    (supported : Bool)
    (handle : AttributeHandle)
    (budget : Budget)
    (call : AttributeCall) :
    AttributeReply × AttributeHandle × Budget :=
  if call.slot.isSome ∧ call.hasOutput = true then
    match call with
    | .init _ =>
        let (outcome, created, rest) := handle.create budget
        (.ofOutcome outcome, created, rest)
    | .destroy _ =>
        let (outcome, destroyed) := handle.destroy
        (.ofOutcome outcome, destroyed, budget)
    | .setKind _ code =>
        let (outcome, changed) := handle.setKind code
        (.ofOutcome outcome, changed, budget)
    | .setSharing _ code =>
        let (outcome, changed) := handle.setSharing supported code
        (.ofOutcome outcome, changed, budget)
    | .getKind _ _ => (.ofReading Kind.code none handle.kind, handle, budget)
    | .getSharing _ _ =>
        (.ofReading Sharing.code (some Sharing.processPrivate.code) handle.sharing, handle,
          budget)
  else
    (call.refusal, handle, budget)

/-- A call that does not reach the methods is turned away. -/
theorem perform_of_unreached
    {call : AttributeCall}
    (unreached : ¬ (call.slot.isSome = true ∧ call.hasOutput = true))
    (supported : Bool)
    (handle : AttributeHandle)
    (budget : Budget) :
    handle.perform supported budget call = (call.refusal, handle, budget) :=
  if_neg unreached

/-- A handle that owns nothing turns every call away but the one that makes an object. -/
theorem perform_null
    (supported : Bool)
    (budget : Budget)
    {call : AttributeCall}
    (acts : call.isInit = false) :
    null.perform supported budget call = (call.refusal, null, budget) := by
  cases call with
  | init slot =>
      contradiction
  | getKind slot output | getSharing slot output =>
      cases slot <;> cases output <;> rfl
  | _ slot =>
      cases slot <;> rfl

/-- A handle that owns an object gives it up when it is destroyed, and keeps one otherwise. -/
theorem perform_owner
    (supported : Bool)
    (attributes : Attributes)
    (budget : Budget)
    {call : AttributeCall}
    {slot : SlotId}
    (acts : call.isInit = false)
    (named : call.slot = some slot) :
    let answered := ({ object := some attributes } : AttributeHandle).perform supported budget call
    (call = .destroy (some slot) ∧ answered = (.success, null, budget)) ∨
      call.isDestroy = false ∧
        ∃ changed, answered.2 = ({ object := some changed }, budget) := by
  cases call with
  | init =>
      contradiction
  | destroy =>
      cases named
      exact .inl ⟨rfl, rfl⟩
  | setKind | setSharing =>
      cases named
      exact .inr ⟨rfl, _, rfl⟩
  | getKind _ output | getSharing _ output =>
      cases named
      cases output <;> exact .inr ⟨rfl, attributes, rfl⟩

/-- A handle that owns an object finds no argument invalid but the flawed ones. -/
theorem status_perform_owner
    (supported : Bool)
    (attributes : Attributes)
    (budget : Budget)
    {call : AttributeCall}
    {slot : SlotId}
    (acts : call.isInit = false)
    (named : call.slot = some slot) :
    (({ object := some attributes } : AttributeHandle).perform supported budget call).1.status =
        Fault.invalidArgument.status ↔
      call.isFlawed = true := by
  have success : (0 : Int32) ≠ Fault.invalidArgument.status := by decide
  have unsupported : Fault.notSupported.status ≠ Fault.invalidArgument.status := by decide
  cases call with
  | init =>
      contradiction
  | destroy =>
      cases named
      exact iff_of_false success Bool.false_ne_true
  | setKind _ code =>
      cases named
      change (attributes.setKindCode code).1.status = _ ↔ (Kind.ofCode? code).isNone = true
      rw [Attributes.setKindCode]
      cases Kind.ofCode? code with
      | none =>
          exact iff_of_true rfl rfl
      | some kind =>
          exact iff_of_false success Bool.false_ne_true
  | setSharing _ code =>
      cases named
      change
        (attributes.setSharingCode supported code).1.status = _ ↔
          (Sharing.ofCode? code).isNone = true
      rw [Attributes.setSharingCode]
      cases Sharing.ofCode? code with
      | none =>
          exact iff_of_true rfl rfl
      | some mode =>
          refine iff_of_false ?_ Bool.false_ne_true
          dsimp only
          rw [Attributes.setSharing]
          split
          · exact unsupported
          · exact success
  | getKind _ output | getSharing _ output =>
      cases named
      cases output with
      | false =>
          exact iff_of_true rfl rfl
      | true =>
          exact iff_of_false success Bool.false_ne_true

/-- A new object takes one allocation; a failure keeps the old handle. -/
theorem perform_init
    (supported : Bool)
    (handle : AttributeHandle)
    (budget : Budget)
    (slot : SlotId) :
    handle.perform supported budget (.init (some slot)) =
      if budget.draw.1 = true then
        (.refused .outOfMemory, handle, budget.draw.2)
      else
        (.success, { object := some {} }, budget.draw.2) := by
  rw [perform, if_pos ⟨rfl, rfl⟩]
  dsimp only
  rw [create, Budget.allocate]
  cases budget.draw with
  | mk fails rest =>
      cases fails <;> rfl

end AttributeHandle

namespace Boundary

variable {boundary : Boundary} {level : SafetyLevel} {slot : SlotId} {address : Address}
  {attributes : Attributes}

/-- A slot holds the handle that was written to it last. -/
@[simp] theorem handle_setHandle_self (slot : SlotId) (handle : Option Address) :
    (boundary.setHandle slot handle).handle slot = handle :=
  Table.get_set_self _ _ _

/-- The other slots keep theirs. -/
theorem handle_setHandle_of_ne
    {slot written : SlotId}
    (different : slot ≠ written)
    (handle : Option Address) :
    (boundary.setHandle written handle).handle slot = boundary.handle slot :=
  Table.get_set_of_ne _ different _

/-- Put a new object into a slot. -/
def place (boundary : Boundary) (slot : SlotId) : Boundary :=
  { boundary.setHandle slot (some ⟨boundary.next⟩) with
    heap := boundary.heap.set ⟨boundary.next⟩ {}
    registry := ⟨boundary.next⟩ :: boundary.registry
    next := boundary.next + 1 }

/-- The slot holds the new object. -/
theorem handle_place (boundary : Boundary) (slot : SlotId) :
    (boundary.place slot).handle slot = some ⟨boundary.next⟩ :=
  handle_setHandle_self slot _

/-- The slot of an object that is freed is null. -/
theorem handle_free (boundary : Boundary) (slot : SlotId) (address : Address) :
    (boundary.free slot address).handle slot = none :=
  handle_setHandle_self slot none

/-- Leave in place of an object what its handle owns now. -/
def leave (boundary : Boundary) (slot : SlotId) (address : Address) :
    Option Attributes → Boundary
  | none => boundary.free slot address
  | some attributes => boundary.write address attributes

/-- Writing back what is there changes nothing. -/
theorem write_of_find?
    (there : boundary.heap.find? address = some attributes) :
    boundary.write address attributes = boundary := by
  rw [write, Table.set_of_find? there]

/-- A slot leads to the address in it unless its level misses it in the registry. -/
theorem resolve_of_handle
    (here : boundary.handle slot = some address)
    (accepted : level = .hardened → address ∈ boundary.registry) :
    boundary.resolve level (some slot) = .ok (slot, address) := by
  have known : ¬ (level.checksRegistry = true ∧ address ∉ boundary.registry) := by
    simpa [SafetyLevel.checksRegistry] using accepted
  simp only [resolve, here, known, ↓reduceIte]

/-- A slot that leads nowhere is an invalid argument. -/
theorem resolve_of_not_handle
    {named : Option SlotId}
    (nowhere : named.bind boundary.handle = none) :
    boundary.resolve level named = .error .invalidArgument := by
  cases named with
  | none =>
      rfl
  | some slot =>
      rw [Option.bind_some] at nowhere
      simp only [resolve, nowhere]

/-- So is one whose address the registry does not know, when it is asked. -/
theorem resolve_of_not_mem
    (here : boundary.handle slot = some address)
    (unknown : address ∉ boundary.registry) :
    boundary.resolve .hardened (some slot) = .error .invalidArgument := by
  simp [resolve, here, SafetyLevel.checksRegistry, unknown]

variable (supported : Bool) (budget : Budget)

/-- A call that leads to no object is turned away and changes nothing. -/
theorem perform_of_unresolved
    {call : AttributeCall}
    (acts : call.isInit = false)
    (unresolved : boundary.resolve level call.slot = .error .invalidArgument) :
    boundary.perform supported level budget call = .ok (call.refusal, boundary, budget) := by
  cases call with
  | init slot =>
      contradiction
  | getKind slot output | getSharing slot output =>
      cases output with
      | false =>
          rfl
      | true =>
          rw [AttributeCall.slot] at unresolved
          simp only [perform, unresolved]
          rfl
  | _ slot =>
      rw [AttributeCall.slot] at unresolved
      simp only [perform, unresolved]
      rfl

/-- A call without a slot or without an output is turned away before it leads anywhere. -/
theorem perform_of_unreached
    {call : AttributeCall}
    (unreached : ¬ (call.slot.isSome = true ∧ call.hasOutput = true)) :
    boundary.perform supported level budget call = .ok (call.refusal, boundary, budget) := by
  cases call with
  | init slot =>
      cases slot with
      | none =>
          rfl
      | some slot =>
          exact absurd ⟨rfl, rfl⟩ unreached
  | getKind slot output | getSharing slot output =>
      cases output with
      | false =>
          rfl
      | true =>
          cases slot with
          | none =>
              exact perform_of_unresolved supported budget rfl rfl
          | some slot =>
              exact absurd ⟨rfl, rfl⟩ unreached
  | _ slot =>
      cases slot with
      | none =>
          exact perform_of_unresolved supported budget rfl rfl
      | some slot =>
          exact absurd ⟨rfl, rfl⟩ unreached

/-- A call that leads to an object does what the methods of a handle to this object do. -/
theorem perform_of_resolved
    {call : AttributeCall}
    (acts : call.isInit = false)
    (resolved : boundary.resolve level call.slot = .ok (slot, address))
    (there : boundary.heap.find? address = some attributes) :
    boundary.perform supported level budget call =
      let answered :=
        AttributeHandle.perform supported { object := some attributes } budget call
      .ok (answered.1, boundary.leave slot address answered.2.1.object, answered.2.2) := by
  have read : boundary.read address = .ok attributes := by
    simp only [Boundary.read, there]
  have kept := write_of_find? there
  obtain ⟨named, slotted⟩ : ∃ named, call.slot = some named := by
    cases unnamed : call.slot with
    | none =>
        rw [unnamed] at resolved
        contradiction
    | some named =>
        exact ⟨named, rfl⟩
  rw [slotted] at resolved
  cases call with
  | init =>
      contradiction
  | destroy =>
      cases slotted
      simp only [perform, resolved, read]
      rfl
  | setKind _ code =>
      cases slotted
      change _ = Except.ok
        (AttributeReply.ofOutcome (attributes.setKindCode code).1,
          boundary.write address (attributes.setKindCode code).2, budget)
      cases known : Kind.ofCode? code with
      | none =>
          simp only [perform, resolved, known, Attributes.setKindCode, kept]
          rfl
      | some kind =>
          simp only [perform, resolved, known, change, read, Attributes.setKindCode]
          rfl
  | setSharing _ code =>
      cases slotted
      change _ = Except.ok
        (AttributeReply.ofOutcome (attributes.setSharingCode supported code).1,
          boundary.write address (attributes.setSharingCode supported code).2, budget)
      cases known : Sharing.ofCode? code with
      | none =>
          simp only [perform, resolved, known, Attributes.setSharingCode, kept]
          rfl
      | some mode =>
          simp only [perform, resolved, known, change, read, Attributes.setSharingCode]
          rfl
  | getKind _ output | getSharing _ output =>
      cases slotted
      cases output with
      | false =>
          change _ = Except.ok (_, boundary.write address attributes, budget)
          rw [kept]
          rfl
      | true =>
          change _ = Except.ok (_, boundary.write address attributes, budget)
          simp only [perform, resolved, read, kept]
          rfl

/-- A new object takes one allocation; a failure leaves everything as it was. -/
theorem perform_init (level : SafetyLevel) (slot : SlotId) :
    boundary.perform supported level budget (.init (some slot)) =
      .ok
        (if budget.draw.1 = true then
          (.refused .outOfMemory, boundary, budget.draw.2)
        else
          (.success, boundary.place slot, budget.draw.2)) := by
  rw [perform, allocateInto, AttributeHandle.create, Budget.allocate]
  cases budget.draw with
  | mk fails rest =>
      cases fails <;> rfl

/-- Without a handle a mutex is created with the default attributes. -/
theorem attributesOf_of_not_handle
    {named : Option SlotId}
    (nowhere : named.bind boundary.handle = none) :
    boundary.attributesOf level named = .ok (.ok none) := by
  simp only [attributesOf, nowhere]

/-- With a handle that is turned away it is not created. -/
theorem attributesOf_of_unresolved
    (here : boundary.handle slot = some address)
    (unresolved : boundary.resolve level (some slot) = .error .invalidArgument) :
    boundary.attributesOf level (some slot) = .ok (.error .invalidArgument) := by
  simp only [attributesOf, Option.bind_some, here, unresolved]

/-- With any other handle it is created with the attributes in the object. -/
theorem attributesOf_of_resolved
    (here : boundary.handle slot = some address)
    (resolved : boundary.resolve level (some slot) = .ok (slot, address))
    (there : boundary.heap.find? address = some attributes) :
    boundary.attributesOf level (some slot) = .ok (.ok (some attributes)) := by
  simp only [attributesOf, Option.bind_some, here, resolved, Boundary.read, there]
  rfl

end Boundary

end LatchMutex
