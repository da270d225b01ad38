import LatchMutex.Attributes
import LatchMutex.Mode
import LatchMutex.Table

namespace LatchMutex

/-!
# The status-code boundary

Callers from outside pass pointers to slots, and a slot holds the address of an
attribute object or nothing.  `Boundary` keeps the heap of objects apart from
the registry of live addresses, so that a use of a freed object is a case of its
own: `Misuse`.  Addresses are never handed out twice.

Every call answers a status number, and the two getters may write a number to
their output.  In the hardened mode an address that is not registered is refused
before the heap is looked at.
-/

/-- Address of an attribute object. -/
structure Address where
  number : Nat
  deriving Repr, DecidableEq, Inhabited

/-- Identity of a slot that holds an attribute handle. -/
structure SlotId where
  number : Nat
  deriving Repr, DecidableEq, Inhabited

/-- A use of an object that is not allocated. -/
structure Misuse where
  address : Address
  deriving Repr, DecidableEq, Inhabited

/-- The attribute objects and the slots of the callers. -/
structure Boundary where
  heap : Table Address Attributes := {}
  registry : List Address := []
  slots : Table SlotId (Option Address) := {}
  /-- Number of the next address. -/
  next : Nat := 0
  deriving Repr, DecidableEq, Inhabited

/-- A call on an attribute slot; no slot is the null pointer. -/
inductive AttributeCall where
  | init (slot : Option SlotId)
  | destroy (slot : Option SlotId)
  | setKind (slot : Option SlotId) (code : Int32)
  | setSharing (slot : Option SlotId) (code : Int32)
  /-- Read the discipline, to a null output or to a real one. -/
  | getKind (slot : Option SlotId) (output : Bool)
  /-- Read the sharing mode, to a null output or to a real one. -/
  | getSharing (slot : Option SlotId) (output : Bool)
  deriving Repr, DecidableEq

/-- Answer of a call on an attribute slot. -/
structure AttributeReply where
  status : Int32
  /-- Number written to the output, if any. -/
  written : Option Int32 := none
  deriving Repr, DecidableEq, Inhabited

namespace AttributeReply

/-- The call succeeded and wrote nothing. -/
def success : AttributeReply := { status := 0 }

/-- The call was refused and wrote nothing. -/
def refused (fault : Fault) : AttributeReply := { status := fault.status }

end AttributeReply

namespace Boundary

/-- Handle in a slot; a slot that was never written holds none. -/
def handle (boundary : Boundary) (slot : SlotId) : Option Address :=
  boundary.slots.get slot

/-- Write the handle in a slot. -/
def setHandle (boundary : Boundary) (slot : SlotId) (handle : Option Address) : Boundary :=
  { boundary with slots := boundary.slots.set slot handle }

/-- Copy the handle bits from one slot to another. -/
def copyHandle (boundary : Boundary) (source target : SlotId) : Boundary :=
  boundary.setHandle target (boundary.handle source)

/-- Slot and address that a call names, as far as its level checks them. -/
def resolve
    (boundary : Boundary)
    (level : SafetyLevel)
    (slot : Option SlotId) :
    Except Fault (SlotId × Address) :=
  match slot with
  | none => .error .invalidArgument
  | some slot =>
      match boundary.handle slot with
      | none => .error .invalidArgument
      | some address =>
          if level.checksRegistry ∧ address ∉ boundary.registry then
            .error .invalidArgument
          else
            .ok (slot, address)

/-- The object at an address. -/
def read (boundary : Boundary) (address : Address) : Except Misuse Attributes :=
  match boundary.heap.find? address with
  | none => .error { address }
  | some attributes => .ok attributes

/-- Replace the object at an address. -/
def write (boundary : Boundary) (address : Address) (attributes : Attributes) : Boundary :=
  { boundary with heap := boundary.heap.set address attributes }

/-- Allocate an object with the default attributes into a slot. -/
def allocateInto
    (boundary : Boundary)
    (slot : SlotId)
    (budget : Budget) :
    AttributeReply × Boundary × Budget :=
  match AttributeHandle.null.create budget with
  | (.error fault, _, rest) => (.refused fault, boundary, rest)
  | (.ok (), created, rest) =>
      match created.object with
      | none => (.refused .outOfMemory, boundary, rest)
      | some attributes =>
          let address : Address := ⟨boundary.next⟩
          (.success,
            { boundary.setHandle slot (some address) with
              heap := boundary.heap.set address attributes
              registry := address :: boundary.registry
              next := boundary.next + 1 },
            rest)

/-- Free the object at an address and null the slot that named it. -/
def free (boundary : Boundary) (slot : SlotId) (address : Address) : Boundary :=
  { boundary.setHandle slot none with
    heap := boundary.heap.erase address
    registry := boundary.registry.filter (· ≠ address) }

/-- Change the object at an address as the attribute operations do. -/
def change
    (boundary : Boundary)
    (address : Address)
    (update : Attributes → Outcome × Attributes) :
    Except Misuse (AttributeReply × Boundary) := do
  let attributes ← boundary.read address
  let (outcome, changed) := update attributes
  pure ({ status := outcome.status }, boundary.write address changed)

/-- Run a call on an attribute slot. -/
def perform
    (supported : Bool)
    (level : SafetyLevel)
    (boundary : Boundary)
    (budget : Budget)
    (call : AttributeCall) :
    Except Misuse (AttributeReply × Boundary × Budget) :=
  match call with
  | .init none => .ok (.refused .invalidArgument, boundary, budget)
  | .init (some slot) => .ok (boundary.allocateInto slot budget)
  | .destroy slot =>
      match boundary.resolve level slot with
      | .error fault => .ok (.refused fault, boundary, budget)
      | .ok (slot, address) => do
          let _ ← boundary.read address
          pure (.success, boundary.free slot address, budget)
  | .setKind slot code =>
      match boundary.resolve level slot with
      | .error fault => .ok (.refused fault, boundary, budget)
      | .ok (_, address) =>
          match Kind.ofCode? code with
          | none => .ok (.refused .invalidArgument, boundary, budget)
          | some kind => do
              let (reply, changed) ← boundary.change address fun attributes =>
                (.ok (), attributes.setKind kind)
              pure (reply, changed, budget)
  | .setSharing slot code =>
      match boundary.resolve level slot with
      | .error fault => .ok (.refused fault, boundary, budget)
      | .ok (_, address) =>
          match Sharing.ofCode? code with
          | none => .ok (.refused .invalidArgument, boundary, budget)
          | some mode => do
              let (reply, changed) ← boundary.change address fun attributes =>
                attributes.setSharing supported mode
              pure (reply, changed, budget)
  | .getKind _ false => .ok (.refused .invalidArgument, boundary, budget)
  | .getKind slot true =>
      match boundary.resolve level slot with
      | .error fault => .ok (.refused fault, boundary, budget)
      | .ok (_, address) => do
          let attributes ← boundary.read address
          pure ({ status := 0, written := some attributes.kind.code }, boundary, budget)
  | .getSharing _ false => .ok (.refused .invalidArgument, boundary, budget)
  | .getSharing slot true =>
      match boundary.resolve level slot with
      | .error fault =>
          .ok
            ({ status := fault.status, written := some Sharing.processPrivate.code },
              boundary, budget)
      | .ok (_, address) => do
          let attributes ← boundary.read address
          pure ({ status := 0, written := some attributes.sharing.code }, boundary, budget)

/-- Attributes for the creation of a mutex: none for a null slot or a null handle. -/
def attributesOf
    (level : SafetyLevel)
    (boundary : Boundary)
    (slot : Option SlotId) :
    Except Misuse (Except Fault (Option Attributes)) :=
  match slot.bind boundary.handle with
  | none => .ok (.ok none)
  | some _ =>
      match boundary.resolve level slot with
      | .error fault => .ok (.error fault)
      | .ok (_, address) => do
          let attributes ← boundary.read address
          pure (.ok (some attributes))

end Boundary

end LatchMutex
