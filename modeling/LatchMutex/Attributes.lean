import LatchMutex.Allocation
import LatchMutex.Kind

namespace LatchMutex

/-!
# Mutex attributes

`Attributes` is the plain value; `AttributeHandle` is the nullable handle to a
heap object that holds one.  Every setter takes the integer code of the value,
and an unknown code changes nothing.  Whether the platform supports mutexes
shared between processes is a parameter: without support a request for sharing
is refused and the stored mode becomes private.
-/

/-- Attributes consulted when a mutex is created. -/
structure Attributes where
  kind : Kind := .byDefault
  sharing : Sharing := .processPrivate
  deriving Repr, DecidableEq, Inhabited

namespace Attributes

/-- Attributes with a given discipline, private to the process. -/
def withKind (kind : Kind) : Attributes :=
  { kind }

/-- Replace the discipline. -/
def setKind (attributes : Attributes) (kind : Kind) : Attributes :=
  { attributes with kind }

/-- Store a sharing mode, or private if sharing is asked for but not supported. -/
def setSharing
    (supported : Bool)
    (attributes : Attributes)
    (mode : Sharing) :
    Outcome × Attributes :=
  if mode = .processShared ∧ supported = false then
    (.error .notSupported, { attributes with sharing := .processPrivate })
  else
    (.ok (), { attributes with sharing := mode })

/-- Replace the discipline by the one with a given code. -/
def setKindCode (attributes : Attributes) (code : Int32) : Outcome × Attributes :=
  match Kind.ofCode? code with
  | none => (.error .invalidArgument, attributes)
  | some kind => (.ok (), attributes.setKind kind)

/-- Store the sharing mode with a given code. -/
def setSharingCode
    (supported : Bool)
    (attributes : Attributes)
    (code : Int32) :
    Outcome × Attributes :=
  match Sharing.ofCode? code with
  | none => (.error .invalidArgument, attributes)
  | some mode => attributes.setSharing supported mode

end Attributes

/-- Nullable owning handle to a heap attribute object. -/
structure AttributeHandle where
  object : Option Attributes := none
  deriving Repr, DecidableEq, Inhabited

namespace AttributeHandle

/-- The handle that owns nothing. -/
def null : AttributeHandle := {}

/-- Size in bytes of an attribute object. -/
def objectSize : UInt64 := 2

/-- Whether the handle owns nothing. -/
def isNull (handle : AttributeHandle) : Bool :=
  handle.object.isNone

/-- Allocate an object with the default attributes; a failure keeps the old handle. -/
def create
    (handle : AttributeHandle)
    (budget : Budget) :
    Outcome × AttributeHandle × Budget :=
  match budget.allocate objectSize ({} : Attributes) with
  | (.ok attributes, rest) => (.ok (), { object := some attributes }, rest)
  | (.error failure, rest) => (.error failure.fault, handle, rest)

/-- Release the object and null the handle. -/
def destroy (handle : AttributeHandle) : Outcome × AttributeHandle :=
  match handle.object with
  | none => (.error .invalidArgument, handle)
  | some _ => (.ok (), null)

/-- The attributes, if the handle owns any. -/
def get (handle : AttributeHandle) : Except Fault Attributes :=
  match handle.object with
  | none => .error .invalidArgument
  | some attributes => .ok attributes

/-- Apply an update to the object; a null handle is refused before anything else. -/
def update
    (handle : AttributeHandle)
    (change : Attributes → Outcome × Attributes) :
    Outcome × AttributeHandle :=
  match handle.object with
  | none => (.error .invalidArgument, handle)
  | some attributes =>
      let (outcome, changed) := change attributes
      (outcome, { object := some changed })

/-- Store the discipline with a given code. -/
def setKind (handle : AttributeHandle) (code : Int32) : Outcome × AttributeHandle :=
  handle.update fun attributes => attributes.setKindCode code

/-- Store the sharing mode with a given code. -/
def setSharing
    (supported : Bool)
    (handle : AttributeHandle)
    (code : Int32) :
    Outcome × AttributeHandle :=
  handle.update fun attributes => attributes.setSharingCode supported code

/-- Stored discipline. -/
def kind (handle : AttributeHandle) : Except Fault Kind :=
  handle.get.map Attributes.kind

/-- Stored sharing mode. -/
def sharing (handle : AttributeHandle) : Except Fault Sharing :=
  handle.get.map Attributes.sharing

end AttributeHandle

end LatchMutex
