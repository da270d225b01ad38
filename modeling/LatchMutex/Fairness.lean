import LatchMutex.Failure
import LatchMutex.Json.Printer
import LatchMutex.Json.Typed
import LatchMutex.Schedule

namespace LatchMutex

/-!
# Fairness probe

Several workers lock and unlock one mutex in turns, and the report says how
evenly the acquisitions were spread and how the branch counters moved.  Workers
take turns in a fixed order, so that a probe of so many rounds always gives the
same report.
-/

/-- What a probe is to do. -/
structure ProbeSettings where
  kind : Kind
  workers : Nat
  /-- Length of the probe in nanoseconds. -/
  duration : Nat
  deriving Repr, DecidableEq, Inhabited

/-- What a probe found. -/
structure FairnessReport where
  bead : String
  mutexKind : String
  threads : UInt64
  durationMillis : UInt64
  acquisitions : List UInt64
  total : UInt64
  least : UInt64
  greatest : UInt64
  /-- Least divided by greatest; one is perfectly even. -/
  evenness : Binary64
  counters : Counters
  deriving Repr, DecidableEq, Inhabited

namespace Counters

/-- The counters as they are printed. -/
def document (counters : Counters) : Document :=
  .object (Branch.all.map fun branch => (branch.label, .ofInt (counters.get branch).toNat))

/-- The counters as a value. -/
def toJson (counters : Counters) : Json :=
  Json.ofMembers
    (Branch.all.map fun branch => (branch.label, Json.ofInt (counters.get branch).toNat))

/-- Read counters. -/
def read? {Node : Type} [Readable Node] (node : Node) : Option Counters := do
  let fields ← Readable.fields? (Branch.all.map Branch.label) node
  let values ← fields.mapM (Read.required Read.uint64)
  pure (ofList values)

end Counters

namespace FairnessReport

/-- Bead of the probe. -/
def fairnessBead : String := "fm-fairness"

/-- Least divided by greatest, or zero if there were no acquisitions at all. -/
def evennessOf (least greatest : UInt64) : Binary64 :=
  if greatest = 0 then
    .zero
  else
    (Binary64.ofRatio? false least.toNat greatest.toNat).getD .zero

/-- Report on given counts. -/
def ofCounts
    (settings : ProbeSettings)
    (acquisitions : List UInt64)
    (counters : Counters) :
    FairnessReport :=
  let least := acquisitions.min?.getD 0
  let greatest := acquisitions.max?.getD 0
  { bead := fairnessBead
    mutexKind := settings.kind.label
    threads := settings.workers.toUInt64
    durationMillis := (min (settings.duration / 1000000) (UInt64.size - 1)).toUInt64
    acquisitions
    total := acquisitions.foldr (· + ·) 0
    least
    greatest
    evenness := evennessOf least greatest
    counters }

/-- Whether every worker acquired the mutex at all. -/
def noStarvation (report : FairnessReport) : Bool :=
  0 < report.least

/-- The report as it is printed. -/
def document (report : FairnessReport) : Document :=
  .object
    [("bead", .string report.bead), ("mutex_kind", .string report.mutexKind),
      ("threads", .ofInt report.threads.toNat),
      ("duration_ms", .ofInt report.durationMillis.toNat),
      ("acquisitions", .array (report.acquisitions.map fun count => .ofInt count.toNat)),
      ("total", .ofInt report.total.toNat), ("min", .ofInt report.least.toNat),
      ("max", .ofInt report.greatest.toNat), ("evenness", .number (.float report.evenness)),
      ("counters", report.counters.document)]

/-- The report as a value. -/
def toJson (report : FairnessReport) : Json :=
  Json.ofMembers
    [("bead", .string report.bead), ("mutex_kind", .string report.mutexKind),
      ("threads", Json.ofInt report.threads.toNat),
      ("duration_ms", Json.ofInt report.durationMillis.toNat),
      ("acquisitions", .array (report.acquisitions.map fun count => Json.ofInt count.toNat)),
      ("total", Json.ofInt report.total.toNat), ("min", Json.ofInt report.least.toNat),
      ("max", Json.ofInt report.greatest.toNat),
      ("evenness", .number (.float report.evenness)), ("counters", report.counters.toJson)]

/-- Names of the fields, in the order of writing. -/
def fieldNames : List String :=
  ["bead", "mutex_kind", "threads", "duration_ms", "acquisitions", "total", "min", "max",
    "evenness", "counters"]

/-- Read a report. -/
def read? {Node : Type} [Readable Node] (node : Node) : Option FairnessReport := do
  match ← Readable.fields? fieldNames node with
  | [bead, mutexKind, threads, durationMillis, acquisitions, total, least, greatest,
      evenness, counters] =>
      let bead ← Read.required Read.text bead
      let mutexKind ← Read.required Read.text mutexKind
      let threads ← Read.required Read.uint64 threads
      let durationMillis ← Read.required Read.uint64 durationMillis
      let acquisitions ← Read.required (Read.list Read.uint64) acquisitions
      let total ← Read.required Read.uint64 total
      let least ← Read.required Read.uint64 least
      let greatest ← Read.required Read.uint64 greatest
      let evenness ← Read.required Read.float evenness
      let counters ← Read.required Counters.read? counters
      pure
        { bead, mutexKind, threads, durationMillis, acquisitions, total, least, greatest,
          evenness, counters }
  | _ => none

/-- Read a report from its text. -/
def parse? (text : String) : Option FairnessReport := do
  let tree ← Raw.parse? text
  read? tree

end FairnessReport

namespace ProbeSettings

/-- Rounds of a probe; each worker acquires the mutex once in each. -/
def rounds : Nat := 4

/-- The mutex that the workers share. -/
def handle : HandleId := ⟨0⟩

/-- The thread that sets the probe up. -/
def coordinator : ThreadId := ⟨0⟩

/-- The thread of a worker. -/
def worker (index : Nat) : ThreadId := ⟨index + 1⟩

/-- Run an operation, which has to succeed. -/
def demand (world : World) (thread : ThreadId) (operation : Operation) :
    Except Failure World :=
  match world.performAlone 1 thread (.call handle operation false) with
  | (next, .returned (.ok _)) => .ok next
  | (_, .returned (.error fault)) => .error (.mutex fault)
  | _ => .error (.probe "worker panicked")

/-- One worker locks and unlocks once. -/
def serve (world : World) (index : Nat) : Except Failure World := do
  let locked ← demand world (worker index) .lock
  demand locked (worker index) .unlock

/-- One round of all workers. -/
def round (settings : ProbeSettings) (world : World) : Except Failure World :=
  (List.range settings.workers).foldlM serve world

/-- So many rounds. -/
def runRounds (settings : ProbeSettings) : Nat → World → Except Failure World
  | 0, world => .ok world
  | count + 1, world => do
      let next ← settings.round world
      settings.runRounds count next

/-- Run a probe. -/
def run (settings : ProbeSettings) : Except Failure FairnessReport :=
  if settings.workers = 0 then
    .error (.invalidArgument "fairness probe needs at least one thread")
  else do
    let create := Operation.create (some (.withKind settings.kind))
    let created ← demand World.initial coordinator create
    let after ← settings.runRounds rounds created
    let counts := List.replicate settings.workers rounds.toUInt64
    pure (.ofCounts settings counts (Counters.between created.counters after.counters))

end ProbeSettings

end LatchMutex
