import LatchMutex.Calendar
import LatchMutex.Failure
import LatchMutex.Files.FileTree
import LatchMutex.Json.Printer
import LatchMutex.Json.Typed
import LatchMutex.Sha256

namespace LatchMutex

/-!
# Artifact indexes

An index lists the files that a run produced with the digests of their contents.
`ArtifactIndex.stale` hashes them again and lists the paths that no longer match.
-/

/-- A file of a run. -/
structure Artifact where
  path : String
  kind : String
  /-- Digest of the content, in hexadecimal digits of either case. -/
  sha256 : String
  size : Option UInt64 := none
  deriving Repr, DecidableEq, Inhabited

namespace Artifact

/-- The entry as it is printed. -/
def document (artifact : Artifact) : Document :=
  .object
    ([("path", Document.string artifact.path), ("kind", .string artifact.kind),
      ("sha256", .string artifact.sha256)]
      ++ Document.optional "size_bytes" (artifact.size.map fun size => .ofInt size.toNat))

/-- Read an entry. -/
def read? {Node : Type} [Readable Node] (node : Node) : Option Artifact := do
  match ← Readable.fields? ["path", "kind", "sha256", "size_bytes"] node with
  | [path, kind, sha256, size] =>
      let path ← Read.required Read.text path
      let kind ← Read.required Read.text kind
      let sha256 ← Read.required Read.text sha256
      let size ← Read.optional Read.uint64 size
      pure { path, kind, sha256, size }
  | _ => none

/-- Digest of a content, in lower-case hexadecimal digits. -/
def digest (content : List UInt8) : String :=
  Text.hex (Sha256.digest content)

/-- Whether a content has the recorded digest. -/
def isMatchedBy (artifact : Artifact) (content : List UInt8) : Bool :=
  Text.fold artifact.sha256 = digest content

/-- Whether the file is missing, unreadable or changed. -/
def isStale (files : FileTree) (root : String) (artifact : Artifact) : Bool :=
  match files.read (Path.join root artifact.path) with
  | .ok content => !artifact.isMatchedBy content
  | .error _ => true

end Artifact

/-- The files of one run. -/
structure ArtifactIndex where
  version : UInt32 := 1
  run : String
  bead : String
  generated : String
  artifacts : List Artifact := []
  deriving Repr, DecidableEq, Inhabited

namespace ArtifactIndex

/-- An index without entries, stamped with a moment. -/
def new (now : Moment) (run bead : String) : ArtifactIndex :=
  { run, bead, generated := now.text }

/-- Add an entry. -/
def push (index : ArtifactIndex) (artifact : Artifact) : ArtifactIndex :=
  { index with artifacts := index.artifacts ++ [artifact] }

/-- Add an entry whose digest is known. -/
def add (index : ArtifactIndex) (path kind sha256 : String) : ArtifactIndex :=
  index.push { path, kind, sha256 }

/-- Hash a file and add it, relative to a root if it lies below it. -/
def addFile
    (index : ArtifactIndex)
    (files : FileTree)
    (root path kind : String) :
    Except Failure (Artifact × ArtifactIndex) :=
  match files.read path with
  | .error reason => .error (.io path reason.message)
  | .ok content =>
      let artifact : Artifact :=
        { path := Path.relativeTo root path
          kind
          sha256 := Artifact.digest content
          size := some content.length.toUInt64 }
      .ok (artifact, index.push artifact)

/-- Recorded paths of the entries that no longer match, in the order of the index. -/
def stale (index : ArtifactIndex) (files : FileTree) (root : String) : List String :=
  (index.artifacts.filter fun artifact => artifact.isStale files root).map Artifact.path

/-- The index as it is printed. -/
def document (index : ArtifactIndex) : Document :=
  .object
    [("index_version", .ofInt index.version.toNat), ("run_id", .string index.run),
      ("bead_id", .string index.bead), ("generated_utc", .string index.generated),
      ("artifacts", .array (index.artifacts.map Artifact.document))]

/-- Text of the index. -/
def text (index : ArtifactIndex) : String :=
  index.document.pretty

/-- Read an index. -/
def read? {Node : Type} [Readable Node] (node : Node) : Option ArtifactIndex := do
  match ← Readable.fields?
      ["index_version", "run_id", "bead_id", "generated_utc", "artifacts"] node with
  | [version, run, bead, generated, artifacts] =>
      let version ← Read.required Read.uint32 version
      let run ← Read.required Read.text run
      let bead ← Read.required Read.text bead
      let generated ← Read.required Read.text generated
      let artifacts ← Read.required (Read.list Artifact.read?) artifacts
      pure { version, run, bead, generated, artifacts }
  | _ => none

/-- Read an index from its text. -/
def parse? (text : String) : Option ArtifactIndex := do
  let tree ← Raw.parse? text
  read? tree

end ArtifactIndex

end LatchMutex
