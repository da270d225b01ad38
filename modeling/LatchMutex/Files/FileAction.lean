import LatchMutex.Failure
import LatchMutex.Files.FileTree

namespace LatchMutex

/-!
# Working on files

A file action reads and changes a tree of files and may fail on the way.  What
it did before it failed stays.
-/

/-- A computation on files that may fail; what it did to the files stays. -/
abbrev FileAction (Value : Type) := ExceptT Failure (StateM FileTree) Value

namespace FileAction

/-- Make a directory and all those above it. -/
def makeDirectories (path : String) : FileAction Unit := do
  let (made, files) := (← getThe FileTree).makeDirectories path
  set files
  match made with
  | .ok () => pure ()
  | .error reason => throw (.io path reason.message)

/-- Create or replace a file. -/
def writeText (path text : String) : FileAction Unit := do
  match (← getThe FileTree).writeText path text with
  | .ok files => set files
  | .error reason => throw (.io path reason.message)

/-- Text of a file. -/
def readText (path : String) : FileAction String := do
  let files ← getThe FileTree
  match files.readText path with
  | .ok text => pure text
  | .error reason => throw (.io path reason.message)

/-- Carry on with a value, or fail. -/
def ofExcept {Value : Type} (result : Except Failure Value) : FileAction Value :=
  match result with
  | .ok value => pure value
  | .error failure => throw failure

end FileAction

end LatchMutex
