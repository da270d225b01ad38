import LatchMutex.Command.Run
import Std.Time.DateTime.Timestamp

namespace LatchMutex

/-!
# The program

Reads the files that a command needs, runs the command on them, prints what it
printed and writes the files that it changed.
-/

namespace Program

/-- The moment that the clock shows. -/
def now : IO Moment := do
  let stamp ← Std.Time.Timestamp.now
  let nanos := stamp.toNanosecondsSinceUnixEpoch.val
  pure (Moment.ofClock (nanos / 1000000000) (nanos % 1000000000).toNat)

/-- Add the file or directory that a path leads to, if there is one. -/
def load (files : FileTree) (path : String) : IO FileTree := do
  let place := files.destination path
  match ← (IO.FS.realPath place.path).toBaseIO with
  | .error _ => pure files
  | .ok real =>
      if ← real.isDir then
        pure (files.makeDirectories place.path).2
      else
        match ← (IO.FS.readBinFile real).toBaseIO with
        | .error _ => pure files
        | .ok bytes =>
            let deeper := (files.makeDirectories place.parent.path).2
            pure ((deeper.write place.path bytes.toList).toOption.getD files)

/-- Write what stands at a place, unless it was there before. -/
def store (before : FileTree) (entry : Place × FileNode) : IO Unit :=
  if before.node? entry.1 = some entry.2 then
    pure ()
  else
    match entry.2 with
    | .directory => IO.FS.createDirAll entry.1.path
    | .file content => IO.FS.writeBinFile entry.1.path ⟨content.toArray⟩

/-- Run a command on the files of the machine. -/
def run (command : Command) : IO UInt32 := do
  let empty := FileTree.withCurrent (toString (← IO.currentDir))
  let first ← (command.inputs empty).foldlM load empty
  let files ← (command.inputs first).foldlM load first
  let (status, after) := command.run (← now) { files }
  IO.print after.output
  IO.eprint after.errors
  for entry in after.files.nodes.entries do
    store files entry
  pure status

/-- Tell why a command line names no command. -/
def refuse (problem : UsageError) : IO UInt32 := do
  if problem = .help then
    IO.println problem.message
  else
    IO.eprintln problem.message
  pure problem.status

end Program

end LatchMutex

/-- Run the command that the arguments name. -/
def main (arguments : List String) : IO UInt32 :=
  match LatchMutex.Command.ofArguments arguments with
  | .error problem => LatchMutex.Program.refuse problem
  | .ok command => LatchMutex.Program.run command
