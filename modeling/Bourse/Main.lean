import Bourse.Command.Programs
import Std.Time.DateTime.Timestamp

/-!
# The command line

`bourse PROGRAM ARGS…` runs one of the programs, `tradestats`, `loader` or `exchange` (see
`Program.run`), with its arguments, on the files below the working directory, with the
process's settings variables and the wall clock's time, and exits with the run's code.

Before the run it reads what the run looks at (`Program.inputs`) together with the directories
above it, round after round until a round adds nothing; after the run it makes the directories
and writes the files that the run made or changed. Paths are taken below the working directory.
-/

namespace Bourse

/-- What is at a path. -/
inductive PathContent where
  /-- A file with its text. -/
  | file (text : String)
  /-- A directory. -/
  | directory
  /-- Nothing that can be read. -/
  | absent

/-- Looks at a path: reading a directory fails as a read of the wrong type of thing. -/
def probe (path : String) : IO PathContent := do
  try
    return .file (← IO.FS.readFile path)
  catch e =>
    match e with
    | .inappropriateType .. => return .directory
    | _ => return .absent

/-- Adds a path and the directories above it to a disk, from the top down; below a file or a
missing directory nothing more can be. -/
def loadPath (disk : Disk) (path : String) : IO Disk := do
  let mut disk := disk
  for part in Disk.prefixes path do
    if disk.isFile part then return disk
    if !disk.isDir part then
      match ← probe part with
      | .file text => return { disk with files := disk.files ++ [(part, text)] }
      | .directory => disk := { disk with dirs := disk.dirs ++ [part] }
      | .absent => return disk
  return disk

/-- Reads what a run looks at, for at most `rounds` rounds or until a round adds nothing. -/
def loadInputs (program : Program) (args : List String) (env : Environment) :
    Nat → Disk → IO Disk
  | 0, disk => pure disk
  | rounds + 1, disk => do
    let next ← (program.inputs args env disk).foldlM loadPath disk
    if next.files.length == disk.files.length && next.dirs.length == disk.dirs.length then
      return next
    loadInputs program args env rounds next

/-- Makes the directories and writes the files that are new or changed after a run. -/
def saveChanges (before after : Disk) : IO Unit := do
  for dir in after.dirs do
    if !before.dirs.contains dir then IO.FS.createDirAll dir
  for (path, text) in after.files do
    if before.read? path != some text then IO.FS.writeFile path text

/-- The variables of the process that settings read. -/
def readEnvironment : IO Environment :=
  environmentNames.filterMapM fun name => do
    return (← IO.getEnv name).map fun value => (name, value)

/-- Runs a program with its arguments on the working directory; gives the exit code. -/
def runProgram (program : Program) (name : String) (args : List String) : IO UInt32 := do
  let env ← readEnvironment
  let disk ← loadInputs program args env 4 Disk.empty
  let now ← Std.Time.Timestamp.now
  let run := program.run name args env disk (Instant.ofUnixNanos now.toNanosecondsSinceUnixEpoch.val)
  IO.print run.stdout
  IO.eprint run.stderr
  saveChanges disk run.disk
  return run.exit.toUInt32

end Bourse

/-- Runs the program named by the first argument. -/
def main (args : List String) : IO UInt32 :=
  match args with
  | name :: rest =>
    match Bourse.Program.ofName? name with
    | some program => Bourse.runProgram program name rest
    | none => do
      IO.eprintln ("unknown program " ++ name ++ "; programs: tradestats, loader, exchange")
      return 2
  | [] => do
    IO.eprintln "usage: bourse tradestats|loader|exchange [flags]"
    return 2
