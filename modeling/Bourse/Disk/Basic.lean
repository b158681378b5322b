/-!
# A directory tree in memory

The programs here read and write a few files below one working directory. The tree is kept as
the texts of its files and the set of its directories, both by relative path with `/` between
the parts; the working directory itself is the empty path. Paths are taken apart at `/`,
dropping empty parts and `.`, but an empty path as given names no file or directory.

Making a directory makes its parents first and fails at the first part that is a file; opening
a file to append creates it in an existing directory and fails on a directory.
-/

namespace Bourse

/-- A directory tree: files with their texts, and directories. -/
structure Disk where
  /-- Each file's path and text. -/
  files : List (String × String)
  /-- The directories besides the working directory. -/
  dirs : List String
  deriving Repr, Inhabited

namespace Disk

/-- The empty working directory. -/
def empty : Disk := ⟨[], []⟩

/-- The parts of a path. -/
def parts (path : String) : List String :=
  ((path.toList.splitOn '/').map String.ofList).filter fun p => !p.isEmpty && p != "."

/-- A path in its plain form. -/
def clean (path : String) : String := "/".intercalate (parts path)

/-- The directory a path lies in; `.` for the working directory. -/
def parentOf (path : String) : String :=
  match (parts path).dropLast with
  | [] => "."
  | ps => "/".intercalate ps

/-- Whether a path names a directory. The empty path names nothing, while `.` is the working
directory. -/
def isDir (disk : Disk) (path : String) : Bool :=
  let p := clean path
  !path.isEmpty && (p.isEmpty || disk.dirs.contains p)

/-- Whether a path names a file. -/
def isFile (disk : Disk) (path : String) : Bool :=
  disk.files.any (·.1 == clean path)

/-- The text of a file. -/
def read? (disk : Disk) (path : String) : Option String :=
  (disk.files.find? (·.1 == clean path)).map (·.2)

/-- The paths of a path's leading parts, shortest first: `a`, `a/b`, `a/b/c`. -/
def prefixes (path : String) : List String :=
  let ps := parts path
  (List.range ps.length).map fun n => "/".intercalate (ps.take (n + 1))

/-- Makes a directory and its parents; fails at the first part that is a file. -/
def makeDirs (disk : Disk) (path : String) : Except String Disk :=
  let step (d : Disk) (p : String) : Except String Disk :=
    if d.isFile p then .error ("mkdir " ++ p ++ ": not a directory")
    else if d.isDir p then .ok d
    else .ok { d with dirs := d.dirs ++ [p] }
  (prefixes path).foldlM step disk

/-- Opens a file to append, creating it empty if it is missing. -/
def openAppend (disk : Disk) (path : String) : Except String Disk :=
  let p := clean path
  if path.isEmpty then .error "open : no such file or directory"
  else if disk.isDir path then .error ("open " ++ path ++ ": is a directory")
  else if disk.isFile p then .ok disk
  else if !disk.isDir (parentOf p) then
    if (prefixes (parentOf p)).any disk.isFile then .error ("open " ++ path ++ ": not a directory")
    else .error ("open " ++ path ++ ": no such file or directory")
  else .ok { disk with files := disk.files ++ [(p, "")] }

/-- Writes a file's text, creating its parent directories. -/
def write (disk : Disk) (path : String) (text : String) : Disk :=
  let p := clean path
  let withDirs := match disk.makeDirs (parentOf p) with
    | .ok d => d
    | .error _ => disk
  if withDirs.isFile p then
    { withDirs with files := withDirs.files.map fun (q, t) => if q == p then (q, text) else (q, t) }
  else { withDirs with files := withDirs.files ++ [(p, text)] }

/-- Appends text to a file, creating it if it is missing. -/
def append (disk : Disk) (path : String) (text : String) : Disk :=
  disk.write path ((disk.read? path).getD "" ++ text)

/-- Whether a path is another path or lies below it. -/
def isWithin (inner outer : String) : Bool :=
  let inner := clean inner
  let outer := clean outer
  inner == outer || inner.startsWith (outer ++ "/")

/-- Removes a file, or a directory with everything below it; a missing path is no error. The
working directory itself stays. -/
def remove (disk : Disk) (path : String) : Disk :=
  if (clean path).isEmpty then disk
  else ⟨disk.files.filter fun (p, _) => !isWithin p path, disk.dirs.filter (!isWithin · path)⟩

end Disk

end Bourse
