/-!
# Lines of a text

A text is read as lines ended by line feeds. A carriage return at the end of a line belongs to
the ending and is dropped; a last line without a line feed counts when it is not empty. A reader
holds at most a fixed number of bytes at once, so a line whose bytes (its carriage return
included) reach that limit cannot be read: reading stops there with an error, after the lines
before it.
-/

namespace Bourse

/-- The most bytes a line reader holds at once. -/
def lineLimit : Nat := 1024 * 1024

/-- The message of a line that is too long to read. -/
def lineTooLong : String := "bufio.Scanner: token too long"

/-- A line without the carriage return that ends it, if any. -/
def dropReturn (line : String) : String :=
  if line.endsWith "\r" then String.ofList line.toList.dropLast else line

/-- Reads the pieces of a text between line feeds as lines, stopping at the first piece of at
least `limit` bytes; says whether reading stopped there. -/
def readPieces (limit : Nat) : List String → List String × Bool
  | [] => ([], false)
  | piece :: rest =>
    if limit ≤ piece.utf8ByteSize then ([], true)
    else
      let (lines, tooLong) := readPieces limit rest
      (dropReturn piece :: lines, tooLong)

/-- The lines of a text, read with a holding limit of `limit` bytes, and whether a line was
too long to read. -/
def readLines (limit : Nat) (text : String) : List String × Bool :=
  let pieces := (text.toList.splitOn '\n').map String.ofList
  let pieces := if pieces.getLast? == some "" then pieces.dropLast else pieces
  readPieces limit pieces

end Bourse
