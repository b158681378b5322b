import Bourse.Yaml.Cursor

/-!
# YAML tokens and syntax errors

Scanning cuts YAML text into tokens: the structure markers of block and flow collections, keys
and values, anchors, aliases, tags, scalars and the markers of documents and of the stream.
Block collections have no markers in the text; the scanner makes their starts and ends from
indentation.

A syntax error is found by the reader (a character YAML does not allow), the scanner or the
parser. Its message names the line where the trouble lies: the line of the construct being
read, or else the line of the problem itself. Lines are counted from one there; a problem on the
first line names no line. The scanner reports lines one further down than the parser does, as
the scanner's positions are taken before the line is counted.
-/

namespace Bourse

namespace Yaml

/-- How a scalar is written. -/
inductive ScalarStyle where
  | plain
  | singleQuoted
  | doubleQuoted
  | literal
  | folded
  deriving Repr, Inhabited, DecidableEq

/-- What a token is. -/
inductive TokenKind where
  | streamStart
  | streamEnd
  /-- A `%YAML` directive with its version. -/
  | versionDirective (major minor : Nat)
  /-- A `%TAG` directive: a handle and what it stands for. -/
  | tagDirective (handle expansion : String)
  | documentStart
  | documentEnd
  | blockSequenceStart
  | blockMappingStart
  | blockEnd
  | flowSequenceStart
  | flowSequenceEnd
  | flowMappingStart
  | flowMappingEnd
  | blockEntry
  | flowEntry
  | key
  | value
  | alias (name : String)
  | anchor (name : String)
  /-- A tag: its handle (empty for a verbatim tag) and suffix. -/
  | tag (handle suffix : String)
  | scalar (value : String) (style : ScalarStyle)
  deriving Repr, Inhabited, DecidableEq

/-- A token with the positions where it starts and ends. -/
structure Token where
  /-- What it is. -/
  kind : TokenKind
  /-- Where it starts. -/
  start : Mark
  /-- Where it ends. -/
  stop : Mark
  deriving Repr, Inhabited

/-- Who found a syntax error. -/
inductive Finder where
  | reader
  | scanner
  | parser
  deriving Repr, Inhabited, DecidableEq

/-- A syntax error: who found it, the problem, where the construct being read started (if
that is part of the report) and where the problem lies. -/
structure SyntaxError where
  /-- Who found it. -/
  finder : Finder
  /-- What is wrong. -/
  problem : String
  /-- Where the construct being read started. -/
  context : Option Mark
  /-- Where the problem lies. -/
  place : Mark
  deriving Repr, Inhabited

namespace SyntaxError

/-- The line a syntax error names, counted from one; zero names none. -/
def line (e : SyntaxError) : Nat :=
  let shift := if e.finder == .scanner then 1 else 0
  let contextLine := (e.context.map (·.line)).getD 0
  if contextLine != 0 then contextLine + shift
  else if e.place.line != 0 then e.place.line + shift
  else 0

/-- The message of a syntax error. -/
def message (e : SyntaxError) : String :=
  "yaml: " ++ (if e.line == 0 then "" else "line " ++ toString e.line ++ ": ") ++ e.problem

end SyntaxError

end Yaml

end Bourse
