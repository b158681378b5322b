/-!
# Reading position in YAML text

A `Cursor` is the text not yet read together with the position reached: the number of
characters read, the line and the column, all counted from zero. A line break is a line feed,
a carriage return (with the line feed after it, if any, as one break), a next-line character or
a line or paragraph separator; reading one moves to the start of the next line.

The character classes name the roles characters play in YAML's grammar. The end of the text
behaves as a character of its own, which is a "break or end" but no break.

The text reaches the scanner through a reader that decodes its bytes a batch of 512 at a time,
as the scanner asks for more, and that refuses a whole batch holding a character YAML does not
allow. `readableChars` counts the characters delivered before such a batch: a bad character far
enough ahead is never met when the scanner stops before its batch.
-/

namespace Bourse

namespace Yaml

/-- A position in the text, counted from zero. -/
structure Mark where
  /-- Characters read. -/
  index : Nat
  line : Nat
  column : Nat
  deriving Repr, Inhabited, DecidableEq

/-- Whether a character is a space or a tab. -/
def isBlank (c : Char) : Bool := c == ' ' || c == '\t'

/-- Whether a character breaks a line. -/
def isBreak (c : Char) : Bool :=
  c == '\r' || c == '\n' || c.toNat == 0x85 || c.toNat == 0x2028 || c.toNat == 0x2029

/-- Whether a character may stand in an anchor name or a directive name: a letter, a digit,
`_` or `-`. -/
def isWordChar (c : Char) : Bool := c.isAlphanum || c == '_' || c == '-'

/-- Whether a character is allowed in YAML text at all: tabs, line feeds, carriage returns and
the printable characters. -/
def isAllowed (c : Char) : Bool :=
  let n := c.toNat
  n == 0x09 || n == 0x0A || n == 0x0D || (0x20 ≤ n && n ≤ 0x7E) || n == 0x85 ||
    (0xA0 ≤ n && n ≤ 0xD7FF) || (0xE000 ≤ n && n ≤ 0xFFFD) || 0x10000 ≤ n

/-- How many bytes the reader decodes at a time. -/
def readerBatch : Nat := 512

/-- The characters at the front of a text whose bytes fit in `room`, and the rest. -/
def takeBatch : List Char → Nat → List Char × List Char
  | [], _ => ([], [])
  | c :: rest, room =>
    if c.utf8Size ≤ room then
      let (batch, after) := takeBatch rest (room - c.utf8Size)
      (c :: batch, after)
    else ([], c :: rest)

/-- How many characters of a text the reader delivers before it refuses one, or `none` when
every character is allowed. Each batch starts at the first character not yet delivered and
takes the characters whose bytes fit in `readerBatch`; a character cut by the end of a batch
goes with the next one. A batch holding a character that is not allowed is refused whole. -/
def readableChars (text : String) : Option Nat :=
  go text.toList 0 (text.length + 1)
where
  /-- Delivers batches from `rest`, `delivered` characters having gone before. -/
  go (rest : List Char) (delivered : Nat) : Nat → Option Nat
    | 0 => none
    | fuel + 1 =>
      if rest.isEmpty then none
      else
        let (batch, after) := takeBatch rest readerBatch
        if batch.all isAllowed then go after (delivered + batch.length) fuel
        else some delivered

/-- Whether the character (or the end, `none`) is blank. -/
def blankAt : Option Char → Bool
  | some c => isBlank c
  | none => false

/-- Whether the character is a line break; the end is none. -/
def breakAt : Option Char → Bool
  | some c => isBreak c
  | none => false

/-- Whether the character is a line break or the end. -/
def breakOrEndAt : Option Char → Bool
  | some c => isBreak c
  | none => true

/-- Whether the character is blank, a line break or the end. -/
def blankOrEndAt : Option Char → Bool
  | some c => isBlank c || isBreak c
  | none => true

/-- The text still to read and the position reached. -/
structure Cursor where
  /-- The text not yet read. -/
  rest : List Char
  /-- The position reached. -/
  mark : Mark
  deriving Repr, Inhabited

namespace Cursor

/-- A cursor at the start of a text. -/
def start (text : String) : Cursor := ⟨text.toList, ⟨0, 0, 0⟩⟩

/-- The next character, `none` at the end. -/
def peek (c : Cursor) : Option Char := c.rest.head?

/-- The character `n` places ahead. -/
def ahead (c : Cursor) (n : Nat) : Option Char := c.rest[n]?

/-- Whether the next character is `ch`. -/
def looking (c : Cursor) (ch : Char) : Bool := c.peek == some ch

/-- Whether the text at the cursor starts with these characters. -/
def startsWith (c : Cursor) (chars : List Char) : Bool := chars.isPrefixOf c.rest

/-- Moves past one character on the same line. -/
def skip (c : Cursor) : Cursor :=
  match c.rest with
  | [] => c
  | _ :: rest => ⟨rest, { c.mark with index := c.mark.index + 1, column := c.mark.column + 1 }⟩

/-- Moves past `n` characters on the same line. -/
def skipN (c : Cursor) : Nat → Cursor
  | 0 => c
  | n + 1 => (c.skip).skipN n

/-- Moves past a line break, if one is next. -/
def skipLine (c : Cursor) : Cursor :=
  match c.rest with
  | '\r' :: '\n' :: rest => ⟨rest, ⟨c.mark.index + 2, c.mark.line + 1, 0⟩⟩
  | ch :: rest => if isBreak ch then ⟨rest, ⟨c.mark.index + 1, c.mark.line + 1, 0⟩⟩ else c
  | [] => c

/-- Moves past one character, adding it to `acc`. -/
def read (c : Cursor) (acc : String) : String × Cursor :=
  match c.peek with
  | some ch => (acc.push ch, c.skip)
  | none => (acc, c)

/-- Moves past a line break, adding it to `acc`: a carriage return, a line feed, both together
and a next-line character are added as a line feed, the separators as themselves. -/
def readLine (c : Cursor) (acc : String) : String × Cursor :=
  match c.rest with
  | '\r' :: '\n' :: _ => (acc.push '\n', c.skipLine)
  | ch :: _ =>
    if ch == '\r' || ch == '\n' || ch.toNat == 0x85 then (acc.push '\n', c.skipLine)
    else if isBreak ch then (acc.push ch, c.skipLine)
    else (acc, c)
  | [] => (acc, c)

/-- Whether a document marker (`---` or `...`) starts here, at the start of a line and followed
by a blank, a break or the end. -/
def atDocumentMarker (c : Cursor) : Bool :=
  c.mark.column == 0 && (c.startsWith ['-', '-', '-'] || c.startsWith ['.', '.', '.']) &&
    blankOrEndAt (c.ahead 3)

end Cursor

end Yaml

end Bourse
