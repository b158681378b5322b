/-!
# Comma-separated records

A text of comma-separated records is read line by line. A carriage return before a line feed,
and one at the very end of the text, is not part of the line. Lines with nothing on them are
skipped between records; every other line starts a record, whose fields are separated by
commas. Records need not have the same number of fields.

A field is plain or quoted. A plain field runs to the next comma or the end of the line and may
not hold a double quote. A quoted field starts with a double quote and ends at the next double
quote that is followed by a comma or the end of its line; two double quotes inside it stand
for one, and it may run over several lines, keeping their line breaks. A double quote followed
by anything else, or a quoted field that the text ends inside, makes the text malformed.

A malformed text is reported with the line its record started on, the line and the column (in
bytes, from 1) of the fault.
-/

namespace Bourse

namespace Csv

/-- What is wrong at the place of a parse error. -/
inductive Fault where
  /-- A double quote inside a plain field. -/
  | bareQuote
  /-- A quoted field that is not closed, or a double quote inside one that does not close it. -/
  | quote
  deriving Repr, DecidableEq

/-- The description of a fault. -/
def Fault.message : Fault → String
  | .bareQuote => "bare \" in non-quoted-field"
  | .quote => "extraneous or missing \" in quoted-field"

/-- Where and why a text is not comma-separated records. -/
structure ParseError where
  /-- The line the record started on. -/
  recordLine : Nat
  /-- The line of the fault. -/
  line : Nat
  /-- The column of the fault, in bytes from 1. -/
  column : Nat
  /-- What is wrong. -/
  fault : Fault
  deriving Repr, DecidableEq

/-- The message of a parse error; it names the record's first line when the fault is on a later
line. -/
def ParseError.message (error : ParseError) : String :=
  let place := "parse error on line " ++ toString error.line ++ ", column " ++
    toString error.column ++ ": " ++ error.fault.message
  if error.recordLine != error.line then
    "record on line " ++ toString error.recordLine ++ "; " ++ place
  else place

/-- The characters of a text with its lines normalised: each line feed ends a line, and a
carriage return that ends a line (or the text) is dropped. -/
def normalizeLines (text : String) : List Char :=
  let dropReturn (line : List Char) : List Char :=
    match line.reverse with
    | '\r' :: rest => rest.reverse
    | _ => line
  match (text.toList.splitOn '\n').reverse with
  | [] => []
  | last :: ended => (ended.reverse.map fun line => dropReturn line ++ ['\n']).flatten ++ dropReturn last

/-- Where the reader is in the text, and what it has read. -/
structure Progress where
  /-- The line of the next character, from 1. -/
  line : Nat
  /-- The column of the next character, in bytes from 1. -/
  column : Nat
  /-- The line the current record started on. -/
  recordLine : Nat
  /-- The fields of the current record so far. -/
  fields : Array String
  /-- The records read. -/
  records : Array (List String)
  deriving Repr

namespace Progress

/-- Nothing read yet. -/
def start : Progress := ⟨1, 1, 1, #[], #[]⟩

/-- Past a character on the same line. -/
def advance (p : Progress) (c : Char) : Progress := { p with column := p.column + c.utf8Size }

/-- Past a line break. -/
def newLine (p : Progress) : Progress := { p with line := p.line + 1, column := 1 }

/-- Ends a field with its characters, given last first. -/
def endField (p : Progress) (reversed : List Char) : Progress :=
  { p with fields := p.fields.push (String.ofList reversed.reverse) }

/-- Ends a record. -/
def endRecord (p : Progress) : Progress :=
  { p with records := p.records.push p.fields.toList, fields := #[] }

/-- A fault at a column of the current line. -/
def fault (p : Progress) (column : Nat) (kind : Fault) : ParseError :=
  ⟨p.recordLine, p.line, column, kind⟩

end Progress

/-- What the reader is in the middle of. -/
inductive Mode where
  /-- Between records. -/
  | recordStart
  /-- At the start of a field. -/
  | fieldStart
  /-- Inside a plain field, with its characters last first. -/
  | plain (reversed : List Char)
  /-- Inside a quoted field, with its characters last first. -/
  | quoted (reversed : List Char)
  /-- Just after a double quote inside a quoted field. -/
  | closing (reversed : List Char)
  deriving Repr

/-- A character of a plain field. -/
def plainStep (p : Progress) (reversed : List Char) (c : Char) : Except ParseError (Progress × Mode) :=
  if c == ',' then .ok ((p.endField reversed).advance c, .fieldStart)
  else if c == '\n' then .ok ((p.endField reversed).endRecord.newLine, .recordStart)
  else if c == '"' then .error (p.fault p.column .bareQuote)
  else .ok (p.advance c, .plain (c :: reversed))

/-- The first character of a field. -/
def fieldStep (p : Progress) (c : Char) : Except ParseError (Progress × Mode) :=
  if c == '"' then .ok (p.advance c, .quoted []) else plainStep p [] c

/-- Reads one character; `last` says whether it ends the text. -/
def step (p : Progress) (mode : Mode) (c : Char) (last : Bool) : Except ParseError (Progress × Mode) :=
  match mode with
  | .recordStart =>
    if c == '\n' then .ok (p.newLine, .recordStart) else fieldStep { p with recordLine := p.line } c
  | .fieldStart => fieldStep p c
  | .plain reversed => plainStep p reversed c
  | .quoted reversed =>
    if c == '"' then .ok (p.advance c, .closing reversed)
    else if c == '\n' && !last then .ok (p.newLine, .quoted (c :: reversed))
    else .ok (p.advance c, .quoted (c :: reversed))
  | .closing reversed =>
    if c == '"' then .ok (p.advance c, .quoted ('"' :: reversed))
    else if c == ',' then .ok ((p.endField reversed).advance c, .fieldStart)
    else if c == '\n' then .ok ((p.endField reversed).endRecord.newLine, .recordStart)
    else .error (p.fault (p.column - 1) .quote)

/-- What the end of the text does in each mode: it ends the record being read, or, inside a
quoted field, is a fault. -/
def finish (p : Progress) : Mode → Except ParseError (Array (List String))
  | .recordStart => .ok p.records
  | .fieldStart => .ok (p.endField []).endRecord.records
  | .plain reversed => .ok (p.endField reversed).endRecord.records
  | .quoted _ => .error (p.fault p.column .quote)
  | .closing reversed => .ok (p.endField reversed).endRecord.records

/-- Reads the rest of the text one character at a time. -/
def scan (p : Progress) (mode : Mode) : List Char → Except ParseError (Array (List String))
  | [] => finish p mode
  | c :: rest =>
    match step p mode c rest.isEmpty with
    | .error e => .error e
    | .ok (p, mode) => scan p mode rest

/-- The records of a text, or where it is malformed. -/
def readAll (text : String) : Except ParseError (List (List String)) :=
  (scan Progress.start .recordStart (normalizeLines text)).map Array.toList

end Csv

end Bourse
