import Bourse.Yaml.Token.Scalar

/-!
# Scanning YAML text into tokens

The scanner produces tokens on demand, a few ahead of the parser. Most tokens come straight
from the text; three kinds come from context:

* Indentation opens block collections: a `-` entry or a mapping key further right than the
  current block starts a new block sequence or mapping, and a line indented less than a block
  ends it (`blockEnd`).
* A key without `?` (a simple key) is only known to be a key when the `:` after it arrives. The
  scanner remembers where each possible simple key started, one per flow level, and when the
  `:` comes it puts the `key` token (and the start of a block mapping, if needed) back in front
  of the key's first token. A simple key must fit on one line and within 1024 characters; a
  key that the indentation requires and that gets no `:` is an error.
* The end of the text ends every open block.

The parser asks for the token at its position. The scanner then reads on until it holds at
least three tokens from there, and further while the token there may still become a key.
Errors in the text ahead therefore surface before the parser looks at that text.

The scanner looks one character ahead when it starts on a token, four once it has skipped to
the token's first character, and one past each token it has read. Looking past the characters
the reader delivers (`readableChars`) stops it with the reader's refusal; so does a scanner
error lying there, since the reader would have refused first.
-/

namespace Bourse

namespace Yaml

/-- A place where a simple key may start. -/
structure SimpleKey where
  /-- Whether a key may still start here. -/
  possible : Bool
  /-- Whether the indentation requires a key here. -/
  required : Bool
  /-- The number of the token the key would start with. -/
  tokenNumber : Nat
  /-- Where it starts. -/
  mark : Mark
  deriving Repr, Inhabited

/-- The state of the scanner. -/
structure Scanner where
  /-- The text still to read. -/
  cursor : Cursor
  /-- Whether the stream has started. -/
  started : Bool
  /-- How many flow collections are open. -/
  flowLevel : Nat
  /-- Every token made so far. -/
  tokens : Array Token
  /-- The number of tokens the parser has taken. -/
  parsed : Nat
  /-- The column of the current block; `-1` outside all blocks. -/
  indent : Int
  /-- The columns of the enclosing blocks, innermost first. -/
  indents : List Int
  /-- Whether a simple key may start at the current position. -/
  simpleKeyAllowed : Bool
  /-- The possible simple key of each flow level, the current level last. -/
  simpleKeys : Array SimpleKey
  /-- The token numbers of remembered simple keys, with their flow levels. -/
  keysByToken : List (Nat × Nat)
  /-- How many characters the reader delivers before it refuses one; `none` when it never
  does. -/
  readable : Option Nat
  deriving Repr, Inhabited

/-- Scanning: a state of the scanner that may fail with a syntax error. -/
abbrev ScanM := StateT Scanner (Except SyntaxError)

namespace Scanner

/-- A scanner at the start of a text, of which the reader delivers `readable` characters. -/
def new (text : String) (readable : Option Nat) : Scanner :=
  ⟨Cursor.start text, false, 0, #[], 0, -1, [], false, #[], [], readable⟩

/-- The error a scanner run ends with: a scanner error lying past what the reader delivers
gives way to the reader's refusal. -/
def firstError (s : Scanner) (e : SyntaxError) : SyntaxError :=
  match s.readable with
  | some limit => if e.finder == .scanner && e.place.index + 1 > limit then readerRefusal else e
  | none => e

/-- The possible simple key of the current flow level. -/
def topKey (s : Scanner) : SimpleKey := s.simpleKeys.back?.getD default

/-- Replaces the possible simple key of the current flow level. -/
def setTopKey (s : Scanner) (key : SimpleKey) : Scanner :=
  { s with simpleKeys := s.simpleKeys.modify (s.simpleKeys.size - 1) fun _ => key }

/-- Forgets the token number of a remembered key. -/
def forgetKey (s : Scanner) (number : Nat) : Scanner :=
  { s with keysByToken := s.keysByToken.filter (·.1 != number) }

end Scanner

/-- Notes that the scanner looks at `count` characters from the cursor on: past what the reader
delivers, the reader refuses. -/
def lookAhead (count : Nat) : ScanM Unit := do
  let s ← get
  match s.readable with
  | some limit => if s.cursor.mark.index + count > limit then throw readerRefusal
  | none => pure ()

/-- Fails with a scanner error about a construct that started at `start`, found here. -/
def failHere {α : Type} (start : Mark) (problem : String) : ScanM α := do
  throw (scanError start problem (← get).cursor.mark)

/-- Adds a token at the end. -/
def appendToken (t : Token) : ScanM Unit :=
  modify fun s => { s with tokens := s.tokens.push t }

/-- Puts a token at a token number, in front of the tokens from there on. -/
def insertToken (number : Nat) (t : Token) : ScanM Unit :=
  modify fun s => { s with tokens := s.tokens.insertIdxIfInBounds number t }

/-- Moves the cursor. -/
def moveCursor (f : Cursor → Cursor) : ScanM Unit :=
  modify fun s => { s with cursor := f s.cursor }

/-- Sets whether a simple key may start here. -/
def allowSimpleKey (allowed : Bool) : ScanM Unit :=
  modify fun s => { s with simpleKeyAllowed := allowed }

/-- Gives up the possible simple key of the current level; a required one is an error. -/
def removeSimpleKey : ScanM Unit := do
  let s ← get
  let key := s.topKey
  if key.possible then
    if key.required then throw (scanError key.mark "could not find expected ':'" s.cursor.mark)
    set ((s.setTopKey { key with possible := false }).forgetKey key.tokenNumber)

/-- Remembers that a simple key may start at the next token. A key is required where the
block's indentation expects one. -/
def saveSimpleKey : ScanM Unit := do
  let s ← get
  if s.simpleKeyAllowed then
    let required := s.flowLevel == 0 && s.indent == (s.cursor.mark.column : Int)
    let key : SimpleKey := ⟨true, required, s.tokens.size, s.cursor.mark⟩
    removeSimpleKey
    let s ← get
    set { s.setTopKey key with
      keysByToken := (key.tokenNumber, s.simpleKeys.size - 1) ::
        s.keysByToken.filter (·.1 != key.tokenNumber) }

/-- Whether the remembered key of a flow level can still be a key: it must lie on the current
line and at most 1024 characters back. A key that can no longer be one is given up; a required
one is an error. -/
def keyStillPossible (level : Nat) : ScanM Bool := do
  let s ← get
  match s.simpleKeys[level]? with
  | none => return false
  | some key =>
    if !key.possible then return false
    if key.mark.line < s.cursor.mark.line || key.mark.index + 1024 < s.cursor.mark.index then
      if key.required then throw (scanError key.mark "could not find expected ':'" s.cursor.mark)
      set { s with simpleKeys := s.simpleKeys.modify level fun k => { k with possible := false } }
      return false
    return true

/-- The deepest nesting of flow collections or blocks. -/
def maxDepth : Nat := 10000

/-- Opens a flow collection level. -/
def increaseFlowLevel : ScanM Unit := do
  let s ← get
  let s := { s with simpleKeys := s.simpleKeys.push ⟨false, false, 0, s.cursor.mark⟩,
                    flowLevel := s.flowLevel + 1 }
  set s
  if s.flowLevel > maxDepth then
    throw (scanError s.topKey.mark ("exceeded max depth of " ++ toString maxDepth) s.cursor.mark)

/-- Closes a flow collection level. -/
def decreaseFlowLevel : ScanM Unit := do
  let s ← get
  if s.flowLevel > 0 then
    let s := s.forgetKey s.topKey.tokenNumber
    set { s with flowLevel := s.flowLevel - 1, simpleKeys := s.simpleKeys.pop }

/-- Opens a block at `column` if it lies right of the current one: the block's start token goes
at the given token number, or at the end. Inside flow collections nothing happens. -/
def rollIndent (column : Int) (number : Option Nat) (kind : TokenKind) (mark : Mark) :
    ScanM Unit := do
  let s ← get
  if s.flowLevel == 0 && s.indent < column then
    let s := { s with indents := s.indent :: s.indents, indent := column }
    set s
    if s.indents.length > maxDepth then
      throw (scanError s.topKey.mark ("exceeded max depth of " ++ toString maxDepth) s.cursor.mark)
    let t : Token := ⟨kind, mark, mark⟩
    match number with
    | some n => insertToken n t
    | none => appendToken t

/-- Ends every block right of `column`, each with a `blockEnd` token placed just before the
position where scanning for the next token began. -/
def unrollIndent (column : Int) (scanMark : Mark) : ScanM Unit := do
  let blockMark := { scanMark with index := scanMark.index - 1 }
  let rec close : Nat → ScanM Unit
    | 0 => pure ()
    | fuel + 1 => do
      let s ← get
      if s.indent > column then
        set { s with tokens := s.tokens.push ⟨.blockEnd, blockMark, blockMark⟩,
                     indent := s.indents.headD (-1), indents := s.indents.tail }
        close fuel
  let s ← get
  if s.flowLevel == 0 then close (s.indents.length + 1)

/-- Consumes a one-character indicator and adds its token. -/
def indicatorToken (kind : TokenKind) (width : Nat) : ScanM Unit := do
  let start := (← get).cursor.mark
  moveCursor (·.skipN width)
  appendToken ⟨kind, start, (← get).cursor.mark⟩

/-- Runs a reader of text-carrying tokens at the cursor and adds its token. -/
def readToken (reader : Cursor → Except SyntaxError (Token × Cursor)) : ScanM Unit := do
  match reader (← get).cursor with
  | .error e => throw e
  | .ok (t, cursor) =>
    moveCursor fun _ => cursor
    appendToken t

/-- Starts the stream: no block is open and a simple key may come. -/
def fetchStreamStart : ScanM Unit := do
  let s ← get
  set { s with indent := -1, simpleKeys := #[default], keysByToken := [], simpleKeyAllowed := true,
               started := true, tokens := s.tokens.push ⟨.streamStart, s.cursor.mark, s.cursor.mark⟩ }

/-- Ends the stream at the start of a line: every block ends. -/
def fetchStreamEnd : ScanM Unit := do
  let s ← get
  let mark := s.cursor.mark
  let mark := if mark.column != 0 then { mark with column := 0, line := mark.line + 1 } else mark
  set { s with cursor := { s.cursor with mark } }
  unrollIndent (-1) mark
  removeSimpleKey
  allowSimpleKey false
  appendToken ⟨.streamEnd, mark, mark⟩

/-- Reads a directive: every block ends first. -/
def fetchDirective : ScanM Unit := do
  unrollIndent (-1) (← get).cursor.mark
  removeSimpleKey
  allowSimpleKey false
  readToken scanDirective

/-- Reads a document marker: every block ends first. -/
def fetchDocumentIndicator (kind : TokenKind) : ScanM Unit := do
  unrollIndent (-1) (← get).cursor.mark
  removeSimpleKey
  allowSimpleKey false
  indicatorToken kind 3

/-- Opens a flow collection, which may be a simple key. -/
def fetchFlowCollectionStart (kind : TokenKind) : ScanM Unit := do
  saveSimpleKey
  increaseFlowLevel
  allowSimpleKey true
  indicatorToken kind 1

/-- Closes a flow collection. -/
def fetchFlowCollectionEnd (kind : TokenKind) : ScanM Unit := do
  removeSimpleKey
  decreaseFlowLevel
  allowSimpleKey false
  indicatorToken kind 1

/-- Reads the `,` between flow entries. -/
def fetchFlowEntry : ScanM Unit := do
  removeSimpleKey
  allowSimpleKey true
  indicatorToken .flowEntry 1

/-- Reads a `-` entry of a block sequence, opening the sequence if needed. -/
def fetchBlockEntry : ScanM Unit := do
  let s ← get
  if s.flowLevel == 0 then
    if !s.simpleKeyAllowed then
      failHere s.cursor.mark "block sequence entries are not allowed in this context"
    rollIndent s.cursor.mark.column none .blockSequenceStart s.cursor.mark
  removeSimpleKey
  allowSimpleKey true
  indicatorToken .blockEntry 1

/-- Reads a `?` key, opening a block mapping if needed. -/
def fetchKey : ScanM Unit := do
  let s ← get
  if s.flowLevel == 0 then
    if !s.simpleKeyAllowed then failHere s.cursor.mark "mapping keys are not allowed in this context"
    rollIndent s.cursor.mark.column none .blockMappingStart s.cursor.mark
  removeSimpleKey
  allowSimpleKey ((← get).flowLevel == 0)
  indicatorToken .key 1

/-- Reads a `:`. After a simple key it puts the `key` token (and a block mapping start, if
needed) in front of the key; otherwise it follows a `?` key or stands for an empty key. -/
def fetchValue : ScanM Unit := do
  let s ← get
  let level := s.simpleKeys.size - 1
  let key := s.topKey
  if ← keyStillPossible level then
    insertToken key.tokenNumber ⟨.key, key.mark, key.mark⟩
    rollIndent key.mark.column (some key.tokenNumber) .blockMappingStart key.mark
    let s ← get
    set { (s.setTopKey { key with possible := false }).forgetKey key.tokenNumber with
      simpleKeyAllowed := false }
  else
    let s ← get
    if s.flowLevel == 0 then
      if !s.simpleKeyAllowed then
        failHere s.cursor.mark "mapping values are not allowed in this context"
      rollIndent s.cursor.mark.column none .blockMappingStart s.cursor.mark
    allowSimpleKey ((← get).flowLevel == 0)
  indicatorToken .value 1

/-- Reads an anchor or an alias, which may be a simple key. -/
def fetchAnchor (isAlias : Bool) : ScanM Unit := do
  saveSimpleKey
  allowSimpleKey false
  readToken (scanAnchor · isAlias)

/-- Reads a tag, which may start a simple key. -/
def fetchTag : ScanM Unit := do
  saveSimpleKey
  allowSimpleKey false
  let flow := (← get).flowLevel > 0
  readToken (scanTag · flow)

/-- Reads a block scalar. -/
def fetchBlockScalar (literal : Bool) : ScanM Unit := do
  removeSimpleKey
  allowSimpleKey true
  let indent := (← get).indent
  readToken (scanBlock · literal indent)

/-- Reads a quoted scalar, which may be a simple key. -/
def fetchFlowScalar (single : Bool) : ScanM Unit := do
  saveSimpleKey
  allowSimpleKey false
  readToken (scanQuoted · single)

/-- Reads a plain scalar, which may be a simple key; a simple key may follow it when it ended
after a line break. -/
def fetchPlainScalar : ScanM Unit := do
  saveSimpleKey
  allowSimpleKey false
  let s ← get
  match scanPlain s.cursor (s.flowLevel > 0) s.indent with
  | .error e => throw e
  | .ok (t, cursor, afterBreak) =>
    moveCursor fun _ => cursor
    appendToken t
    if afterBreak then allowSimpleKey true

/-- Skips blanks, comments and line breaks up to the next token. Tabs count as blanks only
inside flow collections or where no simple key may start; a byte order mark at the start of a
line is skipped. -/
def skipToToken : Nat → ScanM Unit
  | 0 => pure ()
  | fuel + 1 => do
    let s ← get
    let c := s.cursor
    let c := if c.mark.column == 0 && c.looking (Char.ofNat 0xFEFF) then c.skip else c
    let tabs := s.flowLevel > 0 || !s.simpleKeyAllowed
    let spaces := c.rest.takeWhile fun ch => ch == ' ' || (tabs && ch == '\t')
    let c := c.skipN spaces.length
    let c := if c.looking '#' then skipToBreak (c.rest.length + 1) c else c
    if breakAt c.peek then
      set { s with cursor := c.skipLine,
                   simpleKeyAllowed := if s.flowLevel == 0 then true else s.simpleKeyAllowed }
      skipToToken fuel
    else set { s with cursor := c }

/-- The characters that cannot start a plain scalar. -/
def indicatorChars : List Char := "-?:,[]{}#&*!|>'\"%@`".toList

/-- Reads the next token, with the block ends before it. -/
def fetchNext : ScanM Unit := do
  lookAhead 1
  if !(← get).started then fetchStreamStart
  else
    let scanMark := (← get).cursor.mark
    skipToToken ((← get).cursor.rest.length + 1)
    unrollIndent (← get).cursor.mark.column scanMark
    lookAhead 4
    let s ← get
    let c := s.cursor
    let flow := s.flowLevel > 0
    match c.peek with
    | none => fetchStreamEnd
    | some ch =>
      let column0 := c.mark.column == 0
      if column0 && ch == '%' then fetchDirective
      else if column0 && c.startsWith ['-', '-', '-'] && blankOrEndAt (c.ahead 3) then
        fetchDocumentIndicator .documentStart
      else if column0 && c.startsWith ['.', '.', '.'] && blankOrEndAt (c.ahead 3) then
        fetchDocumentIndicator .documentEnd
      else if ch == '[' then fetchFlowCollectionStart .flowSequenceStart
      else if ch == '{' then fetchFlowCollectionStart .flowMappingStart
      else if ch == ']' then fetchFlowCollectionEnd .flowSequenceEnd
      else if ch == '}' then fetchFlowCollectionEnd .flowMappingEnd
      else if ch == ',' then fetchFlowEntry
      else if ch == '-' && blankOrEndAt (c.ahead 1) then fetchBlockEntry
      else if ch == '?' && (flow || blankOrEndAt (c.ahead 1)) then fetchKey
      else if ch == ':' && (flow || blankOrEndAt (c.ahead 1)) then fetchValue
      else if ch == '*' then fetchAnchor true
      else if ch == '&' then fetchAnchor false
      else if ch == '!' then fetchTag
      else if ch == '|' && !flow then fetchBlockScalar true
      else if ch == '>' && !flow then fetchBlockScalar false
      else if ch == '\'' then fetchFlowScalar true
      else if ch == '"' then fetchFlowScalar false
      else if !(isBlank ch || indicatorChars.contains ch) ||
          (ch == '-' && !blankAt (c.ahead 1)) ||
          (!flow && (ch == '?' || ch == ':') && !blankOrEndAt (c.ahead 1)) then
        fetchPlainScalar
      else throw (scanError c.mark "found character that cannot start any token" c.mark)

/-- Reads on until at least three tokens lie ahead of the parser and the one at its position
can no longer become a simple key. -/
def fetchMore : Nat → ScanM Unit
  | 0 => pure ()
  | fuel + 1 => do
    let s ← get
    let enough ←
      if s.tokens.size ≥ s.parsed + 3 then
        match s.keysByToken.lookup s.parsed with
        | none => pure true
        | some level => pure (!(← keyStillPossible level))
      else pure false
    if !enough then
      fetchNext
      lookAhead 1
      fetchMore fuel

end Yaml

end Bourse
