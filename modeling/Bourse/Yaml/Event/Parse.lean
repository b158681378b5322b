import Bourse.Yaml.Event
import Bourse.Yaml.Token.Scan

/-!
# Parsing YAML tokens into events

The parser is a state machine over the token stream. Each state knows what may come next in
the construct being read: a document, a node, the entries of a block or flow sequence, the
keys and values of a block or flow mapping. It takes the tokens it needs, one event's worth at a
time, and reports a token that does not fit with the position of the construct it belongs to.

Tags are written with a handle (`!`, `!!` or one declared by a `%TAG` directive) that the
parser expands; `!!` stands for `tag:yaml.org,2002:`.
-/

namespace Bourse

namespace Yaml

/-- What the parser expects next. -/
inductive ParseState where
  | streamStart
  | implicitDocumentStart
  | documentStart
  | documentContent
  | documentEnd
  | blockNode
  | blockNodeOrIndentlessSequence
  | flowNode
  | blockSequenceFirstEntry
  | blockSequenceEntry
  | indentlessSequenceEntry
  | blockMappingFirstKey
  | blockMappingKey
  | blockMappingValue
  | flowSequenceFirstEntry
  | flowSequenceEntry
  | flowSequenceEntryMappingKey
  | flowSequenceEntryMappingValue
  | flowSequenceEntryMappingEnd
  | flowMappingFirstKey
  | flowMappingKey
  | flowMappingValue
  | flowMappingEmptyValue
  | finished
  deriving Repr, Inhabited, DecidableEq

/-- The state of the parser. -/
structure Parser where
  /-- The scanner it reads tokens from. -/
  scanner : Scanner
  /-- Whether the scanner has read far enough for the token at the parser's position. -/
  tokenAvailable : Bool
  /-- Whether the parser has taken the end of the stream. -/
  streamEnded : Bool
  /-- What it expects next. -/
  state : ParseState
  /-- What it expects after the constructs it is inside, innermost first. -/
  states : List ParseState
  /-- Where the collections it is inside started, innermost first. -/
  marks : List Mark
  /-- The tag handles known in the current document, with what they stand for. -/
  tagDirectives : List (String × String)
  deriving Repr, Inhabited

/-- Parsing: a state of the parser that may fail with a syntax error. -/
abbrev ParseM := StateT Parser (Except SyntaxError)

/-- The tag handles every document knows. -/
def defaultTagDirectives : List (String × String) := [("!", "!"), ("!!", "tag:yaml.org,2002:")]

namespace Parser

/-- A parser at the start of a text, of which the reader delivers `readable` characters. -/
def new (text : String) (readable : Option Nat) : Parser :=
  ⟨Scanner.new text readable, false, false, .streamStart, [], [], []⟩

end Parser

/-- The token at the parser's position, reading on as far as the scanner needs to. -/
def peekToken : ParseM Token := do
  let p ← get
  if !p.tokenAvailable then
    match (fetchMore (p.scanner.cursor.rest.length + 8)).run p.scanner with
    | .error e => throw (p.scanner.firstError e)
    | .ok ((), scanner) => set { p with scanner, tokenAvailable := true }
  let p ← get
  return p.scanner.tokens[p.scanner.parsed]?.getD default

/-- Takes the token at the parser's position. -/
def skipToken : ParseM Unit := do
  let p ← get
  let current := p.scanner.tokens[p.scanner.parsed]?.getD default
  set { p with tokenAvailable := false, streamEnded := current.kind == TokenKind.streamEnd,
               scanner := { p.scanner with parsed := p.scanner.parsed + 1 } }

/-- Fails with a parser error at a position. -/
def parseError {α : Type} (problem : String) (place : Mark) : ParseM α :=
  throw ⟨.parser, problem, none, place⟩

/-- Fails with a parser error inside a construct that started at `context`. -/
def parseErrorIn {α : Type} (context : Mark) (problem : String) (place : Mark) : ParseM α :=
  throw ⟨.parser, problem, some context, place⟩

/-- Sets what comes next. -/
def goTo (state : ParseState) : ParseM Unit := modify fun p => { p with state }

/-- Remembers what comes after the construct about to be read. -/
def pushState (state : ParseState) : ParseM Unit :=
  modify fun p => { p with states := state :: p.states }

/-- Returns to what comes after the construct just read. -/
def popState : ParseM Unit :=
  modify fun p => { p with state := p.states.headD .finished, states := p.states.tail }

/-- Remembers where a collection starts. -/
def pushMark (mark : Mark) : ParseM Unit := modify fun p => { p with marks := mark :: p.marks }

/-- Forgets where the innermost collection started, giving it. -/
def popMark : ParseM Mark := do
  let p ← get
  set { p with marks := p.marks.tail }
  return p.marks.headD default

/-- An event that starts and ends at one position. -/
def eventAt (kind : EventKind) (mark : Mark) : Event := ⟨kind, mark, mark⟩

/-- An empty plain scalar standing for a node left out. -/
def emptyScalar (mark : Mark) : Event := eventAt (.scalar "" "" "" .plain) mark

/-- Reads `%YAML` and `%TAG` directives before a document and adds the default tag handles. -/
def processDirectives : Nat → Bool → ParseM Unit
  | 0, _ => pure ()
  | fuel + 1, sawVersion => do
    let t ← peekToken
    match t.kind with
    | .versionDirective major minor =>
      if sawVersion then parseError "found duplicate %YAML directive" t.start
      if major != 1 || minor != 1 then parseError "found incompatible YAML document" t.start
      skipToken
      processDirectives fuel true
    | .tagDirective handle expansion =>
      if (← get).tagDirectives.any (·.1 == handle) then
        parseError "found duplicate %TAG directive" t.start
      modify fun p => { p with tagDirectives := p.tagDirectives ++ [(handle, expansion)] }
      skipToken
      processDirectives fuel sawVersion
    | _ =>
      modify fun p => { p with
        tagDirectives := p.tagDirectives ++
          defaultTagDirectives.filter fun d => !p.tagDirectives.any (·.1 == d.1) }

/-- The number of steps any loop over the rest of the tokens needs at most. -/
def tokenBound : ParseM Nat := do
  let p ← get
  return p.scanner.cursor.rest.length + p.scanner.tokens.size + 8

/-- Takes the start of the stream. -/
def parseStreamStart : ParseM Event := do
  let t ← peekToken
  if t.kind != .streamStart then parseError "did not find expected <stream-start>" t.start
  goTo .implicitDocumentStart
  skipToken
  return eventAt .streamStart t.start

/-- Skips `...` markers. -/
def skipDocumentEnds : Nat → ParseM Token
  | 0 => peekToken
  | fuel + 1 => do
    let t ← peekToken
    if t.kind == .documentEnd then
      skipToken
      skipDocumentEnds fuel
    else return t

/-- Starts a document, without a marker when `implicit` allows it, or ends the stream. -/
def parseDocumentStart (implicit : Bool) : ParseM Event := do
  let t ← if implicit then peekToken else skipDocumentEnds (← tokenBound)
  let isDirective := match t.kind with
    | .versionDirective .. | .tagDirective .. => true
    | _ => false
  if implicit && !isDirective && t.kind != .documentStart && t.kind != .streamEnd then
    processDirectives (← tokenBound) false
    pushState .documentEnd
    goTo .blockNode
    return eventAt (.documentStart true) t.start
  else if t.kind != .streamEnd then
    let start := t.start
    processDirectives (← tokenBound) false
    let t ← peekToken
    if t.kind != .documentStart then parseError "did not find expected <document start>" t.start
    pushState .documentEnd
    goTo .documentContent
    skipToken
    return ⟨.documentStart false, start, t.stop⟩
  else
    goTo .finished
    skipToken
    return ⟨.streamEnd, t.start, t.stop⟩

/-- Reads the content of an explicit document, which may be empty. -/
def parseDocumentContent (parseNode : ParseM Event) : ParseM Event := do
  let t ← peekToken
  match t.kind with
  | .versionDirective .. | .tagDirective .. | .documentStart | .documentEnd | .streamEnd =>
    popState
    return emptyScalar t.start
  | _ => parseNode

/-- Ends a document, taking its `...` marker if there is one. -/
def parseDocumentEnd : ParseM Event := do
  let t ← peekToken
  let explicit := t.kind == .documentEnd
  if explicit then skipToken
  modify fun p => { p with tagDirectives := [] }
  goTo .documentStart
  return ⟨.documentEnd (!explicit), t.start, if explicit then t.stop else t.start⟩

/-- The full tag of a handle and suffix, from the tag handles known. -/
def expandTag (start : Mark) (tagMark : Mark) (handle suffix : String) : ParseM String := do
  if handle.isEmpty then return suffix
  match (← get).tagDirectives.find? (·.1 == handle) with
  | some (_, expansion) => return expansion ++ suffix
  | none => parseErrorIn start "found undefined tag handle" tagMark

/-- Reads a node: an alias, or a scalar or collection with an optional anchor and tag. In a
block context a block collection may start here, and with `indentless` also a sequence whose
`-` entries are not indented past their key. -/
def parseNode (block indentless : Bool) : ParseM Event := do
  let t ← peekToken
  match t.kind with
  | .alias name =>
    popState
    skipToken
    return ⟨.alias name, t.start, t.stop⟩
  | _ =>
    let start := t.start
    -- an anchor and a tag, in either order
    let (anchor, tagParts, t) ← match t.kind with
      | .anchor name => do
        skipToken
        let t ← peekToken
        match t.kind with
        | .tag handle suffix =>
          skipToken
          pure (name, some (handle, suffix, t.start), ← peekToken)
        | _ => pure (name, none, t)
      | .tag handle suffix => do
        skipToken
        let t2 ← peekToken
        match t2.kind with
        | .anchor name =>
          skipToken
          pure (name, some (handle, suffix, t.start), ← peekToken)
        | _ => pure ("", some (handle, suffix, t.start), t2)
      | _ => pure ("", none, t)
    let tag ← match tagParts with
      | some (handle, suffix, tagMark) => expandTag start tagMark handle suffix
      | none => pure ""
    match t.kind with
    | .blockEntry =>
      if indentless then
        goTo .indentlessSequenceEntry
        return ⟨.sequenceStart anchor tag false, start, t.stop⟩
      else
        if !anchor.isEmpty || !tag.isEmpty then
          popState
          return eventAt (.scalar anchor tag "" .plain) start
        parseErrorIn start "did not find expected node content" t.start
    | .scalar value style =>
      popState
      skipToken
      return ⟨.scalar anchor tag value style, start, t.stop⟩
    | .flowSequenceStart =>
      goTo .flowSequenceFirstEntry
      return ⟨.sequenceStart anchor tag true, start, t.stop⟩
    | .flowMappingStart =>
      goTo .flowMappingFirstKey
      return ⟨.mappingStart anchor tag true, start, t.stop⟩
    | .blockSequenceStart =>
      if block then
        goTo .blockSequenceFirstEntry
        return ⟨.sequenceStart anchor tag false, start, t.stop⟩
      else if !anchor.isEmpty || !tag.isEmpty then
        popState
        return eventAt (.scalar anchor tag "" .plain) start
      else parseErrorIn start "did not find expected node content" t.start
    | .blockMappingStart =>
      if block then
        goTo .blockMappingFirstKey
        return ⟨.mappingStart anchor tag false, start, t.stop⟩
      else if !anchor.isEmpty || !tag.isEmpty then
        popState
        return eventAt (.scalar anchor tag "" .plain) start
      else parseErrorIn start "did not find expected node content" t.start
    | _ =>
      if !anchor.isEmpty || !tag.isEmpty then
        popState
        return eventAt (.scalar anchor tag "" .plain) start
      parseErrorIn start "did not find expected node content" t.start

/-- Reads an entry of a block sequence, or its end. -/
def parseBlockSequenceEntry (first : Bool) : ParseM Event := do
  if first then
    pushMark (← peekToken).start
    skipToken
  let t ← peekToken
  match t.kind with
  | .blockEntry =>
    let mark := t.stop
    skipToken
    let t ← peekToken
    if t.kind != .blockEntry && t.kind != .blockEnd then
      pushState .blockSequenceEntry
      parseNode true false
    else
      goTo .blockSequenceEntry
      return emptyScalar mark
  | .blockEnd =>
    popState
    let _ ← popMark
    skipToken
    return ⟨.sequenceEnd, t.start, t.stop⟩
  | _ =>
    let context ← popMark
    parseErrorIn context "did not find expected '-' indicator" t.start

/-- Reads an entry of a sequence whose entries stand at its key's indentation, or its end. -/
def parseIndentlessSequenceEntry : ParseM Event := do
  let t ← peekToken
  if t.kind == .blockEntry then
    let mark := t.stop
    skipToken
    let t ← peekToken
    if t.kind != .blockEntry && t.kind != .key && t.kind != .value && t.kind != .blockEnd then
      pushState .indentlessSequenceEntry
      parseNode true false
    else
      goTo .indentlessSequenceEntry
      return emptyScalar mark
  else
    popState
    return eventAt .sequenceEnd t.start

/-- Reads a key of a block mapping, or its end. -/
def parseBlockMappingKey (first : Bool) : ParseM Event := do
  if first then
    pushMark (← peekToken).start
    skipToken
  let t ← peekToken
  match t.kind with
  | .key =>
    let mark := t.stop
    skipToken
    let t ← peekToken
    if t.kind != .key && t.kind != .value && t.kind != .blockEnd then
      pushState .blockMappingValue
      parseNode true true
    else
      goTo .blockMappingValue
      return emptyScalar mark
  | .blockEnd =>
    popState
    let _ ← popMark
    skipToken
    return ⟨.mappingEnd, t.start, t.stop⟩
  | _ =>
    let context ← popMark
    parseErrorIn context "did not find expected key" t.start

/-- Reads a value of a block mapping, which may be left out. -/
def parseBlockMappingValue : ParseM Event := do
  let t ← peekToken
  if t.kind == .value then
    let mark := t.stop
    skipToken
    let t ← peekToken
    if t.kind != .key && t.kind != .value && t.kind != .blockEnd then
      pushState .blockMappingKey
      parseNode true true
    else
      goTo .blockMappingKey
      return emptyScalar mark
  else
    goTo .blockMappingKey
    return emptyScalar t.start

/-- Reads an entry of a flow sequence, or its end. An entry `key: value` is a mapping of one
pair. -/
def parseFlowSequenceEntry (first : Bool) : ParseM Event := do
  if first then
    pushMark (← peekToken).start
    skipToken
  let t ← peekToken
  let t ←
    if t.kind != .flowSequenceEnd && !first then
      if t.kind == .flowEntry then
        skipToken
        peekToken
      else
        let context ← popMark
        parseErrorIn context "did not find expected ',' or ']'" t.start
    else pure t
  if t.kind == .key then
    goTo .flowSequenceEntryMappingKey
    skipToken
    return ⟨.mappingStart "" "" true, t.start, t.stop⟩
  else if t.kind != .flowSequenceEnd then
    pushState .flowSequenceEntry
    parseNode false false
  else
    popState
    let _ ← popMark
    skipToken
    return ⟨.sequenceEnd, t.start, t.stop⟩

/-- Reads the key of a one-pair mapping inside a flow sequence. -/
def parseFlowSequenceEntryMappingKey : ParseM Event := do
  let t ← peekToken
  if t.kind != .value && t.kind != .flowEntry && t.kind != .flowSequenceEnd then
    pushState .flowSequenceEntryMappingValue
    parseNode false false
  else
    let mark := t.stop
    skipToken
    goTo .flowSequenceEntryMappingValue
    return emptyScalar mark

/-- Reads the value of a one-pair mapping inside a flow sequence. -/
def parseFlowSequenceEntryMappingValue : ParseM Event := do
  let t ← peekToken
  if t.kind == .value then
    skipToken
    let t ← peekToken
    if t.kind != .flowEntry && t.kind != .flowSequenceEnd then
      pushState .flowSequenceEntryMappingEnd
      parseNode false false
    else
      goTo .flowSequenceEntryMappingEnd
      return emptyScalar t.start
  else
    goTo .flowSequenceEntryMappingEnd
    return emptyScalar t.start

/-- Ends a one-pair mapping inside a flow sequence. -/
def parseFlowSequenceEntryMappingEnd : ParseM Event := do
  let t ← peekToken
  goTo .flowSequenceEntry
  return eventAt .mappingEnd t.start

/-- Reads a key of a flow mapping, or its end. -/
def parseFlowMappingKey (first : Bool) : ParseM Event := do
  if first then
    pushMark (← peekToken).start
    skipToken
  let t ← peekToken
  let t ←
    if t.kind != .flowMappingEnd && !first then
      if t.kind == .flowEntry then
        skipToken
        peekToken
      else
        let context ← popMark
        parseErrorIn context "did not find expected ',' or '\x7d'" t.start
    else pure t
  if t.kind == .key then
    skipToken
    let t ← peekToken
    if t.kind != .value && t.kind != .flowEntry && t.kind != .flowMappingEnd then
      pushState .flowMappingValue
      parseNode false false
    else
      goTo .flowMappingValue
      return emptyScalar t.start
  else if t.kind != .flowMappingEnd then
    pushState .flowMappingEmptyValue
    parseNode false false
  else
    popState
    let _ ← popMark
    skipToken
    return ⟨.mappingEnd, t.start, t.stop⟩

/-- Reads a value of a flow mapping; `empty` when the key stood alone. -/
def parseFlowMappingValue (empty : Bool) : ParseM Event := do
  let t ← peekToken
  if empty then
    goTo .flowMappingKey
    return emptyScalar t.start
  if t.kind == .value then
    skipToken
    let t ← peekToken
    if t.kind != .flowEntry && t.kind != .flowMappingEnd then
      pushState .flowMappingKey
      parseNode false false
    else
      goTo .flowMappingKey
      return emptyScalar t.start
  else
    goTo .flowMappingKey
    return emptyScalar t.start

/-- The next event; none after the end of the stream. -/
def nextEvent : ParseM (Option Event) := do
  let p ← get
  if p.streamEnded || p.state == .finished then return none
  match p.state with
  | .streamStart => some <$> parseStreamStart
  | .implicitDocumentStart => some <$> parseDocumentStart true
  | .documentStart => some <$> parseDocumentStart false
  | .documentContent => some <$> parseDocumentContent (parseNode true false)
  | .documentEnd => some <$> parseDocumentEnd
  | .blockNode => some <$> parseNode true false
  | .blockNodeOrIndentlessSequence => some <$> parseNode true true
  | .flowNode => some <$> parseNode false false
  | .blockSequenceFirstEntry => some <$> parseBlockSequenceEntry true
  | .blockSequenceEntry => some <$> parseBlockSequenceEntry false
  | .indentlessSequenceEntry => some <$> parseIndentlessSequenceEntry
  | .blockMappingFirstKey => some <$> parseBlockMappingKey true
  | .blockMappingKey => some <$> parseBlockMappingKey false
  | .blockMappingValue => some <$> parseBlockMappingValue
  | .flowSequenceFirstEntry => some <$> parseFlowSequenceEntry true
  | .flowSequenceEntry => some <$> parseFlowSequenceEntry false
  | .flowSequenceEntryMappingKey => some <$> parseFlowSequenceEntryMappingKey
  | .flowSequenceEntryMappingValue => some <$> parseFlowSequenceEntryMappingValue
  | .flowSequenceEntryMappingEnd => some <$> parseFlowSequenceEntryMappingEnd
  | .flowMappingFirstKey => some <$> parseFlowMappingKey true
  | .flowMappingKey => some <$> parseFlowMappingKey false
  | .flowMappingValue => some <$> parseFlowMappingValue false
  | .flowMappingEmptyValue => some <$> parseFlowMappingValue true
  | .finished => return none

end Yaml

end Bourse
