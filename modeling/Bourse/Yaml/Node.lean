import Bourse.Yaml.Event.Parse
import Bourse.Yaml.Scalar

/-!
# YAML documents as trees

Composing turns the events of the first document into a tree of nodes. Each node keeps its
short tag and the line where it starts, counted from one. A node without a tag gets one from its
form: a quoted or block scalar is text, a plain scalar gets the tag its text resolves to (the
merge key `<<` gets `!!merge`), and collections are `!!seq` and `!!map`.

An anchor names the node it stands on from the moment the node starts, so an alias met inside
the node refers to that very node, which then contains itself. Anchored nodes are numbered in
the order they start, and a document keeps each one under its number; an alias keeps the number
of the node it refers to and a number of its own, so that decoding can tell when it is
following an alias it is already inside. An anchor name that was never given stops the
loading.

Only the text up to the end of the first document is read; the rest of the stream is not
looked at beyond what the scanner reads ahead.
-/

namespace Bourse

namespace Yaml

/-- A node of a document, with its tag and the line where it starts. -/
inductive Node where
  /-- A scalar with its text and the way it was written. -/
  | scalar (tag value : String) (style : ScalarStyle) (line : Nat)
  /-- A sequence of nodes. -/
  | sequence (tag : String) (items : List Node) (line : Nat)
  /-- A mapping, as its key and value pairs in order. -/
  | mapping (tag : String) (entries : List (Node × Node)) (line : Nat)
  /-- A reference by anchor name to the anchored node numbered `target`; `id` tells this alias
  from every other one in the document. -/
  | alias (name : String) (id target : Nat) (line : Nat)
  deriving Repr, Inhabited

namespace Node

/-- The line where a node starts. -/
def line : Node → Nat
  | .scalar _ _ _ line | .sequence _ _ line | .mapping _ _ line | .alias _ _ _ line => line

/-- The tag of a node; an alias has none. -/
def tag : Node → String
  | .scalar tag .. | .sequence tag .. | .mapping tag .. => tag
  | .alias .. => ""

/-- The text of a node: a scalar's text, an alias's anchor name, nothing for a collection. -/
def value : Node → String
  | .scalar _ value .. => value
  | .alias name .. => name
  | _ => ""

/-- The kinds of node, numbered so that two nodes of one kind compare equal. -/
def kindCode : Node → Nat
  | .scalar .. => 0
  | .sequence .. => 1
  | .mapping .. => 2
  | .alias .. => 3

/-- Whether two nodes are of one kind and have one text, which makes them the same mapping
key. -/
def sameKey (a b : Node) : Bool := a.kindCode == b.kindCode && a.value == b.value

end Node

/-- Why a text could not be loaded. -/
inductive LoadError where
  /-- The text breaks YAML's grammar. -/
  | malformed (error : SyntaxError)
  /-- The text is well-formed but cannot be loaded. -/
  | failure (problem : String)
  deriving Repr, Inhabited

/-- The message of a loading error. -/
def LoadError.message : LoadError → String
  | .malformed error => error.message
  | .failure problem => "yaml: " ++ problem

/-- A composed document: its root, and the nodes that anchors stand on, by number. -/
structure Document where
  /-- The root node. -/
  root : Node
  /-- The anchored nodes, numbered in the order they start. -/
  anchored : Array Node

/-- The state of composing: the parser, the event looked at but not yet taken, the anchors
given so far, newest first, each with the number of the node it stands on, and the anchored
nodes by number. -/
structure Composer where
  /-- The parser giving the events. -/
  parser : Parser
  /-- The event looked at and not yet taken. -/
  pending : Option Event
  /-- Anchor names with their node's number. -/
  anchors : List (String × Nat)
  /-- The anchored nodes by number, each as far as it is known. -/
  anchored : Array Node
  /-- The number the next alias gets. -/
  aliases : Nat

/-- Composing may fail with a loading error. -/
abbrev ComposeM := StateT Composer (Except LoadError)

/-- The next event, left in place. -/
def peekEvent : ComposeM Event := do
  let c ← get
  match c.pending with
  | some event => return event
  | none =>
    match nextEvent.run c.parser with
    | .error e => throw (.malformed e)
    | .ok (none, _) => throw (.failure "attempted to go past the end of stream; corrupted value?")
    | .ok (some event, parser) =>
      set { c with parser, pending := some event }
      return event

/-- Takes the event looked at. -/
def takeEvent : ComposeM Unit := modify fun c => { c with pending := none }

/-- Takes the next event, which must be of the kind named; the end of the stream is never
expected. -/
def expectEvent (name : String) : ComposeM Unit := do
  let event ← peekEvent
  if event.kind == .streamEnd then
    throw (.failure "attempted to go past the end of stream; corrupted value?")
  if event.kind.name != name then
    throw (.failure ("expected " ++ name ++ " event but got " ++ event.kind.name))
  takeEvent

/-- The tag of a node: an explicit tag (other than the non-specific `!`) in short form, or
else the tag its form gives. -/
def nodeTag (explicit formTag : String) : String :=
  if explicit != "" && explicit != "!" then shortTag explicit else formTag

/-- Lets an anchor name a node as far as it is known; the empty name gives no anchor. The
answer is the number the node gets. -/
def giveAnchor (name : String) (node : Node) : ComposeM Nat := do
  let c ← get
  let number := c.anchored.size
  if name.isEmpty then return number
  set { c with anchors := (name, number) :: c.anchors, anchored := c.anchored.push node }
  return number

/-- Records the finished node that the anchor numbered `number` stands on. -/
def finishAnchor (number : Nat) (node : Node) : ComposeM Unit :=
  modify fun c => { c with anchored := c.anchored.set! number node }

/-- The number of the node an anchor name refers to. -/
def anchored (name : String) : ComposeM Nat := do
  match (← get).anchors.find? (·.1 == name) with
  | some (_, number) => return number
  | none => throw (.failure ("unknown anchor '" ++ name ++ "' referenced"))

/-- A fresh number for an alias. -/
def nextAlias : ComposeM Nat := do
  let c ← get
  set { c with aliases := c.aliases + 1 }
  return c.aliases

/-- Collects nodes until the event that ends the collection, taken as well. Each step
composes one node (or a key and its value) with `item`. -/
def collectUntil {α : Type} (isEnd : EventKind → Bool) (item : ComposeM α) :
    Nat → List α → ComposeM (List α)
  | 0, _ => throw (.failure "document is too long")
  | steps + 1, found => do
    let event ← peekEvent
    if isEnd event.kind then
      takeEvent
      return found.reverse
    else
      let next ← item
      collectUntil isEnd item steps (next :: found)

/-- Composes the node whose events come next. The fuel bounds the depth and the length of each
collection. -/
def composeNode : Nat → ComposeM Node
  | 0 => throw (.failure "document is too deep")
  | fuel + 1 => do
    let event ← peekEvent
    let line := event.start.line + 1
    match event.kind with
    | .scalar anchor tag value style =>
      let formTag :=
        if style != .plain then strTag else if value == "<<" then mergeTag else plainTag value
      let node := Node.scalar (nodeTag tag formTag) value style line
      let _ ← giveAnchor anchor node
      takeEvent
      return node
    | .alias name =>
      let target ← anchored name
      let id ← nextAlias
      takeEvent
      return .alias name id target line
    | .sequenceStart anchor tag _ =>
      let tag := nodeTag tag seqTag
      let number ← giveAnchor anchor (.sequence tag [] line)
      takeEvent
      let items ← collectUntil (· == .sequenceEnd) (composeNode fuel) fuel []
      let node := Node.sequence tag items line
      if !anchor.isEmpty then finishAnchor number node
      return node
    | .mappingStart anchor tag _ =>
      let tag := nodeTag tag mapTag
      let number ← giveAnchor anchor (.mapping tag [] line)
      takeEvent
      let entry : ComposeM (Node × Node) := do
        let key ← composeNode fuel
        let value ← composeNode fuel
        return (key, value)
      let entries ← collectUntil (· == .mappingEnd) entry fuel []
      let node := Node.mapping tag entries line
      if !anchor.isEmpty then finishAnchor number node
      return node
    | other => throw (.failure ("attempted to parse unexpected event " ++ other.name))

/-- The byte order mark a text may start with. -/
def byteOrderMark : Char := Char.ofNat 0xFEFF

/-- A text's first document, or `none` when the stream has no document. The empty text reads
as a single line break, and a leading byte order mark is dropped. Characters YAML does not allow
stop loading only when the scanner reaches the reader's batch that holds them. -/
def loadFirstDocument (text : String) : Except LoadError (Option Document) :=
  let text := if text.isEmpty then "\n" else text
  let readable := readableChars text
  let (text, readable) := match text.toList with
    | c :: rest =>
      if c == byteOrderMark then (String.ofList rest, readable.map (· - 1)) else (text, readable)
    | [] => (text, readable)
  let fuel := 4 * text.length + 16
  let run : ComposeM (Option Document) := do
    expectEvent "STREAM-START"
    let event ← peekEvent
    match event.kind with
    | .documentStart _ =>
      takeEvent
      let root ← composeNode fuel
      expectEvent "DOCUMENT-END"
      return some ⟨root, (← get).anchored⟩
    | _ => return none
  run.run' ⟨Parser.new text readable, none, [], #[], 0⟩

end Yaml

end Bourse
