import Bourse.Yaml.Node
import Bourse.Text.Base64
import Bourse.Text.Quote
import Bourse.Time.DurationText

/-!
# Decoding YAML into typed values

A decoder reads a node into a value of its type, starting from the value already there. A node
that does not fit the type leaves the value as it was and adds a type error naming the node's
line, tag and text (cut to seven bytes when longer than ten) and the type; decoding goes on, and
the errors are reported together at the end. A few problems stop decoding at once: a scalar
whose explicit tag does not fit its text, malformed base64 under `!!binary`, and a merge key
whose value is not a mapping or a sequence of mappings.

Null leaves a scalar or a record as it was and clears a list. A mapping whose keys repeat
(two keys of one kind with one text) is not decoded; each repeat is an error.

A record takes a mapping: each key that names a field decodes its value into that field, a key
that names no field is passed over, and a field named twice (by keys of different kinds) is an
error. After the mapping's own keys, the merge key `<<` decodes its mapping, or each mapping of
its sequence in order, into the record as well. A merged mapping skips the keys the record's
own mapping gives and the keys an earlier merged mapping gave; the values it does decode are
decoded whole.

An alias decodes as the node it names. Following an alias from inside its own expansion would
never end, so it stops decoding: the anchor's value contains itself. Decoding also stops when
nearly every node it visits is reached through an alias, which is how a small document can
expand into a huge one: past a thousand visits, more than 99% of them through aliases (a share
that falls to 10% as the visits grow from 400 000 to 4 000 000).
-/

namespace Bourse

namespace Yaml

/-- The state of decoding: the type errors so far, while merging the keys already given, the
document's anchored nodes, the aliases being followed, and how many nodes were visited, in
all and through an alias. -/
structure DecodeState where
  /-- The type errors so far, in order. -/
  errors : Array String
  /-- While merging, the keys already given. -/
  merged : Option (List String)
  /-- The anchored nodes of the document, by number. -/
  anchored : Array Node
  /-- The aliases being followed, innermost first. -/
  following : List Nat
  /-- The nodes visited so far. -/
  visits : Nat
  /-- The visits made while following an alias. -/
  aliasVisits : Nat

/-- Decoding collects type errors; a failure stops it with a message. -/
abbrev DecodeM := StateT DecodeState (Except String)

/-- The share of visits that may come through aliases after `visits` visits: 99% up to
400 000 visits, 10% from 4 000 000, and in between a share falling in a straight line. -/
def allowedAliasShare (visits : Nat) : Float :=
  let high := Float.ofNat 99 / Float.ofNat 100
  if visits ≤ 400000 then high
  else if visits ≥ 4000000 then Float.ofNat 10 / Float.ofNat 100
  else high - Float.ofNat 89 / Float.ofNat 100 *
    (Float.ofNat (visits - 400000) / Float.ofNat 3600000)

/-- Counts a visit to a node, and stops decoding when too many visits come through aliases. -/
def visit : DecodeM Unit := do
  let s ← get
  let visits := s.visits + 1
  let aliasVisits := if s.following.isEmpty then s.aliasVisits else s.aliasVisits + 1
  set { s with visits, aliasVisits }
  if aliasVisits > 100 && visits > 1000 &&
      Float.ofNat aliasVisits / Float.ofNat visits > allowedAliasShare visits then
    throw "document contains excessive aliasing"

/-- The anchored node numbered `target`. -/
def anchoredNode (target : Nat) : DecodeM Node := do
  return (← get).anchored.getD target default

/-- Decodes the node an alias names with `decode`, while the alias is being followed. An
alias met again while it is being followed stops decoding. -/
def throughAlias {β : Type} (name : String) (id target : Nat) (decode : Node → DecodeM β) :
    DecodeM β := do
  let s ← get
  if s.following.contains id then throw ("anchor '" ++ name ++ "' value contains itself")
  set { s with following := id :: s.following }
  let result ← decode (s.anchored.getD target default)
  modify fun s => { s with following := s.following.erase id }
  return result

/-- A decoder reads a node into a value, given the value so far; `none` when the node does not
fit, which leaves the value as it was. The number bounds the depth of the node. -/
abbrev Decoder (α : Type) := Nat → Node → α → DecodeM (Option α)

/-- The failure for a node nested deeper than the fuel allows. -/
def tooDeep {α : Type} : DecodeM α := throw "document is too deep"

/-- How a type error shows a node's text: nothing for a collection, else in backquotes, cut to
seven bytes and `...` when it is longer than ten bytes. -/
def shownText (tag text : String) : String :=
  if tag == seqTag || tag == mapTag then ""
  else if text.utf8ByteSize > 10 then " `" ++ takeBytes 7 text ++ "...`"
  else " `" ++ text ++ "`"

/-- Records that a node does not fit a type; `formTag` stands for the node's tag when it has
none. -/
def typeError (node : Node) (formTag typeName : String) : DecodeM Unit :=
  let tag := if node.tag.isEmpty then formTag else node.tag
  let message := "line " ++ toString node.line ++ ": cannot unmarshal " ++ shortTag tag ++
    shownText tag node.value ++ " into " ++ typeName
  modify fun s => { s with errors := s.errors.push message }

/-- Records an error. -/
def addError (message : String) : DecodeM Unit :=
  modify fun s => { s with errors := s.errors.push message }

/-- What a scalar means when decoded: its tag and meaning. A `!!str` scalar is its text; a
`!!binary` scalar is the text of its base64 bytes. -/
def scalarMeaning (tag text : String) : DecodeM (String × ScalarValue) :=
  if tag == strTag then pure (strTag, .text text)
  else
    match resolve tag text with
    | .error problem => throw problem
    | .ok (found, meaning) =>
      if found == binaryTag then
        match decodeBase64 text with
        | some bytes => pure (binaryTag, .text (lossyText bytes))
        | none => throw "!!binary value contains invalid base64 data"
      else pure (found, meaning)

/-- Records an error for every key of a mapping that repeats an earlier one; the answer tells
whether there was any. -/
def repeatedKeys (entries : List (Node × Node)) : DecodeM Bool := do
  let keys := entries.map (·.1)
  let mut found := false
  for (first, i) in keys.zipIdx do
    for later in keys.drop (i + 1) do
      if first.sameKey later then
        addError ("line " ++ toString later.line ++ ": mapping key " ++ quoteText later.value ++
          " already defined at line " ++ toString first.line)
        found := true
  return found

/-- How a value type reads scalars: from the scalar node, its tag and its meaning (never null),
the value it stands for, or `none` when it does not fit. -/
abbrev ScalarReader (α : Type) := Node → String → ScalarValue → Option α

/-- A decoder of a value type that takes scalars only. Null leaves the value as it was unless
`onNull` gives one. -/
def scalarDecoder {α : Type} (typeName : String) (read : ScalarReader α) (onNull : Option α) :
    Decoder α
  | 0, _, _ => tooDeep
  | fuel + 1, node, current => do
    visit
    match node with
    | .alias name id target _ =>
      throughAlias name id target fun node => scalarDecoder typeName read onNull fuel node current
    | .scalar tag text _ _ => do
      let (found, meaning) ← scalarMeaning tag text
      match meaning with
      | .null => return onNull
      | _ =>
        match read node found meaning with
        | some value => return some value
        | none => typeError node found typeName; return none
    | .sequence .. => do typeError node seqTag typeName; return none
    | .mapping _ entries _ => do
      if ← repeatedKeys entries then return none
      typeError node mapTag typeName
      return none

/-- Text takes any scalar as written (the bytes of a `!!binary` one). -/
def readText : ScalarReader String := fun node found meaning =>
  match found, meaning with
  | "!!binary", .text bytes => some bytes
  | _, _ => some node.value

/-- Bytes take any scalar as written, and a `!!binary` one as the bytes it encodes, which need
not be UTF-8. -/
def readBytes : ScalarReader (List UInt8) := fun node found _ =>
  if found == binaryTag then decodeBase64 node.value else some node.value.toUTF8.toList

/-- The signed 64-bit value a double converts to: truncated toward zero, and the least value
when it lies outside the range. -/
def doubleToInt64 (x : Float) : Int :=
  let bound : Float := 9223372036854775808.0
  if x ≥ bound || x < -bound then -(Int.pow 2 63) else x.toInt64.toInt

/-- A signed 64-bit integer takes an integer in range, or a double up to `2^63`. -/
def readInteger : ScalarReader Int := fun _ _ meaning =>
  match meaning with
  | .int n => if n < Int.pow 2 63 then some n else none
  | .float x => if x ≤ 9223372036854775808.0 then some (doubleToInt64 x) else none
  | _ => none

/-- A duration takes text in duration form only. -/
def readDuration : ScalarReader Duration := fun _ _ meaning =>
  match meaning with
  | .text text => (Duration.ofText? text).toOption
  | _ => none

/-- The words that stand for true. -/
def yesWords : List String := ["y", "Y", "yes", "Yes", "YES", "on", "On", "ON"]

/-- The words that stand for false. -/
def noWords : List String := ["n", "N", "no", "No", "NO", "off", "Off", "OFF"]

/-- A truth value takes a truth value, or text that is a word for yes or no. -/
def readBool : ScalarReader Bool := fun _ _ meaning =>
  match meaning with
  | .bool b => some b
  | .text text => if yesWords.contains text then some true
    else if noWords.contains text then some false else none
  | _ => none

/-- The double nearest an integer. -/
def intToDouble (n : Int) : Float :=
  if n < 0 then -Float.ofNat n.natAbs else Float.ofNat n.natAbs

/-- A double takes an integer or a double. -/
def readDouble : ScalarReader Float := fun _ _ meaning =>
  match meaning with
  | .int n => some (intToDouble n)
  | .float x => some x
  | _ => none

/-- Decodes text. -/
def decodeText : Decoder String := scalarDecoder "string" readText none

/-- Decodes bytes. -/
def decodeBytes : Decoder (List UInt8) := scalarDecoder "string" readBytes none

/-- Decodes a list of texts: a sequence gives the items that decode as text, null clears the
list (`none`). -/
def decodeTextList : Decoder (Option (List String))
  | 0, _, _ => tooDeep
  | fuel + 1, node, current => do
    visit
    match node with
    | .alias name id target _ =>
      throughAlias name id target fun node => decodeTextList fuel node current
    | .scalar tag text _ _ => do
      let (_, meaning) ← scalarMeaning tag text
      match meaning with
      | .null => return some none
      | _ => typeError node "" "[]string"; return none
    | .sequence _ items _ => do
      let texts ← items.filterMapM fun item => decodeText fuel item ""
      return some (some texts)
    | .mapping _ entries _ => do
      if ← repeatedKeys entries then return none
      typeError node mapTag "[]string"
      return none

/-- A field of a record: the key that names it and how a node decodes into the record through
it. -/
structure RecordField (α : Type) where
  /-- The key naming the field. -/
  key : String
  /-- Decodes a node into the record through the field. -/
  decode : Decoder α

/-- A field holding a value that `decoder` decodes. -/
def RecordField.of {α β : Type} (key : String) (decoder : Decoder β) (read : α → β)
    (write : α → β → α) : RecordField α :=
  ⟨key, fun fuel node record => do
    match ← decoder fuel node (read record) with
    | some value => return some (write record value)
    | none => return none⟩

/-- Whether a key is the merge key. -/
def isMergeKey (key : Node) : Bool :=
  match key with
  | .scalar tag "<<" _ _ => tag == mergeTag
  | _ => false

/-- The text a mapping key stands for when it is text. -/
def keyText : Nat → Node → DecodeM (Option String)
  | 0, _ => tooDeep
  | fuel + 1, node => do
    visit
    match node with
    | .alias name id target _ => throughAlias name id target fun node => keyText fuel node
    | .scalar tag text _ _ => do
      match ← scalarMeaning tag text with
      | (_, .text value) => return some value
      | (_, .timestamp) => return some text
      | _ => return none
    | _ => return none

/-- The failure for a merge key whose value is not a mapping or a sequence of mappings. -/
def mergeFailure {α : Type} : DecodeM α :=
  throw "map merge requires map or sequence of maps as the value"

/-- Checks that a node can be merged: a mapping, or an alias naming one. -/
def checkMergeable (node : Node) : DecodeM Unit := do
  match node with
  | .mapping .. => pure ()
  | .alias _ _ target _ =>
    match ← anchoredNode target with
    | .mapping .. => pure ()
    | _ => mergeFailure
  | _ => mergeFailure

/-- Decodes a record of the named type from its fields. -/
def decodeRecord {α : Type} (typeName : String) (fields : List (RecordField α)) : Decoder α
  | 0, _, _ => tooDeep
  | fuel + 1, node, current => do
    visit
    match node with
    | .alias name id target _ =>
      throughAlias name id target fun node => decodeRecord typeName fields fuel node current
    | .scalar tag text _ _ => do
      let (found, meaning) ← scalarMeaning tag text
      match meaning with
      | .null => return none
      | _ => typeError node found typeName; return none
    | .sequence .. => do typeError node seqTag typeName; return none
    | .mapping _ entries _ => do
      if ← repeatedKeys entries then return none
      -- the keys given before this mapping, when it is being merged; values are decoded whole
      let mut given := (← get).merged
      modify fun s => { s with merged := none }
      let mut record := current
      let mut named : List String := []
      let mut mergeValue : Option Node := none
      for (key, value) in entries do
        if isMergeKey key then mergeValue := some value
        else
          match ← decodeText fuel key "" with
          | none => pure ()
          | some name =>
            if !(given.map (·.contains name)).getD false then
              given := given.map (name :: ·)
              match fields.find? (·.key == name) with
              | none => pure ()
              | some field =>
                if named.contains name then
                  addError ("line " ++ toString key.line ++ ": field " ++ name ++
                    " already set in type " ++ typeName)
                else
                  named := name :: named
                  record := (← field.decode fuel value record).getD record
      modify fun s => { s with merged := given }
      match mergeValue with
      | none => return some record
      | some source =>
        if given.isNone then
          let keys ← entries.filterMapM fun (k, _) => keyText fuel k
          modify fun s => { s with merged := some keys }
        match source with
        | .mapping .. | .alias .. =>
          checkMergeable source
          record := (← decodeRecord typeName fields fuel source record).getD record
        | .sequence _ items _ =>
          for item in items do
            checkMergeable item
            record := (← decodeRecord typeName fields fuel item record).getD record
        | _ => mergeFailure
        if given.isNone then modify fun s => { s with merged := none }
        return some record

/-- Decodes a text's first document with a decoder, starting from a value; a text with no
document leaves the value as it was. The message of a failure is as YAML reports it. -/
def decodeDocument {α : Type} (decoder : Decoder α) (text : String) (start : α) :
    Except String α :=
  match loadFirstDocument text with
  | .error e => .error e.message
  | .ok none => .ok start
  | .ok (some document) =>
    let fuel := (text.length + 4) * (text.length + 4)
    match (decoder fuel document.root start).run ⟨#[], none, document.anchored, [], 1, 0⟩ with
    | .error problem => .error ("yaml: " ++ problem)
    | .ok (result, state) =>
      if state.errors.isEmpty then .ok (result.getD start)
      else .error ("yaml: unmarshal errors:\n  " ++ "\n  ".intercalate state.errors.toList)

end Yaml

end Bourse
