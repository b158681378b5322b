import Bourse.Yaml.Token

/-!
# YAML events

Parsing turns tokens into events: the start and end of the stream and of each document, and of
each sequence and mapping, scalars and aliases. A mapping's events alternate between keys and
values; a key or value left out in the text comes as an empty plain scalar.
-/

namespace Bourse

namespace Yaml

/-- What an event is. -/
inductive EventKind where
  | streamStart
  | streamEnd
  /-- A document starts; `implicit` when no `---` marker opened it. -/
  | documentStart (implicit : Bool)
  /-- A document ends; `implicit` when no `...` marker closed it. -/
  | documentEnd (implicit : Bool)
  /-- A reference to an anchored node. -/
  | alias (anchor : String)
  /-- A scalar with its anchor and tag (empty when absent). -/
  | scalar (anchor tag value : String) (style : ScalarStyle)
  /-- A sequence starts, with its anchor and tag; `flow` for the bracketed form. -/
  | sequenceStart (anchor tag : String) (flow : Bool)
  | sequenceEnd
  /-- A mapping starts, with its anchor and tag; `flow` for the braced form. -/
  | mappingStart (anchor tag : String) (flow : Bool)
  | mappingEnd
  deriving Repr, Inhabited, DecidableEq

/-- An event with the positions where it starts and ends. -/
structure Event where
  /-- What it is. -/
  kind : EventKind
  /-- Where it starts. -/
  start : Mark
  /-- Where it ends. -/
  stop : Mark
  deriving Repr, Inhabited

/-- The name of a kind of event, as messages give it. -/
def EventKind.name : EventKind → String
  | .streamStart => "STREAM-START"
  | .streamEnd => "STREAM-END"
  | .documentStart _ => "DOCUMENT-START"
  | .documentEnd _ => "DOCUMENT-END"
  | .alias _ => "ALIAS"
  | .scalar .. => "SCALAR"
  | .sequenceStart .. => "SEQUENCE-START"
  | .sequenceEnd => "SEQUENCE-END"
  | .mappingStart .. => "MAPPING-START"
  | .mappingEnd => "MAPPING-END"

end Yaml

end Bourse
