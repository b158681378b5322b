import Bourse.Log.Field

/-!
# Alerts

An alert is a notice for operators: a level, a message and fields. Alerts about the same
matter share a scope: the level, the message, and the values of the `symbol` and `subscriber`
fields when present. Throttling works per scope.
-/

namespace Bourse

/-- How urgent an alert is, by name. Senders may name any level; these four are the usual ones. -/
structure AlertLevel where
  /-- The level's name. -/
  name : String
  deriving DecidableEq, Repr, Inhabited

namespace AlertLevel

/-- For information. -/
def info : AlertLevel := ⟨"INFO"⟩

/-- Something may need attention. -/
def warning : AlertLevel := ⟨"WARNING"⟩

/-- Something failed. -/
def error : AlertLevel := ⟨"ERROR"⟩

/-- Something failed and needs attention now. -/
def critical : AlertLevel := ⟨"CRITICAL"⟩

end AlertLevel

/-- An alert for operators. -/
structure Alert where
  /-- How urgent it is. -/
  level : AlertLevel
  /-- What happened. -/
  message : String
  /-- When it happened; zero when the sender did not say. -/
  timestamp : Instant
  /-- The details. -/
  fields : List Field
  deriving Repr, Inhabited

end Bourse
