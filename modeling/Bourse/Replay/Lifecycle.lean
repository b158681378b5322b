import Bourse.Time.Instant

/-!
# Replay lifecycle

A replay announces when it starts and when it stops; the stop says how many rows were applied
and, when a source failed, why.
-/

namespace Bourse

/-- The moments of a replay that are announced. -/
inductive LifecycleType where
  | started
  | stopped
  deriving DecidableEq, Repr, Inhabited

namespace LifecycleType

/-- The number of the moment, from 1. -/
def code : LifecycleType → Int
  | .started => 1
  | .stopped => 2

/-- The moment with a number, if any. -/
def ofCode? : Int → Option LifecycleType
  | 1 => some .started
  | 2 => some .stopped
  | _ => none

/-- The name: `SIMULATION_STARTED` or `SIMULATION_STOPPED`. -/
def name : LifecycleType → String
  | .started => "SIMULATION_STARTED"
  | .stopped => "SIMULATION_STOPPED"

/-- The name of a moment number: `UNKNOWN` when no moment has it. -/
def nameOfCode (code : Int) : String := ((ofCode? code).map name).getD "UNKNOWN"

end LifecycleType

/-- An announcement of a replay. -/
structure Lifecycle where
  /-- Start or stop. -/
  type : LifecycleType
  /-- When; zero when not known. -/
  moment : Instant
  /-- The rows applied, for a stop. -/
  rows : Nat
  /-- Why the replay stopped early, for a stop. -/
  error : Option String
  deriving Repr, Inhabited

end Bourse
