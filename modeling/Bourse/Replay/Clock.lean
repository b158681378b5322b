import Bourse.Time.Instant

/-!
# Simulation clocks

A replay moves a simulation clock to the time of each row it applies. A clock that is enabled
and has been moved tells the simulation time; otherwise the time comes from outside: the wall
clock, or the time an event already carries.
-/

namespace Bourse

/-- A simulation clock. -/
structure SimClock where
  /-- Whether the simulation time is used. -/
  enabled : Bool
  /-- The simulation time; zero until the clock is moved. -/
  time : Instant
  deriving Repr, Inhabited

namespace SimClock

/-- A clock that has not been moved. -/
def new (enabled : Bool) : SimClock := ⟨enabled, Instant.zero⟩

/-- Moves the clock to an instant. -/
def set (clock : SimClock) (moment : Instant) : SimClock := { clock with time := moment }

/-- The simulation time, and whether the clock has been moved to a time other than zero. -/
def read (clock : SimClock) : Instant × Bool := (clock.time, !clock.time.isZero)

/-- Whether the clock tells the simulation time. -/
def active (clock : SimClock) : Bool := clock.enabled && !clock.time.isZero

/-- The time now: the simulation time when the clock is active, else the wall clock's. -/
def now (clock : SimClock) (wall : Instant) : Instant := if clock.active then clock.time else wall

/-- The time to stamp on something that says `moment`: the simulation time when the clock is
active, else `moment`, or the wall clock's time when `moment` is zero. -/
def stamp (clock : SimClock) (moment wall : Instant) : Instant :=
  if clock.active then clock.time else if moment.isZero then wall else moment

end SimClock

end Bourse
