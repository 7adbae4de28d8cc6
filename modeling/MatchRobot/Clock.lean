import MatchRobot.Number.Single

/-!
# The clock and what can go wrong

Time is counted in whole microseconds since power-on and fits 64 bits. Adding a span to an instant
is the only place where the clock can run out, so `Clock.after` is where that fault is raised.

A `Fault` ends the whole run of a program; it is no answer that a caller could handle.
-/

namespace MatchRobot

/-- Whole microseconds: an instant counted from power-on, or a span between two instants. -/
abbrev Micros := Nat

/-- Why a run of the program ends at once. -/
inductive Fault
  /-- An instant beyond the 64-bit clock. -/
  | clockOverflow
  /-- A number is limited to an interval whose ends are reversed or not comparable. -/
  | emptyInterval
  /-- The pulse period of a motor output is no positive number of microseconds. -/
  | noPeriod
  deriving Repr, DecidableEq

namespace Clock

/-- The first instant that the clock cannot show. -/
def limit : Micros :=
  UInt64.size

/-- The instant that comes `span` after `now`. -/
def after (now span : Micros) : Except Fault Micros :=
  if now + span < limit then .ok (now + span) else .error .clockOverflow

/-- A millisecond. -/
def millisecond : Micros :=
  1000

/-- A second. -/
def second : Micros :=
  1000000

/-- The span of a number of seconds; a negative number and `NaN` mean no time at all. -/
def seconds (x : Float32) : Micros :=
  Single.toCount (Single.greatest x 0 * 1000000)

end Clock

end MatchRobot
