/-
# Clocks

Two kinds of clock drive a desk.  A manual clock stands still until it is set.  A following
clock moves with elapsed time, counted in whole milliseconds, from the moment at which it
was started; past the end of the calendar it has no reading.
-/

import SupportDesk.Calendar.Moment

namespace SupportDesk

/-- A source of the present moment. -/
inductive Clock
  /-- Stands at a moment. -/
  | manual (now : Moment)
  /-- Moves with elapsed time from a starting moment. -/
  | following (start : Moment)
deriving DecidableEq, Repr

namespace Clock

/-- The reading after a number of elapsed milliseconds. -/
def read (c : Clock) (elapsed : Nat) : Except TimeError Moment :=
  match c with
  | manual now => .ok now
  | following start => start.add (.ofMillis elapsed)

/-- The date on which clocks are set by time of day alone. -/
def referenceDate? : Option Date := Date.ofCivil? 2023 10 10

/-- The moment of a time of day, in hours and minutes, on the reference date. -/
def referenceMoment? (hour minute : Nat) : Option Moment := do
  let date ← referenceDate?
  let time ← TimeOfDay.ofClock? hour minute 0 0
  some ⟨date, time⟩

end Clock

end SupportDesk
