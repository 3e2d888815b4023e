/-
# The schedule as a task

A schedule is driven by a clock while time passes.  It begins at the first chance and fires
at its boundaries, until it ends by itself, is cancelled or is shut down.  A cancelled task
notices at its next chance, and a shut down one has ended at once.
-/

import SupportDesk.Shift.Schedule

namespace SupportDesk

/-- A schedule with its clock and the milliseconds that have passed. -/
structure ShiftTask where
  clock : Clock
  elapsed : Nat
  schedule : ShiftSchedule
  cancelled : Bool
  /-- Whether the task has been shut down. -/
  stopped : Bool
deriving DecidableEq, Repr

namespace ShiftTask

/-- A task for the given times, in any order, that has not begun. -/
def start (clock : Clock) (times : List TimeOfDay) : ShiftTask :=
  ⟨clock, 0, .ofTimes times, false, false⟩

/-- Lets a number of milliseconds pass, and gives the elapsed times at which the task fires.
What is due at the very end happens when time goes on. -/
def sleep (t : ShiftTask) (ms : Nat) : List Nat × ShiftTask :=
  if ms = 0 then ([], t)
  else
    let last := t.elapsed + ms
    let schedule := if t.cancelled then t.schedule.cancel else t.schedule.begin t.clock t.elapsed
    let (fired, schedule) :=
      ShiftSchedule.runBefore t.clock last (ShiftSchedule.waitBound ms) schedule
    (fired, { t with schedule, elapsed := last })

/-- The present moment. -/
def now (t : ShiftTask) : Except TimeError Moment := t.clock.read t.elapsed

/-- Moves a manual clock to a moment. -/
def setClock (t : ShiftTask) (now : Moment) : ShiftTask := { t with clock := .manual now }

/-- Tells the task to end. -/
def cancel (t : ShiftTask) : ShiftTask := { t with cancelled := true }

/-- Ends the task. -/
def shutdown (t : ShiftTask) : ShiftTask :=
  { t with cancelled := true, stopped := true, schedule := t.schedule.cancel }

end ShiftTask

end SupportDesk
