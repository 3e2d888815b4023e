/-
# The shift schedule

A schedule is a task that wakes at every boundary time of day.  Each day it goes through
the boundaries in order, skipping those that are already past, and after the last one it
waits for midnight.  It ends by itself when the calendar has no next day.

The task is a state with two transitions: `arm`, which looks at the clock and decides what
to wait for, and `wake`, which is what happens when the wait is over.  Waits are counted
in whole elapsed milliseconds, rounded up.
-/

import SupportDesk.Calendar.Clock

namespace SupportDesk

namespace ShiftSchedule

/-- What a wait of the schedule is for. -/
inductive Target
  /-- A boundary; the boundaries listed after it are still to come today. -/
  | boundary (rest : List TimeOfDay)
  /-- The start of the next day. -/
  | midnight
deriving DecidableEq, Repr

/-- The next wait of a schedule: the instant at which it is to end, and its target. -/
structure Wait where
  instant : Moment
  target : Target
deriving DecidableEq, Repr

/-- The next wait at a moment, with the given boundaries to come today.  There is none if
the calendar ends first. -/
def nextWait? (now : Moment) : List TimeOfDay → Option Wait
  | [] => now.nextMidnight?.map fun instant => ⟨instant, .midnight⟩
  | time :: rest =>
    let instant : Moment := ⟨now.date, time⟩
    if instant < now then nextWait? now rest else some ⟨instant, .boundary rest⟩

/-- The stages of the task. -/
inductive Stage
  /-- Made, but not yet begun. -/
  | idle
  /-- Waiting until an elapsed time. -/
  | waiting (deadline : Nat) (target : Target)
  /-- Ended. -/
  | finished
deriving DecidableEq, Repr

end ShiftSchedule

/-- A task that wakes at boundary times of day, given in increasing order. -/
structure ShiftSchedule where
  times : List TimeOfDay
  stage : ShiftSchedule.Stage
deriving DecidableEq, Repr

namespace ShiftSchedule

/-- A schedule for the given times, in any order, that has not begun. -/
def ofTimes (times : List TimeOfDay) : ShiftSchedule := ⟨TimeOfDay.sortedDistinct times, .idle⟩

/-- Looks at the clock and starts the next wait.  A clock without a reading ends the task. -/
def arm (s : ShiftSchedule) (clock : Clock) (elapsed : Nat) (today : List TimeOfDay) :
    ShiftSchedule :=
  match clock.read elapsed with
  | .error _ => { s with stage := .finished }
  | .ok now =>
    match nextWait? now today with
    | some wait =>
      { s with stage := .waiting (elapsed + (wait.instant.since now).coveringMillis) wait.target }
    | none => { s with stage := .finished }

/-- Starts a task that has not begun. -/
def begin (s : ShiftSchedule) (clock : Clock) (elapsed : Nat) : ShiftSchedule :=
  match s.stage with
  | .idle => s.arm clock elapsed s.times
  | _ => s

/-- The boundaries to come once a wait is over. -/
def comingAfter (s : ShiftSchedule) : Target → List TimeOfDay
  | .boundary rest => rest
  | .midnight => s.times

/-- Ends the task. -/
def cancel (s : ShiftSchedule) : ShiftSchedule := { s with stage := .finished }

/-- Whether the task has ended. -/
def isFinished (s : ShiftSchedule) : Bool := s.stage == .finished

/-- The elapsed time at which the task wakes next, with what it waits for. -/
def alarm? (s : ShiftSchedule) : Option (Nat × Target) :=
  match s.stage with
  | .waiting deadline target => some (deadline, target)
  | _ => none

/-- The elapsed times before an end at which the boundary callback runs, with the task as
it is left.  The callback takes no time.  The fuel bounds the number of waits. -/
def runBefore (clock : Clock) (stop : Nat) : Nat → ShiftSchedule → List Nat × ShiftSchedule
  | 0, s => ([], s)
  | fuel + 1, s =>
    match s.alarm? with
    | some (deadline, target) =>
      if deadline < stop then
        let (fired, done) := runBefore clock stop fuel (s.arm clock deadline (s.comingAfter target))
        match target with
        | .boundary _ => (deadline :: fired, done)
        | .midnight => (fired, done)
      else ([], s)
    | none => ([], s)

/-- A number of waits that no run over the given elapsed milliseconds exceeds: at one
reading of the clock at most one wait has no length. -/
def waitBound (span : Nat) : Nat := 2 * span + 4

end ShiftSchedule

end SupportDesk
