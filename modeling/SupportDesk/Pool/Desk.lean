/-
# A running desk

A desk is a pool with its clock and its background tasks.  While the desk runs, a sweep is
made as soon as the tasks begin and then every second, and the shift schedule wakes at
every shift boundary.  Tasks act only while time passes, that is during `sleep`.

An arithmetic error inside a background task ends that task and nothing else.
-/

import SupportDesk.Pool.Basic
import SupportDesk.Shift.Schedule

namespace SupportDesk

/-- The stages of the periodic sweep. -/
inductive SweepTask
  /-- Made, but not yet begun. -/
  | idle
  /-- The next sweep is due at an elapsed time. -/
  | due (deadline : Nat)
  /-- Ended by an arithmetic error. -/
  | dead
deriving DecidableEq, Repr

/-- The two background tasks of a running desk. -/
structure DeskTasks where
  sweep : SweepTask
  schedule : ShiftSchedule
deriving DecidableEq, Repr

/-- A pool, its clock, the time elapsed since the clock was started, and the background
tasks if the desk is running. -/
structure Desk where
  pool : Pool
  clock : Clock
  elapsed : Nat
  tasks : Option DeskTasks
deriving DecidableEq, Repr

namespace Desk

/-- Milliseconds between two sweeps. -/
def sweepPeriod : Nat := 1000

/-- The present moment. -/
def now (d : Desk) : Except TimeError Moment := d.clock.read d.elapsed

/-- A desk that is not running. -/
def ofSettings (settings : PoolSettings) (clock : Clock) : Except TimeError Desk :=
  (clock.read 0).map fun now => ⟨.ofSettings settings now, clock, 0, none⟩

/-- Whether the background tasks exist. -/
def isRunning (d : Desk) : Bool := d.tasks.isSome

/-- Makes the background tasks; a running desk is not changed. -/
def start (d : Desk) : Desk :=
  match d.tasks with
  | some _ => d
  | none =>
    { d with
      tasks := some (⟨.idle, .ofTimes d.pool.allocation.shiftBoundaries⟩ : DeskTasks) }

/-- Ends the background tasks. -/
def shutdown (d : Desk) : Desk := { d with tasks := none }

/-- One background sweep, with the task's next deadline. -/
def runSweep (d : Desk) (tasks : DeskTasks) : Desk :=
  match d.now with
  | .error _ => { d with tasks := some { tasks with sweep := .dead } }
  | .ok now =>
    let result := d.pool.sweep now
    let task := match result.fault with
      | some _ => .dead
      | none => .due (d.elapsed + sweepPeriod)
    { d with pool := result.pool, tasks := some { tasks with sweep := task } }

/-- One waking of the shift schedule. -/
def runAlarm (d : Desk) (tasks : DeskTasks) (target : ShiftSchedule.Target) : Desk :=
  match d.now with
  | .error _ => { d with tasks := some { tasks with schedule := tasks.schedule.cancel } }
  | .ok now =>
    let pool := match target with
      | .boundary _ => d.pool.shiftChanged now
      | .midnight => d.pool
    let schedule := tasks.schedule.arm d.clock d.elapsed (tasks.schedule.comingAfter target)
    { d with pool, tasks := some { tasks with schedule } }

/-- Makes the first sweep of a task that has not begun. -/
def beginSweep (d : Desk) : Desk :=
  match d.tasks with
  | none => d
  | some tasks => if tasks.sweep = SweepTask.idle then d.runSweep tasks else d

/-- Starts the first wait of a schedule that has not begun. -/
def beginSchedule (d : Desk) : Desk :=
  match d.tasks with
  | none => d
  | some tasks =>
    { d with tasks := some { tasks with schedule := tasks.schedule.begin d.clock d.elapsed } }

/-- Lets tasks that were made begin: the sweep acts at once, and the schedule starts its
first wait. -/
def beginTasks (d : Desk) : Desk := (d.beginSweep).beginSchedule

/-- What happens next in the background. -/
inductive Event
  | sweep
  | alarm (target : ShiftSchedule.Target)
deriving DecidableEq, Repr

/-- The next background event and its elapsed time; of two at one time the sweep is first. -/
def nextEvent? (tasks : DeskTasks) : Option (Nat × Event) :=
  match tasks.sweep, tasks.schedule.alarm? with
  | .due t, some (u, target) => if u < t then some (u, .alarm target) else some (t, .sweep)
  | .due t, none => some (t, .sweep)
  | _, some (u, target) => some (u, .alarm target)
  | _, none => none

/-- Lets one background event happen. -/
def runEvent (d : Desk) (tasks : DeskTasks) : Event → Desk
  | .sweep => d.runSweep tasks
  | .alarm target => d.runAlarm tasks target

/-- Lets every background event before an elapsed time happen.  The fuel bounds their
number. -/
def runBefore (stop : Nat) : Nat → Desk → Desk
  | 0, d => d
  | fuel + 1, d =>
    match d.tasks with
    | none => d
    | some tasks =>
      match nextEvent? tasks with
      | some (t, event) =>
        if t < stop then runBefore stop fuel (({ d with elapsed := t } : Desk).runEvent tasks event)
        else d
      | none => d

/-- Lets a number of milliseconds pass.  What is due at the very end happens when time goes
on, and a sleep of no length gives the tasks no turn. -/
def sleep (d : Desk) (ms : Nat) : Desk :=
  if ms = 0 then d
  else
    let stop := d.elapsed + ms
    let d := runBefore stop (ShiftSchedule.waitBound ms + ms + 1) d.beginTasks
    { d with elapsed := stop }

/-- Moves a manual clock to a moment. -/
def setClock (d : Desk) (now : Moment) : Desk := { d with clock := .manual now }

end Desk

end SupportDesk
