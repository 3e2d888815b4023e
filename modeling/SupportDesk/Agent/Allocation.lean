/-
# Allocation of sessions to agents

The queues of all agents, regular agents first and then additional ones, each in roster
order, together with a record of which queue holds which session.

A session goes to the available agent with a free slot that is first by level priority,
then by number of sessions, then by roster position.  A lower level is therefore full
before the next one is given work, and the load spreads evenly inside a level.
-/

import SupportDesk.Agent.Queue

namespace SupportDesk

/-- What the desk is built from: its concurrency, its timeout and its roster. -/
structure PoolSettings where
  concurrency : UInt32
  timeout : Duration
  regular : List RegularAgent
  additional : List AdditionalAgent
deriving DecidableEq, Repr

/-- All agent queues with the position of the queue of each assigned session. -/
structure Allocation where
  concurrency : UInt32
  queues : List AgentQueue
  assignments : SessionTable Nat
deriving DecidableEq, Repr

/-- One agent's line in a status report. -/
structure AgentSnapshot where
  id : AgentId
  kind : String
  level : Level
  workingHours : String
  working : Bool
  available : Bool
  queueSize : Nat
  maxSlots : Nat
deriving DecidableEq, Repr

/-- The report on one queue. -/
def AgentQueue.snapshot (q : AgentQueue) (now : Moment) : AgentSnapshot :=
  ⟨q.agent.id, q.agent.kind, q.agent.level, q.agent.workingHours, q.agent.working now,
    q.agent.available now, q.size, q.maxSlots⟩

namespace Allocation

/-- The agents of a roster in queue order. -/
def roster (settings : PoolSettings) : List Agent :=
  settings.regular.map .regular ++ settings.additional.map .additional

/-- The allocation of a roster to which nothing is assigned. -/
def ofSettings (settings : PoolSettings) : Allocation :=
  ⟨settings.concurrency,
    (roster settings).map fun agent => .ofAgent agent settings.concurrency, .empty⟩

/-- The sessions that the regular agents on shift can serve, rounded down once over the
whole sum. -/
def capacity (a : Allocation) (now : Moment) : Nat :=
  ((a.queues.map (·.agent)).filter fun agent => agent.isRegular && agent.working now).foldr
    (fun agent sum => a.concurrency.toNat * agent.level.percent + sum) 0 / 100

/-- The free slots over all agents that are available now. -/
def openSpots (a : Allocation) (now : Moment) : Nat :=
  (a.queues.filter fun q => q.agent.available now).foldr (fun q sum => q.openSpots + sum) 0

/-- Whether any available agent has a free slot. -/
def hasOpenSpots (a : Allocation) (now : Moment) : Bool := 0 < a.openSpots now

/-- The position and the queue that is first in the order of dispatch among those that
can take a session; of equal ones the earlier. -/
def choose? (now : Moment) : List AgentQueue → Option (Nat × AgentQueue)
  | [] => none
  | q :: rest =>
    let later := (choose? now rest).map fun (i, best) => (i + 1, best)
    if q.canTake now then
      match later with
      | some (i, best) => if best.before q then some (i, best) else some (0, q)
      | none => some (0, q)
    else later

/-- Gives a session to an agent; refuses one that is assigned already, and any session
while no agent can take one. -/
def allocate? (a : Allocation) (s : Session) (now : Moment) : Option Allocation :=
  if a.assignments.contains s.id then none
  else
    (choose? now a.queues).map fun (i, _) =>
      { a with
        queues := a.queues.modify i (·.add s)
        assignments := a.assignments.insert s.id i }

/-- Takes a session from its agent; refuses one that is not assigned. -/
def release? (a : Allocation) (id : SessionId) : Option Allocation :=
  (a.assignments.find? id).map fun i =>
    { a with
      queues := a.queues.modify i (·.remove id)
      assignments := a.assignments.erase id }

/-- The agent that a session is assigned to. -/
def findAgent? (a : Allocation) (id : SessionId) : Option Agent :=
  ((a.assignments.find? id).bind (a.queues[·]?)).map (·.agent)

/-- Whether an agent is an additional one that is on shift and closed. -/
def canOpen (agent : Agent) (now : Moment) : Bool :=
  match agent with
  | .regular _ => false
  | .additional b => agent.working now && !b.openToChat

/-- Opens or closes the agent of a queue to chat. -/
def setOpen (isOpen : Bool) (q : AgentQueue) : AgentQueue := { q with agent := q.agent.setOpen isOpen }

/-- The position of the first additional agent that is on shift and closed. -/
def nextToOpen? (a : Allocation) (now : Moment) : Option Nat :=
  a.queues.findIdx? fun q => canOpen q.agent now

/-- Opens the first additional agent that is on shift and closed; refuses if none is. -/
def openAdditional? (a : Allocation) (now : Moment) : Option Allocation :=
  (a.nextToOpen? now).map fun i => { a with queues := a.queues.modify i (setOpen true) }

/-- Closes every additional agent.  The sessions they hold stay with them. -/
def closeAdditional (a : Allocation) : Allocation :=
  { a with queues := a.queues.map (setOpen false) }

/-- The distinct times of day at which a regular agent's shift starts or ends, in order. -/
def shiftBoundaries (a : Allocation) : List TimeOfDay :=
  TimeOfDay.sortedDistinct
    (((a.queues.map (·.agent)).filter (·.isRegular)).flatMap fun agent =>
      [agent.shiftStart, agent.shiftEnd])

/-- The number of assigned sessions. -/
def activeCount (a : Allocation) : Nat := a.assignments.size

/-- The report on every queue, in order. -/
def snapshot (a : Allocation) (now : Moment) : List AgentSnapshot :=
  a.queues.map (·.snapshot now)

end Allocation

end SupportDesk
