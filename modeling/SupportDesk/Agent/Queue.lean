/-
# Agent queues

The sessions that one agent is serving.  A queue never holds more sessions than its agent
has slots; a session that does not fit is refused without any other change.
-/

import SupportDesk.Agent.Basic
import SupportDesk.Session.Basic
import SupportDesk.Session.Table

namespace SupportDesk

/-- An agent with the sessions that it is serving. -/
structure AgentQueue where
  agent : Agent
  maxSlots : Nat
  sessions : SessionTable Session
deriving DecidableEq, Repr

namespace AgentQueue

/-- The slots of an agent of a level: the agent's share of the concurrency, rounded down. -/
def slotCount (concurrency : UInt32) (level : Level) : Nat :=
  concurrency.toNat * level.percent / 100

/-- The empty queue of an agent. -/
def ofAgent (agent : Agent) (concurrency : UInt32) : AgentQueue :=
  ⟨agent, slotCount concurrency agent.level, .empty⟩

/-- The number of sessions served. -/
def size (q : AgentQueue) : Nat := q.sessions.size

/-- The number of free slots. -/
def openSpots (q : AgentQueue) : Nat := q.maxSlots - q.size

/-- Whether a slot is free. -/
def hasOpenSpots (q : AgentQueue) : Bool := q.size < q.maxSlots

/-- Whether a session is served here. -/
def contains (q : AgentQueue) (id : SessionId) : Bool := q.sessions.contains id

/-- Takes a session in.  Nothing changes if it is here already or no slot is free. -/
def add (q : AgentQueue) (s : Session) : AgentQueue :=
  if q.contains s.id || !q.hasOpenSpots then q
  else { q with sessions := q.sessions.insert s.id s }

/-- Lets a session go.  Nothing changes if it is not here. -/
def remove (q : AgentQueue) (id : SessionId) : AgentQueue :=
  { q with sessions := q.sessions.erase id }

/-- Whether the agent can be given one more session now. -/
def canTake (q : AgentQueue) (now : Moment) : Bool := q.agent.available now && q.hasOpenSpots

/-- Whether `a` comes strictly before `b` in the order of dispatch: by the level's
priority, and then by the number of sessions served. -/
def before (a b : AgentQueue) : Bool :=
  decide (a.agent.level.priority < b.agent.level.priority) ||
    (decide (a.agent.level.priority = b.agent.level.priority) && decide (a.size < b.size))

@[simp] theorem maxSlots_add (q : AgentQueue) (s : Session) : (q.add s).maxSlots = q.maxSlots := by
  unfold add; split <;> rfl

@[simp] theorem maxSlots_remove (q : AgentQueue) (id : SessionId) :
    (q.remove id).maxSlots = q.maxSlots := rfl

@[simp] theorem agent_add (q : AgentQueue) (s : Session) : (q.add s).agent = q.agent := by
  unfold add; split <;> rfl

@[simp] theorem agent_remove (q : AgentQueue) (id : SessionId) : (q.remove id).agent = q.agent := rfl

end AgentQueue

end SupportDesk
