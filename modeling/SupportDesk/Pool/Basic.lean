/-
# The pool

A pool joins the backlog to the agents.  Sessions enter through the backlog and move to
agents when the backlog is drained, which happens on every admission, every sweep and every
change of shift.

Additional agents are opened and closed by the length of the backlog: one is opened when
it reaches the maximum, and all are closed when it falls below the capacity.

Every operation takes the present moment, and a creation also the identifier it gives out,
so that a run of the pool is a function of what happened to it.
-/

import SupportDesk.Agent.Allocation
import SupportDesk.Session.Backlog

namespace SupportDesk

/-- The sessions and agents of a desk.  `allocated` holds the sessions that agents serve,
for their signs of life and their expiry. -/
structure Pool where
  backlog : Backlog
  allocation : Allocation
  allocated : SessionTable Session
  timeout : Duration
deriving DecidableEq, Repr

namespace Pool

/-- The number of sessions that the regular agents on shift can serve. -/
def capacity (p : Pool) (now : Moment) : Nat := p.allocation.capacity now

/-- The backlog length of one and a half times the capacity, rounded down. -/
def maximumQueueSize (p : Pool) (now : Moment) : Nat := p.capacity now * 3 / 2

/-- A pool without sessions; its limit is the maximum of the moment. -/
def ofSettings (settings : PoolSettings) (now : Moment) : Pool :=
  let allocation := Allocation.ofSettings settings
  ⟨.ofLimit (allocation.capacity now * 3 / 2), allocation, .empty, settings.timeout⟩

/-- The number of waiting sessions. -/
def queueSize (p : Pool) : Nat := p.backlog.size

/-- The number of sessions that agents serve. -/
def activeCount (p : Pool) : Nat := p.allocated.size

/-! ## Opening and closing additional agents -/

/-- Opens the next additional agent, if one can be opened. -/
def openAdditional (p : Pool) (now : Moment) : Pool :=
  match p.allocation.openAdditional? now with
  | some allocation => { p with allocation }
  | none => p

/-- Closes every additional agent. -/
def closeAdditional (p : Pool) : Pool := { p with allocation := p.allocation.closeAdditional }

/-- Closes every additional agent if the backlog is below the capacity. -/
def relax (p : Pool) (now : Moment) : Pool :=
  if p.queueSize < p.capacity now then p.closeAdditional else p

/-! ## Moving sessions to agents -/

/-- Assigns a session to an agent and records it; refuses one that is recorded already. -/
def assign? (p : Pool) (s : Session) (now : Moment) : Option Pool :=
  if p.allocated.contains s.id then none
  else (p.allocation.allocate? s now).map fun allocation =>
    { p with allocation, allocated := p.allocated.insert s.id s }

/-- Gives a session to an agent directly; refuses one that is waiting. -/
def allocate? (p : Pool) (s : Session) (now : Moment) : Option Pool :=
  if p.backlog.contains s.id then none else p.assign? s now

/-- Moves up to a number of sessions from the head of the backlog to agents, while a slot
is free.  A session that cannot be assigned goes back to the head and ends the drain. -/
def drainUpTo (now : Moment) : Nat → Pool → Pool × Nat
  | 0, p => (p, 0)
  | fuel + 1, p =>
    if p.allocation.hasOpenSpots now then
      match p.backlog.pop with
      | (none, backlog) => ({ p with backlog }, 0)
      | (some s, backlog) =>
        match { p with backlog : Pool }.assign? s now with
        | some q =>
          let (q, moved) := drainUpTo now fuel q
          (q, moved + 1)
        | none => ({ p with backlog := backlog.restoreFront s }, 0)
    else (p, 0)

/-- Moves waiting sessions to agents until no slot is free or none waits, and tells how
many were moved. -/
def drain (p : Pool) (now : Moment) : Pool × Nat := drainUpTo now p.queueSize p

/-! ## Operations -/

/-- Admits a new session; refuses it while the backlog is at its limit.  An admission that
fills the backlog to the maximum opens an additional agent, and then the backlog is
drained. -/
def create? (p : Pool) (id : SessionId) (now : Moment) : Option Pool :=
  (p.backlog.create? id now).map fun backlog =>
    let p := { p with backlog }
    let p := if p.maximumQueueSize now ≤ p.queueSize then p.openAdditional now else p
    (p.drain now).1

/-- Records a sign of life; refuses an unknown session. -/
def prolong? (p : Pool) (id : SessionId) (now : Moment) : Option Pool :=
  match p.backlog.prolong? id now with
  | some backlog => some { p with backlog }
  | none =>
    if p.allocated.contains id then
      some { p with allocated := p.allocated.modify id (·.prolong now) }
    else none

/-- Ends a session; the answer tells whether it was known.  Ending a waiting session may
close the additional agents. -/
def destroy (p : Pool) (id : SessionId) (now : Moment) : Pool × Bool :=
  match p.backlog.remove? id with
  | some backlog => ({ p with backlog : Pool }.relax now, true)
  | none =>
    if p.allocated.contains id then
      let p := { p with allocated := p.allocated.erase id }
      match p.allocation.release? id with
      | some allocation => ({ p with allocation }, true)
      | none => (p, false)
    else (p, false)

/-- Removes the waiting sessions that have expired; if any had, the additional agents may
be closed. -/
def expireWaiting (p : Pool) (now : Moment) : Except TimeError Pool :=
  (p.backlog.removeExpired p.timeout now).map fun
    | some backlog => { p with backlog : Pool }.relax now
    | none => p

/-- The sessions with agents that have expired. -/
def expiredAllocated (p : Pool) (now : Moment) : Except TimeError (List SessionId) :=
  p.allocated.values.filterMapM fun s =>
    (s.expired p.timeout now).map fun gone => if gone then some s.id else none

/-- Takes a session from its agent without asking whether it was there. -/
def release (p : Pool) (id : SessionId) : Pool :=
  let p := { p with allocated := p.allocated.erase id }
  match p.allocation.release? id with
  | some allocation => { p with allocation }
  | none => p

/-- Removes the sessions with agents that have expired. -/
def expireAllocated (p : Pool) (now : Moment) : Except TimeError Pool :=
  (p.expiredAllocated now).map fun gone => gone.foldl release p

/-- What a sweep leaves: the pool, and the arithmetic error that cut the sweep short. -/
structure Sweep where
  pool : Pool
  fault : Option TimeError
deriving DecidableEq, Repr

/-- One pass of the periodic sweep: expired waiting sessions go, then expired sessions with
agents, then the backlog is drained.  An arithmetic error ends the pass where it arises. -/
def sweep (p : Pool) (now : Moment) : Sweep :=
  match p.expireWaiting now with
  | .error e => ⟨p, some e⟩
  | .ok p =>
    match p.expireAllocated now with
    | .error e => ⟨p, some e⟩
    | .ok p => ⟨(p.drain now).1, none⟩

/-- The reaction to a change of shift: additional agents are opened or closed by the new
figures, the limit becomes the new maximum, and the backlog is drained. -/
def shiftChanged (p : Pool) (now : Moment) : Pool :=
  let maximum := p.maximumQueueSize now
  let p :=
    if maximum ≤ p.queueSize then p.openAdditional now
    else p.relax now
  let p := { p with backlog := { p.backlog with limit := maximum } }
  (p.drain now).1

/-- The agent that serves a session. -/
def findAgent? (p : Pool) (id : SessionId) : Option Agent := p.allocation.findAgent? id

/-- The counters of a pool with one line for each agent. -/
structure Status where
  capacity : Nat
  maximumQueueSize : Nat
  queueSize : Nat
  activeSessions : Nat
  agents : List AgentSnapshot
deriving DecidableEq, Repr

/-- The status report of the moment. -/
def status (p : Pool) (now : Moment) : Status :=
  ⟨p.capacity now, p.maximumQueueSize now, p.queueSize, p.activeCount, p.allocation.snapshot now⟩

end Pool

end SupportDesk
