/-
# The backlog

Sessions that wait for an agent, first come first served.  A new session is admitted while
the backlog is shorter than its limit.  A session leaves for an agent by `pop`; it leaves
for good by `remove?` or `removeExpired`, and those two are what the desk reacts to.
-/

import SupportDesk.Session.Basic
import SupportDesk.Session.Table

namespace SupportDesk

/-- The waiting sessions in order, and the length at which admission stops. -/
structure Backlog where
  order : List SessionId
  sessions : SessionTable Session
  limit : Nat
deriving DecidableEq, Repr

namespace Backlog

/-- An empty backlog with a limit. -/
def ofLimit (limit : Nat) : Backlog := ⟨[], .empty, limit⟩

/-- The number of waiting sessions. -/
def size (b : Backlog) : Nat := b.order.length

/-- Whether a session waits here. -/
def contains (b : Backlog) (id : SessionId) : Bool := b.sessions.contains id

/-- The waiting sessions themselves, in order. -/
def toList (b : Backlog) : List Session := b.order.filterMap b.sessions.find?

/-- Admits a new session at the end; refuses it when the limit is reached. -/
def create? (b : Backlog) (id : SessionId) (now : Moment) : Option Backlog :=
  if b.limit ≤ b.size then none
  else some { b with
    order := b.order ++ [id]
    sessions := b.sessions.insert id (.start id now) }

/-- Takes the session that has waited longest. -/
def pop (b : Backlog) : Option Session × Backlog :=
  match b.order with
  | [] => (none, b)
  | id :: rest => (b.sessions.find? id, { b with order := rest, sessions := b.sessions.erase id })

/-- Puts a session at the head, whatever the limit; a session that waits already stays
where it is. -/
def restoreFront (b : Backlog) (s : Session) : Backlog :=
  if b.contains s.id then b
  else { b with order := s.id :: b.order, sessions := b.sessions.insert s.id s }

/-- Records a sign of life of a waiting session; refuses one that does not wait. -/
def prolong? (b : Backlog) (id : SessionId) (now : Moment) : Option Backlog :=
  if b.contains id then some { b with sessions := b.sessions.modify id (·.prolong now) } else none

/-- Removes a waiting session for good; refuses one that does not wait. -/
def remove? (b : Backlog) (id : SessionId) : Option Backlog :=
  if b.contains id then
    some { b with order := b.order.filter (· ≠ id), sessions := b.sessions.erase id }
  else none

/-- The waiting sessions that have expired, in order. -/
def expired (b : Backlog) (timeout : Duration) (now : Moment) :
    Except TimeError (List SessionId) :=
  b.order.filterMapM fun id =>
    match b.sessions.find? id with
    | some s => (s.expired timeout now).map fun gone => if gone then some id else none
    | none => .ok none

/-- Removes every expired session in one pass.  The answer is `none` if there was none. -/
def removeExpired (b : Backlog) (timeout : Duration) (now : Moment) :
    Except TimeError (Option Backlog) :=
  (b.expired timeout now).map fun gone =>
    if gone.isEmpty then none
    else some { b with
      order := b.order.filter (· ∉ gone)
      sessions := gone.foldl (·.erase ·) b.sessions }

end Backlog

end SupportDesk
