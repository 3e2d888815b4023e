/-
# Sessions

A session is one client's conversation with the desk: its identifier, the moment it was
created and the moment of its last sign of life.
-/

import SupportDesk.Session.Id
import SupportDesk.Calendar.Moment

namespace SupportDesk

/-- A client's session. -/
structure Session where
  id : SessionId
  createdAt : Moment
  lastTouchedAt : Moment
deriving DecidableEq, Repr

namespace Session

/-- A session that starts now. -/
def start (id : SessionId) (now : Moment) : Session := ⟨id, now, now⟩

/-- Records a sign of life. -/
def prolong (s : Session) (now : Moment) : Session := { s with lastTouchedAt := now }

/-- Whether the whole timeout has passed since the last sign of life.  The moment of
expiry must lie within the calendar. -/
def expired (s : Session) (timeout : Duration) (now : Moment) : Except TimeError Bool :=
  (s.lastTouchedAt.add timeout).map fun deadline => decide (deadline ≤ now)

@[simp] theorem start_id (id : SessionId) (now : Moment) : (start id now).id = id := rfl

@[simp] theorem prolong_id (s : Session) (now : Moment) : (s.prolong now).id = s.id := rfl

@[simp] theorem prolong_createdAt (s : Session) (now : Moment) :
    (s.prolong now).createdAt = s.createdAt := rfl

@[simp] theorem prolong_lastTouchedAt (s : Session) (now : Moment) :
    (s.prolong now).lastTouchedAt = now := rfl

end Session

end SupportDesk
