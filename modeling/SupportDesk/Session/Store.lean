/-
# The session store

A backlog as its owner sees it: it is sent requests, each at the moment that the clock then
shows, and answers them.  The owner is notified of a session that has been created, and of
sessions that have gone for good, once for each request that removed any.  Sessions that are
taken from the head or put back there come and go without notice.
-/

import SupportDesk.Session.Backlog

namespace SupportDesk

/-- What the owner of a store is notified of. -/
inductive StoreNotice
  | created
  | removed
deriving DecidableEq, Repr

/-- What a store can be asked. -/
inductive StoreRequest
  /-- A new session; the identifier is the one it will be given. -/
  | create (id : SessionId)
  | pop
  | restore (s : Session)
  | prolong (id : SessionId)
  | remove (id : SessionId)
  | expire (timeout : Duration)
  | setLimit (limit : Nat)
deriving DecidableEq, Repr

/-- What a store answers. -/
inductive StoreAnswer
  /-- The session that was created or taken, if one was. -/
  | session (s : Option Session)
  /-- Whether there was anything to do. -/
  | found (b : Bool)
  | done
deriving DecidableEq, Repr

/-- An answer with the notice that goes out with it. -/
structure StoreReply where
  answer : StoreAnswer
  notice : Option StoreNotice
deriving DecidableEq, Repr

namespace Backlog

/-- Carries out a request at a moment. -/
def perform (b : Backlog) (now : Moment) : StoreRequest → Except TimeError (StoreReply × Backlog)
  | .create id =>
    match b.create? id now with
    | some c => .ok (⟨.session (some (.start id now)), some .created⟩, c)
    | none => .ok (⟨.session none, none⟩, b)
  | .pop => .ok (⟨.session b.pop.1, none⟩, b.pop.2)
  | .restore s => .ok (⟨.done, none⟩, b.restoreFront s)
  | .prolong id =>
    match b.prolong? id now with
    | some c => .ok (⟨.found true, none⟩, c)
    | none => .ok (⟨.found false, none⟩, b)
  | .remove id =>
    match b.remove? id with
    | some c => .ok (⟨.found true, some .removed⟩, c)
    | none => .ok (⟨.found false, none⟩, b)
  | .expire timeout =>
    (b.removeExpired timeout now).map fun
      | some c => (⟨.found true, some .removed⟩, c)
      | none => (⟨.found false, none⟩, b)
  | .setLimit limit => .ok (⟨.done, none⟩, { b with limit })

end Backlog

end SupportDesk
