/-
# Answering requests

Every transport hands its requests to `Desk.answer` and sends the envelope that comes back.
A request cannot fail once it has been read: refusals are codes inside a successful reply.
-/

import SupportDesk.Pool.Desk
import SupportDesk.Wire.Message

namespace SupportDesk.Desk

/-- The report on a desk's health. -/
def health (d : Desk) (now : Moment) : Json :=
  .object [("status", .string "healthy"), ("running", .bool d.isRunning),
    ("capacity", .nat (d.pool.capacity now))]

/-- Carries out a request at a moment.  A new session is given the identifier `fresh`. -/
def answer (d : Desk) (now : Moment) (fresh : SessionId) : Request → Reply × Desk
  | .ping => (.pong, d)
  | .health => (.ok (d.health now), d)
  | .createSession =>
    match d.pool.create? fresh now with
    | some pool => (.ok (CreateAnswer.ofOutcome (some fresh)).json, { d with pool })
    | none => (.ok (CreateAnswer.ofOutcome none).json, d)
  | .prolongSession id =>
    match d.pool.prolong? id now with
    | some pool => (.ok (ActionAnswer.json ⟨.ofBool true⟩), { d with pool })
    | none => (.ok (ActionAnswer.json ⟨.ofBool false⟩), d)
  | .destroySession id =>
    let (pool, known) := d.pool.destroy id now
    (.ok (ActionAnswer.json ⟨.ofBool known⟩), { d with pool })
  | .status => (.ok (d.pool.status now).json, d)

end SupportDesk.Desk
