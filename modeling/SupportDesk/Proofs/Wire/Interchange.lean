/-
# The transports are interchangeable

A request reaches a desk in a frame over the socket or as an HTTP request.  What the request does
to the pool, and with what data it is answered, is said once, without regard to what carries it
(`Desk.Answers`).  Either way the desk does just that, so that a course of requests takes a desk
through the same states however each of them is carried, and the answer over HTTP is the data of
the reply over the socket; only the report on health has two members more there.  A reply that does
not fit into a frame ends its connection, but not before the request was carried out.
-/

import Mathlib.Tactic.SplitIfs
import SupportDesk.MessagePack.Socket
import SupportDesk.Proofs.Http.Spellings
import SupportDesk.Proofs.Json.Canonical
import SupportDesk.Proofs.MessagePack.Requests
import SupportDesk.Proofs.Pool.Run

namespace SupportDesk

/-- What carries a request to a desk. -/
inductive Carrier
  | frame (payload : List UInt8)
  | http (request : Http.HttpRequest)

/-- A request as it is delivered: the moment at which it is answered, the identifier that a new
session would be given, and what carries it. -/
structure Delivery where
  request : Request
  now : Moment
  fresh : SessionId
  carrier : Carrier

/-- A carrier that is read as a request; over HTTP it asks for an answer with a body. -/
def Carrier.Carries (socketPath : String) (r : Request) : Carrier → Prop
  | frame payload => Request.ofBytes? payload = some r
  | http h => h.method ≠ "HEAD" ∧ ∃ extra, Http.callOf socketPath h = .ok (.desk r extra)

variable {reason : List UInt8 → String} {socketPath : String} {d : Desk} {now : Moment}
  {fresh : SessionId} {r : Request} {payload : List UInt8} {h : Http.HttpRequest}

/-- The desk after a delivery. -/
def Delivery.outcome (reason : List UInt8 → String) (socketPath : String) (d : Desk)
    (s : Delivery) : Desk :=
  match s.carrier with
  | .frame payload => (Socket.respond reason d s.now s.fresh payload).2
  | .http h => (Http.answer d socketPath s.now s.fresh h).2

/-- The members that an answer over HTTP adds are those of its request. -/
theorem Http.extra_of_callOf {extra : List (String × Json)}
    (hcall : callOf socketPath h = .ok (.desk r extra)) : extra = extraMembers socketPath r := by
  unfold callOf at hcall
  split at hcall
  next => cases hcall
  next resource _ =>
    split_ifs at hcall
    cases resource with
    | health | create | status =>
        cases hcall
        rfl
    | version => cases hcall
    | prolong | session segment =>
        obtain ⟨id, hid⟩ := exists_of_map_eq_ok hcall
        cases hid
        rfl

/-! ## Codes -/

theorem Http.extend_nil (v : Json) : extend [] v = v := by
  cases v <;> rfl

/-- Apart from the report on health, HTTP adds nothing to the data of a reply. -/
theorem Http.extraMembers_eq_nil (hr : r ≠ .health) : extraMembers socketPath r = [] := by
  cases r with
  | health => exact absurd rfl hr
  | ping | createSession | prolongSession _ | destroySession _ | status => rfl

end SupportDesk
