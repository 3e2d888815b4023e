/-
# Requests as tagged messages

A request names its action and brings the session with it, as a member or as an item.  The
formats differ in how they spell the two, but not in what they may hold: once a format has
read a message into its action and the atoms beside it, the request is determined here.

A message for an action without a session may bring any other members, but no items.
-/

import SupportDesk.Wire.DecodeError
import SupportDesk.Wire.Message

namespace SupportDesk

/-- What matters of a value that stands beside the action. -/
inductive Atom
  | text (s : String)
  | bytes (b : List UInt8)
  | index (n : Nat)
  | other
deriving DecidableEq, Repr

/-- What stands beside the action: members with their keys, or items in order. -/
inductive Payload
  | members (fields : List (Atom × Atom))
  | items (values : List Atom)
deriving Repr

namespace Atom

/-- The session that a value denotes: a written identifier or its 16 bytes. -/
def session? : Atom → Except DecodeError SessionId
  | text s => match SessionId.parse? s with
    | some id => .ok id
    | none => .error .unsuitable
  | bytes b => match SessionId.ofBytes? b with
    | some id => .ok id
    | none => .error .unsuitable
  | _ => .error .unsuitable

/-- The name of the member that tells the session. -/
def sessionKey : String := "session_id"

/-- Whether a key names the session: by its name, by the bytes of the name, or by its
position among the members. -/
def namesSession : Atom → Except DecodeError Bool
  | text s => .ok (s = sessionKey)
  | bytes b => .ok (b = sessionKey.toUTF8.toList)
  | index n => .ok (n = 0)
  | other => .error .unsuitable

end Atom

namespace Payload

/-- The session among members, read in order after one that was found before. -/
def sessionOfMembers (found : Option SessionId) :
    List (Atom × Atom) → Except DecodeError SessionId
  | [] => match found with
    | some id => .ok id
    | none => .error (.missingField Atom.sessionKey)
  | (key, value) :: rest => do
    if ← key.namesSession then
      if found.isSome then .error (.duplicateField Atom.sessionKey)
      else sessionOfMembers (some (← value.session?)) rest
    else sessionOfMembers found rest

/-- The session that stands beside an action. -/
def session? : Payload → Except DecodeError SessionId
  | members fields => sessionOfMembers none fields
  | items [v] => v.session?
  | items _ => .error .unsuitable

/-- Whether nothing stands beside an action that must stand there alone. -/
def isBare : Payload → Bool
  | members _ => true
  | items values => values.isEmpty

end Payload

/-- The request of an action with what stands beside it. -/
def Request.ofPayload (kind : Request.Kind) (payload : Payload) : Except DecodeError Request :=
  match kind.complete with
  | .inl request => if payload.isBare then .ok request else .error .unsuitable
  | .inr make => payload.session?.map make

end SupportDesk
