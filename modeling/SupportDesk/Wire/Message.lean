/-
# Messages

The requests that a desk takes, the envelope of its replies, and the contents of those
replies.  Every message has a JSON value, in which it is written.
-/

import SupportDesk.Json.Value
import SupportDesk.Session.Basic
import SupportDesk.Pool.Basic

namespace SupportDesk

/-- The version of the message protocol. -/
def protocolVersion : String := "0.1.0"

/-- What a client may ask of a desk. -/
inductive Request
  | ping
  | health
  | createSession
  | prolongSession (id : SessionId)
  | destroySession (id : SessionId)
  | status
deriving DecidableEq, Repr

namespace Request

/-- The kinds of requests; the kind is the part of a request that names the action. -/
inductive Kind
  | ping
  | health
  | createSession
  | prolongSession
  | destroySession
  | status
deriving DecidableEq, Repr

/-- The kinds with the names of their actions, in order. -/
def kinds : List (String × Kind) :=
  [("ping", .ping), ("health", .health), ("create_session", .createSession),
   ("prolongate_session", .prolongSession), ("destroy_session", .destroySession),
   ("status", .status)]

/-- The name of the action. -/
def Kind.name : Kind → String
  | .ping => "ping"
  | .health => "health"
  | .createSession => "create_session"
  | .prolongSession => "prolongate_session"
  | .destroySession => "destroy_session"
  | .status => "status"

/-- The action that a request asks for, without its session. -/
def kind : Request → Kind
  | ping => .ping
  | health => .health
  | createSession => .createSession
  | prolongSession _ => .prolongSession
  | destroySession _ => .destroySession
  | status => .status

/-- The session that a request is about. -/
def sessionId? : Request → Option SessionId
  | prolongSession id => some id
  | destroySession id => some id
  | _ => none

/-- The request of a kind that needs no session, or the way to make it from one. -/
def Kind.complete : Kind → Request ⊕ (SessionId → Request)
  | .ping => .inl .ping
  | .health => .inl .health
  | .createSession => .inl .createSession
  | .prolongSession => .inr .prolongSession
  | .destroySession => .inr .destroySession
  | .status => .inl .status

/-- The JSON value of a request. -/
def json (r : Request) : Json :=
  .object (("action", .string r.kind.name) ::
    match r.sessionId? with
    | some id => [("session_id", .string id.text)]
    | none => [])

end Request

/-- The envelope of a reply. -/
structure Reply where
  status : String
  data : Option Json
  error : Option String
  version : String
deriving Repr

namespace Reply

/-- A successful reply with its data, in canonical form. -/
def ok (data : Json) : Reply := ⟨"ok", some data.canonical, none, protocolVersion⟩

/-- A failed reply with its reason. -/
def failure (reason : String) : Reply := ⟨"error", none, some reason, protocolVersion⟩

/-- The answer to a ping. -/
def pong : Reply := ok (.object [("pong", .bool true)])

/-- Whether a reply is a successful one. -/
def isOk (r : Reply) : Bool := r.status = "ok"

/-- A value that may be absent; absence is null. -/
def optionalJson (v : Option Json) : Json := v.getD .null

/-- The JSON value of a reply. -/
def json (r : Reply) : Json :=
  .object [("status", .string r.status), ("data", optionalJson r.data),
    ("error", optionalJson (r.error.map .string)), ("version", .string r.version)]

end Reply

/-- The outcomes of a request for a new session. -/
inductive CreateCode
  | created
  | tooBusy
  | failed
deriving DecidableEq, Repr

/-- The outcomes of prolonging or ending a session. -/
inductive ActionCode
  | success
  | failed
deriving DecidableEq, Repr

namespace CreateCode

/-- The codes with their names, in order. -/
def variants : List (String × CreateCode) :=
  [("created", created), ("too_busy", tooBusy), ("failed", failed)]

/-- The word that stands for the code in a reply. -/
def name : CreateCode → String
  | created => "created"
  | tooBusy => "too_busy"
  | failed => "failed"

end CreateCode

namespace ActionCode

/-- The codes with their names, in order. -/
def variants : List (String × ActionCode) := [("success", success), ("failed", failed)]

/-- The word that stands for the code in a reply. -/
def name : ActionCode → String
  | success => "success"
  | failed => "failed"

/-- The code of an action that was or was not carried out. -/
def ofBool (done : Bool) : ActionCode := if done then success else failed

end ActionCode

/-- The answer to a request for a new session. -/
structure CreateAnswer where
  code : CreateCode
  sessionId : Option SessionId
deriving DecidableEq, Repr

namespace CreateAnswer

/-- The answer to an admission, or to a refusal. -/
def ofOutcome : Option SessionId → CreateAnswer
  | some id => ⟨.created, some id⟩
  | none => ⟨.tooBusy, none⟩

/-- The JSON value; an absent session is not written. -/
def json (a : CreateAnswer) : Json :=
  .object (("code", .string a.code.name) ::
    match a.sessionId with
    | some id => [("session_id", .string id.text)]
    | none => [])

end CreateAnswer

/-- The answer to prolonging or ending a session. -/
structure ActionAnswer where
  code : ActionCode
deriving DecidableEq, Repr

/-- The JSON value. -/
def ActionAnswer.json (a : ActionAnswer) : Json := .object [("code", .string a.code.name)]

/-- A message that names a session. -/
structure SessionReference where
  sessionId : SessionId
deriving DecidableEq, Repr

/-- The JSON value. -/
def SessionReference.json (r : SessionReference) : Json :=
  .object [("session_id", .string r.sessionId.text)]

/-- The JSON value of a session. -/
def Session.json (s : Session) : Json :=
  .object [("id", .string s.id.text), ("created_at", .string s.createdAt.text),
    ("last_touched_at", .string s.lastTouchedAt.text)]

/-- The levels with their names, in order. -/
def Level.variants : List (String × Level) := Level.all.map fun l => (l.name, l)

/-- The JSON value of one agent's line. -/
def AgentSnapshot.json (a : AgentSnapshot) : Json :=
  .object [("id", .nat a.id.toNat), ("kind", .string a.kind), ("level", .string a.level.name),
    ("working_hours", .string a.workingHours), ("working", .bool a.working),
    ("available", .bool a.available), ("queue_size", .nat a.queueSize),
    ("max_slots", .nat a.maxSlots)]

/-- The JSON value of a status report. -/
def Pool.Status.json (s : Pool.Status) : Json :=
  .object [("capacity", .nat s.capacity), ("maximum_queue_size", .nat s.maximumQueueSize),
    ("queue_size", .nat s.queueSize), ("active_sessions", .nat s.activeSessions),
    ("agents", .array (s.agents.map AgentSnapshot.json))]

end SupportDesk
