/-
# The HTTP interface

Requests are matched to endpoints by path and method, and the endpoints are answered by the
same desk as every other transport.  A request that matches no endpoint, or whose body or
path does not hold what the endpoint needs, is refused with a status and leaves the desk as
it is.
-/

import SupportDesk.Http.MediaType
import SupportDesk.Http.Path
import SupportDesk.Json.Message
import SupportDesk.Pool.Router

namespace SupportDesk.Http

/-- An HTTP request. -/
structure HttpRequest where
  method : String
  target : String
  contentType : Option String
  body : List UInt8
deriving Repr

/-- An HTTP answer; refusals have no JSON body. -/
structure HttpAnswer where
  status : Nat
  body : Option Json
deriving Repr

/-- The resources of the interface. -/
inductive Resource
  | health
  | version
  | create
  | prolong
  | session (segment : List Char)
  | status
deriving DecidableEq, Repr

/-- The resource at a path.  A session path needs a segment of its own; the fixed names
come first. -/
def resource? (path : List Char) : Option Resource :=
  match (segments path).map String.ofList with
  | ["", "health"] => some .health
  | ["", "version"] => some .version
  | ["", "api", "session", "create"] => some .create
  | ["", "api", "session", "prolongate"] => some .prolong
  | ["", "api", "session", "ping"] => some .prolong
  | ["", "api", "session", id] => if id.isEmpty then none else some (.session id.toList)
  | ["", "api", "pool", "status"] => some .status
  | _ => none

/-- The method that a resource answers. -/
def Resource.method : Resource → String
  | health => "GET"
  | version => "GET"
  | create => "POST"
  | prolong => "PUT"
  | session _ => "DELETE"
  | status => "GET"

/-- Whether a resource takes a method; `HEAD` goes with `GET`. -/
def Resource.allows (r : Resource) (method : String) : Bool :=
  method = r.method || (method = "HEAD" && r.method = "GET")

/-- What a request asks for: a request to the desk, with the members that the answer adds
to the desk's data, or the version. -/
inductive Call
  | desk (request : Request) (extra : List (String × Json))
  | version

/-- The number of bytes that the body of a request may have, where it is read. -/
def bodyLimit : Nat := 2097152

/-- The session named by the body of a request; refusals are statuses. -/
def sessionOfBody (r : HttpRequest) : Except Nat SessionId :=
  match (r.contentType.bind MediaType.parse?).map MediaType.isJson with
  | some true =>
    if bodyLimit < r.body.length then .error 413
    else
      match Json.Reader.readFront Json.Reader.sessionReference r.body with
      | .ok reference => .ok reference.sessionId
      | .error .malformed => .error 400
      | .error _ => .error 422
  | _ => .error 415

/-- The session named by a path segment. -/
def sessionOfSegment (segment : List Char) : Except Nat SessionId :=
  match (decodeSegment? segment).bind SessionId.parse? with
  | some id => .ok id
  | none => .error 400

/-- The call of a request on a desk that also serves a socket at a path; refusals are
statuses. -/
def callOf (socketPath : String) (r : HttpRequest) : Except Nat Call :=
  match resource? (pathOf r.target) with
  | none => .error 404
  | some resource =>
    if resource.allows r.method then
      match resource with
      | .health => .ok (.desk .health
          [("version", .string protocolVersion), ("socket", .string socketPath)])
      | .version => .ok .version
      | .create => .ok (.desk .createSession [])
      | .prolong => (sessionOfBody r).map fun id => .desk (.prolongSession id) []
      | .session segment =>
        (sessionOfSegment segment).map fun id => .desk (.destroySession id) []
      | .status => .ok (.desk .status [])
    else .error 405

/-- Adds members to an object. -/
def extend (extra : List (String × Json)) : Json → Json
  | .object members => .object (extra.foldl (fun ms m => Json.insertMember m.1 m.2 ms) members)
  | v => v

/-- The version report. -/
def versionJson : Json :=
  .object [("version", .string protocolVersion), ("protocol", .string "helpdesk/1")]

/-- The content of a reply for HTTP: its data, an empty object without data, or the reason
of a failure. -/
def content (r : Reply) : Except String Json :=
  if r.isOk then .ok (r.data.getD (.object []))
  else .error (r.error.getD "unknown error")

/-- Answers a request. -/
def answer (d : Desk) (socketPath : String) (now : Moment) (fresh : SessionId)
    (r : HttpRequest) : HttpAnswer × Desk :=
  let shown (v : Json) : HttpAnswer := ⟨200, if r.method = "HEAD" then none else some v⟩
  match callOf socketPath r with
  | .error status => (⟨status, none⟩, d)
  | .ok .version => (shown versionJson, d)
  | .ok (.desk request extra) =>
    let (reply, d) := d.answer now fresh request
    match content reply with
    | .ok data => (shown (extend extra data), d)
    | .error _ => (⟨500, none⟩, d)

end SupportDesk.Http
