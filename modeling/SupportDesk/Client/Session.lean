/-
# The client at work

A client carries out its task in stages.  In each stage it sends one request, and what
becomes of the request decides the lines that it prints and the stage that follows.  The
client ends by itself after every outcome but one: it goes on pinging the session that it
created as long as the server knows it.
-/

import SupportDesk.Client.Command
import SupportDesk.Client.Report
import SupportDesk.Http.Status
import SupportDesk.Http.Url
import SupportDesk.Json.Writer

namespace SupportDesk.Client

/-! ## Requests -/

/-- A request of the client. -/
structure Call where
  method : String
  url : String
  /-- The body, which is JSON if there is one. -/
  body : Option Json
  /-- The milliseconds before the request is sent. -/
  pause : Nat
deriving Repr

/-- Why a request has no answer. -/
inductive Fault
  /-- Its address is no URL. -/
  | noUrl
  /-- Its address has a scheme that the client does not speak. -/
  | badScheme (url : Url)
  /-- It was not delivered, or the connection ended without an answer. -/
  | undelivered (url : Url)
deriving DecidableEq, Repr

/-- The text of a fault. -/
def Fault.text : Fault → String
  | noUrl => "builder error"
  | badScheme url => "builder error for url (" ++ url.text ++ ")"
  | undelivered url => "error sending request for url (" ++ url.text ++ ")"

/-- The address to which a request goes. -/
def Call.address (c : Call) : Except Fault Url :=
  match Url.parse? c.url with
  | none => .error .noUrl
  | some url =>
    if url.scheme = "http" ∨ url.scheme = "https" then .ok url else .error (.badScheme url)

/-- What the network makes of a request. -/
inductive Delivery
  | answer (status : Nat) (body : List UInt8)
  | lost
deriving DecidableEq, Repr

/-- An answer as the client sees it. -/
structure Answer where
  status : Nat
  body : List UInt8
deriving DecidableEq, Repr

/-- What the client gets for a request. -/
def Call.outcome (c : Call) (d : Delivery) : Except Fault Answer :=
  match c.address, d with
  | .error f, _ => .error f
  | .ok url, .lost => .error (.undelivered url)
  | .ok _, .answer status body => .ok ⟨status, if Http.isBodiless status then [] else body⟩

/-! ## Stages -/

/-- Why a task fails. -/
inductive Failure
  | fault (f : Fault)
  /-- The server answered with another status than success. -/
  | status (code : Nat) (url : String)
  | undecodable
  | notCreated
  | dropped (id : SessionId)
deriving DecidableEq, Repr

/-- The text of a failure. -/
def Failure.text : Failure → String
  | fault f => f.text
  | status code url => "server returned " ++ Http.statusText code ++ " for " ++ url
  | undecodable => "error decoding response body"
  | notCreated => "server failed to create a session"
  | dropped id => "session " ++ id.text ++ " was dropped by the server"

/-- A line that the client prints. -/
inductive Line
  | output (text : String)
  | error (text : String)
deriving DecidableEq, Repr

/-- The lines that go to the output. -/
def Line.outputs (lines : List Line) : List String :=
  lines.filterMap fun
    | .output s => some s
    | .error _ => none

/-- The lines that tell of errors. -/
def Line.errors (lines : List Line) : List String :=
  lines.filterMap fun
    | .error s => some s
    | .output _ => none

/-- How a task ends. -/
inductive Ending
  | done
  | failed (f : Failure)
  /-- The client has said why and leaves with an exit code. -/
  | left (code : Nat)
deriving DecidableEq, Repr

/-- Where a client stands. -/
inductive Stage
  /-- It creates a session, to be kept alive with an interval or only created. -/
  | creating (interval : Option Nat)
  /-- It pings a session, after an interval and again and again, or once. -/
  | pinging (id : SessionId) (interval : Option Nat)
  | asking
  | ended (e : Ending)
deriving DecidableEq, Repr

/-- The first stage of a task. -/
def Stage.ofTask : ClientTask → Stage
  | .create => .creating none
  | .ping id => .pinging id none
  | .connect interval => .creating (some interval)
  | .status => .asking

/-- The request that is sent in a stage. -/
def Stage.call? (server : String) : Stage → Option Call
  | creating _ => some ⟨"POST", server ++ "/api/session/create", none, 0⟩
  | pinging id interval =>
    some ⟨"PUT", server ++ "/api/session/ping", some (SessionReference.json ⟨id⟩),
      interval.getD 0⟩
  | asking => some ⟨"GET", server ++ "/api/pool/status", none, 0⟩
  | ended _ => none

/-- What an outcome leads to: lines that are printed, and the next stage. -/
structure Step where
  lines : List Line
  next : Stage
deriving DecidableEq, Repr

/-- The end of a task. -/
def finish (lines : List Line) (e : Ending) : Step := ⟨lines, .ended e⟩

/-- The content of a successful answer. -/
def content {α : Type} (call : Call) (reader : Json.Reader α) (outcome : Except Fault Answer) :
    Except Failure α :=
  match outcome with
  | .error f => .error (.fault f)
  | .ok a =>
    if Http.isSuccess a.status then
      (Json.Reader.readAll reader a.body).mapError fun _ => .undecodable
    else .error (.status a.status call.url)

/-- What the client says when the server takes no more sessions. -/
def tooBusyText : String :=
  "There are too many connections at the time. Please try again later"

/-- The name under which the client reports errors. -/
def name : String := "helpdesk-cli"

/-- The step after a creation. -/
def afterCreate (interval : Option Nat) (content : Except Failure CreateAnswer) : Step :=
  match content with
  | .error f => finish [] (.failed f)
  | .ok ⟨.created, some id⟩ =>
    let lines := [Line.output ("Session created: " ++ id.text)]
    match interval with
    | some _ => ⟨lines, .pinging id interval⟩
    | none => finish lines .done
  | .ok ⟨.tooBusy, _⟩ => finish [.error tooBusyText] (.left 2)
  | .ok _ => finish [] (.failed .notCreated)

/-- The step after a ping. -/
def afterPing (id : SessionId) (interval : Option Nat) (content : Except Failure ActionAnswer) :
    Step :=
  match content, interval with
  | .error f, _ => finish [] (.failed f)
  | .ok ⟨.success⟩, some _ => ⟨[], .pinging id interval⟩
  | .ok ⟨.failed⟩, some _ => finish [] (.failed (.dropped id))
  | .ok ⟨.success⟩, none => finish [.output ("Session " ++ id.text ++ " prolongated")] .done
  | .ok ⟨.failed⟩, none =>
    finish [.error ("Session " ++ id.text ++ " is unknown or expired")] (.left 1)

/-- The step after asking for the status.  Here the client itself says that there is no
answer or no success. -/
def afterStatus (call : Call) (content : Except Failure PoolReport) : Step :=
  match content with
  | .ok report => finish (report.lines.map .output) .done
  | .error (.fault f) =>
    finish [.error (name ++ ": cannot reach " ++ call.url ++ " - " ++ f.text)] (.left 1)
  | .error (.status code _) =>
    finish [.error (name ++ ": server returned HTTP " ++ Http.statusText code)] (.left 1)
  | .error f => finish [] (.failed f)

/-- The step of a stage after the outcome of its request. -/
def Stage.receive (stage : Stage) (call : Call) (outcome : Except Fault Answer) : Step :=
  match stage with
  | creating interval => afterCreate interval (content call Json.Reader.clientCreateAnswer outcome)
  | pinging id interval => afterPing id interval (content call Json.Reader.actionAnswer outcome)
  | asking => afterStatus call (content call Json.Reader.poolReport outcome)
  | ended e => finish [] e

/-! ## Runs -/

/-- What a client does: its requests, the lines it prints, and the stage it comes to. -/
structure Run where
  calls : List Call
  lines : List Line
  stage : Stage
deriving Repr

/-- Runs a client from a stage while the network makes of its requests what is listed.  A
request beyond the list is sent, and the client waits. -/
def run (server : String) (stage : Stage) : List Delivery → Run
  | [] => ⟨(stage.call? server).toList, [], stage⟩
  | d :: rest =>
    match stage.call? server with
    | none => ⟨[], [], stage⟩
    | some call =>
      let step := stage.receive call (call.outcome d)
      let r := run server step.next rest
      ⟨call :: r.calls, step.lines ++ r.lines, r.stage⟩

/-- The address without the slashes at its end. -/
def trimmed (server : String) : String :=
  String.ofList (server.toList.reverse.dropWhile (· = '/')).reverse

/-- What a program leaves behind: its exit code and the lines that it printed. -/
structure Exit where
  code : Nat
  lines : List Line
deriving DecidableEq, Repr

/-- The lines and the exit code of a client that comes to an ending. -/
def Ending.exit : Ending → Exit
  | done => ⟨0, []⟩
  | failed f => ⟨1, [.error (name ++ ": " ++ f.text)]⟩
  | left code => ⟨code, []⟩

/-- A client program that carries out a command. -/
def carryOut (c : ClientCommand) (deliveries : List Delivery) : Run :=
  run (trimmed c.server) (.ofTask c.task) deliveries

/-- What a run leaves behind once it has ended. -/
def Run.exit? (r : Run) : Option Exit :=
  match r.stage with
  | .ended e => some ⟨e.exit.code, r.lines ++ e.exit.lines⟩
  | _ => none

/-- The line that tells the client's version. -/
def versionLine : String := name ++ " " ++ protocolVersion

end SupportDesk.Client
