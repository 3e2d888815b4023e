/-
# The client's command line

The client is told the address of a server and a task: to create a session, to ping one, to
create one and keep it alive, or to report on the pool.  The address comes from the line, or
else from the environment, or else it is the default.
-/

import SupportDesk.CommandLine.Grammar
import SupportDesk.Session.Id

namespace SupportDesk

open CommandLine

/-- What the client is to do. -/
inductive ClientTask
  | create
  | ping (id : SessionId)
  /-- Create a session and ping it after every interval, given in milliseconds. -/
  | connect (interval : Nat)
  | status
deriving DecidableEq, Repr

/-- A task with the address of the server. -/
structure ClientCommand where
  server : String
  task : ClientTask
deriving DecidableEq, Repr

namespace ClientCommand

/-- The address without any other given. -/
def defaultServer : String := "http://127.0.0.1:8767"

/-- The environment variable that can hold the address. -/
def serverVariable : String := "HELPDESK_HTTP_URL"

/-- The milliseconds between two pings without any others given. -/
def defaultInterval : Nat := 1000

/-- The largest interval that can be given. -/
def maxInterval : Nat := 0xffffffffffffffff

/-- The number that an interval's text denotes. -/
def interval? (text : String) : Option Nat := Digits.readNumeral? maxInterval text

/-- The names of the tasks. -/
def taskNames : List String := ["create", "ping", "connect", "status"]

/-- The line up to the name of the task. -/
def grammar : Grammar :=
  ⟨[⟨"server", none, .value fun _ => true⟩, helpOption, versionOption], [],
    "help" :: taskNames⟩

/-- The line of a task that takes nothing. -/
def bareGrammar : Grammar := ⟨[helpOption], [], []⟩

/-- The line of a ping. -/
def pingGrammar : Grammar := ⟨[helpOption], [fun text => (SessionId.parse? text).isSome], []⟩

/-- The line of a connection. -/
def connectGrammar : Grammar :=
  ⟨[⟨"interval", none, .value fun text => (interval? text).isSome⟩, helpOption], [], []⟩

/-- Asking for help about a task by name. -/
def helpOn (words : List String) : Stop :=
  match words with
  | [] => .help
  | [name] => if grammar.subcommands.contains name then .help else .mistake
  | _ => .mistake

/-- The task of a name, from the words after it. -/
def readTask (name : String) (words : List String) : Except Stop ClientTask :=
  match name with
  | "create" => do
    let _ ← bareGrammar.read words
    return .create
  | "status" => do
    let _ ← bareGrammar.read words
    return .status
  | "ping" => do
    let given ← pingGrammar.read words
    match given.operands.head?.bind SessionId.parse? with
    | some id => return .ping id
    | none => .error .mistake
  | "connect" => do
    let given ← connectGrammar.read words
    return .connect (((given.value? "interval").bind interval?).getD defaultInterval)
  | "help" => .error (helpOn words)
  | _ => .error .mistake

/-- Reads a command line; `address` is the value of the environment variable. -/
def read (address : Option String) (words : List String) : Except Stop ClientCommand := do
  match ← grammar.readWords words .start with
  | (_, none) => .error .mistake
  | (r, some (name, rest)) =>
    let task ← readTask name rest
    let r ← r.settle
    return ⟨((r.given.value? "server").or address).getD defaultServer, task⟩

end ClientCommand

end SupportDesk
