/-
# Starting the service

The service reads its command line and its configuration and then either checks the
configuration and tells the layout of the pool, or begins to serve.  A configuration that
cannot be used ends it.
-/

import SupportDesk.CommandLine.Grammar
import SupportDesk.Pool.Desk
import SupportDesk.Service.LogDirective
import SupportDesk.Settings.DeskConfig
import SupportDesk.Settings.EnvironmentFile

namespace SupportDesk.Service

open CommandLine

/-- What the command line of the service says. -/
structure ServiceCommand where
  configPath : String
  /-- Whether to check the configuration and end. -/
  health : Bool
deriving DecidableEq, Repr

namespace ServiceCommand

/-- The configuration file without any other given. -/
def defaultPath : String := "helpdesk.toml"

/-- The line of the service. -/
def grammar : Grammar :=
  ⟨[⟨"config", some 'c', .value fun _ => true⟩, ⟨"health", none, .switch⟩, helpOption,
    versionOption], [], []⟩

/-- Reads a command line. -/
def read (words : List String) : Except Stop ServiceCommand := do
  let given ← grammar.read words
  return ⟨(given.value? "config").getD defaultPath, given.has "health"⟩

end ServiceCommand

/-- The name of the program. -/
def name : String := "helpdesk-server"

/-- The line that tells the version. -/
def versionLine : String := name ++ " " ++ protocolVersion

/-- The variable that holds log directives. -/
def logVariable : String := "RUST_LOG"

/-- The target of the log line about the pool. -/
def logTarget : String := "helpdesk_core::manager"

/-- The fields of the log line about the pool. -/
def logFields : List String := ["message"]

/-- What becomes of a start of the service. -/
inductive Startup
  /-- The command line asks for something else, or is wrong. -/
  | stopped (stop : Stop)
  /-- The configuration cannot be used. -/
  | refused (line : String)
  /-- The configuration's timeout is no span of time. -/
  | crashed (complaints : List String) (e : TimeError)
  /-- The configuration was checked. -/
  | checked (complaints lines : List String)
  /-- The service begins to serve. -/
  | serving (complaints lines : List String) (config : DeskConfig) (desk : Desk)
deriving Repr

/-- The exit code of a start that does not lead to serving. -/
def Startup.code? : Startup → Option Nat
  | stopped stop => some stop.code
  | refused _ => some 1
  | crashed .. => some 101
  | checked .. => some 0
  | serving .. => none

/-- The lines that a start prints. -/
def Startup.outputs : Startup → List String
  | checked _ lines => lines
  | serving _ lines _ _ => lines
  | _ => []

/-- The lines that a start prints about errors and about log directives that are none. -/
def Startup.errors : Startup → List String
  | refused line => [line]
  | crashed complaints e => complaints ++ [e.message]
  | checked complaints _ => complaints
  | serving complaints _ _ _ => complaints
  | stopped _ => []

/-- The line about a configuration that cannot be used. -/
def refusal (path : String) (e : ServiceError) : String :=
  "Failed to load config from " ++ path ++ ": " ++ e.text

/-- The log line about a pool. -/
def readyLine (p : Pool) (now : Moment) : String :=
  "INFO " ++ logTarget ++ ": Session manager ready: capacity=" ++ toString (p.capacity now)
    ++ ", max queue=" ++ toString (p.maximumQueueSize now) ++ ", timeout="
    ++ toString p.timeout.wholeSeconds ++ "s"

/-- The log directives of an environment. -/
def logDirectives (environment : EnvironmentFile.Variables) : String :=
  (EnvironmentFile.lookup? environment logVariable).getD ""

/-- Whether the log line about the pool is written. -/
def logsReady (c : DeskConfig) (environment : EnvironmentFile.Variables) : Bool :=
  (LogLevel.configured c.service.logLevel).isWritten
    (LogDirective.parseAll (logDirectives environment)) logTarget logFields .info

/-- The lines of a checked configuration. -/
def healthLines (s : PoolSettings) (p : Pool) (now : Moment) : List String :=
  ["✅ Config valid: " ++ toString s.regular.length ++ " regular, "
      ++ toString s.additional.length ++ " additional agents",
   "✅ Capacity now: " ++ toString (p.capacity now) ++ " (max backlog "
      ++ toString (p.maximumQueueSize now) ++ ")"]

/-- Starts the service with the words of its command line, among the given files and
variables. -/
def startup (files : Settings.Files) (environment : EnvironmentFile.Variables) (now : Moment)
    (words : List String) : Startup :=
  match ServiceCommand.read words with
  | .error stop => .stopped stop
  | .ok command =>
    match DeskConfig.loadValidated files environment command.configPath with
    | .error e => .refused (refusal command.configPath e)
    | .ok config =>
      let complaints := LogDirective.complaints (logDirectives environment)
      match config.poolSettings with
      | .error e => .crashed complaints e
      | .ok settings =>
        let pool := Pool.ofSettings settings now
        let log := if logsReady config environment then [readyLine pool now] else []
        if command.health then .checked complaints (log ++ healthLines settings pool now)
        else .serving complaints log config (Desk.start ⟨pool, .manual now, 0, none⟩)

end SupportDesk.Service
