/-
# The desk's configuration

The sections of the configuration with their fields, how each is read from the settings,
the rules that a configuration must keep, and the pool that it describes.
-/

import SupportDesk.Agent.Allocation
import SupportDesk.Service.Error
import SupportDesk.Settings.Reading
import SupportDesk.Settings.Source
import SupportDesk.Wire.Message

namespace SupportDesk

/-- The section about the service itself. -/
structure ServiceSection where
  socketPath : String
  logLevel : String
deriving DecidableEq, Repr

/-- The hours of additional agents that have none of their own. -/
structure WorkingHoursSection where
  start : TimeOfDay
  stop : TimeOfDay
deriving DecidableEq, Repr

/-- The section about the pool. -/
structure PoolSection where
  concurrency : UInt32
  timeoutSeconds : UInt64
deriving DecidableEq, Repr

/-- A regular agent of the configuration. -/
structure RegularEntry where
  id : AgentId
  level : Level
  shiftStart : TimeOfDay
  shiftHours : UInt32
  team : String
deriving DecidableEq, Repr

/-- An additional agent of the configuration. -/
structure AdditionalEntry where
  id : AgentId
  shiftStart : Option TimeOfDay
  shiftEnd : Option TimeOfDay
deriving DecidableEq, Repr

/-- The section about the agents. -/
structure AgentsSection where
  regular : List RegularEntry
  additional : List AdditionalEntry
deriving DecidableEq, Repr

/-- The section about the HTTP interface. -/
structure HttpSection where
  enabled : Bool
  host : String
  port : UInt16
deriving DecidableEq, Repr

/-- The configuration of a desk. -/
structure DeskConfig where
  service : ServiceSection
  workingHours : WorkingHoursSection
  pool : PoolSection
  agents : AgentsSection
  http : HttpSection
deriving DecidableEq, Repr

namespace DeskConfig

open Setting

/-- The agents of a configuration without them. -/
def noAgents : AgentsSection := ⟨[], []⟩

/-- The HTTP interface of a configuration without it. -/
def defaultHttp : HttpSection := ⟨true, "127.0.0.1", 8767⟩

/-! ## Reading -/

/-- A time of day. -/
def readTime (v : Setting) : Read TimeOfDay := do
  let text ← v.asText
  match TimeOfDay.parse? text with
  | some t => return t
  | none => .error (.message ("invalid time of day '" ++ text ++ "'"))

/-- The number of an agent, or another number of 32 bits. -/
def readU32 (v : Setting) : Read UInt32 := do return (← v.asUnsigned 32).toUInt32

/-- The fields of the section about the service. -/
def serviceLayout : Layout := ⟨"ServiceConfig", ["socket_path", "log_level"]⟩

/-- The section about the service. -/
def readService (v : Setting) : Read ServiceSection := do
  let f ← v.fieldsOf serviceLayout
  let socketPath ← f.read? serviceLayout "socket_path" asText
  let logLevel ← f.read? serviceLayout "log_level" asText
  return ⟨← f.require serviceLayout "socket_path" socketPath,
    ← f.require serviceLayout "log_level" logLevel⟩

/-- The fields of the section about the working hours. -/
def workingHoursLayout : Layout := ⟨"WorkingHoursConfig", ["start", "end"]⟩

/-- The section about the working hours. -/
def readWorkingHours (v : Setting) : Read WorkingHoursSection := do
  let f ← v.fieldsOf workingHoursLayout
  let start ← f.read? workingHoursLayout "start" readTime
  let stop ← f.read? workingHoursLayout "end" readTime
  return ⟨← f.require workingHoursLayout "start" start,
    ← f.require workingHoursLayout "end" stop⟩

/-- The fields of the section about the pool. -/
def poolLayout : Layout :=
  ⟨"PoolConfig", ["maximum_concurrency_per_agent", "session_timeout_seconds"]⟩

/-- The section about the pool. -/
def readPool (v : Setting) : Read PoolSection := do
  let f ← v.fieldsOf poolLayout
  let concurrency ← f.read? poolLayout "maximum_concurrency_per_agent" readU32
  let timeout ← f.read? poolLayout "session_timeout_seconds" asWord
  return ⟨← f.require poolLayout "maximum_concurrency_per_agent" concurrency,
    (← f.require poolLayout "session_timeout_seconds" timeout).toUInt64⟩

/-- The fields of a regular agent. -/
def regularLayout : Layout :=
  ⟨"RegularAgentConfig", ["id", "level", "shift_start", "shift_hours", "team"]⟩

/-- A regular agent. -/
def readRegular (v : Setting) : Read RegularEntry := do
  let f ← v.fieldsOf regularLayout
  let id ← f.read? regularLayout "id" readU32
  let level ← f.read? regularLayout "level" (asVariant "AgentLevel" Level.variants)
  let start ← f.read? regularLayout "shift_start" readTime
  let hours ← f.read? regularLayout "shift_hours" readU32
  let team ← f.read? regularLayout "team" asText
  return ⟨← f.require regularLayout "id" id, ← f.require regularLayout "level" level,
    ← f.require regularLayout "shift_start" start,
    ← f.require regularLayout "shift_hours" hours, ← f.require regularLayout "team" team⟩

/-- The fields of an additional agent. -/
def additionalLayout : Layout := ⟨"AdditionalAgentConfig", ["id", "shift_start", "shift_end"]⟩

/-- An additional agent. -/
def readAdditional (v : Setting) : Read AdditionalEntry := do
  let f ← v.fieldsOf additionalLayout
  let id ← f.read? additionalLayout "id" readU32
  let start ← f.read? additionalLayout "shift_start" (asOptional readTime)
  let stop ← f.read? additionalLayout "shift_end" (asOptional readTime)
  return ⟨← f.require additionalLayout "id" id, start.join, stop.join⟩

/-- The fields of the section about the agents. -/
def agentsLayout : Layout := ⟨"AgentsConfig", ["regular", "additional"]⟩

/-- The section about the agents. -/
def readAgents (v : Setting) : Read AgentsSection := do
  let f ← v.fieldsOf agentsLayout
  let regular ← f.read? agentsLayout "regular" (asList readRegular)
  let additional ← f.read? agentsLayout "additional" (asList readAdditional)
  return ⟨regular.getD [], additional.getD []⟩

/-- The fields of the section about the HTTP interface. -/
def httpLayout : Layout := ⟨"HttpConfig", ["enabled", "host", "port"]⟩

/-- The section about the HTTP interface. -/
def readHttp (v : Setting) : Read HttpSection := do
  let f ← v.fieldsOf httpLayout
  let enabled ← f.read? httpLayout "enabled" asBoolean
  let host ← f.read? httpLayout "host" asText
  let port ← f.read? httpLayout "port" (asUnsigned 16)
  return ⟨← f.require httpLayout "enabled" enabled, ← f.require httpLayout "host" host,
    (← f.require httpLayout "port" port).toUInt16⟩

/-- The sections of a configuration. -/
def layout : Layout :=
  ⟨"HelpdeskConfig", ["service", "working_hours", "pool", "agents", "http"]⟩

/-- The configuration that settings describe. -/
def read (v : Setting) : Read DeskConfig := do
  let f ← v.fieldsOf layout
  let service ← f.read? layout "service" readService
  let workingHours ← f.read? layout "working_hours" readWorkingHours
  let pool ← f.read? layout "pool" readPool
  let agents ← f.read? layout "agents" readAgents
  let http ← f.read? layout "http" readHttp
  return ⟨← f.require layout "service" service, ← f.require layout "working_hours" workingHours,
    ← f.require layout "pool" pool, agents.getD noAgents, http.getD defaultHttp⟩

/-- The configuration of a file with variables laid over it. -/
def load (files : Settings.Files) (environment : List (String × String)) (path : String) :
    Except SettingError DeskConfig := do
  read (← Settings.gather files environment path)

/-! ## Rules -/

/-- The rules that a configuration can break. -/
inductive Invalid
  | concurrency
  | timeout
  | duplicateId (id : AgentId)
  | shiftHours (id : AgentId) (hours : UInt32)
  | emptyWindow (id : AgentId) (time : TimeOfDay)
deriving DecidableEq, Repr

/-- The text of a broken rule. -/
def Invalid.message : Invalid → String
  | concurrency => "pool.maximum_concurrency_per_agent must be positive"
  | timeout => "pool.session_timeout_seconds must be positive"
  | duplicateId id => "duplicate agent id " ++ toString id
  | shiftHours id hours =>
    "agent " ++ toString id ++ ": shift_hours must be between 1 and 23, got " ++ toString hours
  | emptyWindow id time =>
    "additional agent " ++ toString id ++ ": shift start and end are both " ++ time.hoursMinutes

/-- The window of an additional agent; what it does not say, the working hours say. -/
def window (c : DeskConfig) (a : AdditionalEntry) : TimeOfDay × TimeOfDay :=
  (a.shiftStart.getD c.workingHours.start, a.shiftEnd.getD c.workingHours.stop)

/-- The problem of a regular agent after those with the given numbers. -/
def regularProblem? (seen : List AgentId) (a : RegularEntry) : Option Invalid :=
  if a.id ∈ seen then some (.duplicateId a.id)
  else if 1 ≤ a.shiftHours ∧ a.shiftHours ≤ 23 then none
  else some (.shiftHours a.id a.shiftHours)

/-- The problem of an additional agent after those with the given numbers. -/
def additionalProblem? (c : DeskConfig) (seen : List AgentId) (a : AdditionalEntry) :
    Option Invalid :=
  if a.id ∈ seen then some (.duplicateId a.id)
  else if (c.window a).1 = (c.window a).2 then some (.emptyWindow a.id (c.window a).1)
  else none

/-- The first problem along a list of agents, each looked at with the numbers before it. -/
def firstProblem? {α : Type} (id : α → AgentId) (problem? : List AgentId → α → Option Invalid) :
    List AgentId → List α → Option Invalid
  | _, [] => none
  | seen, a :: rest =>
    (problem? seen a).or (firstProblem? id problem? (seen ++ [id a]) rest)

/-- The first rule that a configuration breaks: the concurrency, the timeout, and then the
agents in order. -/
def problem? (c : DeskConfig) : Option Invalid :=
  if c.pool.concurrency = 0 then some .concurrency
  else if c.pool.timeoutSeconds = 0 then some .timeout
  else
    (firstProblem? (·.id) regularProblem? [] c.agents.regular).or
      (firstProblem? (·.id) c.additionalProblem? (c.agents.regular.map (·.id))
        c.agents.additional)

/-- Refuses a configuration that breaks a rule. -/
def validate (c : DeskConfig) : Except Invalid Unit :=
  match c.problem? with
  | some p => .error p
  | none => .ok ()

/-- The configuration of a file with variables laid over it, if it keeps the rules. -/
def loadValidated (files : Settings.Files) (environment : List (String × String)) (path : String) :
    Except ServiceError DeskConfig :=
  match load files environment path with
  | .error e => .error (.config e.text)
  | .ok c =>
    match c.validate with
    | .error p => .error (.invalidConfig p.message)
    | .ok () => .ok c

/-! ## The pool -/

/-- The largest number of seconds in a span that a calendar takes, in either direction. -/
def maxSpanSeconds : Int := 9223372036854775

/-- The timeout in seconds, taken as a signed word. -/
def signedTimeout (c : DeskConfig) : Int :=
  let n : Int := c.pool.timeoutSeconds.toNat
  if n < 0x8000000000000000 then n else n - 0x10000000000000000

/-- The regular agents of the roster. -/
def regularAgents (c : DeskConfig) : List RegularAgent :=
  c.agents.regular.map fun a =>
    .ofShift a.id a.shiftStart (.ofHours a.shiftHours.toNat) a.level a.team

/-- The additional agents of the roster. -/
def additionalAgents (c : DeskConfig) : List AdditionalAgent :=
  c.agents.additional.map fun a => .ofWindow a.id (c.window a).1 (c.window a).2

/-- The pool that a configuration describes; its timeout must be a span. -/
def poolSettings (c : DeskConfig) : Except TimeError PoolSettings :=
  if c.signedTimeout.natAbs ≤ maxSpanSeconds.natAbs then
    .ok ⟨c.pool.concurrency, .ofSeconds c.signedTimeout, c.regularAgents, c.additionalAgents⟩
  else .error .spanOutOfBounds

end DeskConfig

end SupportDesk
