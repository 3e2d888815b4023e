/-
# The pool as the client reports it

The client reads the server's status report, takes from it what it shows, and writes one
line for each counter and each agent.  Columns are filled with spaces by characters, and a
longer value is not cut.
-/

import SupportDesk.Json.Message

namespace SupportDesk

/-- An agent as the client reports it. -/
structure AgentReport where
  id : AgentId
  kind : String
  level : String
  workingHours : String
  available : Bool
  queueSize : UInt64
  maxSlots : UInt64
deriving DecidableEq, Repr

/-- A pool as the client reports it. -/
structure PoolReport where
  capacity : UInt64
  maximumQueueSize : UInt64
  queueSize : UInt64
  activeSessions : UInt64
  agents : List AgentReport
deriving DecidableEq, Repr

namespace AgentReport

/-- A text filled with spaces on the left to a width. -/
def rightAligned (width : Nat) (s : String) : String :=
  String.ofList (List.replicate (width - s.length) ' ') ++ s

/-- A text filled with spaces on the right to a width. -/
def leftAligned (width : Nat) (s : String) : String :=
  s ++ String.ofList (List.replicate (width - s.length) ' ')

/-- The line of an agent. -/
def line (a : AgentReport) : String :=
  "  " ++ rightAligned 4 (toString a.id) ++ " " ++ leftAligned 10 a.kind ++ " "
    ++ leftAligned 9 a.level ++ " " ++ a.workingHours ++ "  " ++ toString a.queueSize ++ "/"
    ++ toString a.maxSlots ++ (if a.available then "" else "  (closed)")

end AgentReport

/-- The lines of a pool. -/
def PoolReport.lines (p : PoolReport) : List String :=
  ["Capacity:        " ++ toString p.capacity, "Max backlog:     " ++ toString p.maximumQueueSize,
   "Backlog:         " ++ toString p.queueSize, "Active sessions: " ++ toString p.activeSessions,
   "Agents:"] ++ p.agents.map AgentReport.line

namespace Json.Reader

/-- Reads a whole number of 64 bits. -/
def word : Reader UInt64 := do return (← natural maxNatural).toUInt64

/-- The fields of an agent that have been read. -/
structure AgentDraft where
  id : Option AgentId
  kind : Option String
  level : Option String
  workingHours : Option String
  available : Option Bool
  queueSize : Option UInt64
  maxSlots : Option UInt64

/-- The fields of an agent. -/
def agentFields : List (Field AgentDraft) :=
  [field "id" (do return (← natural 0xffffffff).toUInt32) fun d v => { d with id := v },
   field "kind" text fun d v => { d with kind := v },
   field "level" text fun d v => { d with level := v },
   field "working_hours" text fun d v => { d with workingHours := v },
   field "available" boolean fun d v => { d with available := v },
   field "queue_size" word fun d v => { d with queueSize := v },
   field "max_slots" word fun d v => { d with maxSlots := v }]

/-- Reads an agent. -/
def agentReport : Reader AgentReport := do
  let d ← record agentFields ⟨none, none, none, none, none, none, none⟩
  return ⟨← required "id" d.id, ← required "kind" d.kind, ← required "level" d.level,
    ← required "working_hours" d.workingHours, ← required "available" d.available,
    ← required "queue_size" d.queueSize, ← required "max_slots" d.maxSlots⟩

/-- Reads a list of values. -/
def listOf {α : Type} (item : Reader α) : Reader (List α) := do
  if (← peekToken) = '[' then
    advance
    readItems item
  else refuse

/-- The fields of a pool that have been read. -/
structure PoolDraft where
  capacity : Option UInt64
  maximumQueueSize : Option UInt64
  queueSize : Option UInt64
  activeSessions : Option UInt64
  agents : Option (List AgentReport)

/-- The fields of a pool. -/
def poolFields : List (Field PoolDraft) :=
  [field "capacity" word fun d v => { d with capacity := v },
   field "maximum_queue_size" word fun d v => { d with maximumQueueSize := v },
   field "queue_size" word fun d v => { d with queueSize := v },
   field "active_sessions" word fun d v => { d with activeSessions := v },
   field "agents" (listOf agentReport) fun d v => { d with agents := v }]

/-- Reads a pool. -/
def poolReport : Reader PoolReport := do
  let d ← record poolFields ⟨none, none, none, none, none⟩
  return ⟨← required "capacity" d.capacity, ← required "maximum_queue_size" d.maximumQueueSize,
    ← required "queue_size" d.queueSize, ← required "active_sessions" d.activeSessions,
    ← required "agents" d.agents⟩

/-- Reads the answer to the client's creation of a session; written as an array it has both
fields. -/
def clientCreateAnswer : Reader CreateAnswer := do
  let fields := createFields.map fun f => { f with mayEndEarly := false }
  let d ← record fields ⟨none, none⟩
  return ⟨← required "code" d.code, d.sessionId.join⟩

end Json.Reader

end SupportDesk
