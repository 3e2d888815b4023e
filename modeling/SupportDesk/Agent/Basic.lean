/-
# Support agents

There are two kinds.  A regular agent belongs to a team, and counts toward the capacity of
the desk while on shift.  An additional agent is a junior who takes sessions only while on
shift and opened to chat.
-/

import SupportDesk.Calendar.Moment

namespace SupportDesk

/-- An agent's seniority, in the order in which agents are given work. -/
inductive Level
  | junior
  | middle
  | senior
  | teamLead
deriving DecidableEq, Repr

namespace Level

/-- All levels, in order. -/
def all : List Level := [junior, middle, senior, teamLead]

/-- The share of the desk's concurrency that an agent can serve, in percent. -/
def percent : Level → Nat
  | junior => 40
  | middle => 60
  | senior => 80
  | teamLead => 50

/-- The rank in the order of dispatch; a lower rank is given work first. -/
def priority : Level → Nat
  | junior => 0
  | middle => 1
  | senior => 2
  | teamLead => 3

/-- The written name. -/
def name : Level → String
  | junior => "Junior"
  | middle => "Middle"
  | senior => "Senior"
  | teamLead => "TeamLead"

instance : ToString Level := ⟨name⟩

/-- The names of all levels, in order. -/
def names : List String := all.map name

/-- The level with a given name. -/
def ofName? (text : String) : Option Level := all.find? fun l => l.name = text

/-- A level is read back from its name. -/
@[simp] theorem ofName?_name (l : Level) : ofName? l.name = some l := by
  cases l <;> decide

end Level

/-- The number that identifies an agent on the roster. -/
abbrev AgentId := UInt32

/-- An agent of a team, with a shift of its own. -/
structure RegularAgent where
  id : AgentId
  level : Level
  shiftStart : TimeOfDay
  shiftEnd : TimeOfDay
  team : String
deriving DecidableEq, Repr

/-- An overflow agent; `openToChat` tells whether it may be given sessions. -/
structure AdditionalAgent where
  id : AgentId
  shiftStart : TimeOfDay
  shiftEnd : TimeOfDay
  openToChat : Bool
deriving DecidableEq, Repr

/-- An agent of the roster. -/
inductive Agent
  | regular (agent : RegularAgent)
  | additional (agent : AdditionalAgent)
deriving DecidableEq, Repr

/-- A regular agent from the start and the length of the shift.  The end wraps past
midnight. -/
def RegularAgent.ofShift (id : AgentId) (start : TimeOfDay) (length : Duration)
    (level : Level) (team : String) : RegularAgent :=
  ⟨id, level, start, (start.addCarry length).1, team⟩

/-- An additional agent, closed to chat. -/
def AdditionalAgent.ofWindow (id : AgentId) (start stop : TimeOfDay) : AdditionalAgent :=
  ⟨id, start, stop, false⟩

namespace Agent

/-- The number by which the roster knows the agent. -/
def id : Agent → AgentId
  | regular a => a.id
  | additional a => a.id

/-- The seniority; additional agents are juniors. -/
def level : Agent → Level
  | regular a => a.level
  | additional _ => .junior

/-- The time at which the daily shift begins. -/
def shiftStart : Agent → TimeOfDay
  | regular a => a.shiftStart
  | additional a => a.shiftStart

/-- The time at which the daily shift is over. -/
def shiftEnd : Agent → TimeOfDay
  | regular a => a.shiftEnd
  | additional a => a.shiftEnd

/-- Whether the agent belongs to a team and counts toward the capacity. -/
def isRegular : Agent → Bool
  | regular _ => true
  | additional _ => false

/-- The team of a regular agent. -/
def team? : Agent → Option String
  | regular a => some a.team
  | additional _ => none

/-- Whether an additional agent is open to chat; not asked of a regular one. -/
def openToChat? : Agent → Option Bool
  | regular _ => none
  | additional a => some a.openToChat

/-- The word for the kind of agent. -/
def kind : Agent → String
  | regular _ => "regular"
  | additional _ => "additional"

/-- Whether the agent is on shift. -/
def working (a : Agent) (now : Moment) : Bool := TimeOfDay.within a.shiftStart a.shiftEnd now.time

/-- Whether the agent may be given a session now. -/
def available (a : Agent) (now : Moment) : Bool :=
  match a with
  | regular _ => a.working now
  | additional b => a.working now && b.openToChat

/-- Opens or closes an additional agent to chat; a regular agent is not changed. -/
def setOpen (isOpen : Bool) : Agent → Agent
  | regular a => regular a
  | additional a => additional { a with openToChat := isOpen }

/-- The shift as `HH:MM-HH:MM`. -/
def workingHours (a : Agent) : String :=
  a.shiftStart.hoursMinutes ++ "-" ++ a.shiftEnd.hoursMinutes

/-- The agent in words. -/
def text : Agent → String
  | regular a => "Agent " ++ toString a.id ++ " (level " ++ a.level.name ++ ", team " ++ a.team ++ ")"
  | additional a => "Additional agent " ++ toString a.id

instance : ToString Agent := ⟨text⟩

@[simp] theorem working_setOpen (b : Bool) (a : Agent) (now : Moment) :
    (a.setOpen b).working now = a.working now := by cases a <;> rfl

@[simp] theorem isRegular_setOpen (b : Bool) (a : Agent) : (a.setOpen b).isRegular = a.isRegular := by
  cases a <;> rfl

@[simp] theorem level_setOpen (b : Bool) (a : Agent) : (a.setOpen b).level = a.level := by
  cases a <;> rfl

end Agent

end SupportDesk
