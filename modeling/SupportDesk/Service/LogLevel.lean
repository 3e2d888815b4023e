/-
# Log levels

The levels of log lines, from the gravest down.  A text gives a level by its name or by its
position.
-/

import SupportDesk.Text.Digits

namespace SupportDesk

/-- The levels, from the gravest down. -/
inductive LogLevel
  | error
  | warn
  | info
  | debug
  | trace
deriving DecidableEq, Repr

namespace LogLevel

/-- The position from the gravest, which is 1. -/
def rank : LogLevel → Nat
  | error => 1
  | warn => 2
  | info => 3
  | debug => 4
  | trace => 5

/-- The word for the level in a configuration. -/
def name : LogLevel → String
  | error => "error"
  | warn => "warn"
  | info => "info"
  | debug => "debug"
  | trace => "trace"

/-- Every level. -/
def all : List LogLevel := [error, warn, info, debug, trace]

/-- The level that a text names, in any case, or gives by its position. -/
def parse? (text : String) : Option LogLevel :=
  all.find? fun l =>
    Digits.readNumeral? 5 text = some l.rank || text.toList.map Char.toLower = l.name.toList

/-- The level of a configuration; a text that names none stands for `info`. -/
def configured (text : String) : LogLevel := (parse? text).getD info

/-- The rank up to which a text lets lines pass: that of a level, or 0, which lets none pass. -/
def rankOf? (text : String) : Option Nat :=
  if Digits.readNumeral? 0 text = some 0 || text.toList.map Char.toLower = "off".toList then some 0
  else (parse? text).map rank

end LogLevel

end SupportDesk
