/-
# Errors of the settings

Why settings could not be read: the file could not be used or understood, a value has a
type that cannot be taken for the one needed, or a value does not say what it should.
-/

import SupportDesk.Text.Quoted

namespace SupportDesk

/-- A value that was found where another was needed. -/
inductive Unexpected
  | integer (n : Int)
  | unsigned (n : Nat)
  | text (s : String)
  | nothing
  | table
  | array
deriving DecidableEq, Repr

/-- The description of a value that was found. -/
def Unexpected.description : Unexpected → String
  | integer n => "64-bit integer `" ++ toString n ++ "`"
  | unsigned n => "64-bit unsigned integer `" ++ toString n ++ "`"
  | text s => "string " ++ Quoted.text s
  | nothing => "unit value"
  | table => "map"
  | array => "sequence"

/-- Why settings could not be read. -/
inductive SettingError
  /-- The file breaks the rules of its format. -/
  | fileParse
  /-- The file cannot be used. -/
  | foreign (message : String)
  /-- A value has the wrong type.  The key leads to it from the root. -/
  | type (found : Unexpected) (expected : String) (key : Option String) (origin : Option String)
  /-- A value does not say what it should. -/
  | message (text : String)
deriving DecidableEq, Repr

namespace SettingError

/-- The text of an error; errors in the file's format have none of their own. -/
def message? : SettingError → Option String
  | fileParse => none
  | foreign m => some m
  | type found expected key origin =>
    some ("invalid type: " ++ found.description ++ ", expected " ++ expected
      ++ (match key with
        | some k => " for key `" ++ k ++ "`"
        | none => "")
      ++ (match origin with
        | some o => " in " ++ o
        | none => ""))
  | message text => some text

/-- The text of an error in a report. -/
def text (e : SettingError) : String := e.message?.getD "malformed configuration file"

/-- Puts a name in front of the key of a type error.  A position follows without a dot. -/
def underName (name : String) : SettingError → SettingError
  | type found expected key origin =>
    let rest := key.getD ""
    let dot := if rest.isEmpty || rest.startsWith "[" then "" else "."
    type found expected (some (name ++ dot ++ rest)) origin
  | e => e

/-- Puts a position in front of the key of a type error; what follows has no dot. -/
def underPosition (i : Nat) : SettingError → SettingError
  | type found expected key origin =>
    type found expected (some ("[" ++ toString i ++ "]" ++ key.getD "")) origin
  | e => e

end SettingError

end SupportDesk
