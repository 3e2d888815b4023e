/-
# Key paths

A setting is addressed by a path such as `agents.regular[0].team`: a name, and then names
after dots and positions in brackets.  Storing at a path makes the tables and arrays that
it leads through, whatever was there.
-/

import SupportDesk.Settings.Value
import SupportDesk.Text.Digits

namespace SupportDesk

/-- One step of a path: into a table, or into an array. -/
inductive KeyStep
  | name (key : String)
  | position (i : Int)
deriving DecidableEq, Repr

namespace KeyPath

/-- Whether a character may stand in a name. -/
def isNameChar (c : Char) : Bool := c.isAlphanum || c == ' ' || c == '_' || c == '-'

/-- Reads a name at the front, and takes it in lower case. -/
def name? (cs : List Char) : Option (String × List Char) :=
  let name := cs.takeWhile isNameChar
  if name.isEmpty then none
  else some (LowerCase.text (String.ofList name), cs.drop name.length)

/-- Whether a character is a blank. -/
def isBlank (c : Char) : Bool := c == ' ' || c == '\t'

/-- Reads a position after its opening bracket. -/
def position? (cs : List Char) : Option (Int × List Char) :=
  let cs := cs.dropWhile isBlank
  let (negative, cs) := match cs with
    | '-' :: rest => (true, rest)
    | rest => (false, rest)
  let digits := cs.takeWhile Digits.isDecimal
  match digits.isEmpty, Digits.readDecimal? digits, (cs.drop digits.length).dropWhile isBlank with
  | false, some n, ']' :: rest =>
    if n < 0x8000000000000000 then some (if negative then -(n : Int) else n, rest) else none
  | _, _, _ => none

/-- Reads the steps after the first name.  The fuel bounds their number. -/
def stepsAux? : Nat → List Char → Option (List KeyStep)
  | 0, _ => none
  | _ + 1, [] => some []
  | fuel + 1, '.' :: rest => do
    let (name, rest) ← name? rest
    return .name name :: (← stepsAux? fuel rest)
  | fuel + 1, '[' :: rest => do
    let (i, rest) ← position? rest
    return .position i :: (← stepsAux? fuel rest)
  | _ + 1, _ => none

/-- Reads a path: its first name, and the steps after it. -/
def parse? (text : String) : Option (String × List KeyStep) := do
  let (name, rest) ← name? text.toList
  return (name, ← stepsAux? (rest.length + 1) rest)

/-- Sets the last step of a path in the value that the path leads to. -/
def storeAt (step : KeyStep) (v : Setting) (node : Setting) : Setting :=
  match step with
  | .name key => node.merge key v
  | .position i =>
    let (o, items) := node.asArray
    .array o (Setting.modifyItem items i fun _ => v)

/-- Changes the value that steps lead to, making tables and arrays on the way. -/
def modify (f : Setting → Setting) : List KeyStep → Setting → Setting
  | [], node => f node
  | .name key :: rest, node =>
    let (o, entries) := node.asTable
    let inner := (Setting.lookup? entries key).getD (.nil none)
    .table o (Setting.put entries key (modify f rest inner))
  | .position i :: rest, node =>
    let (o, items) := node.asArray
    .array o (Setting.modifyItem items i (modify f rest))

/-- Stores a value under a key, which is read as a path if it is one. -/
def store (node : Setting) (key : String) (v : Setting) : Setting :=
  match parse? key with
  | none => node.merge key v
  | some (first, steps) =>
    match (KeyStep.name first :: steps).reverse with
    | last :: before => modify (storeAt last v) before.reverse node
    | [] => node

/-- Stores entries one after the other. -/
def storeAll (node : Setting) (entries : List (String × Setting)) : Setting :=
  entries.foldl (fun node e => store node e.1 e.2) node

end KeyPath

end SupportDesk
