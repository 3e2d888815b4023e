/-
# Setting values

The tree that settings are gathered into.  Every value remembers where it was set, so that
an error about it can say so; a table made while gathering was set nowhere in particular.
-/

import SupportDesk.Number.Binary64
import SupportDesk.Text.LowerCase

namespace SupportDesk

/-- A value of the settings tree, with the place where it was set. -/
inductive Setting
  | nil (origin : Option String)
  | boolean (origin : Option String) (b : Bool)
  | integer (origin : Option String) (n : Int)
  | real (origin : Option String) (x : Binary64)
  | text (origin : Option String) (s : String)
  | table (origin : Option String) (entries : List (String × Setting))
  | array (origin : Option String) (items : List Setting)
deriving Repr

namespace Setting

instance : Inhabited Setting := ⟨.nil none⟩

/-- Where a value was set. -/
def origin : Setting → Option String
  | nil o => o
  | boolean o _ => o
  | integer o _ => o
  | real o _ => o
  | text o _ => o
  | table o _ => o
  | array o _ => o

/-- The table without entries, set nowhere in particular. -/
def emptyTable : Setting := table none []

/-- The value of a key among entries. -/
def lookup? (entries : List (String × Setting)) (key : String) : Option Setting :=
  (entries.find? fun e => e.1 = key).map (·.2)

/-- Gives a key a value, in the place of the one it had. -/
def put (entries : List (String × Setting)) (key : String) (v : Setting) :
    List (String × Setting) :=
  if entries.any fun e => e.1 = key then
    entries.map fun e => if e.1 = key then (key, v) else e
  else entries ++ [(key, v)]

/-- The entries of a table; anything else gives way to an empty table. -/
def asTable : Setting → Option String × List (String × Setting)
  | table o entries => (o, entries)
  | _ => (none, [])

/-- The items of an array; anything else gives way to an empty array. -/
def asArray : Setting → Option String × List Setting
  | array o items => (o, items)
  | _ => (none, [])

mutual

/-- Sets a key of a table, in lower case.  A table is merged into the one that is there,
entry by entry; any other value takes the place of what is there. -/
def merge (node : Setting) (key : String) : Setting → Setting
  | table _ incoming =>
    let (o, entries) := node.asTable
    let key := LowerCase.text key
    let target := (lookup? entries key).getD emptyTable
    table o (put entries key (mergeAll target incoming))
  | v =>
    let (o, entries) := node.asTable
    table o (put entries (LowerCase.text key) v)

/-- Merges entries into a table one after the other. -/
def mergeAll (node : Setting) : List (String × Setting) → Setting
  | [] => node
  | (k, v) :: rest => mergeAll (merge node k v) rest

end

/-- The place in an array that a position means; negative positions count from the end. -/
def place (position : Int) (size : Nat) : Nat :=
  if position < 0 then size - position.natAbs else position.toNat

/-- Changes the item at a position, filling an array that is too short. -/
def modifyItem (items : List Setting) (position : Int) (f : Setting → Setting) : List Setting :=
  let i := place position items.length
  (items ++ List.replicate (i + 1 - items.length) (Setting.nil none)).modify i f

end Setting

end SupportDesk
