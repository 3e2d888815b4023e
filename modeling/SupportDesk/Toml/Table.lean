/-
# Building TOML tables

A document defines its tables piece by piece, and the format forbids to define anything
twice.  To tell what may still be added, a table remembers how it came about: by a header
of its own, on the way to a deeper header, or through a dotted key.
-/

import SupportDesk.Toml.Value

namespace SupportDesk.Toml

/-- How a table came about. -/
inductive Origin
  /-- By its own header or in braces; it is complete. -/
  | defined
  /-- On the way to a deeper header; it may still get a header of its own. -/
  | implied
  /-- Through a dotted key; only dotted keys may add to it. -/
  | dotted
deriving DecidableEq, Repr

/-- What a key of a table under construction stands for. -/
inductive Item
  | value (v : TomlValue)
  | table (origin : Origin) (entries : List (String × Item))
  | tables (elements : List (List (String × Item)))
deriving Inhabited

/-- The entries of a table under construction. -/
abbrev Entries := List (String × Item)

/-- What a key stands for. -/
def lookup? (entries : Entries) (key : String) : Option Item :=
  (entries.find? fun e => e.1 = key).map (·.2)

/-- Gives a key a meaning, in the place of the one it had. -/
def put (entries : Entries) (key : String) (item : Item) : Entries :=
  if entries.any fun e => e.1 = key then
    entries.map fun e => if e.1 = key then (key, item) else e
  else entries ++ [(key, item)]

/-- Removes a key. -/
def remove (entries : Entries) (key : String) : Entries := entries.filter fun e => e.1 ≠ key

/-- Changes the table at a path, making missing tables on the way with the given origin.
The change is told the origin of the table it gets.  Through a dotted path no table with a
definition of its own is entered; an array of tables is entered at its last element. -/
def updateAt (way : Origin) (change : Origin → Entries → Option Entries) :
    List String → Origin → Entries → Option Entries
  | [], origin, entries => change origin entries
  | key :: path, _, entries =>
    match lookup? entries key with
    | none =>
      (updateAt way change path way []).map fun inner => put entries key (.table way inner)
    | some (.value _) => none
    | some (.table origin inner) =>
      if way = .dotted ∧ origin = .defined then none
      else (updateAt way change path origin inner).map fun inner =>
        put entries key (.table origin inner)
    | some (.tables elements) =>
      match elements.reverse with
      | [] => none
      | last :: before =>
        (updateAt way change path .defined last).map fun last =>
          put entries key (.tables (last :: before).reverse)

/-- Adds a key with a value under a path of dotted keys.  The key must be new, and a table
entered through a dotted key must have come about through one. -/
def addValue? (entries : Entries) (path : List String) (key : String) (v : TomlValue) :
    Option Entries :=
  updateAt .dotted (fun origin inner =>
    if path ≠ [] ∧ origin ≠ .dotted then none
    else if (lookup? inner key).isSome then none
    else some (put inner key (.value v))) path .defined entries

/-- Starts the table of a header: it is taken out of the document if it is there already by
implication, and then its entries are the ones to go on with. -/
def openTable? (root : Entries) (path : List String) (key : String) :
    Option (Entries × Entries) :=
  let taken : Option Entries := updateAt .implied (fun _ inner => some inner) path .defined root
  let found : Option (Option Item) := itemAt? path root
  match taken, found with
  | some root, some none => some (root, [])
  | some root, some (some (.table .implied entries)) =>
    (updateAt .implied (fun _ inner => some (remove inner key)) path .defined root).map
      fun root => (root, entries)
  | _, _ => none
where
  /-- What the key stands for in the table at a path. -/
  itemAt? : List String → Entries → Option (Option Item)
    | [], entries => some (lookup? entries key)
    | k :: path, entries =>
      match lookup? entries k with
      | none => some none
      | some (.value _) => none
      | some (.table _ inner) => itemAt? path inner
      | some (.tables elements) => match elements.getLast? with
        | some last => itemAt? path last
        | none => none

/-- Puts the finished table of a header into the document. -/
def closeTable? (root : Entries) (path : List String) (key : String) (entries : Entries) :
    Option Entries :=
  updateAt .implied (fun _ inner =>
    if (lookup? inner key).isSome then none
    else some (put inner key (.table .defined entries))) path .defined root

/-- Makes sure that a key can hold an array of tables. -/
def openArray? (root : Entries) (path : List String) (key : String) : Option Entries :=
  updateAt .implied (fun _ inner =>
    match lookup? inner key with
    | none => some (put inner key (.tables []))
    | some (.tables _) => some inner
    | some _ => none) path .defined root

/-- Adds a finished table to the array of tables of a key. -/
def closeElement? (root : Entries) (path : List String) (key : String) (entries : Entries) :
    Option Entries :=
  updateAt .implied (fun _ inner =>
    match lookup? inner key with
    | some (.tables elements) => some (put inner key (.tables (elements ++ [entries])))
    | _ => none) path .defined root

mutual

/-- The value of an item. -/
def Item.toValue : Item → TomlValue
  | .value v => v
  | .table _ entries => .table (entriesToValues entries)
  | .tables elements => .array (elementsToValues elements)

/-- The entries of a table with their values. -/
def entriesToValues : List (String × Item) → List (String × TomlValue)
  | [] => []
  | (k, item) :: rest => (k, item.toValue) :: entriesToValues rest

/-- The elements of an array of tables as values. -/
def elementsToValues : List (List (String × Item)) → List TomlValue
  | [] => []
  | entries :: rest => .table (entriesToValues entries) :: elementsToValues rest

end

end SupportDesk.Toml
