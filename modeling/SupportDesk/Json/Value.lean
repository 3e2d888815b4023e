/-
# JSON values

A value as it is written: the members of an object stand in the order of the text, and a
key may stand twice.  `Json.canonical` gives the value that such a text means, with the
keys of every object in increasing order and the last of equal keys kept.
-/

import SupportDesk.Number.Binary64

namespace SupportDesk

/-- A JSON number: a whole number that fits 64 bits, or a double. -/
inductive JsonNumber
  /-- A whole number from 0 to 2⁶⁴ − 1. -/
  | natural (n : Nat)
  /-- The negative whole number −n, from −2⁶³ to −1. -/
  | negative (n : Nat)
  | real (x : Binary64)
deriving DecidableEq, Repr, Inhabited

/-- A JSON value. -/
inductive Json
  | null
  | bool (b : Bool)
  | number (n : JsonNumber)
  | string (s : String)
  | array (items : List Json)
  | object (members : List (String × Json))
deriving Repr, Inhabited

namespace Json

/-- A whole number. -/
def nat (n : Nat) : Json := number (.natural n)

/-- A whole number of either sign. -/
def int (n : Int) : Json := if n < 0 then number (.negative n.natAbs) else nat n.toNat

/-- Puts a member among members with increasing keys; it replaces one of the same key. -/
def insertMember (key : String) (value : Json) : List (String × Json) → List (String × Json)
  | [] => [(key, value)]
  | (k, v) :: rest =>
    if key < k then (key, value) :: (k, v) :: rest
    else if key = k then (key, value) :: rest
    else (k, v) :: insertMember key value rest

mutual

/-- The value with the keys of every object increasing, the last of equal keys kept. -/
def canonical : Json → Json
  | array items => array (canonicalItems items)
  | object members => object (canonicalMembers members [])
  | v => v

/-- The items of an array in canonical form. -/
def canonicalItems : List Json → List Json
  | [] => []
  | v :: rest => v.canonical :: canonicalItems rest

/-- The members of an object in canonical form, put among members seen before. -/
def canonicalMembers : List (String × Json) → List (String × Json) → List (String × Json)
  | [], seen => seen
  | (k, v) :: rest, seen => canonicalMembers rest (insertMember k v.canonical seen)

end

/-- The value of the last member with a key. -/
def member? (v : Json) (key : String) : Option Json :=
  match v with
  | object members => (members.reverse.find? fun m => m.1 = key).map (·.2)
  | _ => none

end Json

end SupportDesk
