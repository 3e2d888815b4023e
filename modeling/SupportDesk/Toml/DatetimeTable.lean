/-
# Dates and times written as tables

A table whose first key is a reserved one stands for the date or time that the text of that key
gives, and its other keys say nothing.  The text is read a little more freely than a date or time
in a document: midnight may be written as hour 24, and an offset in minutes as well as in hours.
-/

import SupportDesk.Toml.Scalar

namespace SupportDesk.Toml.DatetimeTable

/-- The reserved key. -/
def reservedKey : String := "$__toml_private_datetime"

/-- A number with two digits. -/
def twoDigits (n : Nat) : List Char := (toString (100 + n)).toList.drop 1

/-- The text of an offset of at most a day, which ends the value. -/
def offset? (cs : List Char) : Option (List Char) :=
  match cs with
  | [] => some []
  | ['z'] | ['Z'] => some ['Z']
  | sign :: rest =>
    if sign = '+' ∨ sign = '-' then
      match twoDigits? rest with
      | some (hours, ':' :: rest) =>
        match twoDigits? rest with
        | some (minutes, []) =>
          let total := hours * 60 + minutes
          if 1440 < total then none
          else
            let shown := if total = 0 then '+' else sign
            some (shown :: twoDigits (total / 60) ++ ':' :: twoDigits (total % 60))
        | _ => none
      | _ => none
    else none

/-- The normal form of the text of a date or time. -/
def datetime? (text : String) : Option String := datetimeWith? 24 offset? text.toList

mutual

/-- A value with the tables in it that stand for dates and times taken as those, if they all
can be. -/
def settle? : TomlValue → Option TomlValue
  | .array items => (settleItems? items).map .array
  | .table ((key, v) :: rest) =>
    if key = reservedKey then
      match v with
      | .string s => (datetime? s).map .datetime
      | _ => none
    else do
      let v ← settle? v
      return .table ((key, v) :: (← settleEntries? rest))
  | v => some v

/-- The items of an array, settled. -/
def settleItems? : List TomlValue → Option (List TomlValue)
  | [] => some []
  | v :: rest => do
    let v ← settle? v
    return v :: (← settleItems? rest)

/-- Entries of a table, settled. -/
def settleEntries? : List (String × TomlValue) → Option (List (String × TomlValue))
  | [] => some []
  | (key, v) :: rest => do
    let v ← settle? v
    return (key, v) :: (← settleEntries? rest)

end

end SupportDesk.Toml.DatetimeTable
