/-
# Reading setting values

A setting is taken for the type that is needed where that can be done: whole numbers from
truth values, from doubles by rounding and from numerals; truth values from numbers and
words; texts from numbers and truth values.  A record is a table, or an array of its fields
in order.
-/

import SupportDesk.Number.Shortest
import SupportDesk.Settings.Error
import SupportDesk.Settings.Value

namespace SupportDesk.Setting

/-- The outcome of reading a setting. -/
abbrev Read := Except SettingError

/-- Refuses a value for its type. -/
def mismatch {α : Type} (v : Setting) (found : Unexpected) (expected : String) : Read α :=
  .error (.type found expected none v.origin)

/-- The words that stand for true. -/
def trueWords : List String := ["true", "on", "yes"]

/-- The words that stand for false. -/
def falseWords : List String := ["false", "off", "no"]

/-- The largest unsigned word of 64 bits. -/
def maxWord : Nat := 0xffffffffffffffff

/-- A double as an unsigned word: the nearest whole number within the range of words. -/
def wordOfReal (x : Binary64) : Nat :=
  if x.isNaN then 0
  else if x.isFinite then min x.round.toNat maxWord
  else if x.isNegative then 0
  else maxWord

/-- An unsigned word. -/
def asWord (v : Setting) : Read Nat :=
  match v with
  | integer _ n =>
    if n < 0 then v.mismatch (.integer n) "an unsigned 64 bit or less integer" else .ok n.toNat
  | boolean _ b => .ok (if b then 1 else 0)
  | real _ x => .ok (wordOfReal x)
  | text _ s =>
    let word := LowerCase.text s
    if trueWords.contains word then .ok 1
    else if falseWords.contains word then .ok 0
    else match Digits.readNumeral? maxWord s with
      | some n => .ok n
      | none => v.mismatch (.text s) "an integer"
  | nil _ => v.mismatch .nothing "an integer"
  | table _ _ => v.mismatch .table "an integer"
  | array _ _ => v.mismatch .array "an integer"

/-- An unsigned number of a number of bits. -/
def asUnsigned (bits : Nat) (v : Setting) : Read Nat := do
  let n ← v.asWord
  if n < Nat.pow 2 bits then return n
  .error (.type (.unsigned n) ("an unsigned " ++ toString bits ++ " bit integer") none none)

/-- A truth value. -/
def asBoolean (v : Setting) : Read Bool :=
  match v with
  | boolean _ b => .ok b
  | integer _ n => .ok (n ≠ 0)
  | real _ x => .ok !x.isZero
  | text _ s =>
    let word := LowerCase.text s
    if ("1" :: trueWords).contains word then .ok true
    else if ("0" :: falseWords).contains word then .ok false
    else v.mismatch (.text word) "a boolean"
  | nil _ => v.mismatch .nothing "a boolean"
  | table _ _ => v.mismatch .table "a boolean"
  | array _ _ => v.mismatch .array "a boolean"

/-- A text. -/
def asText (v : Setting) : Read String :=
  match v with
  | text _ s => .ok s
  | boolean _ b => .ok (if b then "true" else "false")
  | integer _ n => .ok (toString n)
  | real _ x => .ok x.plainText
  | nil _ => v.mismatch .nothing "a string"
  | table _ _ => v.mismatch .table "a string"
  | array _ _ => v.mismatch .array "a string"

/-- A value that may be absent. -/
def asOptional {α : Type} (read : Setting → Read α) (v : Setting) : Read (Option α) :=
  match v with
  | nil _ => .ok none
  | _ => some <$> read v

/-- The plain text of a double with a point in it. -/
def pointedText (x : Binary64) : String :=
  let s := x.plainText
  if x.isFinite && !s.contains '.' then s ++ ".0" else s

/-- The description of a value that stands in the place of a record or a list. -/
def shape : Setting → String
  | nil _ => "unit value"
  | boolean _ b => "boolean `" ++ (if b then "true" else "false") ++ "`"
  | integer _ n => "integer `" ++ toString n ++ "`"
  | real _ x => "floating point `" ++ pointedText x ++ "`"
  | text _ s => "string " ++ Quoted.text s
  | table _ _ => "map"
  | array _ _ => "sequence"

/-- The items of a list, each read in turn. -/
def readItems {α : Type} (read : Setting → Read α) : Nat → List Setting → Read (List α)
  | _, [] => .ok []
  | i, v :: rest => do
    let a ← (read v).mapError (·.underPosition i)
    return a :: (← readItems read (i + 1) rest)

/-- A list. -/
def asList {α : Type} (read : Setting → Read α) (v : Setting) : Read (List α) :=
  match v with
  | array _ items => readItems read 0 items
  | _ => .error (.message ("invalid type: " ++ v.shape ++ ", expected a sequence"))

/-- One of some named variants, in any case: its name, or a table with that one key. -/
def asVariant {α : Type} (enumName : String) (variants : List (String × α)) (v : Setting) :
    Read α :=
  let byName (name : String) : Read α :=
    match variants.find? fun w => LowerCase.text w.1 = LowerCase.text name with
    | some w => .ok w.2
    | none => .error (.message
        ("enum " ++ enumName ++ " does not have variant constructor " ++ name))
  match v with
  | text _ s => byName s
  | table _ [(key, _)] => byName key
  | _ => .error (.message ("value of enum " ++ enumName
      ++ " should be represented by either string or table with exactly one key"))

/-! ## Records -/

/-- The fields of a record as they are written. -/
inductive Fields
  | byName (entries : List (String × Setting))
  | byPosition (items : List Setting)

/-- The names of a record and of its fields. -/
structure Layout where
  name : String
  fields : List String

/-- The fields of a value that should be a record. -/
def fieldsOf (layout : Layout) (v : Setting) : Read Fields :=
  match v with
  | table _ entries => .ok (.byName entries)
  | array _ items => .ok (.byPosition items)
  | _ => .error (.message
      ("invalid type: " ++ v.shape ++ ", expected struct " ++ layout.name))

/-- Reads a field, if it is there. -/
def Fields.read? {α : Type} (fields : Fields) (layout : Layout) (name : String)
    (read : Setting → Read α) : Read (Option α) :=
  match fields with
  | .byName entries =>
    match lookup? entries name with
    | some v => some <$> (read v).mapError (·.underName name)
    | none => .ok none
  | .byPosition items =>
    let i := layout.fields.idxOf name
    match items[i]? with
    | some v => some <$> (read v).mapError (·.underPosition i)
    | none => .ok none

/-- The value of a field that must be there. -/
def Fields.require {α : Type} (fields : Fields) (layout : Layout) (name : String) :
    Option α → Read α
  | some a => .ok a
  | none =>
    match fields with
    | .byName _ => .error (.message ("missing field `" ++ name ++ "`"))
    | .byPosition _ => .error (.message
        ("invalid length " ++ toString (layout.fields.idxOf name) ++ ", expected struct "
          ++ layout.name ++ " with " ++ toString layout.fields.length ++ " elements"))

end SupportDesk.Setting
