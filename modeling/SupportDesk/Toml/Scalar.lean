/-
# Numbers, dates and times in TOML

Each function takes the whole characters of a bare value and tells what it denotes.  Single
underscores may stand between digits; a decimal number has no leading zeros; a date must be
in the calendar, and a time may be a leap second.
-/

import SupportDesk.Calendar.Date
import SupportDesk.Text.Digits
import SupportDesk.Toml.Value

namespace SupportDesk.Toml

/-- Takes out the underscores of a digit sequence; each must stand between two digits. -/
def withoutUnderscores? (isDigit : Char → Bool) : List Char → Option (List Char)
  | [] => none
  | [c] => if isDigit c then some [c] else none
  | c :: '_' :: rest =>
    if isDigit c then (withoutUnderscores? isDigit rest).map (c :: ·) else none
  | c :: rest =>
    if isDigit c then (withoutUnderscores? isDigit rest).map (c :: ·) else none

/-- The digits of a decimal number without leading zeros. -/
def plainDigits? (cs : List Char) : Option (List Char) :=
  match withoutUnderscores? Digits.isDecimal cs with
  | some ('0' :: _ :: _) => none
  | ds => ds

/-- Splits off a sign; `true` is minus. -/
def splitSign : List Char → Bool × Bool × List Char
  | '+' :: rest => (true, false, rest)
  | '-' :: rest => (true, true, rest)
  | rest => (false, false, rest)

/-- Whether a number fits a signed word of 64 bits. -/
def fitsWord (n : Int) : Bool := -0x8000000000000000 ≤ n && n < 0x8000000000000000

/-- The number that digits of a base denote. -/
def readBase? (base : Nat) (cs : List Char) : Option Nat :=
  let value? (c : Char) : Option Nat := (Digits.hexValue? c).filter (· < base)
  (withoutUnderscores? (fun c => (value? c).isSome) cs).bind fun ds =>
    ds.foldlM (fun n c => (value? c).map (n * base + ·)) 0

/-- A whole number, in decimal or after `0x`, `0o` or `0b`. -/
def integer? (cs : List Char) : Option Int :=
  let inRange (n : Int) : Option Int := if fitsWord n then some n else none
  match cs with
  | '0' :: 'x' :: rest => (readBase? 16 rest).bind fun n => inRange n
  | '0' :: 'o' :: rest => (readBase? 8 rest).bind fun n => inRange n
  | '0' :: 'b' :: rest => (readBase? 2 rest).bind fun n => inRange n
  | _ =>
    let (_, negative, rest) := splitSign cs
    ((plainDigits? rest).bind Digits.readDecimal?).bind fun n =>
      inRange (if negative then -(n : Int) else n)

/-- The value of an exponent: digits after an optional sign. -/
def exponent? (cs : List Char) : Option Int :=
  let (_, negative, rest) := splitSign cs
  ((withoutUnderscores? Digits.isDecimal rest).bind Digits.readDecimal?).map fun n =>
    if negative then -(n : Int) else n

/-- Splits a list at the first element with a property, which is dropped. -/
def splitAtFirst? (p : Char → Bool) (cs : List Char) : Option (List Char × List Char) :=
  match cs.dropWhile fun c => !p c with
  | [] => none
  | _ :: rest => some (cs.takeWhile fun c => !p c, rest)

/-- The double of a whole part, a fraction and an exponent. -/
def magnitude? (whole fraction : List Char) (exponent : Int) : Option Binary64 :=
  (Digits.readDecimal? (whole ++ fraction)).map fun n =>
    .ofDecimal n (exponent - fraction.length)

/-- The magnitude of a number with a fraction, an exponent or both. -/
def decimalMagnitude? (cs : List Char) : Option Binary64 := do
  let (mantissa, exponent) ← match splitAtFirst? (fun c => c == 'e' || c == 'E') cs with
    | some (mantissa, e) => (exponent? e).map fun e => (mantissa, some e)
    | none => some (cs, none)
  match splitAtFirst? (· == '.') mantissa with
  | some (whole, fraction) =>
    magnitude? (← plainDigits? whole) (← withoutUnderscores? Digits.isDecimal fraction)
      (exponent.getD 0)
  | none => exponent.bind fun e => (plainDigits? mantissa).bind fun whole => magnitude? whole [] e

/-- A number with a fraction or an exponent, or infinity, or the undefined number.  A
decimal beyond the largest double is refused if it is positive. -/
def real? (cs : List Char) : Option Binary64 :=
  let (_, negative, rest) := splitSign cs
  let sign (x : Binary64) : Binary64 := if negative then x.neg else x
  if rest = "inf".toList then some (sign .infinity)
  else if rest = "nan".toList then some (sign .undefined)
  else (decimalMagnitude? rest).bind fun x =>
    if sign x = .infinity then none else some (sign x)

/-! ## Dates and times -/

/-- Reads a number of exactly two digits at the front. -/
def twoDigits? : List Char → Option (Nat × List Char)
  | a :: b :: rest => (Digits.readDecimal? [a, b]).map fun n => (n, rest)
  | _ => none

/-- Reads a date at the front, giving its text. -/
def date? (cs : List Char) : Option (List Char × List Char) := do
  let year ← Digits.readDecimal? (cs.take 4)
  match cs.drop 4 with
  | '-' :: rest =>
    let (month, rest) ← twoDigits? rest
    match rest with
    | '-' :: rest =>
      let (day, rest) ← twoDigits? rest
      let _ ← Date.ofCivil? year month day
      if (cs.take 4).length = 4 then some (cs.take 10, rest) else none
    | _ => none
  | _ => none

/-- A fraction of a second without the zeros at its end, at most nine digits; nothing if it
is zero. -/
def fractionText (digits : List Char) : List Char :=
  let kept := ((digits.take 9).reverse.dropWhile (· == '0')).reverse
  if kept.isEmpty then [] else '.' :: kept

/-- Reads a time at the front whose hour is at most the given one, giving its text. -/
def time? (lastHour : Nat) (cs : List Char) : Option (List Char × List Char) := do
  let (hour, rest) ← twoDigits? cs
  match rest with
  | ':' :: rest =>
    let (minute, rest) ← twoDigits? rest
    match rest with
    | ':' :: rest =>
      let (second, rest) ← twoDigits? rest
      if lastHour < hour ∨ 59 < minute ∨ 60 < second then none
      else
        match rest with
        | '.' :: rest =>
          let digits := rest.takeWhile Digits.isDecimal
          if digits.isEmpty then none
          else some (cs.take 8 ++ fractionText digits, rest.dropWhile Digits.isDecimal)
        | _ => some (cs.take 8, rest)
    | _ => none
  | _ => none

/-- The text of an offset, which ends the value. -/
def offset? (cs : List Char) : Option (List Char) :=
  match cs with
  | [] => some []
  | ['z'] => some ['Z']
  | ['Z'] => some ['Z']
  | sign :: rest =>
    if sign = '+' ∨ sign = '-' then do
      let (hours, rest') ← twoDigits? rest
      match rest' with
      | ':' :: rest' =>
        let (minutes, tail) ← twoDigits? rest'
        if tail.isEmpty ∧ hours ≤ 23 ∧ minutes ≤ 59 then
          let shown := if hours = 0 ∧ minutes = 0 then '+' else sign
          some (shown :: rest)
        else none
      | _ => none
    else none

/-- A date, a time, or a date and a time with an optional offset, in normal form: the last
hour that a time may have and the reader of offsets are given. -/
def datetimeWith? (lastHour : Nat) (offset? : List Char → Option (List Char))
    (cs : List Char) : Option String :=
  match date? cs with
  | some (date, []) => some (String.ofList date)
  | some (date, separator :: rest) =>
    if separator = 'T' ∨ separator = 't' ∨ separator = ' ' then do
      let (time, rest) ← time? lastHour rest
      let offset ← offset? rest
      some (String.ofList (date ++ 'T' :: time ++ offset))
    else none
  | none =>
    match time? lastHour cs with
    | some (time, []) => some (String.ofList time)
    | _ => none

/-- A date, a time, or both, as a document writes them. -/
def datetime? (cs : List Char) : Option String := datetimeWith? 23 offset? cs

/-- The value of a bare token. -/
def bare? (cs : List Char) : Option TomlValue :=
  if cs = "true".toList then some (.boolean true)
  else if cs = "false".toList then some (.boolean false)
  else
    match datetime? cs with
    | some text => some (.datetime text)
    | none =>
      match integer? cs with
      | some n => some (.integer n)
      | none => (real? cs).map .real

end SupportDesk.Toml
