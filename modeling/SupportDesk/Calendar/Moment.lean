/-
# Moments

A moment is a date with a time of day.  Adding a span fails exactly when the calendar has
no date for the result; this is the only arithmetic error of the desk.  The written form
is `YYYY-MM-DDTHH:MM:SS` with a fraction where there is one.
-/

import SupportDesk.Calendar.Date
import SupportDesk.Calendar.TimeOfDay

namespace SupportDesk

/-- A date and a time of day, without a zone. -/
structure Moment where
  date : Date
  time : TimeOfDay
deriving DecidableEq, Repr

/-- The two ways in which arithmetic on time can leave its range. -/
inductive TimeError
  /-- A moment would lie outside the calendar. -/
  | momentOverflow
  /-- A span of seconds does not fit the range of spans. -/
  | spanOutOfBounds
deriving DecidableEq, Repr

/-- The text of an arithmetic error on time. -/
def TimeError.message : TimeError → String
  | .momentOverflow => "`NaiveDateTime + TimeDelta` overflowed"
  | .spanOutOfBounds => "TimeDelta::seconds out of bounds"

namespace Moment

instance : LE Moment :=
  ⟨fun a b => a.date.number < b.date.number ∨ (a.date.number = b.date.number ∧ a.time ≤ b.time)⟩
instance : LT Moment :=
  ⟨fun a b => a.date.number < b.date.number ∨ (a.date.number = b.date.number ∧ a.time < b.time)⟩
instance (a b : Moment) : Decidable (a ≤ b) :=
  inferInstanceAs
    (Decidable (a.date.number < b.date.number ∨ (a.date.number = b.date.number ∧ a.time ≤ b.time)))
instance (a b : Moment) : Decidable (a < b) :=
  inferInstanceAs
    (Decidable (a.date.number < b.date.number ∨ (a.date.number = b.date.number ∧ a.time < b.time)))

/-- The moment a span later, if the calendar reaches it. -/
def add (m : Moment) (d : Duration) : Except TimeError Moment :=
  let (time, days) := m.time.addCarry d
  match m.date.addDays? days with
  | some date => .ok ⟨date, time⟩
  | none => .error .momentOverflow

/-- The span from `b` to `a`. -/
def since (a b : Moment) : Duration :=
  ⟨(a.date.number - b.date.number) * TimeOfDay.perDay + (a.time.since b.time).nanos⟩

/-- The first instant of the next day, if the calendar has a next day. -/
def nextMidnight? (m : Moment) : Option Moment :=
  (m.date.addDays? 1).map fun date => ⟨date, TimeOfDay.midnight⟩

/-- The characters of the written form. -/
def chars (m : Moment) : List Char := m.date.chars ++ 'T' :: m.time.chars

/-- The written form. -/
def text (m : Moment) : String := String.ofList m.chars

instance : ToString Moment := ⟨text⟩

/-- Reads a year: up to four digits, or any number of digits after a sign. -/
def readYear? (cs : List Char) : Option (Int × List Char) :=
  match Blank.trimLeft cs with
  | '-' :: rest => (signed rest).map fun (n, rest) => (-(n : Int), rest)
  | '+' :: rest => (signed rest).map fun (n, rest) => ((n : Int), rest)
  | rest => (TimeOfDay.readNumber? 4 rest).map fun (n, rest) => ((n : Int), rest)
where
  signed (rest : List Char) : Option (Nat × List Char) :=
    match rest with
    | c :: _ => if Digits.isDecimal c then TimeOfDay.readNumber? rest.length rest else none
    | [] => none

/-- Takes an expected character off the front, after any blanks. -/
def expectSpaced? (c : Char) (cs : List Char) : Option (List Char) :=
  TimeOfDay.expect? c (Blank.trimLeft cs)

/-- Reads the optional fraction of a second. -/
def readOptionalFraction? : List Char → Option (Nat × List Char)
  | '.' :: rest => TimeOfDay.readFraction? rest
  | rest => some (0, rest)

/-- Reads a written moment to the end of the text.  Blanks may stand before each number,
before each separator and at the end. -/
def readChars? (cs : List Char) : Option Moment := do
  let (year, cs) ← readYear? cs
  let cs ← expectSpaced? '-' cs
  let (month, cs) ← TimeOfDay.readNumber? 2 cs
  let cs ← expectSpaced? '-' cs
  let (day, cs) ← TimeOfDay.readNumber? 2 cs
  let cs ← expectSpaced? 'T' cs
  let (hour, cs) ← TimeOfDay.readNumber? 2 cs
  let cs ← expectSpaced? ':' cs
  let (minute, cs) ← TimeOfDay.readNumber? 2 cs
  let cs ← expectSpaced? ':' cs
  let (second, cs) ← TimeOfDay.readNumber? 2 cs
  let (nano, cs) ← readOptionalFraction? cs
  if (Blank.trimLeft cs).isEmpty then do
    let date ← Date.ofCivil? year month day
    let time ← TimeOfDay.ofClock? hour minute second nano
    some ⟨date, time⟩
  else none

/-- Reads a written moment. -/
def parse? (text : String) : Option Moment := readChars? text.toList

end Moment

end SupportDesk
