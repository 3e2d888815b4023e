/-
# Dates of the proleptic Gregorian calendar

A date is a day number, counted from 1 March of the year 0, within the years −262143 to
262142.  Day numbers make the arithmetic of days plain addition; the year, month and day
are read off them by counting in eras of 400 years, which all have the same length, with
March as the first month so that a leap day is the last day of its year.
-/

import SupportDesk.Text.Digits

namespace SupportDesk

namespace Date

/-- The number of the day with the given year, month and day, whether or not the calendar
has such a day. -/
def numberOf (year : Int) (month day : Nat) : Int :=
  let y := if month ≤ 2 then year - 1 else year
  let m : Int := if month ≤ 2 then month + 9 else month - 3
  y * 365 + y / 4 - y / 100 + y / 400 + (153 * m + 2) / 5 + (day - 1)

/-- The first day of the calendar, 1 January −262143. -/
def firstNumber : Int := numberOf (-262143) 1 1

/-- The last day of the calendar, 31 December 262142. -/
def lastNumber : Int := numberOf 262142 12 31

/-- Whether a year has a 29 February. -/
def isLeapYear (year : Int) : Bool := year % 4 == 0 && (year % 100 != 0 || year % 400 == 0)

/-- The number of days of a month. -/
def monthLength (year : Int) (month : Nat) : Nat :=
  if month = 2 then (if isLeapYear year then 29 else 28)
  else if month = 4 ∨ month = 6 ∨ month = 9 ∨ month = 11 then 30
  else 31

end Date

/-- A day of the calendar. -/
structure Date where
  number : Int
  first_le : Date.firstNumber ≤ number
  le_last : number ≤ Date.lastNumber
deriving DecidableEq, Repr

namespace Date

/-- The day with a given number, if the calendar reaches it. -/
def ofNumber? (n : Int) : Option Date :=
  if h : firstNumber ≤ n ∧ n ≤ lastNumber then some ⟨n, h.1, h.2⟩ else none

/-- The day of a year, month and day of the month, if there is one. -/
def ofCivil? (year : Int) (month day : Nat) : Option Date :=
  if 1 ≤ month ∧ month ≤ 12 ∧ 1 ≤ day ∧ day ≤ monthLength year month then
    ofNumber? (numberOf year month day)
  else none

/-- The day that lies `n` days later. -/
def addDays? (d : Date) (n : Int) : Option Date := ofNumber? (d.number + n)

/-- A year, a month and a day of the month. -/
structure Civil where
  year : Int
  month : Nat
  day : Nat
deriving DecidableEq, Repr

/-- The year, month and day of the month of a date. -/
def civil (d : Date) : Civil :=
  let era := d.number / 146097
  let inEra := d.number % 146097
  let yearOfEra := (inEra - inEra / 1460 + inEra / 36524 - inEra / 146096) / 365
  let inYear := inEra - (365 * yearOfEra + yearOfEra / 4 - yearOfEra / 100)
  let m := (5 * inYear + 2) / 153
  let day := inYear - (153 * m + 2) / 5 + 1
  let month := if m < 10 then m + 3 else m - 9
  ⟨yearOfEra + era * 400 + (if month ≤ 2 then 1 else 0), month.toNat, day.toNat⟩

/-- A year as four digits; one outside 0 to 9999 carries its sign. -/
def yearChars (year : Int) : List Char :=
  if year < 0 then '-' :: Digits.padded 4 year.natAbs
  else if year ≤ 9999 then Digits.padded 4 year.toNat
  else '+' :: Digits.padded 4 year.toNat

/-- The characters of `YYYY-MM-DD`. -/
def chars (d : Date) : List Char :=
  let c := d.civil
  yearChars c.year ++ '-' :: Digits.padded 2 c.month ++ '-' :: Digits.padded 2 c.day

end Date

end SupportDesk
