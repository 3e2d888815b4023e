/-
# Times of day

A time of day is a second of the day with a fraction.  A leap second is the last second
of a minute with a fraction of one second or more, so that it lies after every ordinary
reading of that second and before the next minute.

The module gives the cyclic shift window, the addition of a span with the days it
carries, and the written forms: `HH:MM`, `HH:MM:SS` and `HH:MM:SS.fraction`.
-/

import SupportDesk.Calendar.Duration
import SupportDesk.Text.Digits
import SupportDesk.Text.Blank

namespace SupportDesk

/-- A reading of the clock within one day. -/
structure TimeOfDay where
  second : Nat
  nano : Nat
  second_lt : second < 86400
  nano_lt : nano < 2000000000
  minute_end_of_leap : 1000000000 ≤ nano → second % 60 = 59
deriving DecidableEq, Repr

namespace TimeOfDay

/-- Nanoseconds in one day without leap seconds. -/
def perDay : Int := 86400000000000

/-- The first instant of a day. -/
def midnight : TimeOfDay := ⟨0, 0, by omega, by omega, by omega⟩

instance : Inhabited TimeOfDay := ⟨midnight⟩

/-- A time of day from clock readings.  The second may be 60, which is the leap second of
its minute; hours end at 23 and minutes at 59. -/
def ofClock? (hour minute second nano : Nat) : Option TimeOfDay :=
  if h : hour < 24 ∧ minute < 60 ∧ second ≤ 60 ∧ nano < 1000000000 then
    if hs : second = 60 then
      some ⟨hour * 3600 + minute * 60 + 59, 1000000000 + nano, by omega, by omega, by omega⟩
    else
      some ⟨hour * 3600 + minute * 60 + second, nano, by omega, by omega, by omega⟩
  else none

/-- The hour, from 0 to 23. -/
def hour (t : TimeOfDay) : Nat := t.second / 3600

/-- The minute within the hour, from 0 to 59. -/
def minute (t : TimeOfDay) : Nat := t.second / 60 % 60

/-- Whether the reading is inside a leap second. -/
def isLeap (t : TimeOfDay) : Bool := 1000000000 ≤ t.nano

/-- The second that a clock face shows: 60 during a leap second. -/
def shownSecond (t : TimeOfDay) : Nat := t.second % 60 + t.nano / 1000000000

/-- The fraction below one second, in nanoseconds. -/
def shownNano (t : TimeOfDay) : Nat := t.nano % 1000000000

/-! ## Order -/

/-- The position in the order of readings; a leap second is after its ordinary second. -/
def rank (t : TimeOfDay) : Nat := t.second * 2000000000 + t.nano

instance : LE TimeOfDay := ⟨fun a b => a.rank ≤ b.rank⟩
instance : LT TimeOfDay := ⟨fun a b => a.rank < b.rank⟩
instance (a b : TimeOfDay) : Decidable (a ≤ b) := inferInstanceAs (Decidable (a.rank ≤ b.rank))
instance (a b : TimeOfDay) : Decidable (a < b) := inferInstanceAs (Decidable (a.rank < b.rank))

/-- Readings are ordered by their ranks. -/
theorem le_iff_rank {a b : TimeOfDay} : a ≤ b ↔ a.rank ≤ b.rank := Iff.rfl

/-- The strict order of readings is that of their ranks. -/
theorem lt_iff_rank {a b : TimeOfDay} : a < b ↔ a.rank < b.rank := Iff.rfl

/-- Two readings of one rank are the same reading. -/
theorem eq_of_rank_eq {a b : TimeOfDay} (h : a.rank = b.rank) : a = b := by
  obtain ⟨sa, na, _, hna, _⟩ := a
  obtain ⟨sb, nb, _, hnb, _⟩ := b
  simp only [rank] at h
  have hs : sa = sb := by omega
  have hn : na = nb := by omega
  subst hs; subst hn; rfl

/-- Whether `t` lies in the cyclic window from `start`, included, to `stop`, excluded.
A window whose start is after its end goes on past midnight; equal bounds are empty. -/
def within (start stop t : TimeOfDay) : Bool :=
  if start ≤ stop then decide (start ≤ t ∧ t < stop) else decide (start ≤ t ∨ t < stop)

/-- The distinct times of a list in increasing order. -/
def sortedDistinct (times : List TimeOfDay) : List TimeOfDay :=
  (times.mergeSort fun a b => a ≤ b).eraseReps

/-! ## Addition -/

/-- Nanoseconds since midnight; a leap second runs on from its ordinary second. -/
def sinceMidnight (t : TimeOfDay) : Int := t.second * Duration.perSecond + t.nano

/-- The ordinary reading at a signed number of nanoseconds from midnight, with the days
that it lies away. -/
def ofSinceMidnight (n : Int) : TimeOfDay × Int :=
  (⟨(n % perDay / Duration.perSecond).toNat, (n % perDay % Duration.perSecond).toNat,
      by unfold perDay Duration.perSecond; omega,
      by unfold perDay Duration.perSecond; omega,
      by unfold perDay Duration.perSecond; omega⟩,
    n / perDay)

/-- Adds a span, giving the new reading and the number of days carried.  A leap second
counts one second: leaving it forward spends the second once, leaving it backward does not
spend it, and a span that ends within it or in its ordinary second stays there. -/
def addCarry (t : TimeOfDay) (d : Duration) : TimeOfDay × Int :=
  if hleap : t.nano < 1000000000 then
    ofSinceMidnight (t.sinceMidnight + d.nanos)
  else if 0 < d.wholeSeconds ∨ (0 < d.fraction ∧ 2000000000 ≤ (t.nano : Int) + d.fraction) then
    ofSinceMidnight (t.sinceMidnight - Duration.perSecond + d.nanos)
  else if d.wholeSeconds < 0 then
    ofSinceMidnight (t.sinceMidnight + d.nanos)
  else if h : ((t.nano : Int) + d.fraction).toNat < 2000000000 then
    (⟨t.second, ((t.nano : Int) + d.fraction).toNat, t.second_lt, h,
        fun _ => t.minute_end_of_leap (Nat.le_of_not_lt hleap)⟩, 0)
  else (t, 0)

/-- The span from `b` to `a` within one day.  A leap second that lies between the two is
counted. -/
def since (a b : TimeOfDay) : Duration :=
  let leap : Int :=
    if b.second < a.second ∧ b.isLeap then 1
    else if a.second < b.second ∧ a.isLeap then -1
    else 0
  ⟨a.sinceMidnight - b.sinceMidnight + leap * Duration.perSecond⟩

/-! ## Written forms -/

/-- Hours and minutes as `HH:MM`; seconds are cut off. -/
def hoursMinutes (t : TimeOfDay) : String :=
  String.ofList (Digits.padded 2 t.hour ++ ':' :: Digits.padded 2 t.minute)

/-- A fraction of a second with the fewest of 0, 3, 6 or 9 digits that is exact. -/
def fractionChars (nano : Nat) : List Char :=
  if nano = 0 then []
  else if nano % 1000000 = 0 then '.' :: Digits.fixed 10 3 (nano / 1000000)
  else if nano % 1000 = 0 then '.' :: Digits.fixed 10 6 (nano / 1000)
  else '.' :: Digits.fixed 10 9 nano

/-- The characters of `HH:MM:SS` with its fraction. -/
def chars (t : TimeOfDay) : List Char :=
  Digits.padded 2 t.hour ++ ':' :: Digits.padded 2 t.minute ++
    ':' :: Digits.padded 2 t.shownSecond ++ fractionChars t.shownNano

/-- The full written form, `HH:MM:SS` with a fraction where there is one. -/
def text (t : TimeOfDay) : String := String.ofList t.chars

instance : ToString TimeOfDay := ⟨text⟩

/-! ## Reading -/

/-- Reads one or two digits, or up to `most`, after any blanks. -/
def readNumber? (most : Nat) (cs : List Char) : Option (Nat × List Char) :=
  let cs := Blank.trimLeft cs
  let digits := (cs.take most).takeWhile Digits.isDecimal
  if digits.isEmpty then none
  else (Digits.readDecimal? digits).map fun n => (n, cs.drop digits.length)

/-- Takes one expected character off the front. -/
def expect? (c : Char) : List Char → Option (List Char)
  | [] => none
  | x :: rest => if x = c then some rest else none

/-- Reads `H:M:S` to the end of the text. -/
def readHMS? (cs : List Char) : Option TimeOfDay := do
  let (h, cs) ← readNumber? 2 cs
  let cs ← expect? ':' cs
  let (m, cs) ← readNumber? 2 cs
  let cs ← expect? ':' cs
  let (s, cs) ← readNumber? 2 cs
  if cs.isEmpty then ofClock? h m s 0 else none

/-- Reads `H:M` to the end of the text. -/
def readHM? (cs : List Char) : Option TimeOfDay := do
  let (h, cs) ← readNumber? 2 cs
  let cs ← expect? ':' cs
  let (m, cs) ← readNumber? 2 cs
  if cs.isEmpty then ofClock? h m 0 0 else none

/-- Reads a configured time of day: `H:M:S` or `H:M`, with blanks around it and before
each number. -/
def parse? (text : String) : Option TimeOfDay :=
  let cs := Blank.trim text.toList
  readHMS? cs <|> readHM? cs

/-- Reads the digits of a fraction as nanoseconds; digits after the ninth are dropped. -/
def readFraction? (cs : List Char) : Option (Nat × List Char) :=
  let digits := cs.takeWhile Digits.isDecimal
  let kept := digits.take 9
  if digits.isEmpty then none
  else (Digits.readDecimal? kept).map fun n =>
    (n * Nat.pow 10 (9 - kept.length), cs.dropWhile Digits.isDecimal)

end TimeOfDay

end SupportDesk
