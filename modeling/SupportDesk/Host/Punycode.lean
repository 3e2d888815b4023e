/-
# Punycode

A label of a host name in ASCII: the ASCII characters of the label, and after a hyphen digits
that tell which other characters stand in it and where.  The characters are told in the order
of their code points and places; each is given by the number of steps from the one before it,
and the digits of these numbers adapt to their size.
-/

namespace SupportDesk.Host.Punycode

/-- The digit of a value below 36. -/
def digit (n : Nat) : Char :=
  if n < 26 then Char.ofNat ('a'.toNat + n) else Char.ofNat ('0'.toNat + (n - 26))

/-- The value of a digit. -/
def value? (c : Char) : Option Nat :=
  if 'a' ≤ c ∧ c ≤ 'z' then some (c.toNat - 'a'.toNat)
  else if '0' ≤ c ∧ c ≤ '9' then some (c.toNat - '0'.toNat + 26)
  else none

/-- The digits of a number below the one at a place are its last; the place is told by `k`,
which goes up by 36. -/
def threshold (k bias : Nat) : Nat := max 1 (min 26 (k - bias))

/-- Divides a number of steps until it is small, counting the divisions in steps of 36. -/
def scaleDown : Nat → Nat → Nat → Nat × Nat
  | 0, delta, k => (delta, k)
  | fuel + 1, delta, k => if 455 < delta then scaleDown fuel (delta / 35) (k + 36) else (delta, k)

/-- The bias after a number of steps, with `size` characters placed. -/
def adapt (delta size : Nat) (first : Bool) : Nat :=
  let delta := if first then delta / 700 else delta / 2
  let (delta, k) := scaleDown (delta + delta / size) (delta + delta / size) 0
  k + 36 * delta / (delta + 38)

/-! ## Writing -/

/-- The digits of a number of steps.  The fuel bounds their number. -/
def numberDigits (bias : Nat) : Nat → Nat → Nat → List Char
  | 0, _, n => [digit n]
  | fuel + 1, k, n =>
    let t := threshold k bias
    if n < t then [digit n]
    else digit (t + (n - t) % (36 - t)) :: numberDigits bias fuel (k + 36) ((n - t) / (36 - t))

/-- A label that is being written. -/
structure Draft where
  /-- The digits so far. -/
  digits : List Char
  /-- The steps since the last character. -/
  delta : Nat
  bias : Nat
  /-- The number of characters that have been placed. -/
  placed : Nat

/-- Goes past a place of the label while the characters with one code point are written. -/
def Draft.pass (basic point : Nat) (d : Draft) (c : Char) : Draft :=
  if c.toNat < point then { d with delta := d.delta + 1 }
  else if c.toNat = point then
    ⟨d.digits ++ numberDigits d.bias d.delta 36 d.delta, 0,
      adapt d.delta (d.placed + 1) (d.placed = basic), d.placed + 1⟩
  else d

/-- Writes the characters of some code points, which come in increasing order after `n`. -/
def writePoints (label : List Char) (basic : Nat) : List Nat → Nat → Draft → Draft
  | [], _, d => d
  | point :: rest, n, d =>
    let d := { d with delta := d.delta + (point - n) * (d.placed + 1) }
    let d := label.foldl (Draft.pass basic point) d
    writePoints label basic rest (point + 1) { d with delta := d.delta + 1 }

/-- The ASCII form of a label. -/
def encode (label : List Char) : List Char :=
  let basic := label.filter fun c => c.toNat < 0x80
  let points := ((label.filter fun c => 0x80 ≤ c.toNat).map Char.toNat).mergeSort.eraseDups
  let d := writePoints label basic.length points 0x80 ⟨[], 0, 72, basic.length⟩
  basic ++ (if basic.isEmpty then [] else ['-']) ++ d.digits

/-! ## Reading -/

/-- Takes the digits of a number of steps off the front. -/
def number? (bias : Nat) : Nat → Nat → Nat → List Char → Option (Nat × List Char)
  | _, _, _, [] => none
  | k, weight, n, c :: rest => do
    let v ← value? c
    let t := threshold k bias
    if v < t then return (n + v * weight, rest)
    else number? bias (k + 36) (weight * (36 - t)) (n + v * weight) rest

/-- Places the characters that digits tell.  The code point and the place to start from are
those after the character before.  The fuel bounds the number of characters. -/
def place? : Nat → Nat → Nat → Nat → List Char → List Char → Option (List Char)
  | _, _, _, _, label, [] => some label
  | 0, _, _, _, _, _ => none
  | fuel + 1, bias, point, start, label, digits => do
    let (steps, rest) ← number? bias 36 1 0 digits
    let size := label.length + 1
    let position := start + steps
    let point := point + position / size
    if (0xD800 ≤ point ∧ point < 0xE000) ∨ 0x10FFFF < point then none
    else
      place? fuel (adapt steps size (start = 0)) point (position % size + 1)
        (label.insertIdx (position % size) (Char.ofNat point)) rest

/-- The label that has an ASCII form.  A hyphen that begins the form does not end a list of
ASCII characters. -/
def decode? (form : List Char) : Option (List Char) :=
  let digits := (form.reverse.takeWhile (· != '-')).reverse
  let basic := form.take (form.length - digits.length - 1)
  if digits.length = form.length then place? form.length 72 0x80 0 [] form
  else if basic.isEmpty then none
  else place? form.length 72 0x80 0 basic digits

end SupportDesk.Host.Punycode
