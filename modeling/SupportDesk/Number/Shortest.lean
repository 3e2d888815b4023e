/-
# The shortest decimal of a double

Among all decimals that read back as a given double, those with the fewest digits are the
shortest, and the one of them nearest to the double is written.  The search tries one
digit, then two, and so on to seventeen; at each length it looks at the two decimals next
to the value and keeps those inside the interval of reals that round to the double.
-/

import SupportDesk.Number.Binary64
import SupportDesk.Text.Digits

namespace SupportDesk

/-- A positive decimal `significand · 10^exponent`, without trailing zeros. -/
structure ShortDecimal where
  significand : Nat
  exponent : Int
deriving DecidableEq, Repr

namespace ShortDecimal

/-- The value and the bounds of the interval that rounds to a double, all over one
denominator, and whether the bounds belong to the interval. -/
structure Interval where
  low : Nat
  value : Nat
  high : Nat
  denominator : Nat
  closed : Bool
deriving Repr

/-- The rounding interval of the magnitude of a finite double other than zero. -/
def Interval.ofScaled (m : Nat) (q : Int) : Interval :=
  let below := if m = 0x10000000000000 ∧ -1074 < q then 1 else 2
  let q := q - 2
  let up := Nat.pow 2 q.toNat
  ⟨(4 * m - below) * up, 4 * m * up, (4 * m + 2) * up, Nat.pow 2 (-q).toNat, m % 2 = 0⟩

/-- Whether the decimal `d · 10^e` lies in an interval. -/
def Interval.admits (i : Interval) (d : Nat) (e : Int) : Bool :=
  let scaledD := d * Nat.pow 10 e.toNat * i.denominator
  let scale := Nat.pow 10 (-e).toNat
  if i.closed then decide (i.low * scale ≤ scaledD ∧ scaledD ≤ i.high * scale)
  else decide (i.low * scale < scaledD ∧ scaledD < i.high * scale)

/-- The whole part of the value on the grid of multiples of `10^e`. -/
def Interval.floorOn (i : Interval) (e : Int) : Nat :=
  i.value * Nat.pow 10 (-e).toNat / (i.denominator * Nat.pow 10 e.toNat)

/-- Whether `d · 10^e` is nearer to the value than `(d + 1) · 10^e`; a tie goes to the even
one. -/
def Interval.lowerIsNearer (i : Interval) (d : Nat) (e : Int) : Bool :=
  let twice := 2 * i.value * Nat.pow 10 (-e).toNat
  let middle := (2 * d + 1) * i.denominator * Nat.pow 10 e.toNat
  decide (twice < middle) || (decide (twice = middle) && d % 2 == 0)

/-- The decimal on the grid of `10^e` that is written, if one reads back. -/
def Interval.onGrid? (i : Interval) (e : Int) : Option Nat :=
  let d := i.floorOn e
  match i.admits d e && d != 0, i.admits (d + 1) e with
  | true, true => some (if i.lowerIsNearer d e then d else d + 1)
  | true, false => some d
  | false, true => some (d + 1)
  | false, false => none

/-- Tries finer and finer grids. -/
def Interval.search (i : Interval) : Nat → Int → Option ShortDecimal
  | 0, _ => none
  | fuel + 1, e =>
    match i.onGrid? e with
    | some d => some ⟨d, e⟩
    | none => i.search fuel (e - 1)

/-- Drops trailing zeros of a significand.  The first argument bounds their number. -/
def trim : Nat → ShortDecimal → ShortDecimal
  | 0, d => d
  | fuel + 1, d =>
    if d.significand ≠ 0 ∧ d.significand % 10 = 0 then trim fuel ⟨d.significand / 10, d.exponent + 1⟩
    else d

/-- The shortest decimal of the magnitude of a finite double. -/
def ofBinary64 (x : Binary64) : ShortDecimal :=
  if x.isZero then ⟨0, 0⟩
  else
    let (m, q) := x.scaled
    let i := Interval.ofScaled m q
    let places : Int := ((Nat.toDigits 10 (i.value / i.denominator)).length : Int)
    let start := if i.value < i.denominator then 0 else places
    let found := (i.search 345 start).getD ⟨m, q⟩
    trim 400 found

/-- The digits of the significand. -/
def digits (d : ShortDecimal) : List Char := Digits.decimal d.significand

/-- Positional notation without an exponent, whatever the length; no point in a whole
number. -/
def positional (d : ShortDecimal) : List Char :=
  let ds := d.digits
  if 0 ≤ d.exponent then
    if d.significand = 0 then ds else ds ++ List.replicate d.exponent.toNat '0'
  else
    let places := d.exponent.natAbs
    if places < ds.length then ds.take (ds.length - places) ++ '.' :: ds.drop (ds.length - places)
    else '0' :: '.' :: (List.replicate (places - ds.length) '0' ++ ds)

/-- Scientific notation: one digit before the point and a plain exponent. -/
def scientific (d : ShortDecimal) : List Char :=
  let ds := d.digits
  let e := d.exponent + (ds.length - 1 : Nat)
  let head := match ds with
    | [] => []
    | [c] => [c]
    | c :: cs => c :: '.' :: cs
  head ++ 'e' :: (toString e).toList

end ShortDecimal

namespace Binary64

/-- The sign and the text of a magnitude. -/
def signed (x : Binary64) (magnitude : List Char) : String :=
  String.ofList (if x.isNegative then '-' :: magnitude else magnitude)

/-- The plain text of a number: its shortest decimal without an exponent. -/
def plainText (x : Binary64) : String :=
  if x.isNaN then "NaN"
  else if !x.isFinite then x.signed "inf".toList
  else x.signed (ShortDecimal.ofBinary64 x).positional

/-- The text of a finite number in a data format.  A whole number keeps `.0`; positional
notation is used while the point lies between five places before the first digit and
sixteen after it. -/
def dataText (x : Binary64) : String :=
  let d := ShortDecimal.ofBinary64 x
  let point : Int := (d.digits.length : Int) + d.exponent
  if -5 < point ∧ point ≤ 16 then
    x.signed (if d.exponent < 0 then d.positional else d.positional ++ ".0".toList)
  else x.signed d.scientific

end Binary64

end SupportDesk
