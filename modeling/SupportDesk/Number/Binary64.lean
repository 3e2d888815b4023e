/-
# Double-precision numbers

A double is kept as its 64 bits, so that equality is equality of representation and every
question about its value is settled in whole-number arithmetic.
-/

namespace SupportDesk

/-- A double-precision number, by its bits. -/
structure Binary64 where
  bits : UInt64
deriving DecidableEq, Repr, Inhabited

namespace Binary64

/-- The double with the value of a machine number. -/
def ofFloat (x : Float) : Binary64 := ⟨x.toBits⟩

/-- The machine number. -/
def toFloat (x : Binary64) : Float := Float.ofBits x.bits

/-- Positive infinity. -/
def infinity : Binary64 := ⟨0x7ff0000000000000⟩

/-- The undefined number. -/
def undefined : Binary64 := ⟨0x7ff8000000000000⟩

/-- The double nearest to `significand · 10^exponent`.  Decimals beyond the range of
doubles are recognised by their order of magnitude. -/
def ofDecimal (significand : Nat) (exponent : Int) : Binary64 :=
  let magnitude : Int := ((Nat.toDigits 10 significand).length : Int) + exponent
  if significand = 0 ∨ magnitude < -400 then ⟨0⟩
  else if 400 < magnitude then infinity
  else if exponent < 0 then ofFloat (Float.ofScientific significand true exponent.natAbs)
  else ofFloat (Float.ofScientific significand false exponent.natAbs)

/-- The double nearest to a whole number. -/
def ofNat (n : Nat) : Binary64 := ofDecimal n 0

/-- The number with its sign changed. -/
def neg (x : Binary64) : Binary64 := ⟨x.bits ^^^ 0x8000000000000000⟩

/-- Whether the sign bit is set. -/
def isNegative (x : Binary64) : Bool := x.bits &&& 0x8000000000000000 != 0

/-- The biased exponent. -/
def biasedExponent (x : Binary64) : Nat := (x.bits >>> 52).toNat % 2048

/-- The stored fraction. -/
def storedFraction (x : Binary64) : Nat := x.bits.toNat % 0x10000000000000

/-- Whether the number is neither infinite nor undefined. -/
def isFinite (x : Binary64) : Bool := x.biasedExponent ≠ 2047

/-- Whether the number is undefined. -/
def isNaN (x : Binary64) : Bool := x.biasedExponent = 2047 ∧ x.storedFraction ≠ 0

/-- Whether the number is zero, of either sign. -/
def isZero (x : Binary64) : Bool := x.biasedExponent = 0 ∧ x.storedFraction = 0

/-- The magnitude of a finite number as a whole number times a power of two. -/
def scaled (x : Binary64) : Nat × Int :=
  if x.biasedExponent = 0 then (x.storedFraction, -1074)
  else (0x10000000000000 + x.storedFraction, (x.biasedExponent : Int) - 1075)

/-- The whole number nearest to a finite number; a half goes away from zero. -/
def round (x : Binary64) : Int :=
  let (m, q) := x.scaled
  let magnitude := if 0 ≤ q then m * Nat.pow 2 q.toNat
    else (m + Nat.pow 2 (q.natAbs - 1)) / Nat.pow 2 q.natAbs
  if x.isNegative then -(magnitude : Int) else magnitude

end Binary64

end SupportDesk
