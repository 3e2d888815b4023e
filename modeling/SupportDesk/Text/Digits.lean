/-
# Decimal and hexadecimal digits

Digit characters, their values, and numbers written with a fixed least width.
Reading and writing use the same two tables, so that what one writes the other reads.
-/

namespace SupportDesk.Digits

/-- The value of an ASCII decimal digit. -/
def decimalValue? (c : Char) : Option Nat :=
  if '0' ≤ c ∧ c ≤ '9' then some (c.toNat - 48) else none

/-- Whether a character is an ASCII decimal digit. -/
def isDecimal (c : Char) : Bool := (decimalValue? c).isSome

/-- The value of an ASCII hexadecimal digit, in either case. -/
def hexValue? (c : Char) : Option Nat :=
  if '0' ≤ c ∧ c ≤ '9' then some (c.toNat - 48)
  else if 'a' ≤ c ∧ c ≤ 'f' then some (c.toNat - 87)
  else if 'A' ≤ c ∧ c ≤ 'F' then some (c.toNat - 55)
  else none

/-- The digit character of a value below sixteen; letters are lower case. -/
def ofValue (n : Nat) : Char :=
  if n < 10 then Char.ofNat (48 + n) else Char.ofNat (87 + n)

/-- The lowest `width` digits of `n` in the given base, most significant first. -/
def fixed (base : Nat) : Nat → Nat → List Char
  | 0, _ => []
  | width + 1, n => fixed base width (n / base) ++ [ofValue (n % base)]

/-- The shortest decimal numeral of `n`; zero is one digit. -/
def decimal (n : Nat) : List Char := Nat.toDigits 10 n

/-- The decimal numeral of `n`, filled with zeros on the left to `width` characters. -/
def padded (width n : Nat) : List Char :=
  let digits := decimal n
  List.replicate (width - digits.length) '0' ++ digits

/-- The number that a list of decimal digits denotes; any other character refuses it. -/
def readDecimal? (cs : List Char) : Option Nat :=
  cs.foldlM (fun n c => (decimalValue? c).map (n * 10 + ·)) 0

/-- The number that a numeral of at least one digit denotes, if it is at most `most`; a plus
sign may stand in front. -/
def readNumeral? (most : Nat) (text : String) : Option Nat :=
  let digits := match text.toList with
    | '+' :: rest => rest
    | cs => cs
  if digits.isEmpty then none else (readDecimal? digits).filter (· ≤ most)

/-- The number that a list of hexadecimal digits denotes. -/
def readHex? (cs : List Char) : Option Nat :=
  cs.foldlM (fun n c => (hexValue? c).map (n * 16 + ·)) 0

/-- Bytes as hexadecimal digits, two for each byte. -/
def hexOfBytes (bs : List UInt8) : List Char := bs.flatMap fun b => fixed 16 2 b.toNat

/-- The bytes that pairs of hexadecimal digits denote. -/
def bytesOfHex? : List Char → Option (List UInt8)
  | [] => some []
  | a :: b :: rest => do
    let byte ← readHex? [a, b]
    return byte.toUInt8 :: (← bytesOfHex? rest)
  | [_] => none

/-- Fixed-width numerals have their width. -/
@[simp] theorem length_fixed (base width n : Nat) : (fixed base width n).length = width := by
  induction width generalizing n with
  | zero => rfl
  | succ width ih => simp [fixed, ih]

end SupportDesk.Digits
