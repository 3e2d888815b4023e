/-
# Addresses of hosts

The two kinds of numeric address.  The short kind is written as one to four numbers with dots
between them, the last of which fills the rest of its 32 bits.  The long kind is written as eight
pieces of 16 bits in hexadecimal with colons between them; two colons stand for pieces that are
zero, and the last two pieces may be written as an address of the short kind.
-/

import SupportDesk.Text.Digits

namespace SupportDesk.Host.Address

/-! ## The short kind -/

/-- The number of an address part: decimal, or octal after `0`, or hexadecimal after `0x`. -/
def number? (cs : List Char) : Option Nat :=
  let inBase (base : Nat) (ds : List Char) : Option Nat :=
    ds.foldlM (fun n c => ((Digits.hexValue? c).filter (· < base)).map (n * base + ·)) 0
  match cs with
  | [] => none
  | '0' :: 'x' :: rest => inBase 16 rest
  | '0' :: 'X' :: rest => inBase 16 rest
  | '0' :: rest => inBase 8 rest
  | _ => inBase 10 cs

/-- The parts of a host name between dots, without the empty one after a dot at its end. -/
def parts (name : List Char) : List (List Char) :=
  let all := ((String.ofList name).splitOn ".").map String.toList
  match all.reverse with
  | [] :: rest@(_ :: _) => rest.reverse
  | _ => all

/-- Whether a host name must be an address of the short kind: its last part is a number. -/
def endsInNumber (name : List Char) : Bool :=
  match (parts name).getLast? with
  | some last =>
    !last.isEmpty && (last.all Digits.isDecimal
      || ((last.take 2 = "0x".toList || last.take 2 = "0X".toList) && (number? last).isSome))
  | none => false

/-- The address that one to four numbers denote. -/
def ofNumbers? (numbers : List Nat) : Option Nat :=
  match numbers.reverse with
  | [] => none
  | last :: front =>
    let room := Nat.pow 256 (4 - front.length)
    if 3 < front.length ∨ front.any (255 < ·) ∨ room ≤ last then none
    else some (front.foldr (fun n above => above * 256 + n) 0 * room + last)

/-- The address of the short kind that a host name is. -/
def short? (name : List Char) : Option Nat := ((parts name).mapM number?).bind ofNumbers?

/-- The text of an address of the short kind. -/
def shortText (n : Nat) : String :=
  ".".intercalate ([24, 16, 8, 0].map fun places => toString ((n >>> places) % 256))

/-! ## The long kind -/

/-- The number of pieces. -/
def pieceCount : Nat := 8

/-- Pieces that have been read. -/
structure Draft where
  /-- The pieces so far, the last first. -/
  pieces : List Nat
  /-- How many pieces came before the two colons, if there were any. -/
  gap : Option Nat
deriving Repr

/-- The pieces with zeros in place of the two colons. -/
def Draft.filled? (d : Draft) : Option (List Nat) :=
  let pieces := d.pieces.reverse
  match d.gap with
  | some n => some (pieces.take n ++ List.replicate (pieceCount - pieces.length) 0 ++ pieces.drop n)
  | none => if pieces.length = pieceCount then some pieces else none

/-- Reads a number of at most 255 without zeros in front. -/
def octet? (digits : List Char) : Option Nat :=
  match digits with
  | '0' :: _ :: _ => none
  | _ => if digits.isEmpty then none else (Digits.readDecimal? digits).filter (· ≤ 255)

/-- The two pieces that an address of the short kind fills, the last first. -/
def shortPieces? (cs : List Char) : Option (List Nat) :=
  match ((String.ofList cs).splitOn ".").mapM fun part => octet? part.toList with
  | some [a, b, c, d] => some [c * 256 + d, a * 256 + b]
  | _ => none

/-- Reads pieces.  Two colons may stand for one more piece or several.  The fuel bounds the
number of characters. -/
def pieces? : Nat → Draft → List Char → Option Draft
  | 0, _, _ => none
  | _ + 1, d, [] => some d
  | fuel + 1, d, cs =>
    let count := d.pieces.length + (if d.gap.isSome then 1 else 0)
    if pieceCount ≤ count then none
    else
      let digits := (cs.take 4).takeWhile fun c => (Digits.hexValue? c).isSome
      let value := (Digits.readHex? digits).getD 0
      match digits.isEmpty, cs.drop digits.length with
      | true, ':' :: rest =>
        if d.gap.isSome then none
        else pieces? fuel { d with gap := some d.pieces.length } rest
      | true, _ => none
      | false, '.' :: _ =>
        if pieceCount - 2 < count then none
        else (shortPieces? cs).map fun last => { d with pieces := last ++ d.pieces }
      | false, ':' :: rest =>
        if rest.isEmpty then none else pieces? fuel { d with pieces := value :: d.pieces } rest
      | false, [] => some { d with pieces := value :: d.pieces }
      | false, _ => none

/-- The pieces of an address of the long kind. -/
def long? (cs : List Char) : Option (List Nat) :=
  let read (d : Draft) (cs : List Char) := (pieces? (cs.length + 1) d cs).bind Draft.filled?
  match cs with
  | ':' :: ':' :: rest => read ⟨[], some 0⟩ rest
  | ':' :: _ => none
  | _ => read ⟨[], none⟩ cs

/-- The number of zeros at the front. -/
def leadingZeros (pieces : List Nat) : Nat := (pieces.takeWhile (· = 0)).length

/-- The place and the length of the first of the longest runs of zeros, among those from a
place on. -/
def longestZeros : Nat → List Nat → Nat × Nat
  | i, [] => (i, 0)
  | i, piece :: rest =>
    let here := leadingZeros (piece :: rest)
    let later := longestZeros (i + 1) rest
    if later.2 ≤ here then (i, here) else later

/-- Pieces in hexadecimal with colons between them. -/
def piecesText (pieces : List Nat) : String :=
  ":".intercalate (pieces.map fun n => String.ofList (Nat.toDigits 16 n))

/-- The text of an address of the long kind, with two colons for the first of the longest runs
of at least two zeros. -/
def longText (pieces : List Nat) : String :=
  let (start, length) := longestZeros 0 pieces
  if length < 2 then piecesText pieces
  else piecesText (pieces.take start) ++ "::" ++ piecesText (pieces.drop (start + length))

end SupportDesk.Host.Address
