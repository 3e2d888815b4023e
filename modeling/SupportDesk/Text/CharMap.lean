/-
# Maps from characters to texts

A large table of characters with a text for each is written in lines, in which the entries stand
between semicolons.  An entry is a list after a code point, such as `FB00 66+66 66+69`, for that
character and the ones after it, or a run such as `C0-D6 E0`, whose texts are single characters
that go up with it; `100-12E/2 101` is a run of every other character.  Numbers are hexadecimal.
-/

import SupportDesk.Text.Digits

namespace SupportDesk

/-- A map from some characters to texts. -/
structure CharMap where
  entries : Array (Char × List Char)
deriving Repr

namespace CharMap

/-- The number that a hexadecimal numeral denotes. -/
def number (numeral : String) : Nat := (Digits.readHex? numeral.toList).getD 0

/-- The text that code points after each other, with plus signs between them, denote. -/
def textOf (word : String) : List Char :=
  (word.splitOn "+").map fun numeral => Char.ofNat (number numeral)

/-- The entries of a run. -/
def runOf (first last step target : Nat) : List (Char × List Char) :=
  (List.range ((last - first) / step + 1)).map fun i =>
    (Char.ofNat (first + i * step), [Char.ofNat (target + i * step)])

/-- The entries of a list after a code point. -/
def listOf (first : Nat) (words : List String) : List (Char × List Char) :=
  words.zipIdx.map fun w => (Char.ofNat (first + w.2), textOf w.1)

/-- The entries that one entry of a written table stands for. -/
def entriesOf (entry : String) : List (Char × List Char) :=
  match entry.splitOn " " with
  | [] => []
  | place :: words =>
    match place.splitOn "-" with
    | [first, last] =>
      let target := number (words.headD "")
      match last.splitOn "/" with
      | [last, step] => runOf (number first) (number last) (number step) target
      | _ => runOf (number first) (number last) 1 target
    | _ => listOf (number place) words

/-- The map that the lines of a written table give. -/
def ofLines (lines : List String) : CharMap :=
  ⟨(lines.flatMap fun line => (line.splitOn ";").flatMap entriesOf).toArray⟩

/-- The text of a character. -/
def get? (m : CharMap) (c : Char) : Option (List Char) :=
  (m.entries.find? fun e => e.1 == c).map (·.2)

/-- The first character with a text. -/
def source? (m : CharMap) (text : List Char) : Option Char :=
  (m.entries.find? fun e => e.2 == text).map (·.1)

end CharMap

end SupportDesk
