/-
# The byte order mark

A file may begin with a mark that tells the order of its bytes.  It is no part of the text.
-/

namespace SupportDesk.ByteOrderMark

/-- The code point of the mark. -/
def codePoint : Nat := 0xFEFF

/-- The characters of a file after the mark, if it begins with one. -/
def skip (cs : List Char) : List Char :=
  match cs with
  | c :: rest => if c.toNat = codePoint then rest else c :: rest
  | [] => []

/-- The text of a file without the mark. -/
def without (text : String) : String := String.ofList (skip text.toList)

end SupportDesk.ByteOrderMark
