/-
# Quoted texts

A text in quotes, as messages show it: a quote or a backslash inside has a backslash before
it, the common controls have letters, and every other character that cannot be shown is
given by its number.
-/

import SupportDesk.Text.Digits
import SupportDesk.Text.Printable

namespace SupportDesk.Quoted

/-- The hexadecimal numeral of a number. -/
def hexNumeral (n : Nat) : List Char := Nat.toDigits 16 n

/-- A character inside quotes. -/
def escaped (c : Char) : List Char :=
  match c with
  | '"' => ['\\', '"']
  | '\\' => ['\\', '\\']
  | '\n' => ['\\', 'n']
  | '\r' => ['\\', 'r']
  | '\t' => ['\\', 't']
  | '\x00' => ['\\', '0']
  | c =>
    if Printable.isPrintable c then [c]
    else '\\' :: 'u' :: '\x7b' :: hexNumeral c.toNat ++ ['\x7d']

/-- A text in quotes. -/
def text (s : String) : String := String.ofList ('"' :: s.toList.flatMap escaped ++ ['"'])

end SupportDesk.Quoted
