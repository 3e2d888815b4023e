/-
# Request paths

A request target is a path with an optional query, or a whole address, of which the path is
what counts.  A path is taken apart at its slashes, and a segment that carries a value is
percent-decoded; its bytes must then be UTF-8.
-/

import SupportDesk.Text.Digits

namespace SupportDesk.Http

/-- Whether a character may stand in the name of a scheme. -/
def isSchemeChar (c : Char) : Bool := c.isAlphanum || c == '+' || c == '-' || c == '.'

/-- Whether a path goes on at a character: neither a query nor a fragment begins. -/
def isPathChar (c : Char) : Bool := c != '?' && c != '#'

/-- A request target without the scheme and the authority that it may start with. -/
def withoutAuthority (target : List Char) : List Char :=
  match target.dropWhile isSchemeChar with
  | ':' :: '/' :: '/' :: rest => rest.dropWhile fun c => c != '/' && isPathChar c
  | _ => target

/-- The path of a request target, without its query and fragment. -/
def pathOf (target : String) : List Char :=
  (withoutAuthority target.toList).takeWhile isPathChar

/-- The parts of a text between slashes. -/
def segments : List Char → List (List Char)
  | [] => [[]]
  | '/' :: rest => [] :: segments rest
  | c :: rest =>
    match segments rest with
    | [] => [[c]]
    | s :: more => (c :: s) :: more

/-- The bytes of a segment; a percent sign with two hexadecimal digits is the byte they
name, and any other percent sign stands for itself. -/
def percentDecode : List Char → List UInt8
  | '%' :: a :: b :: rest =>
    match Digits.hexValue? a, Digits.hexValue? b with
    | some x, some y => (x * 16 + y).toUInt8 :: percentDecode rest
    | _, _ => '%'.val.toUInt8 :: percentDecode (a :: b :: rest)
  | c :: rest => (String.singleton c).toUTF8.toList ++ percentDecode rest
  | [] => []

/-- The text of a percent-encoded segment. -/
def decodeSegment? (segment : List Char) : Option String :=
  String.fromUTF8? ⟨(percentDecode segment).toArray⟩

end SupportDesk.Http
