/-
# Writing JSON text

The compact form: no space between tokens, members in the order in which they stand, and in
strings only the escapes that the format asks for.
-/

import SupportDesk.Json.Value
import SupportDesk.Number.Shortest

namespace SupportDesk.Json

/-- The characters of one character of a string. -/
def escaped (c : Char) : List Char :=
  if c = '"' then ['\\', '"']
  else if c = '\\' then ['\\', '\\']
  else if c = '\n' then ['\\', 'n']
  else if c = '\r' then ['\\', 'r']
  else if c = '\t' then ['\\', 't']
  else if c.toNat = 8 then ['\\', 'b']
  else if c.toNat = 12 then ['\\', 'f']
  else if c.toNat < 0x20 then '\\' :: 'u' :: Digits.fixed 16 4 c.toNat
  else [c]

/-- A string in quotes. -/
def quotedChars (s : String) : List Char := '"' :: s.toList.flatMap escaped ++ ['"']

/-- The characters of a number. -/
def numberChars : JsonNumber → List Char
  | .natural n => Digits.decimal n
  | .negative n => '-' :: Digits.decimal n
  | .real x => if x.isFinite then x.dataText.toList else "null".toList

mutual

/-- The characters of a value. -/
def chars : Json → List Char
  | null => "null".toList
  | bool b => if b then "true".toList else "false".toList
  | number n => numberChars n
  | string s => quotedChars s
  | array items => '[' :: itemChars items
  | object members => '{' :: memberChars members

/-- The items of an array and its closing bracket. -/
def itemChars : List Json → List Char
  | [] => [']']
  | [v] => v.chars ++ [']']
  | v :: rest => v.chars ++ ',' :: itemChars rest

/-- The members of an object and its closing brace. -/
def memberChars : List (String × Json) → List Char
  | [] => ['}']
  | [(k, v)] => quotedChars k ++ ':' :: v.chars ++ ['}']
  | (k, v) :: rest => quotedChars k ++ ':' :: v.chars ++ ',' :: memberChars rest

end

/-- The compact text of a value. -/
def text (v : Json) : String := String.ofList v.chars

/-- The bytes of the compact text of a value. -/
def bytes (v : Json) : List UInt8 := v.text.toUTF8.toList

end SupportDesk.Json
