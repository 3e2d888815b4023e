/-
# Environment files

A file of assignments `NAME=value`, one to a line, that stand for environment variables
which are not set; of two to one name the first counts.  Values may be quoted: in single
quotes everything stands for itself, in double quotes and outside of them a backslash escapes
and a dollar sign puts in the value of a variable.  A line goes on over its end while a quote
is open.  Reading stops at the first line that is not understood; the assignments before it
count.
-/

import SupportDesk.Text.Alphanumeric
import SupportDesk.Text.Blank
import SupportDesk.Text.ByteOrderMark
import SupportDesk.Text.Digits

namespace SupportDesk.EnvironmentFile

/-- Variables with their values. -/
abbrev Variables := List (String × String)

/-- The value of a variable. -/
def lookup? (vs : Variables) (name : String) : Option String :=
  (vs.find? fun v => v.1 = name).map (·.2)

/-- The quotes in which a character stands. -/
inductive Quotes
  | outside
  | single
  | double
deriving DecidableEq, Repr

/-- A value under construction. -/
structure Draft where
  /-- The characters so far, in reverse. -/
  text : List Char
  quotes : Quotes
  /-- Whether the value has ended, so that only blanks and a comment may follow. -/
  ended : Bool

/-- Splits off the name of a variable after a dollar sign.  A name in braces ends with them;
any other ends before a character that is no letter or number, and that character, unless it
is a dollar sign, stands for itself and is given with the rest. -/
def reference (cs : List Char) : Option (String × List Char × List Char) :=
  match cs with
  | '{' :: rest =>
    match rest.dropWhile (· != '}') with
    | _ :: after => some (String.ofList (rest.takeWhile (· != '}')), [], after)
    | [] => none
  | _ =>
    let name := String.ofList (cs.takeWhile Alphanumeric.isAlphanumeric)
    match cs.dropWhile Alphanumeric.isAlphanumeric with
    | [] => some (name, [], [])
    | '$' :: rest => some (name, [], '$' :: rest)
    | c :: rest => some (name, [c], rest)

/-- The character that an escape stands for. -/
def escape? : Char → Option Char
  | 'n' => some '\n'
  | c => if ['\\', '\'', '"', '$', ' '].contains c then some c else none

/-- Reads the characters of a value.  The fuel bounds their number. -/
def valueAux (vs : Variables) : Nat → Draft → List Char → Option String
  | 0, _, _ => none
  | _ + 1, d, [] =>
    if d.quotes = .outside then some (String.ofList d.text.reverse) else none
  | fuel + 1, d, c :: rest =>
    let push (x : Char) (rest : List Char) := valueAux vs fuel { d with text := x :: d.text } rest
    if d.ended then
      if c = ' ' ∨ c = '\t' then valueAux vs fuel d rest
      else if c = '#' then some (String.ofList d.text.reverse)
      else none
    else if d.quotes = .single then
      if c = '\'' then valueAux vs fuel { d with quotes := .outside } rest else push c rest
    else if c = '$' then
      match reference rest with
      | none => none
      | some (name, literal, rest) =>
        let value := (lookup? vs name).getD ""
        valueAux vs fuel { d with text := literal ++ value.toList.reverse ++ d.text } rest
    else if c = '\\' then
      match rest with
      | e :: rest => (escape? e).bind fun x => push x rest
      | [] => valueAux vs fuel d []
    else if d.quotes = .double then
      if c = '"' then valueAux vs fuel { d with quotes := .outside } rest else push c rest
    else if c = '\'' then valueAux vs fuel { d with quotes := .single } rest
    else if c = '"' then valueAux vs fuel { d with quotes := .double } rest
    else if c = ' ' ∨ c = '\t' then valueAux vs fuel { d with ended := true } rest
    else push c rest

/-- Reads a value. -/
def value? (vs : Variables) (cs : List Char) : Option String :=
  match cs with
  | [] => some ""
  | '#' :: _ => some ""
  | _ => valueAux vs (cs.length + 1) ⟨[], .outside, false⟩ cs

/-- Splits off a name. -/
def name? (cs : List Char) : Option (String × List Char) :=
  let isNameChar (c : Char) : Bool := c.isAlphanum || c == '_' || c == '.'
  match cs.takeWhile isNameChar with
  | [] => none
  | c :: more =>
    if Digits.isDecimal c || c == '.' then none
    else some (String.ofList (c :: more), Blank.trimLeft (cs.dropWhile isNameChar))

/-- What a line holds. -/
inductive Line
  | nothing
  | assignment (name value : String)
  | unreadable
deriving DecidableEq, Repr

/-- Reads the rest of an assignment after its name. -/
def afterName (vs : Variables) (name : String) (cs : List Char) : Line :=
  match cs with
  | '=' :: rest =>
    match value? vs (Blank.trimLeft rest) with
    | some value => .assignment name value
    | none => .unreadable
  | _ => .unreadable

/-- Reads a line; the word `export` may stand in front of an assignment. -/
def line (vs : Variables) (cs : List Char) : Line :=
  match Blank.trim cs with
  | [] => .nothing
  | '#' :: _ => .nothing
  | cs =>
    match name? cs with
    | none => .unreadable
    | some ("export", '=' :: rest) => afterName vs "export" ('=' :: rest)
    | some ("export", rest) =>
      match name? rest with
      | some (name, rest) => afterName vs name rest
      | none => .unreadable
    | some (name, rest) => afterName vs name rest

/-! ## Lines -/

/-- What a character of a file stands in. -/
inductive Place
  /-- The blanks at the start of a line. -/
  | start
  | plain
  /-- Right after a single blank. -/
  | blank
  | escaped
  | single
  | singleEscaped
  | double
  | doubleEscaped
  | comment
deriving DecidableEq, Repr

/-- The place after a character outside of quotes. -/
def Place.afterPlain (c : Char) : Place :=
  if c = '\\' then escaped
  else if c = '"' then double
  else if c = '\'' then single
  else plain

/-- The place after a character.  To find the end of a line, a backslash escapes in single
quotes too, and a comment begins after exactly one blank or at the start of the line. -/
def Place.next (p : Place) (c : Char) : Place :=
  match p with
  | start =>
    if c = '#' then comment
    else if Blank.isBlank c ∧ c ≠ '\n' then start
    else afterPlain c
  | plain => if Blank.isBlank c ∧ c ≠ '\n' ∧ c ≠ '\r' then blank else afterPlain c
  | blank => if c = '#' then comment else afterPlain c
  | escaped => plain
  | single => if c = '\\' then singleEscaped else if c = '\'' then plain else single
  | singleEscaped => single
  | double => if c = '\\' then doubleEscaped else if c = '"' then plain else double
  | doubleEscaped => double
  | comment => if c = '\n' then plain else comment

/-- Whether a file may end at a place. -/
def Place.mayEnd : Place → Bool
  | start => true
  | plain => true
  | comment => true
  | _ => false

/-- The lines of a file without their comments.  A line that the file breaks off is `none`.
The second argument holds the characters of the line so far, in reverse. -/
def lines : Place → List Char → List Char → List (Option (List Char))
  | p, text, [] => if p.mayEnd then [some text.reverse] else [none]
  | p, text, c :: rest =>
    match p.next c with
    | .plain =>
      if c = '\n' then some text.reverse :: lines .start [] rest else lines .plain (c :: text) rest
    | .comment => lines .comment text rest
    | q => lines q (c :: text) rest

/-- The variables together with the assignments of lines to others. -/
def extendBy (vs : Variables) : List (Option (List Char)) → Variables
  | [] => vs
  | none :: _ => vs
  | some cs :: rest =>
    match line vs cs with
    | .nothing => extendBy vs rest
    | .assignment name value =>
      extendBy (if (lookup? vs name).isSome then vs else vs ++ [(name, value)]) rest
    | .unreadable => vs

/-- The variables of an environment together with those that a file adds to it. -/
def extend (vs : Variables) (file : String) : Variables :=
  extendBy vs (lines .start [] (ByteOrderMark.skip file.toList))

end SupportDesk.EnvironmentFile
