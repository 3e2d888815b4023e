/-
# Media types

A media type is a type and a subtype with a slash between them, and parameters after
semicolons.  Names are compared without regard to case.  What follows the last plus sign of
a subtype is its suffix, which names the format that the subtype is written in.
-/

namespace SupportDesk

/-- A media type without its parameters, in lower case. -/
structure MediaType where
  type : List Char
  subtype : List Char
  suffix : Option (List Char)
deriving DecidableEq, Repr

namespace MediaType

/-- Whether a character may stand in a name. -/
def isToken (c : Char) : Bool :=
  c.isAlphanum || "!#$%&'*+-.^_`|~".toList.contains c

/-- Whether a character may stand in a quoted parameter. -/
def isQuotable (c : Char) : Bool := 31 < c.toNat && c.toNat != 127

/-- Passes over a quoted value after its opening quote, up to what follows its closing one.  A
value has at least one character, so a quote that comes first belongs to it. -/
def skipQuoted : List Char → Option (List Char)
  | [] => none
  | c :: rest =>
    match isQuotable c, rest.dropWhile fun c => isQuotable c && c != '"' with
    | true, '"' :: after => some after
    | _, _ => none

/-- Splits a subtype at its last plus sign; a plus sign in front is part of the name. -/
def splitSuffix (cs : List Char) : List Char × Option (List Char) :=
  match cs with
  | [] => ([], none)
  | c :: rest =>
    let tail := (rest.reverse.takeWhile (· != '+')).reverse
    if tail.length = rest.length then (cs, none)
    else (c :: rest.take (rest.length - tail.length - 1), some tail)

/-- Whether the text after a quoted parameter value goes on properly. -/
def skipAfterQuote : List Char → Option (List Char)
  | [] => some []
  | ';' :: rest => some rest
  | ' ' :: rest => skipAfterQuote rest
  | _ => none

/-- Whether a text is a well-formed list of parameters.  The fuel bounds their number. -/
def parametersOk : Nat → List Char → Bool
  | 0, cs => cs.isEmpty
  | fuel + 1, cs =>
    match cs with
    | [] => true
    | ' ' :: rest => parametersOk fuel rest
    | _ =>
      let name := cs.takeWhile isToken
      match name.isEmpty, cs.drop name.length with
      | false, '=' :: '"' :: rest =>
        (((skipQuoted rest).bind skipAfterQuote).map (parametersOk fuel)).getD false
      | false, '=' :: rest =>
        let value := rest.takeWhile isToken
        match rest.drop value.length with
        | [] => true
        | ';' :: rest => !value.isEmpty && parametersOk fuel rest
        | _ => false
      | _, _ => false

/-- Whether a character may stand in a header that is read as text. -/
def isVisible (c : Char) : Bool := c == '\t' || (32 ≤ c.toNat && c.toNat < 127)

/-- Reads a media type with its parameters. -/
def parse? (text : String) : Option MediaType :=
  let cs := text.toList
  if !cs.all isVisible then none else
  let type := cs.takeWhile isToken
  match type.isEmpty, cs.drop type.length with
  | false, '/' :: rest =>
    let subtype := rest.takeWhile isToken
    let (name, suffix) := splitSuffix (subtype.map Char.toLower)
    let result : MediaType := ⟨type.map Char.toLower, name, suffix⟩
    match rest.drop subtype.length with
    | [] => some result
    | ';' :: params =>
      if !subtype.isEmpty && parametersOk (params.length + 1) params then some result else none
    | _ => none
  | _, _ => none

/-- Whether the type says that a body is JSON. -/
def isJson (m : MediaType) : Bool :=
  m.type = "application".toList &&
    (m.subtype = "json".toList || m.suffix = some "json".toList)

end MediaType

end SupportDesk
