/-
# Reading TOML documents

A document is a sequence of lines: headers of tables and of elements of arrays of tables,
and keys with their values.  The reader goes through the lines once, keeping the root table
and the table of the last header.
-/

import SupportDesk.Toml.DatetimeTable
import SupportDesk.Toml.Table

namespace SupportDesk.Toml

/-- A reader of characters from the front of a document. -/
abbrev Reader := StateT (List Char) Option

namespace Reader

/-- The next character, which is not consumed. -/
def peek? : Reader (Option Char) := return (← get).head?

/-- Consumes one character. -/
def advance : Reader Unit := modify List.tail

/-- Consumes the characters at the front that have a property, and gives them. -/
def takeWhile (p : Char → Bool) : Reader (List Char) := do
  let cs ← get
  set (cs.dropWhile p)
  return cs.takeWhile p

/-- Consumes one expected character. -/
def expect (c : Char) : Reader Unit := do
  if (← peek?) = some c then advance else failure

/-- Consumes the given characters if they stand at the front, and tells whether they did. -/
def accept (expected : List Char) : Reader Bool := do
  let cs ← get
  if expected.isPrefixOf cs then
    set (cs.drop expected.length)
    return true
  else return false

/-- Whether a character is a blank within a line. -/
def isBlank (c : Char) : Bool := c == ' ' || c == '\t'

/-- Passes over blanks. -/
def skipBlanks : Reader Unit := modify (·.dropWhile isBlank)

/-- Whether a character may stand in a comment or a text of one line. -/
def isPrintable (c : Char) : Bool := c == '\t' || (0x20 ≤ c.toNat && c.toNat != 0x7f)

/-- Passes over a comment, if one begins here. -/
def skipComment : Reader Unit := do
  if (← peek?) = some '#' then
    let _ ← takeWhile isPrintable

/-- Passes over the end of a line, if it is here, and tells whether it was. -/
def acceptNewline : Reader Bool := do
  if ← accept ['\n'] then return true
  accept ['\r', '\n']

/-- Passes over the rest of a line: blanks, a comment, and the end of the line or of the
document. -/
def endLine : Reader Unit := do
  skipBlanks
  skipComment
  if (← get).isEmpty then return
  if ← acceptNewline then return
  failure

/-- Passes over blanks, comments and ends of lines.  The fuel bounds their number. -/
def skipLinesAux : Nat → Reader Unit
  | 0 => return
  | fuel + 1 => do
    skipBlanks
    skipComment
    if ← acceptNewline then skipLinesAux fuel

/-- Passes over blanks, comments and ends of lines. -/
def skipLines : Reader Unit := do
  skipLinesAux ((← get).length + 1)

/-! ## Texts -/

/-- The character of a code point written in hexadecimal. -/
def codePoint (width : Nat) : Reader Char := do
  let cs ← get
  let digits := cs.take width
  if digits.length ≠ width then failure
  match Digits.readHex? digits with
  | none => failure
  | some n =>
    if n < 0xD800 ∨ (0xDFFF < n ∧ n < 0x110000) then
      set (cs.drop width)
      return Char.ofNat n
    else failure

/-- The character of an escape, after the backslash. -/
def escape : Reader Char := do
  let c ← peek?
  advance
  match c with
  | some 'b' => return Char.ofNat 8
  | some 't' => return '\t'
  | some 'n' => return '\n'
  | some 'f' => return Char.ofNat 12
  | some 'r' => return '\r'
  | some '"' => return '"'
  | some '\\' => return '\\'
  | some 'u' => codePoint 4
  | some 'U' => codePoint 8
  | _ => failure

/-- Reads a quoted text of one line after its opening quote, in reverse.  The fuel bounds
its length. -/
def basicAux : Nat → List Char → Reader (List Char)
  | 0, _ => failure
  | fuel + 1, acc => do
    match ← peek? with
    | some '"' => advance; return acc
    | some '\\' =>
      advance
      let c ← escape
      basicAux fuel (c :: acc)
    | some c => if isPrintable c then do advance; basicAux fuel (c :: acc) else failure
    | none => failure

/-- Reads a literal text of one line after its opening quote. -/
def literal : Reader String := do
  let cs ← takeWhile fun c => isPrintable c && c != '\''
  expect '\''
  return String.ofList cs

/-- Passes over a backslash at the end of a line, with the blanks and lines after it, and
tells whether there was one. -/
def acceptContinuation : Reader Bool := do
  let cs ← get
  match cs with
  | '\\' :: rest =>
    let (ended, rest) := match rest.dropWhile isBlank with
      | '\n' :: rest => (true, rest)
      | '\r' :: '\n' :: rest => (true, rest)
      | rest => (false, rest)
    if ended then
      set (skipSpace (rest.length + 1) rest)
      return true
    else return false
  | _ => return false
where
  skipSpace : Nat → List Char → List Char
    | 0, cs => cs
    | fuel + 1, cs =>
      match cs with
      | ' ' :: rest => skipSpace fuel rest
      | '\t' :: rest => skipSpace fuel rest
      | '\n' :: rest => skipSpace fuel rest
      | '\r' :: '\n' :: rest => skipSpace fuel rest
      | _ => cs

/-- Reads a run of quotes inside a text of several lines.  Three of them close the text,
after up to two that belong to it; fewer belong to it.  The answer gives the quotes of the
text, and whether it is closed. -/
def quoteRun (q : Char) : Reader (List Char × Bool) := do
  let cs ← get
  let n := (cs.takeWhile (· == q)).length
  if n < 3 then
    set (cs.drop n)
    return (List.replicate n q, false)
  else
    let used := min n 5
    set (cs.drop used)
    return (List.replicate (used - 3) q, true)

/-- Reads a text of several lines after its opening quotes, in reverse.  In one with
escapes, a backslash at the end of a line joins it to the next text.  The fuel bounds its
length. -/
def multilineAux (q : Char) (escapes : Bool) : Nat → List Char → Reader (List Char)
  | 0, _ => failure
  | fuel + 1, acc => do
    match ← peek? with
    | none => failure
    | some c =>
      if c = q then
        let (quotes, closed) ← quoteRun q
        if closed then return quotes ++ acc else multilineAux q escapes fuel (quotes ++ acc)
      else if c = '\\' ∧ escapes then
        if ← acceptContinuation then multilineAux q escapes fuel acc
        else
          advance
          let c ← escape
          multilineAux q escapes fuel (c :: acc)
      else if isPrintable c then
        advance
        multilineAux q escapes fuel (c :: acc)
      else if ← acceptNewline then multilineAux q escapes fuel ('\n' :: acc)
      else failure

/-- Reads a text of several lines after its opening quotes; an end of line right after them
does not belong to it. -/
def multiline (q : Char) (escapes : Bool) : Reader String := do
  let _ ← acceptNewline
  let acc ← multilineAux q escapes ((← get).length + 1) []
  return String.ofList acc.reverse

/-- Reads a text of one line with its quotes. -/
def quoted : Reader String := do
  if ← accept ['"'] then
    let acc ← basicAux ((← get).length + 1) []
    return String.ofList acc.reverse
  expect '\''
  literal

/-! ## Keys -/

/-- Whether a character may stand in a key without quotes. -/
def isBareKey (c : Char) : Bool := c.isAlphanum || c == '-' || c == '_'

/-- Reads one part of a key. -/
def keyPart : Reader String := do
  match ← peek? with
  | some '"' => quoted
  | some '\'' => quoted
  | _ =>
    let cs ← takeWhile isBareKey
    if cs.isEmpty then failure else return String.ofList cs

/-- The number of parts of a key, and of values inside each other, at which reading
stops. -/
def nestingLimit : Nat := 80

/-- Reads the parts of a key, with dots between them.  The fuel bounds their number. -/
def keyAux : Nat → Reader (List String)
  | 0 => failure
  | fuel + 1 => do
    skipBlanks
    let part ← keyPart
    skipBlanks
    if ← accept ['.'] then return part :: (← keyAux fuel) else return [part]

/-- Reads a key as the path to its table and its name in it. -/
def key : Reader (List String × String) := do
  let parts ← keyAux (nestingLimit - 1)
  match parts.reverse with
  | name :: path => return (path.reverse, name)
  | [] => failure

/-! ## Values -/

/-- Whether a character may stand in a bare value. -/
def isBareValue (c : Char) : Bool :=
  c.isAlphanum || c == '_' || c == '+' || c == '-' || c == '.' || c == ':'

/-- Reads a bare value.  The blank between a date and a time belongs to it. -/
def bareValue : Reader TomlValue := do
  let front ← takeWhile isBareValue
  let cs ← get
  let token ← match date? front, cs with
    | some (_, []), ' ' :: d :: _ =>
      if Digits.isDecimal d then do
        advance
        pure (front ++ ' ' :: (← takeWhile isBareValue))
      else pure front
    | _, _ => pure front
  match bare? token with
  | some v => return v
  | none => failure

/-- Reads the items of an array after its opening bracket.  The fuel bounds their number. -/
def itemsAux (value : Reader TomlValue) : Nat → Reader (List TomlValue)
  | 0 => failure
  | fuel + 1 => do
    skipLines
    if ← accept [']'] then return []
    let v ← value
    skipLines
    if ← accept [','] then return v :: (← itemsAux value fuel)
    expect ']'
    return [v]

/-- Reads the entries of a table in braces after its opening brace.  The fuel bounds their
number. -/
def entriesAux (value : Reader TomlValue) : Nat → Entries → Reader Entries
  | 0, _ => failure
  | fuel + 1, entries => do
    let (path, name) ← key
    expect '='
    skipBlanks
    let v ← value
    skipBlanks
    match addValue? entries path name v with
    | none => failure
    | some entries =>
      if ← accept [','] then entriesAux value fuel entries
      else
        expect '\x7d'
        return entries

/-- Reads a value.  The argument is one more than the nesting that it may have. -/
def value : Nat → Reader TomlValue
  | 0 => failure
  | depth + 1 => do
    if ← accept ['"', '"', '"'] then return .string (← multiline '"' true)
    if ← accept ['\'', '\'', '\''] then return .string (← multiline '\'' false)
    match ← peek? with
    | some '"' => return .string (← quoted)
    | some '\'' => return .string (← quoted)
    | some '[' =>
      if depth = 0 then failure
      advance
      return .array (← itemsAux (value depth) ((← get).length + 1))
    | some '\x7b' =>
      if depth = 0 then failure
      advance
      skipBlanks
      if ← accept ['\x7d'] then return .table []
      return .table (entriesToValues (← entriesAux (value depth) ((← get).length + 1) []))
    | _ => bareValue

/-! ## Documents -/

/-- The header whose table is being read. -/
inductive Header
  | root
  | table (path : List String) (name : String)
  | element (path : List String) (name : String)

/-- The document so far without the table of the last header, and that table. -/
structure Draft where
  root : Entries
  header : Header
  current : Entries

/-- Puts the table of the last header into the document. -/
def Draft.close? (d : Draft) : Option Entries :=
  match d.header with
  | .root => some d.current
  | .table path name => closeTable? d.root path name d.current
  | .element path name => closeElement? d.root path name d.current

/-- Reads a header after its first bracket. -/
def header (d : Draft) : Reader Draft := do
  let isElement ← accept ['[']
  let (path, name) ← key
  expect ']'
  if isElement then expect ']'
  endLine
  let opened := d.close?.bind fun root =>
    if isElement then
      (openArray? root path name).map fun root => (⟨root, .element path name, []⟩ : Draft)
    else
      (openTable? root path name).map fun (root, entries) =>
        (⟨root, .table path name, entries⟩ : Draft)
  match opened with
  | some d => return d
  | none => failure

/-- Reads a key with its value. -/
def entry (d : Draft) : Reader Draft := do
  let (path, name) ← key
  expect '='
  skipBlanks
  let v ← value nestingLimit
  endLine
  match addValue? d.current path name v with
  | some current => return { d with current }
  | none => failure

/-- Reads the lines of a document.  The fuel bounds their number. -/
def linesAux : Nat → Draft → Reader Draft
  | 0, _ => failure
  | fuel + 1, d => do
    skipBlanks
    match ← peek? with
    | none => return d
    | some '#' => endLine; linesAux fuel d
    | some '\n' => endLine; linesAux fuel d
    | some '\r' => endLine; linesAux fuel d
    | some '[' =>
      advance
      linesAux fuel (← header d)
    | some _ => linesAux fuel (← entry d)

/-- Reads a document. -/
def document : Reader Entries := do
  let _ ← accept [Char.ofNat 0xFEFF]
  let d ← linesAux ((← get).length + 1) ⟨[], .root, []⟩
  match d.close? with
  | some root => return root
  | none => failure

end Reader

/-- The entries of the root table of a document, which must be a table and not a date. -/
def parse? (text : String) : Option (List (String × TomlValue)) := do
  let (entries, _) ← Reader.document.run text.toList
  match ← DatetimeTable.settle? (.table (entriesToValues entries)) with
  | .table entries => some entries
  | _ => none

end SupportDesk.Toml
