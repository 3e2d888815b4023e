/-
# Log directives

A log line is written if its level is at most the one that is set for it.  The configuration
sets a level for every line, and directives set others: a directive may hold for the targets
that begin with its own, for the lines inside a span of some name, and for the lines that have
a field.  Of the directives that hold for a line the most particular counts: the one with the
longest target, and then the one that asks for a field.
-/

import SupportDesk.Service.LogLevel
import SupportDesk.Text.Alphanumeric
import SupportDesk.Text.Blank

namespace SupportDesk

/-- A directive: up to which rank it lets lines pass, and for which lines it holds. -/
structure LogDirective where
  /-- What the target of a line must begin with, if anything. -/
  target : Option (List Char)
  /-- Whether the directive holds only in the spans of a name. -/
  inSpan : Bool
  /-- The field that a line must have, if any, as a name that a value may follow after an equals
  sign. -/
  field : Option (List Char)
  rank : Nat
deriving DecidableEq, Repr

namespace LogDirective

/-- Why a piece of text is no directive. -/
inductive Fault
  | malformed
  | level
deriving DecidableEq, Repr

/-- The wording of a fault. -/
def Fault.message : Fault → String
  | malformed => "invalid filter directive"
  | level => "error parsing level filter: expected one of \"off\", \"error\", \"warn\", \"info\", "
    ++ "\"debug\", \"trace\", or a number 0-5"

/-! ## Reading -/

/-- The part of a piece of text that is being read, with the position where it starts. -/
inductive Part
  | beginning
  | target (start : Nat)
  | span (start : Nat)
  | field (start : Nat)
  /-- After the closing brace of a field. -/
  | fieldEnd
  /-- After the closing bracket. -/
  | bracketEnd
  | level (start : Nat)
deriving DecidableEq, Repr

/-- A directive under construction. -/
structure Draft where
  part : Part
  target : Option (List Char)
  inSpan : Bool
  field : Option (List Char)

/-- The draft of a piece before its first character. -/
def Draft.empty : Draft := ⟨.beginning, none, false, none⟩

/-- Whether a directive may begin with a character other than a bracket. -/
def mayBegin (c : Char) : Bool :=
  Alphanumeric.isAlphanumeric c || c == '-' || c == ':' || c == '_'

/-- Reads the character at a position of a piece; parts are cut out of the characters of the
piece. -/
def Draft.read (d : Draft) (piece : List Char) (i : Nat) (c : Char) : Except Fault Draft :=
  let cut (start : Nat) : List Char := (piece.take i).drop start
  match d.part with
  | .beginning =>
    if c = '[' then .ok { d with part := .span (i + 1) }
    else if mayBegin c then .ok { d with part := .target i }
    else .error .malformed
  | .target start =>
    if c = '=' then .ok { d with part := .level (i + 1), target := some (cut start) }
    else if c = '[' then .ok { d with part := .span (i + 1), target := some (cut start) }
    else .ok d
  | .span start =>
    if c = ']' then .ok { d with part := .bracketEnd, inSpan := true }
    else if c = '\x7b' then .ok { d with part := .field (i + 1), inSpan := !(cut start).isEmpty }
    else .ok d
  | .field start =>
    if c ≠ '\x7d' then .ok d
    else if (cut start).isEmpty then .error .malformed
    else .ok { d with part := .fieldEnd, field := some (cut start) }
  | .fieldEnd => if c = ']' then .ok { d with part := .bracketEnd } else .error .malformed
  | .bracketEnd => if c = '=' then .ok { d with part := .level (i + 1) } else .error .malformed
  | .level _ => .ok d

/-- Reads the characters of a piece from a position on. -/
def Draft.readAll (piece : List Char) : Nat → List Char → Draft → Except Fault Draft
  | _, [], d => .ok d
  | i, c :: rest, d => do readAll piece (i + 1) rest (← d.read piece i c)

/-- The directive of a draft after its last character.  Without a level it lets every line pass;
a level alone is no target. -/
def Draft.finish (d : Draft) (piece : List Char) : Except Fault LogDirective :=
  let all := LogLevel.trace.rank
  match d.part with
  | .target start =>
    match LogLevel.rankOf? (String.ofList (piece.drop start)) with
    | some rank => .ok ⟨none, false, none, rank⟩
    | none => .ok ⟨some (piece.drop start), false, none, all⟩
  | .level start =>
    if (piece.drop start).isEmpty then .ok ⟨d.target, d.inSpan, d.field, all⟩
    else
      match LogLevel.rankOf? (String.ofList (piece.drop start)) with
      | some rank => .ok ⟨d.target, d.inSpan, d.field, rank⟩
      | none => .error .level
  | .bracketEnd => .ok ⟨d.target, d.inSpan, d.field, all⟩
  | _ => .error .malformed

/-- Reads a directive.  Blanks around it are passed over, but the parts are cut out of the
text with them, at the positions that they have without. -/
def parse (text : String) : Except Fault LogDirective := do
  let piece := text.toList
  (← Draft.readAll piece 0 (Blank.trim piece) .empty).finish piece

/-- The pieces of a list of directives, each with what it is. -/
def pieces (text : String) : List (String × Except Fault LogDirective) :=
  ((text.splitOn ",").filter fun piece => piece != "").map fun piece => (piece, parse piece)

/-- The directives of a list; a piece that is none is passed over. -/
def parseAll (text : String) : List LogDirective :=
  (pieces text).filterMap fun p => p.2.toOption

/-- The lines that tell which pieces of a list are passed over. -/
def complaints (text : String) : List String :=
  (pieces text).filterMap fun p =>
    match p.2 with
    | .ok _ => none
    | .error fault => some ("ignoring `" ++ p.1 ++ "`: " ++ fault.message)

/-! ## Meaning -/

/-- Whether a directive speaks of single lines: not of spans, nor of the value of a field. -/
def isPlain (d : LogDirective) : Bool := !d.inSpan && !(d.field.getD []).contains '='

/-- Whether a directive holds for the lines of a target with some fields. -/
def holdsFor (d : LogDirective) (target : String) (fields : List String) : Bool :=
  d.isPlain && (d.target.getD []).isPrefixOf target.toList
    && (d.field.map fun f => fields.contains (String.ofList f)).getD true

/-- How particular a directive is about targets. -/
def reach (d : LogDirective) : Nat := (d.target.map fun t => t.length + 1).getD 0

/-- Whether a directive is at least as particular as another. -/
def atLeast (d e : LogDirective) : Bool :=
  e.reach < d.reach || (e.reach == d.reach && (e.field.isNone || d.field.isSome))

/-- The most particular of some directives; of two alike the later. -/
def mostParticular? (ds : List LogDirective) : Option LogDirective :=
  ds.foldl (fun best d =>
    match best with
    | some b => if d.atLeast b then some d else best
    | none => some d) none

/-- The directive for every line. -/
def everywhere (level : LogLevel) : LogDirective := ⟨none, false, none, level.rank⟩

end LogDirective

/-- Whether a line of a target with some fields is written, with the configured level for every
line after the given directives. -/
def LogLevel.isWritten (configured : LogLevel) (directives : List LogDirective) (target : String)
    (fields : List String) (line : LogLevel) : Bool :=
  match LogDirective.mostParticular? ((directives ++ [LogDirective.everywhere configured]).filter
      fun d => d.holdsFor target fields) with
  | some d => line.rank ≤ d.rank
  | none => false

end SupportDesk
