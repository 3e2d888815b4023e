/-
# Command lines

What a command takes on its line: options with and without a value, operands, and the names
of subcommands, which read the rest of the line by a grammar of their own.

A line is read from left to right, and what decides its outcome first ends the reading: a
request for help or for the version, or a mistake.  An option or operand is taken in when
the next one is read or the line ends; only then is it noticed that a value is missing, is
given twice or is not accepted.
-/

namespace SupportDesk.CommandLine

/-- Why the command of a line is not carried out. -/
inductive Stop
  | help
  | version
  | mistake
deriving DecidableEq, Repr

/-- The exit code after a line whose command is not carried out. -/
def Stop.code : Stop → Nat
  | help => 0
  | version => 0
  | mistake => 2

/-- What an option means. -/
inductive Meaning
  | help
  | version
  /-- It stands for itself. -/
  | switch
  /-- It has a value, which must be accepted. -/
  | value (accepts : String → Bool)

/-- An option: its name after two dashes, its letter after one dash, and its meaning. -/
structure OptionSpec where
  name : String
  letter : Option Char
  meaning : Meaning

/-- The option that asks for help. -/
def helpOption : OptionSpec := ⟨"help", some 'h', .help⟩

/-- The option that asks for the version. -/
def versionOption : OptionSpec := ⟨"version", some 'V', .version⟩

/-- What a command takes on its line. -/
structure Grammar where
  options : List OptionSpec
  /-- The tests of the operands, in order. -/
  operands : List (String → Bool)
  subcommands : List String

/-- What a line gives a command: the values of its options by name, and its operands. -/
structure Given where
  options : List (String × String)
  operands : List String
deriving DecidableEq, Repr

/-- The value of an option, if it is given. -/
def Given.value? (g : Given) (name : String) : Option String :=
  (g.options.find? fun o => o.1 = name).map (·.2)

/-- Whether an option is given. -/
def Given.has (g : Given) (name : String) : Bool := (g.value? name).isSome

/-- What has been read and not yet taken in. -/
inductive Pending
  | nothing
  | option (name : String) (accepts : String → Bool) (value : Option String)
  | operand (accepts : String → Bool) (text : String)

/-- The state of reading a line. -/
structure Reading where
  given : Given
  pending : Pending
  /-- How many operands have been read. -/
  operandCount : Nat
  /-- Whether `--` has been read, after which everything is an operand. -/
  plain : Bool

namespace Reading

/-- The state before the first word of a line. -/
def start : Reading := ⟨⟨[], []⟩, .nothing, 0, false⟩

/-- Whether an option waits for its value. -/
def awaitsValue (r : Reading) : Bool :=
  match r.pending with
  | .option _ _ none => true
  | _ => false

/-- Takes in the value of an option. -/
def take (r : Reading) (name : String) (accepts : String → Bool) (value : String) :
    Except Stop Reading :=
  if r.given.has name || !accepts value then .error .mistake
  else .ok { r with given := { r.given with options := r.given.options ++ [(name, value)] } }

/-- Takes in what is pending. -/
def settle (r : Reading) : Except Stop Reading :=
  let done : Reading := { r with pending := .nothing }
  match r.pending with
  | .nothing => .ok done
  | .option _ _ none => .error .mistake
  | .option name accepts (some value) => done.take name accepts value
  | .operand accepts text =>
    if accepts text then
      .ok { done with given := { r.given with operands := r.given.operands ++ [text] } }
    else .error .mistake

/-- Reads an option with the value attached to it, if any. -/
def readOption (r : Reading) (o : OptionSpec) (attached : Option String) : Except Stop Reading :=
  match o.meaning, attached with
  | .value accepts, some value => do (← r.settle).take o.name accepts value
  | .value accepts, none => do return { ← r.settle with pending := .option o.name accepts none }
  | .help, none => do let _ ← r.settle; .error .help
  | .version, none => do let _ ← r.settle; .error .version
  | .switch, none => do (← r.settle).take o.name (fun _ => true) ""
  | _, some _ => .error .mistake

/-- Reads an operand. -/
def readOperand (g : Grammar) (r : Reading) (text : String) : Except Stop Reading :=
  match g.operands[r.operandCount]? with
  | some accepts => do
    return { ← r.settle with
      pending := .operand accepts text, operandCount := r.operandCount + 1 }
  | none => .error .mistake

/-- Splits a text at its first equals sign. -/
def splitEquals (cs : List Char) : String × Option String :=
  (String.ofList (cs.takeWhile (· != '=')),
    match cs.dropWhile (· != '=') with
    | _ :: value => some (String.ofList value)
    | [] => none)

/-- Reads an option after its two dashes. -/
def readLong (g : Grammar) (r : Reading) (cs : List Char) : Except Stop Reading :=
  let (name, attached) := splitEquals cs
  match g.options.find? fun o => o.name = name with
  | some o => r.readOption o attached
  | none => .error .mistake

/-- Reads letters after one dash.  A letter whose option has a value takes the letters after
it, without an equals sign in front, as that value. -/
def readLetters (g : Grammar) : List Char → Reading → Except Stop Reading
  | [], r => .ok r
  | c :: rest, r =>
    match g.options.find? fun o => o.letter = some c with
    | none => .error .mistake
    | some o =>
      match o.meaning, rest with
      | .value _, [] => r.readOption o none
      | .value _, '=' :: value => r.readOption o (some (String.ofList value))
      | .value _, value => r.readOption o (some (String.ofList value))
      | _, _ => do readLetters g rest (← r.readOption o none)

/-- Reads one word that names no subcommand. -/
def readWord (g : Grammar) (r : Reading) (word : String) : Except Stop Reading :=
  if r.plain then r.readOperand g word
  else
    match word.toList with
    | ['-', '-'] => .ok { r with plain := true }
    | '-' :: '-' :: cs => r.readLong g cs
    | '-' :: c :: cs => readLetters g (c :: cs) r
    | _ =>
      match r.pending with
      | .option name accepts none => .ok { r with pending := .option name accepts (some word) }
      | _ => r.readOperand g word

end Reading

/-- Reads words up to the end of the line or to the name of a subcommand, which is given
with the words after it. -/
def Grammar.readWords (g : Grammar) :
    List String → Reading → Except Stop (Reading × Option (String × List String))
  | [], r => .ok (r, none)
  | word :: rest, r =>
    if !r.plain && !r.awaitsValue && g.subcommands.contains word then .ok (r, some (word, rest))
    else do g.readWords rest (← r.readWord g word)

/-- Reads a line without subcommands.  Every operand must be there. -/
def Grammar.read (g : Grammar) (words : List String) : Except Stop Given := do
  let (r, _) ← g.readWords words .start
  let r ← r.settle
  if r.given.operands.length = g.operands.length then return r.given else .error .mistake

end SupportDesk.CommandLine
