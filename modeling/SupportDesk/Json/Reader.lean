/-
# Reading JSON text

Readers consume bytes from the front of a text and stop at the first fault, so of two
faults the earlier one is reported.  Besides the reader of whole values there are readers
for the shapes of messages: text, numbers, optional values, named variants, and records
written as an object or as an array of their fields.

Nested arrays and objects are read to a depth of 127.  Members that a record does not know
are passed over by their form alone: their numbers may be of any size, and their strings may
hold lone surrogates and bytes that are no UTF-8.
-/

import SupportDesk.Json.Value
import SupportDesk.Text.Digits
import SupportDesk.Wire.DecodeError

namespace SupportDesk.Json

/-- A reader of bytes from the front of a text. -/
abbrev Reader := StateT (List UInt8) (Except DecodeError)

namespace Reader

/-- Ends reading with an error. -/
def fail {α : Type} (e : DecodeError) : Reader α := throw e

/-- Whether a character may stand between tokens. -/
def isSpace (c : Char) : Bool := c == ' ' || c == '\n' || c == '\t' || c == '\r'

/-- Passes over space between tokens. -/
def skipSpace : Reader Unit := modify (·.dropWhile fun b => isSpace (.ofUInt8 b))

/-- The next byte as a character, which is not consumed.  Beyond ASCII it begins no token. -/
def peek? : Reader (Option Char) := return (← get).head?.map Char.ofUInt8

/-- Consumes one byte. -/
def advance : Reader Unit := modify List.tail

/-- The next character after space; it is not consumed, and the text must have one. -/
def peekToken : Reader Char := do
  skipSpace
  match ← peek? with
  | some c => return c
  | none => fail .malformed

/-- Consumes exactly the given ASCII characters. -/
def expectChars : List Char → Reader Unit
  | [] => return
  | c :: cs => do
    if (← peek?) = some c then
      advance
      expectChars cs
    else fail .malformed

/-- Consumes one expected character after space. -/
def expectToken (c : Char) : Reader Unit := do
  skipSpace
  expectChars [c]

/-- Consumes the decimal digits at the front and gives them. -/
def takeDigits : Reader (List Char) := do
  let bs ← get
  set (bs.dropWhile fun b => Digits.isDecimal (.ofUInt8 b))
  return (bs.takeWhile fun b => Digits.isDecimal (.ofUInt8 b)).map Char.ofUInt8

/-! ## Numbers -/

/-- The largest whole number of 64 bits. -/
def maxNatural : Nat := 0xffffffffffffffff

/-- A significand of at most 64 bits, and the number of further digits that did not fit. -/
structure Significand where
  value : Nat
  surplus : Nat
  full : Bool
deriving Repr

/-- Adds digits to a significand.  From the first digit that does not fit, all are
surplus. -/
def Significand.push (s : Significand) (ds : List Char) : Significand :=
  ds.foldl (fun s c =>
    let next := s.value * 10 + (Digits.decimalValue? c).getD 0
    if s.full || maxNatural < next then { s with surplus := s.surplus + 1, full := true }
    else { s with value := next }) s

/-- The power of ten as a double. -/
def powerOfTen (n : Nat) : Float := Float.ofScientific 1 false n

/-- Scales a double by a power of ten in steps that doubles can hold; fails beyond the
largest double.  The fuel bounds the number of steps. -/
def scale? : Nat → Float → Int → Option Float
  | 0, f, _ => some f
  | fuel + 1, f, e =>
    if e.natAbs ≤ 308 then
      if 0 ≤ e then
        let g := f * powerOfTen e.natAbs
        if g.isInf then none else some g
      else some (f / powerOfTen e.natAbs)
    else if f == 0.0 then some f
    else if 0 ≤ e then none
    else scale? fuel (f / powerOfTen 308) (e + 308)

/-- The double that a significand and an exponent denote. -/
def toReal (negative : Bool) (significand : Nat) (exponent : Int) : Reader JsonNumber :=
  match scale? 8 significand.toUInt64.toFloat exponent with
  | some f =>
    let x := Binary64.ofFloat f
    return .real (if negative then x.neg else x)
  | none => fail .malformed

/-- The largest magnitude of a written exponent that is computed with. -/
def maxExponent : Nat := 0x7fffffff

/-- Reads what follows the exponent mark. -/
def readExponent (negative : Bool) (significand : Nat) (exponent : Int) : Reader JsonNumber := do
  let down ← match ← peek? with
    | some '-' => do advance; pure true
    | some '+' => do advance; pure false
    | _ => pure false
  let digits ← takeDigits
  if digits.isEmpty then fail .malformed
  let e := (Digits.readDecimal? digits).getD 0
  if maxExponent < e then
    if significand ≠ 0 ∧ ¬ down then fail .malformed
    toReal negative 0 0
  else toReal negative significand (if down then exponent - e else exponent + e)

/-- Reads an exponent if its mark stands next. -/
def readOptionalExponent (negative : Bool) (significand : Nat) (exponent : Int) :
    Reader JsonNumber := do
  match ← peek? with
  | some 'e' | some 'E' => advance; readExponent negative significand exponent
  | _ => toReal negative significand exponent

/-- Reads the digits after a decimal point, and an exponent if there is one. -/
def readFraction (negative : Bool) (s : Significand) : Reader JsonNumber := do
  let digits ← takeDigits
  if digits.isEmpty then fail .malformed
  let t := ({ s with surplus := 0, full := false } : Significand).push digits
  let used : Int := (digits.length : Int) - t.surplus
  readOptionalExponent negative t.value (s.surplus - used)

/-- A whole number without point or exponent.  One that does not fit 64 bits, and minus
zero, are doubles. -/
def wholeNumber (negative : Bool) (s : Significand) : Reader JsonNumber :=
  if s.full then toReal negative s.value s.surplus
  else if ¬ negative then return .natural s.value
  else if s.value = 0 ∨ 0x8000000000000000 < s.value then toReal true s.value 0
  else return .negative s.value

/-- Reads a number after its sign. -/
def readUnsigned (negative : Bool) : Reader JsonNumber := do
  let digits ← takeDigits
  match digits with
  | [] => fail .malformed
  | '0' :: _ :: _ => fail .malformed
  | _ =>
    let s := Significand.push ⟨0, 0, false⟩ digits
    match ← peek? with
    | some '.' => advance; readFraction negative s
    | some 'e' | some 'E' => advance; readExponent negative s.value s.surplus
    | _ => wholeNumber negative s

/-- Reads a number. -/
def readNumber : Reader JsonNumber := do
  match ← peek? with
  | some '-' => advance; readUnsigned true
  | _ => readUnsigned false

/-- Passes over a number of any size. -/
def skipNumber : Reader Unit := do
  if (← peek?) = some '-' then advance
  match ← takeDigits with
  | [] => fail .malformed
  | '0' :: _ :: _ => fail .malformed
  | _ => pure ()
  if (← peek?) = some '.' then
    advance
    if (← takeDigits).isEmpty then fail .malformed
  match ← peek? with
  | some 'e' | some 'E' =>
    advance
    match ← peek? with
    | some '-' | some '+' => advance
    | _ => pure ()
    if (← takeDigits).isEmpty then fail .malformed
  | _ => pure ()

/-! ## Strings -/

/-- Reads four hexadecimal digits. -/
def readHex4 : Reader Nat := do
  let bs ← get
  let digits := (bs.take 4).map Char.ofUInt8
  match Digits.readHex? digits with
  | some n => if digits.length = 4 then do set (bs.drop 4); return n else fail .malformed
  | none => fail .malformed

/-- Whether a code unit is the first half of a surrogate pair. -/
def isLead (n : Nat) : Bool := 0xD800 ≤ n && n ≤ 0xDBFF

/-- Whether a code unit is the second half of a surrogate pair. -/
def isTrail (n : Nat) : Bool := 0xDC00 ≤ n && n ≤ 0xDFFF

/-- The character after `\u`; surrogates must come in pairs. -/
def readCodePoint : Reader Char := do
  let n ← readHex4
  if isLead n then
    expectChars ['\\', 'u']
    let m ← readHex4
    if isTrail m then return Char.ofNat (0x10000 + (n - 0xD800) * 0x400 + (m - 0xDC00))
    else fail .malformed
  else if isTrail n then fail .malformed
  else return Char.ofNat n

/-- The character that a one-letter escape stands for. -/
def escape? : Char → Option Char
  | '"' => some '"'
  | '\\' => some '\\'
  | '/' => some '/'
  | 'b' => some (Char.ofNat 8)
  | 'f' => some (Char.ofNat 12)
  | 'n' => some '\n'
  | 'r' => some '\r'
  | 't' => some '\t'
  | _ => none

/-- Reads the rest of an escape with the given reader for `\u`. -/
def readEscape (unit : Reader Char) : Reader Char := do
  match ← peek? with
  | some 'u' => advance; unit
  | some c =>
    match escape? c with
    | some d => advance; return d
    | none => fail .malformed
  | none => fail .malformed

/-- Reads a string after its opening quote, giving its bytes in reverse.  The fuel bounds the
number of bytes. -/
def readStringAux (unit : Reader Char) : Nat → List UInt8 → Reader (List UInt8)
  | 0, _ => fail .malformed
  | fuel + 1, acc => do
    match ← peek? with
    | none => fail .malformed
    | some '"' => advance; return acc
    | some '\\' =>
      advance
      let c ← readEscape unit
      readStringAux unit fuel ((String.utf8EncodeChar c).reverse ++ acc)
    | some c =>
      if c.toNat < 0x20 then fail .malformed
      else
        advance
        readStringAux unit fuel (c.toUInt8 :: acc)

/-- Reads a string with its quotes; its bytes must be those of a text. -/
def readString : Reader String := do
  expectChars ['"']
  let acc ← readStringAux readCodePoint ((← get).length + 1) []
  match String.fromUTF8? ⟨acc.reverse.toArray⟩ with
  | some s => return s
  | none => fail .malformed

/-- Passes over a string, whatever its bytes; surrogates need not come in pairs. -/
def skipString : Reader Unit := do
  expectChars ['"']
  let _ ← readStringAux ((fun _ => ' ') <$> readHex4) ((← get).length + 1) []

/-! ## Arrays and objects -/

/-- Reads items up to the closing bracket, each with the given reader.  `first` tells
whether no item has been read.  The fuel bounds the number of items. -/
def readItemsAux {α : Type} (item : Reader α) : Nat → Bool → Reader (List α)
  | 0, _ => fail .malformed
  | fuel + 1, first => do
    if (← peekToken) = ']' then
      advance
      return []
    if ¬ first then expectToken ','
    let c ← peekToken
    if c = ']' then fail .malformed
    let v ← item
    return v :: (← readItemsAux item fuel false)

/-- Reads an array after its opening bracket. -/
def readItems {α : Type} (item : Reader α) : Reader (List α) := do
  readItemsAux item ((← get).length + 1) true

/-- Reads a key with the given reader of keys, up to its colon. -/
def readName {α : Type} (key : Reader α) : Reader α := do
  if (← peekToken) ≠ '"' then fail .malformed
  key

/-- Passes over the colon between a key and its value. -/
def skipColon : Reader Unit := do
  expectToken ':'
  skipSpace

/-- Reads a key and its colon with the given reader of keys. -/
def readKey {α : Type} (key : Reader α) : Reader α := do
  let k ← readName key
  skipColon
  return k

/-- Goes on to the next member of an object: `true` if there is one, and `false` after
the closing brace. -/
def nextMember (first : Bool) : Reader Bool := do
  if (← peekToken) = '}' then
    advance
    return false
  if ¬ first then expectToken ','
  return true

/-- Reads the members of an object after its opening brace, up to the closing one, folding
them into a state.  The fuel bounds the number of members. -/
def foldMembersAux {σ : Type} (step : σ → Reader σ) : Nat → Bool → σ → Reader σ
  | 0, _, _ => fail .malformed
  | fuel + 1, first, acc => do
    if ← nextMember first then
      let acc ← step acc
      foldMembersAux step fuel false acc
    else return acc

/-- Reads the members of an object after its opening brace; `step` reads one member. -/
def foldMembers {σ : Type} (step : σ → Reader σ) (start : σ) : Reader σ := do
  foldMembersAux step ((← get).length + 1) true start

/-! ## Whole values -/

/-- The number of nested arrays and objects at which reading stops. -/
def depthLimit : Nat := 128

/-- The key that, as the first of an object, says that the object stands for the JSON text
that it gives. -/
def embeddedKey : String := "$serde_json::private::RawValue"

/-- Reads a value.  An object that stands for a JSON text is read with `embedded`, if that is
given.  The last argument is one more than the depth that the value may have. -/
def readValueWith (embedded : Option (String → Except DecodeError Json)) : Nat → Reader Json
  | 0 => fail .malformed
  | depth + 1 => do
    match ← peekToken with
    | 'n' => expectChars "null".toList; return .null
    | 't' => expectChars "true".toList; return .bool true
    | 'f' => expectChars "false".toList; return .bool false
    | '"' => return .string (← readString)
    | '[' =>
      if depth = 0 then fail .malformed
      advance
      return .array (← readItems (readValueWith embedded depth))
    | '{' =>
      if depth = 0 then fail .malformed
      advance
      if ← nextMember true then
        let k ← readKey readString
        match embedded, k == embeddedKey with
        | some read, true =>
          if (← peekToken) ≠ '"' then fail .unsuitable
          let s ← readString
          let v ← read s
          expectToken '}'
          return v
        | _, _ =>
          let v ← readValueWith embedded depth
          let members ← foldMembersAux (fun acc => do
            let k ← readKey readString
            let v ← readValueWith embedded depth
            return (k, v) :: acc) ((← get).length + 1) false [(k, v)]
          return .object members.reverse
      else return .object []
    | c =>
      if c = '-' ∨ Digits.isDecimal c then return .number (← readNumber)
      else fail .malformed

/-- Passes over a value of any depth by its form alone.  The argument bounds the depth. -/
def skipValue : Nat → Reader Unit
  | 0 => fail .malformed
  | depth + 1 => do
    match ← peekToken with
    | 'n' => expectChars "null".toList
    | 't' => expectChars "true".toList
    | 'f' => expectChars "false".toList
    | '"' => skipString
    | '[' =>
      advance
      let _ ← readItems (skipValue depth)
    | '{' =>
      advance
      foldMembers (fun _ => do
        readKey skipString
        skipValue depth) ()
    | c => if c = '-' ∨ Digits.isDecimal c then skipNumber else fail .malformed

/-- Passes over the next value. -/
def skipAny : Reader Unit := do
  skipValue ((← get).length + 1)

/-! ## The shapes of messages -/

/-- Refuses the next value for its type.  A scalar is read first, so that one that is
malformed is refused for that. -/
def refuse {α : Type} : Reader α := do
  match ← peekToken with
  | 'n' => expectChars "null".toList
  | 't' => expectChars "true".toList
  | 'f' => expectChars "false".toList
  | '"' => let _ ← readString
  | '[' => pure ()
  | '{' => pure ()
  | c => if c = '-' ∨ Digits.isDecimal c then let _ ← readNumber else fail .malformed
  fail .unsuitable

/-- Reads a text. -/
def text : Reader String := do
  if (← peekToken) = '"' then readString else refuse

/-- Reads a text that denotes something. -/
def parsed {α : Type} (parse? : String → Option α) : Reader α := do
  match parse? (← text) with
  | some a => return a
  | none => fail .unsuitable

/-- Reads a truth value. -/
def boolean : Reader Bool := do
  match ← peekToken with
  | 't' => expectChars "true".toList; return true
  | 'f' => expectChars "false".toList; return false
  | _ => refuse

/-- Reads a whole number of at most a given size. -/
def natural (most : Nat) : Reader Nat := do
  let c ← peekToken
  if c = '-' ∨ Digits.isDecimal c then
    match ← readNumber with
    | .natural n => if n ≤ most then return n else fail .unsuitable
    | _ => fail .unsuitable
  else refuse

/-- Reads a value that may be null. -/
def optional {α : Type} (value : Reader α) : Reader (Option α) := do
  skipSpace
  if (← peek?) = some 'n' then
    expectChars "null".toList
    return none
  else return some (← value)

/-- The variant with a name, among named variants. -/
def lookupVariant {α : Type} (variants : List (String × α)) (name : String) : Reader α :=
  match variants.find? fun v => v.1 = name with
  | some v => return v.2
  | none => fail (.unknownVariant name (variants.map (·.1)))

/-- Reads a variant, written as its name or as an object whose one key is the name and
whose value is null. -/
def variant {α : Type} (variants : List (String × α)) : Reader α := do
  match ← peekToken with
  | '"' => lookupVariant variants (← readString)
  | '{' =>
    advance
    let a ← lookupVariant variants (← text)
    expectToken ':'
    if (← peekToken) = 'n' then expectChars "null".toList else refuse
    expectToken '}'
    return a
  | _ => fail .malformed

/-- A field of a record under construction. -/
structure Field (σ : Type) where
  name : String
  /-- Reads the field's value and puts it into the record. -/
  read : σ → Reader σ
  /-- Whether the field may be absent at the end of an array. -/
  mayEndEarly : Bool

/-- Reads one member of a record: a known field once, and anything else passed over.  A field
that comes again is refused at its name. -/
def readMember {σ : Type} (fields : List (Field σ)) (acc : List String × σ) :
    Reader (List String × σ) := do
  let k ← readName readString
  match fields.find? fun f => f.name = k with
  | some f =>
    if f.name ∈ acc.1 then fail (.duplicateField f.name)
    skipColon
    return (f.name :: acc.1, ← f.read acc.2)
  | none =>
    skipColon
    skipAny
    return acc

/-- Reads the fields of a record written as an array, in order.  `first` tells whether no
item has been read. -/
def readPositional {σ : Type} : List (Field σ) → Bool → σ → Reader σ
  | [], _, acc => do
    expectToken ']'
    return acc
  | f :: rest, first, acc => do
    if (← peekToken) = ']' then
      if (f :: rest).all (·.mayEndEarly) then
        advance
        return acc
      else fail .unsuitable
    if ¬ first then expectToken ','
    let c ← peekToken
    if c = ']' then fail .malformed
    readPositional rest false (← f.read acc)

/-- Reads a record, written as an object or as an array of its fields, into a state that
starts with no field. -/
def record {σ : Type} (fields : List (Field σ)) (start : σ) : Reader σ := do
  match ← peekToken with
  | '[' => advance; readPositional fields true start
  | '{' => advance; return (← foldMembers (readMember fields) ([], start)).2
  | _ => refuse

/-- The value of a field that must be present. -/
def required {α : Type} (name : String) : Option α → Reader α
  | some a => return a
  | none => fail (.missingField name)

/-- Reads one value from the front of the input; what follows it is not looked at. -/
def readFront {α : Type} (reader : Reader α) (input : List UInt8) : Except DecodeError α :=
  (reader.run input).map (·.1)

/-- Reads an input that holds one value and space around it. -/
def readAll {α : Type} (reader : Reader α) (input : List UInt8) : Except DecodeError α :=
  readFront (do
    let a ← reader
    skipSpace
    if (← get).isEmpty then return a else fail .malformed) input

/-- Reads a text that holds one value and space around it. -/
def readWhole {α : Type} (reader : Reader α) (input : String) : Except DecodeError α :=
  readAll reader input.toUTF8.toList

end Reader

/-- Reads a JSON text.  The fuel bounds the number of texts inside each other. -/
def parseAux : Nat → String → Except DecodeError Json
  | 0, _ => .error .malformed
  | fuel + 1, input =>
    Reader.readWhole (Reader.readValueWith (some (parseAux fuel)) Reader.depthLimit) input

/-- Reads a JSON text. -/
def parse (input : String) : Except DecodeError Json := parseAux (input.length + 1) input

namespace Reader

/-- Reads a value, in which objects may stand for JSON texts.  The argument is one more than
the depth that it may have. -/
def readValue (depth : Nat) : Reader Json := do
  readValueWith (some (parseAux (← get).length)) depth

end Reader

end SupportDesk.Json
