/-
# Reading MessagePack

A reader takes one value from the front of a byte sequence.  Arrays and maps may be nested
to a depth of 1023, and an extension value counts as one more level.  Bytes after the value are
left alone.
-/

import SupportDesk.MessagePack.Value
import SupportDesk.Wire.Tagged

namespace SupportDesk.Packed

/-- A reader of bytes; it fails on a byte sequence that holds no value. -/
abbrev Reader := StateT (List UInt8) Option

namespace Reader

/-- Takes one byte. -/
def byte : Reader UInt8 := do
  match ← get with
  | b :: rest => set rest; return b
  | [] => failure

/-- Takes a number of bytes. -/
def take (n : Nat) : Reader (List UInt8) := do
  let bs ← get
  let front := bs.take n
  if front.length = n then
    set (bs.drop n)
    return front
  else failure

/-- The number that bytes denote, most significant first. -/
def bigEndian (bs : List UInt8) : Nat := bs.foldl (fun n b => n * 256 + b.toNat) 0

/-- Takes an unsigned number of a number of bytes. -/
def unsigned (width : Nat) : Reader Nat := bigEndian <$> take width

/-- Takes a number of a number of bytes in two's complement. -/
def signed (width : Nat) : Reader Int := do
  let n ← unsigned width
  return if n < Nat.pow 2 (8 * width - 1) then (n : Int) else (n : Int) - Nat.pow 2 (8 * width)

/-- Takes a text of a number of bytes; one that is not UTF-8 is kept as bytes. -/
def text (n : Nat) : Reader Packed := do
  let bs ← take n
  match String.fromUTF8? ⟨bs.toArray⟩ with
  | some s => return .text s
  | none => return .bytes bs

/-- Takes binary data of a number of bytes. -/
def binary (n : Nat) : Reader Packed := do return .bytes (← take n)

/-- Takes an extension value with a number of bytes of data. -/
def extension (n : Nat) : Reader Packed := do
  let kind ← byte
  return .ext kind.toNat (← take n)

/-- Takes a number of items with the given reader. -/
def many {α : Type} (item : Reader α) : Nat → Reader (List α)
  | 0 => return []
  | n + 1 => do
    let a ← item
    return a :: (← many item n)

/-- The depth of containers at which reading stops. -/
def depthLimit : Nat := 1024

/-- The kinds of container. -/
inductive Container
  | array
  | map
  | extension
deriving DecidableEq

/-- What the first byte of a value announces. -/
inductive Lead
  | value (read : Reader Packed)
  | container (kind : Container) (size : Reader Nat)

/-- What a first byte announces. -/
def lead (b : Nat) : Lead :=
  if b < 0x80 then .value (return .unsigned .fixed b)
  else if b < 0x90 then .container .map (return b - 0x80)
  else if b < 0xa0 then .container .array (return b - 0x90)
  else if b < 0xc0 then .value (text (b - 0xa0))
  else if 0xe0 ≤ b then .value (return .signed ((b : Int) - 256))
  else match b with
    | 0xc0 => .value (return .nil)
    | 0xc2 => .value (return .bool false)
    | 0xc3 => .value (return .bool true)
    | 0xc4 => .value (unsigned 1 >>= binary)
    | 0xc5 => .value (unsigned 2 >>= binary)
    | 0xc6 => .value (unsigned 4 >>= binary)
    | 0xc7 => .container .extension (unsigned 1)
    | 0xc8 => .container .extension (unsigned 2)
    | 0xc9 => .container .extension (unsigned 4)
    | 0xca => .value (.single <$> unsigned 4)
    | 0xcb => .value (.double <$> unsigned 8)
    | 0xcc => .value (.unsigned .one <$> unsigned 1)
    | 0xcd => .value (.unsigned .two <$> unsigned 2)
    | 0xce => .value (.unsigned .four <$> unsigned 4)
    | 0xcf => .value (.unsigned .eight <$> unsigned 8)
    | 0xd0 => .value (.signed <$> signed 1)
    | 0xd1 => .value (.signed <$> signed 2)
    | 0xd2 => .value (.signed <$> signed 4)
    | 0xd3 => .value (.signed <$> signed 8)
    | 0xd4 => .container .extension (return 1)
    | 0xd5 => .container .extension (return 2)
    | 0xd6 => .container .extension (return 4)
    | 0xd7 => .container .extension (return 8)
    | 0xd8 => .container .extension (return 16)
    | 0xd9 => .value (unsigned 1 >>= text)
    | 0xda => .value (unsigned 2 >>= text)
    | 0xdb => .value (unsigned 4 >>= text)
    | 0xdc => .container .array (unsigned 2)
    | 0xdd => .container .array (unsigned 4)
    | 0xde => .container .map (unsigned 2)
    | 0xdf => .container .map (unsigned 4)
    | _ => .value failure

/-- Takes a value.  The argument is one more than the depth that it may have. -/
def value : Nat → Reader Packed
  | 0 => failure
  | depth + 1 => do
    match lead (← byte).toNat with
    | .value read => read
    | .container kind size =>
      if depth = 0 then failure
      let n ← size
      match kind with
      | .array => return .array (← many (value depth) n)
      | .map => return .map (← many (do return (← value depth, ← value depth)) n)
      | .extension => extension n

end Reader

/-- Reads the value at the front of a byte sequence. -/
def parse? (bs : List UInt8) : Option Packed :=
  ((Reader.value Reader.depthLimit).run bs).map (·.1)

/-- What matters of a value beside the action of a request.  A number stands for a name in
its shortest or its longest form only. -/
def atom : Packed → Atom
  | text s => .text s
  | bytes b => .bytes b
  | unsigned .fixed n => .index n
  | unsigned .one n => .index n
  | unsigned .eight n => .index n
  | _ => .other

/-- Whether a key names the action. -/
def isActionKey (key : Packed) : Bool :=
  match key with
  | text s => s = "action"
  | bytes b => b = "action".toUTF8.toList
  | _ => false

/-- The kind of request that a value names: by its name, by the bytes of the name, or by
its position among the kinds. -/
def kind? : Packed → Option Request.Kind
  | text s => (Request.kinds.find? fun k => k.1 = s).map (·.2)
  | bytes b => (Request.kinds.find? fun k => k.1.toUTF8.toList = b).map (·.2)
  | unsigned _ n => Request.kinds[n]?.map (·.2)
  | _ => none

/-- The action and the other members of a map. -/
def taggedEntries (kind : Option Request.Kind) :
    List (Packed × Packed) → Option (Request.Kind × List (Atom × Atom))
  | [] => kind.map fun k => (k, [])
  | (key, v) :: rest =>
    if key.isActionKey then
      if kind.isSome then none
      else v.kind?.bind fun k => taggedEntries (some k) rest
    else (taggedEntries kind rest).map fun (k, fields) => (k, (key.atom, v.atom) :: fields)

/-- The request that a value holds. -/
def request? : Packed → Option Request
  | map entries => do
    let (kind, fields) ← taggedEntries none entries
    (Request.ofPayload kind (.members fields)).toOption
  | array (first :: rest) => do
    let kind ← first.kind?
    (Request.ofPayload kind (.items (rest.map atom))).toOption
  | _ => none

end SupportDesk.Packed

namespace SupportDesk

/-- Reads a request from the front of a byte sequence. -/
def Request.ofBytes? (bs : List UInt8) : Option Request := (Packed.parse? bs).bind Packed.request?

end SupportDesk
