/-
# Writing MessagePack

Every value is written in its shortest form: a whole number that is not negative in an
unsigned form, a text, an array or a map with the smallest length that fits.
-/

import SupportDesk.Wire.Message

namespace SupportDesk.MessagePack

/-- A number in a fixed number of bytes, most significant first. -/
def bigEndian : Nat → Nat → List UInt8
  | 0, _ => []
  | width + 1, n => bigEndian width (n / 256) ++ [(n % 256).toUInt8]

/-- A whole number that is not negative. -/
def natural (n : Nat) : List UInt8 :=
  if n < 0x80 then [n.toUInt8]
  else if n < 0x100 then 0xcc :: bigEndian 1 n
  else if n < 0x10000 then 0xcd :: bigEndian 2 n
  else if n < 0x100000000 then 0xce :: bigEndian 4 n
  else 0xcf :: bigEndian 8 n

/-- The negative whole number −n. -/
def negative (n : Nat) : List UInt8 :=
  if n ≤ 0x20 then [(0x100 - n).toUInt8]
  else if n ≤ 0x80 then 0xd0 :: bigEndian 1 (0x100 - n)
  else if n ≤ 0x8000 then 0xd1 :: bigEndian 2 (0x10000 - n)
  else if n ≤ 0x80000000 then 0xd2 :: bigEndian 4 (0x100000000 - n)
  else 0xd3 :: bigEndian 8 (0x10000000000000000 - n)

/-- A text. -/
def text (s : String) : List UInt8 :=
  let bs := s.toUTF8.toList
  let n := bs.length
  (if n < 0x20 then [(0xa0 + n).toUInt8]
    else if n < 0x100 then 0xd9 :: bigEndian 1 n
    else if n < 0x10000 then 0xda :: bigEndian 2 n
    else 0xdb :: bigEndian 4 n) ++ bs

/-- Binary data. -/
def binary (bs : List UInt8) : List UInt8 :=
  let n := bs.length
  (if n < 0x100 then 0xc4 :: bigEndian 1 n
    else if n < 0x10000 then 0xc5 :: bigEndian 2 n
    else 0xc6 :: bigEndian 4 n) ++ bs

/-- The start of an array with a number of items. -/
def arrayStart (n : Nat) : List UInt8 :=
  if n < 0x10 then [(0x90 + n).toUInt8]
  else if n < 0x10000 then 0xdc :: bigEndian 2 n
  else 0xdd :: bigEndian 4 n

/-- The start of a map with a number of entries. -/
def mapStart (n : Nat) : List UInt8 :=
  if n < 0x10 then [(0x80 + n).toUInt8]
  else if n < 0x10000 then 0xde :: bigEndian 2 n
  else 0xdf :: bigEndian 4 n

/-- A number. -/
def number : JsonNumber → List UInt8
  | .natural n => natural n
  | .negative n => negative n
  | .real x => 0xcb :: bigEndian 8 x.bits.toNat

mutual

/-- A JSON value. -/
def json : Json → List UInt8
  | .null => [0xc0]
  | .bool b => [if b then 0xc3 else 0xc2]
  | .number n => number n
  | .string s => text s
  | .array items => arrayStart items.length ++ jsonItems items
  | .object members => mapStart members.length ++ jsonMembers members

/-- The items of an array, one after the other. -/
def jsonItems : List Json → List UInt8
  | [] => []
  | v :: rest => json v ++ jsonItems rest

/-- The members of an object, one after the other. -/
def jsonMembers : List (String × Json) → List UInt8
  | [] => []
  | (k, v) :: rest => text k ++ json v ++ jsonMembers rest

end

/-- The 16 bytes of an identifier. -/
def sessionId (id : SessionId) : List UInt8 := binary (bigEndian 16 id.value)

/-- A request, as a map from names. -/
def request (r : Request) : List UInt8 :=
  match r.sessionId? with
  | some id =>
    mapStart 2 ++ text "action" ++ text r.kind.name ++ text "session_id" ++ sessionId id
  | none => mapStart 1 ++ text "action" ++ text r.kind.name

/-- The envelope of a reply, as a map from names. -/
def reply (r : Reply) : List UInt8 := json r.json

end SupportDesk.MessagePack
