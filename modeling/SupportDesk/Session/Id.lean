/-
# Session identifiers

An identifier is a number of 128 bits.  It is written as 32 lower-case hexadecimal digits
in groups of 8, 4, 4, 4 and 12.  Reading also takes the digits without hyphens, the
hyphenated form in braces, and the hyphenated form after the name `urn:uuid:`; letters may
have either case.  Nothing else is an identifier.
-/

import SupportDesk.Text.Digits

namespace SupportDesk

/-- A session identifier. -/
structure SessionId where
  value : Nat
  value_lt : value < 0x100000000000000000000000000000000
deriving DecidableEq, Repr

namespace SessionId

/-- The identifier whose bits are all zero; no session is given it. -/
def nil : SessionId := ⟨0, by decide⟩

instance : Inhabited SessionId := ⟨nil⟩

/-- The identifier with the lowest 128 bits of a number. -/
def ofNat (n : Nat) : SessionId := ⟨n % 0x100000000000000000000000000000000, Nat.mod_lt _ (by decide)⟩

/-- The 32 hexadecimal digits. -/
def digits (id : SessionId) : List Char := Digits.fixed 16 32 id.value

/-- The lengths of the digit groups in the hyphenated form. -/
def groups : List Nat := [8, 4, 4, 4, 12]

/-- Joins digits into groups with hyphens between them. -/
def hyphenate : List Nat → List Char → List Char
  | [], _ => []
  | [n], cs => cs.take n
  | n :: ns, cs => cs.take n ++ '-' :: hyphenate ns (cs.drop n)

/-- The characters of the written form. -/
def chars (id : SessionId) : List Char := hyphenate groups id.digits

/-- The written form, in hyphenated groups. -/
def text (id : SessionId) : String := String.ofList id.chars

instance : ToString SessionId := ⟨text⟩

/-- The identifier denoted by exactly 32 hexadecimal digits. -/
def ofDigits? (cs : List Char) : Option SessionId :=
  if cs.length = 32 then
    match Digits.readHex? cs with
    | some n => if h : n < 0x100000000000000000000000000000000 then some ⟨n, h⟩ else none
    | none => none
  else none

/-- Takes the hyphens out of grouped digits; refuses any other grouping. -/
def dehyphenate : List Nat → List Char → Option (List Char)
  | [], _ => none
  | [n], cs => if cs.length = n then some cs else none
  | n :: ns, cs =>
    match cs.drop n with
    | '-' :: rest => (dehyphenate ns rest).map (cs.take n ++ ·)
    | _ => none

/-- The identifier denoted by the hyphenated form. -/
def ofHyphenated? (cs : List Char) : Option SessionId :=
  (dehyphenate groups cs).bind ofDigits?

/-- The characters before the hyphenated form in its name form, in lower case. -/
def urnLead : List Char := "urn:uuid:".toList

/-- Reads any of the four written forms. -/
def ofChars? (cs : List Char) : Option SessionId :=
  match cs.length with
  | 32 => ofDigits? cs
  | 36 => ofHyphenated? cs
  | 38 =>
    if cs.head? = some '{' ∧ cs.getLast? = some '}' then ofHyphenated? ((cs.drop 1).take 36)
    else none
  | 45 =>
    if (cs.take 9).map Char.toLower = urnLead then ofHyphenated? (cs.drop 9) else none
  | _ => none

/-- Reads any of the four written forms. -/
def parse? (text : String) : Option SessionId := ofChars? text.toList

/-- The identifier made of 16 bytes, most significant first. -/
def ofBytes? (bytes : List UInt8) : Option SessionId :=
  if bytes.length = 16 then some (ofNat (bytes.foldl (fun n b => n * 256 + b.toNat) 0)) else none

end SessionId

end SupportDesk
