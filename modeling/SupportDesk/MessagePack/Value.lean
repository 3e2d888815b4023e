/-
# MessagePack values

A value as it is read from its bytes.  The width of an unsigned number is kept, because a
number that stands for a name is taken at some widths only, and so is the difference
between signed and unsigned forms.
-/

namespace SupportDesk

/-- The widths in which an unsigned number is written. -/
inductive PackedWidth
  | fixed
  | one
  | two
  | four
  | eight
deriving DecidableEq, Repr

/-- A MessagePack value. -/
inductive Packed
  | nil
  | bool (b : Bool)
  | unsigned (width : PackedWidth) (n : Nat)
  | signed (n : Int)
  | single (bits : Nat)
  | double (bits : Nat)
  | text (s : String)
  /-- Binary data, or a text that is not UTF-8. -/
  | bytes (b : List UInt8)
  | array (items : List Packed)
  | map (entries : List (Packed × Packed))
  | ext (kind : Nat) (data : List UInt8)
deriving Repr, Inhabited

end SupportDesk
