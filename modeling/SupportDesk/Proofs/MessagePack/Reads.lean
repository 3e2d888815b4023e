/-
# Packed values are read back

A number is read back from as many bytes as can hold it, and a text and binary data from the bytes
that follow their length.  A text is written as the bytes of its encoding, which are those of a
text again, so a text is never taken for binary data.
-/

import Mathlib.Tactic.SplitIfs
import SupportDesk.MessagePack.Reader
import SupportDesk.MessagePack.Writer
import SupportDesk.Proofs.Text.Bytes
import SupportDesk.Proofs.Wire.Reads

namespace SupportDesk.Packed

namespace Reader

variable {rest mid bs : List UInt8} {n depth : Nat} {b : UInt8}

/-! ## Numbers of a fixed width -/

theorem length_bigEndian (width n : Nat) : (MessagePack.bigEndian width n).length = width := by
  induction width generalizing n with
  | zero => rfl
  | succ width ih => rw [MessagePack.bigEndian, List.length_append, ih, List.length_singleton]

/-- The bytes of a number denote it. -/
theorem bigEndian_bigEndian {width : Nat} (h : n < 256 ^ width) :
    bigEndian (MessagePack.bigEndian width n) = n := by
  induction width generalizing n with
  | zero =>
      rw [Nat.pow_zero, Nat.lt_one_iff] at h
      rw [h]
      rfl
  | succ width ih =>
      have hhigh : n / 256 < 256 ^ width := Nat.div_lt_of_lt_mul (by rwa [← Nat.pow_succ'])
      have hlow : (n % 256).toUInt8.toNat = n % 256 :=
        Nat.mod_eq_of_lt (Nat.mod_lt n (by decide))
      have ih := ih hhigh
      rw [bigEndian] at ih
      rw [MessagePack.bigEndian, bigEndian, List.foldl_append, ih, List.foldl_cons, List.foldl_nil,
        hlow, Nat.div_add_mod']

theorem reads_byte : Reads byte (b :: rest) b rest := rfl

theorem reads_take (bs rest : List UInt8) : Reads (take bs.length) (bs ++ rest) bs rest := by
  refine reads_get.bind ?_
  simp only [List.take_left', List.drop_left', if_true]
  rfl

theorem reads_unsigned {width : Nat} (h : n < 256 ^ width) :
    Reads (unsigned width) (MessagePack.bigEndian width n ++ rest) n rest := by
  have htake := reads_take (MessagePack.bigEndian width n) rest
  rw [length_bigEndian] at htake
  have hnumber := htake.map (f := bigEndian)
  rwa [bigEndian_bigEndian h] at hnumber

/-! ## Texts and binary data -/

theorem reads_text (s : String) (rest : List UInt8) :
    Reads (text s.toUTF8.toList.length) (s.toUTF8.toList ++ rest) (.text s) rest := by
  refine (reads_take _ rest).bind ?_
  rw [Bytes.fromUTF8?_toList]
  exact reads_pure

theorem reads_binary (bs rest : List UInt8) :
    Reads (binary bs.length) (bs ++ rest) (.bytes bs) rest :=
  (reads_take bs rest).bind reads_pure

/-! ## Whole values -/

variable {v : Packed}

/-- A value is read back if its first byte announces it and what follows the first byte is read
back. -/
theorem reads_value {read : Reader Packed} (hlead : lead b.toNat = .value read)
    (h : Reads read bs v rest) : Reads (value (depth + 1)) (b :: bs) v rest := by
  refine reads_byte.bind ?_
  rw [hlead]
  exact h

/-- The same for a value whose length follows the first byte in a number of bytes. -/
theorem reads_value_of_length {width : Nat} {read : Nat → Reader Packed}
    (hlead : lead b.toNat = .value (unsigned width >>= read)) (hn : n < 256 ^ width)
    (h : Reads (read n) bs v rest) :
    Reads (value (depth + 1)) (b :: (MessagePack.bigEndian width n ++ bs)) v rest :=
  reads_value hlead ((reads_unsigned hn).bind h)

/-- A short text follows its first byte, which tells the length. -/
theorem lead_shortText (h : n < 0x20) : lead (0xa0 + n).toUInt8.toNat = .value (text n) := by
  have htoNat : (0xa0 + n).toUInt8.toNat = 0xa0 + n := Nat.mod_eq_of_lt (by omega)
  unfold lead
  rw [htoNat, if_neg (by omega), if_neg (by omega), if_neg (by omega), if_pos (by omega),
    Nat.add_sub_cancel_left]

/-- A text is read back. -/
theorem reads_value_text (s : String) (hlength : s.utf8ByteSize < 256 ^ 4) (rest : List UInt8) :
    Reads (value (depth + 1)) (MessagePack.text s ++ rest) (.text s) rest := by
  have htext := reads_text s rest
  rw [← Bytes.length_toList] at hlength
  simp only [MessagePack.text, List.append_assoc]
  split_ifs with hfixed hone htwo
  · exact reads_value (lead_shortText hfixed) htext
  · exact reads_value_of_length rfl hone htext
  · exact reads_value_of_length rfl htwo htext
  · exact reads_value_of_length rfl hlength htext

/-- Binary data is read back. -/
theorem reads_value_binary (bs : List UInt8) (hlength : bs.length < 256 ^ 4) (rest : List UInt8) :
    Reads (value (depth + 1)) (MessagePack.binary bs ++ rest) (.bytes bs) rest := by
  have hbinary := reads_binary bs rest
  simp only [MessagePack.binary, List.append_assoc]
  split_ifs with hone htwo
  · exact reads_value_of_length rfl hone hbinary
  · exact reads_value_of_length rfl htwo hbinary
  · exact reads_value_of_length rfl hlength hbinary

end Reader

/-- A text that stands alone is read as the text. -/
theorem parse?_text (s : String) (hlength : s.utf8ByteSize < 256 ^ 4) :
    parse? (MessagePack.text s) = some (.text s) := by
  have hreads : Reads (Reader.value (1023 + 1)) (MessagePack.text s ++ []) (.text s) [] :=
    Reader.reads_value_text s hlength []
  rw [List.append_nil] at hreads
  exact congrArg (Option.map Prod.fst) hreads

end SupportDesk.Packed
