/-
# Numerals are read back

What a fixed or a shortest numeral is written with are digits, and the number that the digits
denote is the one that was written, as long as the width suffices.  The readers that take a
numeral off the front of a text stop at its end if no digit follows or if they may take no more.
-/

import Mathlib.Data.Nat.Digits.Defs
import SupportDesk.Calendar.TimeOfDay
import SupportDesk.Text.Digits

namespace SupportDesk

namespace Digits

theorem decimalValue?_ofValue {d : Nat} (hd : d < 10) : decimalValue? (ofValue d) = some d := by
  revert d
  decide

theorem hexValue?_ofValue {d : Nat} (hd : d < 16) : hexValue? (ofValue d) = some d := by
  revert d
  decide

theorem digitChar_eq_ofValue {d : Nat} (hd : d < 10) : d.digitChar = ofValue d := by
  revert d
  decide

theorem isDecimal_ofValue {d : Nat} (hd : d < 10) : isDecimal (ofValue d) = true := by
  rw [isDecimal, decimalValue?_ofValue hd]
  rfl

/-- Digits are none of the characters that stand between numerals. -/
theorem isDecimal_iff {c : Char} : isDecimal c = true ↔ 48 ≤ c.toNat ∧ c.toNat ≤ 57 := by
  unfold isDecimal decimalValue?
  have hle : '0' ≤ c ∧ c ≤ '9' ↔ 48 ≤ c.toNat ∧ c.toNat ≤ 57 := Iff.rfl
  split <;> simp_all

/-! ## Fixed width -/

/-- A fixed numeral that is read digit by digit denotes its number. -/
theorem foldlM_fixed {base : Nat} {value? : Char → Option Nat}
    (hvalue : ∀ d < base, value? (ofValue d) = some d) (hbase : 0 < base) (width n : Nat)
    (hn : n < base ^ width) :
    (fixed base width n).foldlM (fun n c => (value? c).map (n * base + ·)) 0 = some n := by
  induction width generalizing n with
  | zero =>
      obtain rfl : n = 0 := by simpa using hn
      rfl
  | succ width ih =>
      have hhead : n / base < base ^ width := by
        rw [Nat.div_lt_iff_lt_mul hbase]
        rwa [pow_succ] at hn
      rw [fixed, List.foldlM_append, ih _ hhead]
      simp [hvalue _ (Nat.mod_lt n hbase), Nat.div_add_mod']

theorem readDecimal?_fixed {width n : Nat} (hn : n < 10 ^ width) :
    readDecimal? (fixed 10 width n) = some n :=
  foldlM_fixed (fun _ => decimalValue?_ofValue) (by decide) width n hn

theorem readHex?_fixed {width n : Nat} (hn : n < 16 ^ width) :
    readHex? (fixed 16 width n) = some n :=
  foldlM_fixed (fun _ => hexValue?_ofValue) (by decide) width n hn

/-- A fixed numeral is made of the digits of its base. -/
theorem exists_value_of_mem_fixed {base width n : Nat} {c : Char} (hbase : 0 < base)
    (hc : c ∈ fixed base width n) : ∃ d < base, c = ofValue d := by
  induction width generalizing n with
  | zero => cases hc
  | succ width ih =>
      rw [fixed, List.mem_append, List.mem_singleton] at hc
      rcases hc with hc | rfl
      · exact ih hc
      · exact ⟨n % base, Nat.mod_lt n hbase, rfl⟩

theorem isDecimal_of_mem_fixed {width n : Nat} {c : Char} (hc : c ∈ fixed 10 width n) :
    isDecimal c = true := by
  obtain ⟨d, hd, rfl⟩ := exists_value_of_mem_fixed (by decide) hc
  exact isDecimal_ofValue hd

/-! ## Shortest numerals -/

/-- A shortest numeral is one digit, or that of the other digits with one more. -/
theorem decimal_cases (n : Nat) :
    n < 10 ∧ decimal n = [ofValue n] ∨
      0 < n / 10 ∧ decimal n = decimal (n / 10) ++ [ofValue (n % 10)] := by
  by_cases hn : n < 10
  · exact .inl ⟨hn, by rw [decimal, Nat.toDigits_of_lt_base hn, digitChar_eq_ofValue hn]⟩
  · refine .inr ⟨by omega, ?_⟩
    rw [decimal, decimal, Nat.toDigits_of_base_le (by decide) (not_lt.mp hn),
      digitChar_eq_ofValue (Nat.mod_lt n (by decide))]

theorem decimal_ne_nil (n : Nat) : decimal n ≠ [] := Nat.toDigits_ne_nil

theorem isDecimal_of_mem_decimal {n : Nat} {c : Char} (hc : c ∈ decimal n) :
    isDecimal c = true := by
  induction n using Nat.strongRecOn with
  | _ n ih =>
      rcases decimal_cases n with ⟨hn, heq⟩ | ⟨hn, heq⟩ <;> rw [heq] at hc
      · rw [List.mem_singleton.mp hc]
        exact isDecimal_ofValue hn
      · rcases List.mem_append.mp hc with hc | hc
        · exact ih (n / 10) (by omega) hc
        · rw [List.mem_singleton.mp hc]
          exact isDecimal_ofValue (Nat.mod_lt n (by decide))

theorem readDecimal?_decimal (n : Nat) : readDecimal? (decimal n) = some n := by
  induction n using Nat.strongRecOn with
  | _ n ih =>
      rcases decimal_cases n with ⟨hn, heq⟩ | ⟨hn, heq⟩ <;> rw [heq]
      · simp [readDecimal?, decimalValue?_ofValue hn]
      · have hhead := ih (n / 10) (by omega)
        have hlast := decimalValue?_ofValue (Nat.mod_lt n (show 0 < 10 by decide))
        rw [readDecimal?] at hhead ⊢
        rw [List.foldlM_append, hhead]
        simp [hlast, Nat.div_add_mod']

/-- Only zero is written with a zero in front. -/
theorem decimal_eq_zero_cons {n : Nat} {rest : List Char} (h : decimal n = '0' :: rest) :
    rest = [] := by
  induction n using Nat.strongRecOn generalizing rest with
  | _ n ih =>
      rcases decimal_cases n with ⟨hn, heq⟩ | ⟨hn, heq⟩ <;> rw [heq] at h
      · exact (List.cons.inj h).2.symm
      · cases hdigits : decimal (n / 10) with
        | nil => exact absurd hdigits (decimal_ne_nil _)
        | cons c more =>
            rw [hdigits] at h
            obtain ⟨rfl, -⟩ := List.cons.inj h
            obtain rfl := ih (n / 10) (by omega) hdigits
            -- The other digits are a single zero, and then there are none.
            have hzero := readDecimal?_decimal (n / 10)
            rw [hdigits] at hzero
            have : n / 10 = 0 := (Option.some.inj hzero).symm
            omega

/-! ## Numerals with a least width -/

theorem readDecimal?_padded (width n : Nat) : readDecimal? (padded width n) = some n := by
  have hzeros : ∀ k, (List.replicate k '0').foldlM
      (fun n c => (decimalValue? c).map (n * 10 + ·)) 0 = some 0 := by
    intro k
    induction k with
    | zero => rfl
    | succ k ih =>
        rw [List.replicate_succ, List.foldlM_cons]
        exact ih
  rw [padded, readDecimal?, List.foldlM_append, hzeros]
  exact readDecimal?_decimal n

theorem isDecimal_of_mem_padded {width n : Nat} {c : Char} (hc : c ∈ padded width n) :
    isDecimal c = true := by
  rcases List.mem_append.mp hc with hc | hc
  · rw [List.eq_of_mem_replicate hc]
    rfl
  · exact isDecimal_of_mem_decimal hc

theorem padded_ne_nil (width n : Nat) : padded width n ≠ [] := by
  rw [padded, Ne, List.append_eq_nil_iff]
  exact fun h => decimal_ne_nil n h.2

theorem length_padded {width n : Nat} (hwidth : 0 < width) (hn : n < 10 ^ width) :
    (padded width n).length = width := by
  have hshort : (decimal n).length ≤ width :=
    (Nat.length_toDigits_le_iff (by decide) hwidth).mpr hn
  rw [padded, List.length_append, List.length_replicate]
  omega

/-- A numeral that is taken off the front of a text ends where no digit follows. -/
theorem takeWhile_isDecimal {digits rest : List Char} (hdigits : ∀ c ∈ digits, isDecimal c = true)
    (hrest : ∀ c ∈ rest.head?, isDecimal c = false) :
    (digits ++ rest).takeWhile isDecimal = digits ∧
      (digits ++ rest).dropWhile isDecimal = rest := by
  have hend : rest.takeWhile isDecimal = [] ∧ rest.dropWhile isDecimal = rest := by
    cases rest with
    | nil => exact ⟨rfl, rfl⟩
    | cons c more => simp [hrest c rfl]
  rw [List.takeWhile_append_of_pos hdigits, List.dropWhile_append_of_pos hdigits, hend.1, hend.2,
    List.append_nil]
  exact ⟨rfl, rfl⟩

end Digits

namespace Blank

theorem isBlank_of_isDecimal {c : Char} (hc : Digits.isDecimal c = true) : isBlank c = false := by
  obtain ⟨hlow, hhigh⟩ := Digits.isDecimal_iff.mp hc
  simp only [isBlank, ranges, List.any_cons, List.any_nil, Bool.or_false, Bool.or_eq_false_iff,
    Bool.and_eq_false_iff, decide_eq_false_iff_not]
  omega

end Blank

namespace TimeOfDay

open Digits

/-- A number is taken off the front of a text with its digits, if no digit follows or no more may
be taken. -/
theorem readNumber?_append {most n : Nat} {digits rest : List Char} (hne : digits ≠ [])
    (hdigits : ∀ c ∈ digits, isDecimal c = true) (hlength : digits.length ≤ most)
    (hrest : digits.length = most ∨ ∀ c ∈ rest.head?, isDecimal c = false)
    (hread : readDecimal? digits = some n) :
    readNumber? most (digits ++ rest) = some (n, rest) := by
  have htrim : Blank.trimLeft (digits ++ rest) = digits ++ rest := by
    cases digits with
    | nil => exact absurd rfl hne
    | cons c more =>
        have hblank := Blank.isBlank_of_isDecimal (hdigits c List.mem_cons_self)
        simp [Blank.trimLeft, hblank]
  have htaken : ((digits ++ rest).take most).takeWhile isDecimal = digits := by
    rw [List.take_append, List.take_of_length_le hlength]
    refine (takeWhile_isDecimal hdigits ?_).1
    rcases hrest with heq | hnone
    · simp [heq]
    · intro c hc
      refine hnone c ?_
      cases rest with
      | nil => simp at hc
      | cons d more =>
          cases hmore : most - digits.length with
          | zero => simp [hmore] at hc
          | succ k => simpa [hmore] using hc
  have hsome : digits.isEmpty = false := List.isEmpty_eq_false_iff.mpr hne
  simp only [readNumber?, htrim, htaken, hsome, hread]
  simp

/-- A number of a fixed width is read back, whatever follows it. -/
theorem readNumber?_padded {width n : Nat} (hwidth : 0 < width) (hn : n < 10 ^ width)
    (rest : List Char) : readNumber? width (padded width n ++ rest) = some (n, rest) := by
  have hlength := length_padded hwidth hn
  exact readNumber?_append (padded_ne_nil width n) (fun _ => isDecimal_of_mem_padded)
    hlength.le (.inl hlength) (readDecimal?_padded width n)

end TimeOfDay

end SupportDesk
