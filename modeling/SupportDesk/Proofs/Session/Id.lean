/-
# Written identifiers are read back

The written form of an identifier is its hexadecimal digits in hyphenated groups.  Taking the
hyphens out again gives the digits, and the digits denote the identifier.
-/

import SupportDesk.Proofs.Text.Digits
import SupportDesk.Session.Id

namespace SupportDesk.SessionId

/-- Grouping uses every digit once, and a hyphen between two groups. -/
theorem length_hyphenate {ns : List Nat} {cs : List Char} (hns : ns ≠ [])
    (hlength : cs.length = ns.sum) :
    (hyphenate ns cs).length + 1 = ns.sum + ns.length := by
  induction ns generalizing cs with
  | nil => exact absurd rfl hns
  | cons n ns ih =>
      cases ns with
      | nil => simp_all [hyphenate]
      | cons m ns =>
          have hrest : (cs.drop n).length = (m :: ns).sum := by
            rw [List.length_drop, hlength, List.sum_cons, Nat.add_sub_cancel_left]
          have ih := ih (List.cons_ne_nil m ns) hrest
          have htake : (cs.take n).length = n := by
            rw [List.length_take, hlength, List.sum_cons]
            exact Nat.min_eq_left (Nat.le_add_right _ _)
          rw [hyphenate, List.length_append, List.length_cons, htake, List.sum_cons,
            List.length_cons]
          · omega
          · exact nofun

theorem dehyphenate_hyphenate {ns : List Nat} {cs : List Char} (hns : ns ≠ [])
    (hlength : cs.length = ns.sum) : dehyphenate ns (hyphenate ns cs) = some cs := by
  induction ns generalizing cs with
  | nil => exact absurd rfl hns
  | cons n ns ih =>
      cases ns with
      | nil =>
          have htake : cs.take n = cs := List.take_of_length_le (by simp [hlength])
          simp [hyphenate, dehyphenate, htake, hlength]
      | cons m ns =>
          have hrest : (cs.drop n).length = (m :: ns).sum := by
            rw [List.length_drop, hlength, List.sum_cons, Nat.add_sub_cancel_left]
          have htake : (cs.take n).length = n := by
            rw [List.length_take, hlength, List.sum_cons]
            exact Nat.min_eq_left (Nat.le_add_right _ _)
          have hgroup : hyphenate (n :: m :: ns) cs =
              cs.take n ++ '-' :: hyphenate (m :: ns) (cs.drop n) := rfl
          rw [hgroup, dehyphenate, List.drop_left' htake, List.take_left' htake]
          · simp only [ih (List.cons_ne_nil m ns) hrest, Option.map_some,
              List.take_append_drop]
          · exact nofun

theorem length_digits (id : SessionId) : id.digits.length = 32 := Digits.length_fixed 16 32 id.value

theorem ofDigits?_digits (id : SessionId) : ofDigits? id.digits = some id := by
  have hread : Digits.readHex? id.digits = some id.value := Digits.readHex?_fixed id.value_lt
  simp only [ofDigits?, length_digits, hread, id.value_lt, if_true, dite_true]

theorem length_chars (id : SessionId) : id.chars.length = 36 := by
  have hgroups : groups ≠ [] := List.cons_ne_nil _ _
  exact Nat.succ_injective (length_hyphenate hgroups (id.length_digits : _ = groups.sum))

/-- A written identifier is read back. -/
theorem parse?_text (id : SessionId) : parse? id.text = some id := by
  have hsum : id.digits.length = groups.sum := id.length_digits
  have hgroups : groups ≠ [] := List.cons_ne_nil _ _
  have hdigits : dehyphenate groups id.chars = some id.digits :=
    dehyphenate_hyphenate hgroups hsum
  rw [parse?, text, String.toList_ofList, ofChars?, id.length_chars]
  simp only [ofHyphenated?, hdigits, Option.bind_some, ofDigits?_digits]

theorem mem_hyphenate {ns : List Nat} {cs : List Char} {c : Char} (hc : c ∈ hyphenate ns cs) :
    c = '-' ∨ c ∈ cs := by
  induction ns generalizing cs with
  | nil => cases hc
  | cons n ns ih =>
      cases ns with
      | nil => exact .inr (List.mem_of_mem_take hc)
      | cons m ns =>
          have hgroup : hyphenate (n :: m :: ns) cs =
              cs.take n ++ '-' :: hyphenate (m :: ns) (cs.drop n) := rfl
          rw [hgroup, List.mem_append, List.mem_cons] at hc
          rcases hc with hc | rfl | hc
          · exact .inr (List.mem_of_mem_take hc)
          · exact .inl rfl
          · exact (ih hc).imp_right List.mem_of_mem_drop

/-- A written identifier is made of hyphens and hexadecimal digits. -/
theorem eq_hyphen_or_digit {id : SessionId} {c : Char} (hc : c ∈ id.chars) :
    c = '-' ∨ ∃ d < 16, c = Digits.ofValue d :=
  (mem_hyphenate hc).imp_right (Digits.exists_value_of_mem_fixed (by decide))

end SupportDesk.SessionId
