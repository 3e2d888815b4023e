/-
# Whole values are read back

A value that is written is read back if it is not nested too deeply, its numbers are whole, and
none of its objects begins with the key that makes an object stand for a text.  The proof follows
the value from its outermost array or object inwards, as the reader does.  What is inside is
written with a comma or a bracket after it, so that the numbers inside end where they should.
-/

import Mathlib.Data.List.Forall2
import SupportDesk.Proofs.Json.Reads

namespace SupportDesk.Json

/-- A value that is neither an array nor an object. -/
def IsScalar : Json → Prop
  | null | bool _ | number _ | string _ => True
  | array _ | object _ => False

/-- A property holds of a value and of everything inside it. -/
inductive Everywhere (P : Json → Prop) : Json → Prop
  | scalar {v : Json} (hscalar : v.IsScalar) (h : P v) : Everywhere P v
  | array {items : List Json} (h : P (array items)) (hitems : ∀ v ∈ items, Everywhere P v) :
      Everywhere P (array items)
  | object {members : List (String × Json)} (h : P (object members))
      (hmembers : ∀ m ∈ members, Everywhere P m.2) : Everywhere P (object members)

mutual

/-- The number of arrays and objects inside each other. -/
def height : Json → Nat
  | array items => itemHeight items + 1
  | object members => memberHeight members + 1
  | null | bool _ | number _ | string _ => 0

/-- The greatest height of an item. -/
def itemHeight : List Json → Nat
  | [] => 0
  | v :: rest => max v.height (itemHeight rest)

/-- The greatest height of a member's value. -/
def memberHeight : List (String × Json) → Nat
  | [] => 0
  | (_, v) :: rest => max v.height (memberHeight rest)

end

/-- A value whose own text can be read back: a number must be whole, and an object must not begin
with the key that makes it stand for a text. -/
def IsReadable : Json → Prop
  | number n => n.IsWhole
  | object ((key, _) :: _) => key ≠ Reader.embeddedKey
  | _ => True

variable {P Q : Json → Prop} {depth : Nat} {v : Json} {items : List Json}
  {members : List (String × Json)}

theorem Everywhere.holds (h : Everywhere P v) : P v := by
  cases h with
  | scalar _ h | array h _ | object h _ => exact h

theorem Everywhere.mono (h : Everywhere P v) (himp : ∀ v, P v → Q v) : Everywhere Q v := by
  induction h with
  | scalar hscalar h => exact .scalar hscalar (himp _ h)
  | array h _ ih => exact .array (himp _ h) ih
  | object h _ ih => exact .object (himp _ h) ih

theorem Everywhere.and (hP : Everywhere P v) (hQ : Everywhere Q v) :
    Everywhere (fun w => P w ∧ Q w) v := by
  induction hP with
  | scalar hscalar h => exact .scalar hscalar ⟨h, hQ.holds⟩
  | array h _ ih =>
      cases hQ with
      | scalar hscalar _ => exact hscalar.elim
      | array h' hitems => exact .array ⟨h, h'⟩ fun v hv => ih v hv (hitems v hv)
  | object h _ ih =>
      cases hQ with
      | scalar hscalar _ => exact hscalar.elim
      | object h' hmembers => exact .object ⟨h, h'⟩ fun m hm => ih m hm (hmembers m hm)

theorem height_le_itemHeight (hv : v ∈ items) : v.height ≤ itemHeight items := by
  induction items with
  | nil => cases hv
  | cons w items ih =>
      rcases List.mem_cons.mp hv with rfl | hv
      · exact Nat.le_max_left _ _
      · exact (ih hv).trans (Nat.le_max_right _ _)

theorem height_le_memberHeight {m : String × Json} (hm : m ∈ members) :
    m.2.height ≤ memberHeight members := by
  induction members with
  | nil => cases hm
  | cons n members ih =>
      rcases List.mem_cons.mp hm with rfl | hm
      · exact Nat.le_max_left _ _
      · exact (ih hm).trans (Nat.le_max_right _ _)

/-! ## How values are written -/

/-- What follows an item: a closing bracket, or a comma and the other items. -/
def itemTail : List Json → List Char
  | [] => [']']
  | v :: rest => ',' :: itemChars (v :: rest)

/-- What follows a member: a closing brace, or a comma and the other members. -/
def memberTail : List (String × Json) → List Char
  | [] => ['}']
  | m :: rest => ',' :: memberChars (m :: rest)

theorem itemChars_cons (v : Json) (rest : List Json) :
    itemChars (v :: rest) = v.chars ++ itemTail rest := by
  cases rest <;> simp [itemChars, itemTail]

theorem memberChars_cons (k : String) (v : Json) (rest : List (String × Json)) :
    memberChars ((k, v) :: rest) = quotedChars k ++ ':' :: (v.chars ++ memberTail rest) := by
  cases rest <;> simp [memberChars, memberTail]

theorem length_lt_length_itemTail (items : List Json) : items.length < (itemTail items).length := by
  induction items with
  | nil => exact Nat.zero_lt_one
  | cons v rest ih =>
      rw [itemTail, itemChars_cons, List.length_cons, List.length_cons, List.length_append]
      omega

theorem length_lt_length_memberTail (members : List (String × Json)) :
    members.length < (memberTail members).length := by
  induction members with
  | nil => exact Nat.zero_lt_one
  | cons m rest ih =>
      obtain ⟨k, v⟩ := m
      rw [memberTail, memberChars_cons]
      simp only [List.length_cons, List.length_append]
      omega

/-- A text begins with a value: neither with space nor with a bracket that closes an array. -/
def Begins (cs : List Char) : Prop :=
  ∃ c rest, cs = c :: rest ∧ Reader.beginsToken c = true ∧ c ≠ ']'

/-- A written number begins with a sign or a digit. -/
theorem exists_numberChars_eq_cons {n : JsonNumber} (h : n.IsWhole) :
    ∃ c rest, numberChars n = c :: rest ∧ (c = '-' ∨ Digits.isDecimal c = true) := by
  cases n with
  | natural n =>
      cases hdigits : Digits.decimal n with
      | nil => exact absurd hdigits (Digits.decimal_ne_nil n)
      | cons c rest =>
          exact ⟨c, rest, hdigits,
            .inr (Digits.isDecimal_of_mem_decimal (hdigits ▸ List.mem_cons_self))⟩
  | negative n => exact ⟨'-', _, rfl, .inl rfl⟩
  | real x => exact h.elim

/-- Signs and digits begin nothing but numbers. -/
theorem ne_of_begins_number {c d : Char} (hc : c = '-' ∨ Digits.isDecimal c = true)
    (hd : d ≠ '-' ∧ Digits.isDecimal d = false) : c ≠ d := by
  rintro rfl
  rcases hc with heq | hdigit
  · exact hd.1 heq
  · rw [hd.2] at hdigit
    cases hdigit

theorem beginsToken_of_begins_number {c : Char} (hc : c = '-' ∨ Digits.isDecimal c = true) :
    Reader.beginsToken c = true := by
  have hascii : c.toNat < 128 := by
    rcases hc with rfl | hdigit
    · decide
    · exact Reader.ascii_of_isDecimal c hdigit
  have hne {d : Char} := ne_of_begins_number (d := d) hc
  simp [Reader.beginsToken, hascii, Reader.isSpace, hne (d := ' ') (by decide),
    hne (d := '\n') (by decide), hne (d := '\t') (by decide), hne (d := '\r') (by decide)]

/-- A written value begins like one, and with the first letter of null only if it is null. -/
theorem exists_chars_eq_cons (h : v.IsReadable) :
    ∃ c rest, v.chars = c :: rest ∧ Reader.beginsToken c = true ∧ c ≠ ']' ∧ (c = 'n' → v = null) := by
  cases v with
  | null => exact ⟨'n', _, rfl, by decide, by decide, fun _ => rfl⟩
  | bool b =>
      cases b <;> exact ⟨_, _, rfl, by decide, by decide, fun h => absurd h (by decide)⟩
  | string s => exact ⟨'"', _, rfl, by decide, by decide, fun h => absurd h (by decide)⟩
  | array items => exact ⟨'[', _, rfl, by decide, by decide, fun h => absurd h (by decide)⟩
  | object members => exact ⟨'{', _, rfl, by decide, by decide, fun h => absurd h (by decide)⟩
  | number n =>
      obtain ⟨c, rest, heq, hc⟩ := exists_numberChars_eq_cons h
      exact ⟨c, rest, heq, beginsToken_of_begins_number hc, ne_of_begins_number hc (by decide),
        fun hn => absurd hn (ne_of_begins_number hc (by decide))⟩

theorem begins_chars (h : v.IsReadable) (rest : List Char) : Begins (v.chars ++ rest) := by
  obtain ⟨c, more, heq, hbegins, hbracket, -⟩ := exists_chars_eq_cons h
  exact ⟨c, more ++ rest, by rw [heq, List.cons_append], hbegins, hbracket⟩

namespace Reader

variable {rest : List Char}

theorem endsNumber_itemTail (items : List Json) (rest : List Char) :
    EndsNumber (itemTail items ++ rest) := by
  cases items <;> exact endsNumber_cons (by decide)

theorem endsNumber_memberTail (members : List (String × Json)) (rest : List Char) :
    EndsNumber (memberTail members ++ rest) := by
  cases members <;> exact endsNumber_cons (by decide)

/-- A value that is written is read as something, whatever follows that ends a number. -/
structure ReadsAs {α : Type} (r : Reader α) (v : Json) (a : α) : Prop where
  readable : v.IsReadable
  reads : ∀ rest, EndsNumber rest → Reads r (v.chars ++ rest) a rest

/-! ## Arrays -/

section

variable {α : Type} {item : Reader α} {a : α} {read : List α}

/-- An item that stands next is read, and then the others are. -/
theorem reads_readItemsAux_next {fuel : Nat} {mid text : List Char} (htext : Begins text)
    (ha : Reads item text a mid) (hitems : Reads (readItemsAux item fuel false) mid read rest) :
    Reads (readItemsAux item (fuel + 1) true) text (a :: read) rest ∧
      Reads (readItemsAux item (fuel + 1) false) (',' :: text) (a :: read) rest := by
  obtain ⟨c, more, rfl, hbegins, hbracket⟩ := htext
  have hread : Reads (do
      let c ← peekToken
      if c = ']' then fail .malformed
      let v ← item
      return v :: (← readItemsAux item fuel false)) (c :: more) (a :: read) rest := by
    refine (reads_peekToken hbegins).bind ?_
    simp only [if_neg hbracket]
    exact ha.bind (hitems.bind reads_pure)
  constructor
  · refine (reads_peekToken hbegins).bind ?_
    simp only [if_neg hbracket]
    exact hread
  · refine (reads_peekToken (by decide)).bind ?_
    simp only [show ',' ≠ ']' by decide, if_false]
    exact (reads_expectToken (by decide)).bind hread

/-- The items that follow an item are read, if each of them is. -/
theorem reads_readItemsAux {fuel : Nat} (hfuel : items.length < fuel)
    (hitems : List.Forall₂ (ReadsAs item) items read) :
    Reads (readItemsAux item fuel false) (itemTail items ++ rest) read rest := by
  induction hitems generalizing fuel with
  | nil =>
      obtain ⟨fuel, rfl⟩ := Nat.exists_eq_add_one_of_ne_zero (Nat.ne_zero_of_lt hfuel)
      refine (reads_peekToken (by decide)).bind ?_
      simp only [if_true]
      exact (reads_advance (by decide)).bind reads_pure
  | @cons v a items read hv _ ih =>
      obtain ⟨fuel, rfl⟩ := Nat.exists_eq_add_one_of_ne_zero (Nat.ne_zero_of_lt hfuel)
      have ih := ih (Nat.lt_of_succ_lt_succ hfuel)
      rw [itemTail, itemChars_cons, List.cons_append, List.append_assoc]
      exact (reads_readItemsAux_next (begins_chars hv.readable _)
        (hv.reads _ (endsNumber_itemTail items rest)) ih).2

/-- A written array is read after its opening bracket, if each of its items is. -/
theorem reads_readItems (hitems : List.Forall₂ (ReadsAs item) items read) :
    Reads (readItems item) (itemChars items ++ rest) read rest := by
  refine reads_get.bind ?_
  cases hitems with
  | nil =>
      refine (reads_peekToken (by decide)).bind ?_
      simp only [if_true]
      exact (reads_advance (by decide)).bind reads_pure
  | @cons v a items read hv hitems =>
      have hlength := length_lt_length_itemTail items
      rw [itemChars_cons, List.append_assoc]
      have hbytes := Bytes.length_le_length_ofChars (v.chars ++ (itemTail items ++ rest))
      refine (reads_readItemsAux_next (begins_chars hv.readable _)
        (hv.reads _ (endsNumber_itemTail items rest)) (reads_readItemsAux ?_ hitems)).1
      simp only [List.length_append] at hbytes
      omega

end

/-! ## Objects -/

/-- Members are read one after the other, each from the way it is written. -/
inductive Steps {σ : Type} (step : σ → Reader σ) : σ → List (String × Json) → σ → Prop
  | nil {acc : σ} : Steps step acc [] acc
  | cons {acc next last : σ} {k : String} {v : Json} {members : List (String × Json)}
      (hmember : ∀ rest, EndsNumber rest →
        Reads (step acc) (quotedChars k ++ ':' :: (v.chars ++ rest)) next rest)
      (hmembers : Steps step next members last) : Steps step acc ((k, v) :: members) last

variable {σ : Type} {step : σ → Reader σ} {acc last : σ}

theorem reads_nextMember_first (k : String) (rest : List Char) :
    Reads (nextMember true) (quotedChars k ++ rest) true (quotedChars k ++ rest) := by
  refine (reads_peekToken (by decide)).bind ?_
  simp only [show '"' ≠ '}' by decide, if_false]
  exact reads_pure

theorem reads_nextMember (rest : List Char) : Reads (nextMember false) (',' :: rest) true rest := by
  refine (reads_peekToken (by decide)).bind ?_
  simp only [show ',' ≠ '}' by decide, if_false]
  exact (reads_expectToken (by decide)).bind reads_pure

theorem reads_nextMember_last (first : Bool) (rest : List Char) :
    Reads (nextMember first) ('}' :: rest) false rest := by
  refine (reads_peekToken (by decide)).bind ?_
  simp only [if_true]
  exact (reads_advance (by decide)).bind reads_pure

/-- The members that follow a member are read back. -/
theorem reads_foldMembersAux {fuel : Nat} (h : Steps step acc members last)
    (hfuel : members.length < fuel) (rest : List Char) :
    Reads (foldMembersAux step fuel false acc) (memberTail members ++ rest) last rest := by
  induction h generalizing fuel with
  | nil =>
      obtain ⟨fuel, rfl⟩ := Nat.exists_eq_add_one_of_ne_zero (Nat.ne_zero_of_lt hfuel)
      exact (reads_nextMember_last false rest).bind reads_pure
  | @cons acc next last k v members hmember _ ih =>
      obtain ⟨fuel, rfl⟩ := Nat.exists_eq_add_one_of_ne_zero (Nat.ne_zero_of_lt hfuel)
      have hnext := hmember _ (endsNumber_memberTail members rest)
      rw [memberTail, memberChars_cons, List.cons_append, List.append_assoc, List.cons_append,
        List.append_assoc]
      exact (reads_nextMember _).bind (hnext.bind (ih (Nat.lt_of_succ_lt_succ hfuel)))

/-- A written object is read back after its opening brace. -/
theorem reads_foldMembers (h : Steps step acc members last) (rest : List Char) :
    Reads (foldMembers step acc) (memberChars members ++ rest) last rest := by
  refine reads_get.bind ?_
  cases h with
  | nil => exact (reads_nextMember_last true rest).bind reads_pure
  | @cons _ next _ k v members hmember hmembers =>
      have hnext := hmember _ (endsNumber_memberTail members rest)
      have hlength := length_lt_length_memberTail members
      rw [memberChars_cons, List.append_assoc, List.cons_append, List.append_assoc]
      have hbytes := Bytes.length_le_length_ofChars
        (quotedChars k ++ ':' :: (v.chars ++ (memberTail members ++ rest)))
      refine (reads_nextMember_first k _).bind (hnext.bind (reads_foldMembersAux hmembers ?_ rest))
      simp only [List.length_append, List.length_cons] at hbytes
      omega

theorem reads_readName (k : String) (rest : List Char) :
    Reads (readName readString) (quotedChars k ++ rest) k rest := by
  refine (reads_peekToken (by decide)).bind ?_
  simp only [ne_eq, not_true_eq_false, if_false]
  exact reads_readString k rest

/-- A colon is passed over in front of a value. -/
theorem reads_skipColon (h : v.IsReadable) (rest : List Char) :
    Reads skipColon (':' :: (v.chars ++ rest)) () (v.chars ++ rest) := by
  obtain ⟨c, more, heq, hbegins, -⟩ := begins_chars h rest
  refine (reads_expectToken (by decide)).bind ?_
  rw [heq]
  exact reads_skipSpace hbegins

theorem reads_readKey (k : String) (h : v.IsReadable) (rest : List Char) :
    Reads (readKey readString) (quotedChars k ++ ':' :: (v.chars ++ rest)) k (v.chars ++ rest) :=
  (reads_readName k _).bind ((reads_skipColon h rest).bind reads_pure)

/-- The members of an object are put in front of those read before. -/
theorem steps_push {value : Reader Json} (acc : List (String × Json))
    (hvalue : ∀ m ∈ members, ReadsAs value m.2 m.2) :
    Steps (fun acc => do
        let k ← readKey readString
        let v ← value
        return (k, v) :: acc) acc members (members.reverse ++ acc) := by
  induction members generalizing acc with
  | nil => exact .nil
  | cons m members ih =>
      obtain ⟨k, v⟩ := m
      obtain ⟨hreadable, hv⟩ := hvalue (k, v) List.mem_cons_self
      have ih := ih ((k, v) :: acc) fun m hm => hvalue m (List.mem_cons_of_mem _ hm)
      rw [List.reverse_cons, List.append_assoc]
      refine .cons (fun rest hrest => ?_) ih
      exact (reads_readKey k hreadable rest).bind ((hv rest hrest).bind reads_pure)

/-! ## Whole values -/

/-- A number is read as a value by its first character. -/
theorem reads_readValueWith_number (embedded : Option (String → Except DecodeError Json))
    {n : JsonNumber} (h : n.IsWhole) (hrest : EndsNumber rest) :
    Reads (readValueWith embedded (depth + 1)) (numberChars n ++ rest) (number n) rest := by
  obtain ⟨c, more, heq, hc⟩ := exists_numberChars_eq_cons h
  have hnumber := reads_readNumber h hrest
  rw [heq, List.cons_append] at hnumber ⊢
  refine (reads_peekToken (beginsToken_of_begins_number hc)).bind ?_
  have hne {d : Char} := ne_of_begins_number (d := d) hc
  split
  next => exact absurd rfl (hne (by decide))
  next => exact absurd rfl (hne (by decide))
  next => exact absurd rfl (hne (by decide))
  next => exact absurd rfl (hne (by decide))
  next => exact absurd rfl (hne (by decide))
  next => exact absurd rfl (hne (by decide))
  next =>
    rw [if_pos hc]
    exact hnumber.bind reads_pure

/-- An object is read if its first key does not make it stand for a text. -/
theorem reads_readValueWith_object (embedded : Option (String → Except DecodeError Json))
    (h : (object members).IsReadable)
    (hmembers : ∀ m ∈ members, ReadsAs (readValueWith embedded (depth + 1)) m.2 m.2) :
    Reads (readValueWith embedded (depth + 2)) ('{' :: memberChars members ++ rest)
      (object members) rest := by
  rw [List.cons_append]
  refine (reads_peekToken (by decide)).bind ?_
  simp only [Nat.add_one_ne_zero, if_false]
  refine (reads_advance (by decide)).bind ?_
  cases members with
  | nil => exact (reads_nextMember_last true rest).bind reads_pure
  | cons m members =>
      obtain ⟨k, v⟩ := m
      obtain ⟨hreadable, hv⟩ := hmembers (k, v) List.mem_cons_self
      have hsteps := steps_push [(k, v)] fun m hm => hmembers m (List.mem_cons_of_mem _ hm)
      have hkey : (k == embeddedKey) = false := beq_eq_false_iff_ne.mpr h
      have hlength := length_lt_length_memberTail members
      rw [memberChars_cons, List.append_assoc, List.cons_append, List.append_assoc]
      refine (reads_nextMember_first k _).bind ((reads_readKey k hreadable _).bind ?_)
      rw [hkey]
      split
      next => contradiction
      next =>
        refine (hv _ (endsNumber_memberTail members rest)).bind (reads_get.bind ?_)
        have hbytes := Bytes.length_le_length_ofChars (memberTail members ++ rest)
        refine (reads_foldMembersAux hsteps ?_ rest).bind ?_
        · rw [List.length_append] at hbytes
          omega
        · rw [List.reverse_append, List.reverse_reverse]
          exact reads_pure

/-- A value nested less deeply than the reader goes is read back from its text. -/
theorem reads_readValueWith (embedded : Option (String → Except DecodeError Json))
    (h : v.Everywhere IsReadable) (hheight : v.height < depth) (rest : List Char)
    (hrest : EndsNumber rest) :
    Reads (readValueWith embedded depth) (v.chars ++ rest) v rest := by
  induction h generalizing depth rest with
  | @scalar v hscalar h =>
      obtain ⟨depth, rfl⟩ := Nat.exists_eq_add_one_of_ne_zero (Nat.ne_zero_of_lt hheight)
      cases v with
      | null =>
          refine (reads_peekToken (by decide)).bind ?_
          exact (reads_expectChars ascii_null rest).bind reads_pure
      | bool b =>
          cases b with
          | true =>
              refine (reads_peekToken (by decide)).bind ?_
              exact (reads_expectChars ascii_true rest).bind reads_pure
          | false =>
              refine (reads_peekToken (by decide)).bind ?_
              exact (reads_expectChars ascii_false rest).bind reads_pure
      | string s =>
          exact (reads_peekToken (by decide)).bind ((reads_readString s rest).bind reads_pure)
      | number n => exact reads_readValueWith_number embedded h hrest
      | array items => exact hscalar.elim
      | object members => exact hscalar.elim
  | @array items _ hitems ih =>
      obtain ⟨depth, rfl⟩ : ∃ k, depth = k + 2 := Nat.exists_eq_add_of_le' (by
        rw [height] at hheight
        omega)
      refine (reads_peekToken (by decide)).bind ?_
      simp only [Nat.add_one_ne_zero, if_false]
      refine (reads_advance (by decide)).bind ((reads_readItems (List.forall₂_same.mpr fun v hv =>
        ⟨(hitems v hv).holds, ?_⟩)).bind reads_pure)
      have hle := height_le_itemHeight hv
      rw [height] at hheight
      exact ih v hv (by omega)
  | @object members h hmembers ih =>
      obtain ⟨depth, rfl⟩ : ∃ k, depth = k + 2 := Nat.exists_eq_add_of_le' (by
        rw [height] at hheight
        omega)
      refine reads_readValueWith_object embedded h fun m hm => ⟨(hmembers m hm).holds, ?_⟩
      have hle := height_le_memberHeight hm
      rw [height] at hheight
      exact ih m hm (by omega)

end Reader

end SupportDesk.Json
