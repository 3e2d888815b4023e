/-
# The bytes of a text

A text is read back from its bytes, and the bytes of one text after another are those of the two in
one.  A text has at least one byte for each character, and at most four.

A character of ASCII has one byte, its number, and the bytes of all other characters are beyond
ASCII.  So whoever looks for ASCII among the bytes of a text finds just the characters of ASCII.
-/

import Mathlib.Data.String.Basic

namespace SupportDesk.Bytes

theorem toList_loop_eq (bytes : ByteArray) (i : Nat) (acc : List UInt8) :
    ByteArray.toList.loop bytes i acc = acc.reverse ++ bytes.data.toList.drop i := by
  induction i, acc using ByteArray.toList.loop.induct bytes with
  | case1 i acc hlt ih =>
      have hi : i < bytes.data.toList.length := by simpa using hlt
      have hget : bytes.get! i = bytes.data.toList[i] := by
        simpa [ByteArray.get!] using getElem!_pos bytes.data i hlt
      rw [ByteArray.toList.loop, if_pos hlt, ih, List.drop_eq_getElem_cons hi, hget]
      simp
  | case2 i acc hge =>
      have hall : bytes.data.toList.length ≤ i := by simpa using hge
      rw [ByteArray.toList.loop, if_neg hge, List.drop_eq_nil_of_le hall, List.append_nil]

theorem toList_eq (bytes : ByteArray) : bytes.toList = bytes.data.toList := by
  rw [ByteArray.toList, toList_loop_eq]
  rfl

/-- The bytes of the characters of a text. -/
def ofChars (cs : List Char) : List UInt8 := cs.flatMap String.utf8EncodeChar

theorem toList_ofList (cs : List Char) : (String.ofList cs).toUTF8.toList = ofChars cs := by
  rw [toList_eq, String.toUTF8_eq_toByteArray, String.toByteArray_ofList, List.utf8Encode,
    List.toList_data_toByteArray, ofChars]

theorem length_toList (s : String) : s.toUTF8.toList.length = s.utf8ByteSize := by
  rw [toList_eq]
  rfl

theorem toList_append (s t : String) :
    (s ++ t).toUTF8.toList = s.toUTF8.toList ++ t.toUTF8.toList := by
  simp [toList_eq]

/-- A text is read back from its bytes. -/
theorem fromUTF8?_toList (s : String) : String.fromUTF8? ⟨s.toUTF8.toList.toArray⟩ = some s := by
  have hbytes : (⟨s.toUTF8.toList.toArray⟩ : ByteArray) = s.toByteArray := by
    rw [toList_eq]
    rfl
  rw [hbytes, String.fromUTF8?, dif_pos s.isValidUTF8]
  rfl

theorem fromUTF8?_ofChars (s : String) :
    String.fromUTF8? ⟨(ofChars s.toList).toArray⟩ = some s := by
  rw [← toList_ofList, String.ofList_toList, fromUTF8?_toList]

theorem length_le_utf8ByteSize (cs : List Char) :
    cs.length ≤ (String.ofList cs).utf8ByteSize := by
  rw [String.utf8ByteSize_ofList]
  induction cs with
  | nil => exact Nat.le_refl _
  | cons c cs ih =>
      rw [List.length_cons, String.utf8Len_cons]
      exact Nat.add_le_add ih c.utf8Size_pos

theorem utf8ByteSize_le (cs : List Char) : (String.ofList cs).utf8ByteSize ≤ 4 * cs.length := by
  rw [String.utf8ByteSize_ofList]
  induction cs with
  | nil => exact Nat.le_refl _
  | cons c cs ih =>
      rw [List.length_cons, String.utf8Len_cons, Nat.mul_succ]
      exact Nat.add_le_add ih c.utf8Size_le_four

theorem length_le_length_ofChars (cs : List Char) : cs.length ≤ (ofChars cs).length := by
  rw [← toList_ofList, length_toList]
  exact length_le_utf8ByteSize cs

/-! ## ASCII among bytes -/

variable {c : Char} {cs : List Char}

theorem ofChars_append (cs ds : List Char) : ofChars (cs ++ ds) = ofChars cs ++ ofChars ds :=
  List.flatMap_append

theorem utf8EncodeChar_of_ascii (hc : c.toNat < 128) : String.utf8EncodeChar c = [c.toUInt8] := by
  have hsize : c.utf8Size = 1 := by
    rw [Char.utf8Size_eq_one_iff, UInt32.le_iff_toNat_le]
    exact Nat.le_of_lt_succ hc
  exact String.utf8EncodeChar_eq_singleton hsize

theorem ofChars_cons_of_ascii (hc : c.toNat < 128) (cs : List Char) :
    ofChars (c :: cs) = c.toUInt8 :: ofChars cs := by
  rw [ofChars, List.flatMap_cons, utf8EncodeChar_of_ascii hc]
  rfl

theorem ofChars_of_ascii (hcs : ∀ c ∈ cs, c.toNat < 128) : ofChars cs = cs.map Char.toUInt8 := by
  induction cs with
  | nil => rfl
  | cons c cs ih =>
      rw [ofChars_cons_of_ascii (hcs c List.mem_cons_self), List.map_cons,
        ih fun c hc => hcs c (List.mem_cons_of_mem _ hc)]

theorem toNat_ofUInt8 (b : UInt8) : (Char.ofUInt8 b).toNat = b.toNat := UInt8.toNat_toUInt32 b

theorem ofUInt8_toUInt8 (hc : c.toNat < 128) : Char.ofUInt8 c.toUInt8 = c := by
  apply Char.ext
  apply UInt32.toNat_inj.mp
  have hbyte : c.toUInt8.toNat = c.toNat := Nat.mod_eq_of_lt (hc.trans (by decide))
  exact (toNat_ofUInt8 c.toUInt8).trans hbyte

theorem toUInt8_ofUInt8 (b : UInt8) : (Char.ofUInt8 b).toUInt8 = b := UInt8.toUInt8_toUInt32 b

theorem le_of_mem_utf8EncodeChar (hc : 128 ≤ c.toNat) {b : UInt8}
    (hb : b ∈ String.utf8EncodeChar c) : 128 ≤ b.toNat := by
  have hvalue : ¬ c.val.toNat ≤ 127 := not_le.mpr hc
  unfold String.utf8EncodeChar at hb
  simp only [hvalue, if_false] at hb
  -- Whether there are two bytes, three or four, the number of each is a sum with 128 or more.
  split at hb
  · simp only [List.mem_cons, List.not_mem_nil, or_false] at hb
    rcases hb with rfl | rfl <;> simp <;> omega
  split at hb
  · simp only [List.mem_cons, List.not_mem_nil, or_false] at hb
    rcases hb with rfl | rfl | rfl <;> simp <;> omega
  · simp only [List.mem_cons, List.not_mem_nil, or_false] at hb
    rcases hb with rfl | rfl | rfl | rfl <;> simp <;> omega

/-- Beyond ASCII a text begins with a byte beyond ASCII. -/
theorem exists_ofChars_cons (hc : 128 ≤ c.toNat) (cs : List Char) :
    ∃ b more, ofChars (c :: cs) = b :: more ∧ 128 ≤ b.toNat := by
  cases hencoded : String.utf8EncodeChar c with
  | nil => exact absurd hencoded String.utf8EncodeChar_ne_nil
  | cons b more =>
      have hb : 128 ≤ b.toNat := le_of_mem_utf8EncodeChar hc (hencoded ▸ List.mem_cons_self)
      refine ⟨b, more ++ ofChars cs, ?_, hb⟩
      rw [ofChars, List.flatMap_cons, hencoded]
      rfl

/-- What is ASCII at the front of the bytes of a text is the first character of the text. -/
theorem mem_head?_of_ofChars (hfirst : c ∈ (ofChars cs).head?.map Char.ofUInt8)
    (hc : c.toNat < 128) : c ∈ cs.head? := by
  cases cs with
  | nil => cases hfirst
  | cons d cs =>
      by_cases hd : d.toNat < 128
      · rw [ofChars_cons_of_ascii hd, List.head?_cons, Option.map_some, ofUInt8_toUInt8 hd]
          at hfirst
        exact hfirst
      · obtain ⟨b, more, hbytes, hb⟩ := exists_ofChars_cons (not_lt.mp hd) cs
        rw [hbytes, List.head?_cons, Option.map_some, Option.mem_some_iff] at hfirst
        rw [← hfirst, toNat_ofUInt8] at hc
        omega

section

variable {p : Char → Bool}

theorem not_ofUInt8_of_le (hp : ∀ c, p c = true → c.toNat < 128) {b : UInt8} (hb : 128 ≤ b.toNat) :
    ¬ p (.ofUInt8 b) = true := by
  intro hbyte
  have hlt := hp _ hbyte
  rw [toNat_ofUInt8] at hlt
  omega

/-- Bytes of ASCII are dropped as characters are. -/
theorem dropWhile_ofChars (hp : ∀ c, p c = true → c.toNat < 128) (cs : List Char) :
    (ofChars cs).dropWhile (fun b => p (.ofUInt8 b)) = ofChars (cs.dropWhile p) := by
  induction cs with
  | nil => rfl
  | cons c cs ih =>
      by_cases hc : c.toNat < 128
      · rw [ofChars_cons_of_ascii hc, List.dropWhile_cons, ofUInt8_toUInt8 hc, List.dropWhile_cons]
        split
        next => exact ih
        next => rw [ofChars_cons_of_ascii hc]
      · obtain ⟨b, more, hbytes, hb⟩ := exists_ofChars_cons (not_lt.mp hc) cs
        rw [List.dropWhile_cons_of_neg fun h => hc (hp c h), hbytes]
        exact List.dropWhile_cons_of_neg (not_ofUInt8_of_le hp hb)

/-- Bytes of ASCII are taken as characters are. -/
theorem takeWhile_ofChars (hp : ∀ c, p c = true → c.toNat < 128) (cs : List Char) :
    ((ofChars cs).takeWhile fun b => p (.ofUInt8 b)).map Char.ofUInt8 = cs.takeWhile p := by
  induction cs with
  | nil => rfl
  | cons c cs ih =>
      by_cases hc : c.toNat < 128
      · rw [ofChars_cons_of_ascii hc, List.takeWhile_cons, ofUInt8_toUInt8 hc, List.takeWhile_cons]
        split
        next => rw [List.map_cons, ofUInt8_toUInt8 hc, ih]
        next => rfl
      · obtain ⟨b, more, hbytes, hb⟩ := exists_ofChars_cons (not_lt.mp hc) cs
        rw [List.takeWhile_cons_of_neg fun h => hc (hp c h), hbytes]
        exact congrArg (List.map Char.ofUInt8)
          (List.takeWhile_cons_of_neg (not_ofUInt8_of_le hp hb))

end

end SupportDesk.Bytes
