/-
# Tokens are read back

The readings of the tokens of JSON text: numbers, strings, and what stands between them.  A number
is read to its end only if what follows cannot belong to it.

Readers go by bytes, and are told here by the characters whose bytes these are.  Tokens begin with
ASCII, so that a reader sees the first character of a token in its first byte; a string is put
together from its bytes at its closing quote.
-/

import Mathlib.Tactic.SplitIfs
import SupportDesk.Json.Reader
import SupportDesk.Json.Writer
import SupportDesk.Proofs.Text.Bytes
import SupportDesk.Proofs.Text.Digits
import SupportDesk.Proofs.Wire.Reads

namespace SupportDesk

/-- A number that is whole and fits its 64 bits. -/
def JsonNumber.IsWhole : JsonNumber → Prop
  | .natural n => n ≤ Json.Reader.maxNatural
  | .negative n => 0 < n ∧ n ≤ 0x8000000000000000
  | .real _ => False

namespace Json.Reader

open Digits

variable {α β : Type} {a : α} {b : β} {r : Reader α} {cs mid rest : List Char} {c : Char}

/-- A reader takes a value off the front of a text, by its bytes, and leaves the rest of it. -/
def Reads (r : Reader α) (cs : List Char) (a : α) (rest : List Char) : Prop :=
  SupportDesk.Reads r (Bytes.ofChars cs) a (Bytes.ofChars rest)

theorem reads_pure : Reads (pure a) cs a cs := rfl

theorem reads_get : Reads get cs (Bytes.ofChars cs) cs := rfl

theorem Reads.bind {f : α → Reader β} (h : Reads r cs a mid) (hf : Reads (f a) mid b rest) :
    Reads (r >>= f) cs b rest := SupportDesk.Reads.bind h hf

theorem Reads.map {f : α → β} (h : Reads r cs a rest) : Reads (f <$> r) cs (f a) rest :=
  SupportDesk.Reads.map h

theorem reads_peek? (cs : List Char) :
    Reads peek? cs ((Bytes.ofChars cs).head?.map Char.ofUInt8) cs := rfl

theorem reads_peek?_of_ascii (hc : c.toNat < 128) : Reads peek? (c :: cs) (some c) (c :: cs) := by
  have h := reads_peek? (c :: cs)
  rwa [Bytes.ofChars_cons_of_ascii hc, List.head?_cons, Option.map_some,
    Bytes.ofUInt8_toUInt8 hc] at h

theorem reads_advance (hc : c.toNat < 128) : Reads advance (c :: cs) () cs := by
  rw [Reads, Bytes.ofChars_cons_of_ascii hc]
  rfl

/-! ## Space and expected characters -/

theorem ascii_of_isSpace (c : Char) (hc : isSpace c = true) : c.toNat < 128 := by
  simp only [isSpace, Bool.or_eq_true, beq_iff_eq] at hc
  rcases hc with ((rfl | rfl) | rfl) | rfl <;> decide

theorem ascii_of_isDecimal (c : Char) (hc : isDecimal c = true) : c.toNat < 128 := by
  have hdigit := isDecimal_iff.mp hc
  omega

/-- A character of ASCII that is no space. -/
def beginsToken (c : Char) : Bool := c.toNat < 128 && !isSpace c

theorem ascii_of_beginsToken (hc : beginsToken c = true) : c.toNat < 128 := by
  rw [beginsToken, Bool.and_eq_true, decide_eq_true_eq] at hc
  exact hc.1

theorem reads_skipSpace (hc : beginsToken c = true) : Reads skipSpace (c :: cs) () (c :: cs) := by
  have hspace : ¬ isSpace c = true := by
    rw [beginsToken, Bool.and_eq_true] at hc
    simpa using hc.2
  have hdrop := Bytes.dropWhile_ofChars ascii_of_isSpace (c :: cs)
  rw [List.dropWhile_cons_of_neg hspace] at hdrop
  rw [Reads, SupportDesk.Reads, skipSpace, modify, StateT.run_modifyGet, hdrop]

theorem reads_peekToken (hc : beginsToken c = true) : Reads peekToken (c :: cs) c (c :: cs) :=
  (reads_skipSpace hc).bind ((reads_peek?_of_ascii (ascii_of_beginsToken hc)).bind reads_pure)

theorem reads_expectChars (hcs : ∀ c ∈ cs, c.toNat < 128) (rest : List Char) :
    Reads (expectChars cs) (cs ++ rest) () rest := by
  induction cs with
  | nil => exact reads_pure
  | cons c cs ih =>
      have hc := hcs c List.mem_cons_self
      rw [expectChars]
      refine (reads_peek?_of_ascii hc).bind ?_
      rw [if_pos rfl]
      exact (reads_advance hc).bind (ih fun c hc => hcs c (List.mem_cons_of_mem _ hc))

theorem ascii_null : ∀ c ∈ "null".toList, c.toNat < 128 := by simp

theorem ascii_true : ∀ c ∈ "true".toList, c.toNat < 128 := by simp

theorem ascii_false : ∀ c ∈ "false".toList, c.toNat < 128 := by simp

theorem reads_expectToken (hc : beginsToken c = true) :
    Reads (expectToken c) (c :: rest) () rest := by
  have hascii : ∀ d ∈ [c], d.toNat < 128 :=
    List.forall_mem_singleton.mpr (ascii_of_beginsToken hc)
  exact (reads_skipSpace hc).bind (reads_expectChars hascii rest)

/-! ## Numbers -/

/-- A number ends in front of a text. -/
def EndsNumber (rest : List Char) : Prop :=
  ∀ c ∈ rest.head?, isDecimal c = false ∧ c ≠ '.' ∧ c ≠ 'e' ∧ c ≠ 'E'

theorem endsNumber_cons (hc : isDecimal c = false ∧ c ≠ '.' ∧ c ≠ 'e' ∧ c ≠ 'E') :
    EndsNumber (c :: rest) := by
  rintro d ⟨⟩
  exact hc

theorem reads_takeDigits {digits : List Char} (hdigits : ∀ c ∈ digits, isDecimal c = true)
    (hrest : EndsNumber rest) : Reads takeDigits (digits ++ rest) digits rest := by
  obtain ⟨htake, hdrop⟩ := takeWhile_isDecimal hdigits fun c hc => (hrest c hc).1
  have hdropped := Bytes.dropWhile_ofChars ascii_of_isDecimal (digits ++ rest)
  have htaken := Bytes.takeWhile_ofChars ascii_of_isDecimal (digits ++ rest)
  rw [hdrop] at hdropped
  rw [htake] at htaken
  refine reads_get.bind ?_
  rw [hdropped, htaken]
  rfl

/-- The digits of a number that fits are its significand, and none is left over. -/
theorem push_decimal {n : Nat} (hn : n ≤ maxNatural) :
    Significand.push ⟨0, 0, false⟩ (decimal n) = ⟨n, 0, false⟩ := by
  induction n using Nat.strongRecOn with
  | _ n ih =>
      rcases decimal_cases n with ⟨hlt, heq⟩ | ⟨hpos, heq⟩ <;> rw [heq]
      · simp [Significand.push, decimalValue?_ofValue hlt, hn]
      · have hhead := ih (n / 10) (by omega) ((Nat.div_le_self n 10).trans hn)
        have hlast := decimalValue?_ofValue (Nat.mod_lt n (show 0 < 10 by decide))
        rw [Significand.push] at hhead ⊢
        rw [List.foldl_append, hhead]
        simp [hlast, Nat.div_add_mod', hn]

theorem reads_readUnsigned {n : Nat} {negative : Bool} {x : JsonNumber} (hn : n ≤ maxNatural)
    (hrest : EndsNumber rest) (hwhole : Reads (wholeNumber negative ⟨n, 0, false⟩) rest x rest) :
    Reads (readUnsigned negative) (decimal n ++ rest) x rest := by
  refine (reads_takeDigits (fun _ => isDecimal_of_mem_decimal) hrest).bind ?_
  split
  next hnil => exact absurd hnil (decimal_ne_nil n)
  next hzero => exact absurd (decimal_eq_zero_cons hzero) (List.cons_ne_nil _ _)
  next =>
    rw [push_decimal hn]
    have hends (c : Char) (hc : c.toNat < 128)
        (hnext : (Bytes.ofChars rest).head?.map Char.ofUInt8 = some c) :=
      hrest c (Bytes.mem_head?_of_ofChars hnext hc)
    refine (reads_peek? _).bind ?_
    split
    next hdot => exact absurd rfl (hends '.' (by decide) hdot).2.1
    next hmark => exact absurd rfl (hends 'e' (by decide) hmark).2.2.1
    next hmark => exact absurd rfl (hends 'E' (by decide) hmark).2.2.2
    next => exact hwhole

/-- A written whole number is read back. -/
theorem reads_readNumber {x : JsonNumber} (hx : x.IsWhole) (hrest : EndsNumber rest) :
    Reads readNumber (numberChars x ++ rest) x rest := by
  cases x with
  | natural n =>
      have hwhole : Reads (wholeNumber false ⟨n, 0, false⟩) rest (.natural n) rest := rfl
      refine (reads_peek? _).bind ?_
      split
      next hminus =>
        have hminus := Bytes.mem_head?_of_ofChars hminus (by decide)
        cases hdigits : decimal n with
        | nil => exact absurd hdigits (decimal_ne_nil n)
        | cons c more =>
            have hc : isDecimal c = true := isDecimal_of_mem_decimal (hdigits ▸ List.mem_cons_self)
            rw [numberChars, hdigits] at hminus
            rw [Option.some.inj hminus] at hc
            cases hc
      next => exact reads_readUnsigned hx hrest hwhole
  | negative n =>
      obtain ⟨hpos, hle⟩ := hx
      have hwhole : Reads (wholeNumber true ⟨n, 0, false⟩) rest (.negative n) rest := by
        have hfits : ¬ (n = 0 ∨ 0x8000000000000000 < n) := by omega
        simp only [wholeNumber, Bool.false_eq_true, if_false, not_true_eq_false, if_neg hfits]
        rfl
      have hn : n ≤ maxNatural := hle.trans (by decide)
      refine (reads_peek?_of_ascii (c := '-') (by decide)).bind ?_
      exact (reads_advance (by decide)).bind (reads_readUnsigned hn hrest hwhole)
  | real x => exact hx.elim

/-! ## Strings -/

theorem reads_readHex4 {n : Nat} (hn : n < 16 ^ 4) :
    Reads readHex4 (fixed 16 4 n ++ rest) n rest := by
  have hascii : ∀ c ∈ fixed 16 4 n, c.toNat < 128 := by
    intro c hc
    obtain ⟨d, hd, rfl⟩ := exists_value_of_mem_fixed (by decide) hc
    clear hc
    revert d
    decide
  have hbytes := Bytes.ofChars_of_ascii hascii
  have hlength : (Bytes.ofChars (fixed 16 4 n)).length = 4 := by
    rw [hbytes, List.length_map, length_fixed]
  have hdigits : (Bytes.ofChars (fixed 16 4 n)).map Char.ofUInt8 = fixed 16 4 n := by
    rw [hbytes, List.map_map]
    exact List.map_congr_left (fun c hc => Bytes.ofUInt8_toUInt8 (hascii c hc)) |>.trans
      (List.map_id _)
  refine reads_get.bind ?_
  rw [Bytes.ofChars_append, List.take_left' hlength, List.drop_left' hlength, hdigits]
  simp only [readHex?_fixed hn, length_fixed, if_true]
  rfl

/-- An escape of one letter is read back. -/
theorem reads_readEscape {unit : Reader Char} {letter : Char} (hascii : letter.toNat < 128)
    (hletter : letter ≠ 'u') (hc : escape? letter = some c) :
    Reads (readEscape unit) (letter :: rest) c rest := by
  refine (reads_peek?_of_ascii hascii).bind ?_
  split
  next hu => exact absurd (Option.some.inj hu) hletter
  next d _ hd =>
    obtain rfl := Option.some.inj hd
    rw [hc]
    exact (reads_advance hascii).bind reads_pure
  next hnone => cases hnone

/-- The escape of a control character by its number is read back. -/
theorem reads_readEscape_control (hc : c.toNat < 0x20) :
    Reads (readEscape readCodePoint) ('u' :: fixed 16 4 c.toNat ++ rest) c rest := by
  have hlead : isLead c.toNat = false := by
    simp only [isLead, Bool.and_eq_false_iff, decide_eq_false_iff_not]
    omega
  have htrail : isTrail c.toNat = false := by
    simp only [isTrail, Bool.and_eq_false_iff, decide_eq_false_iff_not]
    omega
  refine (reads_peek?_of_ascii (by decide)).bind ((reads_advance (by decide)).bind ?_)
  refine (reads_readHex4 (by omega)).bind ?_
  rw [hlead, htrail, Char.ofNat_toNat]
  exact reads_pure

section

variable {unit : Reader Char} {fuel : Nat} {acc read bytes input left : List UInt8}

/-- Bytes beyond ASCII belong to the string in which they stand. -/
theorem reads_readStringAux_bytes (hbytes : ∀ b ∈ bytes, 128 ≤ b.toNat)
    (h : SupportDesk.Reads (readStringAux unit fuel (bytes.reverse ++ acc)) input read left) :
    SupportDesk.Reads (readStringAux unit (fuel + bytes.length) acc) (bytes ++ input)
      read left := by
  induction bytes generalizing acc with
  | nil => exact h
  | cons b bytes ih =>
      have hb : 128 ≤ (Char.ofUInt8 b).toNat := by
        rw [Bytes.toNat_ofUInt8]
        exact hbytes b List.mem_cons_self
      have hne {c : Char} (hc : c.toNat < 128) : Char.ofUInt8 b ≠ c := by
        rintro rfl
        omega
      rw [List.reverse_cons, List.append_assoc] at h
      have ih := ih (fun b hb => hbytes b (List.mem_cons_of_mem _ hb)) h
      have hpeek : SupportDesk.Reads peek? (b :: (bytes ++ input)) (some (Char.ofUInt8 b))
          (b :: (bytes ++ input)) := rfl
      refine SupportDesk.Reads.bind hpeek ?_
      split
      next hnone => cases hnone
      next heq => exact absurd (Option.some.inj heq) (hne (by decide))
      next heq => exact absurd (Option.some.inj heq) (hne (by decide))
      next c _ _ heq =>
        obtain rfl := Option.some.inj heq
        rw [if_neg (by omega), Bytes.toUInt8_ofUInt8]
        have hadvance : SupportDesk.Reads advance (b :: (bytes ++ input)) () (bytes ++ input) := rfl
        exact hadvance.bind ih

end

section

variable {fuel : Nat} {acc read : List UInt8}

theorem length_escaped_pos (c : Char) : 0 < (escaped c).length := by
  unfold escaped
  repeat' split
  all_goals exact Nat.succ_pos _

/-- A character that stands for itself is read by its bytes. -/
theorem reads_readStringAux_plain {unit : Reader Char} (hquote : c ≠ '"') (hbackslash : c ≠ '\\')
    (hcontrol : ¬ c.toNat < 0x20)
    (h : Reads (readStringAux unit fuel ((String.utf8EncodeChar c).reverse ++ acc)) mid read rest) :
    Reads (readStringAux unit (fuel + (String.utf8EncodeChar c).length) acc) (c :: mid) read
      rest := by
  by_cases hc : c.toNat < 128
  · rw [Bytes.utf8EncodeChar_of_ascii hc] at h ⊢
    refine (reads_peek?_of_ascii hc).bind ?_
    split
    next hnone => cases hnone
    next heq => exact absurd (Option.some.inj heq) hquote
    next heq => exact absurd (Option.some.inj heq) hbackslash
    next d _ _ hd =>
      obtain rfl := Option.some.inj hd
      rw [if_neg hcontrol]
      exact (reads_advance hc).bind h
  · exact reads_readStringAux_bytes
      (fun _ => Bytes.le_of_mem_utf8EncodeChar (not_lt.mp hc)) h

/-- A character of a string is read back from the way it is written. -/
theorem reads_readStringAux_escaped {needed : Nat}
    (h : ∀ fuel, needed < fuel → Reads (readStringAux readCodePoint fuel
      ((String.utf8EncodeChar c).reverse ++ acc)) mid read rest)
    (hfuel : needed + (Bytes.ofChars (escaped c)).length < fuel) :
    Reads (readStringAux readCodePoint fuel acc) (escaped c ++ mid) read rest := by
  obtain ⟨fuel, rfl⟩ := Nat.exists_eq_add_one_of_ne_zero (Nat.ne_zero_of_lt hfuel)
  have hlength := (length_escaped_pos c).trans_le (Bytes.length_le_length_ofChars _)
  have hescape {cs : List Char} (hread : Reads (readEscape readCodePoint) cs c mid) :
      Reads (readStringAux readCodePoint (fuel + 1) acc) ('\\' :: cs) read rest := by
    refine (reads_peek?_of_ascii (by decide)).bind ((reads_advance (by decide)).bind ?_)
    exact hread.bind (h fuel (by omega))
  have hletter {letter d : Char} (hascii : letter.toNat < 128) (hd : d = c) (hu : letter ≠ 'u')
      (hesc : escape? letter = some d) :
      Reads (readStringAux readCodePoint (fuel + 1) acc) ('\\' :: letter :: mid) read rest :=
    hescape (reads_readEscape hascii hu (hd ▸ hesc))
  unfold escaped at hfuel ⊢
  split_ifs at hfuel ⊢ with hquote hbackslash hnewline hreturn htab hbackspace hfeed hcontrol
  · exact hletter (by decide) hquote.symm (by decide) rfl
  · exact hletter (by decide) hbackslash.symm (by decide) rfl
  · exact hletter (by decide) hnewline.symm (by decide) rfl
  · exact hletter (by decide) hreturn.symm (by decide) rfl
  · exact hletter (by decide) htab.symm (by decide) rfl
  · exact hletter (by decide) (by rw [← hbackspace, Char.ofNat_toNat]) (by decide) rfl
  · exact hletter (by decide) (by rw [← hfeed, Char.ofNat_toNat]) (by decide) rfl
  · exact hescape (reads_readEscape_control hcontrol)
  · rw [Bytes.ofChars, List.flatMap_singleton] at hfuel
    have hplain := reads_readStringAux_plain hquote hbackslash hcontrol
      (h (fuel + 1 - (String.utf8EncodeChar c).length) (by omega))
    rwa [Nat.sub_add_cancel (by omega)] at hplain

/-- The characters of a string are read back up to its closing quote. -/
theorem reads_readStringAux (cs : List Char)
    (hfuel : (Bytes.ofChars (cs.flatMap escaped)).length < fuel) (acc : List UInt8) :
    Reads (readStringAux readCodePoint fuel acc) (cs.flatMap escaped ++ '"' :: rest)
      ((Bytes.ofChars cs).reverse ++ acc) rest := by
  induction cs generalizing fuel acc with
  | nil =>
      obtain ⟨fuel, rfl⟩ := Nat.exists_eq_add_one_of_ne_zero (Nat.ne_zero_of_lt hfuel)
      exact (reads_peek?_of_ascii (by decide)).bind ((reads_advance (by decide)).bind reads_pure)
  | cons c cs ih =>
      rw [List.flatMap_cons, Bytes.ofChars_append, List.length_append, Nat.add_comm] at hfuel
      rw [List.flatMap_cons, List.append_assoc, Bytes.ofChars, List.flatMap_cons,
        List.reverse_append, List.append_assoc]
      exact reads_readStringAux_escaped (fun _ hneeded => ih hneeded _) hfuel

end

/-- A written string is read back. -/
theorem reads_readString (s : String) (rest : List Char) :
    Reads readString (quotedChars s ++ rest) s rest := by
  have hfuel : (Bytes.ofChars (s.toList.flatMap escaped)).length <
      (Bytes.ofChars (s.toList.flatMap escaped ++ '"' :: rest)).length + 1 := by
    rw [Bytes.ofChars_append, List.length_append]
    omega
  have hquoted : quotedChars s ++ rest =
      ['"'] ++ (s.toList.flatMap escaped ++ '"' :: rest) := by simp [quotedChars]
  rw [hquoted]
  refine (reads_expectChars (List.forall_mem_singleton.mpr (by decide)) _).bind (reads_get.bind ?_)
  refine (reads_readStringAux s.toList hfuel []).bind ?_
  rw [List.append_nil, List.reverse_reverse, Bytes.fromUTF8?_ofChars]
  exact reads_pure

end Json.Reader

end SupportDesk
