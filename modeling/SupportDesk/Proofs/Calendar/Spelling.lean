/-
# How a time of day may be spelled

A time of day is read from one of two forms, `H:M:S` and `H:M`, with blanks around it.  A number is
one digit or two after any blanks, and nothing else stands between the numbers but a colon each, nor
after the last one.  This is said here without the readers, by the pieces of which a text is made.

The readers take as many digits as there are, up to two, and do not go back.  Nothing is lost by
that: a number is followed by a colon or by the end of the text, and neither is a digit.

No number has a colon in it.  A text in one form therefore has two colons and one in the other form
has one, so that no text has both.
-/

import SupportDesk.Proofs.Calendar.Written
import SupportDesk.Proofs.Text.Blanks

namespace SupportDesk

namespace Digits

/-- Every digit is that of its value. -/
theorem exists_value_of_isDecimal {c : Char} (hc : isDecimal c = true) :
    ∃ d < 10, c = ofValue d := by
  obtain ⟨hlow, hhigh⟩ := isDecimal_iff.mp hc
  refine ⟨c.toNat - 48, by omega, ?_⟩
  rw [ofValue, if_pos (by omega), Nat.add_sub_cancel' hlow, Char.ofNat_toNat]

end Digits

namespace TimeOfDay

open Digits Blank

/-! ## What is written -/

/-- One digit or two, and the number that they denote. -/
inductive Numeral : Nat → List Char → Prop
  | one {d : Nat} (hd : d < 10) : Numeral d [ofValue d]
  | two {d e : Nat} (hd : d < 10) (he : e < 10) : Numeral (10 * d + e) [ofValue d, ofValue e]

/-- A number as it stands in a time of day, after any blanks. -/
def Field (n : Nat) (cs : List Char) : Prop :=
  ∃ blanks digits, AllBlank blanks ∧ Numeral n digits ∧ cs = blanks ++ digits

/-- The form `H:M:S`. -/
def SpellsHMS (hour minute second : Nat) (cs : List Char) : Prop :=
  ∃ h m s, Field hour h ∧ Field minute m ∧ Field second s ∧ cs = h ++ ':' :: (m ++ ':' :: s)

/-- The form `H:M`. -/
def SpellsHM (hour minute : Nat) (cs : List Char) : Prop :=
  ∃ h m, Field hour h ∧ Field minute m ∧ cs = h ++ ':' :: m

/-- A text in one of the forms, with the hour, the minute and the second that it gives.  A second
that is not written is zero. -/
def Spells (hour minute second : Nat) (cs : List Char) : Prop :=
  SpellsHMS hour minute second cs ∨ SpellsHM hour minute cs ∧ second = 0

/-- The time is that of an hour, minute and second of the day, on the second.  The second 60 is the
leap second of its minute, which begins when the second 59 is over. -/
structure IsAt (t : TimeOfDay) (hour minute second : Nat) : Prop where
  second_eq : t.second = hour * 3600 + minute * 60 + min second 59
  nano_eq : t.nano = if second = 60 then 1000000000 else 0

variable {h m s : Nat} {t u : TimeOfDay}

/-- There is one time only of an hour, minute and second. -/
theorem IsAt.unique (ht : t.IsAt h m s) (hu : u.IsAt h m s) : t = u := by
  apply eq_of_rank_eq
  rw [rank, rank, ht.second_eq, ht.nano_eq, hu.second_eq, hu.nano_eq]

/-- There is one for each hour of the day, minute of the hour and second of the minute, the leap
second included. -/
theorem exists_ofClock? (hh : h < 24) (hm : m < 60) (hs : s ≤ 60) :
    ∃ t, ofClock? h m s 0 = some t ∧ t.IsAt h m s := by
  have hclock : h < 24 ∧ m < 60 ∧ s ≤ 60 ∧ 0 < 1000000000 := ⟨hh, hm, hs, by decide⟩
  rw [ofClock?, dif_pos hclock]
  split
  next hleap => exact ⟨_, rfl, by simp [hleap], by simp [hleap]⟩
  next hordinary => exact ⟨_, rfl, by dsimp only; omega, by simp [hordinary]⟩

theorem ofClock?_eq_some_iff :
    ofClock? h m s 0 = some t ↔ h < 24 ∧ m < 60 ∧ s ≤ 60 ∧ t.IsAt h m s := by
  constructor
  · intro ht
    by_cases hclock : h < 24 ∧ m < 60 ∧ s ≤ 60 ∧ 0 < 1000000000
    · obtain ⟨hh, hm, hs, -⟩ := hclock
      obtain ⟨u, hu, hat⟩ := exists_ofClock? hh hm hs
      cases hu.symm.trans ht
      exact ⟨hh, hm, hs, hat⟩
    · rw [ofClock?, dif_neg hclock] at ht
      cases ht
  · rintro ⟨hh, hm, hs, hat⟩
    obtain ⟨u, hu, hat'⟩ := exists_ofClock? hh hm hs
    rw [hu, hat'.unique hat]

/-! ## Numbers -/

variable {n : Nat} {digits field cs rest : List Char}

/-- A numeral is one digit or two, and denotes the number that is read from it. -/
theorem numeral_iff : Numeral n digits ↔ digits ≠ [] ∧ digits.length ≤ 2 ∧
    (∀ c ∈ digits, isDecimal c = true) ∧ readDecimal? digits = some n := by
  constructor
  · intro h
    cases h with
    | one hd => simp [readDecimal?, isDecimal_ofValue hd, decimalValue?_ofValue hd]
    | two hd he =>
        simp [readDecimal?, isDecimal_ofValue hd, isDecimal_ofValue he, decimalValue?_ofValue hd,
          decimalValue?_ofValue he, mul_comm]
  · rintro ⟨hne, hlength, hdigits, hread⟩
    rcases digits with _ | ⟨c, _ | ⟨c', _ | ⟨c'', more⟩⟩⟩
    · exact absurd rfl hne
    · obtain ⟨d, hd, rfl⟩ := exists_value_of_isDecimal (hdigits c List.mem_cons_self)
      obtain rfl : d = n := by simpa [readDecimal?, decimalValue?_ofValue hd] using hread
      exact .one hd
    · obtain ⟨d, hd, rfl⟩ := exists_value_of_isDecimal (hdigits c (by simp))
      obtain ⟨e, he, rfl⟩ := exists_value_of_isDecimal (hdigits c' (by simp))
      obtain rfl : 10 * d + e = n := by
        simpa [readDecimal?, decimalValue?_ofValue hd, decimalValue?_ofValue he, mul_comm]
          using hread
      exact .two hd he
    · simp at hlength

/-- A number is taken off the front of a text, if no digit follows. -/
theorem readNumber?_field (hfield : Field n field)
    (hrest : ∀ c ∈ rest.head?, isDecimal c = false) :
    readNumber? 2 (field ++ rest) = some (n, rest) := by
  obtain ⟨blanks, digits, hblanks, hnumeral, rfl⟩ := hfield
  obtain ⟨hne, hlength, hdigits, hread⟩ := numeral_iff.mp hnumeral
  have hskip : readNumber? 2 (blanks ++ (digits ++ rest)) = readNumber? 2 (digits ++ rest) := by
    rw [readNumber?, trimLeft_append hblanks, readNumber?]
  rw [List.append_assoc, hskip]
  exact readNumber?_append hne hdigits hlength (.inr hrest) hread

/-- Whatever is taken off the front is a number. -/
theorem exists_field_of_readNumber? (hread : readNumber? 2 cs = some (n, rest)) :
    ∃ field, Field n field ∧ cs = field ++ rest := by
  obtain ⟨blanks, hblanks, hcs⟩ := exists_trimLeft cs
  dsimp only [readNumber?] at hread
  generalize hdigits : ((trimLeft cs).take 2).takeWhile isDecimal = digits at hread
  have hmem : ∀ c ∈ digits, isDecimal c = true := by
    rw [← hdigits]
    exact fun _ => List.mem_takeWhile_imp
  have hprefix : digits <+: trimLeft cs := by
    rw [← hdigits]
    exact (List.takeWhile_prefix _).trans (List.take_prefix _ _)
  have hlength : digits.length ≤ 2 := by
    rw [← hdigits]
    exact (List.takeWhile_prefix _).length_le.trans (List.length_take_le _ _)
  split at hread
  next => cases hread
  next hne =>
    obtain ⟨k, hk, hpair⟩ := Option.map_eq_some_iff.mp hread
    obtain ⟨rfl, rfl⟩ := Prod.mk.inj hpair
    have hnumeral := numeral_iff.mpr ⟨by simpa using hne, hlength, hmem, hk⟩
    refine ⟨blanks ++ digits, ⟨blanks, digits, hblanks, hnumeral, rfl⟩, ?_⟩
    rw [List.append_assoc, List.prefix_iff_eq_append.mp hprefix, ← hcs]

theorem expect?_eq_some_iff {c : Char} : expect? c cs = some rest ↔ cs = c :: rest := by
  cases cs with
  | nil => simp [expect?]
  | cons x cs =>
      rw [expect?]
      split <;> simp_all

/-- A number and a colon after it. -/
theorem readNumber?_colon_iff :
    (∃ after, readNumber? 2 cs = some (n, after) ∧ expect? ':' after = some rest) ↔
      ∃ field, Field n field ∧ cs = field ++ ':' :: rest := by
  constructor
  · rintro ⟨after, hread, hcolon⟩
    obtain rfl := expect?_eq_some_iff.mp hcolon
    exact exists_field_of_readNumber? hread
  · rintro ⟨field, hfield, rfl⟩
    have hcolon : ∀ c ∈ (':' :: rest).head?, isDecimal c = false := by
      rintro _ ⟨⟩
      decide
    exact ⟨_, readNumber?_field hfield hcolon, expect?_eq_some_iff.mpr rfl⟩

/-- A number and nothing after it. -/
theorem readNumber?_end_iff : readNumber? 2 cs = some (n, []) ↔ Field n cs := by
  constructor
  · intro hread
    obtain ⟨field, hfield, rfl⟩ := exists_field_of_readNumber? hread
    rwa [List.append_nil]
  · intro hfield
    have hread : readNumber? 2 (cs ++ []) = some (n, []) := readNumber?_field hfield nofun
    rwa [List.append_nil] at hread

theorem Field.count_colon (hfield : Field n field) : field.count ':' = 0 := by
  obtain ⟨blanks, digits, hblanks, hnumeral, rfl⟩ := hfield
  obtain ⟨-, -, hdigits, -⟩ := numeral_iff.mp hnumeral
  rw [List.count_eq_zero, List.mem_append, not_or]
  constructor
  · intro hc
    cases hblanks _ hc
  · intro hc
    cases hdigits _ hc

/-! ## Forms -/

theorem readHMS?_eq_some_iff : readHMS? cs = some t ↔
    ∃ h m s, SpellsHMS h m s cs ∧ ofClock? h m s 0 = some t := by
  constructor
  · intro hread
    obtain ⟨⟨h, afterHour⟩, hhour, hread⟩ := Option.bind_eq_some_iff.mp hread
    obtain ⟨minutes, hcolon, hread⟩ := Option.bind_eq_some_iff.mp hread
    obtain ⟨⟨m, afterMinute⟩, hminute, hread⟩ := Option.bind_eq_some_iff.mp hread
    obtain ⟨seconds, hcolon', hread⟩ := Option.bind_eq_some_iff.mp hread
    obtain ⟨⟨s, afterSecond⟩, hsecond, hread⟩ := Option.bind_eq_some_iff.mp hread
    obtain ⟨hend, hclock⟩ := Option.ite_none_right_eq_some.mp hread
    obtain rfl : afterSecond = [] := List.isEmpty_iff.mp hend
    obtain ⟨hourField, hh, rfl⟩ := readNumber?_colon_iff.mp ⟨_, hhour, hcolon⟩
    obtain ⟨minuteField, hm, rfl⟩ := readNumber?_colon_iff.mp ⟨_, hminute, hcolon'⟩
    exact ⟨h, m, s, ⟨_, _, _, hh, hm, readNumber?_end_iff.mp hsecond, rfl⟩, hclock⟩
  · rintro ⟨h, m, s, ⟨hourField, minuteField, secondField, hh, hm, hs, rfl⟩, hclock⟩
    obtain ⟨afterHour, hhour, hcolon⟩ := readNumber?_colon_iff.mpr ⟨_, hh, rfl⟩
    obtain ⟨afterMinute, hminute, hcolon'⟩ := readNumber?_colon_iff.mpr ⟨_, hm, rfl⟩
    refine Option.bind_eq_some_iff.mpr ⟨_, hhour, ?_⟩
    refine Option.bind_eq_some_iff.mpr ⟨_, hcolon, ?_⟩
    refine Option.bind_eq_some_iff.mpr ⟨_, hminute, ?_⟩
    refine Option.bind_eq_some_iff.mpr ⟨_, hcolon', ?_⟩
    exact Option.bind_eq_some_iff.mpr ⟨_, readNumber?_end_iff.mpr hs, hclock⟩

theorem readHM?_eq_some_iff : readHM? cs = some t ↔
    ∃ h m, SpellsHM h m cs ∧ ofClock? h m 0 0 = some t := by
  constructor
  · intro hread
    obtain ⟨⟨h, afterHour⟩, hhour, hread⟩ := Option.bind_eq_some_iff.mp hread
    obtain ⟨minutes, hcolon, hread⟩ := Option.bind_eq_some_iff.mp hread
    obtain ⟨⟨m, afterMinute⟩, hminute, hread⟩ := Option.bind_eq_some_iff.mp hread
    obtain ⟨hend, hclock⟩ := Option.ite_none_right_eq_some.mp hread
    obtain rfl : afterMinute = [] := List.isEmpty_iff.mp hend
    obtain ⟨hourField, hh, rfl⟩ := readNumber?_colon_iff.mp ⟨_, hhour, hcolon⟩
    exact ⟨h, m, ⟨_, _, hh, readNumber?_end_iff.mp hminute, rfl⟩, hclock⟩
  · rintro ⟨h, m, ⟨hourField, minuteField, hh, hm, rfl⟩, hclock⟩
    obtain ⟨afterHour, hhour, hcolon⟩ := readNumber?_colon_iff.mpr ⟨_, hh, rfl⟩
    refine Option.bind_eq_some_iff.mpr ⟨_, hhour, ?_⟩
    refine Option.bind_eq_some_iff.mpr ⟨_, hcolon, ?_⟩
    exact Option.bind_eq_some_iff.mpr ⟨_, readNumber?_end_iff.mpr hm, hclock⟩

/-- The two forms differ in the number of colons. -/
theorem SpellsHMS.count_colon (hspells : SpellsHMS h m s cs) : cs.count ':' = 2 := by
  obtain ⟨hourField, minuteField, secondField, hh, hm, hs, rfl⟩ := hspells
  simp [List.count_append, hh.count_colon, hm.count_colon, hs.count_colon]

theorem SpellsHM.count_colon (hspells : SpellsHM h m cs) : cs.count ':' = 1 := by
  obtain ⟨hourField, minuteField, hh, hm, rfl⟩ := hspells
  simp [List.count_append, hh.count_colon, hm.count_colon]

/-- No text is in both forms. -/
theorem readHMS?_or_readHM? (cs : List Char) : readHMS? cs = none ∨ readHM? cs = none := by
  cases hfull : readHMS? cs with
  | none => exact .inl rfl
  | some a =>
      cases hshort : readHM? cs with
      | none => exact .inr rfl
      | some b =>
          obtain ⟨_, _, _, hspells, -⟩ := readHMS?_eq_some_iff.mp hfull
          obtain ⟨_, _, hspells', -⟩ := readHM?_eq_some_iff.mp hshort
          have hcolons := hspells.count_colon.symm.trans hspells'.count_colon
          contradiction

/-- The two forms together. -/
theorem spelled_iff : readHMS? cs = some t ∨ readHM? cs = some t ↔
    ∃ h m s, Spells h m s cs ∧ h < 24 ∧ m < 60 ∧ s ≤ 60 ∧ t.IsAt h m s := by
  simp only [readHMS?_eq_some_iff, readHM?_eq_some_iff, ofClock?_eq_some_iff, Spells]
  constructor
  · rintro (⟨h, m, s, hspells, hclock⟩ | ⟨h, m, hspells, hclock⟩)
    · exact ⟨h, m, s, .inl hspells, hclock⟩
    · exact ⟨h, m, 0, .inr ⟨hspells, rfl⟩, hclock⟩
  · rintro ⟨h, m, s, hspells | ⟨hspells, rfl⟩, hclock⟩
    · exact .inl ⟨h, m, s, hspells, hclock⟩
    · exact .inr ⟨h, m, hspells, hclock⟩

/-! ## Texts -/

variable {text : String}

/-- What is read is the core of a text, in one of the forms. -/
theorem parse?_eq_some_iff : parse? text = some t ↔ ∃ core, HasCore text.toList core ∧
    ∃ h m s, Spells h m s core ∧ h < 24 ∧ m < 60 ∧ s ≤ 60 ∧ t.IsAt h m s := by
  simp only [← trim_eq_iff, exists_eq_left', ← spelled_iff]
  rcases readHMS?_or_readHM? (trim text.toList) with hnone | hnone <;> simp [parse?, hnone]

/-- Blanks may stand before a number and not after it, and it has two digits at most. -/
example : parse? "7 :05" = none ∧ parse? "7:05:007" = none := by decide +kernel

/-- It does not matter which form is tried first. -/
theorem parse?_eq_of_either (text : String) :
    parse? text = (readHM? (trim text.toList) <|> readHMS? (trim text.toList)) := by
  rcases readHMS?_or_readHM? (trim text.toList) with hnone | hnone <;> simp [parse?, hnone]

/-! ## Written times -/

/-- Numbers below a hundred are fields with two digits. -/
theorem field_padded {n : Nat} (hn : n < 10 ^ 2) : Field n (padded 2 n) :=
  ⟨[], padded 2 n, nofun, numeral_iff.mpr ⟨padded_ne_nil 2 n, (length_padded (by decide) hn).le,
    fun _ => isDecimal_of_mem_padded, readDecimal?_padded 2 n⟩, rfl⟩

theorem hasCore_padded {before after : List Char} (hbefore : AllBlank before)
    (hafter : AllBlank after) (a b : Nat) (between : List Char) :
    HasCore (before ++ (padded 2 a ++ between ++ padded 2 b) ++ after)
      (padded 2 a ++ between ++ padded 2 b) := by
  refine ⟨⟨before, after, hbefore, hafter, rfl⟩, ?_, ?_⟩
  · intro c hc
    rw [List.append_assoc, List.head?_append_of_ne_nil _ (padded_ne_nil 2 a)] at hc
    exact isBlank_of_isDecimal (isDecimal_of_mem_padded (List.mem_of_mem_head? hc))
  · intro c hc
    rw [List.getLast?_append_of_ne_nil _ (padded_ne_nil 2 b)] at hc
    exact isBlank_of_isDecimal (isDecimal_of_mem_padded (List.mem_of_mem_getLast? hc))

/-- What a clock face shows of a time in whole seconds is the time. -/
theorem isAt_shown (hwhole : t.shownNano = 0) :
    t.hour < 24 ∧ t.minute < 60 ∧ t.shownSecond ≤ 60 ∧ t.IsAt t.hour t.minute t.shownSecond := by
  have hclock := t.ofClock?_shown
  rw [hwhole] at hclock
  exact ofClock?_eq_some_iff.mp hclock

/-- A time in whole seconds is read back from `HH:MM:SS`. -/
theorem parse?_text_of_whole (hwhole : t.shownNano = 0) {before after : String}
    (hbefore : AllBlank before.toList) (hafter : AllBlank after.toList) :
    parse? (before ++ t.text ++ after) = some t := by
  obtain ⟨hh, hm, hs, hat⟩ := isAt_shown hwhole
  have hchars : t.text.toList = padded 2 t.hour ++ (':' :: (padded 2 t.minute ++ [':'])) ++
      padded 2 t.shownSecond := by
    simp [text, chars, hwhole, fractionChars]
  have hspells : SpellsHMS t.hour t.minute t.shownSecond t.text.toList :=
    ⟨_, _, _, field_padded (by omega), field_padded (by omega), field_padded (by omega),
      by simp [hchars]⟩
  refine parse?_eq_some_iff.mpr ⟨_, ?_, _, _, _, .inl hspells, hh, hm, hs, hat⟩
  rw [String.toList_append, String.toList_append, hchars]
  exact hasCore_padded hbefore hafter ..

/-- A time in whole minutes is read back from `HH:MM`. -/
theorem parse?_hoursMinutes (hwhole : t.shownNano = 0) (hminute : t.shownSecond = 0)
    {before after : String} (hbefore : AllBlank before.toList) (hafter : AllBlank after.toList) :
    parse? (before ++ t.hoursMinutes ++ after) = some t := by
  obtain ⟨hh, hm, hs, hat⟩ := isAt_shown hwhole
  rw [hminute] at hs hat
  have hchars : t.hoursMinutes.toList = padded 2 t.hour ++ [':'] ++ padded 2 t.minute := by
    simp [hoursMinutes]
  have hspells : SpellsHM t.hour t.minute t.hoursMinutes.toList :=
    ⟨_, _, field_padded (by omega), field_padded (by omega), by simp [hchars]⟩
  refine parse?_eq_some_iff.mpr ⟨_, ?_, _, _, _, .inr ⟨hspells, rfl⟩, hh, hm, hs, hat⟩
  rw [String.toList_append, String.toList_append, hchars]
  exact hasCore_padded hbefore hafter ..

/-- A text is read as a time of day if and only if it is one of the two forms with blanks around it,
its hour is before 24, its minute before 60 and its second at most 60, and the time is that of this
hour, minute and second.  No text can be read in both forms, so that the order in which they are
tried plays no part.  Every time in whole seconds that is written as `HH:MM:SS`, and every time in
whole minutes that is written as `HH:MM`, is read back, whatever blanks are put around it. -/
theorem read_exactly_as_spelled :
    (∀ (text : String) (t : TimeOfDay), parse? text = some t ↔ ∃ core, HasCore text.toList core ∧
      ∃ h m s, Spells h m s core ∧ h < 24 ∧ m < 60 ∧ s ≤ 60 ∧ t.IsAt h m s) ∧
    (∀ text : String, (∃ t, parse? text = some t) ↔ ∃ core, HasCore text.toList core ∧
      ∃ h m s, Spells h m s core ∧ h < 24 ∧ m < 60 ∧ s ≤ 60) ∧
    (∀ cs, readHMS? cs = none ∨ readHM? cs = none) ∧
    (∀ text, parse? text = (readHM? (trim text.toList) <|> readHMS? (trim text.toList))) ∧
    ∀ (t : TimeOfDay) (before after : String), t.shownNano = 0 →
      AllBlank before.toList → AllBlank after.toList →
      parse? (before ++ t.text ++ after) = some t ∧
      (t.shownSecond = 0 → parse? (before ++ t.hoursMinutes ++ after) = some t) := by
  refine ⟨fun _ _ => parse?_eq_some_iff, ?_, readHMS?_or_readHM?, parse?_eq_of_either, ?_⟩
  · intro text
    constructor
    · rintro ⟨t, ht⟩
      obtain ⟨core, hcore, h, m, s, hspells, hh, hm, hs, -⟩ := parse?_eq_some_iff.mp ht
      exact ⟨core, hcore, h, m, s, hspells, hh, hm, hs⟩
    · rintro ⟨core, hcore, h, m, s, hspells, hh, hm, hs⟩
      obtain ⟨t, -, hat⟩ := exists_ofClock? hh hm hs
      exact ⟨t, parse?_eq_some_iff.mpr ⟨core, hcore, h, m, s, hspells, hh, hm, hs, hat⟩⟩
  · intro t before after hwhole hbefore hafter
    exact ⟨parse?_text_of_whole hwhole hbefore hafter,
      fun hminute => parse?_hoursMinutes hwhole hminute hbefore hafter⟩

/-- Blanks are passed over around a text and before its numbers, whether they are ASCII or not, and
the second 60 is read as the leap second.  This one is read back with its seconds, and the minute
after it without. -/
theorem read_exactly_as_spelled_leap :
    let text := "\u3000 7: 05:60\u0085"
    let leap : TimeOfDay := ⟨25559, 1000000000, by decide, by decide, by decide⟩
    let next : TimeOfDay := ⟨25560, 0, by decide, by decide, by decide⟩
    HasCore text.toList "7: 05:60".toList ∧ Spells 7 5 60 "7: 05:60".toList ∧
      parse? text = some leap ∧
      AllBlank "\t".toList ∧ AllBlank "\u2003".toList ∧
      leap.shownNano = 0 ∧ parse? ("\t" ++ leap.text ++ "\u2003") = some leap ∧
      next.shownSecond = 0 ∧ parse? ("\t" ++ next.hoursMinutes ++ "\u2003") = some next := by
  intro text leap next
  obtain ⟨hreads, -, -, -, hback⟩ := read_exactly_as_spelled
  have hcore : HasCore text.toList "7: 05:60".toList := trim_eq_iff.mp (by decide +kernel)
  have hspells : Spells 7 5 60 "7: 05:60".toList := by
    refine .inl ⟨['7'], [' ', '0', '5'], ['6', '0'], ⟨[], _, nofun, ?_, rfl⟩,
      ⟨[' '], _, by decide, ?_, rfl⟩, ⟨[], _, nofun, ?_, rfl⟩, by decide +kernel⟩
    · exact .one (by decide : 7 < 10)
    · exact .two (by decide : 0 < 10) (by decide : 5 < 10)
    · exact .two (by decide : 6 < 10) (by decide : 0 < 10)
  have hbefore : AllBlank "\t".toList := by decide +kernel
  have hafter : AllBlank "\u2003".toList := by decide +kernel
  have hleap : leap.shownNano = 0 := by decide
  have hnext : next.shownNano = 0 ∧ next.shownSecond = 0 := by decide
  refine ⟨hcore, hspells, ?_, hbefore, hafter, hleap, ?_, hnext.2, ?_⟩
  · exact (hreads _ _).mpr
      ⟨_, hcore, 7, 5, 60, hspells, by decide, by decide, by decide, by decide, by decide⟩
  · exact (hback leap _ _ hleap hbefore hafter).1
  · exact (hback next _ _ hnext.1 hbefore hafter).2 hnext.2

end TimeOfDay

end SupportDesk
