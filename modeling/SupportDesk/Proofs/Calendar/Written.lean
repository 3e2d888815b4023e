/-
# Written moments are read back

A date is written with the year, month and day that are computed from its number, and these lead
back to the number.  The computation of the year takes leap days out of the day's place in its
era and divides by 365.  What is left is compared with the first day of every year of an era.

The time of day is written with its hour, minute and second, the second 60 standing for a leap
second, and with as many digits of the fraction as it needs.
-/

import Mathlib.Data.Int.SuccPred
import SupportDesk.Calendar.Moment
import SupportDesk.Proofs.Text.Digits

namespace SupportDesk

namespace Date

/-! ## The year of a day -/

/-- The place of a day in its era, without the leap days before it. -/
def withoutLeapDays (n : Int) : Int := n - n / 1460 + n / 36524 - n / 146096

/-- The place of the first day of a year of an era. -/
def firstOfYear (y : Int) : Int := 365 * y + y / 4 - y / 100

theorem withoutLeapDays_le {m n : Int} (h : m ≤ n) : withoutLeapDays m ≤ withoutLeapDays n := by
  induction n, h using Int.leInduction with
  | base => exact le_refl _
  | succ n _ ih =>
      refine ih.trans ?_
      unfold withoutLeapDays
      omega

/-- The first day of a year of an era is where the days without leap days reach the year. -/
theorem withoutLeapDays_firstOfYear (y : Fin 400) :
    365 * (y : Int) ≤ withoutLeapDays (firstOfYear y) ∧
      withoutLeapDays (firstOfYear (y + 1) - 1) < 365 * ((y : Int) + 1) := by
  revert y
  decide +kernel

/-- The year that is computed for a day of an era is the one in which it lies.  The last year of
an era has a leap day more than the others of its kind. -/
theorem year_spec {n y : Int} (hn : 0 ≤ n) (hlast : n ≤ 146096) (hy : withoutLeapDays n / 365 = y) :
    0 ≤ y ∧ y ≤ 399 ∧ firstOfYear y ≤ n ∧ (n < firstOfYear (y + 1) ∨ y = 399) := by
  have hlow : withoutLeapDays 0 ≤ withoutLeapDays n := withoutLeapDays_le hn
  have hhigh : withoutLeapDays n ≤ withoutLeapDays 146096 := withoutLeapDays_le hlast
  have hfirst : withoutLeapDays 0 = 0 := by decide
  have hend : withoutLeapDays 146096 = 145999 := by decide
  obtain ⟨hy0, hy399⟩ : 0 ≤ y ∧ y ≤ 399 := by omega
  have hbounds : ∀ k : Int, 0 ≤ k → k ≤ 399 → 365 * k ≤ withoutLeapDays (firstOfYear k) ∧
      withoutLeapDays (firstOfYear (k + 1) - 1) < 365 * (k + 1) := by
    intro k hk0 hk399
    obtain ⟨i, rfl⟩ := Int.eq_ofNat_of_zero_le hk0
    exact withoutLeapDays_firstOfYear ⟨i, by omega⟩
  refine ⟨hy0, hy399, ?_, ?_⟩
  · by_contra hbefore
    have hpos : 0 < y := by
      by_contra hzero
      obtain rfl : y = 0 := by omega
      exact hbefore hn
    have hle := withoutLeapDays_le (Int.le_sub_one_of_lt (not_le.mp hbefore))
    have hprevious := (hbounds (y - 1) (by omega) (by omega)).2
    rw [Int.sub_add_cancel] at hprevious
    omega
  · by_contra hafter
    obtain ⟨hnot, hne⟩ := not_or.mp hafter
    have hle := withoutLeapDays_le (not_lt.mp hnot)
    have hnext := (hbounds (y + 1) (by omega) (by omega)).1
    omega

/-- A year that has a place for a leap day is followed by a leap year. -/
theorem isLeapYear_of_last {n y era : Int} (hlast : n < firstOfYear (y + 1) ∨ y = 399)
    (hn : firstOfYear y + 365 ≤ n) :
    isLeapYear (y + era * 400 + 1) = true := by
  unfold firstOfYear at hlast hn
  simp only [isLeapYear, Bool.and_eq_true, Bool.or_eq_true, beq_iff_eq, bne_iff_ne]
  omega

/-! ## Months and days -/

/-- The month of a day by its place in a year that begins in March. -/
def monthAt (i : Int) : Int :=
  if (5 * i + 2) / 153 < 10 then (5 * i + 2) / 153 + 3 else (5 * i + 2) / 153 - 9

/-- The day of the month of a day by its place in a year that begins in March. -/
def dayAt (i : Int) : Int := i - (153 * ((5 * i + 2) / 153) + 2) / 5 + 1

/-- Every place of a year has its month and day, and the last one is a leap day. -/
theorem monthAt_dayAt (i : Fin 366) :
    1 ≤ monthAt i ∧ monthAt i ≤ 12 ∧ 1 ≤ dayAt i ∧
      (153 * (if monthAt i ≤ 2 then monthAt i + 9 else monthAt i - 3) + 2) / 5 + (dayAt i - 1) = i ∧
        (dayAt i ≤ monthLength 1 (monthAt i).toNat ∨ i = 365 ∧ monthAt i = 2 ∧ dayAt i = 29) := by
  revert i
  decide +kernel

/-- No month is shorter than in a common year. -/
theorem monthLength_one_le (year : Int) (month : Nat) :
    monthLength 1 month ≤ monthLength year month := by
  have hcommon : isLeapYear 1 = false := by decide
  unfold monthLength
  split
  · rw [hcommon]
    cases isLeapYear year <;> decide
  · exact le_refl _

/-- The date at a place of the year that begins in March of `year`. -/
def placed (year i : Int) : Civil :=
  ⟨year + (if monthAt i ≤ 2 then 1 else 0), (monthAt i).toNat, (dayAt i).toNat⟩

/-- A date leads back to its place. -/
theorem numberOf_placed (year : Int) (i : Fin 366) :
    numberOf (placed year i).year (placed year i).month (placed year i).day =
      year * 365 + year / 4 - year / 100 + year / 400 + i := by
  obtain ⟨hmonth1, -, hday1, hback, -⟩ := monthAt_dayAt i
  obtain ⟨month, hmonth⟩ := Int.eq_ofNat_of_zero_le (show 0 ≤ monthAt i by omega)
  obtain ⟨day, hday⟩ := Int.eq_ofNat_of_zero_le (show 0 ≤ dayAt i by omega)
  simp only [placed, hmonth, hday, Int.toNat_natCast] at hback ⊢
  by_cases hearly : month ≤ 2
  · have hearly' : (month : Int) ≤ 2 := by omega
    simp only [numberOf, if_pos hearly, if_pos hearly', Int.add_sub_cancel] at hback ⊢
    omega
  · have hearly' : ¬ (month : Int) ≤ 2 := by omega
    simp only [numberOf, if_neg hearly, if_neg hearly', Int.add_zero] at hback ⊢
    omega

/-- A date lies in its month if a year of 366 places ends with a leap day. -/
theorem placed_in_month {year : Int} {i : Fin 366}
    (hleap : (i : Int) = 365 → isLeapYear (year + 1) = true) :
    1 ≤ (placed year i).month ∧ (placed year i).month ≤ 12 ∧ 1 ≤ (placed year i).day ∧
      (placed year i).day ≤ monthLength (placed year i).year (placed year i).month := by
  obtain ⟨hmonth1, hmonth12, hday1, -, hlength⟩ := monthAt_dayAt i
  obtain ⟨month, hmonth⟩ := Int.eq_ofNat_of_zero_le (show 0 ≤ monthAt i by omega)
  obtain ⟨day, hday⟩ := Int.eq_ofNat_of_zero_le (show 0 ≤ dayAt i by omega)
  rw [hmonth] at hmonth1 hmonth12 hlength
  rw [hday] at hday1 hlength
  simp only [placed, hmonth, hday, Int.toNat_natCast] at hlength ⊢
  refine ⟨by omega, by omega, by omega, ?_⟩
  rcases hlength with hle | ⟨hlast, hfebruary, hleapDay⟩
  · exact (by omega : day ≤ monthLength 1 month).trans (monthLength_one_le _ month)
  · have hend : (i : Int) = 365 := by rw [hlast]; rfl
    obtain rfl : month = 2 := by omega
    rw [if_pos (by decide), monthLength, if_pos rfl, hleap hend, if_pos rfl]
    omega

/-- The year, month and day of a date lead back to its number. -/
theorem number_civil (d : Date) :
    numberOf d.civil.year d.civil.month d.civil.day = d.number ∧
      1 ≤ d.civil.month ∧ d.civil.month ≤ 12 ∧ 1 ≤ d.civil.day ∧
        d.civil.day ≤ monthLength d.civil.year d.civil.month := by
  generalize hera : d.number / 146097 = era
  generalize hplace : d.number % 146097 = n
  generalize hyear : withoutLeapDays n / 365 = y
  obtain ⟨hy0, hy399, hfirst, hlast⟩ := year_spec (by omega) (by omega) hyear
  have hyearLength : n - firstOfYear y ≤ 365 := by
    unfold firstOfYear at hlast ⊢
    omega
  obtain ⟨i, hi⟩ := Int.eq_ofNat_of_zero_le (sub_nonneg.mpr hfirst)
  have hcivil : d.civil = placed (y + era * 400) i := by
    simp only [civil, hera, hplace, placed, monthAt, dayAt, ← hi, ← hyear]
    rfl
  have hleap (hend : (i : Int) = 365) : isLeapYear (y + era * 400 + 1) = true :=
    isLeapYear_of_last hlast (by omega)
  have hnumber := numberOf_placed (y + era * 400) ⟨i, by omega⟩
  have hyears : (y + era * 400) * 365 + (y + era * 400) / 4 - (y + era * 400) / 100 +
      (y + era * 400) / 400 = era * 146097 + firstOfYear y := by
    unfold firstOfYear
    omega
  rw [hcivil]
  refine ⟨?_, placed_in_month (i := ⟨i, by omega⟩) hleap⟩
  rw [hnumber, hyears, ← hera, add_assoc, ← hi, add_sub_cancel, ← hplace]
  omega

/-- The day that is written is the one that is read. -/
theorem ofCivil?_civil (d : Date) : ofCivil? d.civil.year d.civil.month d.civil.day = some d := by
  obtain ⟨hnumber, hmonth1, hmonth12, hday1, hlength⟩ := d.number_civil
  rw [ofCivil?, if_pos ⟨hmonth1, hmonth12, hday1, hlength⟩, hnumber]
  exact dif_pos ⟨d.first_le, d.le_last⟩

end Date

namespace TimeOfDay

/-- What a clock face shows is the time of day, leap seconds included. -/
theorem ofClock?_shown (t : TimeOfDay) :
    ofClock? t.hour t.minute t.shownSecond t.shownNano = some t := by
  have hsecond := t.second_lt
  have hnano := t.nano_lt
  have hleap := t.minute_end_of_leap
  have hhours : t.second / 60 / 60 = t.second / 3600 := Nat.div_div_eq_div_mul t.second 60 60
  have hclock : t.hour < 24 ∧ t.minute < 60 ∧ t.shownSecond ≤ 60 ∧ t.shownNano < 1000000000 := by
    unfold hour minute shownSecond shownNano
    omega
  rw [ofClock?, dif_pos hclock]
  split
  next hshown =>
    refine congrArg some (eq_of_rank_eq ?_)
    simp only [shownSecond] at hshown
    simp only [rank, hour, minute, shownNano]
    have hleap := hleap (by omega)
    omega
  next hshown =>
    refine congrArg some (eq_of_rank_eq ?_)
    simp only [shownSecond] at hshown
    simp only [rank, hour, minute, shownSecond, shownNano]
    omega

/-- The digits of a fraction are read back, whichever of the three lengths it has. -/
theorem readFraction?_fixed {width n : Nat} (hwidth : 0 < width) (hnine : width ≤ 9)
    (hn : n < 10 ^ width) :
    readFraction? (Digits.fixed 10 width n) = some (n * 10 ^ (9 - width), []) := by
  have hlength := Digits.length_fixed 10 width n
  have hdigits : ∀ c ∈ Digits.fixed 10 width n, Digits.isDecimal c = true :=
    fun c hc => Digits.isDecimal_of_mem_fixed hc
  have hnone : ∀ c ∈ ([] : List Char).head?, Digits.isDecimal c = false := nofun
  obtain ⟨htake, hdrop⟩ := Digits.takeWhile_isDecimal hdigits hnone
  rw [List.append_nil] at htake hdrop
  have hsome : (Digits.fixed 10 width n).isEmpty = false := by
    rw [List.isEmpty_eq_false_iff, ← List.length_pos_iff, hlength]
    exact hwidth
  have hkept : (Digits.fixed 10 width n).take 9 = Digits.fixed 10 width n :=
    List.take_of_length_le (hlength.trans_le hnine)
  simp [readFraction?, htake, hdrop, hkept, hsome, Digits.readDecimal?_fixed hn, hlength]

theorem readOptionalFraction?_fractionChars {nano : Nat} (hnano : nano < 1000000000) :
    Moment.readOptionalFraction? (fractionChars nano) = some (nano, []) := by
  unfold fractionChars
  split
  next hzero => rw [hzero]; rfl
  next =>
    split
    next hmillis =>
      rw [Moment.readOptionalFraction?,
        readFraction?_fixed (by decide) (by decide) (by omega : nano / 1000000 < 10 ^ 3)]
      simp only [Option.some.injEq, Prod.mk.injEq, and_true]
      omega
    next =>
      split
      next hmicros =>
        rw [Moment.readOptionalFraction?,
          readFraction?_fixed (by decide) (by decide) (by omega : nano / 1000 < 10 ^ 6)]
        simp only [Option.some.injEq, Prod.mk.injEq, and_true]
        omega
      next =>
        rw [Moment.readOptionalFraction?, readFraction?_fixed (by decide) (by decide) hnano]
        simp

end TimeOfDay

namespace Moment

open Digits

variable {rest : List Char}

/-- A number after a sign is read back, if no digit follows it. -/
theorem signed_padded (n : Nat) (hrest : ∀ c ∈ rest.head?, isDecimal c = false) :
    readYear?.signed (padded 4 n ++ rest) = some (n, rest) := by
  have hlength : (padded 4 n).length ≤ (padded 4 n ++ rest).length := by simp
  have hread := TimeOfDay.readNumber?_append (padded_ne_nil 4 n)
    (fun c hc => isDecimal_of_mem_padded hc) hlength (.inr hrest) (readDecimal?_padded 4 n)
  cases hdigits : padded 4 n with
  | nil => exact absurd hdigits (padded_ne_nil 4 n)
  | cons c more =>
      have hc : isDecimal c = true := isDecimal_of_mem_padded (hdigits ▸ List.mem_cons_self)
      rw [hdigits] at hread
      simpa only [List.cons_append, readYear?.signed, hc, if_true] using hread

/-- A year of four digits is read back without a sign. -/
theorem readYear?_padded {n : Nat} (hn : n < 10 ^ 4) (rest : List Char) :
    readYear? (padded 4 n ++ rest) = some ((n : Int), rest) := by
  have hread := TimeOfDay.readNumber?_padded (by decide) hn rest
  cases hdigits : padded 4 n with
  | nil => exact absurd hdigits (padded_ne_nil 4 _)
  | cons c more =>
      have hc : isDecimal c = true := isDecimal_of_mem_padded (hdigits ▸ List.mem_cons_self)
      have hminus : c ≠ '-' := by rintro rfl; cases hc
      have hplus : c ≠ '+' := by rintro rfl; cases hc
      have htrim : Blank.trimLeft (c :: (more ++ rest)) = c :: (more ++ rest) := by
        simp [Blank.trimLeft, Blank.isBlank_of_isDecimal hc]
      rw [hdigits, List.cons_append] at hread
      rw [List.cons_append, readYear?, htrim]
      split
      next heq => exact absurd (List.cons.inj heq).1 hminus
      next heq => exact absurd (List.cons.inj heq).1 hplus
      next =>
        rw [hread]
        rfl

/-- A written year is read back, with its sign if it has one. -/
theorem readYear?_yearChars (year : Int) (hrest : ∀ c ∈ rest.head?, isDecimal c = false) :
    readYear? (Date.yearChars year ++ rest) = some (year, rest) := by
  unfold Date.yearChars
  split
  next hnegative =>
    have htrim : Blank.trimLeft ('-' :: (padded 4 year.natAbs ++ rest)) =
        '-' :: (padded 4 year.natAbs ++ rest) := rfl
    have hback : -(year.natAbs : Int) = year := by omega
    simp only [List.cons_append, readYear?, htrim, signed_padded _ hrest, Option.map_some, hback]
  next hpositive =>
    have hback : (year.toNat : Int) = year := by omega
    split
    next hshort => rw [readYear?_padded (by omega), hback]
    next hlong =>
      have htrim : Blank.trimLeft ('+' :: (padded 4 year.toNat ++ rest)) =
          '+' :: (padded 4 year.toNat ++ rest) := rfl
      simp only [List.cons_append, readYear?, htrim, signed_padded _ hrest, Option.map_some, hback]

theorem expectSpaced?_cons {c : Char} (hc : Blank.isBlank c = false) :
    expectSpaced? c (c :: rest) = some rest := by
  simp [expectSpaced?, Blank.trimLeft, hc, TimeOfDay.expect?]

/-- A written moment is read back. -/
theorem parse?_text (m : Moment) : parse? m.text = some m := by
  obtain ⟨hnumber, hmonth1, hmonth12, hday1, hlength⟩ := m.date.number_civil
  have hday : m.date.civil.day ≤ 31 := by
    refine hlength.trans ?_
    unfold Date.monthLength
    split <;> split <;> decide
  have hnano : m.time.shownNano < 1000000000 := Nat.mod_lt _ (by decide)
  have hsecond := m.time.second_lt
  have hminute : m.time.minute < 10 ^ 2 := (Nat.mod_lt _ (by decide)).trans (by decide)
  have hhour : m.time.hour < 10 ^ 2 := by unfold TimeOfDay.hour; omega
  have hshown : m.time.shownSecond < 10 ^ 2 := by
    have := m.time.nano_lt
    unfold TimeOfDay.shownSecond
    omega
  have htwo {n : Nat} (hn : n < 10 ^ 2) (rest : List Char) :=
    TimeOfDay.readNumber?_padded (by decide : 0 < 2) hn rest
  have hdash : Blank.isBlank '-' = false := by decide
  have hcolon : Blank.isBlank ':' = false := by decide
  have htee : Blank.isBlank 'T' = false := by decide
  have hyear {c : Char} {rest : List Char} (hc : isDecimal c = false) :
      readYear? (Date.yearChars m.date.civil.year ++ c :: rest) =
        some (m.date.civil.year, c :: rest) := by
    refine readYear?_yearChars _ ?_
    rintro _ ⟨⟩
    exact hc
  rw [parse?, text, String.toList_ofList]
  simp only [chars, Date.chars, TimeOfDay.chars, List.append_assoc, List.cons_append]
  refine Option.bind_eq_some_iff.mpr ⟨_, hyear (by decide), ?_⟩
  refine Option.bind_eq_some_iff.mpr ⟨_, expectSpaced?_cons hdash, ?_⟩
  refine Option.bind_eq_some_iff.mpr ⟨_, htwo (by omega) _, ?_⟩
  refine Option.bind_eq_some_iff.mpr ⟨_, expectSpaced?_cons hdash, ?_⟩
  refine Option.bind_eq_some_iff.mpr ⟨_, htwo (by omega) _, ?_⟩
  refine Option.bind_eq_some_iff.mpr ⟨_, expectSpaced?_cons htee, ?_⟩
  refine Option.bind_eq_some_iff.mpr ⟨_, htwo hhour _, ?_⟩
  refine Option.bind_eq_some_iff.mpr ⟨_, expectSpaced?_cons hcolon, ?_⟩
  refine Option.bind_eq_some_iff.mpr ⟨_, htwo hminute _, ?_⟩
  refine Option.bind_eq_some_iff.mpr ⟨_, expectSpaced?_cons hcolon, ?_⟩
  refine Option.bind_eq_some_iff.mpr ⟨_, htwo hshown _, ?_⟩
  refine Option.bind_eq_some_iff.mpr
    ⟨_, TimeOfDay.readOptionalFraction?_fractionChars hnano, ?_⟩
  simp only [Date.ofCivil?_civil, TimeOfDay.ofClock?_shown]
  rfl

end Moment

end SupportDesk
