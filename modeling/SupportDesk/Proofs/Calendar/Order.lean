/-
# The order of moments

Times of day and moments are linearly ordered, moments first by their date.  Adding a span
that is not negative never goes back, also around a leap second, and it stays within the day
exactly when no day is carried.
-/

import Mathlib
import SupportDesk.Calendar.Moment

namespace SupportDesk

namespace TimeOfDay

instance : LinearOrder TimeOfDay where
  le_refl a := Nat.le_refl a.rank
  le_trans _ _ _ := Nat.le_trans
  le_antisymm _ _ hab hba := eq_of_rank_eq (Nat.le_antisymm hab hba)
  le_total a b := Nat.le_total a.rank b.rank
  lt_iff_le_not_ge _ _ := Nat.lt_iff_le_and_not_ge
  toDecidableLE := inferInstance

theorem midnight_le (t : TimeOfDay) : midnight ≤ t := Nat.zero_le t.rank

/-- A span that is not negative splits into whole seconds and a fraction below one second. -/
theorem split_of_nonneg {d : Duration} (hd : 0 ≤ d.nanos) :
    d.wholeSeconds = d.nanos / 1000000000 ∧ d.fraction = d.nanos % 1000000000 :=
  ⟨Int.tdiv_eq_ediv_of_nonneg hd, Int.tmod_eq_emod_of_nonneg hd⟩

/-- A span that is not negative carries days forward, and within the day it does not go back. -/
theorem addCarry_of_nonneg (t : TimeOfDay) {d : Duration} (hd : 0 ≤ d.nanos) :
    0 ≤ (t.addCarry d).2 ∧ ((t.addCarry d).2 = 0 → t ≤ (t.addCarry d).1) := by
  obtain ⟨hwhole, hfraction⟩ := split_of_nonneg hd
  have hsecond := t.second_lt
  have hnano := t.nano_lt
  rw [le_iff_rank]
  unfold addCarry
  split
  next hordinary =>
    simp only [ofSinceMidnight, sinceMidnight, rank, perDay, Duration.perSecond]
    omega
  next hleap =>
    split
    next hleaves =>
      simp only [ofSinceMidnight, sinceMidnight, rank, perDay, Duration.perSecond]
      omega
    next hstays =>
      rw [if_neg (by omega)]
      split
      next => simp only [rank]; omega
      next => exact ⟨le_refl 0, fun _ => le_refl _⟩

/-- A span that stays within the day from some time on stays within it from midnight on. -/
theorem addCarry_midnight {t : TimeOfDay} {d : Duration} (hd : 0 ≤ d.nanos)
    (h : (t.addCarry d).2 = 0) : (midnight.addCarry d).2 = 0 := by
  obtain ⟨hwhole, hfraction⟩ := split_of_nonneg hd
  have hmidnight : (midnight.addCarry d).2 = d.nanos / perDay := by
    simp [addCarry, midnight, ofSinceMidnight, sinceMidnight]
  rw [hmidnight]
  have hnano := t.nano_lt
  unfold addCarry at h
  split at h
  next hordinary =>
    simp only [ofSinceMidnight, sinceMidnight, perDay, Duration.perSecond] at h ⊢
    omega
  next hleap =>
    split at h
    next hleaves =>
      simp only [ofSinceMidnight, sinceMidnight, perDay, Duration.perSecond] at h ⊢
      omega
    next hstays =>
      simp only [perDay]
      omega

/-- Dropping repetitions from a sorted list leaves its members in strictly increasing order.
The members before the present one have been collected in reverse. -/
theorem eraseReps_loop_of_sorted {a : TimeOfDay} {as acc : List TimeOfDay}
    (hsorted : (a :: as).Pairwise (· ≤ ·)) (hacc : acc.Pairwise (· > ·)) (hlt : ∀ x ∈ acc, x < a) :
    (List.eraseRepsBy.loop (· == ·) a as acc).Pairwise (· < ·) ∧
      ∀ x, x ∈ List.eraseRepsBy.loop (· == ·) a as acc ↔ x ∈ acc ∨ x ∈ a :: as := by
  induction as generalizing a acc with
  | nil =>
      rw [List.eraseRepsBy.loop]
      constructor
      · rw [List.pairwise_reverse, List.pairwise_cons]
        exact ⟨hlt, hacc⟩
      · intro x
        simp [or_comm]
  | cons b as ih =>
      obtain ⟨hfirst, hrest⟩ := List.pairwise_cons.mp hsorted
      rw [List.eraseRepsBy.loop]
      by_cases heq : a = b
      · subst heq
        obtain ⟨hpairs, hmem⟩ := ih hrest hacc hlt
        simp only [beq_self_eq_true]
        refine ⟨hpairs, ?_⟩
        intro x
        simp [hmem]
      · have hstep : a < b := lt_of_le_of_ne (hfirst b List.mem_cons_self) heq
        have hlt' : ∀ x ∈ a :: acc, x < b := by
          intro x hx
          rcases List.mem_cons.mp hx with rfl | hx
          · exact hstep
          · exact (hlt x hx).trans hstep
        obtain ⟨hpairs, hmem⟩ := ih hrest (List.pairwise_cons.mpr ⟨hlt, hacc⟩) hlt'
        simp only [beq_eq_false_iff_ne.mpr heq]
        refine ⟨hpairs, ?_⟩
        intro x
        rw [hmem, List.mem_cons, List.mem_cons (a := x) (b := a)]
        tauto

theorem sortedDistinct_spec (times : List TimeOfDay) :
    (sortedDistinct times).Pairwise (· < ·) ∧ ∀ t, t ∈ sortedDistinct times ↔ t ∈ times := by
  have hsorted : (times.mergeSort fun a b => a ≤ b).Pairwise (· ≤ ·) := by
    have h : (times.mergeSort fun a b => a ≤ b).Pairwise fun a b => decide (a ≤ b) = true :=
      List.pairwise_mergeSort (fun a b c => by simpa using le_trans)
        (fun a b => by simpa using le_total a b) times
    simpa using h
  have hmem (t : TimeOfDay) : t ∈ (times.mergeSort fun a b => a ≤ b) ↔ t ∈ times :=
    List.mem_mergeSort
  rw [sortedDistinct, List.eraseReps]
  cases hcases : times.mergeSort fun a b => a ≤ b with
  | nil =>
      rw [hcases] at hmem
      exact ⟨List.Pairwise.nil, fun t => by simpa [List.eraseRepsBy] using hmem t⟩
  | cons a as =>
      rw [hcases] at hsorted hmem
      obtain ⟨hpairs, hkept⟩ := eraseReps_loop_of_sorted hsorted List.Pairwise.nil (by simp)
      refine ⟨hpairs, ?_⟩
      intro t
      rw [← hmem t, List.eraseRepsBy, hkept]
      simp

/-- The times of a schedule are in strictly increasing order. -/
theorem pairwise_sortedDistinct (times : List TimeOfDay) :
    (sortedDistinct times).Pairwise (· < ·) := (sortedDistinct_spec times).1

@[simp] theorem mem_sortedDistinct {times : List TimeOfDay} {t : TimeOfDay} :
    t ∈ sortedDistinct times ↔ t ∈ times := (sortedDistinct_spec times).2 t

/-- A full hour of the day. -/
def onTheHour (hour : Fin 24) : TimeOfDay := (ofClock? hour 0 0 0).getD midnight

end TimeOfDay

namespace Date

/-- Dates of one number are the same date. -/
theorem eq_of_number_eq {a b : Date} (h : a.number = b.number) : a = b := by
  cases a
  cases b
  cases h
  rfl

/-- A date with a given distance, where there is one. -/
theorem addDays?_eq_some_iff {a b : Date} {n : Int} :
    a.addDays? n = some b ↔ b.number = a.number + n := by
  unfold addDays? ofNumber?
  constructor
  · intro h
    split at h
    · cases h
      rfl
    · cases h
  · intro h
    have hrange : firstNumber ≤ a.number + n ∧ a.number + n ≤ lastNumber :=
      ⟨h ▸ b.first_le, h ▸ b.le_last⟩
    rw [dif_pos hrange, Option.some.injEq]
    exact eq_of_number_eq h.symm

/-- 10 October 2023. -/
def sample : Date := ⟨numberOf 2023 10 10, by decide, by decide⟩

end Date

namespace Moment

theorem le_iff {a b : Moment} : a ≤ b ↔
    a.date.number < b.date.number ∨ (a.date.number = b.date.number ∧ a.time ≤ b.time) := Iff.rfl

theorem lt_iff {a b : Moment} : a < b ↔
    a.date.number < b.date.number ∨ (a.date.number = b.date.number ∧ a.time < b.time) := Iff.rfl

instance : LinearOrder Moment where
  le_refl a := .inr ⟨rfl, le_refl a.time⟩
  le_trans a b c hab hbc := by
    rw [le_iff] at *
    rcases hab with hab | ⟨hab, habt⟩ <;> rcases hbc with hbc | ⟨hbc, hbct⟩
    · exact .inl (hab.trans hbc)
    · exact .inl (hbc ▸ hab)
    · exact .inl (hab ▸ hbc)
    · exact .inr ⟨hab.trans hbc, habt.trans hbct⟩
  le_antisymm a b hab hba := by
    rw [le_iff] at *
    have hdate : a.date.number = b.date.number := by omega
    have hab' : a.time ≤ b.time := by simpa [hdate] using hab
    have hba' : b.time ≤ a.time := by simpa [hdate] using hba
    cases a
    cases b
    rw [mk.injEq]
    exact ⟨Date.eq_of_number_eq hdate, le_antisymm hab' hba'⟩
  le_total a b := by
    rw [le_iff, le_iff]
    rcases lt_trichotomy a.date.number b.date.number with h | h | h
    · exact .inl (.inl h)
    · rcases le_total a.time b.time with ht | ht
      · exact .inl (.inr ⟨h, ht⟩)
      · exact .inr (.inr ⟨h.symm, ht⟩)
    · exact .inr (.inl h)
  lt_iff_le_not_ge a b := by
    rw [le_iff, le_iff, lt_iff]
    rcases lt_trichotomy a.date.number b.date.number with h | h | h
    · simp [h, h.not_gt, h.ne']
    · simp only [h, lt_self_iff_false, false_or, true_and]
      exact lt_iff_le_not_ge
    · simp [h, h.not_gt, h.ne']
  toDecidableLE := inferInstance

/-- An earlier moment has no later date. -/
theorem number_le_of_le {a b : Moment} (h : a ≤ b) : a.date.number ≤ b.date.number := by
  rcases le_iff.mp h with h | h
  · exact h.le
  · exact h.1.le

theorem lt_of_number_lt {a b : Moment} (h : a.date.number < b.date.number) : a < b := .inl h

/-- On one date the times decide. -/
theorem mk_le_mk_iff {date : Date} {a b : TimeOfDay} :
    (⟨date, a⟩ : Moment) ≤ ⟨date, b⟩ ↔ a ≤ b := by simp [le_iff]

theorem mk_lt_mk_iff {date : Date} {a b : TimeOfDay} :
    (⟨date, a⟩ : Moment) < ⟨date, b⟩ ↔ a < b := by simp [lt_iff]

/-- Adding a span carries the days of the time of day. -/
theorem number_of_add {m last : Moment} {d : Duration} (h : m.add d = .ok last) :
    last.date.number = m.date.number + (m.time.addCarry d).2 ∧
      last.time = (m.time.addCarry d).1 := by
  unfold add at h
  cases hdate : m.date.addDays? (m.time.addCarry d).2 with
  | none => simp [hdate] at h
  | some date =>
      simp only [hdate, Except.ok.injEq] at h
      subst h
      exact ⟨Date.addDays?_eq_some_iff.mp hdate, rfl⟩

/-- A span without a carry leads to the same date. -/
theorem add_eq_ok {m : Moment} {d : Duration} (h : (m.time.addCarry d).2 = 0) :
    m.add d = .ok ⟨m.date, (m.time.addCarry d).1⟩ := by
  have hdate : m.date.addDays? (m.time.addCarry d).2 = some m.date := by
    rw [Date.addDays?_eq_some_iff, h, add_zero]
  simp [add, hdate]

/-- Adding a span that is not negative does not go back. -/
theorem le_of_add {m last : Moment} {d : Duration} (hd : 0 ≤ d.nanos)
    (h : m.add d = .ok last) : m ≤ last := by
  obtain ⟨hnumber, htime⟩ := number_of_add h
  obtain ⟨hcarry, hle⟩ := m.time.addCarry_of_nonneg hd
  rw [le_iff]
  rcases hcarry.lt_or_eq with hpos | hzero
  · exact .inl (by omega)
  · exact .inr ⟨by omega, htime ▸ hle hzero.symm⟩

end Moment

end SupportDesk
