/-
# Schedules on a timer that is never late

On a timer that ends every wait at its instant a schedule calls back at its boundary instants, all
of them and nothing else.  None is missed, since a timer that is never late is late by no span,
from which every boundary is clear of midnight.  None is met twice: after a callback only later
boundaries of the day are listed, and midnight leads to a later day.

A schedule that is cancelled has made some of its waits.  The wait that is cut short may end at
the very instant of the cancellation, and it is left open then whether it is still counted.
-/

import SupportDesk.Proofs.Calendar.Line
import SupportDesk.Proofs.Shift.Punctual

namespace SupportDesk

/-! ## A span of no length -/

/-- Adding nothing to a moment leads nowhere else. -/
@[simp] theorem Moment.add_nothing (m : Moment) : m.add ⟨0⟩ = .ok m := by
  have hnano := m.time.nano_lt
  apply (add_eq_ok_iff (le_refl 0)).mpr
  constructor
  · simp
  · simp only [add_zero, iff_self_and]
    omega

/-- It carries no day. -/
theorem TimeOfDay.addCarry_nothing (t : TimeOfDay) : (t.addCarry ⟨0⟩).2 = 0 := by
  obtain ⟨hlinear, -⟩ := t.addCarry_linear (d := ⟨0⟩) (le_refl 0)
  have hbefore := t.linear_bounds
  have hafter := (t.addCarry ⟨0⟩).1.linear_bounds
  have hsecond := t.second_lt
  have hsecond' := (t.addCarry ⟨0⟩).1.second_lt
  simp only [perDay] at hlinear
  omega

namespace ShiftSchedule

theorem apart_nothing (times : List TimeOfDay) : Apart times ⟨0⟩ := fun b _ _ _ hlt =>
  ⟨b, b.add_nothing, hlt⟩

theorem clearOfMidnight_nothing (t : TimeOfDay) : ClearOfMidnight ⟨0⟩ t :=
  ⟨TimeOfDay.midnight_le t, t.addCarry_nothing⟩

/-! ## The exact timer -/

/-- The timer that ends every wait at its instant.  Where no leap second is involved this is the
timer on which every wait takes the span that is asked for. -/
def exactTimer : Timer := fun _ wait => wait.instant

variable {s : ShiftSchedule} {start m m' : Moment} {n k : Nat} {wait next : Wait}

/-- The run calls back at a moment, at which the wait at a position ends. -/
def FiresAt (s : ShiftSchedule) (start : Moment) (timer : Timer) (n : Nat) (m : Moment) : Prop :=
  ∃ wait rest, s.pending start timer n = some wait ∧ wait.target = .boundary rest ∧
    timer n wait = m

theorem late_exactTimer (s : ShiftSchedule) (start : Moment) : s.Late start ⟨0⟩ exactTimer :=
  fun _ wait _ => .self (le_refl 0) wait.instant

/-- A wait is begun where the run stands, and its end is where the run stands next. -/
theorem standing_of_pending (h : s.pending start exactTimer n = some wait) :
    ∃ st, s.standing start exactTimer n = some st ∧ nextWait? st.now st.coming = some wait ∧
      s.standing start exactTimer (n + 1) = some ⟨wait.instant, s.comingAfter wait.target⟩ := by
  obtain ⟨st, hst, hwait⟩ := Option.bind_eq_some_iff.mp h
  exact ⟨st, hst, hwait, standing_succ hst hwait⟩

/-- A wait follows on another. -/
theorem pending_of_pending_succ (h : s.pending start exactTimer (n + 1) = some next) :
    ∃ wait, s.pending start exactTimer n = some wait := by
  obtain ⟨st, hst, -⟩ := Option.bind_eq_some_iff.mp h
  obtain ⟨before, hbefore, hnext⟩ := Option.bind_eq_some_iff.mp hst
  obtain ⟨wait, hwait, -⟩ := Option.map_eq_some_iff.mp hnext
  exact ⟨wait, by rw [pending_of_standing hbefore, hwait]⟩

theorem pending_succ (h : s.pending start exactTimer n = some wait) :
    s.pending start exactTimer (n + 1) = nextWait? wait.instant (s.comingAfter wait.target) := by
  obtain ⟨-, -, -, hnext⟩ := standing_of_pending h
  exact pending_of_standing hnext

/-- Every wait is for a boundary of the schedule or for midnight. -/
theorem time_instant (hsorted : s.times.Pairwise (· < ·))
    (h : s.pending start exactTimer n = some wait) :
    (wait.instant.time ∈ s.times ∧ ∃ rest, wait.target = .boundary rest) ∨
      (wait.instant.time = TimeOfDay.midnight ∧ wait.target = .midnight) := by
  obtain ⟨st, hst, hwait, -⟩ := standing_of_pending h
  rcases nextWait?_cases hwait with ⟨time, rest, rfl, hsub, -⟩ | ⟨date, rfl, -⟩
  · have hlisted := (sound_standing hsorted hst).listed time (hsub.subset List.mem_cons_self)
    exact .inl ⟨hlisted, rest, rfl⟩
  · exact .inr ⟨rfl, rfl⟩

/-- On ordinary times the span that the task asks its timer for, passed on its clock, leads to the
instant of the wait. -/
theorem add_since_of_standing (hsorted : s.times.Pairwise (· < ·))
    (hstart : start.time.isLeap = false) (htimes : ∀ t ∈ s.times, t.isLeap = false)
    {st : Standing} (hst : s.standing start exactTimer n = some st)
    (hwait : nextWait? st.now st.coming = some wait) :
    st.now.add (wait.instant.since st.now) = .ok wait.instant := by
  have hordinary {k : Nat} {w : Wait} (h : s.pending start exactTimer k = some w) :
      w.instant.time.isLeap = false := by
    rcases time_instant hsorted h with ⟨hlisted, -⟩ | ⟨hmidnight, -⟩
    · exact htimes _ hlisted
    · rw [hmidnight]
      rfl
  have hnow : st.now.time.isLeap = false := by
    cases n with
    | zero =>
        cases hst
        exact hstart
    | succ n =>
        obtain ⟨before, hbefore, hnext⟩ := Option.bind_eq_some_iff.mp hst
        obtain ⟨last, hlast, rfl⟩ := Option.map_eq_some_iff.mp hnext
        exact hordinary ((pending_of_standing hbefore).trans hlast)
  exact Moment.add_since hnow (hordinary ((pending_of_standing hst).trans hwait)) (le_instant hwait)

/-! ## The order of waits -/

/-- No wait ends before the one that it follows. -/
theorem instant_le_next (h : s.pending start exactTimer n = some wait)
    (hnext : s.pending start exactTimer (n + 1) = some next) : wait.instant ≤ next.instant := by
  rw [pending_succ h] at hnext
  exact le_instant hnext

/-- A wait for midnight ends on a later day than the one before it. -/
theorem instant_lt_of_midnight (h : s.pending start exactTimer n = some wait)
    (hnext : s.pending start exactTimer (n + 1) = some next) (hmidnight : next.target = .midnight) :
    wait.instant < next.instant := by
  rw [pending_succ h] at hnext
  rcases nextWait?_cases hnext with ⟨time, rest, rfl, -⟩ | ⟨date, rfl, hdate, -⟩
  · cases hmidnight
  · exact Moment.lt_of_number_lt (by simp only; omega)

/-- After a boundary the schedule waits for something later. -/
theorem instant_lt_of_boundary (hsorted : s.times.Pairwise (· < ·))
    (h : s.pending start exactTimer n = some wait) {rest : List TimeOfDay}
    (htarget : wait.target = .boundary rest)
    (hnext : s.pending start exactTimer (n + 1) = some next) : wait.instant < next.instant := by
  cases hkind : next.target with
  | midnight => exact instant_lt_of_midnight h hnext hkind
  | boundary later =>
      obtain ⟨st, hst, hwait, -⟩ := standing_of_pending h
      rw [pending_succ h] at hnext
      rcases nextWait?_cases hwait with ⟨time, rest', rfl, hsub, -⟩ | ⟨date, rfl, -⟩
      · rcases nextWait?_cases hnext with ⟨time', later', rfl, hsub', -⟩ | ⟨date, rfl, -⟩
        · have hbefore := List.pairwise_cons.mp ((sound_standing hsorted hst).sorted.sublist hsub)
          apply Moment.mk_lt_mk_iff.mpr
          exact hbefore.1 time' (hsub'.subset List.mem_cons_self)
        · cases hkind
      · cases htarget

/-- Waits end in their order. -/
theorem instant_le_of_le (hle : n ≤ k) (h : s.pending start exactTimer n = some wait)
    (hlater : s.pending start exactTimer k = some next) : wait.instant ≤ next.instant := by
  induction k, hle using Nat.le_induction generalizing next with
  | base =>
      rw [h, Option.some.injEq] at hlater
      exact hlater ▸ le_refl _
  | succ k _ ih =>
      obtain ⟨before, hbefore⟩ := pending_of_pending_succ hlater
      exact (ih hbefore).trans (instant_le_next hbefore hlater)

theorem exists_pending_of_le (hle : n ≤ k) (h : s.pending start exactTimer k = some next) :
    ∃ wait, s.pending start exactTimer n = some wait := by
  induction k, hle using Nat.le_induction generalizing next with
  | base => exact ⟨next, h⟩
  | succ k _ ih =>
      obtain ⟨before, hbefore⟩ := pending_of_pending_succ h
      exact ih hbefore

/-- Callbacks come one after the other, each at a later moment. -/
theorem firesAt_lt_of_lt (hsorted : s.times.Pairwise (· < ·)) (hlt : n < k)
    (hn : s.FiresAt start exactTimer n m) (hk : s.FiresAt start exactTimer k m') : m < m' := by
  obtain ⟨wait, rest, hwait, htarget, rfl⟩ := hn
  obtain ⟨later, rest', hlater, -, rfl⟩ := hk
  obtain ⟨next, hnext⟩ := exists_pending_of_le (Nat.succ_le_of_lt hlt) hlater
  exact (instant_lt_of_boundary hsorted hwait htarget hnext).trans_le
    (instant_le_of_le (Nat.succ_le_of_lt hlt) hnext hlater)

/-! ## What the schedule fires for -/

/-- The run stands nowhere before its start. -/
theorem start_le_now {st : Standing} (h : s.standing start exactTimer n = some st) :
    start ≤ st.now := by
  induction n generalizing st with
  | zero =>
      cases h
      exact le_refl start
  | succ n ih =>
      obtain ⟨before, hbefore, hnext⟩ := Option.bind_eq_some_iff.mp h
      obtain ⟨wait, hwait, rfl⟩ := Option.map_eq_some_iff.mp hnext
      exact (ih hbefore).trans (le_instant hwait)

theorem listed_of_firesAt (hsorted : s.times.Pairwise (· < ·))
    (h : s.FiresAt start exactTimer n m) : m.time ∈ s.times ∧ start ≤ m := by
  obtain ⟨wait, rest, hwait, htarget, rfl⟩ := h
  obtain ⟨st, hst, hnow, -⟩ := standing_of_pending hwait
  refine ⟨?_, (start_le_now hst).trans (le_instant hnow)⟩
  rcases time_instant hsorted hwait with ⟨hlisted, -⟩ | ⟨-, hmidnight⟩
  · exact hlisted
  · rw [hmidnight] at htarget
    cases htarget

/-- The schedule fires for every boundary instant from its start on, the start included. -/
theorem exists_firesAt (hsorted : s.times.Pairwise (· < ·)) (hlisted : m.time ∈ s.times)
    (hle : start ≤ m) : ∃ n, s.FiresAt start exactTimer n m := by
  have hahead : Ahead m ⟨start, s.times⟩ := by
    rcases Moment.le_iff.mp hle with hdate | ⟨hdate, -⟩
    · exact .inr hdate
    · exact .inl ⟨(Date.eq_of_number_eq hdate).symm, hlisted, hle⟩
  obtain ⟨fired, hfires, hwindow⟩ := fires_of_ahead (le_refl 0) hsorted (apart_nothing s.times)
    (fun t _ => clearOfMidnight_nothing t) (s.late_exactTimer start) hlisted (n := 0) rfl hahead
  have hsame : fired = m := le_antisymm (hwindow.2 m m.add_nothing) hwindow.1
  exact hsame ▸ hfires

theorem exists_firesAt_iff (hsorted : s.times.Pairwise (· < ·)) :
    (∃ n, s.FiresAt start exactTimer n m) ↔ m.time ∈ s.times ∧ start ≤ m := by
  constructor
  · rintro ⟨n, h⟩
    exact listed_of_firesAt hsorted h
  · rintro ⟨hlisted, hle⟩
    exact exists_firesAt hsorted hlisted hle

/-! ## Cancellation -/

/-- The run is cancelled at an instant after a number of waits: these have ended by then, and the
next one does not end earlier. -/
structure CancelledAfter (s : ShiftSchedule) (start : Moment) (timer : Timer) (n : Nat)
    (stop : Moment) : Prop where
  ended : ∀ k < n, ∀ wait, s.pending start timer k = some wait → timer k wait ≤ stop
  interrupted : ∀ wait, s.pending start timer n = some wait → stop ≤ timer n wait

/-- Up to its cancellation a run has fired as it would have fired, and not later. -/
theorem firesAt_of_cancelled (hsorted : s.times.Pairwise (· < ·)) {stop : Moment}
    (h : s.CancelledAfter start exactTimer n stop) :
    (∀ k < n, ∀ m, s.FiresAt start exactTimer k m → m ≤ stop) ∧
      ∀ m, m.time ∈ s.times → start ≤ m → m < stop →
        ∃ k < n, s.FiresAt start exactTimer k m := by
  constructor
  · rintro k hk m ⟨wait, rest, hwait, -, rfl⟩
    exact h.ended k hk wait hwait
  · intro m hlisted hle hlt
    obtain ⟨k, hfires⟩ := exists_firesAt hsorted hlisted hle
    refine ⟨k, ?_, hfires⟩
    by_contra hnot
    obtain ⟨later, rest, hlater, -, rfl⟩ := hfires
    obtain ⟨cut, hcut⟩ := exists_pending_of_le (not_lt.mp hnot) hlater
    exact absurd ((h.interrupted cut hcut).trans (instant_le_of_le (not_lt.mp hnot) hcut hlater))
      (not_le_of_gt hlt)

end ShiftSchedule

end SupportDesk
