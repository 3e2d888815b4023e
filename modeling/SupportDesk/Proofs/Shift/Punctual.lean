/-
# Late timers and midnight

A schedule that waits for one boundary after the other misses none of them on a late timer, as
long as the lateness is below the distance of the boundaries.  At midnight it does two things
that are not safe.  It waits for midnight without a callback and then passes over the
boundaries that are behind, so that it misses those that come earlier after midnight than the
timer.  And it asks the clock for the next day after the last callback of a day, so that it skips
a whole day if that callback comes only past midnight.

The schedule is therefore punctual from every start exactly if no boundary is closer to midnight,
on either side, than the timer can be late.
-/

import SupportDesk.Proofs.Shift.Timer

namespace SupportDesk

namespace Moment.Window

variable {b m : Moment} {d : Duration}

/-- A wait may end in time. -/
theorem self (hd : 0 ≤ d.nanos) (b : Moment) : b.Window d b :=
  ⟨le_refl b, fun _ h => le_of_add hd h⟩

/-- A wait may end at the very end of the window. -/
theorem last (hd : 0 ≤ d.nanos) {l : Moment} (h : b.add d = .ok l) : b.Window d l := by
  refine ⟨le_of_add hd h, ?_⟩
  intro l' hl'
  rw [h, Except.ok.injEq] at hl'
  exact hl'.le

/-- A window without a carry stays within the day. -/
theorem within_day (h : b.Window d m) (hcarry : (b.time.addCarry d).2 = 0) :
    m.date = b.date ∧ m.time ≤ (b.time.addCarry d).1 := by
  have hlast : m ≤ ⟨b.date, (b.time.addCarry d).1⟩ := h.2 _ (add_eq_ok hcarry)
  have hupper := number_le_of_le hlast
  have hlower := number_le_of_le h.1
  simp only at hupper
  have hdate : m.date = b.date := Date.eq_of_number_eq (by omega)
  refine ⟨hdate, ?_⟩
  rw [← hdate] at hlast
  exact mk_le_mk_iff.mp hlast

end Moment.Window

namespace ShiftSchedule

/-- Any two boundary instants are further apart than a span.  It is enough for this that the
span is less than half of every gap between them. -/
def Apart (times : List TimeOfDay) (d : Duration) : Prop :=
  ∀ b c : Moment, b.time ∈ times → c.time ∈ times → b < c → ∃ last, b.add d = .ok last ∧ last < c

/-- A boundary time that a span reaches neither from midnight nor midnight from it. -/
def ClearOfMidnight (d : Duration) (t : TimeOfDay) : Prop :=
  (TimeOfDay.midnight.addCarry d).1 ≤ t ∧ (t.addCarry d).2 = 0

instance (d : Duration) (t : TimeOfDay) : Decidable (ClearOfMidnight d t) :=
  inferInstanceAs (Decidable ((TimeOfDay.midnight.addCarry d).1 ≤ t ∧ (t.addCarry d).2 = 0))

/-- The window of a boundary instant is over before the next boundary instant. -/
theorem Apart.lt_of_window {times : List TimeOfDay} {d : Duration} (h : Apart times d)
    {b c m : Moment} (hb : b.time ∈ times) (hc : c.time ∈ times) (hbc : b < c)
    (hm : b.Window d m) : m < c := by
  obtain ⟨last, hlast, hlt⟩ := h b c hb hc hbc
  exact (hm.2 last hlast).trans_lt hlt

/-- The windows of two boundary instants have no moment in common. -/
theorem Apart.eq_of_window {times : List TimeOfDay} {d : Duration} (h : Apart times d)
    {b c m : Moment} (hb : b.time ∈ times) (hc : c.time ∈ times) (hbm : b.Window d m)
    (hcm : c.Window d m) : b = c := by
  rcases lt_trichotomy b c with hlt | heq | hlt
  · exact absurd (h.lt_of_window hb hc hlt hbm) (not_lt_of_ge hcm.1)
  · exact heq
  · exact absurd (h.lt_of_window hc hb hlt hcm) (not_lt_of_ge hbm.1)

/-- Sorting the times does not bring them closer. -/
theorem Apart.ofTimes {times : List TimeOfDay} {d : Duration} (h : Apart times d) :
    Apart (ofTimes times).times d := by
  intro b c hb hc
  exact h b c (TimeOfDay.mem_sortedDistinct.mp hb) (TimeOfDay.mem_sortedDistinct.mp hc)

/-- Times are apart if a span from each of them ends within the day and before the next. -/
theorem apart_of_gaps {times : List TimeOfDay} {d : Duration}
    (hday : ∀ t ∈ times, (t.addCarry d).2 = 0)
    (hgap : ∀ t ∈ times, ∀ u ∈ times, t < u → (t.addCarry d).1 < u) : Apart times d := by
  intro b c hb hc hbc
  refine ⟨_, Moment.add_eq_ok (hday b.time hb), ?_⟩
  rcases Moment.lt_iff.mp hbc with hdate | ⟨hdate, htime⟩
  · exact .inl hdate
  · exact .inr ⟨hdate, hgap b.time hb c.time hc htime⟩

/-! ## Boundaries clear of midnight are reached -/

/-- A boundary instant is still to come: it is listed for today, or it lies on a later day. -/
def Ahead (b : Moment) (st : Standing) : Prop :=
  (b.date = st.now.date ∧ b.time ∈ st.coming ∧ st.now ≤ b) ∨ st.now.date.number < b.date.number

/-- A bound for the number of waits until an instant that is ahead. -/
def distance (s : ShiftSchedule) (b : Moment) (st : Standing) : Nat :=
  (b.date.number - st.now.date.number).toNat * (s.times.length + 1) + st.coming.length

theorem exists_nextWait?_of_ahead {b : Moment} {st : Standing} (h : Ahead b st) :
    ∃ wait, nextWait? st.now st.coming = some wait := by
  apply exists_nextWait?
  rcases h with ⟨hdate, hlisted, hle⟩ | hlt
  · exact .inl ⟨b.time, hlisted, hdate ▸ hle⟩
  · exact .inr (hlt.trans_le b.date.le_last)

/-- With its boundaries clear of midnight, a schedule that waits is either waiting for a given
boundary instant that is ahead, or comes closer to it however late the wait ends. -/
theorem ahead_step {s : ShiftSchedule} {d : Duration} (hd : 0 ≤ d.nanos)
    (hapart : Apart s.times d) (hclear : ∀ t ∈ s.times, ClearOfMidnight d t) {b : Moment}
    (hb : b.time ∈ s.times) {st : Standing} (hsound : st.Sound s) (hahead : Ahead b st)
    {wait : Wait} (hwait : nextWait? st.now st.coming = some wait) {m : Moment}
    (hm : wait.instant.Window d m) :
    (wait.instant = b ∧ ∃ rest, wait.target = .boundary rest) ∨
      (Ahead b ⟨m, s.comingAfter wait.target⟩ ∧
        s.distance b ⟨m, s.comingAfter wait.target⟩ < s.distance b st) := by
  rcases nextWait?_cases hwait with
    ⟨time, rest, rfl, hsub, -, hkept⟩ | ⟨date, rfl, hdate, hbehind⟩
  · -- A boundary of today: the wait ends today, and before the next boundary.
    have htime : time ∈ s.times := hsound.listed time (hsub.subset List.mem_cons_self)
    obtain ⟨hmdate, -⟩ := hm.within_day (hclear time htime).2
    have hlength : rest.length < st.coming.length := hsub.length_le
    have hdistance : s.distance b ⟨m, rest⟩ < s.distance b st := by
      simp only [distance, hmdate]
      omega
    rcases hahead with ⟨hbdate, hlisted, hle⟩ | hlater
    · by_cases heq : (⟨st.now.date, time⟩ : Moment) = b
      · exact .inl ⟨heq, rest, rfl⟩
      · obtain ⟨bdate, btime⟩ := b
        simp only at hbdate hlisted hb
        subst hbdate
        have hrest : btime ∈ rest := by
          rcases List.mem_cons.mp (hkept btime hlisted hle) with rfl | hrest
          · exact absurd rfl heq
          · exact hrest
        have hsorted := List.pairwise_cons.mp (hsound.sorted.sublist hsub)
        have hlt : (⟨st.now.date, time⟩ : Moment) < ⟨st.now.date, btime⟩ :=
          Moment.mk_lt_mk_iff.mpr (hsorted.1 btime hrest)
        exact .inr ⟨.inl ⟨hmdate.symm, hrest, (hapart.lt_of_window htime hb hlt hm).le⟩, hdistance⟩
    · exact .inr ⟨.inr (by simpa [hmdate] using hlater), hdistance⟩
  · -- Midnight: the wait ends on the next day, and before its first boundary.
    obtain ⟨hfirst, hlast⟩ := hclear b.time hb
    obtain ⟨hmdate, hmtime⟩ := hm.within_day (TimeOfDay.addCarry_midnight hd hlast)
    have hlater : st.now.date.number < b.date.number := by
      rcases hahead with ⟨hbdate, hlisted, hle⟩ | hlater
      · exact absurd (hbehind b.time hlisted) (not_lt_of_ge (hbdate ▸ hle))
      · exact hlater
    have hdistance : s.distance b ⟨m, s.times⟩ < s.distance b st := by
      have hdays : (b.date.number - st.now.date.number).toNat =
          (b.date.number - m.date.number).toNat + 1 := by
        rw [hmdate]
        simp only
        omega
      simp only [distance, hdays, Nat.succ_mul]
      omega
    refine .inr ⟨?_, hdistance⟩
    have hmdate' : m.date = date := hmdate
    rcases lt_or_eq_of_le (show date.number ≤ b.date.number by omega) with hlt | heq
    · exact .inr (by simpa [hmdate'] using hlt)
    · have hbdate : b.date = m.date := hmdate' ▸ Date.eq_of_number_eq heq.symm
      refine .inl ⟨hbdate, hb, ?_⟩
      exact .inr ⟨congrArg Date.number hbdate.symm, hmtime.trans hfirst⟩

/-- A schedule with its boundaries clear of midnight fires for every boundary instant that is
ahead, within the lateness of the timer. -/
theorem fires_of_ahead {s : ShiftSchedule} {d : Duration} (hd : 0 ≤ d.nanos)
    (hsorted : s.times.Pairwise (· < ·)) (hapart : Apart s.times d)
    (hclear : ∀ t ∈ s.times, ClearOfMidnight d t) {start : Moment} {timer : Timer}
    (hlate : s.Late start d timer) {b : Moment} (hb : b.time ∈ s.times) {n : Nat} {st : Standing}
    (hst : s.standing start timer n = some st) (hahead : Ahead b st) :
    ∃ m, s.Fires start timer m ∧ b.Window d m := by
  -- The induction is on the bound for the number of waits that are left.
  induction hk : s.distance b st using Nat.strong_induction_on generalizing n st with
  | _ k ih =>
      obtain ⟨wait, hwait⟩ := exists_nextWait?_of_ahead hahead
      have hpending : s.pending start timer n = some wait := by
        rw [pending_of_standing hst, hwait]
      have hwindow := hlate n wait hpending
      rcases ahead_step hd hapart hclear hb (sound_standing hsorted hst) hahead hwait hwindow with
        ⟨rfl, rest, htarget⟩ | ⟨hnext, hcloser⟩
      · exact ⟨timer n wait, ⟨n, wait, rest, hpending, htarget, rfl⟩, hwindow⟩
      · exact ih _ (hk ▸ hcloser) (standing_succ hst hwait) hnext rfl

/-- A schedule with its boundaries clear of midnight is punctual from every start. -/
theorem punctual_of_clear {s : ShiftSchedule} {d : Duration} (hd : 0 ≤ d.nanos)
    (hsorted : s.times.Pairwise (· < ·)) (hapart : Apart s.times d)
    (hclear : ∀ t ∈ s.times, ClearOfMidnight d t) (start : Moment) : s.Punctual start d := by
  intro timer hlate b hb hstart
  have hfirst : s.standing start timer 0 = some ⟨start, s.times⟩ := rfl
  refine fires_of_ahead hd hsorted hapart hclear hlate hb hfirst ?_
  rcases Moment.lt_iff.mp hstart with hdate | ⟨hdate, -⟩
  · exact .inr hdate
  · exact .inl ⟨(Date.eq_of_number_eq hdate).symm, hb, hstart.le⟩

/-! ## Boundaries close to midnight are missed -/

/-- A boundary instant that no standing of a run lets the schedule wait for is missed. -/
theorem not_punctual_of_preserved {s : ShiftSchedule} {d : Duration}
    (hsorted : s.times.Pairwise (· < ·)) (hapart : Apart s.times d) {start : Moment}
    {timer : Timer} (hlate : s.Late start d timer) {b : Moment} (hb : b.time ∈ s.times)
    (hstart : start < b) {P : Standing → Prop} (hfirst : P ⟨start, s.times⟩)
    (hstep : ∀ n st wait, st.Sound s → P st → nextWait? st.now st.coming = some wait →
      wait.instant.Window d (timer n wait) → P ⟨timer n wait, s.comingAfter wait.target⟩)
    (hnever : ∀ st wait rest, st.Sound s → P st → nextWait? st.now st.coming = some wait →
      wait.target = .boundary rest → wait.instant ≠ b) : ¬ s.Punctual start d := by
  have hall (n : Nat) (st : Standing) (hst : s.standing start timer n = some st) : P st := by
    induction n generalizing st with
    | zero =>
        cases hst
        exact hfirst
    | succ n ih =>
        obtain ⟨before, hbefore, hnext⟩ := Option.bind_eq_some_iff.mp hst
        obtain ⟨wait, hwait, rfl⟩ := Option.map_eq_some_iff.mp hnext
        have hpending : s.pending start timer n = some wait := by
          rw [pending_of_standing hbefore, hwait]
        exact hstep n before wait (sound_standing hsorted hbefore) (ih before hbefore) hwait
          (hlate n wait hpending)
  intro hpunctual
  obtain ⟨m, ⟨n, wait, rest, hpending, htarget, rfl⟩, hwindow⟩ := hpunctual timer hlate b hb hstart
  obtain ⟨st, hst, hwait⟩ := Option.bind_eq_some_iff.mp hpending
  have hsound := sound_standing hsorted hst
  have hinstant : wait.instant.time ∈ s.times := by
    rcases nextWait?_cases hwait with ⟨time, rest', rfl, hsub, -⟩ | ⟨date, rfl, -⟩
    · exact hsound.listed time (hsub.subset List.mem_cons_self)
    · cases htarget
  exact hnever st wait rest hsound (hall n st hst) hwait htarget
    (hapart.eq_of_window hinstant hb (hlate n wait hpending) hwindow)

/-- The timer that is late by a whole span for some waits, and in time for the others. -/
def lateFor (p : Wait → Bool) (d : Duration) : Timer := fun _ wait =>
  if p wait then
    match wait.instant.add d with
    | .ok last => last
    | .error _ => wait.instant
  else wait.instant

theorem window_lateFor (p : Wait → Bool) {d : Duration} (hd : 0 ≤ d.nanos) (n : Nat)
    (wait : Wait) : wait.instant.Window d (lateFor p d n wait) := by
  unfold lateFor
  split
  · split
    next last hlast => exact .last hd hlast
    next => exact .self hd _
  · exact .self hd _

/-- Where a timer can wake from midnight past a boundary, that boundary of the next day is
missed. -/
theorem not_punctual_of_lt_midnight {s : ShiftSchedule} {d : Duration} (hd : 0 ≤ d.nanos)
    (hsorted : s.times.Pairwise (· < ·)) (hapart : Apart s.times d) {t : TimeOfDay}
    (ht : t ∈ s.times) (hcarry : (TimeOfDay.midnight.addCarry d).2 = 0)
    (hlt : t < (TimeOfDay.midnight.addCarry d).1) {start : Moment}
    (hnext : start.date.number < Date.lastNumber) : ¬ s.Punctual start d := by
  have hfirst := start.date.first_le
  let next : Date := ⟨start.date.number + 1, by omega, by omega⟩
  -- The clock shows the day of the start until it is past the boundary of the next day.
  refine not_punctual_of_preserved hsorted hapart (b := ⟨next, t⟩)
    (fun n wait _ => window_lateFor (·.target == .midnight) hd n wait) ht
    (Moment.lt_of_number_lt (lt_add_one _))
    (P := fun st => st.now.date = start.date ∨ (⟨next, t⟩ : Moment) < st.now) (.inl rfl) ?_ ?_
  · intro n st wait _ hst hwait hwindow
    rcases hst with hdate | hpast
    · rcases nextWait?_cases hwait with ⟨time, rest, rfl, -⟩ | ⟨date, rfl, hnumber, -⟩
      · exact .inl hdate
      · obtain rfl : date = next := Date.eq_of_number_eq (by rw [hnumber, hdate])
        have hadd := Moment.add_eq_ok (m := ⟨next, TimeOfDay.midnight⟩) hcarry
        right
        simp only [lateFor, beq_self_eq_true, if_true, hadd]
        exact Moment.mk_lt_mk_iff.mpr hlt
    · exact .inr (hpast.trans_le ((le_instant hwait).trans hwindow.1))
  · intro st wait rest _ hst hwait htarget heq
    rcases hst with hdate | hpast
    · rcases nextWait?_cases hwait with ⟨time, rest', rfl, -⟩ | ⟨date, rfl, -⟩
      · have hnumber := congrArg (·.date.number) heq
        simp only [hdate, next] at hnumber
        omega
      · cases htarget
    · exact absurd (heq ▸ le_instant hwait) (not_le_of_gt hpast)

/-- How a run misses a day when its timer wakes from the last boundary of the day before only
past midnight. -/
inductive Skips (t : TimeOfDay) (day after : Date) (st : Standing) : Prop
  /-- The boundary of an earlier day is behind. -/
  | dayBefore (hdate : st.now.date.number + 1 = day.number) (hpast : ⟨st.now.date, t⟩ < st.now)
  /-- The late boundary is to come. -/
  | before (hdate : st.now.date = day) (hlisted : t ∈ st.coming) (hle : st.now ≤ ⟨day, t⟩)
  /-- The callback came past midnight, and nothing is left of the list. -/
  | woken (hdate : st.now.date = after) (hnone : st.coming = [])
  /-- The boundary of the day after is behind. -/
  | missed (hpast : ⟨after, t⟩ < st.now)

namespace Skips

variable {s : ShiftSchedule} {d : Duration} {t : TimeOfDay} {day after : Date} {st : Standing}
  {wait : Wait}

/-- A wait for the boundary that is met late. -/
def lateWait (t : TimeOfDay) (wait : Wait) : Bool :=
  wait.target != .midnight && wait.instant.time == t

/-- The late callback comes on the day after, and leaves nothing of the list. -/
theorem woken_of_late (hd : 0 ≤ d.nanos) (hapart : Apart s.times d) (ht : t ∈ s.times)
    (hcarry : (t.addCarry d).2 ≠ 0) (hafter : after.number = day.number + 1)
    {rest : List TimeOfDay} (hsorted : (t :: rest).Pairwise (· < ·))
    (hlisted : ∀ u ∈ rest, u ∈ s.times) (n : Nat) :
    Skips t day after ⟨lateFor (lateWait t) d n ⟨⟨day, t⟩, .boundary rest⟩, rest⟩ := by
  obtain ⟨last, hlast, hlt⟩ := hapart ⟨day, t⟩ ⟨after, t⟩ ht ht
    (Moment.lt_of_number_lt (by simp only [hafter]; omega))
  have hwoken : lateFor (lateWait t) d n ⟨⟨day, t⟩, .boundary rest⟩ = last := by
    simp [lateFor, lateWait, hlast]
  obtain ⟨hnumber, -⟩ := Moment.number_of_add hlast
  obtain ⟨hforward, -⟩ := t.addCarry_of_nonneg hd
  have hupper := Moment.number_le_of_le hlt.le
  simp only at hnumber hupper
  rw [hwoken]
  refine .woken (Date.eq_of_number_eq (show last.date.number = after.number by omega)) ?_
  -- A further boundary of the day would be closer than the timer is late.
  rw [List.eq_nil_iff_forall_not_mem]
  intro u hu
  have htu : t < u := (List.pairwise_cons.mp hsorted).1 u hu
  obtain ⟨last', hlast', hlt'⟩ := hapart ⟨day, t⟩ ⟨day, u⟩ ht (hlisted u hu)
    (Moment.mk_lt_mk_iff.mpr htu)
  rw [hlast, Except.ok.injEq] at hlast'
  have hsame := Moment.number_le_of_le hlt'.le
  simp only [← hlast'] at hsame
  omega

theorem step (hd : 0 ≤ d.nanos) (hapart : Apart s.times d) (ht : t ∈ s.times)
    (hcarry : (t.addCarry d).2 ≠ 0) (hafter : after.number = day.number + 1)
    (hsound : st.Sound s) (h : Skips t day after st)
    (hwait : nextWait? st.now st.coming = some wait) (n : Nat) :
    Skips t day after ⟨lateFor (lateWait t) d n wait, s.comingAfter wait.target⟩ := by
  cases h with
  | dayBefore hdate hpast =>
      rcases nextWait?_cases hwait with ⟨time, rest, rfl, -, hle, -⟩ | ⟨date, rfl, hnumber, -⟩
      · have hne : time ≠ t := by
          rintro rfl
          exact absurd hpast (not_lt_of_ge hle)
        have hintime : lateFor (lateWait t) d n ⟨⟨st.now.date, time⟩, .boundary rest⟩ =
            ⟨st.now.date, time⟩ := by simp [lateFor, lateWait, hne]
        rw [hintime]
        exact .dayBefore hdate (hpast.trans_le hle)
      · obtain rfl : date = day := Date.eq_of_number_eq (by omega)
        exact .before rfl ht (Moment.mk_le_mk_iff.mpr t.midnight_le)
  | before hdate hlisted hle =>
      subst hdate
      rcases nextWait?_cases hwait with ⟨time, rest, rfl, hsub, -, hkept⟩ | ⟨date, rfl, -, hbehind⟩
      · have hsorted := hsound.sorted.sublist hsub
        rcases List.mem_cons.mp (hkept t hlisted hle) with rfl | hrest
        · refine woken_of_late hd hapart ht hcarry hafter hsorted ?_ n
          intro u hu
          exact hsound.listed u (hsub.subset (List.mem_cons_of_mem _ hu))
        · have hlt : time < t := (List.pairwise_cons.mp hsorted).1 t hrest
          have hintime : lateFor (lateWait t) d n ⟨⟨st.now.date, time⟩, .boundary rest⟩ =
              ⟨st.now.date, time⟩ := by simp [lateFor, lateWait, hlt.ne]
          rw [hintime]
          exact .before rfl hrest (Moment.mk_le_mk_iff.mpr hlt.le)
      · exact absurd (hbehind t hlisted) (not_lt_of_ge hle)
  | woken hdate hnone =>
      rw [hnone] at hwait
      rcases nextWait?_cases hwait with ⟨time, rest, rfl, hsub, -⟩ | ⟨date, rfl, hnumber, -⟩
      · cases hsub
      · refine .missed (Moment.lt_of_number_lt ?_)
        have hintime : lateFor (lateWait t) d n ⟨⟨date, TimeOfDay.midnight⟩, .midnight⟩ =
            ⟨date, TimeOfDay.midnight⟩ := by simp [lateFor, lateWait]
        simp only [hintime, hnumber, hdate]
        omega
  | missed hpast =>
      exact .missed (hpast.trans_le ((le_instant hwait).trans (window_lateFor _ hd n wait).1))

/-- The schedule never waits for the boundary of the day after. -/
theorem ne_instant (hafter : after.number = day.number + 1) (h : Skips t day after st)
    (hwait : nextWait? st.now st.coming = some wait) {rest : List TimeOfDay}
    (htarget : wait.target = .boundary rest) : wait.instant ≠ ⟨after, t⟩ := by
  intro heq
  cases h with
  | missed hpast => exact absurd (heq ▸ le_instant hwait) (not_le_of_gt hpast)
  | woken hdate hnone =>
      rw [hnone] at hwait
      rcases nextWait?_cases hwait with ⟨time, rest', rfl, hsub, -⟩ | ⟨date, rfl, -⟩
      · cases hsub
      · cases htarget
  | dayBefore hdate hpast =>
      rcases nextWait?_cases hwait with ⟨time, rest', rfl, -⟩ | ⟨date, rfl, -⟩
      · have hnumber := congrArg (·.date.number) heq
        simp only at hnumber
        omega
      · cases htarget
  | before hdate hlisted hle =>
      rcases nextWait?_cases hwait with ⟨time, rest', rfl, -⟩ | ⟨date, rfl, -⟩
      · have hnumber := congrArg (·.date.number) heq
        simp only [hdate] at hnumber
        omega
      · cases htarget

end Skips

/-- Where a timer can wake from a boundary only past midnight, that boundary of the day after is
missed. -/
theorem not_punctual_of_carry {s : ShiftSchedule} {d : Duration} (hd : 0 ≤ d.nanos)
    (hsorted : s.times.Pairwise (· < ·)) (hapart : Apart s.times d) {t : TimeOfDay}
    (ht : t ∈ s.times) (hcarry : (t.addCarry d).2 ≠ 0) {start : Moment}
    (hnext : start.date.number + 2 ≤ Date.lastNumber) : ¬ s.Punctual start d := by
  -- The late callback is that of the first day whose boundary is not behind.
  obtain ⟨day, after, hafter, hstart, hskips⟩ : ∃ day after : Date,
      after.number = day.number + 1 ∧ start < ⟨after, t⟩ ∧
        Skips t day after ⟨start, s.times⟩ := by
    have hfirst := start.date.first_le
    rcases le_or_gt start ⟨start.date, t⟩ with hle | hpast
    · refine ⟨start.date, ⟨start.date.number + 1, by omega, by omega⟩, rfl,
        Moment.lt_of_number_lt (lt_add_one _), .before rfl ht hle⟩
    · refine ⟨⟨start.date.number + 1, by omega, by omega⟩,
        ⟨start.date.number + 2, by omega, hnext⟩, by simp only; omega,
        Moment.lt_of_number_lt (by simp only; omega), .dayBefore rfl hpast⟩
  refine not_punctual_of_preserved hsorted hapart (b := ⟨after, t⟩)
    (fun n wait _ => window_lateFor (Skips.lateWait t) hd n wait) ht hstart hskips ?_ ?_
  · intro n st wait hsound hst hwait _
    exact hst.step hd hapart ht hcarry hafter hsound hwait n
  · intro st wait rest _ hst hwait htarget
    exact hst.ne_instant hafter hwait htarget

/-- For boundaries further apart than the timer can be late, the schedule is punctual from every
start if each of them is clear of midnight; from a start with two more days in the calendar it
is punctual only then. -/
theorem punctual_iff_clear_of_midnight (times : List TimeOfDay) (d : Duration)
    (hd : 0 ≤ d.nanos) (hapart : Apart times d) :
    ((∀ t ∈ times, ClearOfMidnight d t) → ∀ start, (ofTimes times).Punctual start d) ∧
      ∀ start : Moment, start.date.number + 2 ≤ Date.lastNumber →
        ((ofTimes times).Punctual start d ↔ ∀ t ∈ times, ClearOfMidnight d t) := by
  have hsorted : (ofTimes times).times.Pairwise (· < ·) := TimeOfDay.pairwise_sortedDistinct times
  have hlisted (t : TimeOfDay) : t ∈ (ofTimes times).times ↔ t ∈ times :=
    TimeOfDay.mem_sortedDistinct
  have hapart' : Apart (ofTimes times).times d := hapart.ofTimes
  have hpunctual (hclear : ∀ t ∈ times, ClearOfMidnight d t) (start : Moment) :
      (ofTimes times).Punctual start d :=
    punctual_of_clear hd hsorted hapart' (fun t ht => hclear t ((hlisted t).mp ht)) start
  refine ⟨hpunctual, ?_⟩
  intro start hnext
  refine ⟨?_, fun hclear => hpunctual hclear start⟩
  intro h t ht
  have hcarry : (t.addCarry d).2 = 0 := by
    by_contra hcarry
    exact not_punctual_of_carry hd hsorted hapart' ((hlisted t).mpr ht) hcarry hnext h
  refine ⟨?_, hcarry⟩
  by_contra hlt
  exact not_punctual_of_lt_midnight hd hsorted hapart' ((hlisted t).mpr ht)
    (TimeOfDay.addCarry_midnight hd hcarry) (lt_of_not_ge hlt) (by omega) h

/-- Shifts that change at 7, 15 and 23 change in time on a timer that is late by up to a
minute. -/
theorem punctual_iff_clear_of_midnight_three_shifts :
    let times : List TimeOfDay := [.onTheHour 7, .onTheHour 15, .onTheHour 23]
    let d : Duration := .ofSeconds 60
    0 ≤ d.nanos ∧ Apart times d ∧ ∀ start, (ofTimes times).Punctual start d := by
  intro times d
  have hd : 0 ≤ d.nanos := by decide
  have hapart : Apart times d := apart_of_gaps (by decide +kernel) (by decide +kernel)
  exact ⟨hd, hapart, (punctual_iff_clear_of_midnight times d hd hapart).1 (by decide +kernel)⟩

/-- A minute before midnight, and half a millisecond after a whole one. -/
def lateEvening : Moment := ⟨.sample, (TimeOfDay.ofClock? 23 59 0 500000).getD .midnight⟩

/-- A timer may be late by far less than the boundaries are apart, and yet a boundary is missed.
The task that starts in the late evening has a boundary at midnight and wakes half a millisecond
after it, and it does not fire within two minutes. -/
theorem not_punctual_at_midnight :
    ((ShiftTask.start (.following lateEvening) [.midnight]).sleep 120000).1 = [] ∧
      ¬ ∀ (times : List TimeOfDay) (d : Duration) (start : Moment), 0 ≤ d.nanos →
        Apart times ⟨2 * d.nanos⟩ → (ofTimes times).Punctual start d := by
  refine ⟨by decide +kernel, ?_⟩
  intro h
  have hd : 0 ≤ (Duration.ofMillis 1).nanos := by decide
  have hapart : Apart [TimeOfDay.midnight] (.ofMillis 1) :=
    apart_of_gaps (by decide +kernel) (by decide +kernel)
  have htwice : Apart [TimeOfDay.midnight] ⟨2 * (Duration.ofMillis 1).nanos⟩ :=
    apart_of_gaps (by decide +kernel) (by decide +kernel)
  have hlisted : TimeOfDay.midnight ∈ (ofTimes [TimeOfDay.midnight]).times :=
    TimeOfDay.mem_sortedDistinct.mpr (List.mem_singleton.mpr rfl)
  exact not_punctual_of_lt_midnight hd (TimeOfDay.pairwise_sortedDistinct _) hapart.ofTimes
    hlisted (by decide +kernel) (by decide +kernel) (by decide +kernel)
    (h [TimeOfDay.midnight] (.ofMillis 1) lateEvening hd htwice)

end ShiftSchedule

end SupportDesk
