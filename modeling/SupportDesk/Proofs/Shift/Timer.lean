/-
# Schedules under any timer

A schedule decides what to wait for; when a wait ends is up to a timer.  A run of a schedule
is given here by the moment at which it starts and a timer, which may be late by any amount.
The task that counts the milliseconds of a clock is one such run.

A timer is late by at most a span if every wait ends within that span from the instant at
which it was to end.  A schedule is punctual if under every such timer it fires for each of its
boundary instants within the span.
-/

import SupportDesk.Proofs.Calendar.Order
import SupportDesk.Shift.Task

namespace SupportDesk

/-- The moments from one on to a span later.  Where the calendar ends before that, all later
moments belong to the window. -/
def Moment.Window (b : Moment) (d : Duration) (m : Moment) : Prop :=
  b ≤ m ∧ ∀ last, b.add d = .ok last → m ≤ last

namespace ShiftSchedule

/-- Where a schedule stands between two waits: the moment that it reads, and the boundaries to
come today. -/
structure Standing where
  now : Moment
  coming : List TimeOfDay
deriving DecidableEq, Repr

/-- The moment at which a wait ends that comes at a position of a run. -/
abbrev Timer := Nat → Wait → Moment

/-- Where a schedule stands before a wait of its run.  There is no standing once it has ended. -/
def standing (s : ShiftSchedule) (start : Moment) (timer : Timer) : Nat → Option Standing
  | 0 => some ⟨start, s.times⟩
  | n + 1 => (s.standing start timer n).bind fun st =>
      (nextWait? st.now st.coming).map fun wait => ⟨timer n wait, s.comingAfter wait.target⟩

/-- The wait at a position of a run. -/
def pending (s : ShiftSchedule) (start : Moment) (timer : Timer) (n : Nat) : Option Wait :=
  (s.standing start timer n).bind fun st => nextWait? st.now st.coming

/-- Every wait of the run ends within a span from its instant. -/
def Late (s : ShiftSchedule) (start : Moment) (d : Duration) (timer : Timer) : Prop :=
  ∀ n wait, s.pending start timer n = some wait → wait.instant.Window d (timer n wait)

/-- The run calls back at a moment, at which a wait for a boundary ends. -/
def Fires (s : ShiftSchedule) (start : Moment) (timer : Timer) (m : Moment) : Prop :=
  ∃ n wait rest, s.pending start timer n = some wait ∧ wait.target = .boundary rest ∧
    timer n wait = m

/-- Under every timer that is late by at most a span, the schedule fires for each of its
boundary instants after the start within that span. -/
def Punctual (s : ShiftSchedule) (start : Moment) (d : Duration) : Prop :=
  ∀ timer, s.Late start d timer → ∀ b : Moment, b.time ∈ s.times → start < b →
    ∃ m, s.Fires start timer m ∧ b.Window d m

/-! ## The next wait -/

/-- The schedule passes over the boundaries that are behind and waits for the first of the
others; where none is left it waits for midnight. -/
theorem nextWait?_cases {now : Moment} {coming : List TimeOfDay} {wait : Wait}
    (h : nextWait? now coming = some wait) :
    (∃ time rest, wait = ⟨⟨now.date, time⟩, .boundary rest⟩ ∧ (time :: rest).Sublist coming ∧
      now ≤ ⟨now.date, time⟩ ∧ ∀ t ∈ coming, now ≤ ⟨now.date, t⟩ → t ∈ time :: rest) ∨
    (∃ date, wait = ⟨⟨date, TimeOfDay.midnight⟩, .midnight⟩ ∧
      date.number = now.date.number + 1 ∧ ∀ t ∈ coming, (⟨now.date, t⟩ : Moment) < now) := by
  induction coming with
  | nil =>
      obtain ⟨instant, hinstant, rfl⟩ := Option.map_eq_some_iff.mp h
      obtain ⟨date, hdate, rfl⟩ := Option.map_eq_some_iff.mp hinstant
      exact .inr ⟨date, rfl, Date.addDays?_eq_some_iff.mp hdate, by simp⟩
  | cons first coming ih =>
      rw [nextWait?] at h
      split at h
      next hbehind =>
        rcases ih h with ⟨time, rest, rfl, hsub, hle, hrest⟩ | ⟨date, rfl, hdate, hall⟩
        · refine .inl ⟨time, rest, rfl, hsub.cons first, hle, ?_⟩
          intro t ht hnow
          rcases List.mem_cons.mp ht with rfl | ht
          · exact absurd hbehind (not_lt_of_ge hnow)
          · exact hrest t ht hnow
        · refine .inr ⟨date, rfl, hdate, ?_⟩
          intro t ht
          rcases List.mem_cons.mp ht with rfl | ht
          · exact hbehind
          · exact hall t ht
      next hahead =>
        cases h
        exact .inl ⟨first, coming, rfl, List.Sublist.refl _, le_of_not_gt hahead, fun t ht _ => ht⟩

/-- There is a next wait while a boundary of today is not behind or the calendar goes on. -/
theorem exists_nextWait? {now : Moment} {coming : List TimeOfDay}
    (h : (∃ t ∈ coming, now ≤ ⟨now.date, t⟩) ∨ now.date.number < Date.lastNumber) :
    ∃ wait, nextWait? now coming = some wait := by
  induction coming with
  | nil =>
      have hnext : now.date.number < Date.lastNumber := by simpa using h
      have hfirst := now.date.first_le
      have hdate : now.date.addDays? 1 = some ⟨now.date.number + 1, by omega, by omega⟩ :=
        Date.addDays?_eq_some_iff.mpr rfl
      simp [nextWait?, Moment.nextMidnight?, hdate]
  | cons time rest ih =>
      rw [nextWait?]
      split
      next hbehind =>
        apply ih
        rcases h with ⟨t, ht, hle⟩ | hnext
        · rcases List.mem_cons.mp ht with rfl | ht
          · exact absurd hbehind (not_lt_of_ge hle)
          · exact .inl ⟨t, ht, hle⟩
        · exact .inr hnext
      next => exact ⟨_, rfl⟩

/-- The instant of a wait is not behind. -/
theorem le_instant {now : Moment} {coming : List TimeOfDay} {wait : Wait}
    (h : nextWait? now coming = some wait) : now ≤ wait.instant := by
  rcases nextWait?_cases h with ⟨time, rest, rfl, -, hle, -⟩ | ⟨date, rfl, hdate, -⟩
  · exact hle
  · exact (Moment.lt_of_number_lt (by simp only; omega)).le

/-- Every standing lists boundaries of the schedule in increasing order. -/
structure Standing.Sound (s : ShiftSchedule) (st : Standing) : Prop where
  sorted : st.coming.Pairwise (· < ·)
  listed : ∀ t ∈ st.coming, t ∈ s.times

/-- The standings of a run are sound. -/
theorem sound_standing {s : ShiftSchedule} (hsorted : s.times.Pairwise (· < ·)) {start : Moment}
    {timer : Timer} {n : Nat} {st : Standing} (h : s.standing start timer n = some st) :
    st.Sound s := by
  induction n generalizing st with
  | zero =>
      cases h
      exact ⟨hsorted, fun t ht => ht⟩
  | succ n ih =>
      obtain ⟨before, hbefore, hnext⟩ := Option.bind_eq_some_iff.mp h
      obtain ⟨wait, hwait, rfl⟩ := Option.map_eq_some_iff.mp hnext
      obtain ⟨hsorted', hlisted⟩ := ih hbefore
      rcases nextWait?_cases hwait with ⟨time, rest, rfl, hsub, -⟩ | ⟨date, rfl, -⟩
      · have hrest : rest.Sublist before.coming := (List.sublist_cons_self time rest).trans hsub
        exact ⟨hsorted'.sublist hrest, fun t ht => hlisted t (hrest.subset ht)⟩
      · exact ⟨hsorted, fun t ht => ht⟩

/-- A run goes on from a standing with its next wait. -/
theorem pending_of_standing {s : ShiftSchedule} {start : Moment} {timer : Timer} {n : Nat}
    {st : Standing} (h : s.standing start timer n = some st) :
    s.pending start timer n = nextWait? st.now st.coming := by
  rw [pending, h, Option.bind_some]

theorem standing_succ {s : ShiftSchedule} {start : Moment} {timer : Timer} {n : Nat}
    {st : Standing} {wait : Wait} (h : s.standing start timer n = some st)
    (hwait : nextWait? st.now st.coming = some wait) :
    s.standing start timer (n + 1) = some ⟨timer n wait, s.comingAfter wait.target⟩ := by
  rw [standing, h, Option.bind_some, hwait, Option.map_some]

/-! ## The task as a run -/

/-- The elapsed time at which a task of a clock stands before a wait, and where it stands.  The
task counts the milliseconds to each instant, rounded up. -/
def counted (s : ShiftSchedule) (clock : Clock) (elapsed : Nat) (start : Moment) :
    Nat → Option (Nat × Standing)
  | 0 => some (elapsed, ⟨start, s.times⟩)
  | n + 1 => (s.counted clock elapsed start n).bind fun (e, st) =>
      (nextWait? st.now st.coming).bind fun wait =>
        let deadline := e + (wait.instant.since st.now).coveringMillis
        match clock.read deadline with
        | .ok now => some (deadline, ⟨now, s.comingAfter wait.target⟩)
        | .error _ => none

/-- The timer of a task that counts the milliseconds of a clock.  Where the clock has no reading
the run has ended. -/
def countedTimer (s : ShiftSchedule) (clock : Clock) (elapsed : Nat) (start : Moment) : Timer :=
  fun n wait =>
    match s.counted clock elapsed start n with
    | some (e, st) =>
      match clock.read (e + (wait.instant.since st.now).coveringMillis) with
      | .ok now => now
      | .error _ => wait.instant
    | none => wait.instant

/-- While the clock has readings, the task stands where the run under its timer does. -/
theorem standing_of_counted {s : ShiftSchedule} {clock : Clock} {elapsed : Nat}
    {start : Moment} {n e : Nat} {st : Standing}
    (h : s.counted clock elapsed start n = some (e, st)) :
    s.standing start (s.countedTimer clock elapsed start) n = some st := by
  induction n generalizing e st with
  | zero =>
      cases h
      rfl
  | succ n ih =>
      obtain ⟨⟨before, bst⟩, hbefore, hnext⟩ := Option.bind_eq_some_iff.mp h
      obtain ⟨wait, hwait, hread⟩ := Option.bind_eq_some_iff.mp hnext
      rw [standing_succ (ih hbefore) hwait]
      simp only at hread
      split at hread
      next now hnow =>
        cases hread
        simp only [countedTimer, hbefore, hnow]
      next => cases hread

/-- Whenever the task calls back, the run under its timer calls back at what the clock reads
then. -/
theorem fires_of_mem_runBefore {s : ShiftSchedule} {clock : Clock} {elapsed : Nat}
    {start : Moment} (stop fuel : Nat) {n e : Nat} {st : Standing}
    (hcounted : s.counted clock elapsed start n = some (e, st))
    (hread : clock.read e = .ok st.now) {f : Nat} {m : Moment}
    (hf : f ∈ (runBefore clock stop fuel (s.arm clock e st.coming)).1)
    (hm : clock.read f = .ok m) :
    s.Fires start (s.countedTimer clock elapsed start) m := by
  induction fuel generalizing n e st with
  | zero => cases hf
  | succ fuel ih =>
      have hstanding := standing_of_counted hcounted
      rw [runBefore, arm, hread] at hf
      cases hwait : nextWait? st.now st.coming with
      | none => simp [hwait, alarm?] at hf
      | some wait =>
          let deadline := e + (wait.instant.since st.now).coveringMillis
          -- What the task does after this wait is what it does from its next standing.
          have later (hrest : f ∈ (runBefore clock stop fuel
              (s.arm clock deadline (s.comingAfter wait.target))).1) :
              s.Fires start (s.countedTimer clock elapsed start) m := by
            cases hnow : clock.read deadline with
            | error err =>
                rw [arm, hnow] at hrest
                cases fuel <;> cases hrest
            | ok now =>
                have hnext : s.counted clock elapsed start (n + 1) =
                    some (deadline, ⟨now, s.comingAfter wait.target⟩) := by
                  simp only [deadline] at hnow
                  simp [counted, hcounted, hwait, hnow, deadline]
                exact ih hnext hnow hrest
          simp only [hwait, alarm?] at hf
          split at hf
          next =>
            cases htarget : wait.target with
            | midnight =>
                rw [htarget] at hf
                exact later (htarget ▸ hf)
            | boundary rest =>
                rw [htarget] at hf
                rcases List.mem_cons.mp hf with rfl | hrest
                · refine ⟨n, wait, rest, ?_, htarget, ?_⟩
                  · rw [pending_of_standing hstanding, hwait]
                  · simp only [countedTimer, hcounted, hm]
                · exact later (htarget ▸ hrest)
          next => cases hf

end ShiftSchedule

/-- A new task fires as the run of its schedule under its own timer does. -/
theorem ShiftTask.fires_of_mem_sleep {clock : Clock} {start : Moment} (times : List TimeOfDay)
    (hstart : clock.read 0 = .ok start) (ms : Nat) {f : Nat} {m : Moment}
    (hf : f ∈ ((ShiftTask.start clock times).sleep ms).1) (hm : clock.read f = .ok m) :
    (ShiftSchedule.ofTimes times).Fires start
      ((ShiftSchedule.ofTimes times).countedTimer clock 0 start) m := by
  unfold sleep at hf
  split at hf
  next => cases hf
  next =>
    have hfirst : (ShiftSchedule.ofTimes times).counted clock 0 start 0 =
        some (0, ⟨start, (ShiftSchedule.ofTimes times).times⟩) := rfl
    exact ShiftSchedule.fires_of_mem_runBefore _ _ hfirst hstart hf hm

end SupportDesk
