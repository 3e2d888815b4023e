/-
# The task on a clock of milliseconds

A task counts the milliseconds to each of its instants, rounded up.  Where the clock starts at a
whole millisecond and the boundaries are whole milliseconds, nothing is rounded, and the task
is the run of its schedule on an exact timer.  What it fires while it sleeps is therefore known
from the clock alone: the elapsed times at which a boundary time is read.  A start inside a leap
second is left out, since the span from there to another day is a second short.

A task that is cancelled or shut down fires no more.  What is due when it is cancelled has not
happened yet.
-/

import SupportDesk.Proofs.Shift.Exact

namespace SupportDesk

/-- A reading at a whole millisecond, and not inside a leap second. -/
def TimeOfDay.OnMilli (t : TimeOfDay) : Prop := t.isLeap = false ∧ t.nano % 1000000 = 0

instance (t : TimeOfDay) : Decidable t.OnMilli :=
  inferInstanceAs (Decidable (t.isLeap = false ∧ t.nano % 1000000 = 0))

theorem TimeOfDay.onMilli_midnight : midnight.OnMilli := by decide

theorem Moment.line_mod_of_onMilli {m : Moment} (h : m.time.OnMilli) : m.line % 1000000 = 0 := by
  have hmilli := h.2
  rw [line, TimeOfDay.linear_of_ordinary h.1]
  simp only [TimeOfDay.perDay]
  omega

namespace Clock

variable {start m m' w : Moment} {e e' : Nat}

/-- Counted from a whole millisecond, a wait for another one ends in time. -/
theorem read_following_of_onMilli (hread : (following start).read e = .ok m)
    (hm : m.time.OnMilli) (hw : w.time.OnMilli) (hle : m ≤ w) :
    (following start).read (e + (w.since m).coveringMillis) = .ok w := by
  have hmmod := Moment.line_mod_of_onMilli hm
  have hwmod := Moment.line_mod_of_onMilli hw
  have hline := Moment.line_le_of_le hle hw.1
  have hspan := Moment.nanos_since (m := m) hw.1
  rw [hm.1] at hspan
  simp only [Bool.false_eq_true, false_and, if_false, Int.sub_zero] at hspan
  have hwline : w.line = m.line + (w.since m).coveringMillis * 1000000 := by
    simp only [Duration.coveringMillis, Duration.perMilli]
    omega
  apply read_following_of_line hread hw.1 hwline
  rw [hm.1]
  exact fun hleap => absurd hleap Bool.false_ne_true

/-- From a whole millisecond on, every other one of the calendar is read. -/
theorem exists_read_of_onMilli (hstart : start.time.OnMilli) (hm : m.time.OnMilli)
    (hle : start ≤ m) : ∃ f, (following start).read f = .ok m :=
  ⟨_, read_following_of_onMilli (read_following_zero start) hstart hm hle⟩

/-- What is read later is read at a later time. -/
theorem elapsed_lt_of_lt (hlt : m < m') (h : (following start).read e = .ok m)
    (h' : (following start).read e' = .ok m') : e < e' := by
  by_contra hnot
  exact absurd hlt (not_lt_of_ge (le_of_read_following (not_lt.mp hnot) h' h))

theorem elapsed_le_of_le (hle : m ≤ m') (h : (following start).read e = .ok m)
    (h' : (following start).read e' = .ok m') : e ≤ e' := by
  by_contra hnot
  exact absurd hle (not_le_of_gt (lt_of_read_following (not_le.mp hnot) h' h))

end Clock

namespace ShiftSchedule

open Clock (following)

/-- The instants of a schedule and its start are whole milliseconds. -/
structure OnMillis (s : ShiftSchedule) (start : Moment) : Prop where
  sorted : s.times.Pairwise (· < ·)
  start : start.time.OnMilli
  times : ∀ t ∈ s.times, t.OnMilli

/-- A schedule has begun and is before the wait at a position of its run. -/
inductive Stands (s : ShiftSchedule) (start : Moment) : ShiftSchedule → Nat → Prop
  | waiting {n d : Nat} {wait : Wait} (hwait : s.pending start exactTimer n = some wait)
      (hread : (following start).read d = .ok wait.instant) :
      Stands s start ⟨s.times, .waiting d wait.target⟩ n
  | finished {n : Nat} (hend : s.pending start exactTimer n = none) :
      Stands s start ⟨s.times, .finished⟩ n

/-- The next wait of a schedule does not end before an elapsed time. -/
def RestsUntil (r : ShiftSchedule) (stop : Nat) : Prop :=
  ∀ d target, r.alarm? = some (d, target) → stop ≤ d

/-- A bound for the number of waits of a schedule that end before an elapsed time.  A wait for
midnight and one for a boundary may end at once. -/
def waitsBefore (stop : Nat) (r : ShiftSchedule) : Nat :=
  match r.stage with
  | .waiting d (.boundary _) => 2 * (stop - d) - 1
  | .waiting d .midnight => 2 * (stop - d)
  | .idle | .finished => 0

variable {s r : ShiftSchedule} {start m : Moment} {n k d f stop : Nat} {wait : Wait}

/-- Every wait ends at a whole millisecond. -/
theorem OnMillis.instant (h : s.OnMillis start) (hwait : s.pending start exactTimer n = some wait) :
    wait.instant.time.OnMilli := by
  rcases time_instant h.sorted hwait with ⟨hlisted, -⟩ | ⟨hmidnight, -⟩
  · exact h.times _ hlisted
  · rw [hmidnight]
    exact TimeOfDay.onMilli_midnight

/-- A schedule that looks at the clock where its run stands goes on as its run does. -/
theorem OnMillis.stands_arm (h : s.OnMillis start) {stage : Stage} {coming : List TimeOfDay}
    (hstanding : s.standing start exactTimer n = some ⟨m, coming⟩)
    (hread : (following start).read d = .ok m) (hm : m.time.OnMilli) :
    Stands s start (arm ⟨s.times, stage⟩ (following start) d coming) n := by
  have hpending := pending_of_standing hstanding
  simp only at hpending
  rw [arm, hread]
  dsimp only
  cases hwait : nextWait? m coming with
  | none => exact .finished (hpending.trans hwait)
  | some wait =>
      have hnext := hpending.trans hwait
      exact .waiting hnext
        (Clock.read_following_of_onMilli hread hm (h.instant hnext) (le_instant hwait))

/-- A wait that is over is followed by the next one of the run. -/
theorem OnMillis.stands_wake (h : s.OnMillis start)
    (hwait : s.pending start exactTimer n = some wait)
    (hread : (following start).read d = .ok wait.instant) (stage : Stage) :
    Stands s start (arm ⟨s.times, stage⟩ (following start) d (s.comingAfter wait.target))
      (n + 1) := by
  obtain ⟨-, -, -, hnext⟩ := standing_of_pending hwait
  exact h.stands_arm hnext hread (h.instant hwait)

/-- At most two waits end at one elapsed time. -/
theorem OnMillis.waitsBefore_lt (h : s.OnMillis start)
    (hwait : s.pending start exactTimer n = some wait)
    (hread : (following start).read d = .ok wait.instant) (hdue : d < stop)
    (hr : Stands s start r (n + 1)) :
    waitsBefore stop r < waitsBefore stop ⟨s.times, .waiting d wait.target⟩ := by
  have hpositive : 0 < waitsBefore stop ⟨s.times, .waiting d wait.target⟩ := by
    cases htarget : wait.target <;> simp only [waitsBefore] <;> omega
  cases hr with
  | finished => exact hpositive
  | @waiting _ d' next hnext hread' =>
      have hle := Clock.elapsed_le_of_le (instant_le_next hwait hnext) hread hread'
      cases htarget : wait.target with
      | boundary rest =>
          have hlt := Clock.elapsed_lt_of_lt (instant_lt_of_boundary h.sorted hwait htarget hnext)
            hread hread'
          cases hkind : next.target <;> simp only [waitsBefore] <;> omega
      | midnight =>
          cases hkind : next.target with
          | boundary rest =>
              simp only [waitsBefore]
              omega
          | midnight =>
              have hlt := Clock.elapsed_lt_of_lt (instant_lt_of_midnight hwait hnext hkind)
                hread hread'
              simp only [waitsBefore]
              omega

/-- A callback that is still to come is not before the next wait ends. -/
theorem Stands.le_of_firesAt (h : Stands s start r n) (hrests : r.RestsUntil stop) (hle : n ≤ k)
    (hfires : s.FiresAt start exactTimer k m) (hread : (following start).read f = .ok m) :
    stop ≤ f := by
  obtain ⟨later, rest, hlater, -, rfl⟩ := hfires
  cases h with
  | finished hend =>
      obtain ⟨wait, hwait⟩ := exists_pending_of_le hle hlater
      rw [hend] at hwait
      cases hwait
  | waiting hwait hdeadline =>
      exact (hrests _ _ rfl).trans
        (Clock.elapsed_le_of_le (instant_le_of_le hle hwait hlater) hdeadline hread)

/-- A schedule has gone from one position of its run to another before an elapsed time, and has
fired at the callbacks in between. -/
structure Passes (s : ShiftSchedule) (start : Moment) (stop n k : Nat) (fired : List Nat) :
    Prop where
  le : n ≤ k
  increasing : fired.Pairwise (· < ·)
  mem_iff : ∀ f, f ∈ fired ↔ ∃ j m, n ≤ j ∧ j < k ∧ s.FiresAt start exactTimer j m ∧
    (following start).read f = .ok m
  before : ∀ f ∈ fired, f < stop

theorem Passes.refl (s : ShiftSchedule) (start : Moment) (stop n : Nat) :
    Passes s start stop n n [] where
  le := le_refl n
  increasing := List.Pairwise.nil
  mem_iff f := by
    constructor
    · intro hf
      cases hf
    · rintro ⟨j, m, hle, hlt, -⟩
      exact absurd hlt (not_lt_of_ge hle)
  before f hf := by cases hf

/-- A callback comes before those that the schedule passes after it. -/
theorem Passes.cons {fired : List Nat} (hsorted : s.times.Pairwise (· < ·))
    (h : Passes s start stop (n + 1) k fired) (hfires : s.FiresAt start exactTimer n m)
    (hread : (following start).read d = .ok m) (hdue : d < stop) :
    Passes s start stop n k (d :: fired) where
  le := (Nat.le_succ n).trans h.le
  increasing := by
    apply List.pairwise_cons.mpr
    refine ⟨?_, h.increasing⟩
    intro f hf
    obtain ⟨j, m', hle, -, hlater, hread'⟩ := (h.mem_iff f).mp hf
    exact Clock.elapsed_lt_of_lt (firesAt_lt_of_lt hsorted (Nat.lt_of_succ_le hle) hfires hlater)
      hread hread'
  mem_iff f := by
    rw [List.mem_cons, h.mem_iff]
    constructor
    · rintro (rfl | ⟨j, m', hle, hlt, hlater, hread'⟩)
      · exact ⟨n, m, le_refl n, h.le, hfires, hread⟩
      · exact ⟨j, m', (Nat.le_succ n).trans hle, hlt, hlater, hread'⟩
    · rintro ⟨j, m', hle, hlt, hlater, hread'⟩
      rcases hle.eq_or_lt with rfl | hafter
      · -- One position has one callback, and the clock reads it once.
        obtain ⟨wait, rest, hwait, -, rfl⟩ := hfires
        obtain ⟨same, rest', hsame, -, rfl⟩ := hlater
        rw [hwait, Option.some.injEq] at hsame
        subst hsame
        exact .inl (le_antisymm (Clock.elapsed_le_of_le (le_refl _) hread' hread)
          (Clock.elapsed_le_of_le (le_refl _) hread hread'))
      · exact .inr ⟨j, m', hafter, hlt, hlater, hread'⟩
  before f hf := by
    rcases List.mem_cons.mp hf with rfl | hf
    · exact hdue
    · exact h.before f hf

/-- Midnight is passed without a callback. -/
theorem Passes.midnight {fired : List Nat} (h : Passes s start stop (n + 1) k fired)
    (hwait : s.pending start exactTimer n = some wait) (htarget : wait.target = .midnight) :
    Passes s start stop n k fired where
  le := (Nat.le_succ n).trans h.le
  increasing := h.increasing
  mem_iff f := by
    rw [h.mem_iff]
    constructor
    · rintro ⟨j, m, hle, hrest⟩
      exact ⟨j, m, (Nat.le_succ n).trans hle, hrest⟩
    · rintro ⟨j, m, hle, hlt, hfires, hread⟩
      rcases hle.eq_or_lt with rfl | hafter
      · obtain ⟨same, rest, hsame, hboundary, -⟩ := hfires
        rw [hwait, Option.some.injEq] at hsame
        rw [← hsame, htarget] at hboundary
        cases hboundary
      · exact ⟨j, m, hafter, hlt, hfires, hread⟩
  before := h.before

/-- A schedule that rests lets the time pass. -/
theorem runBefore_of_rests (hrests : r.RestsUntil stop) (fuel : Nat) (clock : Clock) :
    runBefore clock stop fuel r = ([], r) := by
  cases fuel with
  | zero => rfl
  | succ fuel =>
      rw [runBefore]
      split
      next d target halarm => rw [if_neg (not_lt.mpr (hrests d target halarm))]
      next => rfl

/-- A schedule that has rested until an elapsed time has no more waits left than the time that
it is given allows. -/
theorem RestsUntil.waitsBefore_le {lo : Nat} (h : r.RestsUntil lo) (ms : Nat) :
    waitsBefore (lo + ms) r ≤ waitBound ms := by
  unfold waitsBefore waitBound
  split
  next d rest hstage =>
    have hlo := h d _ (by rw [alarm?, hstage])
    omega
  next d hstage =>
    have hlo := h d _ (by rw [alarm?, hstage])
    omega
  next => exact Nat.zero_le _
  next => exact Nat.zero_le _

/-- Until an elapsed time a schedule goes through its run, callback by callback, and then rests. -/
theorem OnMillis.passes_runBefore (h : s.OnMillis start) {fuel : Nat} (hr : Stands s start r n)
    (hfuel : waitsBefore stop r ≤ fuel) :
    ∃ k, Stands s start (runBefore (following start) stop fuel r).2 k ∧
      (runBefore (following start) stop fuel r).2.RestsUntil stop ∧
      Passes s start stop n k (runBefore (following start) stop fuel r).1 := by
  induction fuel generalizing r n with
  | zero =>
      have hrests : r.RestsUntil stop := by
        intro d target halarm
        cases hr with
        | finished => cases halarm
        | @waiting _ _ wait =>
            cases halarm
            cases htarget : wait.target <;> simp only [waitsBefore, htarget] at hfuel <;> omega
      exact ⟨n, hr, hrests, .refl s start stop n⟩
  | succ fuel ih =>
      by_cases hrests : r.RestsUntil stop
      · rw [runBefore_of_rests hrests]
        exact ⟨n, hr, hrests, .refl s start stop n⟩
      · cases hr with
        | finished => exact absurd (fun _ _ halarm => by cases halarm) hrests
        | @waiting _ d wait hwait hread =>
            have hdue : d < stop := by
              by_contra hnot
              apply hrests
              rintro d' target' ⟨⟩
              exact not_lt.mp hnot
            have hnext := h.stands_wake hwait hread (.waiting d wait.target)
            have hfewer := h.waitsBefore_lt hwait hread hdue hnext
            obtain ⟨k, hk, hkrests, hpasses⟩ := ih hnext (by omega)
            refine ⟨k, ?_⟩
            cases htarget : wait.target with
            | boundary rest =>
                rw [htarget] at hk hkrests hpasses
                simp only [runBefore, alarm?, if_pos hdue]
                exact ⟨hk, hkrests,
                  hpasses.cons h.sorted ⟨wait, rest, hwait, htarget, rfl⟩ hread hdue⟩
            | midnight =>
                rw [htarget] at hk hkrests hpasses
                simp only [runBefore, alarm?, if_pos hdue]
                exact ⟨hk, hkrests, hpasses.midnight hwait htarget⟩

end ShiftSchedule

namespace ShiftTask

open Clock (following)
open ShiftSchedule

/-! ## What can happen to a task -/

/-- Time passes, or the task is told to end. -/
inductive Step
  | sleep (ms : Nat)
  | cancel
  | shutdown
deriving DecidableEq, Repr

/-- The elapsed times at which a task fires in a step, and what the step leaves. -/
def step (t : ShiftTask) : Step → List Nat × ShiftTask
  | .sleep ms => t.sleep ms
  | .cancel => ([], t.cancel)
  | .shutdown => ([], t.shutdown)

/-- The elapsed times at which a task fires in a list of steps, and what they leave. -/
def run : ShiftTask → List Step → List Nat × ShiftTask
  | t, [] => ([], t)
  | t, x :: rest =>
      let (fired, u) := t.step x
      let (later, last) := u.run rest
      (fired ++ later, last)

/-- The milliseconds that pass before a task is told to end. -/
def lifetime : List Step → Nat
  | [] => 0
  | .sleep ms :: rest => ms + lifetime rest
  | .cancel :: _ | .shutdown :: _ => 0

/-- An elapsed time at which a clock reads a listed time of day. -/
def Strikes (times : List TimeOfDay) (start : Moment) (f : Nat) : Prop :=
  ∃ m, (following start).read f = .ok m ∧ m.time ∈ times

variable {times : List TimeOfDay} {start : Moment} {t : ShiftTask} {n f : Nat}

/-- The clock reads a listed time where the schedule calls back. -/
theorem strikes_iff : Strikes times start f ↔
    ∃ n m, FiresAt (.ofTimes times) start exactTimer n m ∧ (following start).read f = .ok m := by
  have hsorted : (ShiftSchedule.ofTimes times).times.Pairwise (· < ·) :=
    TimeOfDay.pairwise_sortedDistinct times
  constructor
  · rintro ⟨m, hread, hm⟩
    have hstart :=
      Clock.le_of_read_following (Nat.zero_le f) (Clock.read_following_zero start) hread
    obtain ⟨n, hfires⟩ := exists_firesAt hsorted (TimeOfDay.mem_sortedDistinct.mpr hm) hstart
    exact ⟨n, m, hfires, hread⟩
  · rintro ⟨n, m, hfires, hread⟩
    have hlisted := (listed_of_firesAt hsorted hfires).1
    exact ⟨m, hread, TimeOfDay.mem_sortedDistinct.mp hlisted⟩

/-- A list of elapsed times is that of all the strikes from one elapsed time to another, in their
order. -/
structure StrikesBetween (times : List TimeOfDay) (start : Moment) (lo hi : Nat)
    (fired : List Nat) : Prop where
  increasing : fired.Pairwise (· < ·)
  mem_iff : ∀ f, f ∈ fired ↔ lo ≤ f ∧ f < hi ∧ Strikes times start f

theorem strikesBetween_self (times : List TimeOfDay) (start : Moment) (lo : Nat) :
    StrikesBetween times start lo lo [] where
  increasing := List.Pairwise.nil
  mem_iff f := by
    simp only [List.not_mem_nil, false_iff]
    omega

theorem StrikesBetween.append {lo mid hi : Nat} {fired later : List Nat} (hlo : lo ≤ mid)
    (hhi : mid ≤ hi) (h : StrikesBetween times start lo mid fired)
    (hlater : StrikesBetween times start mid hi later) :
    StrikesBetween times start lo hi (fired ++ later) where
  increasing := by
    apply List.pairwise_append.mpr
    refine ⟨h.increasing, hlater.increasing, ?_⟩
    intro f hf g hg
    exact ((h.mem_iff f).mp hf).2.1.trans_le ((hlater.mem_iff g).mp hg).1
  mem_iff f := by
    rw [List.mem_append, h.mem_iff, hlater.mem_iff]
    constructor
    · rintro (⟨hlow, hhigh, hstrikes⟩ | ⟨hlow, hhigh, hstrikes⟩)
      · exact ⟨hlow, hhigh.trans_le hhi, hstrikes⟩
      · exact ⟨hlo.trans hlow, hhigh, hstrikes⟩
    · rintro ⟨hlow, hhigh, hstrikes⟩
      rcases Nat.lt_or_ge f mid with hlt | hge
      · exact .inl ⟨hlow, hlt, hstrikes⟩
      · exact .inr ⟨hge, hhigh, hstrikes⟩

/-- A task that has been told to end fires no more. -/
theorem fst_sleep_of_cancelled (h : t.cancelled = true) (ms : Nat) :
    (t.sleep ms).1 = [] ∧ (t.sleep ms).2.cancelled = true := by
  unfold sleep
  split
  · exact ⟨rfl, h⟩
  · have hrests : t.schedule.cancel.RestsUntil (t.elapsed + ms) := by
      rintro d target ⟨⟩
    simp only [h, runBefore_of_rests hrests, and_self]

theorem fst_run_of_cancelled (h : t.cancelled = true) (steps : List Step) :
    (t.run steps).1 = [] := by
  induction steps generalizing t with
  | nil => rfl
  | cons x rest ih =>
      cases x with
      | sleep ms =>
          obtain ⟨hnone, hstill⟩ := fst_sleep_of_cancelled h ms
          simp only [run, step, hnone, List.nil_append, ih hstill]
      | cancel => simp only [run, step, List.nil_append, ih (t := t.cancel) rfl]
      | shutdown => simp only [run, step, List.nil_append, ih (t := t.shutdown) rfl]

/-- A task is before the wait at a position of the run of its schedule.  Every callback of the run
before this position has been made, and no other is due. -/
structure Tracks (times : List TimeOfDay) (start : Moment) (t : ShiftTask) (n : Nat) : Prop where
  clock : t.clock = following start
  live : t.cancelled = false
  schedule : (t.schedule = .ofTimes times ∧ t.elapsed = 0 ∧ n = 0) ∨
    (Stands (.ofTimes times) start t.schedule n ∧ t.schedule.RestsUntil t.elapsed)
  before : ∀ j m f, j < n → FiresAt (.ofTimes times) start exactTimer j m →
    (following start).read f = .ok m → f < t.elapsed

theorem tracks_start (times : List TimeOfDay) (start : Moment) :
    Tracks times start (.start (following start) times) 0 where
  clock := rfl
  live := rfl
  schedule := .inl ⟨rfl, rfl, rfl⟩
  before _ _ _ hj := absurd hj (Nat.not_lt_zero _)

namespace Tracks

/-- At its first chance the task begins. -/
theorem stands_begin (h : Tracks times start t n) (hmillis : OnMillis (.ofTimes times) start) :
    Stands (.ofTimes times) start (t.schedule.begin t.clock t.elapsed) n ∧
      (t.schedule.begin t.clock t.elapsed).RestsUntil t.elapsed := by
  rcases h.schedule with ⟨hidle, helapsed, rfl⟩ | ⟨hstands, hrests⟩
  · rw [hidle, helapsed, h.clock]
    refine ⟨hmillis.stands_arm (n := 0) rfl (Clock.read_following_zero start) hmillis.start, ?_⟩
    intro d target _
    exact Nat.zero_le d
  · have hbegun : t.schedule.begin t.clock t.elapsed = t.schedule := by
      generalize t.schedule = r at hstands
      cases hstands <;> rfl
    rw [hbegun]
    exact ⟨hstands, hrests⟩

/-- A task that is told nothing sleeps as its schedule goes. -/
theorem sleep_eq (h : Tracks times start t n) {ms : Nat} (hms : ms ≠ 0) :
    t.sleep ms =
      let left := runBefore (following start) (t.elapsed + ms) (waitBound ms)
        (t.schedule.begin t.clock t.elapsed)
      (left.1, { t with schedule := left.2, elapsed := t.elapsed + ms }) := by
  simp only [ShiftTask.sleep, if_neg hms, h.live, h.clock, Bool.false_eq_true, if_false]

/-- While time passes, the task fires at the elapsed times at which a boundary time is read. -/
theorem sleep (h : Tracks times start t n) (hmillis : OnMillis (.ofTimes times) start) (ms : Nat) :
    ∃ k, Tracks times start (t.sleep ms).2 k ∧ (t.sleep ms).2.elapsed = t.elapsed + ms ∧
      StrikesBetween times start t.elapsed (t.elapsed + ms) (t.sleep ms).1 := by
  by_cases hms : ms = 0
  · subst hms
    exact ⟨n, h, rfl, strikesBetween_self times start t.elapsed⟩
  · obtain ⟨hstands, hrests⟩ := h.stands_begin hmillis
    obtain ⟨k, hk, hkrests, hpasses⟩ :=
      hmillis.passes_runBefore hstands (hrests.waitsBefore_le ms)
    rw [h.sleep_eq hms]
    refine ⟨k, ⟨h.clock, h.live, .inr ⟨hk, hkrests⟩, ?_⟩, rfl, hpasses.increasing, ?_⟩
    · intro j m f hj hfires hread
      rcases Nat.lt_or_ge j n with hlt | hge
      · exact (h.before j m f hlt hfires hread).trans_le (Nat.le_add_right _ _)
      · exact hpasses.before f ((hpasses.mem_iff f).mpr ⟨j, m, hge, hj, hfires, hread⟩)
    · intro f
      rw [hpasses.mem_iff, strikes_iff]
      constructor
      · rintro ⟨j, m, hge, hlt, hfires, hread⟩
        exact ⟨hstands.le_of_firesAt hrests hge hfires hread,
          hpasses.before f ((hpasses.mem_iff f).mpr ⟨j, m, hge, hlt, hfires, hread⟩),
          j, m, hfires, hread⟩
      · rintro ⟨hlow, hhigh, j, m, hfires, hread⟩
        refine ⟨j, m, ?_, ?_, hfires, hread⟩
        · by_contra hnot
          exact absurd (h.before j m f (not_le.mp hnot) hfires hread) (not_lt_of_ge hlow)
        · by_contra hnot
          exact absurd (hk.le_of_firesAt hkrests (not_lt.mp hnot) hfires hread) (not_le_of_gt hhigh)

/-- Until it is told to end, the task fires at the elapsed times at which a boundary time is
read. -/
theorem run (h : Tracks times start t n) (hmillis : OnMillis (.ofTimes times) start)
    (steps : List Step) :
    StrikesBetween times start t.elapsed (t.elapsed + lifetime steps) (t.run steps).1 := by
  induction steps generalizing t n with
  | nil => exact strikesBetween_self times start t.elapsed
  | cons x rest ih =>
      cases x with
      | cancel =>
          simp only [ShiftTask.run, step, fst_run_of_cancelled (t := t.cancel) rfl]
          exact strikesBetween_self times start t.elapsed
      | shutdown =>
          simp only [ShiftTask.run, step, fst_run_of_cancelled (t := t.shutdown) rfl]
          exact strikesBetween_self times start t.elapsed
      | sleep ms =>
          obtain ⟨k, hk, helapsed, hfirst⟩ := h.sleep hmillis ms
          have hlater := ih hk
          rw [helapsed] at hlater
          simp only [ShiftTask.run, step, lifetime, ← Nat.add_assoc]
          exact hfirst.append (Nat.le_add_right _ _) (Nat.le_add_right _ _) hlater

end Tracks

/-- A new task fires, until it is told to end, at all the elapsed times at which a boundary time
is read, in their order. -/
theorem strikesBetween_run (times : List TimeOfDay) (start : Moment)
    (hstart : start.time.OnMilli) (htimes : ∀ t ∈ times, t.OnMilli) (steps : List Step) :
    StrikesBetween times start 0 (lifetime steps)
      ((ShiftTask.start (following start) times).run steps).1 := by
  have hmillis : OnMillis (.ofTimes times) start :=
    ⟨TimeOfDay.pairwise_sortedDistinct times, hstart,
      fun t ht => htimes t (TimeOfDay.mem_sortedDistinct.mp ht)⟩
  have h := (tracks_start times start).run hmillis steps
  rwa [show (ShiftTask.start (following start) times).elapsed = 0 from rfl, Nat.zero_add] at h

end ShiftTask

namespace ShiftSchedule

open Clock (following)

/-- A schedule for any list of boundary times, on a timer that is never late, calls back at the
instants from its start on whose time of day is in the list: at all of them and at no other, one
after the other, and after a cancellation at none.  On ordinary times this timer lets the span pass
that each wait asks for.  A task that counts whole milliseconds fires at the elapsed times at which
its clock reads a boundary time until it is told to end, and its clock misses none of them. -/
theorem fires_exactly_at_boundaries (times : List TimeOfDay) (start : Moment) :
    let s := ofTimes times
    (∀ m, (∃ n, s.FiresAt start exactTimer n m) ↔ m.time ∈ times ∧ start ≤ m) ∧
    (∀ n k m m', n < k → s.FiresAt start exactTimer n m → s.FiresAt start exactTimer k m' →
      m < m') ∧
    (∀ n stop, s.CancelledAfter start exactTimer n stop →
      (∀ k < n, ∀ m, s.FiresAt start exactTimer k m → m ≤ stop) ∧
        ∀ m, m.time ∈ times → start ≤ m → m < stop → ∃ k < n, s.FiresAt start exactTimer k m) ∧
    (start.time.isLeap = false → (∀ t ∈ times, t.isLeap = false) → ∀ n st wait,
      s.standing start exactTimer n = some st → nextWait? st.now st.coming = some wait →
        st.now.add (wait.instant.since st.now) = .ok (exactTimer n wait)) ∧
    (start.time.OnMilli → (∀ t ∈ times, t.OnMilli) →
      (∀ steps, ShiftTask.StrikesBetween times start 0 (ShiftTask.lifetime steps)
        ((ShiftTask.start (following start) times).run steps).1) ∧
        ∀ m, m.time ∈ times → start ≤ m → ∃ f, (following start).read f = .ok m) := by
  intro s
  have hsorted : s.times.Pairwise (· < ·) := TimeOfDay.pairwise_sortedDistinct times
  have hlisted (t : TimeOfDay) : t ∈ s.times ↔ t ∈ times := TimeOfDay.mem_sortedDistinct
  refine ⟨?all, ?ordered, ?cancelled, ?asked, ?counted⟩
  case all =>
    intro m
    rw [exists_firesAt_iff hsorted, hlisted]
  case ordered =>
    intro n k m m' hlt hn hk
    exact firesAt_lt_of_lt hsorted hlt hn hk
  case cancelled =>
    intro n stop hcancelled
    obtain ⟨hbefore, hmissed⟩ := firesAt_of_cancelled hsorted hcancelled
    refine ⟨hbefore, ?_⟩
    intro m hm
    exact hmissed m ((hlisted m.time).mpr hm)
  case asked =>
    intro hstart htimes n st wait hst hwait
    exact add_since_of_standing hsorted hstart (fun t ht => htimes t ((hlisted t).mp ht)) hst hwait
  case counted =>
    intro hstart htimes
    refine ⟨ShiftTask.strikesBetween_run times start hstart htimes, ?_⟩
    intro m hm hle
    exact Clock.exists_read_of_onMilli hstart (htimes _ hm) hle

/-- A task that starts in the last hour of a day and has a boundary at midnight fires there, and,
cancelled a millisecond later, at nothing more.  A schedule that is cancelled in the first hour of
the new day has called back at midnight. -/
theorem fires_exactly_at_boundaries_next_midnight :
    let start : Moment := ⟨.sample, .onTheHour 23⟩
    let fired := ((ShiftTask.start (following start) [.midnight]).run
      [.sleep 3600000, .sleep 1, .cancel, .sleep 86400000]).1
    let next : Date := ⟨Date.sample.number + 1, by decide, by decide⟩
    let s := ofTimes [TimeOfDay.midnight]
    (3600000 ∈ fired ∧ ∀ f ∈ fired, f < 3600001) ∧
      s.CancelledAfter start exactTimer 2 ⟨next, .onTheHour 1⟩ ∧
      ∃ k < 2, s.FiresAt start exactTimer k ⟨next, .midnight⟩ := by
  intro start fired next s
  have hcancelled : s.CancelledAfter start exactTimer 2 ⟨next, .onTheHour 1⟩ := by
    constructor
    · decide +kernel
    · decide +kernel
  obtain ⟨-, -, hcut, -, hcounted⟩ := fires_exactly_at_boundaries [.midnight] start
  obtain ⟨hstrikes, -⟩ := hcounted (by decide) (by decide)
  have hfired := (hstrikes [.sleep 3600000, .sleep 1, .cancel, .sleep 86400000]).mem_iff
  refine ⟨⟨?_, fun f hf => ((hfired f).mp hf).2.1⟩, hcancelled, ?_⟩
  · apply (hfired 3600000).mpr
    exact ⟨by decide, by decide, ⟨next, .midnight⟩, by decide +kernel, List.mem_singleton.mpr rfl⟩
  · exact (hcut 2 _ hcancelled).2 _ (List.mem_singleton.mpr rfl) (by decide +kernel)
      (by decide +kernel)

end ShiftSchedule

end SupportDesk
