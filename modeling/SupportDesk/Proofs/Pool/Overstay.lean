/-
# How long a session outlives its timeout

While a desk runs, a sweep is made when its tasks begin and then every second.  A session whose
time has lapsed is ended by the next sweep, wherever it is at that moment, so that it is kept for
less than a second too long.  The reason is an invariant: no session expires before the moment of
the last sweep.  A sweep makes it so, and requests and shift callbacks keep it, because a sign of
life comes no earlier than that sweep and the timeout is not negative.

The sweeps come exactly in time, and no deadline of a session lies beyond the calendar.  Of all
else nothing is assumed: shift callbacks may come at any time, on time or late, and a session may
be asked for under an identifier that is taken.

A desk that is shut down makes no sweeps, and then no session expires however much time passes.
-/

import SupportDesk.Proofs.Pool.Course
import SupportDesk.Proofs.Pool.Renewal

namespace SupportDesk.Desk

open Pool (Situation)

/-- What can happen next to a desk that sweeps in time. -/
inductive Round (d : Desk) : Desk → Prop
  /-- A request to the pool, or a callback of the schedule. -/
  | event {now : Moment} {e : Pool.Event} (hnow : d.now = .ok now) (he : ∀ s, e ≠ .allocate s) :
      Round d { d with pool := ((⟨d.pool, now⟩ : Situation).step e).pool }
  | beginSweep {now : Moment} (hnow : d.now = .ok now) (hreach : d.pool.DeadlinesInCalendar) :
      Round d d.beginSweep
  | beginSchedule : Round d d.beginSchedule
  | sweep {tasks : DeskTasks} {now : Moment} (htasks : d.tasks = some tasks)
      (hdue : tasks.sweep = .due d.elapsed) (hnow : d.now = .ok now)
      (hreach : d.pool.DeadlinesInCalendar) : Round d (d.runSweep tasks)
  | alarm {d' : Desk} (halarm : Alarm d d') : Round d d'
  /-- Time passes, at most to the next sweep. -/
  | pass {tasks : DeskTasks} (ms : Nat) (htasks : d.tasks = some tasks)
      (hbegun : tasks.sweep ≠ .idle)
      (htime : ∀ deadline ∈ tasks.sweep.deadline?, d.elapsed + ms ≤ deadline) :
      Round d { d with elapsed := d.elapsed + ms }

/-- Any number of rounds. -/
abbrev Rounds : Desk → Desk → Prop := Relation.ReflTransGen Round

/-- The sweep that is due has been made. -/
def Swept (d : Desk) : Prop :=
  ∀ tasks ∈ d.tasks, ∀ deadline ∈ tasks.sweep.deadline?, d.elapsed < deadline

/-- What can happen next to a desk that does not run: events of a certain kind come in, and time
passes. -/
inductive Rest (admitted : Pool.Event → Prop) (d : Desk) : Desk → Prop
  | event {now : Moment} {e : Pool.Event} (hnow : d.now = .ok now) (he : admitted e) :
      Rest admitted d { d with pool := ((⟨d.pool, now⟩ : Situation).step e).pool }
  | sleep (ms : Nat) : Rest admitted d (d.sleep ms)

/-! ## No session expires before the last sweep -/

/-- The last sweep of a desk that was started at a moment was made at an elapsed time, and no
session of the desk expires before it.  Before the first sweep the desk's own start counts. -/
structure Attended (timeout : Duration) (start : Moment) (d : Desk) (tasks : DeskTasks)
    (last : Nat) : Prop where
  clock : d.clock = .following start
  running : d.tasks = some tasks
  timeout_eq : d.pool.timeout = timeout
  indexed : d.pool.Indexed
  next : tasks.sweep = .idle ∧ d.elapsed = last ∨ tasks.sweep = .due (last + sweepPeriod)
  last_le : last ≤ d.elapsed
  le_next : d.elapsed ≤ last + sweepPeriod
  expires : ∀ id s, d.pool.Live id s → ∀ swept, (Clock.following start).read last = .ok swept →
    ∀ deadline, s.lastTouchedAt.add timeout = .ok deadline → swept ≤ deadline

variable {timeout : Duration} {start now : Moment} {d d' : Desk} {tasks : DeskTasks} {last : Nat}

namespace Attended

/-- A change of the pool that keeps its timeout and its sessions, some of which it may touch. -/
theorem withPool (h : Attended timeout start d tasks last) (htimeout : 0 ≤ timeout.nanos)
    (hnow : d.now = .ok now) {p : Pool} {mayEnd : SessionId → Prop} (hp : p.timeout = timeout)
    (hrenews : Pool.Renews (· = now) mayEnd d.pool p) :
    Attended timeout start { d with pool := p } tasks last := by
  refine ⟨h.clock, h.running, hp, hrenews.indexed, h.next, h.last_le, h.le_next, ?_⟩
  intro id s hs swept hswept deadline hdeadline
  rcases hrenews.live id s hs with hs | htouched
  · exact h.expires id s hs swept hswept deadline hdeadline
  · rw [Desk.now, h.clock] at hnow
    calc swept
        ≤ now := Clock.le_of_read_following h.last_le hswept hnow
      _ = s.lastTouchedAt := htouched.symm
      _ ≤ deadline := Moment.le_of_add htimeout hdeadline

/-- A change of the schedule. -/
theorem withSchedule (h : Attended timeout start d tasks last) (schedule : ShiftSchedule) :
    Attended timeout start { d with tasks := some { tasks with schedule } }
      { tasks with schedule } last :=
  ⟨h.clock, rfl, h.timeout_eq, h.indexed, h.next, h.last_le, h.le_next, h.expires⟩

/-- A sweep makes its moment the one before which no session expires. -/
theorem runSweep (h : Attended timeout start d tasks last) (hnow : d.now = .ok now)
    (hreach : d.pool.DeadlinesInCalendar) :
    Attended timeout start (d.runSweep tasks)
      { tasks with sweep := .due (d.elapsed + sweepPeriod) } d.elapsed := by
  obtain ⟨hfault, hleft⟩ := h.indexed.sweep_of_deadlines hreach now
  have hsweep : d.runSweep tasks = { d with
      pool := (d.pool.sweep now).pool
      tasks := some { tasks with sweep := .due (d.elapsed + sweepPeriod) } } := by
    rw [Desk.runSweep, hnow]
    simp only [hfault]
  have hrenews : Pool.Renews (fun _ => False) (fun _ => True) d.pool (d.pool.sweep now).pool :=
    h.indexed.renews_sweep now
  rw [hsweep]
  refine ⟨h.clock, rfl, (Pool.sameTerms_sweep d.pool now).timeout.trans h.timeout_eq,
    hrenews.indexed, .inr rfl, le_refl _, Nat.le_add_right _ _, ?_⟩
  intro id s hs swept hswept deadline hdeadline
  obtain rfl : now = swept := by
    rw [Desk.now, h.clock, hswept, Except.ok.injEq] at hnow
    exact hnow.symm
  obtain ⟨-, hlapsed⟩ := hleft id s hs
  rw [h.timeout_eq, lapsed, hdeadline, decide_eq_false_iff_not] at hlapsed
  exact (not_le.mp hlapsed).le

theorem beginSweep (h : Attended timeout start d tasks last) (hnow : d.now = .ok now)
    (hreach : d.pool.DeadlinesInCalendar) :
    ∃ after last, Attended timeout start d.beginSweep after last := by
  simp only [Desk.beginSweep, h.running]
  split
  · exact ⟨_, _, h.runSweep hnow hreach⟩
  · exact ⟨_, _, h⟩

theorem beginSchedule (h : Attended timeout start d tasks last) :
    ∃ after, Attended timeout start d.beginSchedule after last := by
  simp only [Desk.beginSchedule, h.running]
  exact ⟨_, h.withSchedule _⟩

/-- A callback of the schedule moves sessions and ends none. -/
theorem runAlarm (h : Attended timeout start d tasks last) (htimeout : 0 ≤ timeout.nanos)
    (target : ShiftSchedule.Target) :
    ∃ after, Attended timeout start (d.runAlarm tasks target) after last := by
  cases hnow : d.now with
  | error e =>
      simp only [Desk.runAlarm, hnow]
      exact ⟨_, h.withSchedule _⟩
  | ok now =>
      simp only [Desk.runAlarm, hnow]
      cases target with
      | boundary rest =>
          have hrenews : Pool.Renews (· = now) (fun _ => False) d.pool (d.pool.shiftChanged now) :=
            h.indexed.renews_shiftChanged now
          have hterms := (Pool.sameTerms_shiftChanged d.pool now).timeout
          exact ⟨_, (h.withPool htimeout hnow (hterms.trans h.timeout_eq) hrenews).withSchedule _⟩
      | midnight => exact ⟨_, h.withSchedule _⟩

/-- Time passes up to the next sweep at most. -/
theorem pass (h : Attended timeout start d tasks last) {ms : Nat} (hbegun : tasks.sweep ≠ .idle)
    (htime : ∀ deadline ∈ tasks.sweep.deadline?, d.elapsed + ms ≤ deadline) :
    Attended timeout start { d with elapsed := d.elapsed + ms } tasks last := by
  have hdue : tasks.sweep = .due (last + sweepPeriod) :=
    h.next.resolve_left fun hidle => hbegun hidle.1
  have hnext : d.elapsed + ms ≤ last + sweepPeriod := htime _ (by rw [hdue]; rfl)
  exact ⟨h.clock, h.running, h.timeout_eq, h.indexed, .inr hdue,
    h.last_le.trans (Nat.le_add_right _ _), hnext, h.expires⟩

/-- Every round keeps the invariant. -/
theorem round (h : Attended timeout start d tasks last) (htimeout : 0 ≤ timeout.nanos)
    (hround : Round d d') : ∃ after last, Attended timeout start d' after last := by
  cases hround with
  | @event now e hnow he =>
      have hrenews := Situation.renews_step (s := ⟨d.pool, now⟩) h.indexed he
      have hterms := Situation.timeout_step ⟨d.pool, now⟩ e
      exact ⟨_, _, h.withPool htimeout hnow (hterms.trans h.timeout_eq) hrenews⟩
  | beginSweep hnow hreach => exact h.beginSweep hnow hreach
  | beginSchedule =>
      obtain ⟨after, hafter⟩ := h.beginSchedule
      exact ⟨after, last, hafter⟩
  | sweep htasks hdue hnow hreach =>
      obtain rfl := Option.some.inj (h.running.symm.trans htasks)
      exact ⟨_, _, h.runSweep hnow hreach⟩
  | alarm halarm =>
      obtain ⟨htasks, -⟩ := halarm
      obtain rfl := Option.some.inj (h.running.symm.trans htasks)
      obtain ⟨after, hafter⟩ := h.runAlarm htimeout _
      exact ⟨after, last, hafter⟩
  | pass ms htasks hbegun htime =>
      obtain rfl := Option.some.inj (h.running.symm.trans htasks)
      exact ⟨tasks, last, h.pass hbegun htime⟩

theorem rounds (h : Attended timeout start d tasks last) (htimeout : 0 ≤ timeout.nanos)
    (hrounds : Rounds d d') : ∃ after last, Attended timeout start d' after last := by
  induction hrounds with
  | refl => exact ⟨tasks, last, h⟩
  | tail _ hround ih =>
      obtain ⟨_, _, hattended⟩ := ih
      exact hattended.round htimeout hround

/-- The last sweep is less than a period ago once the one that is due has been made. -/
theorem lt_next (h : Attended timeout start d tasks last) (hswept : d.Swept) :
    d.elapsed < last + sweepPeriod := by
  rcases h.next with ⟨-, hlast⟩ | hdue
  · rw [hlast]
    exact Nat.lt_add_of_pos_right (by decide)
  · exact hswept tasks h.running _ (by rw [hdue]; rfl)

/-- The sweep that is due can be made. -/
theorem exists_swept (h : Attended timeout start d tasks last) (hnow : d.now = .ok now)
    (hreach : d.pool.DeadlinesInCalendar) : ∃ d', Rounds d d' ∧ d'.now = .ok now ∧ d'.Swept := by
  by_cases hdue : tasks.sweep = .due d.elapsed
  · have hswept := h.runSweep hnow hreach
    obtain ⟨helapsed, hclock, -⟩ := d.runSweep_frame tasks
    refine ⟨_, .single (.sweep h.running hdue hnow hreach), ?_, ?_⟩
    · rw [Desk.now, helapsed, hclock]
      exact hnow
    · intro after hafter deadline hdeadline
      obtain rfl := Option.some.inj (hswept.running.symm.trans hafter)
      obtain rfl := Option.some.inj hdeadline
      rw [helapsed]
      exact Nat.lt_add_of_pos_right (by decide)
  · refine ⟨d, .refl, hnow, ?_⟩
    intro after hafter deadline hdeadline
    obtain rfl := Option.some.inj (h.running.symm.trans hafter)
    rcases h.next with ⟨hidle, -⟩ | hnext
    · rw [hidle] at hdeadline
      cases hdeadline
    · rw [hnext] at hdeadline hdue
      obtain rfl := Option.some.inj hdeadline
      refine h.le_next.lt_of_ne ?_
      rintro heq
      exact hdue (congrArg SweepTask.due heq.symm)

end Attended

/-- A desk is launched with its tasks made and not begun. -/
theorem launch_following (settings : PoolSettings) (start : Moment) :
    launch settings (.following start) = .ok ⟨.ofSettings settings start, .following start, 0,
      some ⟨.idle, .ofTimes (Allocation.ofSettings settings).shiftBoundaries⟩⟩ := by
  rw [launch, ofSettings, Clock.read_following_zero]
  rfl

/-- A new desk has no sessions, and its start stands for its last sweep. -/
theorem attended_launch (settings : PoolSettings) (start : Moment) :
    ∃ d tasks, launch settings (.following start) = .ok d ∧
      Attended settings.timeout start d tasks 0 := by
  refine ⟨_, _, launch_following settings start, rfl, rfl, rfl,
    Pool.indexed_ofSettings settings start, .inl ⟨rfl, rfl⟩, le_refl 0, Nat.zero_le _, ?_⟩
  rintro id s (hs | hs) <;> cases hs

/-! ## A desk that does not run -/

/-- A sleep of a desk without tasks only passes the time. -/
theorem sleep_of_not_running (hd : d.tasks = none) (ms : Nat) :
    d.sleep ms = { d with elapsed := d.elapsed + ms } := by
  have hbegin : d.beginTasks = d := by
    simp only [beginTasks, beginSweep, beginSchedule, hd]
  unfold sleep
  split
  next hms => rw [hms, Nat.add_zero]
  next => simp only [hbegin, runBefore, hd]

/-- A session stays known to a desk that does not run until it is ended. -/
theorem contains_of_rest {id : SessionId} (hd : d.tasks = none) (hindexed : d.pool.Indexed)
    (hknown : d.pool.contains id = true)
    (hrest : Relation.ReflTransGen (Rest fun e => (∀ s, e ≠ .allocate s) ∧ e ≠ .sweep ∧
      e ≠ .destroy id) d d') :
    d'.tasks = none ∧ d'.pool.Indexed ∧ d'.pool.contains id = true := by
  induction hrest with
  | refl => exact ⟨hd, hindexed, hknown⟩
  | tail _ hstep ih =>
      obtain ⟨htasks, hindexed, hknown⟩ := ih
      cases hstep with
      | @event now e hnow he =>
          obtain ⟨houtside, hsweep, hdestroy⟩ := he
          have hrenews := Situation.renews_step (s := ⟨_, now⟩) hindexed houtside
          refine ⟨htasks, hrenews.indexed, (hrenews.known id hknown).resolve_right ?_⟩
          rintro (hend | hend)
          · exact hdestroy hend
          · exact hsweep hend
      | sleep ms =>
          rw [sleep_of_not_running htasks]
          exact ⟨htasks, hindexed, hknown⟩

/-- A session outlives its timeout by less than a sweep period.  Whatever requests and shift
callbacks come in, at every moment at which the sweep that is due has been made, no session,
waiting or with an agent, expires as much as a second before it.  The sweep that is due can be
made, and while the desk is shut down no session expires at all: it stays known until it is
ended. -/
theorem overstays_less_than_period (settings : PoolSettings) (start : Moment)
    (htimeout : 0 ≤ settings.timeout.nanos) :
    ∃ first, launch settings (.following start) = .ok first ∧ ∀ d, Rounds first d →
      (∀ now, d.now = .ok now →
        (d.Swept → ∀ id s, d.pool.Live id s →
          ∀ deadline before, s.lastTouchedAt.add settings.timeout = .ok deadline →
            now.add (.ofSeconds (-1)) = .ok before → before < deadline) ∧
        (d.pool.DeadlinesInCalendar → ∃ d', Rounds d d' ∧ d'.now = .ok now ∧ d'.Swept)) ∧
      ∀ id d', d.pool.contains id = true →
        Relation.ReflTransGen (Rest fun e => (∀ s, e ≠ .allocate s) ∧ e ≠ .sweep ∧
          e ≠ .destroy id) d.shutdown d' → d'.pool.contains id = true := by
  obtain ⟨first, tasks, hlaunch, hfirst⟩ := attended_launch settings start
  refine ⟨first, hlaunch, ?_⟩
  intro d hrounds
  obtain ⟨after, last, h⟩ := hfirst.rounds htimeout hrounds
  refine ⟨fun now hnow => ⟨?_, h.exists_swept hnow⟩, ?_⟩
  · intro hswept id s hs deadline before hdeadline hbefore
    have hread : (Clock.following start).read d.elapsed = .ok now := by
      rwa [Desk.now, h.clock] at hnow
    obtain ⟨swept, hlast⟩ := Clock.exists_read_of_le h.last_le hread
    calc before
        < swept := Clock.second_back_lt h.last_le (h.lt_next hswept) hlast hread hbefore
      _ ≤ deadline := h.expires id s hs swept hlast deadline hdeadline
  · intro id d' hknown hrest
    have hindexed : d.shutdown.pool.Indexed := h.indexed
    have hstill : d.shutdown.pool.contains id = true := hknown
    exact (contains_of_rest rfl hindexed hstill hrest).2.2

open Pool (smallDesk sampleHour) in
/-- A session of the small desk with a timeout of one second is asked for half a second after the
start.  The sweep at one second keeps it, and a millisecond before the next sweep it has been
expired for almost half a second. -/
theorem overstays_less_than_period_smallDesk :
    let desk : PoolSettings := { smallDesk with timeout := .ofSeconds 1 }
    let start := sampleHour 10
    0 ≤ desk.timeout.nanos ∧ ∃ first d now s deadline before,
      launch desk (.following start) = .ok first ∧ Rounds first d ∧ d.now = .ok now ∧ d.Swept ∧
        d.pool.Live (.ofNat 0) s ∧ s.lastTouchedAt.add desk.timeout = .ok deadline ∧
        now.add (.ofSeconds (-1)) = .ok before ∧ deadline < now ∧ before < deadline := by
  intro desk start
  have htimeout : 0 ≤ desk.timeout.nanos := by decide
  obtain ⟨first, hlaunch, hrounds⟩ := overstays_less_than_period desk start htimeout
  let opened : Desk := ⟨.ofSettings desk start, .following start, 0,
    some ⟨.idle, ⟨[.onTheHour 7, .onTheHour 15], .idle⟩⟩⟩
  have hopened : launch desk (.following start) = .ok opened := by
    have hsorted : TimeOfDay.sortedDistinct (Allocation.ofSettings desk).shiftBoundaries =
        [.onTheHour 7, .onTheHour 15] := by cbv
    rw [launch_following, ShiftSchedule.ofTimes, hsorted]
  obtain rfl : opened = first := Except.ok.inj (hopened.symm.trans hlaunch)
  let begun := opened.beginSweep.beginSchedule
  let half : Moment := ⟨.sample, ⟨36000, 500000000, by decide, by decide, by decide⟩⟩
  let paused : Desk := { begun with elapsed := begun.elapsed + 500 }
  let asked : Desk := { paused with
    pool := ((⟨paused.pool, half⟩ : Situation).step (.create (.ofNat 0))).pool }
  let due : Desk := { asked with elapsed := asked.elapsed + 500 }
  let tasks : DeskTasks :=
    ⟨.due 1000, ⟨[.onTheHour 7, .onTheHour 15], .waiting 18000000 (.boundary [])⟩⟩
  let swept := due.runSweep tasks
  let last : Desk := { swept with elapsed := swept.elapsed + 999 }
  let now : Moment := ⟨.sample, ⟨36001, 999000000, by decide, by decide, by decide⟩⟩
  let before : Moment := ⟨.sample, ⟨36000, 999000000, by decide, by decide, by decide⟩⟩
  let deadline : Moment := ⟨.sample, ⟨36001, 500000000, by decide, by decide, by decide⟩⟩
  have htasks : begun.tasks = some tasks := by decide +kernel
  have hlater : swept.tasks = some { tasks with sweep := .due 2000 } := by decide +kernel
  have hbegin : Rounds opened begun :=
    .head (.beginSweep (Clock.read_following_zero start) (by decide +kernel))
      (.single .beginSchedule)
  have hpause : Round begun paused := .pass 500 htasks (by decide) (by decide +kernel)
  have hhalf : paused.now = .ok half := by decide +kernel
  have hasked : Round paused asked := .event hhalf (by simp)
  have hdue : Round asked due := .pass 500 htasks (by decide) (by decide)
  have hmoment : due.now = .ok ⟨.sample, ⟨36001, 0, by decide, by decide, by decide⟩⟩ := by
    decide +kernel
  have hmade : Round due swept :=
    .sweep htasks (by decide +kernel) hmoment (by decide +kernel)
  have hlast : Round swept last := .pass 999 hlater (by decide) (by decide +kernel)
  have hcourse : Rounds opened last :=
    ((((hbegin.tail hpause).tail hasked).tail hdue).tail hmade).tail hlast
  have hswept : last.Swept := by
    rintro after hafter
    obtain rfl := Option.some.inj (hlater.symm.trans hafter)
    decide +kernel
  have hnow : last.now = .ok now := by decide +kernel
  have hlive : last.pool.Live (.ofNat 0) ⟨.ofNat 0, half, half⟩ := .inr (by decide +kernel)
  have hdeadline : half.add desk.timeout = .ok deadline := by decide +kernel
  have hbefore : now.add (.ofSeconds (-1)) = .ok before := by decide +kernel
  exact ⟨htimeout, opened, last, now, _, deadline, before, hopened, hcourse, hnow, hswept, hlive,
    hdeadline, hbefore, by decide +kernel,
    ((hrounds last hcourse).1 now hnow).1 hswept _ _ hlive deadline before hdeadline hbefore⟩

end SupportDesk.Desk
