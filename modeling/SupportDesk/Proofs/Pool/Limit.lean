/-
# The limit follows the shifts

The limit of the backlog is set when a desk is made and at every callback of its schedule, each
time to one and a half times the capacity of that moment.  The desk keeps the moment as its
anchor.  Between the anchor and any moment at which no callback is due no shift of a regular
agent starts or ends, so that the capacity is still that of the anchor.

Requests and sweeps leave the limit alone, whatever they do to sessions and agents.
-/

import SupportDesk.Proofs.Pool.Course
import SupportDesk.Proofs.Pool.Terms

namespace SupportDesk

/-- The boundaries of a roster are those of its regular agents. -/
theorem Allocation.mem_shiftBoundaries_ofSettings {settings : PoolSettings} {t : TimeOfDay} :
    t ∈ (Allocation.ofSettings settings).shiftBoundaries ↔
      ∃ a ∈ settings.regular, t = a.shiftStart ∨ t = a.shiftEnd := by
  rw [mem_shiftBoundaries]
  constructor
  · rintro ⟨q, hq, hregular, ht⟩
    obtain ⟨agent, hagent, rfl⟩ := List.mem_map.mp hq
    rcases List.mem_append.mp hagent with hmem | hmem
    · obtain ⟨a, ha, rfl⟩ := List.mem_map.mp hmem
      exact ⟨a, ha, ht⟩
    · obtain ⟨a, ha, rfl⟩ := List.mem_map.mp hmem
      cases hregular
  · rintro ⟨a, ha, ht⟩
    refine ⟨.ofAgent (.regular a) settings.concurrency, ?_, rfl, ht⟩
    exact List.mem_map.mpr ⟨.regular a, List.mem_append_left _ (List.mem_map_of_mem ha), rfl⟩

namespace Desk

open ShiftSchedule (Keeps)

/-- The times at which a desk of the settings is woken. -/
def wakingTimes (settings : PoolSettings) : List TimeOfDay :=
  (ShiftSchedule.ofTimes (Allocation.ofSettings settings).shiftBoundaries).times

/-- A desk that has followed its clock: its limit is the maximum of an anchor, at which a clock
reading was, and its schedule has kept this anchor. -/
structure Follows (settings : PoolSettings) (start : Moment) (d : Desk) (tasks : DeskTasks)
    (anchor : Moment) : Prop where
  clock : d.clock = .following start
  running : d.tasks = some tasks
  times : tasks.schedule.times = wakingTimes settings
  roster : Allocation.SameRoster (.ofSettings settings) d.pool.allocation
  limit : d.pool.backlog.limit = (Allocation.ofSettings settings).capacity anchor * 3 / 2
  reading : ∃ e ≤ d.elapsed, (Clock.following start).read e = .ok anchor
  keeps : tasks.schedule.Keeps (.following start) d.elapsed anchor

/-- The boundaries are whole seconds and no leap seconds, and the start is a whole
millisecond. -/
structure Regular (settings : PoolSettings) (start : Moment) : Prop where
  whole : ∀ a ∈ settings.regular, a.shiftStart.nano = 0 ∧ a.shiftEnd.nano = 0
  milli : start.time.nano % 1000000 = 0

variable {settings : PoolSettings} {start anchor now : Moment} {d d' : Desk} {tasks : DeskTasks}

theorem mem_wakingTimes {t : TimeOfDay} :
    t ∈ wakingTimes settings ↔ t ∈ (Allocation.ofSettings settings).shiftBoundaries := by
  rw [wakingTimes, ShiftSchedule.ofTimes, TimeOfDay.mem_sortedDistinct]

theorem Regular.nano_eq_zero (h : Regular settings start) {t : TimeOfDay}
    (ht : t ∈ wakingTimes settings) : t.nano = 0 := by
  obtain ⟨a, ha, rfl | rfl⟩ :=
    Allocation.mem_shiftBoundaries_ofSettings.mp (mem_wakingTimes.mp ht)
  · exact (h.whole a ha).1
  · exact (h.whole a ha).2

/-- A desk can be launched at any moment, which is its first anchor. -/
theorem follows_launch (settings : PoolSettings) (start : Moment) :
    ∃ d tasks, launch settings (.following start) = .ok d ∧ d.elapsed = 0 ∧ d.OnTime ∧
      Follows settings start d tasks start := by
  have hread := Clock.read_following_zero start
  refine ⟨Desk.start ⟨.ofSettings settings start, .following start, 0, none⟩,
    ⟨.idle, .ofTimes (Allocation.ofSettings settings).shiftBoundaries⟩, ?_, rfl, ?_, ?_⟩
  · rw [launch, ofSettings, hread]
    rfl
  · rintro after ⟨⟩
    exact ⟨nofun, nofun⟩
  · exact ⟨rfl, rfl, rfl, .refl _, rfl, ⟨0, le_refl 0, hread⟩, .idle rfl hread⟩

namespace Follows

theorem read_eq (h : Follows settings start d tasks anchor) (hnow : d.now = .ok now) :
    (Clock.following start).read d.elapsed = .ok now := by
  rwa [Desk.now, h.clock] at hnow

theorem anchor_le (h : Follows settings start d tasks anchor) (hnow : d.now = .ok now) :
    anchor ≤ now := by
  obtain ⟨e, hle, hread⟩ := h.reading
  exact Clock.le_of_read_following hle hread (h.read_eq hnow)

theorem sorted (h : Follows settings start d tasks anchor) :
    tasks.schedule.times.Pairwise (· < ·) := by
  rw [h.times]
  exact TimeOfDay.pairwise_sortedDistinct _

theorem whole (h : Follows settings start d tasks anchor) (hregular : Regular settings start) :
    ∀ t ∈ tasks.schedule.times, t.nano = 0 := by
  intro t ht
  rw [h.times] at ht
  exact hregular.nano_eq_zero ht

/-- While no callback is due, or away from the boundaries, the limit is the maximum of the
moment. -/
theorem limit_eq (h : Follows settings start d tasks anchor) (hnow : d.now = .ok now)
    (hsettled : d.Settled ∨ now.time ∉ (Allocation.ofSettings settings).shiftBoundaries) :
    d.pool.backlog.limit = (Allocation.ofSettings settings).capacity now * 3 / 2 := by
  have hoff : tasks.schedule.Settled d.elapsed ∨ now.time ∉ tasks.schedule.times := by
    rw [h.times, mem_wakingTimes]
    exact hsettled.imp_left fun hsettled => hsettled tasks h.running
  have hnone := h.keeps.noneBetween hoff (h.read_eq hnow)
  rw [h.limit, Allocation.capacity_eq_of_noneBetween _ (h.anchor_le hnow)]
  intro b hb
  apply hnone b
  rw [h.times]
  exact mem_wakingTimes.mpr hb

/-! ## Every turn is followed -/

/-- A change of the pool that keeps its terms. -/
theorem withPool (h : Follows settings start d tasks anchor) {p : Pool}
    (hterms : Pool.SameTerms d.pool p) : Follows settings start { d with pool := p } tasks anchor :=
  ⟨h.clock, h.running, h.times, h.roster.trans hterms.roster, hterms.limit.trans h.limit,
    h.reading, h.keeps⟩

/-- A change of the sweep. -/
theorem withSweep (h : Follows settings start d tasks anchor) (sweep : SweepTask) :
    Follows settings start { d with tasks := some { tasks with sweep } } { tasks with sweep }
      anchor :=
  ⟨h.clock, rfl, h.times, h.roster, h.limit, h.reading, h.keeps⟩

/-- A change of the schedule that keeps the anchor. -/
theorem withSchedule (h : Follows settings start d tasks anchor) {schedule : ShiftSchedule}
    (htimes : schedule.times = tasks.schedule.times)
    (hkeeps : schedule.Keeps (.following start) d.elapsed anchor) :
    Follows settings start { d with tasks := some { tasks with schedule } }
      { tasks with schedule } anchor :=
  ⟨h.clock, rfl, htimes.trans h.times, h.roster, h.limit, h.reading, hkeeps⟩

theorem runSweep (h : Follows settings start d tasks anchor) :
    ∃ after, Follows settings start (d.runSweep tasks) after anchor := by
  unfold Desk.runSweep
  split
  · exact ⟨_, h.withSweep .dead⟩
  · exact ⟨_, (h.withPool (Pool.sameTerms_sweep d.pool _)).withSweep _⟩

theorem beginSweep (h : Follows settings start d tasks anchor) :
    ∃ after, Follows settings start d.beginSweep after anchor := by
  simp only [Desk.beginSweep, h.running]
  split
  · exact h.runSweep
  · exact ⟨tasks, h⟩

/-- The schedule looks for its first wait at the anchor. -/
theorem beginSchedule (h : Follows settings start d tasks anchor)
    (hregular : Regular settings start) :
    ∃ after, Follows settings start d.beginSchedule after anchor := by
  have hkeeps := h.keeps.begin h.sorted (h.whole hregular) hregular.milli
  simp only [Desk.beginSchedule, h.running]
  refine ⟨_, h.withSchedule ?_ (h.clock ▸ hkeeps)⟩
  unfold ShiftSchedule.begin
  split
  · exact (arm_frame _ _ _ _).1
  · rfl

/-- A callback of the schedule makes the present moment the anchor. -/
theorem runAlarm_boundary (h : Follows settings start d tasks anchor)
    (hregular : Regular settings start) (hnow : d.now = .ok now) {rest : List TimeOfDay}
    (hdue : tasks.schedule.alarm? = some (d.elapsed, .boundary rest)) :
    ∃ after, Follows settings start (d.runAlarm tasks (.boundary rest)) after now := by
  have hterms := Pool.sameTerms_shiftChanged d.pool now
  have hlimit : (d.pool.shiftChanged now).backlog.limit =
      (Allocation.ofSettings settings).capacity now * 3 / 2 := by
    rw [hterms.limit, ← h.roster.capacity now]
    rfl
  obtain ⟨hkeeps, -⟩ :=
    h.keeps.wake_boundary (h.whole hregular) hregular.milli (h.read_eq hnow) hdue
  simp only [Desk.runAlarm, hnow, ShiftSchedule.comingAfter]
  exact ⟨_, h.clock, rfl, (arm_frame _ _ _ _).1.trans h.times, h.roster.trans hterms.roster,
    hlimit, ⟨d.elapsed, le_refl _, h.read_eq hnow⟩, h.clock ▸ hkeeps⟩

/-- At midnight the schedule begins a new day from its old anchor. -/
theorem runAlarm_midnight (h : Follows settings start d tasks anchor)
    (hregular : Regular settings start) (hnow : d.now = .ok now)
    (hdue : tasks.schedule.alarm? = some (d.elapsed, .midnight)) :
    ∃ after, Follows settings start (d.runAlarm tasks .midnight) after anchor := by
  have hanchored :=
    h.keeps.anchored_of_midnight h.sorted (h.anchor_le hnow) (h.read_eq hnow) hdue
  have hkeeps := hanchored.keeps_arm (h.whole hregular) hregular.milli (h.read_eq hnow)
  simp only [Desk.runAlarm, hnow, ShiftSchedule.comingAfter]
  exact ⟨_, h.withSchedule (arm_frame _ _ _ _).1 (h.clock ▸ hkeeps)⟩

theorem runAlarm (h : Follows settings start d tasks anchor) (hregular : Regular settings start)
    {target : ShiftSchedule.Target} (hdue : tasks.schedule.alarm? = some (d.elapsed, target)) :
    ∃ after anchor, Follows settings start (d.runAlarm tasks target) after anchor := by
  rcases h.keeps.settled_or_due with hsettled | ⟨-, now, -, hread⟩
  · exact absurd (hsettled _ hdue) (lt_irrefl _)
  · rw [← h.clock] at hread
    cases target with
    | boundary rest =>
        obtain ⟨after, hafter⟩ := h.runAlarm_boundary hregular hread hdue
        exact ⟨after, now, hafter⟩
    | midnight =>
        obtain ⟨after, hafter⟩ := h.runAlarm_midnight hregular hread hdue
        exact ⟨after, anchor, hafter⟩

/-- Time passes up to the next wait of the schedule at most. -/
theorem pass (h : Follows settings start d tasks anchor) {ms : Nat} (hbegun : tasks.Begun)
    (htime : OnTime { d with elapsed := d.elapsed + ms }) :
    Follows settings start { d with elapsed := d.elapsed + ms } tasks anchor := by
  obtain ⟨e, hle, hread⟩ := h.reading
  obtain ⟨-, halarm⟩ := htime tasks h.running
  exact ⟨h.clock, h.running, h.times, h.roster, h.limit,
    ⟨e, hle.trans (Nat.le_add_right _ _), hread⟩, h.keeps.pass hbegun.2 halarm⟩

theorem turn (h : Follows settings start d tasks anchor) (hregular : Regular settings start)
    (hturn : Turn d d') : ∃ after anchor, Follows settings start d' after anchor := by
  cases hturn with
  | @request now e _ he =>
      exact ⟨tasks, anchor, h.withPool (Pool.Situation.sameTerms_step (s := ⟨d.pool, now⟩) he)⟩
  | beginSweep =>
      obtain ⟨after, hafter⟩ := h.beginSweep
      exact ⟨after, anchor, hafter⟩
  | beginSchedule =>
      obtain ⟨after, hafter⟩ := h.beginSchedule hregular
      exact ⟨after, anchor, hafter⟩
  | sweep htasks hdue =>
      obtain rfl := Option.some.inj (h.running.symm.trans htasks)
      obtain ⟨after, hafter⟩ := h.runSweep
      exact ⟨after, anchor, hafter⟩
  | alarm halarm =>
      obtain ⟨htasks, hdue⟩ := halarm
      obtain rfl := Option.some.inj (h.running.symm.trans htasks)
      exact h.runAlarm hregular hdue
  | pass ms htasks hbegun htime =>
      obtain rfl := Option.some.inj (h.running.symm.trans htasks)
      exact ⟨tasks, anchor, h.pass hbegun htime⟩

theorem course (h : Follows settings start d tasks anchor) (hregular : Regular settings start)
    (hcourse : Course d d') : ∃ after anchor, Follows settings start d' after anchor := by
  induction hcourse with
  | refl => exact ⟨tasks, anchor, h⟩
  | tail _ hturn ih =>
      obtain ⟨_, _, hfollows⟩ := ih
      exact hfollows.turn hregular hturn

/-! ## The callbacks that are due run -/

/-- After the callback of a boundary nothing more is due at its moment. -/
theorem settled_runAlarm_boundary (h : Follows settings start d tasks anchor)
    (hregular : Regular settings start) (hnow : d.now = .ok now)
    (hordinary : now.time.isLeap = false) {rest : List TimeOfDay}
    (hdue : tasks.schedule.alarm? = some (d.elapsed, .boundary rest)) :
    (d.runAlarm tasks (.boundary rest)).Settled := by
  obtain ⟨-, hlater⟩ :=
    h.keeps.wake_boundary (h.whole hregular) hregular.milli (h.read_eq hnow) hdue
  have hwhole : ∀ t ∈ rest, t.nano = 0 := fun t ht => h.whole hregular t (hlater t ht).1
  apply settled_runAlarm hnow
  rw [h.clock]
  rcases ShiftSchedule.settled_arm_or_boundary hwhole hregular.milli (h.read_eq hnow) hordinary with
    hsettled | ⟨hmem, -⟩
  · exact hsettled
  · exact absurd (hlater _ hmem).2 (lt_irrefl _)

/-- After it is woken for midnight, either nothing more is due or there is a boundary at
midnight. -/
theorem settled_runAlarm_midnight_or_boundary (h : Follows settings start d tasks anchor)
    (hregular : Regular settings start) (hnow : d.now = .ok now)
    (hordinary : now.time.isLeap = false)
    (hdue : tasks.schedule.alarm? = some (d.elapsed, .midnight)) :
    (d.runAlarm tasks .midnight).Settled ∨
      ∃ after rest, Follows settings start (d.runAlarm tasks .midnight) after anchor ∧
        after.schedule.alarm? = some (d.elapsed, .boundary rest) := by
  rcases ShiftSchedule.settled_arm_or_boundary (s := tasks.schedule) (h.whole hregular)
    hregular.milli (h.read_eq hnow) hordinary with hsettled | ⟨-, rest, hboundary⟩
  · rw [← h.clock] at hsettled
    exact .inl (settled_runAlarm hnow hsettled)
  · obtain ⟨after, hafter⟩ := h.runAlarm_midnight hregular hnow hdue
    obtain rfl := Option.some.inj (hafter.running.symm.trans (tasks_runAlarm hnow))
    rw [← h.clock] at hboundary
    exact .inr ⟨_, rest, hafter, hboundary⟩

/-- Outside leap seconds all callbacks that are due run. -/
theorem exists_settled (h : Follows settings start d tasks anchor)
    (hregular : Regular settings start)
    (hordinary : ∀ now, d.now = .ok now → now.time.isLeap = false) :
    ∃ d', Relation.ReflTransGen Alarm d d' ∧ d'.Settled := by
  rcases h.keeps.settled_or_due with hsettled | ⟨target, now, hdue, hread⟩
  · refine ⟨d, .refl, ?_⟩
    intro after hafter
    obtain rfl := Option.some.inj (h.running.symm.trans hafter)
    exact hsettled
  · have hnow : d.now = .ok now := by rwa [← h.clock] at hread
    have hfirst : Alarm d (d.runAlarm tasks target) := .due h.running hdue
    cases target with
    | boundary rest =>
        exact ⟨_, .single hfirst,
          h.settled_runAlarm_boundary hregular hnow (hordinary now hnow) hdue⟩
    | midnight =>
        rcases h.settled_runAlarm_midnight_or_boundary hregular hnow (hordinary now hnow) hdue with
          hsettled | ⟨after, rest, hafter, hboundary⟩
        · exact ⟨_, .single hfirst, hsettled⟩
        · -- The boundary at midnight is due at the same moment.
          obtain ⟨helapsed, hclock, -⟩ := d.runAlarm_frame tasks .midnight
          rw [← helapsed] at hboundary
          have hsame : (d.runAlarm tasks .midnight).now = .ok now := by
            rw [Desk.now, helapsed, hclock]
            exact hnow
          exact ⟨_, .tail (.single hfirst) (.due hafter.running hboundary),
            hafter.settled_runAlarm_boundary hregular hsame (hordinary now hnow) hboundary⟩

/-! ## The desk comes to every instant -/

/-- The clock is inside a leap second only if it was started there. -/
theorem isLeap_now (h : Follows settings start d tasks anchor)
    (hstart : start.time.isLeap = false) (hnow : d.now = .ok now) : now.time.isLeap = false := by
  obtain ⟨-, hleap⟩ := Clock.read_following_eq_ok_iff.mp (h.read_eq hnow)
  rw [Bool.eq_false_iff, Ne, hleap, hstart]
  exact fun hinside => Bool.false_ne_true hinside.1

/-- From a desk on its course a millisecond passes once all that is due has happened. -/
theorem exists_later (h : Follows settings start d tasks anchor) (hregular : Regular settings start)
    (hstart : start.time.isLeap = false) (hon : d.OnTime) :
    ∃ d', Course d d' ∧ d'.elapsed = d.elapsed + 1 := by
  obtain ⟨hbegin, hbeginElapsed, begun, hbegunTasks, hbegun⟩ := course_beginTasks h.running
  obtain ⟨swept, after, hsweep, hsweptElapsed, hsweptTasks, hstill, hlater⟩ :=
    exists_swept (hbegin.onTime hon) hbegunTasks hbegun
  have hcourse : Course d swept := hbegin.trans hsweep
  obtain ⟨after', anchor', hfollows⟩ := h.course hregular hcourse
  obtain ⟨settled, halarms, hsettled⟩ :=
    hfollows.exists_settled hregular fun now hnow => hfollows.isLeap_now hstart hnow
  obtain ⟨helapsed, -, schedule, htasks, hstage⟩ := alarms_frame halarms hsweptTasks
  have hpass := turn_pass_of_settled htasks ⟨hstill.1, hstage hstill.2⟩
    (by rw [helapsed, hsweptElapsed]; exact hlater) hsettled
  have halarmed : Course d settled :=
    hcourse.trans (Relation.ReflTransGen.mono (fun _ _ => Turn.alarm) _ _ halarms)
  refine ⟨_, halarmed.tail hpass, ?_⟩
  simp only [helapsed, hsweptElapsed, hbeginElapsed]

end Follows

/-- A desk that is launched outside leap seconds comes to every instant. -/
theorem exists_course_of_elapsed (h : Follows settings start d tasks anchor)
    (hregular : Regular settings start) (hstart : start.time.isLeap = false) (hon : d.OnTime)
    (ms : Nat) : ∃ d', Course d d' ∧ d'.elapsed = d.elapsed + ms := by
  induction ms with
  | zero => exact ⟨d, .refl, rfl⟩
  | succ ms ih =>
      obtain ⟨mid, hcourse, helapsed⟩ := ih
      obtain ⟨after, anchor', hfollows⟩ := h.course hregular hcourse
      obtain ⟨d', hlater, hlaterElapsed⟩ :=
        hfollows.exists_later hregular hstart (hcourse.onTime hon)
      refine ⟨d', hcourse.trans hlater, ?_⟩
      rw [hlaterElapsed, helapsed, Nat.add_assoc]

/-- The limit follows the shifts.  The boundaries are whole seconds and no leap seconds, and the
desk is launched at a whole millisecond, with timers that wake exactly in time.  Whatever requests
come in, at every moment at which the callbacks that are due have run, and at any moment that is
no boundary, the limit is one and a half times the capacity of the regular agents who are on
shift.  The callbacks that are due do run, and unless it is launched inside a leap second the desk
comes to every instant. -/
theorem limit_follows_shifts (settings : PoolSettings) (start : Moment)
    (hwhole : ∀ a ∈ settings.regular, a.shiftStart.nano = 0 ∧ a.shiftEnd.nano = 0)
    (hmilli : start.time.nano % 1000000 = 0) :
    ∃ first, launch settings (.following start) = .ok first ∧
      (∀ d now, Course first d → d.now = .ok now →
        (d.Settled ∨ now.time ∉ (Allocation.ofSettings settings).shiftBoundaries →
          d.pool.backlog.limit = d.pool.capacity now * 3 / 2 ∧
            d.pool.capacity now = (Allocation.ofSettings settings).capacity now) ∧
        (now.time.isLeap = false →
          ∃ d', Relation.ReflTransGen Alarm d d' ∧ d'.Settled ∧ d'.now = .ok now)) ∧
      (start.time.isLeap = false → ∀ ms, ∃ d, Course first d ∧ d.elapsed = ms) := by
  have hregular : Regular settings start := ⟨hwhole, hmilli⟩
  obtain ⟨first, tasks, hlaunch, helapsed, hon, hfirst⟩ := follows_launch settings start
  refine ⟨first, hlaunch, ?_, ?_⟩
  · intro d now hcourse hnow
    obtain ⟨after, anchor, hfollows⟩ := hfirst.course hregular hcourse
    have hcapacity : d.pool.capacity now = (Allocation.ofSettings settings).capacity now :=
      hfollows.roster.capacity now
    refine ⟨fun hsettled => ⟨?_, hcapacity⟩, fun hordinary => ?_⟩
    · rw [hcapacity]
      exact hfollows.limit_eq hnow hsettled
    · obtain ⟨d', halarms, hsettled⟩ := hfollows.exists_settled hregular fun other hother => by
        rw [hnow, Except.ok.injEq] at hother
        rwa [← hother]
      obtain ⟨helapsed, hclock, -⟩ := alarms_frame halarms hfollows.running
      refine ⟨d', halarms, hsettled, ?_⟩
      rw [Desk.now, helapsed, hclock]
      exact hnow
  · intro hstart ms
    obtain ⟨d, hcourse, hd⟩ := exists_course_of_elapsed hfirst hregular hstart hon ms
    exact ⟨d, hcourse, by rw [hd, helapsed, Nat.zero_add]⟩

open Pool (smallDesk) in
/-- The small desk with its junior on shift from midnight to 8 is launched a second before
midnight, when it refuses every request.  Half a second into the next day the limit is one. -/
theorem limit_follows_shifts_smallDesk :
    let desk : PoolSettings :=
      { smallDesk with regular := [.ofShift 10 .midnight (.ofHours 8) .junior "Team 1"] }
    let start : Moment := ⟨.sample, ⟨86399, 0, by decide, by decide, by decide⟩⟩
    let now : Moment := ⟨⟨Date.sample.number + 1, by decide, by decide⟩,
      ⟨0, 500000000, by decide, by decide, by decide⟩⟩
    (∀ a ∈ desk.regular, a.shiftStart.nano = 0 ∧ a.shiftEnd.nano = 0) ∧
      start.time.nano % 1000000 = 0 ∧
      ∃ first asked d, launch desk (.following start) = .ok first ∧ Turn first asked ∧
        asked.pool.contains (.ofNat 0) = false ∧ Course asked d ∧ d.now = .ok now ∧
        d.Settled ∧ first.pool.backlog.limit = 0 ∧ d.pool.backlog.limit = 1 := by
  intro desk start now
  have hwhole : ∀ a ∈ desk.regular, a.shiftStart.nano = 0 ∧ a.shiftEnd.nano = 0 := by decide
  have hmilli : start.time.nano % 1000000 = 0 := by decide
  obtain ⟨first, hlaunch, hlimit, -⟩ := limit_follows_shifts desk start hwhole hmilli
  let opened : Desk := ⟨.ofSettings desk start, .following start, 0,
    some ⟨.idle, ⟨[.midnight, .onTheHour 8], .idle⟩⟩⟩
  have hopened : launch desk (.following start) = .ok opened := by
    have hsorted : TimeOfDay.sortedDistinct (Allocation.ofSettings desk).shiftBoundaries =
        [.midnight, .onTheHour 8] := by cbv
    have hstart : opened = Desk.start ⟨.ofSettings desk start, .following start, 0, none⟩ := by
      simp only [opened, Desk.start, ShiftSchedule.ofTimes, ← hsorted]
      rfl
    rw [launch, ofSettings, Clock.read_following_zero, hstart]
    rfl
  obtain rfl : opened = first := Except.ok.inj (hopened.symm.trans hlaunch)
  let asked : Desk :=
    { opened with pool := ((⟨opened.pool, start⟩ : Pool.Situation).step (.create (.ofNat 0))).pool }
  have hasked : Turn opened asked := .request (Clock.read_following_zero start) (by decide)
  have hon : asked.OnTime := by
    rintro tasks ⟨⟩
    exact ⟨by decide, by decide⟩
  have htasks : (asked.sleep 1500).tasks = some
      ⟨.due 2000, ⟨[.midnight, .onTheHour 8], .waiting 28801000 (.boundary [])⟩⟩ := by
    decide +kernel
  have hdone : (asked.sleep 1500).OnTime := by
    rw [OnTime, htasks]
    rintro tasks ⟨⟩
    exact ⟨by decide +kernel, by decide +kernel⟩
  have hsettled : (asked.sleep 1500).Settled := by
    rw [Settled, htasks]
    rintro tasks ⟨⟩
    rintro a ⟨⟩
    decide +kernel
  have hcourse : Course asked (asked.sleep 1500) := course_sleep hon rfl 1500 hdone
  have hnow : (asked.sleep 1500).now = .ok now := by decide +kernel
  obtain ⟨hequal, hcapacity⟩ := (hlimit _ now (.head hasked hcourse) hnow).1 (.inl hsettled)
  have hone : (Allocation.ofSettings desk).capacity now = 1 := by decide +kernel
  refine ⟨hwhole, hmilli, opened, asked, asked.sleep 1500, hopened, hasked, by decide +kernel,
    hcourse, hnow, hsettled, by decide +kernel, ?_⟩
  rw [hequal, hcapacity, hone]

end Desk

end SupportDesk
