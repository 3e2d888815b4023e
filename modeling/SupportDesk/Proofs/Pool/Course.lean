/-
# The course of a running desk

A desk is launched with a clock, and from then on requests come in, the periodic sweep and the
shift schedule act when they are due, and time passes.  Nothing is said about the order in which
things happen at one instant, and requests may come at any time.  Time passes only once both
tasks have begun, and never beyond a deadline: the timers wake exactly in time.

A sleep of the desk, which lets its tasks act while time passes, is such a course.
-/

import SupportDesk.Pool.Desk
import SupportDesk.Proofs.Pool.Run
import SupportDesk.Proofs.Shift.Anchor

namespace SupportDesk

/-- The elapsed time at which the next sweep is due. -/
def SweepTask.deadline? : SweepTask → Option Nat
  | .due deadline => some deadline
  | .idle | .dead => none

/-- Whether both tasks have begun. -/
def DeskTasks.Begun (tasks : DeskTasks) : Prop :=
  tasks.sweep ≠ .idle ∧ tasks.schedule.stage ≠ .idle

namespace Desk

/-- A new desk that runs. -/
def launch (settings : PoolSettings) (clock : Clock) : Except TimeError Desk :=
  (ofSettings settings clock).map start

/-- No deadline is behind. -/
def OnTime (d : Desk) : Prop :=
  ∀ tasks ∈ d.tasks, (∀ deadline ∈ tasks.sweep.deadline?, d.elapsed ≤ deadline) ∧
    ∀ a ∈ tasks.schedule.alarm?, d.elapsed ≤ a.1

/-- Every callback of the schedule that is due has run. -/
def Settled (d : Desk) : Prop := ∀ tasks ∈ d.tasks, tasks.schedule.Settled d.elapsed

/-- The schedule is woken at its deadline. -/
inductive Alarm (d : Desk) : Desk → Prop
  | due {tasks : DeskTasks} {target : ShiftSchedule.Target} (htasks : d.tasks = some tasks)
      (hdue : tasks.schedule.alarm? = some (d.elapsed, target)) :
      Alarm d (d.runAlarm tasks target)

/-- What can happen next to a running desk. -/
inductive Turn (d : Desk) : Desk → Prop
  /-- A request to the pool, whether or not it is granted. -/
  | request {now : Moment} {e : Pool.Event} (hnow : d.now = .ok now) (he : e ≠ .shiftChanged) :
      Turn d { d with pool := ((⟨d.pool, now⟩ : Pool.Situation).step e).pool }
  | beginSweep : Turn d d.beginSweep
  | beginSchedule : Turn d d.beginSchedule
  | sweep {tasks : DeskTasks} (htasks : d.tasks = some tasks)
      (hdue : tasks.sweep = .due d.elapsed) : Turn d (d.runSweep tasks)
  | alarm {d' : Desk} (halarm : Alarm d d') : Turn d d'
  /-- Time passes, at most to the next deadline. -/
  | pass {tasks : DeskTasks} (ms : Nat) (htasks : d.tasks = some tasks) (hbegun : tasks.Begun)
      (htime : OnTime { d with elapsed := d.elapsed + ms }) :
      Turn d { d with elapsed := d.elapsed + ms }

/-- One desk comes from another in the course of time. -/
abbrev Course : Desk → Desk → Prop := Relation.ReflTransGen Turn

/-! ## The tasks stay on time -/

variable {d d' : Desk} {tasks : DeskTasks} {now : Moment} {target : ShiftSchedule.Target}

/-- What a sweep of the desk does to its parts. -/
theorem runSweep_frame (d : Desk) (tasks : DeskTasks) :
    (d.runSweep tasks).elapsed = d.elapsed ∧ (d.runSweep tasks).clock = d.clock ∧
      ∃ sweep, (d.runSweep tasks).tasks = some { tasks with sweep } ∧ sweep ≠ .idle ∧
        ∀ deadline ∈ sweep.deadline?, d.elapsed < deadline := by
  unfold runSweep
  split
  · exact ⟨rfl, rfl, .dead, rfl, nofun, nofun⟩
  · refine ⟨rfl, rfl, _, rfl, ?_⟩
    split
    · exact ⟨nofun, nofun⟩
    · refine ⟨nofun, ?_⟩
      rintro deadline ⟨⟩
      exact Nat.lt_add_of_pos_right (by decide)

/-- A task that looks for its next wait has begun, and waits for nothing that is behind. -/
theorem arm_frame (s : ShiftSchedule) (clock : Clock) (elapsed : Nat) (coming : List TimeOfDay) :
    (s.arm clock elapsed coming).times = s.times ∧
      (s.arm clock elapsed coming).stage ≠ .idle ∧
        ∀ a ∈ (s.arm clock elapsed coming).alarm?, elapsed ≤ a.1 := by
  unfold ShiftSchedule.arm
  split
  · exact ⟨rfl, nofun, nofun⟩
  · split
    · refine ⟨rfl, nofun, ?_⟩
      rintro a ⟨⟩
      exact Nat.le_add_right _ _
    · exact ⟨rfl, nofun, nofun⟩

/-- What a waking of the schedule does to the parts of the desk. -/
theorem runAlarm_frame (d : Desk) (tasks : DeskTasks) (target : ShiftSchedule.Target) :
    (d.runAlarm tasks target).elapsed = d.elapsed ∧ (d.runAlarm tasks target).clock = d.clock ∧
      ∃ schedule, (d.runAlarm tasks target).tasks = some { tasks with schedule } ∧
        schedule.stage ≠ .idle ∧ ∀ a ∈ schedule.alarm?, d.elapsed ≤ a.1 := by
  unfold runAlarm
  split
  · exact ⟨rfl, rfl, _, rfl, nofun, nofun⟩
  · exact ⟨rfl, rfl, _, rfl, (arm_frame _ _ _ _).2⟩

/-- A schedule that is woken looks for its next wait. -/
theorem tasks_runAlarm (hnow : d.now = .ok now) :
    (d.runAlarm tasks target).tasks = some { tasks with
      schedule := tasks.schedule.arm d.clock d.elapsed (tasks.schedule.comingAfter target) } := by
  rw [runAlarm, hnow]

/-- Nothing more is due once that wait takes time. -/
theorem settled_runAlarm (hnow : d.now = .ok now)
    (hsettled : (tasks.schedule.arm d.clock d.elapsed
      (tasks.schedule.comingAfter target)).Settled d.elapsed) :
    (d.runAlarm tasks target).Settled := by
  intro after hafter
  rw [Option.mem_def, tasks_runAlarm hnow, Option.some.injEq] at hafter
  rw [(d.runAlarm_frame tasks target).1, ← hafter]
  exact hsettled

/-- What the schedule does when it is woken leaves the time and the sweep. -/
theorem alarms_frame (h : Relation.ReflTransGen Alarm d d') (htasks : d.tasks = some tasks) :
    d'.elapsed = d.elapsed ∧ d'.clock = d.clock ∧ ∃ schedule,
      d'.tasks = some { tasks with schedule } ∧
        (tasks.schedule.stage ≠ .idle → schedule.stage ≠ .idle) := by
  induction h with
  | refl => exact ⟨rfl, rfl, tasks.schedule, htasks, id⟩
  | @tail mid _ _ halarm ih =>
      obtain ⟨helapsed, hclock, before, hbefore, -⟩ := ih
      obtain ⟨hsome, -⟩ := halarm
      obtain rfl := Option.some.inj (hbefore.symm.trans hsome)
      obtain ⟨helapsed', hclock', schedule, hafter, hstage, -⟩ := mid.runAlarm_frame _ _
      exact ⟨helapsed'.trans helapsed, hclock'.trans hclock, schedule, hafter, fun _ => hstage⟩

theorem onTime_runSweep (h : d.OnTime) (htasks : d.tasks = some tasks) :
    (d.runSweep tasks).OnTime := by
  obtain ⟨helapsed, -, sweep, hafter, -, hdeadline⟩ := d.runSweep_frame tasks
  intro after hmem
  rw [Option.mem_def, hafter, Option.some.injEq] at hmem
  subst hmem
  rw [helapsed]
  exact ⟨fun deadline hmem => (hdeadline deadline hmem).le, (h tasks htasks).2⟩

theorem onTime_runAlarm (h : d.OnTime) (htasks : d.tasks = some tasks)
    (target : ShiftSchedule.Target) : (d.runAlarm tasks target).OnTime := by
  obtain ⟨helapsed, -, schedule, hafter, -, hdeadline⟩ := d.runAlarm_frame tasks target
  intro after hmem
  rw [Option.mem_def, hafter, Option.some.injEq] at hmem
  subst hmem
  rw [helapsed]
  exact ⟨(h tasks htasks).1, hdeadline⟩

theorem onTime_beginSweep (h : d.OnTime) : d.beginSweep.OnTime := by
  unfold beginSweep
  split
  · exact h
  next tasks htasks =>
    split
    · exact onTime_runSweep h htasks
    · exact h

theorem onTime_beginSchedule (h : d.OnTime) : d.beginSchedule.OnTime := by
  unfold beginSchedule
  split
  · exact h
  next tasks htasks =>
    rintro after ⟨⟩
    refine ⟨(h tasks htasks).1, ?_⟩
    simp only [ShiftSchedule.begin]
    split
    · exact (arm_frame _ _ _ _).2.2
    · exact (h tasks htasks).2

/-- No turn leaves a deadline behind. -/
theorem Turn.onTime (h : Turn d d') (hd : d.OnTime) : d'.OnTime := by
  cases h with
  | request hnow he => exact hd
  | beginSweep => exact onTime_beginSweep hd
  | beginSchedule => exact onTime_beginSchedule hd
  | sweep htasks hdue => exact onTime_runSweep hd htasks
  | alarm halarm =>
      obtain ⟨htasks, hdue⟩ := halarm
      exact onTime_runAlarm hd htasks _
  | pass ms htasks hbegun htime => exact htime

theorem Course.onTime (h : Course d d') (hd : d.OnTime) : d'.OnTime := by
  induction h with
  | refl => exact hd
  | tail _ hturn ih => exact hturn.onTime ih

/-! ## Time passes -/

/-- A sweep that is due is made, and the next one is due later. -/
theorem exists_swept (hon : d.OnTime) (htasks : d.tasks = some tasks) (hbegun : tasks.Begun) :
    ∃ d' after, Course d d' ∧ d'.elapsed = d.elapsed ∧ d'.tasks = some after ∧ after.Begun ∧
      ∀ deadline ∈ after.sweep.deadline?, d.elapsed < deadline := by
  by_cases hdue : tasks.sweep = .due d.elapsed
  · obtain ⟨helapsed, -, sweep, hafter, hsweep, hlater⟩ := d.runSweep_frame tasks
    exact ⟨_, _, .single (.sweep htasks hdue), helapsed, hafter, ⟨hsweep, hbegun.2⟩, hlater⟩
  · refine ⟨d, tasks, .refl, rfl, htasks, hbegun, ?_⟩
    intro deadline hdeadline
    refine ((hon tasks htasks).1 deadline hdeadline).lt_of_ne ?_
    rintro rfl
    apply hdue
    cases hsweep : tasks.sweep with
    | due t =>
        rw [hsweep] at hdeadline
        rw [Option.some.inj hdeadline]
    | idle | dead =>
        rw [hsweep] at hdeadline
        cases hdeadline

/-- A millisecond passes where nothing is due. -/
theorem turn_pass_of_settled (htasks : d.tasks = some tasks) (hbegun : tasks.Begun)
    (hsweep : ∀ deadline ∈ tasks.sweep.deadline?, d.elapsed < deadline) (hsettled : d.Settled) :
    Turn d { d with elapsed := d.elapsed + 1 } := by
  refine .pass 1 htasks hbegun ?_
  intro after hafter
  obtain rfl := Option.some.inj (htasks.symm.trans hafter)
  exact ⟨hsweep, hsettled tasks htasks⟩

/-! ## Sleeps are courses -/

/-- The next event is the deadline of its task, and no deadline comes before it. -/
theorem nextEvent?_spec {t : Nat} {event : Event} (h : nextEvent? tasks = some (t, event)) :
    (event = .sweep ∧ tasks.sweep = .due t ∨
        ∃ target, event = .alarm target ∧ tasks.schedule.alarm? = some (t, target)) ∧
      (∀ deadline ∈ tasks.sweep.deadline?, t ≤ deadline) ∧
        ∀ a ∈ tasks.schedule.alarm?, t ≤ a.1 := by
  unfold nextEvent? at h
  cases hsweep : tasks.sweep with
  | due deadline =>
      cases halarm : tasks.schedule.alarm? with
      | none =>
          simp only [hsweep, halarm, Option.some.injEq, Prod.mk.injEq] at h
          obtain ⟨rfl, rfl⟩ := h
          exact ⟨.inl ⟨rfl, rfl⟩, fun u hu => (Option.some.inj hu).le, nofun⟩
      | some a =>
          simp only [hsweep, halarm] at h
          split at h
          next hlt =>
            cases h
            refine ⟨.inr ⟨a.2, rfl, rfl⟩, ?_,
              fun b hb => (congrArg Prod.fst (Option.some.inj hb)).le⟩
            rintro u ⟨⟩
            exact hlt.le
          next hge =>
            cases h
            refine ⟨.inl ⟨rfl, rfl⟩, fun u hu => (Option.some.inj hu).le, ?_⟩
            rintro b ⟨⟩
            exact not_lt.mp hge
  | idle | dead =>
      cases halarm : tasks.schedule.alarm? with
      | none => simp [hsweep, halarm] at h
      | some a =>
          simp only [hsweep, halarm, Option.some.injEq, Prod.mk.injEq] at h
          obtain ⟨rfl, rfl⟩ := h
          exact ⟨.inr ⟨a.2, rfl, rfl⟩, nofun,
            fun b hb => (congrArg Prod.fst (Option.some.inj hb)).le⟩

/-- The next event happens when it is due. -/
theorem turn_runEvent {event : Event} (htasks : d.tasks = some tasks)
    (hnext : nextEvent? tasks = some (d.elapsed, event)) : Turn d (d.runEvent tasks event) := by
  obtain ⟨⟨rfl, hdue⟩ | ⟨target, rfl, hdue⟩, -⟩ := nextEvent?_spec hnext
  · exact .sweep htasks hdue
  · exact .alarm (.due htasks hdue)

/-- Tasks that have begun do not begin again. -/
theorem begun_runEvent (hbegun : tasks.Begun) (event : Event) :
    (d.runEvent tasks event).elapsed = d.elapsed ∧
      ∃ after, (d.runEvent tasks event).tasks = some after ∧ after.Begun := by
  cases event with
  | sweep =>
      obtain ⟨helapsed, -, sweep, hafter, hsweep, -⟩ := d.runSweep_frame tasks
      exact ⟨helapsed, _, hafter, hsweep, hbegun.2⟩
  | alarm target =>
      obtain ⟨helapsed, -, schedule, hafter, hstage, -⟩ := d.runAlarm_frame tasks target
      exact ⟨helapsed, _, hafter, hbegun.1, hstage⟩

/-- The background events before an elapsed time are a course. -/
theorem course_runBefore (stop fuel : Nat) (hon : d.OnTime) (htasks : d.tasks = some tasks)
    (hbegun : tasks.Begun) (hstop : d.elapsed ≤ stop) :
    Course d (runBefore stop fuel d) ∧ (runBefore stop fuel d).elapsed ≤ stop ∧
      ∃ after, (runBefore stop fuel d).tasks = some after ∧ after.Begun := by
  induction fuel generalizing d tasks with
  | zero => exact ⟨.refl, hstop, tasks, htasks, hbegun⟩
  | succ fuel ih =>
      rw [runBefore, htasks]
      simp only
      cases hnext : nextEvent? tasks with
      | none => exact ⟨.refl, hstop, tasks, htasks, hbegun⟩
      | some next =>
          obtain ⟨t, event⟩ := next
          simp only
          split
          next hbefore =>
            obtain ⟨hevent, hsweep, halarm⟩ := nextEvent?_spec hnext
            have hge : d.elapsed ≤ t := by
              obtain ⟨hsweeps, halarms⟩ := hon tasks htasks
              rcases hevent with ⟨-, hdue⟩ | ⟨target, -, hdue⟩
              · exact hsweeps t (by rw [hdue]; rfl)
              · exact halarms (t, target) hdue
            -- Time passes to the event, which then happens.
            have hlater : OnTime { d with elapsed := d.elapsed + (t - d.elapsed) } := by
              intro after hafter
              obtain rfl : tasks = after := Option.some.inj (htasks.symm.trans hafter)
              simp only [Nat.add_sub_cancel' hge]
              exact ⟨hsweep, halarm⟩
            have hpass := Turn.pass (t - d.elapsed) htasks hbegun hlater
            rw [Nat.add_sub_cancel' hge] at hpass hlater
            have hturn := turn_runEvent (d := { d with elapsed := t }) htasks hnext
            obtain ⟨helapsed, after, hafter, hbegun'⟩ :=
              begun_runEvent (d := { d with elapsed := t }) hbegun event
            obtain ⟨hcourse, hend⟩ := ih (hturn.onTime hlater) hafter hbegun'
              (helapsed.trans_le hbefore.le)
            exact ⟨.head hpass (.head hturn hcourse), hend⟩
          next => exact ⟨.refl, hstop, tasks, htasks, hbegun⟩

theorem beginSweep_frame (htasks : d.tasks = some tasks) :
    d.beginSweep.elapsed = d.elapsed ∧
      ∃ sweep, d.beginSweep.tasks = some { tasks with sweep } ∧ sweep ≠ .idle := by
  simp only [beginSweep, htasks]
  split
  next =>
    obtain ⟨helapsed, -, sweep, hafter, hsweep, -⟩ := d.runSweep_frame tasks
    exact ⟨helapsed, sweep, hafter, hsweep⟩
  next hbegun => exact ⟨rfl, tasks.sweep, htasks, hbegun⟩

/-- The tasks of a running desk begin. -/
theorem course_beginTasks (htasks : d.tasks = some tasks) :
    Course d d.beginTasks ∧ d.beginTasks.elapsed = d.elapsed ∧
      ∃ after, d.beginTasks.tasks = some after ∧ after.Begun := by
  obtain ⟨helapsed, sweep, hafter, hsweep⟩ := beginSweep_frame htasks
  have hcourse : Course d d.beginTasks := .tail (.single .beginSweep) .beginSchedule
  have hbegin : d.beginTasks = { d.beginSweep with
      tasks := some ⟨sweep, tasks.schedule.begin d.beginSweep.clock d.elapsed⟩ } := by
    simp only [beginTasks, beginSchedule, hafter, helapsed]
  refine ⟨hcourse, by rw [hbegin]; exact helapsed, _, by rw [hbegin], hsweep, ?_⟩
  simp only [ShiftSchedule.begin]
  split
  next => exact (arm_frame _ _ _ _).2.1
  next hstage => exact hstage

/-- A sleep in which every background event that comes before its end has happened is a course.
It is so wherever the desk does not run out of fuel. -/
theorem course_sleep (hon : d.OnTime) (hrunning : d.isRunning = true) (ms : Nat)
    (hdone : (d.sleep ms).OnTime) : Course d (d.sleep ms) := by
  unfold sleep at hdone ⊢
  split
  · exact .refl
  next hms =>
    rw [if_neg hms] at hdone
    obtain ⟨tasks, htasks⟩ := Option.isSome_iff_exists.mp hrunning
    obtain ⟨hbegin, helapsed, begun, hbegun, hboth⟩ := course_beginTasks htasks
    have hstop : d.beginTasks.elapsed ≤ d.elapsed + ms := by omega
    obtain ⟨hrun, hle, after, hafter, hstill⟩ :=
      course_runBefore (d.elapsed + ms) (ShiftSchedule.waitBound ms + ms + 1)
        (hbegin.onTime hon) hbegun hboth hstop
    refine (hbegin.trans hrun).tail ?_
    dsimp only at hdone ⊢
    generalize runBefore (d.elapsed + ms) (ShiftSchedule.waitBound ms + ms + 1) d.beginTasks = r
      at hdone hle hafter
    have hpass := Turn.pass (d := r) (d.elapsed + ms - r.elapsed) hafter hstill
    rw [Nat.add_sub_cancel' hle] at hpass
    exact hpass hdone

end Desk

end SupportDesk
