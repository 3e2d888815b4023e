/-
# Schedules on an exact timer

A schedule that is woken exactly at its deadlines stands at an anchor: the moment of its last
callback, or of its start.  No boundary instant lies between the anchor and the one that it waits
for, across every midnight on the way.  So at any moment at which no wait is over, no boundary
has been passed since the anchor.

The clock follows elapsed time from a whole millisecond, and the boundaries are whole seconds.
The start may be inside a leap second; a wait for midnight may then end a second early, and is
begun again.
-/

import SupportDesk.Proofs.Agent.Capacity
import SupportDesk.Proofs.Calendar.Line
import SupportDesk.Proofs.Shift.Timer

namespace SupportDesk.ShiftSchedule

open Moment (NoneBetween)

/-- The schedule may look for its next wait now: since the anchor no boundary instant is behind,
and those of today after the anchor are listed in order. -/
structure Anchored (times : List TimeOfDay) (anchor now : Moment) (coming : List TimeOfDay) :
    Prop where
  anchor_le : anchor ≤ now
  ahead : ∀ b : Moment, b.time ∈ times → anchor < b → now ≤ b
  listed : ∀ t ∈ times, anchor < ⟨now.date, t⟩ → t ∈ coming
  sorted : coming.Pairwise (· < ·)
  subset : ∀ t ∈ coming, t ∈ times

/-- The instant of a wait is not after any boundary instant since the anchor.  If the wait is
for a boundary, its instant can be the next anchor. -/
structure Awaits (times : List TimeOfDay) (anchor : Moment) (wait : Wait) : Prop where
  le_ahead : ∀ b : Moment, b.time ∈ times → anchor < b → wait.instant ≤ b
  boundary : ∀ rest, wait.target = .boundary rest →
    wait.instant.time ∈ times ∧ Anchored times wait.instant wait.instant rest ∧
      ∀ t ∈ rest, wait.instant.time < t
  midnight : wait.target = .midnight → wait.instant.time = TimeOfDay.midnight

variable {times coming : List TimeOfDay} {anchor now start : Moment} {wait : Wait}

/-- A schedule starts at its first anchor. -/
theorem Anchored.refl (hsorted : times.Pairwise (· < ·)) (now : Moment) :
    Anchored times now now times where
  anchor_le := le_refl now
  ahead _ _ hb := hb.le
  listed _ ht _ := ht
  sorted := hsorted
  subset _ ht := ht

/-- The next wait is for what comes first after the anchor. -/
theorem Anchored.awaits (h : Anchored times anchor now coming)
    (hwait : nextWait? now coming = some wait) : Awaits times anchor wait := by
  rcases nextWait?_cases hwait with
    ⟨time, rest, rfl, hsub, hle, hkept⟩ | ⟨date, rfl, hdate, hbehind⟩
  · have hsorted := List.pairwise_cons.mp (h.sorted.sublist hsub)
    refine ⟨?_, ?_, fun htarget => nomatch htarget⟩
    · intro b hb hafter
      rcases Moment.le_iff.mp (h.ahead b hb hafter) with hlt | ⟨hsame, -⟩
      · exact .inl hlt
      · obtain ⟨bdate, btime⟩ := b
        obtain rfl : now.date = bdate := Date.eq_of_number_eq hsame
        have hmem := hkept btime (h.listed btime hb hafter) (h.ahead _ hb hafter)
        rw [Moment.mk_le_mk_iff]
        rcases List.mem_cons.mp hmem with rfl | hrest
        · exact le_refl _
        · exact (hsorted.1 btime hrest).le
    · rintro rest' ⟨⟩
      refine ⟨h.subset time (hsub.subset List.mem_cons_self), ?_, hsorted.1⟩
      refine ⟨le_refl _, fun b _ hb => hb.le, ?_, hsorted.2, ?_⟩
      · intro t ht hafter
        have hlisted := h.listed t ht (h.anchor_le.trans_lt (hle.trans_lt hafter))
        rcases List.mem_cons.mp (hkept t hlisted (hle.trans hafter.le)) with rfl | hrest
        · exact absurd hafter (lt_irrefl _)
        · exact hrest
      · intro t ht
        exact h.subset t (hsub.subset (List.mem_cons_of_mem time ht))
  · refine ⟨?_, (fun rest htarget => nomatch htarget), fun _ => rfl⟩
    intro b hb hafter
    have hahead := h.ahead b hb hafter
    rcases Moment.le_iff.mp hahead with hlt | ⟨hsame, -⟩
    · refine Moment.le_iff.mpr ?_
      rcases lt_or_eq_of_le (show date.number ≤ b.date.number by omega) with hlt | heq
      · exact .inl hlt
      · exact .inr ⟨heq, TimeOfDay.midnight_le b.time⟩
    · obtain ⟨bdate, btime⟩ := b
      obtain rfl : now.date = bdate := Date.eq_of_number_eq hsame
      exact absurd (hbehind btime (h.listed btime hb hafter)) (not_lt_of_ge hahead)

/-- Where there is no next wait, no boundary instant is left in the calendar. -/
theorem Anchored.not_lt_of_nextWait?_eq_none (h : Anchored times anchor now coming)
    (hnone : nextWait? now coming = none) (b : Moment) (hb : b.time ∈ times) : ¬ anchor < b := by
  intro hafter
  have hahead := h.ahead b hb hafter
  have hsome : ∃ wait, nextWait? now coming = some wait := by
    apply exists_nextWait?
    rcases Moment.le_iff.mp hahead with hlt | ⟨hsame, -⟩
    · exact .inr (hlt.trans_le b.date.le_last)
    · obtain ⟨bdate, btime⟩ := b
      obtain rfl : now.date = bdate := Date.eq_of_number_eq hsame
      exact .inl ⟨btime, h.listed btime hb hafter, hahead⟩
  obtain ⟨wait, hwait⟩ := hsome
  rw [hnone] at hwait
  cases hwait

/-- At midnight, or before it, all boundaries of the schedule are listed again. -/
theorem Awaits.anchored_of_midnight (h : Awaits times anchor wait)
    (hsorted : times.Pairwise (· < ·)) (hle : anchor ≤ now) (hnow : now ≤ wait.instant) :
    Anchored times anchor now times where
  anchor_le := hle
  ahead b hb hafter := hnow.trans (h.le_ahead b hb hafter)
  listed _ ht _ := ht
  sorted := hsorted
  subset _ ht := ht

/-! ## The task -/

/-- A task that has been woken exactly at its deadlines since an anchor. -/
inductive Keeps (clock : Clock) (elapsed : Nat) (anchor : Moment) (s : ShiftSchedule) : Prop
  /-- It has not begun. -/
  | idle (hstage : s.stage = .idle) (hread : clock.read elapsed = .ok anchor)
  /-- Its wait ends in time, or, if it is for midnight, not after it. -/
  | waiting {deadline : Nat} {wait : Wait} {r : Moment}
      (hstage : s.stage = .waiting deadline wait.target) (hle : elapsed ≤ deadline)
      (hread : clock.read deadline = .ok r) (hnotAfter : r ≤ wait.instant)
      (hexact : wait.target ≠ .midnight → r = wait.instant)
      (hawaits : Awaits s.times anchor wait)
  /-- No boundary instant is left. -/
  | finished (hstage : s.stage = .finished)
      (hnone : ∀ b : Moment, b.time ∈ s.times → ¬ anchor < b)

variable {s : ShiftSchedule} {elapsed : Nat}

/-- No wait of the task is over. -/
def Settled (s : ShiftSchedule) (elapsed : Nat) : Prop := ∀ a ∈ s.alarm?, elapsed < a.1

/-- A boundary can have been passed since the anchor only at the very moment at which a wait is
over. -/
theorem Keeps.noneBetween (h : s.Keeps (.following start) elapsed anchor)
    (hsettled : s.Settled elapsed ∨ now.time ∉ s.times)
    (hnow : (Clock.following start).read elapsed = .ok now) : NoneBetween s.times anchor now := by
  intro b hb hafter
  cases h with
  | idle hstage hread =>
      rw [hnow, Except.ok.injEq] at hread
      rwa [hread]
  | @waiting deadline wait r hstage hle hread hnotAfter hexact hawaits =>
      have hahead : r ≤ b := hnotAfter.trans (hawaits.le_ahead b hb hafter)
      rcases hsettled with hsettled | hoff
      · have hdeadline := hsettled (_, wait.target) (by rw [alarm?, hstage]; rfl)
        exact (Clock.lt_of_read_following hdeadline hnow hread).trans_le hahead
      · refine ((Clock.le_of_read_following hle hnow hread).trans hahead).lt_of_ne ?_
        rintro rfl
        exact hoff hb
  | finished hstage hnone => exact absurd hafter (hnone b hb)

/-- A task whose wait is over can read its clock. -/
theorem Keeps.settled_or_due {clock : Clock} (h : s.Keeps clock elapsed anchor) :
    s.Settled elapsed ∨
      ∃ target now, s.alarm? = some (elapsed, target) ∧ clock.read elapsed = .ok now := by
  cases h with
  | idle hstage =>
      left
      intro a ha
      simp [alarm?, hstage] at ha
  | @waiting deadline wait r hstage hle hread _ _ _ =>
      rcases hle.lt_or_eq with hlt | rfl
      · left
        intro a ha
        simp only [alarm?, hstage, Option.mem_def, Option.some.injEq] at ha
        rwa [← ha]
      · exact .inr ⟨wait.target, r, by rw [alarm?, hstage], hread⟩
  | finished hstage =>
      left
      intro a ha
      simp [alarm?, hstage] at ha

/-- Time may pass while a task waits. -/
theorem Keeps.pass {clock : Clock} {later : Nat} (h : s.Keeps clock elapsed anchor)
    (hbegun : s.stage ≠ .idle) (hlater : ∀ a ∈ s.alarm?, later ≤ a.1) :
    s.Keeps clock later anchor := by
  cases h with
  | idle hstage => exact absurd hstage hbegun
  | @waiting deadline wait r hstage _ hread hnotAfter hexact hawaits =>
      have hle := hlater (deadline, wait.target) (by rw [alarm?, hstage]; rfl)
      exact .waiting hstage hle hread hnotAfter hexact hawaits
  | finished hstage hnone => exact .finished hstage hnone

/-- A task that looks for its next wait goes on in this way. -/
theorem Anchored.keeps_arm (h : Anchored s.times anchor now coming)
    (hwhole : ∀ t ∈ s.times, t.nano = 0) (hmilli : start.time.nano % 1000000 = 0)
    (hnow : (Clock.following start).read elapsed = .ok now) :
    (s.arm (.following start) elapsed coming).Keeps (.following start) elapsed anchor := by
  cases hwait : nextWait? now coming with
  | none =>
      simp only [arm, hnow, hwait]
      exact .finished rfl (h.not_lt_of_nextWait?_eq_none hwait)
  | some wait =>
      have hawaits := h.awaits hwait
      have hinstant : wait.instant.time.nano = 0 := by
        cases htarget : wait.target with
        | boundary rest => exact hwhole _ (hawaits.boundary rest htarget).1
        | midnight =>
            rw [hawaits.midnight htarget]
            rfl
      obtain ⟨r, hread, hnotAfter, hexact⟩ :=
        Clock.exists_read_following_of_wait hmilli hnow hinstant (le_instant hwait)
      simp only [arm, hnow, hwait]
      refine .waiting rfl (Nat.le_add_right _ _) hread hnotAfter ?_ hawaits
      intro hboundary
      rcases nextWait?_cases hwait with ⟨time, rest, rfl, -⟩ | ⟨date, rfl, -⟩
      · exact hexact (.inl rfl)
      · exact absurd rfl hboundary

/-- A task that begins at its anchor waits for what comes first after it. -/
theorem Keeps.begin (h : s.Keeps (.following start) elapsed anchor)
    (hsorted : s.times.Pairwise (· < ·)) (hwhole : ∀ t ∈ s.times, t.nano = 0)
    (hmilli : start.time.nano % 1000000 = 0) :
    (s.begin (.following start) elapsed).Keeps (.following start) elapsed anchor := by
  unfold ShiftSchedule.begin
  split
  next hstage =>
    cases h with
    | idle _ hread => exact (Anchored.refl hsorted anchor).keeps_arm hwhole hmilli hread
    | waiting hwaiting => simp [hstage] at hwaiting
    | finished hfinished => simp [hstage] at hfinished
  next => exact h

/-- A task that is woken at a boundary goes on from there as its anchor. -/
theorem Keeps.wake_boundary (h : s.Keeps (.following start) elapsed anchor)
    (hwhole : ∀ t ∈ s.times, t.nano = 0) (hmilli : start.time.nano % 1000000 = 0)
    (hnow : (Clock.following start).read elapsed = .ok now) {rest : List TimeOfDay}
    (hdue : s.alarm? = some (elapsed, .boundary rest)) :
    (s.arm (.following start) elapsed rest).Keeps (.following start) elapsed now ∧
      ∀ t ∈ rest, t ∈ s.times ∧ now.time < t := by
  cases h with
  | idle hstage => simp [alarm?, hstage] at hdue
  | finished hstage => simp [alarm?, hstage] at hdue
  | @waiting deadline wait r hstage hle hread hnotAfter hexact hawaits =>
      simp only [alarm?, hstage, Option.some.injEq, Prod.mk.injEq] at hdue
      obtain ⟨rfl, htarget⟩ := hdue
      rw [hnow, Except.ok.injEq] at hread
      have hboundary : wait.target ≠ .midnight := by
        rw [htarget]
        intro hsame
        cases hsame
      obtain rfl : now = wait.instant := hread.trans (hexact hboundary)
      obtain ⟨-, hanchored, hlater⟩ := hawaits.boundary rest htarget
      exact ⟨hanchored.keeps_arm hwhole hmilli hnow,
        fun t ht => ⟨hanchored.subset t ht, hlater t ht⟩⟩

/-- A task that is woken at midnight keeps its anchor and lists all its boundaries again. -/
theorem Keeps.anchored_of_midnight (h : s.Keeps (.following start) elapsed anchor)
    (hsorted : s.times.Pairwise (· < ·)) (hle : anchor ≤ now)
    (hnow : (Clock.following start).read elapsed = .ok now)
    (hdue : s.alarm? = some (elapsed, .midnight)) : Anchored s.times anchor now s.times := by
  cases h with
  | idle hstage => simp [alarm?, hstage] at hdue
  | finished hstage => simp [alarm?, hstage] at hdue
  | @waiting deadline wait r hstage _ hread hnotAfter _ hawaits =>
      simp only [alarm?, hstage, Option.some.injEq, Prod.mk.injEq] at hdue
      obtain ⟨rfl, -⟩ := hdue
      rw [hnow, Except.ok.injEq] at hread
      exact hawaits.anchored_of_midnight hsorted hle (hread ▸ hnotAfter)

/-! ## Waits of no length -/

/-- Outside leap seconds a wait for a later whole second takes time. -/
theorem coveringMillis_pos {w : Moment} (hmilli : start.time.nano % 1000000 = 0)
    (hnow : (Clock.following start).read elapsed = .ok now) (hordinary : now.time.isLeap = false)
    (hwhole : w.time.nano = 0) (hlt : now < w) : 0 < (w.since now).coveringMillis := by
  obtain ⟨r, hread, -, hexact⟩ :=
    Clock.exists_read_following_of_wait hmilli hnow hwhole hlt.le
  rw [hexact (.inr hordinary)] at hread
  by_contra hzero
  rw [Nat.eq_zero_of_not_pos hzero, Nat.add_zero, hnow, Except.ok.injEq] at hread
  exact absurd hread hlt.ne

/-- Outside leap seconds a task that looks for its next wait either takes time for it, or is at
a boundary, for which it is woken at once. -/
theorem settled_arm_or_boundary (hwhole : ∀ t ∈ coming, t.nano = 0)
    (hmilli : start.time.nano % 1000000 = 0)
    (hnow : (Clock.following start).read elapsed = .ok now) (hordinary : now.time.isLeap = false) :
    (s.arm (.following start) elapsed coming).Settled elapsed ∨
      now.time ∈ coming ∧ ∃ rest,
        (s.arm (.following start) elapsed coming).alarm? = some (elapsed, .boundary rest) := by
  cases hwait : nextWait? now coming with
  | none =>
      left
      intro a ha
      simp [arm, hnow, hwait, alarm?] at ha
  | some wait =>
      have hsettled (hpos : 0 < (wait.instant.since now).coveringMillis) :
          (s.arm (.following start) elapsed coming).Settled elapsed := by
        intro a ha
        simp only [arm, hnow, hwait, alarm?, Option.mem_def, Option.some.injEq] at ha
        rw [← ha]
        exact Nat.lt_add_of_pos_right hpos
      rcases nextWait?_cases hwait with ⟨time, rest, rfl, hsub, hle, -⟩ | ⟨date, rfl, hdate, -⟩
      · have hmem : time ∈ coming := hsub.subset List.mem_cons_self
        rcases hle.lt_or_eq with hlt | heq
        · exact .inl (hsettled (coveringMillis_pos hmilli hnow hordinary (hwhole time hmem) hlt))
        · -- The boundary is the present moment.
          right
          have htime : now.time = time := congrArg Moment.time heq
          refine ⟨htime ▸ hmem, rest, ?_⟩
          simp only [arm, hnow, hwait, alarm?, ← heq, Moment.coveringMillis_since_self,
            Nat.add_zero]
      · left
        apply hsettled
        refine coveringMillis_pos hmilli hnow hordinary rfl (Moment.lt_of_number_lt ?_)
        simp only
        omega

end SupportDesk.ShiftSchedule
