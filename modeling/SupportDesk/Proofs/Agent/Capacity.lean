/-
# When the capacity changes

Whether a regular agent is on shift changes only where the shift starts or ends.  Between two
moments the capacity is therefore the same unless a boundary lies between them, also across
midnight and for shifts that wrap around it.
-/

import SupportDesk.Agent.Allocation
import SupportDesk.Proofs.Calendar.Order

namespace SupportDesk

namespace Moment

/-- No instant of a listed time of day lies after one moment and up to another. -/
def NoneBetween (times : List TimeOfDay) (a b : Moment) : Prop :=
  ∀ c : Moment, c.time ∈ times → a < c → b < c

/-- On one day a time that does not come between two moments is behind both or ahead of both.
From one day to a later one it was behind before and is ahead again. -/
theorem NoneBetween.cases {times : List TimeOfDay} {a b : Moment} (h : NoneBetween times a b)
    (hab : a ≤ b) {t : TimeOfDay} (ht : t ∈ times) :
    (a.date.number = b.date.number ∧ a.time ≤ b.time ∧ (t ≤ a.time ↔ t ≤ b.time)) ∨
      (a.date.number < b.date.number ∧ t ≤ a.time ∧ b.time < t) := by
  have hnotAt (date : Date) : a < ⟨date, t⟩ → b < ⟨date, t⟩ := h ⟨date, t⟩ ht
  rcases le_iff.mp hab with hlt | ⟨hdate, htime⟩
  · refine .inr ⟨hlt, ?_, ?_⟩
    · by_contra hahead
      have hnext := hnotAt a.date (.inr ⟨rfl, not_le.mp hahead⟩)
      have hback : (⟨a.date, t⟩ : Moment) < b := lt_of_number_lt hlt
      exact absurd hnext hback.not_gt
    · rcases lt_iff.mp (hnotAt b.date (.inl hlt)) with hdate | ⟨-, htime⟩
      · exact absurd hdate (lt_irrefl _)
      · exact htime
  · refine .inl ⟨hdate, htime, fun hle => hle.trans htime, ?_⟩
    intro hle
    by_contra hahead
    rcases lt_iff.mp (hnotAt a.date (.inr ⟨rfl, not_le.mp hahead⟩)) with hlt | ⟨-, hlt⟩
    · exact absurd hdate hlt.ne'
    · exact absurd hle (not_le_of_gt hlt)

/-- A daily window is open at both of two moments or at neither, unless it opens or closes
between them. -/
theorem NoneBetween.within_eq {times : List TimeOfDay} {a b : Moment} (h : NoneBetween times a b)
    (hab : a ≤ b) {start stop : TimeOfDay} (hstart : start ∈ times) (hstop : stop ∈ times) :
    TimeOfDay.within start stop b.time = TimeOfDay.within start stop a.time := by
  unfold TimeOfDay.within
  rcases h.cases hab hstart with ⟨hdate, -, hbefore⟩ | ⟨hlt, hbefore, hafter⟩
  · rcases h.cases hab hstop with ⟨-, -, hbefore'⟩ | ⟨hlt, -⟩
    · simp only [hbefore, ← not_le, hbefore']
    · exact absurd hdate hlt.ne
  · rcases h.cases hab hstop with ⟨hdate, -⟩ | ⟨-, hbefore', hafter'⟩
    · exact absurd hdate hlt.ne
    · simp [hbefore, hafter', not_le.mpr hafter, not_lt.mpr hbefore']

end Moment

namespace Allocation

theorem mem_shiftBoundaries {a : Allocation} {t : TimeOfDay} :
    t ∈ a.shiftBoundaries ↔ ∃ q ∈ a.queues, q.agent.isRegular = true ∧
      (t = q.agent.shiftStart ∨ t = q.agent.shiftEnd) := by
  simp [shiftBoundaries, and_assoc]

/-- The regular agents on shift, in roster order. -/
def staff (a : Allocation) (now : Moment) : List Agent :=
  (a.queues.map (·.agent)).filter fun agent => agent.isRegular && agent.working now

/-- The staff stays as it is while no shift of a regular agent starts or ends. -/
theorem staff_eq_of_noneBetween (a : Allocation) {m m' : Moment} (hle : m ≤ m')
    (hnone : Moment.NoneBetween a.shiftBoundaries m m') : a.staff m' = a.staff m := by
  apply List.filter_congr
  intro agent hagent
  obtain ⟨q, hq, rfl⟩ := List.mem_map.mp hagent
  cases hregular : q.agent.isRegular with
  | false => rw [Bool.false_and, Bool.false_and]
  | true =>
      have hstart := mem_shiftBoundaries.mpr ⟨q, hq, hregular, .inl rfl⟩
      have hstop := mem_shiftBoundaries.mpr ⟨q, hq, hregular, .inr rfl⟩
      simp only [Agent.working, hnone.within_eq hle hstart hstop]

/-- So does the capacity, which is a sum over the staff. -/
theorem capacity_eq_of_noneBetween (a : Allocation) {m m' : Moment} (hle : m ≤ m')
    (hnone : Moment.NoneBetween a.shiftBoundaries m m') : a.capacity m' = a.capacity m := by
  have hstaff := a.staff_eq_of_noneBetween hle hnone
  unfold staff at hstaff
  rw [capacity, capacity, hstaff]

end Allocation

end SupportDesk
