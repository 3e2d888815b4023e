/-
# Windows on the clock

A window from one time of day to another goes on past midnight where its end comes before its
start.  Told by the distance that the clock goes from the start, counted round the day, it has no
such cases: a time lies in the window if and only if it is less far ahead of the start than the end
is.  Equal bounds are no distance apart, so that their window is empty and not the whole day.

Adding a span goes as far ahead as the span does round the day, also backward and for spans of
several days.  Times inside a leap second are left out of all this, since they have no place of
their own in the day.
-/

import SupportDesk.Proofs.Calendar.Line

namespace SupportDesk

namespace TimeOfDay

/-- How far the clock goes from one time until it next shows another. -/
def ahead (start t : TimeOfDay) : Int := (t.sinceMidnight - start.sinceMidnight) % perDay

variable {start stop t : TimeOfDay}

theorem ahead_bounds (start t : TimeOfDay) : 0 ≤ start.ahead t ∧ start.ahead t < perDay :=
  ⟨Int.emod_nonneg _ (by decide), Int.emod_lt_of_pos _ (by decide)⟩

theorem sinceMidnight_of_ordinary (h : t.isLeap = false) : t.sinceMidnight = t.linear := by
  rw [linear, h]
  simp

theorem linear_range (t : TimeOfDay) : 0 ≤ t.linear ∧ t.linear < perDay := by
  have hbounds := t.linear_bounds
  have hsecond := t.second_lt
  unfold perDay
  omega

/-- Ordinary times come in the order of their places. -/
theorem le_iff_linear (hstart : start.isLeap = false) (ht : t.isLeap = false) :
    start ≤ t ↔ start.linear ≤ t.linear := by
  have hstartNano : ¬ 1000000000 ≤ start.nano := by simp [← isLeap_iff, hstart]
  have htNano : ¬ 1000000000 ≤ t.nano := by simp [← isLeap_iff, ht]
  rw [le_iff_rank, rank, rank, linear_of_ordinary hstart, linear_of_ordinary ht]
  omega

/-- The clock goes straight on to a time that is not earlier, and past midnight to the others. -/
theorem ahead_of_ordinary (hstart : start.isLeap = false) (ht : t.isLeap = false) :
    start.ahead t = if start.linear ≤ t.linear then t.linear - start.linear
      else t.linear - start.linear + perDay := by
  obtain ⟨hstartFrom, hstartTo⟩ := start.linear_range
  obtain ⟨htFrom, htTo⟩ := t.linear_range
  rw [ahead, sinceMidnight_of_ordinary hstart, sinceMidnight_of_ordinary ht]
  unfold perDay at *
  split <;> omega

/-- A time lies in a window if it is less far ahead of the start than the end is. -/
theorem within_iff_ahead (hstart : start.isLeap = false) (hstop : stop.isLeap = false)
    (ht : t.isLeap = false) : within start stop t = true ↔ start.ahead t < start.ahead stop := by
  obtain ⟨hstartFrom, hstartTo⟩ := start.linear_range
  obtain ⟨htFrom, htTo⟩ := t.linear_range
  obtain ⟨hstopFrom, hstopTo⟩ := stop.linear_range
  rw [ahead_of_ordinary hstart ht, ahead_of_ordinary hstart hstop, within]
  simp only [le_iff_linear hstart ht, le_iff_linear hstart hstop, ← not_le (a := stop),
    le_iff_linear hstop ht]
  split
  next hsameDay => rw [decide_eq_true_iff]; omega
  next hovernight => rw [decide_eq_true_iff]; omega

/-- Two windows that begin where the other ends share the day between them. -/
theorem within_swap (h : start ≠ stop) (t : TimeOfDay) :
    within stop start t = !within start stop t := by
  have hrank : start.rank ≠ stop.rank := fun hsame => h (eq_of_rank_eq hsame)
  simp only [within, le_iff_rank, lt_iff_rank]
  split <;> split <;> simp only [← decide_not, decide_eq_decide] <;> omega

/-- A window with different bounds has at least its start. -/
theorem within_start (h : start ≠ stop) : within start stop start = true := by
  rw [within]
  split
  next hsameDay => simp [lt_of_le_of_ne hsameDay h]
  next hovernight => simp

/-- Different times are some distance apart. -/
theorem ahead_pos (hstart : start.isLeap = false) (hstop : stop.isLeap = false)
    (h : start ≠ stop) : 0 < start.ahead stop := by
  have hself : start.ahead start = 0 := by simp [ahead]
  rw [← hself, ← within_iff_ahead hstart hstop hstart]
  exact within_start h

/-- A span that is added takes an ordinary time to an ordinary one, as far ahead as the span goes
round the day. -/
theorem ahead_addCarry (hstart : start.isLeap = false) (d : Duration) :
    (start.addCarry d).1.isLeap = false ∧
      start.ahead (start.addCarry d).1 = d.nanos % perDay := by
  have hnano : start.nano < 1000000000 := by
    rw [← not_le, ← isLeap_iff, hstart]
    exact Bool.false_ne_true
  have hadd : start.addCarry d = ofSinceMidnight (start.sinceMidnight + d.nanos) := dif_pos hnano
  obtain ⟨hline, hordinary⟩ := ofSinceMidnight_linear (start.sinceMidnight + d.nanos)
  rw [hadd]
  refine ⟨hordinary, ?_⟩
  rw [ahead, sinceMidnight_of_ordinary hordinary]
  unfold perDay at *
  omega

end TimeOfDay

end SupportDesk
