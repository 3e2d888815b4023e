/-
# Clocks that follow elapsed time

Moments are laid out on a line of nanoseconds, on which a leap second lies over the second that
it follows.  A moment is known from its place on the line and from whether it is inside a leap
second.  Adding a span moves along the line by the span, and leaves a leap second when the span
reaches beyond its end.

A clock that follows elapsed time therefore goes strictly forward.  A wait that is counted in
whole milliseconds ends in time for a whole second of the same day.  For an instant of a later
day it may end one second early, if it was begun inside a leap second.
-/

import SupportDesk.Calendar.Clock
import SupportDesk.Proofs.Calendar.Order

namespace SupportDesk

namespace TimeOfDay

/-- The place of a reading on the line of its day. -/
def linear (t : TimeOfDay) : Int :=
  t.sinceMidnight - if t.isLeap then Duration.perSecond else 0

theorem isLeap_iff {t : TimeOfDay} : t.isLeap = true ↔ 1000000000 ≤ t.nano := by simp [isLeap]

theorem linear_of_ordinary {t : TimeOfDay} (h : t.isLeap = false) :
    t.linear = t.second * 1000000000 + t.nano := by
  rw [linear, h]
  simp [sinceMidnight, Duration.perSecond]

theorem linear_of_leap {t : TimeOfDay} (h : t.isLeap = true) :
    t.linear = t.second * 1000000000 + t.nano - 1000000000 := by
  rw [linear, h]
  simp [sinceMidnight, Duration.perSecond]

/-- Each second of a day has its own part of the line. -/
theorem linear_bounds (t : TimeOfDay) :
    (t.second : Int) * 1000000000 ≤ t.linear ∧ t.linear < (t.second + 1 : Int) * 1000000000 := by
  have hnano := t.nano_lt
  cases hleap : t.isLeap with
  | true =>
      have hlate := isLeap_iff.mp hleap
      rw [linear_of_leap hleap]
      omega
  | false =>
      have hearly : ¬ 1000000000 ≤ t.nano := by rw [← isLeap_iff, hleap]; exact Bool.false_ne_true
      rw [linear_of_ordinary hleap]
      omega

/-- A reading is known from its place and from whether it is inside a leap second. -/
theorem eq_of_linear_eq {a b : TimeOfDay} (h : a.linear = b.linear)
    (hleap : a.isLeap = b.isLeap) : a = b := by
  have ha := a.linear_bounds
  have hb := b.linear_bounds
  have hsecond : a.second = b.second := by omega
  have hnano : a.nano = b.nano := by
    simp only [linear, sinceMidnight, hsecond, hleap] at h
    omega
  apply eq_of_rank_eq
  rw [rank, rank, hsecond, hnano]

/-- The span to an ordinary reading is the distance on the line, and a second less if it begins
inside a leap second and ends not later in the day. -/
theorem nanos_since {w m : TimeOfDay} (hw : w.isLeap = false) :
    (w.since m).nanos = w.linear - m.linear -
      if m.isLeap = true ∧ w.second ≤ m.second then Duration.perSecond else 0 := by
  simp only [since, linear, hw, Bool.false_eq_true, and_false, if_false, Int.sub_zero]
  cases hm : m.isLeap with
  | true =>
      by_cases hsecond : m.second < w.second
      · rw [if_pos ⟨hsecond, rfl⟩, if_pos rfl, if_neg (fun h => absurd h.2 (not_le.mpr hsecond))]
        ring
      · rw [if_neg (fun h => hsecond h.1), if_pos rfl, if_pos ⟨rfl, not_lt.mp hsecond⟩]
        ring
  | false => simp

/-- The ordinary reading at a distance from midnight lies there. -/
theorem ofSinceMidnight_linear (n : Int) :
    (ofSinceMidnight n).2 * perDay + (ofSinceMidnight n).1.linear = n ∧
      (ofSinceMidnight n).1.isLeap = false := by
  have hordinary : (ofSinceMidnight n).1.isLeap = false := by
    rw [Bool.eq_false_iff, Ne, isLeap_iff]
    simp only [ofSinceMidnight, perDay, Duration.perSecond]
    omega
  refine ⟨?_, hordinary⟩
  rw [linear_of_ordinary hordinary]
  simp only [ofSinceMidnight, perDay, Duration.perSecond]
  omega

/-- Adding a span moves along the line, across as many days as it carries, and leaves a leap
second when it reaches beyond its end. -/
theorem addCarry_linear (t : TimeOfDay) {d : Duration} (hd : 0 ≤ d.nanos) :
    (t.addCarry d).2 * perDay + (t.addCarry d).1.linear = t.linear + d.nanos ∧
      ((t.addCarry d).1.isLeap = true ↔
        t.isLeap = true ∧ (t.nano : Int) + d.nanos < 2000000000) := by
  obtain ⟨hwhole, hfraction⟩ := split_of_nonneg hd
  unfold addCarry
  split
  next hearly =>
    have hordinary : t.isLeap = false := by
      rw [Bool.eq_false_iff, Ne, isLeap_iff]
      omega
    obtain ⟨hline, hleap⟩ := ofSinceMidnight_linear (t.sinceMidnight + d.nanos)
    rw [hline, hleap, linear_of_ordinary hordinary, hordinary]
    simp [sinceMidnight, Duration.perSecond]
  next hlate =>
    have hleap : t.isLeap = true := by
      rw [isLeap_iff]
      omega
    split
    next hleaves =>
      obtain ⟨hline, hordinary⟩ :=
        ofSinceMidnight_linear (t.sinceMidnight - Duration.perSecond + d.nanos)
      rw [hline, hordinary, linear_of_leap hleap, hleap]
      simp only [sinceMidnight, Duration.perSecond, Bool.false_eq_true, true_and, false_iff]
      omega
    next hstays =>
      rw [if_neg (by omega)]
      split
      next hend =>
        have hsame : isLeap ⟨t.second, ((t.nano : Int) + d.fraction).toNat, t.second_lt, hend,
            fun _ => t.minute_end_of_leap (Nat.le_of_not_lt hlate)⟩ = true := by
          rw [isLeap_iff]
          simp only
          omega
        rw [linear_of_leap hsame, hsame, linear_of_leap hleap, hleap]
        simp only [perDay, true_and, true_iff]
        exact ⟨by omega, by omega⟩
      next hend =>
        have hnano := t.nano_lt
        omega

end TimeOfDay

namespace Moment

/-- The place of a moment on the line. -/
def line (m : Moment) : Int := m.date.number * TimeOfDay.perDay + m.time.linear

/-- The places of a day are those between two midnights. -/
theorem line_bounds (m : Moment) :
    m.date.number * TimeOfDay.perDay ≤ m.line ∧
      m.line < (m.date.number + 1) * TimeOfDay.perDay := by
  have hlinear := m.time.linear_bounds
  have hsecond := m.time.second_lt
  unfold line TimeOfDay.perDay
  omega

/-- Further along the line is later, except that a leap second is later than the second over
which it lies. -/
theorem lt_of_line_lt {a b : Moment} (h : a.line < b.line)
    (hleap : a.time.isLeap = true → b.time.isLeap = true ∨
      a.date.number * 86400 + a.time.second < b.date.number * 86400 + b.time.second) : a < b := by
  have ha := a.time.linear_bounds
  have hb := b.time.linear_bounds
  have hasecond := a.time.second_lt
  have hbsecond := b.time.second_lt
  have hanano := a.time.nano_lt
  simp only [line, TimeOfDay.perDay] at h
  rw [lt_iff, TimeOfDay.lt_iff_rank, TimeOfDay.rank, TimeOfDay.rank]
  cases hal : a.time.isLeap with
  | true =>
      rw [TimeOfDay.linear_of_leap hal] at h ha
      rcases hleap hal with hbl | hlater
      · rw [TimeOfDay.linear_of_leap hbl] at h hb
        omega
      · omega
  | false =>
      rw [TimeOfDay.linear_of_ordinary hal] at h ha
      cases hbl : b.time.isLeap with
      | true =>
          rw [TimeOfDay.linear_of_leap hbl] at h hb
          omega
      | false =>
          rw [TimeOfDay.linear_of_ordinary hbl] at h hb
          omega

/-- Up to an ordinary moment the line goes with the order. -/
theorem line_le_of_le {a b : Moment} (h : a ≤ b) (hb : b.time.isLeap = false) :
    a.line ≤ b.line := by
  by_contra hlt
  refine absurd (lt_of_line_lt (not_le.mp hlt) ?_) (not_lt_of_ge h)
  rw [hb]
  exact fun hleap => absurd hleap Bool.false_ne_true

/-- The span to an ordinary moment is the distance on the line.  Only where it begins inside a
leap second and ends on another day, not later in the day, is it a second short. -/
theorem nanos_since {w m : Moment} (hw : w.time.isLeap = false) :
    (w.since m).nanos = w.line - m.line -
      if m.time.isLeap = true ∧ w.time.second ≤ m.time.second then 1000000000 else 0 := by
  simp only [since, TimeOfDay.nanos_since hw, line, Duration.perSecond]
  ring

@[simp] theorem coveringMillis_since_self (m : Moment) : (m.since m).coveringMillis = 0 := by
  simp [since, TimeOfDay.since, Duration.coveringMillis, Duration.perMilli]

/-- The moment a span later lies the span further along the line, and it is inside a leap second
only if the span stays within the one in which it begins. -/
theorem add_eq_ok_iff {m r : Moment} {d : Duration} (hd : 0 ≤ d.nanos) :
    m.add d = .ok r ↔ r.line = m.line + d.nanos ∧
      (r.time.isLeap = true ↔
        m.time.isLeap = true ∧ (m.time.nano : Int) + d.nanos < 2000000000) := by
  obtain ⟨hlinear, hleap⟩ := m.time.addCarry_linear hd
  constructor
  · intro h
    obtain ⟨hnumber, htime⟩ := number_of_add h
    rw [htime, hleap]
    refine ⟨?_, Iff.rfl⟩
    simp only [line, hnumber, htime, TimeOfDay.perDay] at hlinear ⊢
    omega
  · rintro ⟨hline, hrleap⟩
    have hsame : (m.time.addCarry d).1.isLeap = r.time.isLeap := by
      rw [Bool.eq_iff_iff, hleap, hrleap]
    have hcarried := (m.time.addCarry d).1.linear_bounds
    have hsecond := (m.time.addCarry d).1.second_lt
    have hrbounds := r.time.linear_bounds
    have hrsecond := r.time.second_lt
    have hdate : m.date.addDays? (m.time.addCarry d).2 = some r.date := by
      rw [Date.addDays?_eq_some_iff]
      simp only [line, TimeOfDay.perDay] at hline hlinear
      omega
    have htime : (m.time.addCarry d).1 = r.time := by
      apply TimeOfDay.eq_of_linear_eq _ hsame
      have hnumber := Date.addDays?_eq_some_iff.mp hdate
      simp only [line, hnumber, TimeOfDay.perDay] at hline hlinear
      omega
    simp only [add, hdate, htime]

/-- A second back from an ordinary moment lies a second down the line, and from inside a leap
second in the ordinary second over which it lies. -/
theorem line_of_second_back {m r : Moment} (h : m.add (.ofSeconds (-1)) = .ok r) :
    r.time.isLeap = false ∧
      r.line = m.line - if m.time.isLeap then 0 else 1000000000 := by
  obtain ⟨hnumber, htime⟩ := number_of_add h
  have hwhole : (Duration.ofSeconds (-1)).wholeSeconds = -1 := Duration.wholeSeconds_ofSeconds _
  have hfraction : (Duration.ofSeconds (-1)).fraction = 0 := by decide
  have hnanos : (Duration.ofSeconds (-1)).nanos = -1000000000 := by decide
  have hcarry : m.time.addCarry (.ofSeconds (-1)) =
      TimeOfDay.ofSinceMidnight (m.time.sinceMidnight + -1000000000) := by
    simp [TimeOfDay.addCarry, hwhole, hfraction, hnanos]
  obtain ⟨hline, hordinary⟩ :=
    TimeOfDay.ofSinceMidnight_linear (m.time.sinceMidnight + -1000000000)
  rw [hcarry] at htime hnumber
  rw [← htime] at hline hordinary
  refine ⟨hordinary, ?_⟩
  have hlinear : m.time.linear =
      m.time.sinceMidnight - if m.time.isLeap then 1000000000 else 0 := rfl
  simp only [line, hnumber, hlinear, TimeOfDay.perDay] at hline ⊢
  split <;> omega

/-- The span from one ordinary moment to a later one leads there. -/
theorem add_since {m w : Moment} (hm : m.time.isLeap = false) (hw : w.time.isLeap = false)
    (hle : m ≤ w) : m.add (w.since m) = .ok w := by
  have hline := line_le_of_le hle hw
  have hspan : (w.since m).nanos = w.line - m.line := by
    rw [nanos_since hw, hm, if_neg (fun h => Bool.false_ne_true h.1), Int.sub_zero]
  apply (add_eq_ok_iff (by omega)).mpr
  constructor
  · omega
  · rw [hm, hw]
    exact iff_of_false Bool.false_ne_true fun h => Bool.false_ne_true h.1

/-- A span that does not lead beyond the place of a moment of the calendar can be added. -/
theorem exists_add {m w : Moment} {d : Duration} (hd : 0 ≤ d.nanos)
    (hw : m.line + d.nanos ≤ w.line) : ∃ r, m.add d = .ok r := by
  obtain ⟨hlinear, -⟩ := m.time.addCarry_linear hd
  have hcarried := (m.time.addCarry d).1.linear_bounds
  have hsecond := (m.time.addCarry d).1.second_lt
  have hmbounds := m.line_bounds
  have hwbounds := w.line_bounds
  have hfirst := m.date.first_le
  have hlast := w.date.le_last
  simp only [line, TimeOfDay.perDay] at hlinear hmbounds hwbounds hw
  have hdate : m.date.addDays? (m.time.addCarry d).2 =
      some ⟨m.date.number + (m.time.addCarry d).2, by omega, by omega⟩ :=
    Date.addDays?_eq_some_iff.mpr rfl
  simp [add, hdate]

end Moment

namespace Clock

variable {start m w : Moment} {e : Nat}

/-- What a following clock reads lies a millisecond along the line for each that has passed. -/
theorem read_following_eq_ok_iff :
    (following start).read e = .ok m ↔ m.line = start.line + e * 1000000 ∧
      (m.time.isLeap = true ↔
        start.time.isLeap = true ∧ (start.time.nano : Int) + e * 1000000 < 2000000000) := by
  have hspan : 0 ≤ (Duration.ofMillis e).nanos := by
    simp only [Duration.ofMillis, Duration.perMilli]
    omega
  exact Moment.add_eq_ok_iff hspan

/-- At first the clock reads its start. -/
theorem read_following_zero (start : Moment) : (following start).read 0 = .ok start := by
  rw [read_following_eq_ok_iff]
  refine ⟨by simp, ?_⟩
  have hnano := start.time.nano_lt
  simp only [Nat.cast_zero, zero_mul, add_zero, iff_self_and]
  omega

/-- A following clock goes forward. -/
theorem lt_of_read_following {e' : Nat} {m' : Moment} (hlt : e < e')
    (h : (following start).read e = .ok m) (h' : (following start).read e' = .ok m') :
    m < m' := by
  obtain ⟨hline, hleap⟩ := read_following_eq_ok_iff.mp h
  obtain ⟨hline', hleap'⟩ := read_following_eq_ok_iff.mp h'
  apply Moment.lt_of_line_lt
  · omega
  · intro hinside
    cases hinside' : m'.time.isLeap with
    | true => exact .inl rfl
    | false =>
        -- The clock has left the leap second in which it was started.
        right
        obtain ⟨hstart, hbefore⟩ := hleap.mp hinside
        have hleft : 2000000000 ≤ (start.time.nano : Int) + e' * 1000000 := by
          by_contra hnot
          rw [hleap'.mpr ⟨hstart, by omega⟩] at hinside'
          cases hinside'
        have hlinear := TimeOfDay.linear_of_leap hinside
        have hlinear' := TimeOfDay.linear_of_ordinary hinside'
        have hstartline := TimeOfDay.linear_of_leap hstart
        have hnano := m.time.nano_lt
        have hnano' := m'.time.nano_lt
        have hsecond := m.time.second_lt
        have hsecond' := m'.time.second_lt
        have hstartsecond := start.time.second_lt
        have hlate := TimeOfDay.isLeap_iff.mp hinside
        have hlate' := TimeOfDay.isLeap_iff.mp hstart
        have hearly' : ¬ 1000000000 ≤ m'.time.nano := by
          rw [← TimeOfDay.isLeap_iff, hinside']
          exact Bool.false_ne_true
        simp only [Moment.line, TimeOfDay.perDay, hlinear, hlinear', hstartline] at hline hline'
        omega

theorem le_of_read_following {e' : Nat} {m' : Moment} (hle : e ≤ e')
    (h : (following start).read e = .ok m) (h' : (following start).read e' = .ok m') :
    m ≤ m' := by
  rcases hle.lt_or_eq with hlt | rfl
  · exact (lt_of_read_following hlt h h').le
  · rw [h, Except.ok.injEq] at h'
    exact h'.le

/-- A clock that reads a moment has read one at every time before. -/
theorem exists_read_of_le {e' : Nat} {m' : Moment} (hle : e ≤ e')
    (h' : (following start).read e' = .ok m') : ∃ m, (following start).read e = .ok m := by
  obtain ⟨hline, -⟩ := read_following_eq_ok_iff.mp h'
  apply Moment.exists_add (w := m')
  · simp only [Duration.ofMillis, Duration.perMilli]
    omega
  · simp only [Duration.ofMillis, Duration.perMilli]
    omega

/-- A second back from one reading lies before every reading of the second up to it. -/
theorem second_back_lt {e' : Nat} {m' before : Moment} (hle : e ≤ e') (hlt : e' < e + 1000)
    (h : (following start).read e = .ok m) (h' : (following start).read e' = .ok m')
    (hback : m'.add (.ofSeconds (-1)) = .ok before) : before < m := by
  obtain ⟨hline, hleap⟩ := read_following_eq_ok_iff.mp h
  obtain ⟨hline', hleap'⟩ := read_following_eq_ok_iff.mp h'
  obtain ⟨hordinary, hbefore⟩ := Moment.line_of_second_back hback
  split at hbefore
  next hinside =>
    -- Both readings are inside the leap second in which the clock was started.
    obtain ⟨hstart, hend⟩ := hleap'.mp hinside
    have hm := hleap.mpr ⟨hstart, by omega⟩
    have hmline := TimeOfDay.linear_of_leap hm
    have hmline' := TimeOfDay.linear_of_leap hinside
    have hstartline := TimeOfDay.linear_of_leap hstart
    have hbeforeline := TimeOfDay.linear_of_ordinary hordinary
    have hlate := TimeOfDay.isLeap_iff.mp hm
    have hlate' := TimeOfDay.isLeap_iff.mp hinside
    have hstartlate := TimeOfDay.isLeap_iff.mp hstart
    have hearly : ¬ 1000000000 ≤ before.time.nano := by
      rw [← TimeOfDay.isLeap_iff, hordinary]
      exact Bool.false_ne_true
    have hsecond := m.time.second_lt
    have hsecond' := m'.time.second_lt
    have hstartsecond := start.time.second_lt
    have hbeforesecond := before.time.second_lt
    have hnano := m.time.nano_lt
    have hnano' := m'.time.nano_lt
    simp only [Moment.line, TimeOfDay.perDay, hmline, hmline', hstartline, hbeforeline]
      at hline hline' hbefore
    rw [Moment.lt_iff, TimeOfDay.lt_iff_rank, TimeOfDay.rank, TimeOfDay.rank]
    omega
  next =>
    apply Moment.lt_of_line_lt
    · omega
    · rw [hordinary]
      exact fun hinside => absurd hinside Bool.false_ne_true

/-- The clock comes to an ordinary moment that lies whole milliseconds further along the line. -/
theorem read_following_of_line (hread : (following start).read e = .ok m) {k : Nat}
    (hw : w.time.isLeap = false) (hline : w.line = m.line + k * 1000000)
    (hlater : m.time.isLeap = true →
      m.date.number * 86400 + m.time.second < w.date.number * 86400 + w.time.second) :
    (following start).read (e + k) = .ok w := by
  obtain ⟨hmline, hmleap⟩ := read_following_eq_ok_iff.mp hread
  rw [read_following_eq_ok_iff, hw]
  refine ⟨by rw [hline, hmline]; push_cast; ring, ?_⟩
  simp only [Bool.false_eq_true, false_iff, not_and]
  intro hstart hbefore
  push_cast at hbefore
  have hm := hmleap.mpr ⟨hstart, by omega⟩
  have hsooner := hlater hm
  have hstartline := TimeOfDay.linear_of_leap hstart
  have hwline := TimeOfDay.linear_of_ordinary hw
  have hmlinear := m.time.linear_bounds
  have hmsecond := m.time.second_lt
  have hstartsecond := start.time.second_lt
  have hstartlate := TimeOfDay.isLeap_iff.mp hstart
  simp only [Moment.line, TimeOfDay.perDay, hstartline, hwline] at hline hmline
  omega

/-- Short of the place of a moment on another day, the clock comes before it. -/
theorem exists_read_following_before (hread : (following start).read e = .ok m) {k : Nat}
    (hdate : m.date.number < w.date.number) (hbefore : m.line + k * 1000000 < w.line) :
    ∃ r, (following start).read (e + k) = .ok r ∧ r < w := by
  obtain ⟨hmline, -⟩ := read_following_eq_ok_iff.mp hread
  have hnonneg : 0 ≤ (Duration.ofMillis (e + k : Nat)).nanos := by
    simp only [Duration.ofMillis, Duration.perMilli]
    omega
  have hreach : start.line + (Duration.ofMillis (e + k : Nat)).nanos ≤ w.line := by
    simp only [Duration.ofMillis, Duration.perMilli]
    push_cast
    omega
  obtain ⟨r, hr⟩ := Moment.exists_add hnonneg hreach
  have hrread : (following start).read (e + k) = .ok r := hr
  refine ⟨r, hrread, ?_⟩
  obtain ⟨hrline, hrleap⟩ := read_following_eq_ok_iff.mp hrread
  push_cast at hrline hrleap
  apply Moment.lt_of_line_lt
  · omega
  · -- Inside a leap second the clock is still in the one in which it was started.
    intro hinside
    right
    obtain ⟨hstart, hend⟩ := hrleap.mp hinside
    have hstartline := TimeOfDay.linear_of_leap hstart
    have hstartlate := TimeOfDay.isLeap_iff.mp hstart
    have hstartsecond := start.time.second_lt
    have hrlinear := r.time.linear_bounds
    have hrsecond := r.time.second_lt
    have hmlinear := m.time.linear_bounds
    have hmsecond := m.time.second_lt
    simp only [Moment.line, TimeOfDay.perDay, hstartline] at hrline hmline
    omega

/-- The readings of a clock that starts at a whole millisecond lie at whole milliseconds. -/
theorem line_mod_of_read_following (hmilli : start.time.nano % 1000000 = 0)
    (hread : (following start).read e = .ok m) : m.line % 1000000 = 0 := by
  obtain ⟨hline, -⟩ := read_following_eq_ok_iff.mp hread
  rw [hline, Moment.line, TimeOfDay.linear, TimeOfDay.sinceMidnight]
  unfold TimeOfDay.perDay Duration.perSecond
  split <;> omega

/-- A wait for a whole second, counted in milliseconds from a whole millisecond on, ends not
after it.  It ends in time if the second is on the same day, or if the wait was not begun inside a
leap second. -/
theorem exists_read_following_of_wait (hmilli : start.time.nano % 1000000 = 0)
    (hread : (following start).read e = .ok m) (hwhole : w.time.nano = 0) (hle : m ≤ w) :
    ∃ r, (following start).read (e + (w.since m).coveringMillis) = .ok r ∧ r ≤ w ∧
      (w.date = m.date ∨ m.time.isLeap = false → r = w) := by
  have hw : w.time.isLeap = false := by
    rw [Bool.eq_false_iff, Ne, TimeOfDay.isLeap_iff]
    omega
  have hmmod := line_mod_of_read_following hmilli hread
  have hwmod : w.line % 1000000 = 0 := by
    rw [Moment.line, TimeOfDay.linear_of_ordinary hw, hwhole]
    unfold TimeOfDay.perDay
    omega
  have hline := Moment.line_le_of_le hle hw
  have hspan := Moment.nanos_since (m := m) hw
  generalize hk : (w.since m).coveringMillis = k
  have hwsecond := w.time.second_lt
  have hmsecond := m.time.second_lt
  simp only [Duration.coveringMillis, Duration.perMilli] at hk
  split at hspan
  next hearly =>
    obtain ⟨hm, hsecond⟩ := hearly
    -- The leap second is not counted, and the wait is for another day.
    have hdate : m.date.number < w.date.number := by
      rcases Moment.le_iff.mp hle with hlt | ⟨-, htime⟩
      · exact hlt
      · have hlate := TimeOfDay.isLeap_iff.mp hm
        rw [TimeOfDay.le_iff_rank, TimeOfDay.rank, TimeOfDay.rank] at htime
        omega
    have hwline := TimeOfDay.linear_of_ordinary hw
    have hmlinear := m.time.linear_bounds
    have hbefore : m.line + k * 1000000 < w.line := by
      simp only [Moment.line, TimeOfDay.perDay] at hspan hwline hmlinear hline ⊢
      omega
    obtain ⟨r, hrread, hlt⟩ := exists_read_following_before hread hdate hbefore
    refine ⟨r, hrread, hlt.le, ?_⟩
    rintro (hsame | hordinary)
    · rw [hsame] at hdate
      exact absurd hdate (lt_irrefl _)
    · rw [hordinary] at hm
      cases hm
  next hexact =>
    have hlater : m.time.isLeap = true →
        m.date.number * 86400 + m.time.second < w.date.number * 86400 + w.time.second := by
      intro hm
      have hsecond : m.time.second < w.time.second := by
        by_contra hnot
        exact hexact ⟨hm, not_lt.mp hnot⟩
      have hnumber := Moment.number_le_of_le hle
      omega
    have hwline : w.line = m.line + k * 1000000 := by omega
    exact ⟨w, read_following_of_line hread hw hwline hlater, le_refl w, fun _ => rfl⟩

end Clock

end SupportDesk
