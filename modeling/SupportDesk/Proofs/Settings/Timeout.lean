/-
# How long a timeout may be

The rules of a configuration ask of the timeout that it is positive, and no more.  Three limits
lie above: the timeout is taken as a signed word, a span of time holds at most some nine thousand
million million seconds, and the moment at which a session expires must lie within the calendar.
The last of them is the narrowest.  For sessions that are touched in the years 0 to 9999 a timeout
is usable if and only if it is no longer than the calendar goes on after the year 9999, and the
other two limits are kept then.

What is assumed of a pool is where its sessions were touched, and that a session which is created
draws an identifier that the pool does not have.  The clock may show any moment at a sweep.
-/

import SupportDesk.Proofs.Calendar.Line
import SupportDesk.Proofs.Calendar.Written
import SupportDesk.Proofs.Pool.Ledger
import SupportDesk.Proofs.Settings.Rules

namespace SupportDesk

/-! ## What the calendar has left after the year 9999 -/

/-- A date comes no later than the last of December of its year or of any later one. -/
theorem Date.number_le_of_year_le {d : Date} {year : Int} (h : d.civil.year ≤ year) :
    d.number ≤ numberOf year 12 31 := by
  obtain ⟨hnumber, -, hmonth, -, hday⟩ := d.number_civil
  have hlength : monthLength d.civil.year d.civil.month ≤ 31 := by
    unfold monthLength
    split
    · split <;> omega
    · split <;> omega
  have hdecember : numberOf year 12 31 =
      year * 365 + year / 4 - year / 100 + year / 400 + 275 + 30 := rfl
  rw [← hnumber, hdecember]
  by_cases hyear : d.civil.month ≤ 2
  · simp only [numberOf, if_pos hyear]
    omega
  · simp only [numberOf, if_neg hyear]
    omega

namespace Moment

/-- The year of a moment is one of those written with four digits and without a sign. -/
def FourDigitYear (m : Moment) : Prop := 0 ≤ m.date.civil.year ∧ m.date.civil.year ≤ 9999

instance (m : Moment) : Decidable m.FourDigitYear :=
  inferInstanceAs (Decidable (0 ≤ m.date.civil.year ∧ m.date.civil.year ≤ 9999))

/-- The seconds from the end of the year 9999 to the end of the calendar. -/
def secondsAfterYear9999 : Int := (Date.lastNumber - Date.numberOf 9999 12 31) * 86400

/-- The last second of the year 9999. -/
def endOfYear9999 : Moment :=
  ⟨⟨Date.numberOf 9999 12 31, by decide, by decide⟩, (TimeOfDay.ofClock? 23 59 59 0).getD .midnight⟩

theorem fourDigitYear_endOfYear9999 : endOfYear9999.FourDigitYear := by decide +kernel

/-- So many seconds can be added to every moment up to the end of the year 9999. -/
theorem exists_add_of_fourDigitYear {m : Moment} (hm : m.FourDigitYear) {s : Int} (hs : 0 ≤ s)
    (hle : s ≤ secondsAfterYear9999) : ∃ r, m.add (.ofSeconds s) = .ok r := by
  let last : Moment := ⟨⟨Date.lastNumber, by decide, le_refl _⟩,
    ⟨86399, 999999999, by decide, by decide, by decide⟩⟩
  have hplace : last.line = Date.lastNumber * TimeOfDay.perDay + 86399999999999 := by
    decide +kernel
  have hnumber := Date.number_le_of_year_le hm.2
  obtain ⟨-, hbefore⟩ := m.line_bounds
  apply exists_add (w := last)
  · simp only [Duration.ofSeconds, Duration.perSecond]
    omega
  · simp only [Duration.ofSeconds, Duration.perSecond, hplace, TimeOfDay.perDay,
      secondsAfterYear9999] at hbefore hle ⊢
    omega

/-- No more seconds can be added to the last of them. -/
theorem le_secondsAfterYear9999 {s : Int} (hs : 0 ≤ s) {r : Moment}
    (h : endOfYear9999.add (.ofSeconds s) = .ok r) : s ≤ secondsAfterYear9999 := by
  have hspan : 0 ≤ (Duration.ofSeconds s).nanos := by
    simp only [Duration.ofSeconds, Duration.perSecond]
    omega
  obtain ⟨hline, -⟩ := (add_eq_ok_iff hspan).mp h
  have hplace : endOfYear9999.line =
      Date.numberOf 9999 12 31 * TimeOfDay.perDay + 86399000000000 := by decide +kernel
  obtain ⟨-, hbefore⟩ := r.line_bounds
  have hlast := r.date.le_last
  simp only [Duration.ofSeconds, Duration.perSecond, hplace, TimeOfDay.perDay,
    secondsAfterYear9999] at hline hbefore ⊢
  omega

end Moment

/-- A positive timeout has not passed at the moment from which it counts. -/
theorem lapsed_self {timeout : Duration} (h : 0 < timeout.nanos) (m : Moment) :
    lapsed timeout m m = false := by
  unfold lapsed
  split
  next deadline hadd =>
    obtain ⟨hline, -⟩ := (Moment.add_eq_ok_iff h.le).mp hadd
    have hle := Moment.le_of_add h.le hadd
    have hne : m ≠ deadline := by
      rintro rfl
      omega
    exact decide_eq_false (not_le.mpr (lt_of_le_of_ne hle hne))
  next => rfl

/-! ## Sweeps -/

/-- A sweep that the calendar does not cut short keeps the sessions that have just shown a sign
of life. -/
theorem Pool.Consistent.sweep_keeps_touched {p : Pool} (h : p.Consistent)
    (hreach : p.DeadlinesInCalendar) (hpositive : 0 < p.timeout.nanos) (now : Moment) :
    (p.sweep now).fault = none ∧ ∀ id s, p.session? id = some s → s.lastTouchedAt = now →
      (p.sweep now).pool.session? id = some s := by
  obtain ⟨r, hr, hsweep, hleft⟩ := h.sweep_eq_drain hreach now
  rw [hsweep]
  refine ⟨rfl, ?_⟩
  rintro id s hs rfl
  rw [hr.session?_drain, hleft, hs, Option.filter_some, lapsed_self hpositive]
  rfl

open Pool (Situation) in
/-- The timeout of a desk can be used with sessions that are touched in the years 0 to 9999:
whether they have expired can always be told, and they have not at the moment of the touch.  No
sweep of a pool with such sessions is cut short, and none ends a session that has just been
touched. -/
structure PoolSettings.TimeoutUsable (settings : PoolSettings) : Prop where
  answers : ∀ s : Session, s.lastTouchedAt.FourDigitYear → ∀ now,
    ∃ gone, s.expired settings.timeout now = .ok gone
  lives : ∀ s : Session, s.lastTouchedAt.FourDigitYear →
    s.expired settings.timeout s.lastTouchedAt = .ok false
  sweeps : ∀ start events, Situation.Admits Situation.Fresh (.start settings start) events →
    let d := (Situation.start settings start).run events
    (∀ s ∈ d.pool.sessions, s.lastTouchedAt.FourDigitYear) →
      (d.pool.sweep d.now).fault = none ∧
      ∀ id s, d.pool.session? id = some s → s.lastTouchedAt = d.now →
        (d.pool.sweep d.now).pool.session? id = some s

/-- A positive number of seconds is usable as far as the calendar goes on. -/
theorem PoolSettings.timeoutUsable_of_le {settings : PoolSettings} {seconds : Int}
    (htimeout : settings.timeout = .ofSeconds seconds) (hpositive : 0 < seconds)
    (hle : seconds ≤ Moment.secondsAfterYear9999) : settings.TimeoutUsable := by
  have hspan : 0 < settings.timeout.nanos := by
    rw [htimeout]
    simp only [Duration.ofSeconds, Duration.perSecond]
    omega
  have hdeadline : ∀ m : Moment, m.FourDigitYear → (m.add settings.timeout).isOk = true := by
    intro m hm
    obtain ⟨r, hr⟩ := Moment.exists_add_of_fourDigitYear hm hpositive.le hle
    rw [htimeout, hr]
    rfl
  refine ⟨?_, ?_, ?_⟩
  · intro s hs now
    exact ⟨_, Session.expired_eq_ok (hdeadline _ hs) now⟩
  · intro s hs
    rw [Session.expired_eq_ok (hdeadline _ hs), lapsed_self hspan]
  · intro start events hfresh d hsessions
    have hconsistent : d.pool.Consistent :=
      hfresh.consistent_run (Pool.consistent_ofSettings settings start)
    have htimeout : d.pool.timeout = settings.timeout := Pool.Situation.timeout_run _ events
    apply hconsistent.sweep_keeps_touched
    · intro s hs
      rw [htimeout]
      exact hdeadline _ (hsessions s hs)
    · rwa [htimeout]

/-- No other number of seconds is: a session might be touched in the last second of the year
9999. -/
theorem PoolSettings.TimeoutUsable.le {settings : PoolSettings} (h : settings.TimeoutUsable)
    {seconds : Int} (htimeout : settings.timeout = .ofSeconds seconds) (hnonneg : 0 ≤ seconds) :
    seconds ≤ Moment.secondsAfterYear9999 := by
  obtain ⟨gone, hgone⟩ := h.answers (.start (.ofNat 0) Moment.endOfYear9999)
    Moment.fourDigitYear_endOfYear9999 Moment.endOfYear9999
  obtain ⟨hreach, -⟩ := Session.expired_eq_ok_iff.mp hgone
  rw [htimeout, Session.start] at hreach
  cases hadd : Moment.endOfYear9999.add (.ofSeconds seconds) with
  | error e =>
      rw [hadd] at hreach
      cases hreach
  | ok r => exact Moment.le_secondsAfterYear9999 hnonneg hadd

/-! ## Which configurations have a usable timeout -/

namespace DeskConfig

/-- A configuration describes a pool if its timeout, taken as a signed word, is a span. -/
theorem poolSettings_eq_ok_iff {c : DeskConfig} {s : PoolSettings} :
    c.poolSettings = .ok s ↔ c.signedTimeout.natAbs ≤ maxSpanSeconds.natAbs ∧
      s = ⟨c.pool.concurrency, .ofSeconds c.signedTimeout, c.regularAgents,
        c.additionalAgents⟩ := by
  unfold poolSettings
  split
  next hspan => simp [hspan, eq_comm]
  next hspan => simp [hspan]

/-- The rules ask for a positive concurrency and a positive timeout. -/
theorem positive_of_validate {c : DeskConfig} (h : c.validate = .ok ()) :
    c.pool.concurrency ≠ 0 ∧ c.pool.timeoutSeconds ≠ 0 := by
  have hrules := validate_eq_ok_iff.mp h
  exact ⟨UInt32.pos_iff_ne_zero.mp hrules.concurrency, UInt64.pos_iff_ne_zero.mp hrules.timeout⟩

/-- A middle and a junior who begin at midnight and work for 23 hours. -/
def twoAgents (pool : PoolSection) : DeskConfig where
  service := ⟨"/tmp/helpdesk.sock", "info"⟩
  workingHours := ⟨.midnight, .midnight⟩
  pool
  agents := ⟨[⟨10, .middle, .midnight, 23, "Team 1"⟩, ⟨11, .junior, .midnight, 23, "Team 1"⟩], []⟩
  http := defaultHttp

/-- A timeout within the range of spans is taken over as it is configured. -/
theorem exists_poolSettings {c : DeskConfig}
    (h : (c.pool.timeoutSeconds.toNat : Int) ≤ maxSpanSeconds) :
    ∃ s, c.poolSettings = .ok s ∧ s.timeout = .ofSeconds c.pool.timeoutSeconds.toNat := by
  have hrange : maxSpanSeconds = 9223372036854775 := rfl
  have hsigned : c.signedTimeout = c.pool.timeoutSeconds.toNat := by
    unfold signedTimeout
    rw [if_pos (by omega)]
  refine ⟨⟨c.pool.concurrency, .ofSeconds c.signedTimeout, c.regularAgents, c.additionalAgents⟩,
    ?_, ?_⟩
  · rw [poolSettings_eq_ok_iff, hsigned]
    exact ⟨by omega, rfl⟩
  · rw [hsigned]

/-- The pool is described, with the configured number of seconds as its timeout, which is
positive and can be used. -/
def HasUsableTimeout (c : DeskConfig) : Prop :=
  ∃ s, c.poolSettings = .ok s ∧ s.timeout = .ofSeconds c.pool.timeoutSeconds.toNat ∧
    0 < s.timeout.nanos ∧ s.TimeoutUsable

/-- The timeout of an accepted configuration is usable exactly as far as the calendar goes on
after the year 9999. -/
theorem timeout_usable_iff {c : DeskConfig} (hvalid : c.validate = .ok ()) :
    c.HasUsableTimeout ↔ (c.pool.timeoutSeconds.toNat : Int) ≤ Moment.secondsAfterYear9999 := by
  constructor
  · rintro ⟨s, -, htimeout, -, husable⟩
    exact husable.le htimeout (Int.natCast_nonneg _)
  · intro hle
    have hpositive : 0 < c.pool.timeoutSeconds.toNat := by
      apply Nat.pos_of_ne_zero
      intro hzero
      exact (positive_of_validate hvalid).2 (UInt64.toNat_inj.mp hzero)
    have hrange : Moment.secondsAfterYear9999 ≤ maxSpanSeconds := by decide
    obtain ⟨s, hs, htimeout⟩ := exists_poolSettings (hle.trans hrange)
    refine ⟨s, hs, htimeout, ?_, s.timeoutUsable_of_le htimeout (by omega) hle⟩
    simp only [htimeout, Duration.ofSeconds, Duration.perSecond]
    omega

/-- The longest timeout that is usable, and the next one, which is accepted too. -/
theorem timeout_usable_iff_longest :
    (twoAgents ⟨3, 7956864576000⟩).validate = .ok () ∧
      (twoAgents ⟨3, 7956864576000⟩).HasUsableTimeout ∧
      (twoAgents ⟨3, 7956864576001⟩).validate = .ok () ∧
      ¬ (twoAgents ⟨3, 7956864576001⟩).HasUsableTimeout := by
  refine ⟨rfl, (timeout_usable_iff rfl).mpr ?_, rfl, ?_⟩
  · decide
  · rw [timeout_usable_iff rfl]
    decide

/-- The rules accept a timeout of which no span can be made. -/
theorem not_timeout_usable_of_validate :
    ¬ ∀ c : DeskConfig, c.validate = .ok () → c.HasUsableTimeout := by
  intro h
  obtain ⟨s, hs, -⟩ := h (twoAgents ⟨3, 9223372036854775807⟩) rfl
  have hspan : (twoAgents ⟨3, 9223372036854775807⟩).poolSettings = .error .spanOutOfBounds := by
    decide +kernel
  rw [hspan] at hs
  cases hs

/-- The longest timeout that can be configured is taken for a negative one. -/
example : (twoAgents ⟨3, 18446744073709551615⟩).poolSettings.map (·.timeout) =
    .ok (.ofSeconds (-1)) := by decide +kernel

end DeskConfig

end SupportDesk
