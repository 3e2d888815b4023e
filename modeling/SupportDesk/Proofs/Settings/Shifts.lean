/-
# When the agents of a configuration work

Whether an agent is on shift is told by comparing the time of day with two bounds, and for a
regular agent the later bound is formed by adding the length of the shift to its start.  The shift
then lasts, round the day, as long as was configured: a length that is negative or goes beyond a
day is taken by what is left of it round the day, and a shift of whole days is empty.

The rules of a configuration leave out the lengths for which this matters.  Under them every
regular agent works the configured hours of each day in one piece, over midnight where they reach
so far, and every additional agent has a piece of each day.  Only times outside leap seconds are
considered, for the bounds of the shifts and for the moments at which agents are asked for.
-/

import SupportDesk.Proofs.Calendar.Window
import SupportDesk.Proofs.Settings.Timeout

namespace SupportDesk

open Pool (sampleHour)
open TimeOfDay (perDay)

namespace Agent

/-- The agent works for one stretch of the given length in every cycle of a day, from the given
time on, and at no time between the stretches. -/
structure WorksDaily (a : Agent) (start : TimeOfDay) (length : Duration) : Prop where
  lasts : 0 < length.nanos
  pauses : length.nanos < perDay
  working_iff : ∀ m : Moment, m.time.isLeap = false → (a.working m = true ↔
    ∃ day : Int, day * perDay + start.sinceMidnight ≤ m.line ∧
      m.line < day * perDay + start.sinceMidnight + length.nanos)

/-- An agent who works as long as the clock has gone less than a length since the start works
daily for this length. -/
theorem worksDaily {a : Agent} {start : TimeOfDay} {length : Duration}
    (hlasts : 0 < length.nanos) (hpauses : length.nanos < perDay)
    (hworking : ∀ m : Moment, m.time.isLeap = false →
      (a.working m = true ↔ start.ahead m.time < length.nanos)) : a.WorksDaily start length := by
  refine ⟨hlasts, hpauses, ?_⟩
  intro m hm
  rw [hworking m hm, Moment.line, ← TimeOfDay.sinceMidnight_of_ordinary hm, TimeOfDay.ahead]
  unfold perDay at *
  constructor
  · intro hahead
    -- The stretch in which a time lies began on the same day or on the one before.
    refine ⟨m.date.number + (m.time.sinceMidnight - start.sinceMidnight) / 86400000000000,
      ?_, ?_⟩ <;> omega
  · rintro ⟨day, hfrom, hto⟩
    omega

/-- A regular agent's shift lasts, round the day, as long as the span from which it was made. -/
theorem working_ofShift_iff {id : AgentId} {start : TimeOfDay} {length : Duration} {level : Level}
    {team : String} {now : Moment} (hstart : start.isLeap = false)
    (hnow : now.time.isLeap = false) :
    (Agent.regular (.ofShift id start length level team)).working now = true ↔
      start.ahead now.time < length.nanos % perDay := by
  obtain ⟨hend, hlength⟩ := TimeOfDay.ahead_addCarry hstart length
  rw [← hlength]
  exact TimeOfDay.within_iff_ahead hstart hend hnow

/-- An additional agent is on shift until the clock has gone from the one bound to the other. -/
theorem working_additional_iff {a : AdditionalAgent} {now : Moment}
    (hstart : a.shiftStart.isLeap = false) (hend : a.shiftEnd.isLeap = false)
    (hnow : now.time.isLeap = false) :
    (Agent.additional a).working now = true ↔
      a.shiftStart.ahead now.time < a.shiftStart.ahead a.shiftEnd :=
  TimeOfDay.within_iff_ahead hstart hend hnow

end Agent

namespace DeskConfig

/-- The times by which the agents of a configuration work are not leap seconds. -/
structure OrdinaryTimes (c : DeskConfig) : Prop where
  starts : ∀ a ∈ c.agents.regular, a.shiftStart.isLeap = false
  bounds : ∀ a ∈ c.agents.additional,
    (c.window a).1.isLeap = false ∧ (c.window a).2.isLeap = false

/-- Every agent on the roster of the configuration works daily: a regular one for the configured
hours, and an additional one from the first bound of the window to the second. -/
structure AgentsWorkDaily (c : DeskConfig) : Prop where
  regular : List.Forall₂ (fun a r => r.id = a.id ∧
      (Agent.regular r).WorksDaily a.shiftStart (.ofHours a.shiftHours.toNat))
    c.agents.regular c.regularAgents
  additional : List.Forall₂ (fun a r => r.id = a.id ∧
      (Agent.additional r).WorksDaily (c.window a).1 ⟨(c.window a).1.ahead (c.window a).2⟩)
    c.agents.additional c.additionalAgents

theorem KeepsRules.agentsWorkDaily {c : DeskConfig} (h : c.KeepsRules) (htimes : c.OrdinaryTimes) :
    c.AgentsWorkDaily := by
  constructor
  · rw [regularAgents, List.forall₂_map_right_iff, List.forall₂_same]
    intro a ha
    have hstart := htimes.starts a ha
    obtain ⟨hleast, hmost⟩ := h.hours a ha
    have hone : 1 ≤ a.shiftHours.toNat := UInt32.le_iff_toNat_le.mp hleast
    have hday : a.shiftHours.toNat ≤ 23 := UInt32.le_iff_toNat_le.mp hmost
    have hlasts : 0 < (Duration.ofHours a.shiftHours.toNat).nanos := by
      simp only [Duration.ofHours, Duration.ofSeconds, Duration.perSecond]
      omega
    have hpauses : (Duration.ofHours a.shiftHours.toNat).nanos < perDay := by
      simp only [Duration.ofHours, Duration.ofSeconds, Duration.perSecond, perDay]
      omega
    refine ⟨rfl, Agent.worksDaily hlasts hpauses ?_⟩
    intro m hm
    rw [Agent.working_ofShift_iff hstart hm, Int.emod_eq_of_lt hlasts.le hpauses]
  · rw [additionalAgents, List.forall₂_map_right_iff, List.forall₂_same]
    intro a ha
    obtain ⟨hstart, hend⟩ := htimes.bounds a ha
    obtain ⟨-, hpauses⟩ := (c.window a).1.ahead_bounds (c.window a).2
    refine ⟨rfl, Agent.worksDaily ?_ hpauses ?_⟩
    · exact TimeOfDay.ahead_pos hstart hend (h.windows a ha)
    · intro m hm
      exact Agent.working_additional_iff (a := .ofWindow a.id _ _) hstart hend hm

end DeskConfig

/-- Round the day a regular agent's shift is as long as the span from which it was made, an
additional agent's is as long as from the one bound to the other, and two windows between the same
bounds share the day.  If a configuration is accepted, then every regular agent therefore works for
the configured hours of each cycle of a day, and every additional agent for some stretch of it. -/
theorem shifts_exact :
    (∀ (id : AgentId) (start : TimeOfDay) (length : Duration) (level : Level) (team : String)
      (now : Moment), start.isLeap = false → now.time.isLeap = false →
      ((Agent.regular (.ofShift id start length level team)).working now = true ↔
        start.ahead now.time < length.nanos % perDay)) ∧
    (∀ (a : AdditionalAgent) (now : Moment), a.shiftStart.isLeap = false →
      a.shiftEnd.isLeap = false → now.time.isLeap = false →
      ((Agent.additional a).working now = true ↔
        a.shiftStart.ahead now.time < a.shiftStart.ahead a.shiftEnd)) ∧
    (∀ start stop t : TimeOfDay, start ≠ stop →
      TimeOfDay.within stop start t = !TimeOfDay.within start stop t) ∧
    ∀ c : DeskConfig, c.validate = .ok () → c.OrdinaryTimes → c.AgentsWorkDaily ∧
      ∀ s, c.poolSettings = .ok s →
        s.regular = c.regularAgents ∧ s.additional = c.additionalAgents := by
  refine ⟨?_, ?_, ?_, ?_⟩
  · intro id start length level team now hstart hnow
    exact Agent.working_ofShift_iff hstart hnow
  · intro a now hstart hend hnow
    exact Agent.working_additional_iff hstart hend hnow
  · intro start stop t hne
    exact TimeOfDay.within_swap hne t
  · intro c hvalid htimes
    refine ⟨(DeskConfig.validate_eq_ok_iff.mp hvalid).agentsWorkDaily htimes, ?_⟩
    intro s hs
    obtain ⟨-, rfl⟩ := DeskConfig.poolSettings_eq_ok_iff.mp hs
    exact ⟨rfl, rfl⟩

/-- A shift of thirty hours backward from 8 is one of eighteen hours forward, a window from 22 to
17 goes on past midnight, and of two windows between 9 and 17 noon lies in one.  A desk is set up
with a senior who works the night, and with two additional agents, one of whom takes the start of
the window from the working hours and one the end. -/
theorem shifts_exact_nightDesk :
    let backward : Agent := .regular (.ofShift 11 (.onTheHour 8) (.ofHours (-30)) .junior "Day")
    let overnight : Agent := .additional (.ofWindow 101 (.onTheHour 22) (.onTheHour 17))
    let desk : DeskConfig :=
      { DeskConfig.twoAgents ⟨3, 600⟩ with
        workingHours := ⟨.onTheHour 9, .onTheHour 17⟩
        agents := ⟨[⟨10, .senior, .onTheHour 23, 8, "Night"⟩],
          [⟨100, none, some (.onTheHour 12)⟩, ⟨101, some (.onTheHour 22), none⟩]⟩ }
    (backward.working (sampleHour 1) = true ∧ ¬ backward.working (sampleHour 2) = true) ∧
      overnight.working (sampleHour 3) = true ∧
      TimeOfDay.within (.onTheHour 17) (.onTheHour 9) (.onTheHour 12) = false ∧
      desk.validate = .ok () ∧ desk.OrdinaryTimes ∧ desk.AgentsWorkDaily := by
  intro backward overnight desk
  obtain ⟨hregular, hadditional, hswap, hconfig⟩ := shifts_exact
  have hvalid : desk.validate = .ok () := by decide +kernel
  have htimes : desk.OrdinaryTimes := ⟨by decide +kernel, by decide +kernel⟩
  refine ⟨⟨?_, ?_⟩, ?_, ?_, hvalid, htimes, (hconfig _ hvalid htimes).1⟩
  · rw [hregular _ _ _ _ _ _ (by decide) (by decide)]
    decide +kernel
  · rw [hregular _ _ _ _ _ _ (by decide) (by decide)]
    decide +kernel
  · rw [hadditional _ _ (by decide) (by decide) (by decide)]
    decide +kernel
  · rw [hswap _ _ _ (by decide)]
    decide +kernel

end SupportDesk
