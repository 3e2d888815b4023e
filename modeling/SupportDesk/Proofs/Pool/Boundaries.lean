/-
# Between two boundaries

Who is on shift depends on the roster and the time of day, and changes at boundaries only.
From one moment to another with no boundary after the first and up to the second the staff is
the same, over any number of midnights, and with the staff the capacity.  Sessions that come
and go and agents who are opened or closed in the meantime make no difference.

There is no case for a shift that wraps around midnight, that ends there or that is empty: a
time of day that does not come between two moments lies on the same side of both, or has gone
from behind to ahead with the date, and a window whose ends do so is open at both moments or at
neither.
-/

import SupportDesk.Proofs.Pool.Limit

namespace SupportDesk

namespace Allocation

/-- Opening and closing is for additional agents only. -/
theorem filter_isRegular_map_setOpen (agents : List Agent) :
    (agents.map (Agent.setOpen false)).filter (·.isRegular) = agents.filter (·.isRegular) := by
  induction agents with
  | nil => rfl
  | cons agent agents ih =>
      cases agent with
      | regular a => simpa [Agent.setOpen, Agent.isRegular] using ih
      | additional a => simpa [Agent.setOpen, Agent.isRegular] using ih

namespace SameRoster

variable {a b : Allocation}

/-- The regular agents depend on the roster alone. -/
theorem regularAgents (h : SameRoster a b) :
    (b.queues.map (·.agent)).filter (·.isRegular) =
      (a.queues.map (·.agent)).filter (·.isRegular) := by
  have hclosed (c : Allocation) : (c.queues.map (·.agent)).filter (·.isRegular) =
      (c.queues.map (·.agent.setOpen false)).filter (·.isRegular) := by
    rw [← filter_isRegular_map_setOpen, List.map_map]
    rfl
  rw [hclosed b, hclosed a, h.agents]

/-- So do the boundaries of their shifts. -/
theorem shiftBoundaries (h : SameRoster a b) : b.shiftBoundaries = a.shiftBoundaries := by
  rw [Allocation.shiftBoundaries, h.regularAgents, Allocation.shiftBoundaries]

/-- And so does the staff of a moment. -/
theorem staff (h : SameRoster a b) (now : Moment) : b.staff now = a.staff now := by
  have hregular (c : Allocation) : c.staff now =
      ((c.queues.map (·.agent)).filter (·.isRegular)).filter (·.working now) := by
    rw [List.filter_filter]
    simp only [Allocation.staff, Bool.and_comm]
  rw [hregular b, hregular a, h.regularAgents]

end SameRoster

/-- The staff and the capacity are constant between boundaries.  Two allocations of one roster
may differ in their sessions and in who is open.  If no moment after the first and up to the
last has a time of day among the boundaries, then the staff of the first moment is that of the
last, and so is the capacity.  The boundaries are strictly increasing, and they are the times
at which the shift of a regular agent starts or ends. -/
theorem capacity_constant_between_boundaries {settings : PoolSettings} {a b : Allocation}
    (hroster : SameRoster (.ofSettings settings) a) (hsame : SameRoster a b) :
    (∀ first last : Moment, first ≤ last →
      (∀ m, first < m → m ≤ last → m.time ∉ a.shiftBoundaries) →
        b.staff last = a.staff first ∧ b.capacity last = a.capacity first) ∧
      a.shiftBoundaries.Pairwise (· < ·) ∧
      ∀ t, t ∈ a.shiftBoundaries ↔ ∃ r ∈ settings.regular, t = r.shiftStart ∨ t = r.shiftEnd := by
  refine ⟨?_, TimeOfDay.pairwise_sortedDistinct _, ?_⟩
  · intro first last hle hquiet
    have hnone : Moment.NoneBetween a.shiftBoundaries first last :=
      fun m hm hafter => not_le.mp fun hupto => hquiet m hafter hupto hm
    constructor
    · rw [hsame.staff, a.staff_eq_of_noneBetween hle hnone]
    · rw [hsame.capacity, a.capacity_eq_of_noneBetween hle hnone]
  · intro t
    rw [hroster.shiftBoundaries]
    exact mem_shiftBoundaries_ofSettings

open Pool (smallDesk sampleHour Situation) in
/-- At night a junior and a senior work from 23 to 7, and by day a middle from 7 to 15, beside
an agent whose shift is empty.  The night begins, sessions come in until an additional agent is
opened, and inside a leap second before 7 in the morning the capacity is still three. -/
theorem capacity_constant_between_boundaries_overnight :
    let desk : PoolSettings :=
      { smallDesk with
        regular := [.ofShift 10 (.onTheHour 23) (.ofHours 8) .junior "Night",
          .ofShift 11 (.onTheHour 23) (.ofHours 8) .senior "Night",
          .ofShift 12 (.onTheHour 7) (.ofHours 8) .middle "Day",
          .ofShift 13 (.onTheHour 12) (.ofHours 0) .teamLead "Day"]
        additional := [.ofWindow 100 (.onTheHour 22) (.onTheHour 2)] }
    let evening : Moment := sampleHour 23
    let morning : Moment := ⟨⟨Date.sample.number + 1, by decide, by decide⟩,
      ⟨25199, 1999999999, by decide, by decide, by decide⟩⟩
    let opened := Situation.start desk evening
    let busy := opened.run ((List.range 8).map fun n => .create (.ofNat n))
    let a := opened.pool.allocation
    let b := busy.pool.allocation
    (SameRoster (.ofSettings desk) a ∧ SameRoster a b ∧ evening ≤ morning ∧
      ∀ m, evening < m → m ≤ morning → m.time ∉ a.shiftBoundaries) ∧
      (b.staff morning = a.staff evening ∧ b.capacity morning = a.capacity evening) ∧
      a.shiftBoundaries.Pairwise (· < ·) ∧
      (∀ t, t ∈ a.shiftBoundaries ↔ ∃ r ∈ desk.regular, t = r.shiftStart ∨ t = r.shiftEnd) ∧
      a.capacity evening = 3 ∧ a.activeCount = 0 ∧ b.activeCount = 4 := by
  intro desk evening morning opened busy a b
  have hroster : SameRoster (.ofSettings desk) a := .refl _
  have hsame : SameRoster a b := Pool.Situation.sameRoster_run _ _
  obtain ⟨hconstant, hincreasing, hboundary⟩ :=
    capacity_constant_between_boundaries hroster hsame
  have hle : evening ≤ morning := by decide
  have hquiet : ∀ m, evening < m → m ≤ morning → m.time ∉ a.shiftBoundaries := by
    intro m hafter hupto hmem
    -- On the evening's date only times after 23 are left, on the next only times before 7.
    have hside : TimeOfDay.onTheHour 23 < m.time ∨ m.time < .onTheHour 7 := by
      rcases Moment.lt_iff.mp hafter with hdate | ⟨-, htime⟩
      · rcases Moment.le_iff.mp hupto with hdate' | ⟨-, htime⟩
        · change Date.sample.number < _ at hdate
          change _ < Date.sample.number + 1 at hdate'
          omega
        · exact .inr (lt_of_le_of_lt htime (by decide))
      · exact .inl htime
    obtain ⟨r, hr, ht⟩ := (hboundary m.time).mp hmem
    have hlisted : ∀ r ∈ desk.regular, ∀ t, t = r.shiftStart ∨ t = r.shiftEnd →
        ¬ (TimeOfDay.onTheHour 23 < t ∨ t < .onTheHour 7) := by
      intro r hr t ht
      rcases ht with rfl | rfl <;> revert r <;> decide
    exact hlisted r hr m.time ht hside
  exact ⟨⟨hroster, hsame, hle, hquiet⟩, hconstant _ _ hle hquiet, hincreasing, hboundary,
    by decide +kernel, rfl, by decide +kernel⟩

end Allocation

end SupportDesk
