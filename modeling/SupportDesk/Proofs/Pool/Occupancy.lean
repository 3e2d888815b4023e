/-
# How full the agents are

Every event of a pool takes its allocation through steps, each of which gives a session to an
agent with a free slot, takes one away, or opens or closes agents.  The slots of each agent
bound its sessions at all times, so that the sessions held by the regular agents on shift are
bounded at every instant by their slots and by the capacity, whatever happened before and
however the shifts have changed since the sessions were given out.

Nothing is assumed about the identifiers that are drawn or about the clock.
-/

import SupportDesk.Proofs.Agent.Slots
import SupportDesk.Proofs.Pool.Terms

namespace SupportDesk.Pool

open Allocation (Evolves)

/-! ## Moves are steps of the allocation -/

variable {p q : Pool} {now : Moment}

theorem evolves_assign {s : Session} (hq : p.assign? s now = some q) :
    Evolves p.allocation q.allocation := by
  unfold assign? at hq
  split at hq
  · cases hq
  · obtain ⟨a, ha, rfl⟩ := Option.map_eq_some_iff.mp hq
    exact .of_step (.allocate ha)

theorem evolves_release (p : Pool) (id : SessionId) :
    Evolves p.allocation (p.release id).allocation := by
  unfold release
  dsimp only
  split
  next a ha => exact .of_step (.release ha)
  next => exact .refl _

theorem evolves_move (h : Move now p q) : Evolves p.allocation q.allocation := by
  cases h with
  | openNext ha => exact .of_step (.openNext ha)
  | closeAll => exact .of_step (.closeAll p.allocation)
  | assign hq => exact evolves_assign hq
  | release id => exact evolves_release p id
  | pop | putBack | dismiss | touchWaiting | touchServed => exact .refl p.allocation

theorem Moves.evolves (h : Moves now p q) : Evolves p.allocation q.allocation :=
  h.preserves (P := fun r => Evolves p.allocation r.allocation)
    (fun _ _ hmove hp => hp.trans (evolves_move hmove)) (.refl p.allocation)

namespace Situation

theorem evolves_step (s : Situation) (e : Event) :
    Evolves s.pool.allocation (s.step e).pool.allocation := by
  have hevolves := (s.moves_step e).evolves
  rwa [allocation_prepared] at hevolves

theorem evolves_run (s : Situation) (events : List Event) :
    Evolves s.pool.allocation (s.run events).pool.allocation := by
  induction events generalizing s with
  | nil => exact .refl _
  | cons e events ih => exact (evolves_step s e).trans (ih (s.step e))

end Situation

/-- Slots never exceed the capacity.  After any run and at any instant the regular agents who are
then on shift hold no more sessions than their slots, and these slots are no more than the
capacity, which exceeds them by at most one for each of these agents but one.  So while no
additional agent is open, a free slot means that they hold fewer sessions than the capacity.
With fewer than two to the power of 24 agents the sums over them do not leave 64 bits. -/
theorem slots_within_capacity (settings : PoolSettings) (now : Moment) (events : List Event)
    (instant : Moment) :
    let a := ((Situation.start settings now).run events).pool.allocation
    let onShift := a.onShift instant
    (onShift.map (·.size)).sum ≤ (onShift.map (·.maxSlots)).sum ∧
      (onShift.map (·.maxSlots)).sum ≤ a.capacity instant ∧
      a.capacity instant ≤ (onShift.map (·.maxSlots)).sum + (onShift.length - 1) ∧
      ((∀ q ∈ a.queues, q.agent.openToChat? ≠ some true) → a.hasOpenSpots instant = true →
        (onShift.map (·.size)).sum < a.capacity instant) ∧
      ((Allocation.roster settings).length < 2 ^ 24 →
        (onShift.map fun q => a.share q.agent).sum < 2 ^ 64 ∧ a.openSpots instant < 2 ^ 64) := by
  intro a onShift
  have hevolves : Evolves (.ofSettings settings) a :=
    Situation.evolves_run (.start settings now) events
  have hslots := Allocation.withinSlots_of_evolves hevolves
  refine ⟨hslots.sum_size_le instant, hslots.sum_maxSlots_le_capacity instant,
    hslots.capacity_le instant, hslots.sum_size_lt_capacity, ?_⟩
  intro hroster
  have hsame := Situation.sameRoster_run (.start settings now) events
  have hlength : a.queues.length = (Allocation.roster settings).length := by
    have hagents := congrArg List.length hsame.agents
    rw [List.length_map, List.length_map] at hagents
    exact hagents.trans (List.length_map _)
  exact hslots.sums_lt (hlength ▸ hroster) instant

/-- At a small desk with a second agent the second shift begins while the agent of the first holds
sessions.  Slots are free then. -/
theorem slots_within_capacity_smallDesk :
    let desk : PoolSettings := { smallDesk with
      concurrency := 5
      regular := [.ofShift 10 (.onTheHour 7) (.ofHours 8) .junior "Team 1",
        .ofShift 11 (.onTheHour 12) (.ofHours 8) .middle "Team 2"] }
    let instant := sampleHour 13
    let events : List Event := [.create (.ofNat 0), .create (.ofNat 1), .setClock instant,
      .shiftChanged, .create (.ofNat 2)]
    let a := ((Situation.start desk (sampleHour 10)).run events).pool.allocation
    (∀ q ∈ a.queues, q.agent.openToChat? ≠ some true) ∧ a.hasOpenSpots instant = true ∧
      ((a.onShift instant).map (·.size)).sum < a.capacity instant ∧
      (Allocation.roster desk).length < 2 ^ 24 ∧
      a.openSpots instant < 2 ^ 64 := by
  intro desk instant events a
  have hclosed : ∀ q ∈ a.queues, q.agent.openToChat? ≠ some true := by decide +kernel
  have hopen : a.hasOpenSpots instant = true := by decide +kernel
  have hroster : (Allocation.roster desk).length < 2 ^ 24 := by decide +kernel
  obtain ⟨-, -, -, hfew, hfits⟩ := slots_within_capacity desk (sampleHour 10) events instant
  exact ⟨hclosed, hopen, hfew hclosed hopen, hroster, (hfits hroster).2⟩

end SupportDesk.Pool
