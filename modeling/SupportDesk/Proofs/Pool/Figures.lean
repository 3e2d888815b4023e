/-
# The figures of a report

A report is made of numbers that programs keep in 64 bits.  With fewer than two to the power of 24
agents none of them comes near this bound, whatever happens to a pool: the capacity is a share of
the slots that the agents are promised, the backlog stays within the largest limit that has been
in force, which is one and a half times a capacity, and what the agents hold together is bounded
by their slots.
-/

import SupportDesk.Proofs.Pool.Admission
import SupportDesk.Proofs.Pool.Occupancy

namespace SupportDesk

open Allocation (Evolves roster)

/-- The figures of an agent's line fit 64 bits. -/
structure AgentSnapshot.FitsWords (a : AgentSnapshot) : Prop where
  queueSize : a.queueSize < 2 ^ 64
  maxSlots : a.maxSlots < 2 ^ 64

/-- The figures of a status report fit 64 bits. -/
structure Pool.Status.FitsWords (s : Pool.Status) : Prop where
  capacity : s.capacity < 2 ^ 64
  maximumQueueSize : s.maximumQueueSize < 2 ^ 64
  queueSize : s.queueSize < 2 ^ 64
  activeSessions : s.activeSessions < 2 ^ 64
  agents : ∀ a ∈ s.agents, a.FitsWords

variable {settings : PoolSettings} {a : Allocation}

/-- A capacity is far below the bound. -/
theorem Allocation.Evolves.capacity_lt (h : Evolves (.ofSettings settings) a)
    (hroster : (roster settings).length < 2 ^ 24) (now : Moment) : a.capacity now < 2 ^ 58 := by
  have hshares := ((withinSlots_of_evolves h).sums_lt (h.length_queues ▸ hroster) now).1
  rw [capacity_eq]
  omega

/-- So are the slots of an agent. -/
theorem Allocation.WithinSlots.maxSlots_lt (h : a.WithinSlots) {q : AgentQueue}
    (hq : q ∈ a.queues) : q.maxSlots < 2 ^ 32 := by
  have hconcurrency := a.concurrency.toNat_lt
  have hshare : a.concurrency.toNat * q.agent.level.percent ≤ a.concurrency.toNat * 80 :=
    Nat.mul_le_mul_left _ q.agent.level.percent_le
  rw [h.slots q hq, AgentQueue.slotCount]
  omega

namespace Pool

/-- The lines of every report stand in the order of the roster, and what is fixed about an agent is
in its line. -/
theorem agents_status (settings : PoolSettings) (start : Moment) (events : List Event)
    (now : Moment) :
    (((Situation.start settings start).run events).pool.status now).agents.map
        (fun a => (a.id, a.kind, a.level, a.workingHours)) =
      (roster settings).map fun agent => (agent.id, agent.kind, agent.level, agent.workingHours) := by
  have hclosed (agent : Agent) (isOpen : Bool) :
      ((agent.setOpen isOpen).id, (agent.setOpen isOpen).kind, (agent.setOpen isOpen).level,
        (agent.setOpen isOpen).workingHours) =
      (agent.id, agent.kind, agent.level, agent.workingHours) := by cases agent <;> rfl
  have hroster := congrArg
    (List.map fun agent => (agent.id, agent.kind, agent.level, agent.workingHours))
    (Situation.sameRoster_run (.start settings start) events).agents
  simp only [List.map_map, Function.comp_def, hclosed] at hroster
  rw [status, Allocation.snapshot, List.map_map]
  refine hroster.trans ?_
  rw [Situation.start, ofSettings, Allocation.ofSettings, List.map_map]
  rfl

/-- Every limit is one and a half times a capacity. -/
theorem Situation.limit_lt (hroster : (roster settings).length < 2 ^ 24) (start : Moment)
    (events : List Event) :
    ((Situation.start settings start).run events).pool.backlog.limit < 2 ^ 64 := by
  have hcapacity (earlier : List Event) (now : Moment) :=
    (evolves_run (.start settings start) earlier).capacity_lt hroster now
  induction events using List.reverseRecOn with
  | nil =>
      have hlimit : ((Situation.start settings start).run []).pool.backlog.limit =
          (Allocation.ofSettings settings).capacity start * 3 / 2 := rfl
      have hfirst : (Allocation.ofSettings settings).capacity start < 2 ^ 58 := hcapacity [] start
      rw [hlimit]
      omega
  | append_singleton events e ih =>
      rw [run_append]
      change (((Situation.start settings start).run events).step e).pool.backlog.limit < _
      rw [limit_step]
      split
      next =>
        have hlast := hcapacity events ((Situation.start settings start).run events).now
        rw [Pool.capacity]
        omega
      next => exact ih

/-- The figures of every report fit, whatever has happened and at whatever moment it is made. -/
theorem fitsWords_status (hroster : (roster settings).length < 2 ^ 24) (start : Moment)
    {events : List Event} (hfresh : Situation.Admits Situation.Fresh (.start settings start) events)
    (now : Moment) :
    let p := ((Situation.start settings start).run events).pool
    (p.status now).FitsWords := by
  intro p
  have hevolves : Evolves (.ofSettings settings) p.allocation :=
    Situation.evolves_run (.start settings start) events
  have hslots := Allocation.withinSlots_of_evolves hevolves
  have hcapacity := hevolves.capacity_lt hroster now
  have hagent : ∀ a ∈ (p.status now).agents, a.queueSize ≤ 2 ^ 32 ∧ a.maxSlots < 2 ^ 32 := by
    intro a ha
    obtain ⟨q, hq, rfl⟩ := List.mem_map.mp ha
    have hlt := hslots.maxSlots_lt hq
    exact ⟨(hslots.size_le q hq).trans hlt.le, hlt⟩
  constructor
  · exact hcapacity.trans (by decide)
  · change p.allocation.capacity now * 3 / 2 < 2 ^ 64
    omega
  · obtain ⟨limit, ⟨earlier, -, hforce⟩, hwithin⟩ :=
      (Situation.start settings start).exists_limitInForce events (Nat.zero_le _)
    exact hwithin.trans_lt (hforce ▸ Situation.limit_lt hroster start earlier)
  · have hlength : (p.status now).agents.length = (roster settings).length :=
      (List.length_map _).trans hevolves.length_queues
    have hsum : ((p.status now).agents.map (·.queueSize)).sum ≤
        (p.status now).agents.length * 2 ^ 32 := sum_map_le_length_mul fun a ha => (hagent a ha).1
    have hactive : (p.status now).activeSessions = ((p.status now).agents.map (·.queueSize)).sum :=
      (hfresh.consistent_run (consistent_ofSettings settings start)).activeSessions_status now
    omega
  · intro a ha
    obtain ⟨hsize, hlt⟩ := hagent a ha
    exact ⟨hsize.trans_lt (by decide), hlt.trans (by decide)⟩

end Pool

end SupportDesk
