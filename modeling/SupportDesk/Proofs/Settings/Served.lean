/-
# Whether admitted work can be served

A desk admits sessions by its capacity, which adds the shares of the regular agents on shift and
rounds once, and serves them by slots, for which each agent's share is rounded alone.  Shares of
less than a whole session can therefore make up a capacity of several sessions without a single
slot.  With the levels as they are, this happens to a configuration that the rules accept only if
its concurrency is one, or if it is two and none but juniors are on shift.

Additional agents are no part of this: they are juniors, so that they have a slot exactly if the
concurrency is three or more.
-/

import SupportDesk.Proofs.Pool.Occupancy
import SupportDesk.Proofs.Settings.Timeout

namespace SupportDesk

/-- An agent's share of the concurrency makes a slot from a concurrency of three on, and for all
but juniors from one of two on. -/
theorem AgentQueue.slotCount_pos_iff {concurrency : UInt32} {level : Level} :
    0 < slotCount concurrency level ↔
      3 ≤ concurrency.toNat ∨ concurrency.toNat = 2 ∧ level ≠ .junior := by
  unfold slotCount
  -- The shares in percent are 40 for a junior and from 50 to 80 for the others.
  cases level <;> simp [Level.percent] <;> omega

namespace Allocation

variable {a : Allocation} {now : Moment}

/-- A capacity is somebody's share. -/
theorem exists_onShift_of_capacity_pos (h : 0 < a.capacity now) : ∃ q, q ∈ a.onShift now := by
  apply List.exists_mem_of_ne_nil
  intro hnone
  rw [capacity_eq, hnone, List.map_nil, List.sum_nil] at h
  exact absurd h (Nat.lt_irrefl 0)

/-- Where there is a capacity and a positive concurrency, no regular agent on shift has a slot in
two cases only. -/
theorem WithinSlots.exists_slot_iff (hslots : a.WithinSlots) (hpositive : a.concurrency ≠ 0)
    (hcapacity : 0 < a.capacity now) :
    (∃ q ∈ a.onShift now, 0 < q.maxSlots) ↔
      ¬ (a.concurrency.toNat = 1 ∨
        a.concurrency.toNat = 2 ∧ ∀ q ∈ a.onShift now, q.agent.level = .junior) := by
  have hnonzero : a.concurrency.toNat ≠ 0 := fun hzero => hpositive (UInt32.toNat_inj.mp hzero)
  have hslot : ∀ q ∈ a.onShift now, (0 < q.maxSlots ↔
      3 ≤ a.concurrency.toNat ∨ a.concurrency.toNat = 2 ∧ q.agent.level ≠ .junior) := by
    intro q hq
    rw [hslots.slots q (List.mem_of_mem_filter hq)]
    exact AgentQueue.slotCount_pos_iff
  constructor
  · rintro ⟨q, hq, hqslot⟩ (hone | ⟨htwo, hjuniors⟩)
    · have hcases := (hslot q hq).mp hqslot
      omega
    · rcases (hslot q hq).mp hqslot with hthree | ⟨-, hlevel⟩
      · omega
      · exact hlevel (hjuniors q hq)
  · intro hnot
    rw [not_or, not_and] at hnot
    obtain ⟨hone, hjuniors⟩ := hnot
    by_cases htwo : a.concurrency.toNat = 2
    · have hother := hjuniors htwo
      push Not at hother
      obtain ⟨q, hq, hlevel⟩ := hother
      exact ⟨q, hq, (hslot q hq).mpr (.inr ⟨htwo, hlevel⟩)⟩
    · obtain ⟨q, hq⟩ := exists_onShift_of_capacity_pos hcapacity
      exact ⟨q, hq, (hslot q hq).mpr (.inl (by omega))⟩

end Allocation

namespace DeskConfig

open Pool (Situation sampleHour)

/-- Whenever a desk of an accepted configuration lets sessions wait, after whatever happened to
it, a regular agent on shift has a slot, with two exceptions: the concurrency is one, or it is two
and only juniors are on shift.  In these cases none of them has. -/
theorem served_iff {c : DeskConfig} {s : PoolSettings} (hvalid : c.validate = .ok ())
    (hs : c.poolSettings = .ok s) (start : Moment) (events : List Pool.Event) (now : Moment) :
    let p := ((Situation.start s start).run events).pool
    0 < p.maximumQueueSize now →
      ((∃ q ∈ p.allocation.onShift now, 0 < q.maxSlots) ↔
        ¬ (c.pool.concurrency.toNat = 1 ∨
          c.pool.concurrency.toNat = 2 ∧
            ∀ q ∈ p.allocation.onShift now, q.agent.level = .junior)) := by
  intro p hmaximum
  have hevolves : (Allocation.ofSettings s).Evolves p.allocation :=
    Situation.evolves_run (.start s start) events
  have hconcurrency : p.allocation.concurrency = c.pool.concurrency := by
    obtain ⟨-, rfl⟩ := poolSettings_eq_ok_iff.mp hs
    exact hevolves.concurrency
  have hcapacity : 0 < p.allocation.capacity now := by
    simp only [Pool.maximumQueueSize, Pool.capacity] at hmaximum
    omega
  rw [← hconcurrency]
  apply (Allocation.withinSlots_of_evolves hevolves).exists_slot_iff _ hcapacity
  rw [hconcurrency]
  exact (positive_of_validate hvalid).1

/-- With a concurrency of two, the desk with a middle and a junior lets a session wait, and a slot
is there for it. -/
theorem served_iff_two :
    let c := twoAgents ⟨2, 3⟩
    let hour := sampleHour 10
    c.validate = .ok () ∧ ∃ s, c.poolSettings = .ok s ∧
      let p := ((Situation.start s hour).run [.create (.ofNat 0)]).pool
      0 < p.maximumQueueSize hour ∧ ∃ q ∈ p.allocation.onShift hour, 0 < q.maxSlots := by
  intro c hour
  have hvalid : c.validate = .ok () := rfl
  obtain ⟨s, hs, -⟩ := exists_poolSettings (c := c) (by decide)
  obtain ⟨-, rfl⟩ := poolSettings_eq_ok_iff.mp hs
  refine ⟨hvalid, _, hs, ?_⟩
  intro p
  have hmaximum : 0 < p.maximumQueueSize hour := by decide +kernel
  have hmiddle : ¬ ∀ q ∈ p.allocation.onShift hour, q.agent.level = .junior := by decide +kernel
  refine ⟨hmaximum, (served_iff hvalid hs hour [.create (.ofNat 0)] hour hmaximum).mpr ?_⟩
  rintro (hone | ⟨-, hjuniors⟩)
  · exact absurd hone (by decide)
  · exact hmiddle hjuniors

/-- With a concurrency of one, the two agents make up a capacity of one session, and neither has a
slot for it. -/
theorem not_served_of_validate :
    ¬ ∀ (c : DeskConfig) (s : PoolSettings) (start : Moment) (events : List Pool.Event)
      (now : Moment), c.validate = .ok () → c.poolSettings = .ok s →
        let p := ((Situation.start s start).run events).pool
        0 < p.maximumQueueSize now → ∃ q ∈ p.allocation.onShift now, 0 < q.maxSlots := by
  intro h
  obtain ⟨s, hs, -⟩ := exists_poolSettings (c := twoAgents ⟨1, 3⟩) (by decide)
  have hslot := h (twoAgents ⟨1, 3⟩) s (sampleHour 10) [] (sampleHour 10) rfl hs
  obtain ⟨-, rfl⟩ := poolSettings_eq_ok_iff.mp hs
  revert hslot
  decide +kernel

end DeskConfig

end SupportDesk
