/-
# Slots and capacity

The capacity adds the shares of the regular agents on shift and rounds once.  Each queue rounds
the share of its own agent.  The slots of these agents together therefore never exceed the
capacity, and fall short of it by less than one for each agent.

No queue ever holds more sessions than its slots, whenever its agent was on shift or off.
-/

import SupportDesk.Proofs.Agent.Evolution

namespace SupportDesk

section

variable {α : Type} {f : α → Nat} {xs : List α}

theorem sum_map_le_length_mul {bound : Nat} (h : ∀ x ∈ xs, f x ≤ bound) :
    (xs.map f).sum ≤ xs.length * bound := by
  rw [← List.length_map f]
  exact List.sum_le_card_nsmul _ _ (by simpa using h)

/-- Rounding every share down gives no more than rounding their sum. -/
theorem sum_div_le_div_sum (f : α → Nat) (d : Nat) (xs : List α) :
    (xs.map fun x => f x / d).sum ≤ (xs.map f).sum / d := by
  induction xs with
  | nil => exact Nat.zero_le _
  | cons x xs ih =>
      rw [List.map_cons, List.map_cons, List.sum_cons, List.sum_cons]
      calc f x / d + (xs.map fun x => f x / d).sum
          ≤ f x / d + (xs.map f).sum / d := Nat.add_le_add_left ih _
        _ ≤ (f x + (xs.map f).sum) / d := Nat.div_add_div_le_add_div

/-- It gives less by at most one for each share but one. -/
theorem div_sum_le (f : α → Nat) {d : Nat} (hd : 0 < d) (xs : List α) :
    (xs.map f).sum / d ≤ (xs.map fun x => f x / d).sum + (xs.length - 1) := by
  induction xs with
  | nil => simp
  | cons x xs ih =>
      cases xs with
      | nil => simp
      | cons y ys =>
          -- The remainders of two shares make up at most one more.
          have hcarry : (f x + ((y :: ys).map f).sum) / d ≤
              f x / d + ((y :: ys).map f).sum / d + 1 := by
            rw [Nat.add_div hd]
            split <;> omega
          simp only [List.map_cons, List.sum_cons, List.length_cons, Nat.add_sub_cancel]
            at hcarry ih ⊢
          omega

end

theorem Level.percent_le (l : Level) : l.percent ≤ 80 := by
  cases l <;> decide

namespace Allocation

/-- The queues of the regular agents on shift. -/
def onShift (a : Allocation) (now : Moment) : List AgentQueue :=
  a.queues.filter fun q => q.agent.isRegular && q.agent.working now

/-- The share of an agent in hundredths of a session. -/
def share (a : Allocation) (agent : Agent) : Nat := a.concurrency.toNat * agent.level.percent

theorem capacity_eq (a : Allocation) (now : Moment) :
    a.capacity now = ((a.onShift now).map fun q => a.share q.agent).sum / 100 := by
  rw [capacity_eq_sum, onShift, List.filter_map, List.map_map]
  rfl

/-- Every queue has the slots of its agent's level, and holds no more sessions than these. -/
structure WithinSlots (a : Allocation) : Prop where
  slots : ∀ q ∈ a.queues, q.maxSlots = AgentQueue.slotCount a.concurrency q.agent.level
  size_le : ∀ q ∈ a.queues, q.size ≤ q.maxSlots

/-- An allocation that nothing is assigned in may evolve as it will. -/
theorem withinSlots_of_evolves {settings : PoolSettings} {a : Allocation}
    (h : Evolves (.ofSettings settings) a) : a.WithinSlots := by
  have hqueues : ∀ q ∈ a.queues,
      q.Consistent ∧ q.maxSlots = AgentQueue.slotCount settings.concurrency q.agent.level := by
    apply h.forall_queues (P := fun q =>
      q.Consistent ∧ q.maxSlots = AgentQueue.slotCount settings.concurrency q.agent.level)
    · rintro q s ⟨hq, hslots⟩
      exact ⟨hq.add s, by simpa using hslots⟩
    · rintro q id ⟨hq, hslots⟩
      exact ⟨hq.remove id, hslots⟩
    · rintro q isOpen ⟨hq, hslots⟩
      exact ⟨hq.setOpen isOpen, by simpa [setOpen] using hslots⟩
    · intro q hq
      obtain ⟨agent, -, rfl⟩ := List.mem_map.mp hq
      exact ⟨AgentQueue.consistent_ofAgent agent settings.concurrency, rfl⟩
  constructor
  · intro q hq
    rw [h.concurrency]
    exact (hqueues q hq).2
  · intro q hq
    exact (hqueues q hq).1.size_le

namespace WithinSlots

variable {a : Allocation}

theorem sum_size_le (h : a.WithinSlots) (now : Moment) :
    ((a.onShift now).map (·.size)).sum ≤ ((a.onShift now).map (·.maxSlots)).sum :=
  List.sum_le_sum fun q hq => h.size_le q (List.mem_of_mem_filter hq)

theorem sum_maxSlots (h : a.WithinSlots) (now : Moment) :
    ((a.onShift now).map (·.maxSlots)).sum =
      ((a.onShift now).map fun q => a.share q.agent / 100).sum :=
  congrArg List.sum (List.map_congr_left fun q hq => h.slots q (List.mem_of_mem_filter hq))

theorem sum_maxSlots_le_capacity (h : a.WithinSlots) (now : Moment) :
    ((a.onShift now).map (·.maxSlots)).sum ≤ a.capacity now := by
  rw [h.sum_maxSlots, capacity_eq]
  exact sum_div_le_div_sum _ 100 _

theorem capacity_le (h : a.WithinSlots) (now : Moment) :
    a.capacity now ≤
      ((a.onShift now).map (·.maxSlots)).sum + ((a.onShift now).length - 1) := by
  rw [h.sum_maxSlots, capacity_eq]
  exact div_sum_le _ (by decide) _

/-- Where no additional agent is open, a free slot is one of a regular agent on shift. -/
theorem sum_size_lt_capacity (h : a.WithinSlots) {now : Moment}
    (hclosed : ∀ q ∈ a.queues, q.agent.openToChat? ≠ some true)
    (hopen : a.hasOpenSpots now = true) :
    ((a.onShift now).map (·.size)).sum < a.capacity now := by
  obtain ⟨q, hq, htake⟩ := hasOpenSpots_iff.mp hopen
  obtain ⟨havailable, hroom⟩ := Bool.and_eq_true_iff.mp htake
  have hshift : q ∈ a.onShift now := by
    apply List.mem_filter.mpr
    constructor
    · exact hq
    · have hnot := hclosed q hq
      cases hagent : q.agent with
      | regular agent => simpa [Agent.available, Agent.isRegular, hagent] using havailable
      | additional agent =>
          simp only [Agent.available, hagent, Bool.and_eq_true] at havailable
          simp [Agent.openToChat?, hagent, havailable.2] at hnot
  have hlt : ((a.onShift now).map (·.size)).sum < ((a.onShift now).map (·.maxSlots)).sum :=
    List.sum_lt_sum _ _ (fun r hr => h.size_le r (List.mem_of_mem_filter hr))
      ⟨q, hshift, by simpa [AgentQueue.hasOpenSpots] using hroom⟩
  exact hlt.trans_le (h.sum_maxSlots_le_capacity now)

end WithinSlots

/-- The sums behind the capacity and behind the free slots fit into 64 bits for rosters of less
than two to the power of 24 agents. -/
theorem WithinSlots.sums_lt {a : Allocation} (h : a.WithinSlots)
    (hlength : a.queues.length < 2 ^ 24) (now : Moment) :
    ((a.onShift now).map fun q => a.share q.agent).sum < 2 ^ 64 ∧
      a.openSpots now < 2 ^ 64 := by
  have hshare (q : AgentQueue) : a.share q.agent ≤ 2 ^ 32 * 80 :=
    Nat.mul_le_mul a.concurrency.toNat_lt.le q.agent.level.percent_le
  have hbound {f : AgentQueue → Nat} {qs : List AgentQueue} (hqs : qs.length ≤ a.queues.length)
      (hf : ∀ q ∈ qs, f q ≤ 2 ^ 32 * 80) : (qs.map f).sum < 2 ^ 64 := by
    have hmul := Nat.mul_le_mul_right (2 ^ 32 * 80) hqs
    have hsum := sum_map_le_length_mul hf
    omega
  constructor
  · exact hbound (List.length_filter_le _ _) fun q _ => hshare q
  · rw [openSpots_eq_sum]
    apply hbound (List.length_filter_le _ _)
    intro q hq
    calc q.openSpots
        ≤ q.maxSlots := Nat.sub_le _ _
      _ = a.share q.agent / 100 := h.slots q (List.mem_of_mem_filter hq)
      _ ≤ a.share q.agent := Nat.div_le_self _ _
      _ ≤ 2 ^ 32 * 80 := hshare q

end Allocation

end SupportDesk
