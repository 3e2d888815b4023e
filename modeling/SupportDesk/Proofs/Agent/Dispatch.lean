/-
# Who can be given a session

The desk asks two questions that are computed apart: whether any available agent has a free
slot, by a sum, and which queue comes next, by a search.  Both answer yes exactly when some
queue can take a session, and the search names such a queue by its position.
-/

import Mathlib
import SupportDesk.Agent.Allocation

namespace SupportDesk

namespace Allocation

theorem capacity_eq_sum (a : Allocation) (now : Moment) : a.capacity now =
    (((a.queues.map (·.agent)).filter fun agent => agent.isRegular && agent.working now).map
      fun agent => a.concurrency.toNat * agent.level.percent).sum / 100 := by
  rw [capacity, List.sum_eq_foldr, List.foldr_map]

theorem openSpots_eq_sum (a : Allocation) (now : Moment) : a.openSpots now =
    ((a.queues.filter fun q => q.agent.available now).map (·.openSpots)).sum := by
  rw [openSpots, List.sum_eq_foldr, List.foldr_map]

/-- No queue is chosen exactly when none can take a session. -/
theorem choose?_eq_none_iff {now : Moment} {qs : List AgentQueue} :
    choose? now qs = none ↔ ∀ q ∈ qs, q.canTake now = false := by
  induction qs with
  | nil => simp [choose?]
  | cons q rest ih =>
      rw [choose?]
      by_cases hq : q.canTake now = true
      · cases hrest : choose? now rest with
        | none => simp [hq]
        | some later => by_cases hbefore : later.2.before q = true <;> simp [hq, hbefore]
      · rw [if_neg hq, Option.map_eq_none_iff, ih]
        simp [Bool.not_eq_true _ ▸ hq]

/-- The chosen queue stands at the named position and can take a session. -/
theorem getElem?_of_choose? {now : Moment} {qs : List AgentQueue} {i : Nat} {best : AgentQueue}
    (h : choose? now qs = some (i, best)) : qs[i]? = some best ∧ best.canTake now = true := by
  induction qs generalizing i best with
  | nil => cases h
  | cons q rest ih =>
      -- A queue of the rest keeps its properties one position further on.
      have later {j : Nat} {b : AgentQueue} (hj : choose? now rest = some (j, b)) :
          (q :: rest)[j + 1]? = some b ∧ b.canTake now = true := ih hj
      rw [choose?] at h
      split at h
      next hq =>
        cases hrest : choose? now rest with
        | none =>
            rw [hrest] at h
            cases h
            exact ⟨rfl, hq⟩
        | some found =>
            obtain ⟨j, b⟩ := found
            simp only [hrest, Option.map_some] at h
            split at h
            · cases h
              exact later hrest
            · cases h
              exact ⟨rfl, hq⟩
      next =>
        obtain ⟨⟨j, b⟩, hrest, heq⟩ := Option.map_eq_some_iff.mp h
        cases heq
        exact later hrest

/-- Where some queue can take a session, one is chosen. -/
theorem exists_choose? {now : Moment} {qs : List AgentQueue}
    (h : ∃ q ∈ qs, q.canTake now = true) : ∃ i best, choose? now qs = some (i, best) := by
  obtain ⟨q, hq, htake⟩ := h
  cases hchoose : choose? now qs with
  | none => exact absurd htake (by simp [choose?_eq_none_iff.mp hchoose q hq])
  | some found => exact ⟨found.1, found.2, rfl⟩

/-- Slots are free exactly when some queue can take a session. -/
theorem hasOpenSpots_iff {a : Allocation} {now : Moment} :
    a.hasOpenSpots now = true ↔ ∃ q ∈ a.queues, q.canTake now = true := by
  rw [hasOpenSpots, decide_eq_true_iff, openSpots_eq_sum, List.sum_pos_iff_exists_pos_nat]
  simp only [List.mem_map, exists_exists_and_eq_and]
  simp only [List.mem_filter, AgentQueue.canTake, AgentQueue.openSpots, AgentQueue.hasOpenSpots,
    Bool.and_eq_true, decide_eq_true_eq, Nat.sub_pos_iff_lt, and_assoc]

end Allocation

end SupportDesk
