/-
# Queues and assignments agree

An allocation keeps what each queue holds and, apart from it, which queue holds each
session.  It is consistent when the two say the same; then no session is with two agents,
and a session that is not assigned is in no queue.  Placing and releasing a session preserve
this, and opening or closing agents does not touch it.
-/

import SupportDesk.Proofs.Agent.Dispatch
import SupportDesk.Proofs.Session.Table

namespace SupportDesk

namespace AgentQueue

/-- A queue whose sessions are distinct and within its slots. -/
structure Consistent (q : AgentQueue) : Prop where
  distinct : q.sessions.Distinct
  size_le : q.size ≤ q.maxSlots

theorem consistent_ofAgent (agent : Agent) (concurrency : UInt32) :
    (ofAgent agent concurrency).Consistent :=
  ⟨SessionTable.distinct_empty, Nat.zero_le _⟩

/-- A new session is taken in where a slot is free. -/
theorem add_eq_of_room {q : AgentQueue} {s : Session} (hnew : q.contains s.id = false)
    (hroom : q.hasOpenSpots = true) : q.add s = { q with sessions := q.sessions.insert s.id s } := by
  simp [add, hnew, hroom]

theorem Consistent.add {q : AgentQueue} (h : q.Consistent) (s : Session) :
    (q.add s).Consistent := by
  unfold AgentQueue.add
  split
  next => exact h
  next hfits =>
    simp only [Bool.or_eq_true, Bool.not_eq_true', not_or, Bool.not_eq_true, Bool.not_eq_false,
      hasOpenSpots, decide_eq_true_eq] at hfits
    refine ⟨h.distinct.insert _ _, ?_⟩
    have hsize := SessionTable.size_insert_of_not_contains hfits.1 s
    simp only [size] at hfits ⊢
    omega

theorem Consistent.remove {q : AgentQueue} (h : q.Consistent) (id : SessionId) :
    (q.remove id).Consistent :=
  ⟨h.distinct.erase id, (SessionTable.size_erase_le q.sessions id).trans h.size_le⟩

/-- Opening or closing an agent leaves its sessions and its slots. -/
theorem Consistent.setOpen {q : AgentQueue} (h : q.Consistent) (isOpen : Bool) :
    (Allocation.setOpen isOpen q).Consistent := ⟨h.distinct, h.size_le⟩

theorem contains_remove (q : AgentQueue) (id k : SessionId) :
    (q.remove id).contains k = (decide (k ≠ id) && q.contains k) :=
  SessionTable.contains_erase q.sessions id k

end AgentQueue

namespace Allocation

/-- The allocation with a session in the queue at a position. -/
def place (a : Allocation) (s : Session) (i : Nat) : Allocation :=
  { a with
    queues := a.queues.modify i (·.add s)
    assignments := a.assignments.insert s.id i }

/-- The allocation without a session in the queue at a position. -/
def vacate (a : Allocation) (id : SessionId) (i : Nat) : Allocation :=
  { a with
    queues := a.queues.modify i (·.remove id)
    assignments := a.assignments.erase id }

/-- The queue at a position holds a session. -/
def Holds (a : Allocation) (i : Nat) (id : SessionId) : Prop :=
  ∃ q, a.queues[i]? = some q ∧ q.contains id = true

/-- The queues and the record of assignments agree. -/
structure Consistent (a : Allocation) : Prop where
  queue : ∀ q ∈ a.queues, q.Consistent
  distinct : a.assignments.Distinct
  assigned_iff : ∀ id i, a.assignments.find? id = some i ↔ a.Holds i id

theorem consistent_ofSettings (settings : PoolSettings) : (ofSettings settings).Consistent where
  queue q hq := by
    obtain ⟨agent, -, rfl⟩ := List.mem_map.mp hq
    exact AgentQueue.consistent_ofAgent agent settings.concurrency
  distinct := SessionTable.distinct_empty
  assigned_iff id i := by
    simp only [ofSettings, SessionTable.find?_empty, reduceCtorEq, Holds, List.getElem?_map,
      Option.map_eq_some_iff, false_iff]
    rintro ⟨q, ⟨agent, -, rfl⟩, hcontains⟩
    cases hcontains

/-- A session that nobody has is placed in the queue that is chosen. -/
theorem allocate?_eq_some_iff {a c : Allocation} {s : Session} {now : Moment} :
    a.allocate? s now = some c ↔ a.assignments.contains s.id = false ∧
      ∃ i best, choose? now a.queues = some (i, best) ∧ c = a.place s i := by
  unfold allocate?
  split
  next hin => simp [hin]
  next hout => simp [hout, place, eq_comm]

/-- A change of one queue is seen at its position only. -/
theorem holds_modify {a : Allocation} {i j : Nat} {f : AgentQueue → AgentQueue} {id : SessionId}
    {t : SessionTable Nat} :
    Holds ⟨a.concurrency, a.queues.modify i f, t⟩ j id ↔
      ∃ q, a.queues[j]? = some q ∧ (if i = j then f q else q).contains id = true := by
  simp only [Holds, List.getElem?_modify]
  constructor
  · rintro ⟨q, hq, hid⟩
    obtain ⟨r, hr, rfl⟩ := Option.map_eq_some_iff.mp hq
    exact ⟨r, hr, hid⟩
  · rintro ⟨q, hq, hid⟩
    exact ⟨_, Option.map_eq_some_iff.mpr ⟨q, hq, rfl⟩, hid⟩

/-- Placing a session where a slot is free adds it there and nowhere else. -/
theorem holds_place {a : Allocation} {s : Session} {i j : Nat} {best : AgentQueue}
    {id : SessionId} (hi : a.queues[i]? = some best) (hnew : best.contains s.id = false)
    (hroom : best.hasOpenSpots = true) :
    (a.place s i).Holds j id ↔ (j = i ∧ id = s.id) ∨ a.Holds j id := by
  rw [place, holds_modify]
  by_cases hj : i = j
  · subst hj
    simp only [hi, Option.some.injEq, exists_eq_left', if_true, true_and, Holds,
      AgentQueue.add_eq_of_room hnew hroom, AgentQueue.contains, SessionTable.contains_insert,
      Bool.or_eq_true, decide_eq_true_eq]
  · simp only [if_neg hj, Ne.symm hj, false_and, false_or, Holds]

/-- Vacating a queue takes the session from there and changes nothing else. -/
theorem holds_vacate {a : Allocation} {id k : SessionId} {i j : Nat} :
    (a.vacate id i).Holds j k ↔ a.Holds j k ∧ ¬ (j = i ∧ k = id) := by
  rw [vacate, holds_modify]
  by_cases hj : i = j
  · subst hj
    simp only [if_true, AgentQueue.contains_remove, Bool.and_eq_true, decide_eq_true_eq, Holds,
      true_and]
    exact ⟨fun ⟨q, hq, hne, hk⟩ => ⟨⟨q, hq, hk⟩, hne⟩, fun ⟨⟨q, hq, hk⟩, hne⟩ => ⟨q, hq, hne, hk⟩⟩
  · simp only [if_neg hj, Ne.symm hj, false_and, not_false_iff, and_true, Holds]

/-- What holds of every queue of an allocation, and is kept by a change, holds of every queue
once one of them has been changed. -/
theorem forall_mem_modify {P : AgentQueue → Prop} {qs : List AgentQueue}
    {f : AgentQueue → AgentQueue} (h : ∀ q ∈ qs, P q) (hf : ∀ q, P q → P (f q)) (i : Nat) :
    ∀ q ∈ qs.modify i f, P q := by
  intro q hq
  obtain ⟨j, hj⟩ := List.mem_iff_getElem?.mp hq
  rw [List.getElem?_modify] at hj
  obtain ⟨r, hr, rfl⟩ := Option.map_eq_some_iff.mp hj
  have hold := h r (List.mem_of_getElem? hr)
  split
  · exact hf r hold
  · exact hold

namespace Consistent

variable {a c : Allocation}

/-- A session is assigned exactly when some queue holds it. -/
theorem contains_iff (h : a.Consistent) (id : SessionId) :
    a.assignments.contains id = true ↔ ∃ i, a.Holds i id := by
  simp only [SessionTable.contains_eq_isSome, Option.isSome_iff_exists, h.assigned_iff]

/-- A session that is not assigned is in no queue. -/
theorem not_contains (h : a.Consistent) {id : SessionId}
    (hnew : a.assignments.contains id = false) {i : Nat} {q : AgentQueue}
    (hq : a.queues[i]? = some q) : q.contains id = false := by
  by_contra hin
  have hheld := (h.contains_iff id).mpr ⟨i, q, hq, by simpa using hin⟩
  rw [hnew] at hheld
  cases hheld

/-- No session is in two queues. -/
theorem queue_unique (h : a.Consistent) {id : SessionId} {i j : Nat}
    (hi : a.Holds i id) (hj : a.Holds j id) : i = j := by
  rw [← h.assigned_iff] at hi hj
  exact Option.some.inj (hi.symm.trans hj)

/-- Placing a new session where a slot is free keeps the agreement. -/
theorem place (h : a.Consistent) {s : Session} {i : Nat} {best : AgentQueue}
    (hnew : a.assignments.contains s.id = false) (hi : a.queues[i]? = some best)
    (hroom : best.hasOpenSpots = true) : (a.place s i).Consistent := by
  refine ⟨forall_mem_modify h.queue (fun q hq => hq.add s) i, h.distinct.insert _ _, ?_⟩
  intro id j
  rw [holds_place hi (h.not_contains hnew hi) hroom, ← h.assigned_iff]
  simp only [Allocation.place, SessionTable.find?_insert]
  by_cases hid : id = s.id
  · subst hid
    rw [if_pos rfl, SessionTable.find?_eq_none_iff.mpr hnew]
    simp [eq_comm]
  · simp [hid]

/-- Releasing a session keeps the agreement. -/
theorem vacate (h : a.Consistent) {id : SessionId} {i : Nat}
    (hi : a.assignments.find? id = some i) : (a.vacate id i).Consistent := by
  refine ⟨forall_mem_modify h.queue (fun q hq => hq.remove id) i, h.distinct.erase id, ?_⟩
  intro k j
  rw [holds_vacate, ← h.assigned_iff]
  simp only [Allocation.vacate, SessionTable.find?_erase]
  by_cases hk : k = id
  · subst hk
    rw [if_pos rfl, hi]
    simp [eq_comm]
  · simp [hk]

/-- Where only agents are opened or closed, the agreement is untouched. -/
theorem openAdditional (h : a.Consistent) {now : Moment}
    (hc : a.openAdditional? now = some c) : c.Consistent := by
  obtain ⟨i, -, rfl⟩ := Option.map_eq_some_iff.mp hc
  refine ⟨forall_mem_modify h.queue (fun q hq => hq.setOpen true) i, h.distinct, ?_⟩
  intro id j
  rw [holds_modify, h.assigned_iff]
  simp only [Holds]
  constructor
  · rintro ⟨q, hq, hid⟩
    exact ⟨q, hq, by split <;> exact hid⟩
  · rintro ⟨q, hq, hid⟩
    exact ⟨q, hq, by split at hid <;> exact hid⟩

theorem closeAdditional (h : a.Consistent) : a.closeAdditional.Consistent := by
  refine ⟨?_, h.distinct, ?_⟩
  · intro q hq
    obtain ⟨r, hr, rfl⟩ := List.mem_map.mp hq
    exact (h.queue r hr).setOpen false
  · intro id i
    rw [Allocation.closeAdditional, h.assigned_iff]
    simp only [Holds, List.getElem?_map]
    constructor
    · rintro ⟨q, hq, hid⟩
      exact ⟨setOpen false q, by rw [hq]; rfl, hid⟩
    · rintro ⟨q, hq, hid⟩
      obtain ⟨r, hr, rfl⟩ := Option.map_eq_some_iff.mp hq
      exact ⟨r, hr, hid⟩

/-- As many sessions are assigned as the queues hold together. -/
theorem sum_size (h : a.Consistent) :
    (a.queues.map AgentQueue.size).sum = a.assignments.size := by
  have hdisjoint : a.queues.Pairwise (Function.onFun List.Disjoint (·.sessions.keys)) := by
    rw [List.pairwise_iff_getElem]
    intro i j hi hj hlt id hiid hjid
    have hqi : a.Holds i id := ⟨_, List.getElem?_eq_getElem hi,
      (SessionTable.contains_iff_mem_keys _ _).mpr hiid⟩
    have hqj : a.Holds j id := ⟨_, List.getElem?_eq_getElem hj,
      (SessionTable.contains_iff_mem_keys _ _).mpr hjid⟩
    exact absurd (h.queue_unique hqi hqj) (Nat.ne_of_lt hlt)
  have hnodup : (a.queues.flatMap (·.sessions.keys)).Nodup :=
    List.nodup_flatMap.mpr ⟨fun q hq => (h.queue q hq).distinct, hdisjoint⟩
  have hperm : (a.queues.flatMap (·.sessions.keys)).Perm a.assignments.keys := by
    rw [List.perm_ext_iff_of_nodup hnodup h.distinct]
    intro id
    rw [← SessionTable.contains_iff_mem_keys, h.contains_iff, List.mem_flatMap]
    constructor
    · rintro ⟨q, hq, hid⟩
      obtain ⟨i, hi⟩ := List.mem_iff_getElem?.mp hq
      exact ⟨i, q, hi, (SessionTable.contains_iff_mem_keys _ _).mpr hid⟩
    · rintro ⟨i, q, hi, hid⟩
      exact ⟨q, List.mem_of_getElem? hi, (SessionTable.contains_iff_mem_keys _ _).mp hid⟩
  calc (a.queues.map AgentQueue.size).sum
      = (a.queues.flatMap (·.sessions.keys)).length := by
        rw [List.length_flatMap]
        exact congrArg List.sum
          (List.map_congr_left fun q _ => SessionTable.size_eq_length_keys q.sessions)
    _ = a.assignments.keys.length := hperm.length_eq
    _ = a.assignments.size := (SessionTable.size_eq_length_keys _).symm

end Consistent

end Allocation

end SupportDesk
