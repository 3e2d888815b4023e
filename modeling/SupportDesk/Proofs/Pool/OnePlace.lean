/-
# Runs keep every session in one place

Every operation of a consistent pool leaves a consistent pool, at any moment: admissions of
new sessions, signs of life, endings, direct allocations, sweeps (also those that an
arithmetic error cuts short), drains and changes of shift.  A run from a new pool therefore
stays consistent, and its status report counts as active what the agents hold.
-/

import SupportDesk.Proofs.Pool.Departure
import SupportDesk.Proofs.Pool.Run

namespace SupportDesk.Pool

/-- The pool with a new session at the end of the backlog. -/
def withNew (p : Pool) (id : SessionId) (now : Moment) : Pool :=
  { p with backlog := { p.backlog with
      order := p.backlog.order ++ [id]
      sessions := p.backlog.sessions.insert id (.start id now) } }

@[simp] theorem queueSize_withNew (p : Pool) (id : SessionId) (now : Moment) :
    (p.withNew id now).queueSize = p.queueSize + 1 := by
  simp [withNew, queueSize, Backlog.size]

/-- What an admission drains: the pool with the new session, and with an agent opened if that
fills the backlog to the maximum. -/
def takeIn (p : Pool) (id : SessionId) (now : Moment) : Pool :=
  if p.maximumQueueSize now ≤ p.queueSize + 1 then (p.withNew id now).openAdditional now
  else p.withNew id now

/-- A session is admitted exactly below the limit; then the backlog is drained. -/
theorem create?_eq_some_iff {p q : Pool} {id : SessionId} {now : Moment} :
    p.create? id now = some q ↔
      p.queueSize < p.backlog.limit ∧ q = ((p.takeIn id now).drain now).1 := by
  have htakeIn : (if (p.withNew id now).maximumQueueSize now ≤ (p.withNew id now).queueSize
      then (p.withNew id now).openAdditional now else p.withNew id now) = p.takeIn id now := by
    rw [queueSize_withNew]
    rfl
  rw [create?, Option.map_eq_some_iff, ← htakeIn]
  constructor
  · rintro ⟨b, hb, rfl⟩
    obtain ⟨hroom, rfl⟩ := Backlog.create?_eq_some_iff.mp hb
    exact ⟨hroom, rfl⟩
  · rintro ⟨hroom, rfl⟩
    exact ⟨_, Backlog.create?_eq_some_iff.mpr ⟨hroom, rfl⟩, rfl⟩

/-- A sign of life reaches a session where it is. -/
theorem prolong?_eq_some_iff {p q : Pool} {id : SessionId} {now : Moment} :
    p.prolong? id now = some q ↔
      (p.backlog.contains id = true ∧ q = { p with
        backlog := { p.backlog with
          sessions := p.backlog.sessions.modify id (·.prolong now) } }) ∨
      (p.backlog.contains id = false ∧ p.allocated.contains id = true ∧
        q = { p with allocated := p.allocated.modify id (·.prolong now) }) := by
  unfold prolong? Backlog.prolong?
  by_cases hwaits : p.backlog.contains id = true
  · simp only [hwaits, if_true, Option.some.injEq, true_and, Bool.true_eq_false, false_and,
      or_false]
    exact eq_comm
  · rw [Bool.not_eq_true] at hwaits
    by_cases hactive : p.allocated.contains id = true
    · simp only [hwaits, hactive, Bool.false_eq_true, if_true, if_false, Option.some.injEq,
        true_and, false_and, false_or]
      exact eq_comm
    · simp [hwaits, hactive]

/-- A session is given to an agent directly only if it does not wait. -/
theorem allocate?_eq_some_iff {p q : Pool} {s : Session} {now : Moment} :
    p.allocate? s now = some q ↔
      p.backlog.contains s.id = false ∧ p.assign? s now = some q := by
  unfold allocate?
  split
  next hwaits => simp [hwaits]
  next hout => simp [hout]

/-- What a change of shift makes of the additional agents. -/
def adjust (p : Pool) (now : Moment) : Pool :=
  if p.maximumQueueSize now ≤ p.queueSize then p.openAdditional now else p.relax now

/-- A change of shift opens or closes agents, makes the maximum of its moment the limit, and
drains. -/
theorem shiftChanged_eq (p : Pool) (now : Moment) :
    p.shiftChanged now =
      (((p.adjust now).withLimit (p.maximumQueueSize now)).drain now).1 := rfl

namespace Consistent

variable {p q : Pool}

/-- A session that is nowhere in the pool may be put at the end of the backlog. -/
theorem withNew (h : p.Consistent) {id : SessionId} (hnew : p.contains id = false)
    (now : Moment) : (p.withNew id now).Consistent := by
  obtain ⟨hwaits, hactive⟩ := Bool.or_eq_false_iff.mp hnew
  refine { h with backlog := h.backlog.append hwaits now, disjoint := ?_ }
  intro k hk
  simp only [Pool.withNew, Backlog.contains, SessionTable.contains_insert, Bool.or_eq_true,
    decide_eq_true_eq] at hk
  rcases hk with rfl | hk
  · exact hactive
  · exact h.disjoint k hk

theorem takeIn (h : p.Consistent) {id : SessionId} (hnew : p.contains id = false)
    (now : Moment) : (p.takeIn id now).Consistent := by
  unfold Pool.takeIn
  split
  · exact (h.withNew hnew now).openAdditional now
  · exact h.withNew hnew now

theorem create (h : p.Consistent) {id : SessionId} {now : Moment}
    (hnew : p.contains id = false) (hq : p.create? id now = some q) : q.Consistent := by
  obtain ⟨-, rfl⟩ := create?_eq_some_iff.mp hq
  exact (h.takeIn hnew now).drain now

theorem prolong (h : p.Consistent) {id : SessionId} {now : Moment}
    (hq : p.prolong? id now = some q) : q.Consistent := by
  rcases prolong?_eq_some_iff.mp hq with ⟨hwaits, rfl⟩ | ⟨-, -, rfl⟩
  · refine h.withBacklog
      (h.backlog.prolong (Backlog.prolong?_eq_some_iff.mpr ⟨hwaits, rfl⟩)) ?_
    intro k hk
    simpa only [Backlog.contains, SessionTable.contains_modify] using hk
  · refine ⟨h.backlog, h.allocation, h.distinct.modify _ _, h.keyed.modify_prolong id now, ?_, ?_⟩
    · intro k
      simpa only [SessionTable.contains_modify] using h.allocated_iff k
    · intro k hk
      simpa only [SessionTable.contains_modify] using h.disjoint k hk

theorem allocate (h : p.Consistent) {s : Session} {now : Moment}
    (hq : p.allocate? s now = some q) : q.Consistent := by
  obtain ⟨hnew, hassign⟩ := allocate?_eq_some_iff.mp hq
  exact h.assign hnew hassign

theorem destroy (h : p.Consistent) (id : SessionId) (now : Moment) :
    (p.destroy id now).1.Consistent := by
  by_cases hwaits : p.backlog.contains id = true
  · rw [destroy_of_waiting now hwaits]
    exact (h.dismiss [id]).relax now
  · rw [h.destroy_of_not_waiting now (by simpa using hwaits)]
    split
    · exact h.release id
    · exact h

theorem expireWaiting (h : p.Consistent) {now : Moment} (hq : p.expireWaiting now = .ok q) :
    q.Consistent := by
  obtain ⟨gone, -, rfl⟩ := expireWaiting_eq_ok_iff.mp hq
  split
  · exact h
  · exact (h.dismiss gone).relax now

theorem expireAllocated (h : p.Consistent) {now : Moment}
    (hq : p.expireAllocated now = .ok q) : q.Consistent := by
  obtain ⟨gone, -, rfl⟩ := expireAllocated_eq_ok_iff.mp hq
  exact h.foldl_release gone

/-- A sweep leaves a consistent pool, also where an error cuts it short. -/
theorem sweep (h : p.Consistent) (now : Moment) : (p.sweep now).pool.Consistent := by
  generalize hq : (p.sweep now).pool = q
  cases hq ▸ p.sweeps_sweep now with
  | refused => exact h
  | halfway hwaiting => exact h.expireWaiting hwaiting
  | whole hwaiting hactive => exact ((h.expireWaiting hwaiting).expireAllocated hactive).drain now

theorem adjust (h : p.Consistent) (now : Moment) : (p.adjust now).Consistent := by
  unfold Pool.adjust
  split
  · exact h.openAdditional now
  · exact h.relax now

theorem shiftChanged (h : p.Consistent) (now : Moment) : (p.shiftChanged now).Consistent :=
  ((h.adjust now).withLimit _).drain now

end Consistent

namespace Situation

/-- An event keeps the pool consistent if a session that it creates is a new one. -/
theorem consistent_step {s : Situation} {e : Event} (hfresh : s.Fresh e)
    (h : s.pool.Consistent) : (s.step e).pool.Consistent := by
  cases e with
  | create id =>
      cases hq : s.pool.create? id s.now with
      | none => simpa [step, hq] using h
      | some q => simpa [step, hq] using h.create hfresh hq
  | prolong id =>
      cases hq : s.pool.prolong? id s.now with
      | none => simpa [step, hq] using h
      | some q => simpa [step, hq] using h.prolong hq
  | destroy id => exact h.destroy id s.now
  | allocate a =>
      cases hq : s.pool.allocate? a s.now with
      | none => simpa [step, hq] using h
      | some q => simpa [step, hq] using h.allocate hq
  | sweep => exact h.sweep s.now
  | drain => exact h.drain s.now
  | shiftChanged => exact h.shiftChanged s.now
  | setClock now => exact h

/-- A run in which created sessions are new keeps the pool consistent. -/
theorem Admits.consistent_run {s : Situation} {events : List Event}
    (hfresh : Admits Fresh s events) (h : s.pool.Consistent) : (s.run events).pool.Consistent :=
  hfresh.preserves (P := fun s => s.pool.Consistent) (fun _ _ => consistent_step) h

end Situation

/-- A consistent pool reports as active as many sessions as its agents hold together. -/
theorem Consistent.activeSessions_status {p : Pool} (h : p.Consistent) (now : Moment) :
    (p.status now).activeSessions = ((p.status now).agents.map (·.queueSize)).sum := by
  have hperm : p.allocated.keys.Perm p.allocation.assignments.keys := by
    rw [List.perm_ext_iff_of_nodup h.distinct h.allocation.distinct]
    intro id
    simpa only [SessionTable.contains_iff_mem_keys] using h.allocated_iff id
  calc (p.status now).activeSessions
      = p.allocated.keys.length := SessionTable.size_eq_length_keys _
    _ = p.allocation.assignments.keys.length := hperm.length_eq
    _ = p.allocation.assignments.size := (SessionTable.size_eq_length_keys _).symm
    _ = (p.allocation.queues.map AgentQueue.size).sum := h.allocation.sum_size.symm
    _ = ((p.status now).agents.map (·.queueSize)).sum := by
      rw [status, Allocation.snapshot, List.map_map]
      rfl

/-- Whatever happens to a new pool, and whatever its roster, each session stays in exactly
one place: the two views of the backlog agree, a session is recorded with an agent exactly
when one queue holds it, and then no other queue holds it and it does not wait.  No queue
exceeds its slots, and the status report counts as active what the agents hold. -/
theorem one_place_throughout (settings : PoolSettings) (now : Moment) (events : List Event)
    (hfresh : Situation.Admits Situation.Fresh (.start settings now) events) :
    let p := ((Situation.start settings now).run events).pool
    p.Consistent ∧
      (∀ id i j, p.allocation.Holds i id → p.allocation.Holds j id → i = j) ∧
      ∀ m, (p.status m).activeSessions = ((p.status m).agents.map (·.queueSize)).sum := by
  intro p
  have h : p.Consistent := hfresh.consistent_run (consistent_ofSettings settings now)
  exact ⟨h, fun _ _ _ => h.allocation.queue_unique, h.activeSessions_status⟩

/-- A run of the small desk with every kind of event: both additional agents are opened, one
session is refused an agent, and the agents are closed while they hold sessions. -/
theorem one_place_throughout_smallDesk :
    let events : List Event := [.create (.ofNat 0), .create (.ofNat 1), .create (.ofNat 2),
      .allocate (.start (.ofNat 7) (sampleHour 10)), .create (.ofNat 3), .create (.ofNat 4),
      .destroy (.ofNat 1), .setClock (sampleHour 9), .sweep, .shiftChanged,
      .prolong (.ofNat 0), .drain]
    let p := ((Situation.start smallDesk (sampleHour 10)).run events).pool
    Situation.Admits Situation.Fresh (.start smallDesk (sampleHour 10)) events ∧
      (p.status (sampleHour 10)).activeSessions = 3 ∧ p.Consistent ∧
      (∀ id i j, p.allocation.Holds i id → p.allocation.Holds j id → i = j) ∧
      ∀ m, (p.status m).activeSessions = ((p.status m).agents.map (·.queueSize)).sum := by
  intro events p
  have hfresh : Situation.Admits Situation.Fresh (.start smallDesk (sampleHour 10)) events := by
    decide +kernel
  exact ⟨hfresh, by decide +kernel, one_place_throughout smallDesk _ events hfresh⟩

end SupportDesk.Pool
