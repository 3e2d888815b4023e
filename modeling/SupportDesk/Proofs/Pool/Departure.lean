/-
# Who leaves a pool

Sessions leave the backlog for good when they are ended or have expired, and their agents when
they are ended or released by a sweep.  Each operation that lets sessions go is described here
by whom it lets go, also where an arithmetic error cuts a sweep short.
-/

import SupportDesk.Proofs.Pool.Drain

namespace SupportDesk.Pool

/-- The pool without some of the sessions that wait. -/
def dismiss (p : Pool) (gone : List SessionId) : Pool :=
  { p with backlog := { p.backlog with
      order := p.backlog.order.filter (· ∉ gone)
      sessions := gone.foldl (·.erase ·) p.backlog.sessions } }

@[simp] theorem allocation_dismiss (p : Pool) (gone : List SessionId) :
    (p.dismiss gone).allocation = p.allocation := rfl

theorem contains_backlog_dismiss (p : Pool) (gone : List SessionId) (id : SessionId) :
    (p.dismiss gone).backlog.contains id = (decide (id ∉ gone) && p.backlog.contains id) :=
  SessionTable.contains_foldl_erase gone p.backlog.sessions id

/-- Taking any sessions out of the backlog. -/
theorem Consistent.dismiss {p : Pool} (h : p.Consistent) (gone : List SessionId) :
    (p.dismiss gone).Consistent := by
  refine h.withBacklog (h.backlog.filter_erase gone) ?_
  intro k hk
  have hboth := contains_backlog_dismiss p gone k
  rw [show (p.dismiss gone).backlog.contains k = true from hk] at hboth
  exact (Bool.and_eq_true_iff.mp hboth.symm).2

/-- The end of a waiting session. -/
theorem destroy_of_waiting {p : Pool} {id : SessionId} (now : Moment)
    (hwaits : p.backlog.contains id = true) :
    p.destroy id now = ((p.dismiss [id]).relax now, true) := by
  simp [destroy, Backlog.remove?, hwaits, dismiss]

/-- The end of a session that does not wait releases it from its agent, if it has one. -/
theorem Consistent.destroy_of_not_waiting {p : Pool} (h : p.Consistent) {id : SessionId}
    (now : Moment) (hwaits : p.backlog.contains id = false) :
    p.destroy id now =
      if p.allocated.contains id then (p.release id, true) else (p, false) := by
  simp only [Pool.destroy, Backlog.remove?, hwaits, Bool.false_eq_true, if_false]
  split
  next hin =>
    obtain ⟨i, hi⟩ := SessionTable.exists_find?_of_contains ((h.allocated_iff id).mp hin)
    simp only [Pool.release, Allocation.release?, hi, Option.map_some]
  next => rfl

/-- Whatever is known about the pool, it leaves the same. -/
theorem destroy_fst_of_not_waiting {p : Pool} {id : SessionId} (now : Moment)
    (hwaits : p.backlog.contains id = false) :
    (p.destroy id now).1 = if p.allocated.contains id then p.release id else p := by
  simp only [destroy, Backlog.remove?, hwaits, Bool.false_eq_true, if_false]
  split
  · cases hi : p.allocation.release? id <;> simp only [release, hi]
  · rfl

/-- An ending is one of these. -/
theorem destroy_cases (p : Pool) (id : SessionId) (now : Moment) :
    (p.destroy id now).1 = (p.dismiss [id]).relax now ∨ (p.destroy id now).1 = p.release id ∨
      (p.destroy id now).1 = p := by
  by_cases hwaits : p.backlog.contains id = true
  · exact .inl (congrArg Prod.fst (destroy_of_waiting now hwaits))
  · rw [destroy_fst_of_not_waiting now (by simpa using hwaits)]
    split
    · exact .inr (.inl rfl)
    · exact .inr (.inr rfl)

/-- The first part of a sweep dismisses the sessions that are found to have expired. -/
theorem expireWaiting_eq_ok_iff {p q : Pool} {now : Moment} :
    p.expireWaiting now = .ok q ↔ ∃ gone, p.backlog.expired p.timeout now = .ok gone ∧
      q = if gone = [] then p else (p.dismiss gone).relax now := by
  unfold expireWaiting Backlog.removeExpired
  cases p.backlog.expired p.timeout now with
  | error e => simp [Except.map]
  | ok gone => cases gone <;> simp [Except.map, dismiss, eq_comm]

/-- The second part releases the sessions with agents that are found to have expired. -/
theorem expireAllocated_eq_ok_iff {p q : Pool} {now : Moment} :
    p.expireAllocated now = .ok q ↔ ∃ gone, p.expiredAllocated now = .ok gone ∧
      q = gone.foldl release p := by
  unfold expireAllocated
  cases p.expiredAllocated now with
  | error e => simp [Except.map]
  | ok gone => simp [Except.map, eq_comm]

/-- How far a sweep comes. -/
inductive Sweeps (now : Moment) (p : Pool) : Pool → Prop
  /-- An error among the waiting sessions leaves the pool as it was. -/
  | refused {e : TimeError} (hwaiting : p.expireWaiting now = .error e) : Sweeps now p p
  /-- An error among the sessions with agents leaves what has been done before. -/
  | halfway {q : Pool} {e : TimeError} (hwaiting : p.expireWaiting now = .ok q)
      (hactive : q.expireAllocated now = .error e) : Sweeps now p q
  /-- Without an error the backlog is drained. -/
  | whole {q r : Pool} (hwaiting : p.expireWaiting now = .ok q)
      (hactive : q.expireAllocated now = .ok r) : Sweeps now p (r.drain now).1

theorem sweeps_sweep (p : Pool) (now : Moment) : Sweeps now p (p.sweep now).pool := by
  unfold sweep
  split
  next hwaiting => exact .refused hwaiting
  next q hwaiting =>
    split
    next hactive => exact .halfway hwaiting hactive
    next r hactive => exact .whole hwaiting hactive

end SupportDesk.Pool
