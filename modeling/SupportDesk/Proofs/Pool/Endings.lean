/-
# Endings in any order

Ending sessions one after the other leaves the same in whatever order it is done, and each ending
is answered by whether its session was known before all of them.  The only reaction to an ending
is that additional agents are closed when a waiting session has gone and the backlog is below the
capacity.  How long the backlog is after an ending does depend on the order.  But it never grows
again, so that a backlog which was short enough for one ending is short enough for the last that
concerns it, and closing twice is closing once.

Two endings change places in every pool.  That the answers do not change either, and that an
ending undoes a direct allocation, needs a consistent one.
-/

import SupportDesk.Proofs.Pool.Ledger
import SupportDesk.Proofs.Pool.Listing

namespace SupportDesk.Pool

variable {p q : Pool} {a b k : SessionId} {now : Moment}

/-! ## Two endings -/

theorem dismiss_comm (p : Pool) (a b : SessionId) :
    (p.dismiss [a]).dismiss [b] = (p.dismiss [b]).dismiss [a] := by
  simp only [dismiss, List.foldl_cons, List.foldl_nil, p.backlog.sessions.erase_comm a b]
  rw [List.filter_comm]

theorem queueSize_dismiss_le (p : Pool) (gone : List SessionId) :
    (p.dismiss gone).queueSize ≤ p.queueSize := List.length_filter_le _ _

theorem capacity_closeAdditional (p : Pool) (now : Moment) :
    p.closeAdditional.capacity now = p.capacity now :=
  (Allocation.sameRoster_closeAdditional p.allocation).capacity now

/-- Before more sessions leave the backlog there is no need to relax. -/
theorem relax_dismiss_relax (p : Pool) (gone : List SessionId) (now : Moment) :
    ((p.relax now).dismiss gone).relax now = (p.dismiss gone).relax now := by
  unfold relax
  split
  next hbelow =>
    have hstill : (p.dismiss gone).queueSize < (p.dismiss gone).capacity now :=
      (p.queueSize_dismiss_le gone).trans_lt hbelow
    have hclosed : (p.closeAdditional.dismiss gone).queueSize <
        (p.closeAdditional.dismiss gone).capacity now := by
      rw [show (p.closeAdditional.dismiss gone).capacity now = p.capacity now from
        p.capacity_closeAdditional now]
      exact hstill
    rw [if_pos hstill, if_pos hclosed]
    simp only [closeAdditional, dismiss, Allocation.closeAdditional_closeAdditional]
  next => rfl

/-- An agent loses a session in the same way before a relaxation and after it. -/
theorem release_relax (p : Pool) (id : SessionId) (now : Moment) :
    (p.relax now).release id = (p.release id).relax now := by
  have hcapacity : (p.release id).capacity now = p.capacity now := by
    rw [release_eq_discharge]
    exact (p.allocation.sameRoster_discharge id).capacity now
  have hsize : (p.release id).queueSize = p.queueSize := by
    rw [release_eq_discharge]
    rfl
  unfold relax
  rw [hcapacity, hsize]
  split
  · simp only [release_eq_discharge, closeAdditional, Allocation.closeAdditional_discharge]
  · rfl

theorem release_dismiss (p : Pool) (gone : List SessionId) (id : SessionId) :
    (p.dismiss gone).release id = (p.release id).dismiss gone := by
  simp only [release_eq_discharge, dismiss]

/-- An ending leaves every other session where it is. -/
theorem contains_destroy (p : Pool) (now : Moment) (hk : k ≠ a) :
    (p.destroy a now).1.backlog.contains k = p.backlog.contains k ∧
      (p.destroy a now).1.allocated.contains k = p.allocated.contains k := by
  rcases p.destroy_cases a now with hend | hend | hend <;> rw [hend]
  · rw [relax_eq]
    refine ⟨?_, rfl⟩
    rw [contains_backlog_dismiss]
    simp [hk]
  · rw [release_eq]
    simp [SessionTable.contains_erase, hk]
  · exact ⟨rfl, rfl⟩

/-- The ending of a waiting session and that of one which does not wait change places. -/
theorem destroy_comm_of_waiting (hne : b ≠ a) (ha : p.backlog.contains a = true)
    (hb : p.backlog.contains b = false) :
    ((p.destroy a now).1.destroy b now).1 = ((p.destroy b now).1.destroy a now).1 := by
  obtain ⟨hwaits, hserved⟩ := contains_destroy p now hne
  obtain ⟨hwaits', -⟩ := contains_destroy p now hne.symm
  rw [destroy_fst_of_not_waiting now (hwaits.trans hb), hserved, destroy_of_waiting now ha,
    destroy_of_waiting now (hwaits'.trans ha), destroy_fst_of_not_waiting now hb]
  split
  · rw [release_relax, release_dismiss]
  · rfl

/-- Two endings at one moment change places, whatever the pool and wherever the sessions are. -/
theorem destroy_comm (p : Pool) (a b : SessionId) (now : Moment) :
    ((p.destroy a now).1.destroy b now).1 = ((p.destroy b now).1.destroy a now).1 := by
  by_cases hab : a = b
  · rw [hab]
  obtain ⟨hwaits, hserved⟩ := contains_destroy p now (Ne.symm hab)
  obtain ⟨hwaits', hserved'⟩ := contains_destroy p now hab
  cases ha : p.backlog.contains a with
  | true =>
      cases hb : p.backlog.contains b with
      | true =>
          rw [destroy_of_waiting now (hwaits.trans hb), destroy_of_waiting now (hwaits'.trans ha),
            destroy_of_waiting now ha, destroy_of_waiting now hb, relax_dismiss_relax,
            relax_dismiss_relax, dismiss_comm]
      | false => exact destroy_comm_of_waiting (Ne.symm hab) ha hb
  | false =>
      cases hb : p.backlog.contains b with
      | true => exact (destroy_comm_of_waiting hab hb ha).symm
      | false =>
          rw [destroy_fst_of_not_waiting now (hwaits.trans hb),
            destroy_fst_of_not_waiting now (hwaits'.trans ha), hserved, hserved',
            destroy_fst_of_not_waiting now ha, destroy_fst_of_not_waiting now hb]
          cases p.allocated.contains a with
          | false => rfl
          | true =>
              cases p.allocated.contains b with
              | false => rfl
              | true => exact release_comm p a b

/-! ## An ending after an allocation -/

/-- A session that is given to an agent directly and then ended leaves the pool as it was. -/
theorem Consistent.destroy_of_allocate (h : p.Consistent) {s : Session}
    (hq : p.allocate? s now = some q) (later : Moment) : q.destroy s.id later = (p, true) := by
  have hafter := h.allocate hq
  obtain ⟨hwaits, hassign⟩ := allocate?_eq_some_iff.mp hq
  obtain ⟨hout, hunassigned, i, best, hchoose, rfl⟩ := assign?_eq_some_iff.mp hassign
  obtain ⟨hi, htake⟩ := Allocation.getElem?_of_choose? hchoose
  have hroom : best.hasOpenSpots = true := (Bool.and_eq_true_iff.mp htake).2
  have hback := Allocation.vacate_place hunassigned hi (h.allocation.not_contains hunassigned hi)
    hroom
  have hserved : (p.allocated.insert s.id s).contains s.id = true := by
    simp [SessionTable.contains_insert]
  have hplaced : (p.allocation.place s i).assignments.find? s.id = some i := by
    simp [Allocation.place, SessionTable.find?_insert]
  rw [hafter.destroy_of_not_waiting later hwaits, if_pos hserved, release_of_assigned hplaced,
    hback, SessionTable.erase_insert hout]

namespace Situation

/-! ## Endings in a row -/

/-- The answers to a list of requests that come one after the other. -/
def answers : Situation → List Event → List Bool
  | _, [] => []
  | s, e :: events => s.grants e :: (s.step e).answers events

/-- Endings in another order leave the same. -/
theorem run_destroy_perm (s : Situation) {ids ids' : List SessionId} (h : ids.Perm ids') :
    s.run (ids.map .destroy) = s.run (ids'.map .destroy) := by
  apply (h.map Event.destroy).foldl_eq'
  intro x hx y hy t
  obtain ⟨a, -, rfl⟩ := List.mem_map.mp hx
  obtain ⟨b, -, rfl⟩ := List.mem_map.mp hy
  exact congrArg (Situation.mk · t.now) (t.pool.destroy_comm a b t.now)

/-- An ending is answered by whether the session was known before all of them. -/
theorem answers_destroy {s : Situation} (h : s.pool.Consistent) {ids : List SessionId}
    (hids : ids.Nodup) : s.answers (ids.map .destroy) = ids.map s.pool.contains := by
  induction ids generalizing s with
  | nil => rfl
  | cons id ids ih =>
      obtain ⟨hnew, hrest⟩ := List.nodup_cons.mp hids
      have hlater : ids.map (s.step (.destroy id)).pool.contains = ids.map s.pool.contains := by
        apply List.map_congr_left
        intro k hk
        have hne : k ≠ id := fun heq => hnew (heq ▸ hk)
        obtain ⟨hwaits, hserved⟩ := contains_destroy s.pool s.now hne
        simp only [step, Pool.contains, hwaits, hserved]
      rw [List.map_cons, List.map_cons, answers, ih (h.destroy id s.now) hrest, hlater, grants,
        h.destroy_answer]

end Situation

/-- What lets sessions go does not depend on the order.  In every state of every run from a new
pool, distinct sessions may be ended at one moment in any order: each is answered by whether the
pool knew the session before, and all orders leave the same pool, down to its backlog, queues,
assignments and open agents.  A sweep of a pool that lists the sessions with agents in another
order is cut short by the same error, if by any, and leaves a pool that differs at most in the
same way.  And whoever is given to an agent directly and then ended, at whatever moment, has left
the pool as it was before. -/
theorem endings_commute (settings : PoolSettings) (start : Moment) (events : List Event)
    (hfresh : Situation.Admits Situation.Fresh (.start settings start) events) :
    let s := (Situation.start settings start).run events
    (∀ ids : List SessionId, ids.Nodup →
      s.answers (ids.map .destroy) = ids.map s.pool.contains ∧
        ∀ ids', ids.Perm ids' → s.run (ids.map .destroy) = s.run (ids'.map .destroy)) ∧
      (∀ q, Relists s.pool q → (q.sweep s.now).fault = (s.pool.sweep s.now).fault ∧
        Relists (s.pool.sweep s.now).pool (q.sweep s.now).pool) ∧
      ∀ a q later, s.pool.allocate? a s.now = some q → q.destroy a.id later = (s.pool, true) := by
  intro s
  have h : s.pool.Consistent := hfresh.consistent_run (consistent_ofSettings settings start)
  refine ⟨fun ids hids => ⟨Situation.answers_destroy h hids, ?_⟩, ?_, ?_⟩
  · intro ids' hperm
    exact s.run_destroy_perm hperm
  · intro q hq
    exact hq.sweep s.now
  · intro a q later hq
    exact h.destroy_of_allocate hq later

/-- At the small desk two sessions are with agents, one waits and one is unknown.  An ending of
the one that waits closes both additional agents, wherever it stands among the endings. -/
theorem endings_commute_smallDesk :
    let events : List Event := [.create (.ofNat 0), .create (.ofNat 1), .create (.ofNat 2),
      .create (.ofNat 3), .destroy (.ofNat 0), .setClock (sampleHour 11)]
    let s := (Situation.start smallDesk (sampleHour 10)).run events
    let first : List SessionId := [.ofNat 3, .ofNat 2, .ofNat 9]
    let second : List SessionId := [.ofNat 9, .ofNat 2, .ofNat 3]
    let q : Pool := { s.pool with allocated := ⟨s.pool.allocated.entries.reverse⟩ }
    s.answers (first.map .destroy) = [true, true, false] ∧
      s.run (first.map .destroy) = s.run (second.map .destroy) ∧
      q ≠ s.pool ∧ Relists (s.pool.sweep s.now).pool (q.sweep s.now).pool ∧
      ∃ r, s.pool.allocate? (.start (.ofNat 7) s.now) s.now = some r ∧
        r.destroy (.ofNat 7) s.now = (s.pool, true) := by
  intro events s first second q
  have hfresh : Situation.Admits Situation.Fresh (.start smallDesk (sampleHour 10)) events := by
    decide +kernel
  obtain ⟨hendings, hsweep, hback⟩ := endings_commute smallDesk (sampleHour 10) events hfresh
  obtain ⟨hanswers, hsame⟩ := hendings first (by decide +kernel)
  obtain ⟨-, hswept⟩ := hsweep q ⟨rfl, rfl, rfl, List.reverse_perm _⟩
  have hgiven : (s.pool.allocate? (.start (.ofNat 7) s.now) s.now).isSome = true := by
    decide +kernel
  obtain ⟨r, hr⟩ := Option.isSome_iff_exists.mp hgiven
  refine ⟨?_, hsame second (by decide +kernel), ?_, hswept, r, hr, hback _ r s.now hr⟩
  · rw [hanswers]
    decide +kernel
  · decide +kernel

end SupportDesk.Pool
