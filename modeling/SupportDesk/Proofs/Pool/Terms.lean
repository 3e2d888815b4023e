/-
# The terms of a desk

The roster, the limit of the backlog and the timeout are the terms on which a desk works.
Sessions that come and go leave them as they are, and so do agents that are opened or closed:
only a change of shift sets the limit, to the maximum of its moment.  Nothing is assumed here
about the pool.
-/

import SupportDesk.Proofs.Agent.Reserve
import SupportDesk.Proofs.Pool.Moves

namespace SupportDesk.Pool

/-- Two pools have the same roster, limit and timeout. -/
structure SameTerms (p q : Pool) : Prop where
  roster : Allocation.SameRoster p.allocation q.allocation
  limit : q.backlog.limit = p.backlog.limit
  timeout : q.timeout = p.timeout

namespace SameTerms

variable {p q r : Pool}

theorem refl (p : Pool) : SameTerms p p := ⟨.refl _, rfl, rfl⟩

theorem trans (hpq : SameTerms p q) (hqr : SameTerms q r) : SameTerms p r :=
  ⟨hpq.roster.trans hqr.roster, hqr.limit.trans hpq.limit, hqr.timeout.trans hpq.timeout⟩

end SameTerms

variable {p q : Pool} {now : Moment}

/-- Taking the first of the backlog and putting it back leave the limit. -/
theorem limit_pop (b : Backlog) : b.pop.2.limit = b.limit := by
  unfold Backlog.pop
  split <;> rfl

theorem limit_restoreFront (b : Backlog) (s : Session) : (b.restoreFront s).limit = b.limit := by
  unfold Backlog.restoreFront
  split <;> rfl

theorem sameTerms_assign {s : Session} (hq : p.assign? s now = some q) : SameTerms p q := by
  obtain ⟨-, -, i, best, hchoose, rfl⟩ := assign?_eq_some_iff.mp hq
  exact ⟨(Allocation.Serves.place s hchoose).sameRoster, rfl, rfl⟩

theorem sameTerms_release (p : Pool) (id : SessionId) : SameTerms p (p.release id) := by
  cases hi : p.allocation.assignments.find? id with
  | none =>
      rw [release_of_unassigned hi]
      exact ⟨.refl _, rfl, rfl⟩
  | some i =>
      rw [release_of_assigned hi]
      exact ⟨⟨rfl, Allocation.map_modify_of_eq (fun q => by simp) i⟩, rfl, rfl⟩

theorem sameTerms_move (h : Move now p q) : SameTerms p q := by
  cases h with
  | openNext ha => exact ⟨Allocation.sameRoster_openAdditional ha, rfl, rfl⟩
  | closeAll => exact ⟨Allocation.sameRoster_closeAdditional _, rfl, rfl⟩
  | pop => exact ⟨.refl _, limit_pop p.backlog, rfl⟩
  | assign hq => exact sameTerms_assign hq
  | @putBack s b hpop =>
      have hlimit := limit_pop p.backlog
      rw [hpop] at hlimit
      exact ⟨.refl _, (limit_restoreFront b s).trans hlimit, rfl⟩
  | dismiss => exact ⟨.refl _, rfl, rfl⟩
  | release id => exact sameTerms_release p id
  | touchWaiting | touchServed => exact ⟨.refl _, rfl, rfl⟩

theorem Moves.sameTerms (h : Moves now p q) : SameTerms p q :=
  h.preserves (fun _ _ hmove hp => hp.trans (sameTerms_move hmove)) (.refl p)

theorem sameTerms_sweep (p : Pool) (now : Moment) : SameTerms p (p.sweep now).pool :=
  (moves_sweep p now).sameTerms

/-- The limit is set, and all else that belongs to the terms stays. -/
theorem sameTerms_shiftChanged (p : Pool) (now : Moment) :
    SameTerms (p.withLimit (p.maximumQueueSize now)) (p.shiftChanged now) :=
  (moves_shiftChanged p now).sameTerms

namespace Situation

/-- No event but a change of shift touches the terms. -/
theorem sameTerms_step {s : Situation} {e : Event} (he : e ≠ .shiftChanged) :
    SameTerms s.pool (s.step e).pool := by
  have hprepared : SameTerms s.pool (s.prepared e) := by
    cases e with
    | create id =>
        show SameTerms s.pool
          (if s.grants (.create id) then s.pool.withNew id s.now else s.pool)
        split
        · exact ⟨.refl _, rfl, rfl⟩
        · exact .refl s.pool
    | shiftChanged => exact absurd rfl he
    | _ => exact .refl s.pool
  exact hprepared.trans (s.moves_step e).sameTerms

/-- The roster outlasts every event. -/
theorem sameRoster_step (s : Situation) (e : Event) :
    Allocation.SameRoster s.pool.allocation (s.step e).pool.allocation := by
  have hroster := (s.moves_step e).sameTerms.roster
  rwa [allocation_prepared] at hroster

/-- So does the timeout. -/
theorem timeout_step (s : Situation) (e : Event) : (s.step e).pool.timeout = s.pool.timeout := by
  by_cases he : e = .shiftChanged
  · subst he
    exact (sameTerms_shiftChanged s.pool s.now).timeout
  · exact (sameTerms_step he).timeout

theorem timeout_run (s : Situation) (events : List Event) :
    (s.run events).pool.timeout = s.pool.timeout := by
  induction events generalizing s with
  | nil => rfl
  | cons e events ih => exact (ih (s.step e)).trans (timeout_step s e)

theorem sameRoster_run (s : Situation) (events : List Event) :
    Allocation.SameRoster s.pool.allocation (s.run events).pool.allocation := by
  induction events generalizing s with
  | nil => exact .refl _
  | cons e events ih => exact (sameRoster_step s e).trans (ih (s.step e))

end Situation

end SupportDesk.Pool
