/-
# The moves of a pool

Every operation of a pool is a sequence of a few moves: agents are opened or closed, the first of
the backlog is taken, assigned or put back, sessions are dismissed from the backlog or released
from their agents, and sessions show signs of life.  What each of these moves preserves, every
operation preserves.  Two operations do one thing more, before all moves: an admission puts its
session at the end of the backlog, and a change of shift sets the limit.

Nothing is assumed here about the pool.
-/

import SupportDesk.Proofs.Pool.OnePlace

namespace SupportDesk.Pool

/-- A move of a pool at a moment. -/
inductive Move (now : Moment) : Pool → Pool → Prop
  | openNext {p : Pool} {a : Allocation} (h : p.allocation.openAdditional? now = some a) :
      Move now p { p with allocation := a }
  | closeAll (p : Pool) : Move now p p.closeAdditional
  | pop (p : Pool) : Move now p { p with backlog := p.backlog.pop.2 }
  | assign {p q : Pool} {s : Session} (h : p.assign? s now = some q) : Move now p q
  | putBack {p : Pool} {s : Session} {b : Backlog} (h : p.backlog.pop = (some s, b)) :
      Move now p { p with backlog := b.restoreFront s }
  | dismiss (p : Pool) (gone : List SessionId) : Move now p (p.dismiss gone)
  | release (p : Pool) (id : SessionId) : Move now p (p.release id)
  | touchWaiting (p : Pool) (id : SessionId) :
      Move now p { p with backlog := { p.backlog with
        sessions := p.backlog.sessions.modify id (·.prolong now) } }
  | touchServed (p : Pool) (id : SessionId) :
      Move now p { p with allocated := p.allocated.modify id (·.prolong now) }

/-- Any number of moves at one moment. -/
def Moves (now : Moment) : Pool → Pool → Prop := Relation.ReflTransGen (Move now)

namespace Moves

variable {now : Moment} {p q r : Pool}

theorem refl (p : Pool) : Moves now p p := Relation.ReflTransGen.refl

theorem of_move (h : Move now p q) : Moves now p q := Relation.ReflTransGen.single h

theorem trans (hpq : Moves now p q) (hqr : Moves now q r) : Moves now p r :=
  Relation.ReflTransGen.trans hpq hqr

/-- What each move preserves, they preserve together. -/
theorem preserves {P : Pool → Prop} (hmove : ∀ p q, Move now p q → P p → P q)
    (h : Moves now p q) (hp : P p) : P q := by
  induction h with
  | refl => exact hp
  | tail _ hlast ih => exact hmove _ _ hlast ih

end Moves

/-! ## The moves of an operation -/

variable {p q : Pool} {now : Moment}

theorem moves_openAdditional (p : Pool) (now : Moment) : Moves now p (p.openAdditional now) := by
  unfold openAdditional
  split
  next a ha => exact .of_move (.openNext ha)
  next => exact .refl p

theorem moves_relax (p : Pool) (now : Moment) : Moves now p (p.relax now) := by
  unfold relax
  split
  · exact .of_move (.closeAll p)
  · exact .refl p

theorem moves_drain (p : Pool) (now : Moment) : Moves now p (p.drain now).1 := by
  apply drain_preserves_of_pop (P := Moves now p) _ _ _ (.refl p)
  · intro q hq
    exact hq.trans (.of_move (.pop q))
  · intro q r s hr hq
    exact hq.trans (.of_move (.assign hr))
  · intro q s b hb hq
    exact hq.trans (.of_move (.putBack hb))

/-- An admission, once its session is in the backlog. -/
theorem moves_create {id : SessionId} (hq : p.create? id now = some q) :
    Moves now (p.withNew id now) q := by
  obtain ⟨-, rfl⟩ := create?_eq_some_iff.mp hq
  have htaken : Moves now (p.withNew id now) (p.takeIn id now) := by
    unfold takeIn
    split
    · exact moves_openAdditional (p.withNew id now) now
    · exact .refl _
  exact htaken.trans (moves_drain _ now)

theorem moves_prolong {id : SessionId} (hq : p.prolong? id now = some q) : Moves now p q := by
  rcases prolong?_eq_some_iff.mp hq with ⟨-, rfl⟩ | ⟨-, -, rfl⟩
  · exact .of_move (.touchWaiting p id)
  · exact .of_move (.touchServed p id)

theorem moves_allocate {s : Session} (hq : p.allocate? s now = some q) : Moves now p q :=
  .of_move (.assign (allocate?_eq_some_iff.mp hq).2)

theorem moves_dismiss_relax (p : Pool) (gone : List SessionId) (now : Moment) :
    Moves now p ((p.dismiss gone).relax now) :=
  (Moves.of_move (.dismiss p gone)).trans (moves_relax (p.dismiss gone) now)

theorem moves_destroy (p : Pool) (id : SessionId) (now : Moment) :
    Moves now p (p.destroy id now).1 := by
  rcases p.destroy_cases id now with hend | hend | hend <;> rw [hend]
  · exact moves_dismiss_relax p [id] now
  · exact .of_move (.release p id)
  · exact .refl p

theorem moves_expireWaiting (hq : p.expireWaiting now = .ok q) : Moves now p q := by
  obtain ⟨gone, -, rfl⟩ := expireWaiting_eq_ok_iff.mp hq
  split
  · exact .refl p
  · exact moves_dismiss_relax p gone now

theorem moves_foldl_release (ids : List SessionId) (p : Pool) (now : Moment) :
    Moves now p (ids.foldl release p) := by
  induction ids generalizing p with
  | nil => exact .refl p
  | cons id ids ih => exact (Moves.of_move (.release p id)).trans (ih (p.release id))

theorem moves_expireAllocated (hq : p.expireAllocated now = .ok q) : Moves now p q := by
  obtain ⟨gone, -, rfl⟩ := expireAllocated_eq_ok_iff.mp hq
  exact moves_foldl_release gone p now

/-- A sweep, however far it comes. -/
theorem moves_sweep (p : Pool) (now : Moment) : Moves now p (p.sweep now).pool := by
  generalize hq : (p.sweep now).pool = q
  cases hq ▸ p.sweeps_sweep now with
  | refused => exact .refl p
  | halfway hwaiting => exact moves_expireWaiting hwaiting
  | whole hwaiting hactive =>
      have hboth := (moves_expireWaiting hwaiting).trans (moves_expireAllocated hactive)
      exact hboth.trans (moves_drain _ now)

/-! Agents are opened and closed whatever the limit is. -/

theorem allocation_withLimit (p : Pool) (limit : Nat) :
    (p.withLimit limit).allocation = p.allocation := rfl

theorem openAdditional_withLimit (p : Pool) (limit : Nat) (now : Moment) :
    (p.withLimit limit).openAdditional now = (p.openAdditional now).withLimit limit := by
  unfold openAdditional
  rw [allocation_withLimit]
  cases p.allocation.openAdditional? now <;> rfl

theorem relax_withLimit (p : Pool) (limit : Nat) (now : Moment) :
    (p.withLimit limit).relax now = (p.relax now).withLimit limit := by
  unfold relax
  rw [apply_ite (withLimit · limit)]
  rfl

theorem moves_adjust (p : Pool) (now : Moment) : Moves now p (p.adjust now) := by
  unfold adjust
  split
  · exact moves_openAdditional p now
  · exact moves_relax p now

theorem adjust_withLimit (p : Pool) (limit : Nat) (now : Moment) :
    (p.withLimit limit).adjust now = (p.adjust now).withLimit limit := by
  unfold adjust
  rw [apply_ite (withLimit · limit), openAdditional_withLimit, relax_withLimit]
  rfl

/-- A change of shift, once the limit is set. -/
theorem moves_shiftChanged (p : Pool) (now : Moment) :
    Moves now (p.withLimit (p.maximumQueueSize now)) (p.shiftChanged now) := by
  rw [shiftChanged_eq, ← adjust_withLimit]
  exact (moves_adjust _ now).trans (moves_drain _ now)

namespace Situation

/-- The pool from which the moves of an event begin. -/
def prepared (s : Situation) : Event → Pool
  | .create id => if s.grants (.create id) then s.pool.withNew id s.now else s.pool
  | .shiftChanged => s.pool.withLimit (s.pool.maximumQueueSize s.now)
  | _ => s.pool

@[simp] theorem allocation_prepared (s : Situation) (e : Event) :
    (s.prepared e).allocation = s.pool.allocation := by
  cases e with
  | create id => exact (apply_ite Pool.allocation _ _ _).trans (ite_self _)
  | _ => rfl

/-- What an event does to a pool that is prepared for it is a sequence of moves. -/
theorem moves_step (s : Situation) (e : Event) : Moves s.now (s.prepared e) (s.step e).pool := by
  cases e with
  | create id =>
      cases hq : s.pool.create? id s.now with
      | none => simpa [step, prepared, grants, hq] using Moves.refl s.pool
      | some q => simpa [step, prepared, grants, hq] using moves_create hq
  | prolong id =>
      cases hq : s.pool.prolong? id s.now with
      | none => simpa [step, prepared, hq] using Moves.refl s.pool
      | some q => simpa [step, prepared, hq] using moves_prolong hq
  | destroy id => exact moves_destroy s.pool id s.now
  | allocate a =>
      cases hq : s.pool.allocate? a s.now with
      | none => simpa [step, prepared, hq] using Moves.refl s.pool
      | some q => simpa [step, prepared, hq] using moves_allocate hq
  | sweep => exact moves_sweep s.pool s.now
  | drain => exact moves_drain s.pool s.now
  | shiftChanged => exact moves_shiftChanged s.pool s.now
  | setClock now => exact .refl s.pool

end Situation

end SupportDesk.Pool
