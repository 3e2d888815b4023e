/-
# The order in which a sweep meets the sessions

A sweep goes through the sessions with agents, those that have expired it releases one by one, and
what it finds out and what it leaves could depend on the order in which they are listed.  It does
not: whether a session has expired does not depend on the others, the only error is the same for
each of them, and releases change places.  A drain asks of the sessions with agents no more than
whether there is one of a name.

Nothing is assumed about the pool.
-/

import SupportDesk.Proofs.Agent.Discharge
import SupportDesk.Proofs.Pool.Departure
import SupportDesk.Proofs.Session.Expiry

namespace SupportDesk.Pool

/-! ## Releases in any order -/

theorem release_eq_discharge (p : Pool) (id : SessionId) :
    p.release id = { p with
      allocation := p.allocation.discharge id, allocated := p.allocated.erase id } := by
  unfold release Allocation.discharge
  cases hi : p.allocation.release? id <;> simp [hi]

theorem release_comm (p : Pool) (a b : SessionId) :
    (p.release a).release b = (p.release b).release a := by
  simp only [release_eq_discharge, p.allocation.discharge_comm a b, p.allocated.erase_comm a b]

theorem foldl_release_perm {ids ids' : List SessionId} (h : ids.Perm ids') (p : Pool) :
    ids.foldl release p = ids'.foldl release p :=
  h.foldl_eq' (fun a _ b _ q => q.release_comm a b) p

/-! ## Other lists of the same sessions -/

/-- Two pools differ at most in the order in which they list the sessions with agents. -/
structure Relists (p q : Pool) : Prop where
  backlog : q.backlog = p.backlog
  allocation : q.allocation = p.allocation
  timeout : q.timeout = p.timeout
  allocated : q.allocated.entries.Perm p.allocated.entries

/-- Two parts of a sweep fail alike, or end with pools that differ in no more. -/
inductive Alike : Except TimeError Pool → Except TimeError Pool → Prop
  | error (e : TimeError) : Alike (.error e) (.error e)
  | ok {p q : Pool} (h : Relists p q) : Alike (.ok p) (.ok q)

namespace Relists

variable {p q : Pool} {now : Moment}

theorem release (h : Relists p q) (id : SessionId) : Relists (p.release id) (q.release id) := by
  rw [release_eq_discharge, release_eq_discharge]
  exact ⟨h.backlog, congrArg (·.discharge id) h.allocation, h.timeout,
    SessionTable.erase_perm h.allocated id⟩

theorem foldl_release (h : Relists p q) (ids : List SessionId) :
    Relists (ids.foldl Pool.release p) (ids.foldl Pool.release q) := by
  induction ids generalizing p q with
  | nil => exact h
  | cons id ids ih => exact ih (h.release id)

theorem withBacklog (h : Relists p q) (b : Backlog) :
    Relists { p with backlog := b } { q with backlog := b } :=
  ⟨rfl, h.allocation, h.timeout, h.allocated⟩

theorem assign? (h : Relists p q) (s : Session) (now : Moment) :
    Option.Rel Relists (p.assign? s now) (q.assign? s now) := by
  unfold Pool.assign?
  rw [h.allocation, SessionTable.contains_of_perm h.allocated]
  split
  · exact .none
  · cases p.allocation.allocate? s now with
    | none => exact .none
    | some a => exact .some ⟨h.backlog, rfl, h.timeout, SessionTable.insert_perm h.allocated s.id s⟩

theorem drainUpTo (h : Relists p q) (now : Moment) (fuel : Nat) :
    Relists (Pool.drainUpTo now fuel p).1 (Pool.drainUpTo now fuel q).1 := by
  induction fuel generalizing p q with
  | zero => exact h
  | succ fuel ih =>
      rw [Pool.drainUpTo, Pool.drainUpTo, h.allocation, h.backlog]
      split
      · rcases p.backlog.pop with ⟨first, b⟩
        have hb := h.withBacklog b
        rw [h.allocation] at hb
        cases first with
        | none => exact hb
        | some s =>
            have hassign := hb.assign? s now
            simp only
            generalize Pool.assign? { p with backlog := b } s now = left at hassign ⊢
            generalize Pool.assign? { q with backlog := b, allocation := p.allocation } s now =
              right at hassign ⊢
            cases hassign with
            | none => exact hb.withBacklog (b.restoreFront s)
            | some hgiven => exact ih hgiven
      · exact h

theorem drain (h : Relists p q) (now : Moment) : Relists (p.drain now).1 (q.drain now).1 := by
  unfold Pool.drain Pool.queueSize
  rw [h.backlog]
  exact h.drainUpTo now _

theorem relax (h : Relists p q) (now : Moment) : Relists (p.relax now) (q.relax now) := by
  unfold Pool.relax Pool.queueSize Pool.capacity
  rw [h.backlog, h.allocation]
  split
  · exact ⟨h.backlog, congrArg Allocation.closeAdditional h.allocation, h.timeout, h.allocated⟩
  · exact h

theorem expireWaiting (h : Relists p q) (now : Moment) :
    Alike (p.expireWaiting now) (q.expireWaiting now) := by
  have hsame : q.backlog.removeExpired q.timeout now = p.backlog.removeExpired p.timeout now := by
    rw [h.backlog, h.timeout]
  unfold Pool.expireWaiting
  rw [hsame]
  rcases p.backlog.removeExpired p.timeout now with e | (_ | b)
  · exact .error e
  · exact .ok h
  · exact .ok ((h.withBacklog b).relax now)

theorem expireAllocated (h : Relists p q) (now : Moment) :
    Alike (p.expireAllocated now) (q.expireAllocated now) := by
  have hvalues : p.allocated.values.Perm q.allocated.values := h.allocated.symm.map _
  have hfails : ∀ (s : Session) (e : TimeError),
      (s.expired p.timeout now).map (fun gone => if gone then some s.id else none) = .error e →
        e = .momentOverflow := by
    intro s e hfail
    cases hexpired : s.expired p.timeout now with
    | error e' =>
        rw [hexpired] at hfail
        cases hfail
        exact Session.error_of_expired hexpired
    | ok gone =>
        rw [hexpired] at hfail
        cases hfail
  unfold Pool.expireAllocated Pool.expiredAllocated
  rw [h.timeout]
  rcases filterMapM_perm hvalues hfails with ⟨hp, hq⟩ | ⟨gone, gone', hp, hq, hperm⟩
  · rw [hp, hq]
    exact .error _
  · rw [hp, hq]
    have hgone := h.foldl_release gone'
    rw [← foldl_release_perm hperm p] at hgone
    exact .ok hgone

/-- A sweep does the same whatever the order in which it meets the sessions with agents. -/
theorem sweep (h : Relists p q) (now : Moment) :
    (q.sweep now).fault = (p.sweep now).fault ∧ Relists (p.sweep now).pool (q.sweep now).pool := by
  unfold Pool.sweep
  have hwaiting := h.expireWaiting now
  generalize p.expireWaiting now = left at hwaiting
  generalize q.expireWaiting now = right at hwaiting
  cases hwaiting with
  | error e => exact ⟨rfl, h⟩
  | @ok p' q' hends =>
      have hactive := hends.expireAllocated now
      simp only
      generalize p'.expireAllocated now = left at hactive
      generalize q'.expireAllocated now = right at hactive
      cases hactive with
      | error e => exact ⟨rfl, hends⟩
      | ok hleft => exact ⟨rfl, hleft.drain now⟩

end Relists

end SupportDesk.Pool
