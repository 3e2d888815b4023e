/-
# One place for every session

A pool is consistent when its backlog and its allocation are, the sessions recorded with
agents are those that the allocation has assigned, and none of them waits in the backlog.
The parts of the pool's operations are shown here to preserve this, whatever the moment.
-/

import SupportDesk.Proofs.Agent.Allocation
import SupportDesk.Proofs.Session.Backlog
import SupportDesk.Pool.Basic

namespace SupportDesk.Pool

/-- Every session of the pool is in exactly one place. -/
structure Consistent (p : Pool) : Prop where
  backlog : p.backlog.Consistent
  allocation : p.allocation.Consistent
  distinct : p.allocated.Distinct
  keyed : p.allocated.Keyed
  allocated_iff : ∀ id, p.allocated.contains id = true ↔
    p.allocation.assignments.contains id = true
  disjoint : ∀ id, p.backlog.contains id = true → p.allocated.contains id = false

/-- The pool with a session at the head of the backlog given to the agent of a queue. -/
def handOver (p : Pool) (s : Session) (i : Nat) : Pool :=
  { p with
    backlog := p.backlog.pop.2
    allocation := p.allocation.place s i
    allocated := p.allocated.insert s.id s }

/-- The pool with another limit of the backlog. -/
def withLimit (p : Pool) (limit : Nat) : Pool :=
  { p with backlog := { p.backlog with limit := limit } }

theorem consistent_ofSettings (settings : PoolSettings) (now : Moment) :
    (ofSettings settings now).Consistent where
  backlog := Backlog.consistent_ofLimit _
  allocation := Allocation.consistent_ofSettings settings
  distinct := SessionTable.distinct_empty
  keyed := SessionTable.keyed_empty
  allocated_iff _ := Iff.rfl
  disjoint _ _ := rfl

/-- An allocated session is recorded under its identifier with the queue that was chosen. -/
theorem assign?_eq_some_iff {p q : Pool} {s : Session} {now : Moment} :
    p.assign? s now = some q ↔ p.allocated.contains s.id = false ∧
      p.allocation.assignments.contains s.id = false ∧
        ∃ i best, Allocation.choose? now p.allocation.queues = some (i, best) ∧
          q = { p with
            allocation := p.allocation.place s i, allocated := p.allocated.insert s.id s } := by
  unfold assign?
  split
  next hin => simp [hin]
  next hout =>
    simp only [hout, Option.map_eq_some_iff, Allocation.allocate?_eq_some_iff, true_and]
    constructor
    · rintro ⟨c, ⟨hnew, i, best, hi, rfl⟩, rfl⟩
      exact ⟨hnew, i, best, hi, rfl⟩
    · rintro ⟨hnew, i, best, hi, rfl⟩
      exact ⟨_, ⟨hnew, i, best, hi, rfl⟩, rfl⟩

/-- A session that is assigned leaves the backlog as it is. -/
theorem backlog_assign {p q : Pool} {s : Session} {now : Moment} (h : p.assign? s now = some q) :
    q.backlog = p.backlog := by
  obtain ⟨-, -, i, best, -, rfl⟩ := assign?_eq_some_iff.mp h
  rfl

theorem release_of_assigned {p : Pool} {id : SessionId} {i : Nat}
    (hi : p.allocation.assignments.find? id = some i) :
    p.release id = { p with
      allocation := p.allocation.vacate id i, allocated := p.allocated.erase id } := by
  simp only [release, Allocation.release?, hi, Option.map_some, Allocation.vacate]

theorem release_of_unassigned {p : Pool} {id : SessionId}
    (hi : p.allocation.assignments.find? id = none) :
    p.release id = { p with allocated := p.allocated.erase id } := by
  simp only [release, Allocation.release?, hi, Option.map_none]

namespace Consistent

variable {p q : Pool}

/-- A session of the pool that is not with an agent is not assigned. -/
theorem not_assigned (h : p.Consistent) {id : SessionId}
    (hnew : p.allocated.contains id = false) :
    p.allocation.assignments.contains id = false := by
  rw [Bool.eq_false_iff] at hnew ⊢
  exact fun hin => hnew ((h.allocated_iff id).mpr hin)

/-- A change of the backlog that admits nobody keeps the pool consistent. -/
theorem withBacklog (h : p.Consistent) {b : Backlog} (hb : b.Consistent)
    (hsub : ∀ id, b.contains id = true → p.backlog.contains id = true) :
    Consistent { p with backlog := b } :=
  { h with backlog := hb, disjoint := fun id hid => h.disjoint id (hsub id hid) }

/-- The limit of the backlog plays no part. -/
theorem withLimit (h : p.Consistent) (limit : Nat) : (p.withLimit limit).Consistent :=
  h.withBacklog (h.backlog.withLimit limit) fun _ hid => hid

/-- A change of the agents that leaves the assignments keeps the pool consistent. -/
theorem withAllocation (h : p.Consistent) {a : Allocation} (ha : a.Consistent)
    (hassign : a.assignments = p.allocation.assignments) :
    Consistent { p with allocation := a } :=
  { h with allocation := ha, allocated_iff := fun id => by rw [hassign]; exact h.allocated_iff id }

theorem openAdditional (h : p.Consistent) (now : Moment) : (p.openAdditional now).Consistent := by
  unfold Pool.openAdditional
  split
  next a ha =>
    refine h.withAllocation (h.allocation.openAdditional ha) ?_
    obtain ⟨i, -, rfl⟩ := Option.map_eq_some_iff.mp ha
    rfl
  next => exact h

theorem closeAdditional (h : p.Consistent) : p.closeAdditional.Consistent :=
  h.withAllocation h.allocation.closeAdditional rfl

theorem relax (h : p.Consistent) (now : Moment) : (p.relax now).Consistent := by
  unfold Pool.relax
  split
  · exact h.closeAdditional
  · exact h

/-- Giving the agent of a free slot a session that is nowhere in the pool. -/
theorem assign (h : p.Consistent) {s : Session} {now : Moment}
    (hnew : p.backlog.contains s.id = false) (hq : p.assign? s now = some q) :
    q.Consistent := by
  obtain ⟨hout, hunassigned, i, best, hchoose, rfl⟩ := assign?_eq_some_iff.mp hq
  obtain ⟨hi, htake⟩ := Allocation.getElem?_of_choose? hchoose
  have hroom : best.hasOpenSpots = true := (Bool.and_eq_true_iff.mp htake).2
  refine ⟨h.backlog, h.allocation.place hunassigned hi hroom, h.distinct.insert _ _,
    h.keyed.insert s, ?_, ?_⟩
  · intro id
    simp only [Allocation.place, SessionTable.contains_insert, Bool.or_eq_true, h.allocated_iff]
  · intro id hid
    have hne : id ≠ s.id := by
      rintro rfl
      exact absurd hid (by simp [hnew])
    simp [SessionTable.contains_insert, hne, h.disjoint id hid]

/-- The first of the backlog is nowhere in what is left. -/
theorem withPop (h : p.Consistent) {id : SessionId} {rest : List SessionId}
    (ho : p.backlog.order = id :: rest) :
    Consistent { p with backlog := p.backlog.pop.2 } ∧
      p.backlog.pop.2.contains id = false ∧ p.allocated.contains id = false := by
  obtain ⟨s, -, -, hpop⟩ := h.backlog.pop_of_order ho
  have hin : p.backlog.contains id = true := by
    rw [← h.backlog.mem_order, ho]
    exact List.mem_cons_self
  refine ⟨h.withBacklog h.backlog.pop ?_, ?_, h.disjoint id hin⟩
  · intro k hk
    simp only [hpop, Backlog.contains, SessionTable.contains_erase, Bool.and_eq_true] at hk
    exact hk.2
  · simp [hpop, Backlog.contains, SessionTable.contains_erase]

/-- Giving the first of the backlog to the agent that is chosen. -/
theorem handOver (h : p.Consistent) {s : Session} {rest : List SessionId} {now : Moment}
    {i : Nat} {best : AgentQueue} (ho : p.backlog.order = s.id :: rest)
    (hchoose : Allocation.choose? now p.allocation.queues = some (i, best)) :
    (p.handOver s i).Consistent := by
  obtain ⟨hpop, hgone, hout⟩ := h.withPop ho
  exact hpop.assign hgone
    (assign?_eq_some_iff.mpr ⟨hout, h.not_assigned hout, i, best, hchoose, rfl⟩)

/-- Taking a session from its agent, whether or not it has one. -/
theorem release (h : p.Consistent) (id : SessionId) : (p.release id).Consistent := by
  have hdisjoint (k : SessionId) (hk : p.backlog.contains k = true) :
      (p.allocated.erase id).contains k = false := by
    simp [SessionTable.contains_erase, h.disjoint k hk]
  cases hi : p.allocation.assignments.find? id with
  | none =>
      -- Nobody had the session, so that removing the record changes no look-up.
      rw [release_of_unassigned hi]
      have hunassigned := SessionTable.find?_eq_none_iff.mp hi
      refine ⟨h.backlog, h.allocation, h.distinct.erase id, h.keyed.erase id, ?_, hdisjoint⟩
      intro k
      by_cases hk : k = id
      · subst hk
        simp [SessionTable.contains_erase, hunassigned]
      · simp [SessionTable.contains_erase, hk, h.allocated_iff]
  | some i =>
      rw [release_of_assigned hi]
      refine ⟨h.backlog, h.allocation.vacate hi, h.distinct.erase id, h.keyed.erase id, ?_,
        hdisjoint⟩
      intro k
      simp only [Allocation.vacate, SessionTable.contains_erase, Bool.and_eq_true,
        h.allocated_iff]

/-- Taking any sessions from their agents. -/
theorem foldl_release (h : p.Consistent) (ids : List SessionId) :
    (ids.foldl Pool.release p).Consistent := by
  induction ids generalizing p with
  | nil => exact h
  | cons id ids ih => exact ih (h.release id)

end Consistent

end SupportDesk.Pool
