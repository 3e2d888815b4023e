/-
# When additional agents open and close

An admission opens the next additional agent if the backlog is then as long as the maximum.
Ending a waiting session, and a sweep that ends one, close all additional agents if the backlog
is then below the capacity.  A change of shift does the one or the other.  The length that
counts is the one before the drain, with which each of these operations ends, and nothing else
opens or closes an agent.

Nothing is assumed here about the pool.
-/

import SupportDesk.Proofs.Agent.Opening
import SupportDesk.Proofs.Pool.Ledger

namespace SupportDesk.Pool

open Allocation (Reacts)

/-! ## What is to be expected -/

/-- The waiting sessions that a sweep ends: none where the calendar does not reach a deadline. -/
def lapsing (p : Pool) (now : Moment) : List SessionId :=
  if p.backlog.deadlinesInCalendar p.timeout then
    p.backlog.order.filter (p.backlog.hasLapsed p.timeout now)
  else []

/-- The time of a session with an agent has lapsed. -/
def ServedLapsed (p : Pool) (now : Moment) (id : SessionId) : Prop :=
  ∃ s ∈ p.allocated.values, s.id = id ∧ lapsed p.timeout now s.lastTouchedAt = true

/-- The reaction to a backlog that has become shorter. -/
def relaxation (p : Pool) (now : Moment) : Reaction :=
  if p.queueSize < p.capacity now then .closeAll else .keep

/-- The reaction to a sweep: it has made the backlog shorter if it has ended a waiting session. -/
def sweepReaction (p : Pool) (now : Moment) : Reaction :=
  if p.lapsing now = [] then .keep else (p.dismiss (p.lapsing now)).relaxation now

namespace Situation

/-- How an event reacts on the additional agents.  Lengths of the backlog are taken after the
new session is in it, or the ended ones are out of it, and before it is drained. -/
def reaction (s : Situation) : Event → Reaction
  | .create id =>
    if s.grants (.create id) = true ∧ s.pool.maximumQueueSize s.now ≤ s.pool.queueSize + 1 then
      .openNext
    else .keep
  | .destroy id =>
    if s.pool.backlog.contains id then (s.pool.dismiss [id]).relaxation s.now else .keep
  | .sweep => s.pool.sweepReaction s.now
  | .shiftChanged =>
    if s.pool.maximumQueueSize s.now ≤ s.pool.queueSize then .openNext
    else s.pool.relaxation s.now
  | .prolong _ | .drain | .allocate _ | .setClock _ => .keep

/-- An event ends a session that is with an agent. -/
def EndsServed (s : Situation) (e : Event) (id : SessionId) : Prop :=
  e = .destroy id ∨ e = .sweep ∧ s.pool.ServedLapsed s.now id

end Situation

/-! ## The operations -/

variable {p q : Pool} {ended : SessionId → Prop}

theorem reacts_openAdditional (p : Pool) (now : Moment) :
    Reacts now .openNext ended p.allocation (p.openAdditional now).allocation := by
  unfold openAdditional
  split
  next a ha => exact Allocation.reacts_openAdditional ha ended
  next hnone => exact Allocation.reacts_of_openAdditional?_eq_none hnone ended

theorem reacts_relax (p : Pool) (now : Moment) :
    Reacts now (p.relaxation now) ended p.allocation (p.relax now).allocation := by
  unfold relaxation relax
  split
  · exact Allocation.reacts_closeAdditional p.allocation now ended
  · exact .refl _

theorem reacts_assign {s : Session} {now : Moment} (hq : p.assign? s now = some q) :
    Reacts now .keep ended p.allocation q.allocation := by
  obtain ⟨-, hnew, i, best, -, rfl⟩ := assign?_eq_some_iff.mp hq
  exact Allocation.reacts_place hnew i now ended

theorem reacts_drain (p : Pool) (now : Moment) :
    Reacts now .keep ended p.allocation (p.drain now).1.allocation := by
  refine drain_preserves (P := fun q => Reacts now .keep ended p.allocation q.allocation)
    (fun q hq => hq) ?_ (fun q s hq => hq) (.refl _)
  intro q r s hr hq
  exact hq.trans (reacts_assign hr)

theorem reacts_release (p : Pool) (id : SessionId) (now : Moment) :
    Reacts now .keep (· = id) p.allocation (p.release id).allocation := by
  cases hi : p.allocation.assignments.find? id with
  | none =>
      rw [release_of_unassigned hi]
      exact .refl _
  | some i =>
      rw [release_of_assigned hi]
      exact Allocation.reacts_vacate p.allocation id i now

theorem reacts_foldl_release (p : Pool) (ids : List SessionId) (now : Moment) :
    Reacts now .keep (· ∈ ids) p.allocation (ids.foldl release p).allocation := by
  induction ids generalizing p with
  | nil => exact .refl _
  | cons id ids ih =>
      have hfirst : Reacts now .keep (· ∈ id :: ids) p.allocation (p.release id).allocation :=
        (reacts_release p id now).mono fun _ hk => hk ▸ List.mem_cons_self
      exact hfirst.trans ((ih (p.release id)).mono fun _ => List.mem_cons_of_mem id)

theorem reacts_create {id : SessionId} {now : Moment} (hq : p.create? id now = some q) :
    Reacts now (if p.maximumQueueSize now ≤ p.queueSize + 1 then .openNext else .keep) ended
      p.allocation q.allocation := by
  obtain ⟨-, rfl⟩ := create?_eq_some_iff.mp hq
  refine Reacts.trans ?_ (reacts_drain _ now)
  unfold takeIn
  split
  · exact reacts_openAdditional (p.withNew id now) now
  · exact .refl _

theorem reacts_prolong {id : SessionId} {now : Moment} (hq : p.prolong? id now = some q) :
    Reacts now .keep ended p.allocation q.allocation := by
  rcases prolong?_eq_some_iff.mp hq with ⟨-, rfl⟩ | ⟨-, -, rfl⟩ <;> exact .refl _

theorem reacts_destroy (p : Pool) (id : SessionId) (now : Moment) :
    Reacts now (if p.backlog.contains id then (p.dismiss [id]).relaxation now else .keep) (· = id)
      p.allocation (p.destroy id now).1.allocation := by
  split
  next hwaits =>
    rw [destroy_of_waiting now hwaits]
    exact reacts_relax (p.dismiss [id]) now
  next hwaits =>
    rw [destroy_fst_of_not_waiting now (by simpa using hwaits)]
    split
    · exact reacts_release p id now
    · exact .refl _

theorem reacts_expireWaiting {now : Moment} (hq : p.expireWaiting now = .ok q) :
    Reacts now (p.sweepReaction now) ended p.allocation q.allocation := by
  obtain ⟨gone, hgone, rfl⟩ := expireWaiting_eq_ok_iff.mp hq
  obtain ⟨hreach, hfound⟩ := Backlog.expired_eq_ok_iff.mp hgone
  have hlapsing : p.lapsing now = gone := by rw [lapsing, if_pos hreach, hfound]
  rw [sweepReaction, hlapsing]
  split
  · exact .refl _
  · exact reacts_relax (p.dismiss gone) now

theorem reacts_expireAllocated {now : Moment} (hq : p.expireAllocated now = .ok q) :
    Reacts now .keep (p.ServedLapsed now) p.allocation q.allocation := by
  obtain ⟨gone, hgone, rfl⟩ := expireAllocated_eq_ok_iff.mp hq
  refine (reacts_foldl_release p gone now).mono ?_
  intro id hid
  obtain ⟨s, hs, hfound⟩ := exists_of_mem_filterMapM hgone hid
  cases hexpired : s.expired p.timeout now with
  | error e => simp [hexpired, Except.map] at hfound
  | ok answer =>
      simp only [hexpired, Except.map, Except.ok.injEq, Option.ite_none_right_eq_some,
        Option.some.injEq] at hfound
      obtain ⟨rfl, rfl⟩ := hfound
      obtain ⟨-, hlapsed⟩ := Session.expired_eq_ok_iff.mp hexpired
      exact ⟨s, hs, rfl, hlapsed.symm⟩

theorem reacts_sweep (p : Pool) (now : Moment) :
    Reacts now (p.sweepReaction now) (p.ServedLapsed now) p.allocation
      (p.sweep now).pool.allocation := by
  generalize hq : (p.sweep now).pool = q
  cases hq ▸ p.sweeps_sweep now with
  | @refused e hwaiting =>
      have hreach : ¬ p.backlog.deadlinesInCalendar p.timeout = true := by
        intro hreach
        have hfound : p.backlog.expired p.timeout now = .ok _ :=
          Backlog.expired_eq_ok_iff.mpr ⟨hreach, rfl⟩
        have hok := expireWaiting_eq_ok_iff.mpr ⟨_, hfound, rfl⟩
        rw [hwaiting] at hok
        cases hok
      rw [sweepReaction, lapsing, if_neg hreach, if_pos rfl]
      exact .refl _
  | halfway hwaiting => exact reacts_expireWaiting hwaiting
  | @whole q r hwaiting hactive =>
      obtain ⟨hallocated, htimeout⟩ := expireWaiting_frame hwaiting
      have hended : ∀ id, q.ServedLapsed now id → p.ServedLapsed now id := by
        rintro id ⟨s, hs, hid, hlapsed⟩
        exact ⟨s, hallocated ▸ hs, hid, htimeout ▸ hlapsed⟩
      have hboth := (reacts_expireWaiting hwaiting).trans
        ((reacts_expireAllocated hactive).mono hended)
      exact hboth.trans (reacts_drain r now)

theorem reacts_shiftChanged (p : Pool) (now : Moment) :
    Reacts now (if p.maximumQueueSize now ≤ p.queueSize then .openNext else p.relaxation now)
      ended p.allocation (p.shiftChanged now).allocation := by
  rw [shiftChanged_eq]
  refine Reacts.trans ?_ (reacts_drain _ now)
  unfold adjust
  split
  · exact reacts_openAdditional p now
  · exact reacts_relax p now

namespace Situation

theorem reacts_step (s : Situation) (e : Event) :
    Reacts s.now (s.reaction e) (s.EndsServed e) s.pool.allocation
      (s.step e).pool.allocation := by
  cases e with
  | create id =>
      cases hq : s.pool.create? id s.now with
      | none => simpa [step, reaction, grants, hq] using Reacts.refl s.pool.allocation
      | some q => simpa [step, reaction, grants, hq] using reacts_create hq
  | prolong id =>
      cases hq : s.pool.prolong? id s.now with
      | none => simpa [step, reaction, hq] using Reacts.refl s.pool.allocation
      | some q => simpa [step, reaction, hq] using reacts_prolong hq
  | destroy id =>
      refine (reacts_destroy s.pool id s.now).mono ?_
      rintro k rfl
      exact .inl rfl
  | allocate a =>
      cases hq : s.pool.allocate? a s.now with
      | none => simpa [step, reaction, hq] using Reacts.refl s.pool.allocation
      | some q =>
          simpa [step, reaction, hq] using reacts_assign (allocate?_eq_some_iff.mp hq).2
  | sweep => exact (reacts_sweep s.pool s.now).mono fun id hid => .inr ⟨rfl, hid⟩
  | drain => exact reacts_drain s.pool s.now
  | shiftChanged => exact reacts_shiftChanged s.pool s.now
  | setClock now => exact .refl s.pool.allocation

end Situation

/-- Additional agents open and close exactly when they should.  Whatever the pool and the moment,
an event changes the agents, among whom only flags of additional ones can change, by its
reaction and by nothing else.  Each agent stays in its place of the roster: the next in turn is
open after an event that opens one, every additional agent is closed after an event that closes
them, and every other agent keeps its flag.  A session that an agent has stays in its queue, and
assigned to it, unless the event ends this session: opening and closing neither moves nor drops
it. -/
theorem agents_follow_reaction (s : Situation) (e : Event) :
    (s.step e).pool.allocation.agents = (s.reaction e).act s.now s.pool.allocation.agents ∧
      (s.step e).pool.allocation.agents.length = s.pool.allocation.agents.length ∧
      (∀ i a, s.pool.allocation.agents[i]? = some a →
        ∃ b, (s.step e).pool.allocation.agents[i]? = some b ∧ b.id = a.id ∧
          (s.reaction e).SetsFlag s.now s.pool.allocation.agents i a.openToChat? b.openToChat?) ∧
      ∀ id i,
        (s.pool.allocation.Holds i id →
          (s.step e).pool.allocation.Holds i id ∨ s.EndsServed e id) ∧
        (s.pool.allocation.assignments.find? id = some i →
          (s.step e).pool.allocation.assignments.find? id = some i ∨ s.EndsServed e id) := by
  have h := s.reacts_step e
  refine ⟨h.agents, ?_, ?_, fun id i => ⟨?_, ?_⟩⟩
  · rw [h.agents]
    exact (s.reaction e).length_act _
  · intro i a ha
    rw [h.agents]
    exact (s.reaction e).setsFlag_act ha
  · intro hholds
    exact h.holds i id hholds
  · intro hassigned
    exact h.assigned i id hassigned

/-- At the small desk the first session opens the first additional agent and leaves the second
closed.  Once four sessions were created both are open, and ending the only one that waits closes
them. -/
theorem agents_follow_reaction_smallDesk :
    let start := Situation.start smallDesk (sampleHour 10)
    let full := start.run
      [.create (.ofNat 0), .create (.ofNat 1), .create (.ofNat 2), .create (.ofNat 3)]
    let flag (s : Situation) (i : Nat) := s.pool.allocation.agents[i]?.bind Agent.openToChat?
    (flag start 1 = some false ∧ flag start 2 = some false) ∧
      (flag (start.step (.create (.ofNat 0))) 1 = some true ∧
        flag (start.step (.create (.ofNat 0))) 2 = some false) ∧
      (flag full 1 = some true ∧ flag full 2 = some true) ∧
      flag (full.step (.destroy (.ofNat 3))) 1 = some false ∧
        flag (full.step (.destroy (.ofNat 3))) 2 = some false := by
  intro start full flag
  have hopen : flag full 1 = some true ∧ flag full 2 = some true := by decide +kernel
  refine ⟨⟨rfl, rfl⟩, ?_, hopen, ?_⟩
  · have hreaction : start.reaction (.create (.ofNat 0)) = .openNext := by decide +kernel
    obtain ⟨-, -, hflags, -⟩ := agents_follow_reaction start (.create (.ofNat 0))
    rw [hreaction] at hflags
    obtain ⟨first, hfirst, -, hopened, -⟩ := hflags 1 _ rfl
    obtain ⟨second, hsecond, -, -, hkept⟩ := hflags 2 _ rfl
    have hturn : Reaction.IsNext start.now start.pool.allocation.agents 1 :=
      ⟨⟨_, rfl, by decide +kernel⟩, by decide +kernel⟩
    have hlater : ¬ Reaction.IsNext start.now start.pool.allocation.agents 2 := fun hnext =>
      hnext.2 _ (List.mem_cons_of_mem _ List.mem_cons_self) (by decide +kernel)
    exact ⟨Option.bind_eq_some_iff.mpr ⟨first, hfirst, hopened hturn⟩,
      Option.bind_eq_some_iff.mpr ⟨second, hsecond, hkept hlater⟩⟩
  · have hreaction : full.reaction (.destroy (.ofNat 3)) = .closeAll := by decide +kernel
    clear_value full
    obtain ⟨-, -, hflags, -⟩ := agents_follow_reaction full (.destroy (.ofNat 3))
    rw [hreaction] at hflags
    obtain ⟨first, hfirst, hfirstOpen⟩ := Option.bind_eq_some_iff.mp hopen.1
    obtain ⟨second, hsecond, hsecondOpen⟩ := Option.bind_eq_some_iff.mp hopen.2
    obtain ⟨firstAfter, hfirstAfter, -, hfirstClosed⟩ := hflags 1 first hfirst
    obtain ⟨secondAfter, hsecondAfter, -, hsecondClosed⟩ := hflags 2 second hsecond
    rw [hfirstOpen] at hfirstClosed
    rw [hsecondOpen] at hsecondClosed
    exact ⟨Option.bind_eq_some_iff.mpr ⟨firstAfter, hfirstAfter, hfirstClosed⟩,
      Option.bind_eq_some_iff.mpr ⟨secondAfter, hsecondAfter, hsecondClosed⟩⟩

/-- Ending the only session that waits at the small desk closes both additional agents. -/
example :
    let s := (Situation.start smallDesk (sampleHour 10)).run
      [.create (.ofNat 0), .create (.ofNat 1), .create (.ofNat 2), .create (.ofNat 3)]
    s.reaction (.destroy (.ofNat 3)) = .closeAll ∧ s.reaction (.destroy (.ofNat 2)) = .keep := by
  decide +kernel

end SupportDesk.Pool
