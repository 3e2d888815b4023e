/-
# The course of a drain

A drain of a consistent pool is a sequence of moves, each of which gives the first of the
backlog to the agent that is chosen.  It ends when no slot is free or nobody waits, and the
branch in which a session goes back to the backlog is not taken.  What each move preserves,
the drain preserves.

Of a pool about which nothing is known, a drain preserves what each of its parts does.
-/

import SupportDesk.Proofs.Pool.Consistent

namespace SupportDesk.Pool

/-- One pool is drained to another at a moment by giving the listed sessions, in order, to
the agents of the listed queues. -/
inductive Drains (now : Moment) : Pool → List (Session × Nat) → Pool → Prop
  | full {p : Pool} (hfull : p.allocation.hasOpenSpots now = false) : Drains now p [] p
  | empty {p : Pool} (hempty : p.backlog.order = []) : Drains now p [] p
  | move {p q : Pool} {s : Session} {rest : List SessionId} {i : Nat} {best : AgentQueue}
      {moves : List (Session × Nat)} (hopen : p.allocation.hasOpenSpots now = true)
      (horder : p.backlog.order = s.id :: rest) (hfind : p.backlog.sessions.find? s.id = some s)
      (hchoose : Allocation.choose? now p.allocation.queues = some (i, best))
      (hrest : Drains now (p.handOver s i) moves q) : Drains now p ((s, i) :: moves) q

namespace Drains

variable {now : Moment} {p q : Pool} {moves : List (Session × Nat)}

/-- A drain goes on until no slot is free or nobody waits. -/
theorem settled (h : Drains now p moves q) :
    q.allocation.hasOpenSpots now = false ∨ q.backlog.order = [] := by
  induction h with
  | full hfull => exact .inl hfull
  | empty hempty => exact .inr hempty
  | move _ _ _ _ _ ih => exact ih

theorem consistent (h : Drains now p moves q) (hp : p.Consistent) : q.Consistent := by
  induction h with
  | full => exact hp
  | empty => exact hp
  | move _ horder _ hchoose _ ih => exact ih (hp.handOver horder hchoose)

/-- A property that every move between consistent pools preserves is preserved by a drain. -/
theorem preserves {P : Pool → Prop} (h : Drains now p moves q) (hp : p.Consistent)
    (hmove : ∀ {p : Pool} {s : Session} {rest : List SessionId} {i : Nat} {best : AgentQueue},
      p.Consistent → p.backlog.order = s.id :: rest →
      p.backlog.sessions.find? s.id = some s →
      Allocation.choose? now p.allocation.queues = some (i, best) → P p → P (p.handOver s i))
    (hstart : P p) : P q := by
  induction h with
  | full => exact hstart
  | empty => exact hstart
  | move _ horder hfind hchoose _ ih =>
      exact ih (hp.handOver horder hchoose) (hmove hp horder hfind hchoose hstart)

end Drains

/-- A property that each turn of the loop preserves is preserved by a drain of any pool: where
the first of the order has no session, where it is given to an agent, and where it goes back. -/
theorem drain_preserves_of_turns {P : Pool → Prop} {now : Moment}
    (hskip : ∀ (p : Pool) (b : Backlog), p.backlog.pop = (none, b) → P p →
      P { p with backlog := b })
    (hgive : ∀ (p q : Pool) (s : Session) (b : Backlog), p.backlog.pop = (some s, b) →
      Pool.assign? { p with backlog := b } s now = some q → P p → P q)
    (hback : ∀ (p : Pool) (s : Session) (b : Backlog), p.backlog.pop = (some s, b) → P p →
      P { p with backlog := b.restoreFront s })
    {p : Pool} (h : P p) : P (p.drain now).1 := by
  unfold drain
  generalize p.queueSize = fuel
  induction fuel generalizing p with
  | zero => exact h
  | succ fuel ih =>
      rw [drainUpTo]
      split
      · split
        next b hb => exact hskip p b hb h
        next s b hb =>
          split
          next q hq => exact ih (hgive p q s b hb hq h)
          next => exact hback p s b hb h
      · exact h

/-- A property that taking the first of the backlog, assigning a session and ending the drain
by putting the first back preserve is preserved by a drain of any pool. -/
theorem drain_preserves_of_pop {P : Pool → Prop} {now : Moment}
    (hpop : ∀ p : Pool, P p → P { p with backlog := p.backlog.pop.2 })
    (hassign : ∀ (p q : Pool) (s : Session), p.assign? s now = some q → P p → P q)
    (hback : ∀ (p : Pool) (s : Session) (b : Backlog), p.backlog.pop = (some s, b) → P p →
      P { p with backlog := b.restoreFront s })
    {p : Pool} (h : P p) : P (p.drain now).1 := by
  refine drain_preserves_of_turns ?_ ?_ hback h
  · intro p b hb hp
    simpa only [hb] using hpop p hp
  · intro p q s b hb hq hp
    refine hassign _ q s hq ?_
    simpa only [hb] using hpop p hp

/-- It is enough that putting any session at the head preserves the property. -/
theorem drain_preserves {P : Pool → Prop} {now : Moment}
    (hpop : ∀ p : Pool, P p → P { p with backlog := p.backlog.pop.2 })
    (hassign : ∀ (p q : Pool) (s : Session), p.assign? s now = some q → P p → P q)
    (hrestore : ∀ (p : Pool) (s : Session), P p → P { p with backlog := p.backlog.restoreFront s })
    {p : Pool} (h : P p) : P (p.drain now).1 := by
  apply drain_preserves_of_pop hpop hassign _ h
  intro p s b hb hp
  have hpopped := hpop p hp
  rw [hb] at hpopped
  exact hrestore _ s hpopped

namespace Consistent

variable {p : Pool}

/-- The first of the backlog can be assigned wherever a slot is free. -/
theorem assign?_eq_handOver (h : p.Consistent) {s : Session} {rest : List SessionId}
    {now : Moment} {i : Nat} {best : AgentQueue} (horder : p.backlog.order = s.id :: rest)
    (hchoose : Allocation.choose? now p.allocation.queues = some (i, best)) :
    Pool.assign? { p with backlog := p.backlog.pop.2 } s now = some (p.handOver s i) := by
  obtain ⟨-, -, hout⟩ := h.withPop horder
  exact assign?_eq_some_iff.mpr ⟨hout, h.not_assigned hout, i, best, hchoose, rfl⟩

/-- Enough moves are allowed when there are as many as sessions wait. -/
theorem drains_drainUpTo (h : p.Consistent) (now : Moment) {fuel : Nat}
    (hfuel : p.queueSize ≤ fuel) :
    ∃ moves, Drains now p moves (drainUpTo now fuel p).1 ∧
      (drainUpTo now fuel p).2 = moves.length := by
  induction fuel generalizing p with
  | zero =>
      have hempty : p.backlog.order = [] := List.length_eq_zero_iff.mp (Nat.le_zero.mp hfuel)
      exact ⟨[], .empty hempty, rfl⟩
  | succ fuel ih =>
      rw [drainUpTo]
      split
      next hopen =>
        cases horder : p.backlog.order with
        | nil =>
            have hpop : p.backlog.pop = (none, p.backlog) := by simp [Backlog.pop, horder]
            rw [hpop]
            exact ⟨[], .empty horder, rfl⟩
        | cons id rest =>
            obtain ⟨s, rfl, hfind, hpop⟩ := h.backlog.pop_of_order horder
            obtain ⟨i, best, hchoose⟩ :=
              Allocation.exists_choose? (Allocation.hasOpenSpots_iff.mp hopen)
            have hassign := h.assign?_eq_handOver horder hchoose
            have hsize : (p.handOver s i).queueSize ≤ fuel := by
              simp only [queueSize, Backlog.size, horder, List.length_cons] at hfuel
              simp only [Pool.handOver, queueSize, Backlog.size, hpop]
              omega
            obtain ⟨moves, hdrains, hcount⟩ := ih (h.handOver horder hchoose) hsize
            rw [hpop] at hassign ⊢
            simp only [hassign]
            exact ⟨(s, i) :: moves, .move hopen horder hfind hchoose hdrains, by simp [hcount]⟩
      next hfull => exact ⟨[], .full (by simpa using hfull), rfl⟩

/-- A drain of a consistent pool is a sequence of moves, and counts them. -/
theorem drains (h : p.Consistent) (now : Moment) :
    ∃ moves, Drains now p moves (p.drain now).1 ∧ (p.drain now).2 = moves.length :=
  h.drains_drainUpTo now (Nat.le_refl _)

theorem drain (h : p.Consistent) (now : Moment) : (p.drain now).1.Consistent := by
  obtain ⟨moves, hdrains, -⟩ := h.drains now
  exact hdrains.consistent h

end Consistent

end SupportDesk.Pool
