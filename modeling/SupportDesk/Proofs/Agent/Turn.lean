/-
# Whose turn it is

The search for the next queue compares two queues at a time and keeps the earlier one of a tie.
Seen as a whole it finds the least queue in a single order: by the priority of the agent's level,
then by the number of sessions served, then by the position.  No two queues of an allocation are
equal in this order, so that it determines whose turn it is.

An offer of a session is taken up exactly when the session is assigned to nobody and a slot is
free.  That the queue of the chosen agent does take the session in rests on the agreement of
queues and assignments.
-/

import SupportDesk.Proofs.Agent.Slots
import SupportDesk.Proofs.Pool.Run

namespace SupportDesk

/-- The rank of a queue at a position in the order of dispatch: the priority of the level, then
the number of sessions served, then the position. -/
def AgentQueue.turn (q : AgentQueue) (i : Nat) : ℕ ×ₗ ℕ ×ₗ ℕ :=
  toLex (q.agent.level.priority, toLex (q.size, i))

namespace AgentQueue

variable {q r : AgentQueue} {i j : Nat}

theorem turn_le_iff : q.turn i ≤ r.turn j ↔
    q.agent.level.priority < r.agent.level.priority ∨
      q.agent.level.priority = r.agent.level.priority ∧
        (q.size < r.size ∨ q.size = r.size ∧ i ≤ j) := by
  simp only [turn, Prod.Lex.toLex_le_toLex]

/-- Moving both queues by one position changes nothing. -/
theorem turn_succ_le_iff : q.turn (i + 1) ≤ r.turn (j + 1) ↔ q.turn i ≤ r.turn j := by
  simp only [turn_le_iff, Nat.add_le_add_iff_right]

/-- Behind a queue only one that comes strictly before it is of lower rank. -/
theorem before_iff_turn_lt (h : i < j) : r.before q = true ↔ r.turn j < q.turn i := by
  rw [← not_le, turn_le_iff]
  simp only [before, Bool.or_eq_true, Bool.and_eq_true, decide_eq_true_eq]
  omega

/-- Different positions have different ranks. -/
theorem eq_of_turn_eq (h : q.turn i = r.turn j) : i = j := by
  have hlex := congrArg (fun t => (ofLex (ofLex t).2).2) h
  exact hlex

end AgentQueue

namespace Allocation

/-- The queue at a position comes next: its agent can be given a session, and no other queue that
can take one is of lower rank. -/
structure NextInTurn (now : Moment) (qs : List AgentQueue) (i : Nat) (q : AgentQueue) : Prop where
  at_position : qs[i]? = some q
  canTake : q.canTake now = true
  least : ∀ (j : Nat) (r : AgentQueue), qs[j]? = some r → r.canTake now = true → q.turn i ≤ r.turn j

namespace NextInTurn

variable {now : Moment} {qs : List AgentQueue} {first q r : AgentQueue} {i j : Nat}

/-- One queue comes next. -/
theorem unique (hq : NextInTurn now qs i q) (hr : NextInTurn now qs j r) : i = j ∧ q = r := by
  have hturn : q.turn i = r.turn j :=
    le_antisymm (hq.least j r hr.at_position hr.canTake) (hr.least i q hq.at_position hq.canTake)
  obtain rfl := AgentQueue.eq_of_turn_eq hturn
  exact ⟨rfl, Option.some.inj (hq.at_position.symm.trans hr.at_position)⟩

/-- The queue that comes next comes next behind a further one, if that one cannot take a session
or comes after it. -/
theorem cons (h : NextInTurn now qs i q)
    (hfirst : first.canTake now = true → q.before first = true) :
    NextInTurn now (first :: qs) (i + 1) q := by
  refine ⟨h.at_position, h.canTake, ?_⟩
  intro j r hr htake
  cases j with
  | zero =>
      cases hr
      exact ((AgentQueue.before_iff_turn_lt (Nat.succ_pos i)).mp (hfirst htake)).le
  | succ j => exact AgentQueue.turn_succ_le_iff.mpr (h.least j r hr htake)

/-- A queue comes next in front of others of which none comes before it. -/
theorem head (hfirst : first.canTake now = true)
    (h : ∀ (j : Nat) (r : AgentQueue), qs[j]? = some r → r.canTake now = true →
      first.turn 0 ≤ r.turn (j + 1)) :
    NextInTurn now (first :: qs) 0 first := by
  refine ⟨rfl, hfirst, ?_⟩
  intro j r hr htake
  cases j with
  | zero =>
      cases hr
      exact le_refl _
  | succ j => exact h j r hr htake

end NextInTurn

variable {now : Moment} {qs : List AgentQueue} {i : Nat} {q : AgentQueue}

/-- The search finds the queue that comes next. -/
theorem nextInTurn_of_choose? (h : choose? now qs = some (i, q)) : NextInTurn now qs i q := by
  induction qs generalizing i q with
  | nil => cases h
  | cons first rest ih =>
      rw [choose?] at h
      cases hrest : choose? now rest with
      | none =>
          rw [hrest] at h
          split at h
          next hfirst =>
            cases h
            refine .head hfirst fun j r hr htake => ?_
            have hnone := choose?_eq_none_iff.mp hrest r (List.mem_of_getElem? hr)
            rw [htake] at hnone
            cases hnone
          next => cases h
      | some later =>
          obtain ⟨k, best⟩ := later
          have hbest : NextInTurn now rest k best := ih hrest
          simp only [hrest, Option.map_some] at h
          split at h
          next hfirst =>
            split at h
            next hbefore =>
              cases h
              exact hbest.cons fun _ => hbefore
            next hafter =>
              cases h
              rw [AgentQueue.before_iff_turn_lt (Nat.succ_pos k), not_lt] at hafter
              refine .head hfirst fun j r hr htake => ?_
              exact hafter.trans (AgentQueue.turn_succ_le_iff.mpr (hbest.least j r hr htake))
          next hfirst =>
            cases h
            exact hbest.cons fun htake => absurd htake hfirst

/-- The search finds a queue exactly if it comes next. -/
theorem choose?_eq_some_iff : choose? now qs = some (i, q) ↔ NextInTurn now qs i q := by
  constructor
  · exact nextInTurn_of_choose?
  · intro h
    obtain ⟨j, r, hchoose⟩ := exists_choose? ⟨q, List.mem_of_getElem? h.at_position, h.canTake⟩
    obtain ⟨rfl, rfl⟩ := h.unique (nextInTurn_of_choose? hchoose)
    exact hchoose

/-! ## Offers -/

/-- What an offer of a session leaves.  One that is refused leaves everything as it was. -/
def offer (a : Allocation) (s : Session) (now : Moment) : Allocation := (a.allocate? s now).getD a

/-- One allocation comes from another by a session that the agent at a position is given, and
differs from it in nothing else. -/
structure Gains (s : Session) (i : Nat) (a b : Allocation) : Prop where
  concurrency : b.concurrency = a.concurrency
  queue : ∃ q, a.queues[i]? = some q ∧ q.contains s.id = false ∧
    b.queues[i]? = some { q with sessions := q.sessions.insert s.id s }
  others : ∀ j ≠ i, b.queues[j]? = a.queues[j]?
  assignments : ∀ id, b.assignments.find? id = if id = s.id then some i else a.assignments.find? id

variable {a b : Allocation} {s : Session}

/-- Where queues and assignments agree, a session that nobody has is taken in where it is put. -/
theorem Consistent.gains_place (h : a.Consistent) (hnew : a.assignments.contains s.id = false)
    (hq : a.queues[i]? = some q) (hroom : q.hasOpenSpots = true) : Gains s i a (a.place s i) := by
  have hout : q.contains s.id = false := h.not_contains hnew hq
  refine ⟨rfl, ⟨q, hq, hout, ?_⟩, ?_, ?_⟩
  · rw [Allocation.place, List.getElem?_modify_eq, hq, ← AgentQueue.add_eq_of_room hout hroom]
    rfl
  · intro j hj
    exact List.getElem?_modify_ne _ _ hj.symm
  · exact SessionTable.find?_insert a.assignments s.id i

/-- A session is taken exactly if nobody has it and a slot is free. -/
theorem isSome_allocate?_iff : (a.allocate? s now).isSome = true ↔
    a.assignments.contains s.id = false ∧ a.hasOpenSpots now = true := by
  rw [hasOpenSpots_iff, Option.isSome_iff_exists]
  simp only [allocate?_eq_some_iff]
  constructor
  · rintro ⟨b, hnew, i, best, hchoose, -⟩
    obtain ⟨hi, htake⟩ := getElem?_of_choose? hchoose
    exact ⟨hnew, best, List.mem_of_getElem? hi, htake⟩
  · rintro ⟨hnew, htake⟩
    obtain ⟨i, best, hchoose⟩ := exists_choose? htake
    exact ⟨_, hnew, i, best, hchoose, rfl⟩

/-- Dispatch picks the right agent or changes nothing.  However an allocation has evolved, and
whatever the session and the moment, an offer is taken up exactly if the session is assigned to
nobody and a slot is free.  Then the agent whose turn it is gains the session, the record says so,
and nothing else changes; the queue of this agent is one longer.  A refused offer changes nothing
at all.  With fewer than two to the power of 24 agents the sum that tells whether a slot is free
does not leave 64 bits. -/
theorem offer_goes_to_next_in_turn {settings : PoolSettings} {a : Allocation}
    (h : Evolves (.ofSettings settings) a) (s : Session) (now : Moment) :
    let taken := (a.allocate? s now).isSome
    let b := a.offer s now
    (taken = true ↔ a.assignments.contains s.id = false ∧ a.hasOpenSpots now = true) ∧
    (taken = true → ∃ i q r, NextInTurn now a.queues i q ∧ Gains s i a b ∧
      b.queues[i]? = some r ∧ r.size = q.size + 1) ∧
    (taken = false → b = a) ∧
    ((roster settings).length < 2 ^ 24 → a.openSpots now < 2 ^ 64) := by
  intro taken b
  refine ⟨isSome_allocate?_iff, ?_, ?_, ?_⟩
  · intro htaken
    obtain ⟨c, hc⟩ := Option.isSome_iff_exists.mp htaken
    obtain ⟨hnew, i, q, hchoose, rfl⟩ := allocate?_eq_some_iff.mp hc
    have hnext : NextInTurn now a.queues i q := nextInTurn_of_choose? hchoose
    have hroom : q.hasOpenSpots = true := (Bool.and_eq_true_iff.mp hnext.canTake).2
    have hgains : Gains s i a (a.place s i) :=
      (h.consistent (consistent_ofSettings settings)).gains_place hnew hnext.at_position hroom
    have hb : b = a.place s i := by rw [show b = (a.allocate? s now).getD a from rfl, hc]; rfl
    obtain ⟨q', hq', hout, hgrown⟩ := hgains.queue
    obtain rfl : q' = q := Option.some.inj (hq'.symm.trans hnext.at_position)
    rw [hb]
    exact ⟨i, q', _, hnext, hgains, hgrown, SessionTable.size_insert_of_not_contains hout s⟩
  · intro hrefused
    have hnone : a.allocate? s now = none := by simpa [taken] using hrefused
    rw [show b = (a.allocate? s now).getD a from rfl, hnone]
    rfl
  · intro hroster
    exact ((withinSlots_of_evolves h).sums_lt (h.length_queues ▸ hroster) now).2

open Pool (smallDesk sampleHour) in
/-- With two juniors and a middle agent on shift the second session goes to the second junior, who
has none yet.  The first session cannot be assigned again. -/
theorem offer_goes_to_next_in_turn_three_agents :
    let desk : PoolSettings := { smallDesk with
      concurrency := 5
      regular := [.ofShift 10 (.onTheHour 7) (.ofHours 8) .middle "Team 1",
        .ofShift 11 (.onTheHour 7) (.ofHours 8) .junior "Team 1",
        .ofShift 12 (.onTheHour 7) (.ofHours 8) .junior "Team 2"] }
    let now := sampleHour 10
    let first : Session := .start (.ofNat 0) now
    let second : Session := .start (.ofNat 1) now
    let a := (ofSettings desk).offer first now
    Evolves (.ofSettings desk) a ∧
      (∃ q r, NextInTurn now a.queues 2 q ∧ Gains second 2 a (a.offer second now) ∧
        (a.offer second now).queues[2]? = some r ∧ r.size = q.size + 1) ∧
      a.offer first now = a ∧ (roster desk).length < 2 ^ 24 ∧ a.openSpots now < 2 ^ 64 := by
  intro desk now first second a
  have hstep : (ofSettings desk).allocate? first now = some a := by decide +kernel
  have hevolves : Evolves (.ofSettings desk) a := .of_step (.allocate hstep)
  have hroster : (roster desk).length < 2 ^ 24 := by decide +kernel
  obtain ⟨-, htaken, -, hfits⟩ := offer_goes_to_next_in_turn hevolves second now
  obtain ⟨-, -, hrefused, -⟩ := offer_goes_to_next_in_turn hevolves first now
  obtain ⟨i, q, r, hnext, hgains, hr, hsize⟩ := htaken (by decide +kernel)
  have hchoose : (choose? now a.queues).map Prod.fst = some 2 := by decide +kernel
  rw [choose?_eq_some_iff.mpr hnext] at hchoose
  obtain rfl : i = 2 := Option.some.inj hchoose
  exact ⟨hevolves, ⟨q, r, hnext, hgains, hr, hsize⟩, hrefused (by decide +kernel), hroster,
    hfits hroster⟩

end Allocation

end SupportDesk
