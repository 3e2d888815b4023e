/-
# Batches

Sessions that arrive at one moment are dealt out one after another, each to the agent whose turn
it is.  Every session that is dealt out takes one free slot, so that a batch is served up to the
number of the free slots and no further.

The balance between agents rests on one fact about a whole deal.  The last session that an agent
received came to it in its turn.  Any other agent that still has a free slot afterwards had one
then, with no more sessions than it has now, and was not first.  Nothing is assumed about how
even the loads are at the beginning.
-/

import SupportDesk.Proofs.Agent.Turn

namespace SupportDesk

/-! ## Sums -/

section

variable {α : Type} {f : α → Nat} {xs : List α}

/-- A sum over some members is one over all of them, in which the others count nothing. -/
theorem sum_map_filter (f : α → Nat) (p : α → Bool) (xs : List α) :
    ((xs.filter p).map f).sum = (xs.map fun x => if p x then f x else 0).sum := by
  induction xs with
  | nil => rfl
  | cons x xs ih => by_cases hx : p x = true <;> simp [hx, ih]

/-- A change of one member changes the sum by as much. -/
theorem sum_map_modify {g : α → α} {i : Nat} {x : α} (hx : xs[i]? = some x)
    (h : f (g x) + 1 = f x) : ((xs.modify i g).map f).sum + 1 = (xs.map f).sum := by
  induction xs generalizing i with
  | nil => cases hx
  | cons y ys ih =>
      cases i with
      | zero =>
          cases hx
          simp only [List.modify_zero_cons, List.map_cons, List.sum_cons]
          omega
      | succ i =>
          have hrest := ih hx
          simp only [List.modify_succ_cons, List.map_cons, List.sum_cons]
          omega

end

/-! ## Queues that grow -/

namespace AgentQueue

/-- One queue comes from another by sessions that join it. -/
structure Grows (q r : AgentQueue) : Prop where
  agent : r.agent = q.agent
  maxSlots : r.maxSlots = q.maxSlots
  size_le : q.size ≤ r.size
  kept : ∀ id s, q.sessions.find? id = some s → r.sessions.find? id = some s

namespace Grows

variable {q r t : AgentQueue} {now : Moment}

theorem refl (q : AgentQueue) : q.Grows q := ⟨rfl, rfl, Nat.le_refl _, fun _ _ h => h⟩

theorem trans (hqr : q.Grows r) (hrt : r.Grows t) : q.Grows t where
  agent := hrt.agent.trans hqr.agent
  maxSlots := hrt.maxSlots.trans hqr.maxSlots
  size_le := hqr.size_le.trans hrt.size_le
  kept id s h := hrt.kept id s (hqr.kept id s h)

/-- Where a slot is left, one was free before. -/
theorem canTake (h : q.Grows r) (htake : r.canTake now = true) : q.canTake now = true := by
  have hsize := h.size_le
  simp only [AgentQueue.canTake, hasOpenSpots, Bool.and_eq_true, decide_eq_true_eq, h.agent,
    h.maxSlots] at htake ⊢
  exact ⟨htake.1, by omega⟩

/-- With more sessions the turn comes later. -/
theorem turn_le (h : q.Grows r) (i : Nat) : q.turn i ≤ r.turn i := by
  have hsize := h.size_le
  rw [turn_le_iff, h.agent]
  omega

end Grows

/-- A queue grows by a session that is not in it. -/
theorem grows_add {q : AgentQueue} {s : Session} (hout : q.contains s.id = false) :
    q.Grows (q.add s) := by
  refine ⟨q.agent_add s, q.maxSlots_add s, ?_, ?_⟩
  all_goals unfold add; split
  · exact Nat.le_refl _
  · exact Nat.le_of_succ_le (SessionTable.size_insert_of_not_contains hout s).ge
  · exact fun _ _ h => h
  · intro id t ht
    have hne : id ≠ s.id := by
      rintro rfl
      rw [contains, SessionTable.contains_of_find? ht] at hout
      cases hout
    rwa [SessionTable.find?_insert, if_neg hne]

end AgentQueue

namespace Allocation

variable {now : Moment} {a b : Allocation} {s : Session} {i j : Nat} {q r : AgentQueue}

/-! ## One session -/

/-- The session that is placed takes a free slot. -/
theorem Consistent.openSpots_place (h : a.Consistent) (hnew : a.assignments.contains s.id = false)
    (hnext : NextInTurn now a.queues i q) :
    (a.place s i).openSpots now + 1 = a.openSpots now := by
  have hout := h.not_contains hnew hnext.at_position
  obtain ⟨havailable, hroom⟩ := Bool.and_eq_true_iff.mp hnext.canTake
  rw [openSpots_eq_sum, openSpots_eq_sum, sum_map_filter, sum_map_filter]
  apply sum_map_modify hnext.at_position
  have hsize := SessionTable.size_insert_of_not_contains hout s
  rw [AgentQueue.agent_add, havailable, if_pos rfl, if_pos rfl,
    AgentQueue.add_eq_of_room hout hroom]
  have hlt : q.sessions.size < q.maxSlots := of_decide_eq_true hroom
  simp only [AgentQueue.openSpots, AgentQueue.size]
  omega

/-- Every queue grows, if only by nothing, when a session is placed. -/
theorem Consistent.grows_place (h : a.Consistent) (hnew : a.assignments.contains s.id = false)
    (hr : (a.place s i).queues[j]? = some r) : ∃ q, a.queues[j]? = some q ∧ q.Grows r := by
  rw [Allocation.place, List.getElem?_modify] at hr
  obtain ⟨q, hq, rfl⟩ := Option.map_eq_some_iff.mp hr
  refine ⟨q, hq, ?_⟩
  split
  · exact AgentQueue.grows_add (h.not_contains hnew hq)
  · exact .refl q

theorem contains_place {id : SessionId} :
    (a.place s i).assignments.contains id = (decide (id = s.id) || a.assignments.contains id) :=
  SessionTable.contains_insert a.assignments s.id i id

/-! ## Deals -/

/-- Sessions that nobody has are dealt out one after another at a moment, each to the agent whose
turn it is then.  They are listed with the positions of these agents. -/
inductive Deals (now : Moment) : Allocation → List (Session × Nat) → Allocation → Prop
  | done (a : Allocation) : Deals now a [] a
  | deal {a b : Allocation} {s : Session} {i : Nat} {q : AgentQueue} {moves : List (Session × Nat)}
      (hnew : a.assignments.contains s.id = false) (hnext : NextInTurn now a.queues i q)
      (hrest : Deals now (a.place s i) moves b) : Deals now a ((s, i) :: moves) b

/-- Putting the next session in place keeps the agreement of queues and assignments. -/
theorem Consistent.place_next (h : a.Consistent) (hnew : a.assignments.contains s.id = false)
    (hnext : NextInTurn now a.queues i q) : (a.place s i).Consistent :=
  h.place hnew hnext.at_position (Bool.and_eq_true_iff.mp hnext.canTake).2

namespace Deals

variable {moves : List (Session × Nat)} {m : Session × Nat} {id : SessionId}

theorem consistent (h : Deals now a moves b) (ha : a.Consistent) : b.Consistent := by
  induction h with
  | done => exact ha
  | deal hnew hnext _ ih => exact ih (ha.place_next hnew hnext)

/-- A deal is a way for an allocation to evolve. -/
theorem evolves (h : Deals now a moves b) : Evolves a b := by
  induction h with
  | done a => exact .refl a
  | @deal a b s i q moves hnew hnext _ ih =>
      have hstep : a.allocate? s now = some (a.place s i) :=
        allocate?_eq_some_iff.mpr ⟨hnew, i, q, choose?_eq_some_iff.mpr hnext, rfl⟩
      exact (Evolves.of_step (.allocate hstep)).trans ih

/-- Each session dealt out takes one free slot. -/
theorem openSpots (h : Deals now a moves b) (ha : a.Consistent) :
    b.openSpots now + moves.length = a.openSpots now := by
  induction h with
  | done => rfl
  | deal hnew hnext _ ih =>
      have hone := ha.openSpots_place hnew hnext
      have hrest := ih (ha.place_next hnew hnext)
      rw [List.length_cons]
      omega

/-- The agents stay as they are, and only those who may be given sessions receive any. -/
theorem serves (h : Deals now a moves b) : Serves now a b := by
  induction h with
  | done a => exact .refl a
  | deal _ hnext _ ih => exact (Serves.place _ (choose?_eq_some_iff.mpr hnext)).trans ih

/-- The sessions that are dealt out were with nobody. -/
theorem untracked (h : Deals now a moves b) (hm : m ∈ moves) :
    a.assignments.contains m.1.id = false := by
  induction h with
  | done => cases hm
  | deal hnew _ _ ih =>
      rcases List.mem_cons.mp hm with rfl | hm
      · exact hnew
      · exact (Bool.or_eq_false_iff.mp (contains_place ▸ ih hm)).2

/-- Behind a session that is placed no session of its identifier is dealt out. -/
theorem ne_of_place (h : Deals now (a.place s i) moves b) (hm : m ∈ moves) : m.1.id ≠ s.id := by
  have hout := h.untracked hm
  rw [contains_place, Bool.or_eq_false_iff] at hout
  exact of_decide_eq_false hout.1

/-- What is not dealt out stays where it is. -/
theorem find?_of_not_mem (h : Deals now a moves b) (hid : ∀ m ∈ moves, m.1.id ≠ id) :
    b.assignments.find? id = a.assignments.find? id := by
  induction h with
  | done => rfl
  | deal _ _ _ ih =>
      have hfirst := hid _ (List.mem_cons_self ..)
      rw [ih fun m hm => hid m (List.mem_cons_of_mem _ hm), place, SessionTable.find?_insert,
        if_neg hfirst.symm]

/-- A session that is dealt out is recorded with the agent it went to. -/
theorem find?_of_mem (h : Deals now a moves b) (hm : m ∈ moves) :
    b.assignments.find? m.1.id = some m.2 := by
  induction h with
  | done => cases hm
  | @deal a b s i q moves hnew hnext hrest ih =>
      rcases List.mem_cons.mp hm with rfl | hm
      · rw [hrest.find?_of_not_mem fun m hm => hrest.ne_of_place hm, place,
          SessionTable.find?_insert, if_pos rfl]
      · exact ih hm

/-- A session that somebody has afterwards, and that nobody had before, was dealt out. -/
theorem exists_of_find? (h : Deals now a moves b) (hnew : a.assignments.contains id = false)
    (hfind : b.assignments.find? id = some j) : ∃ m ∈ moves, m.1.id = id ∧ m.2 = j := by
  by_contra hnone
  have hkept := h.find?_of_not_mem fun m hm hid =>
    hnone ⟨m, hm, hid, Option.some.inj ((h.find?_of_mem hm).symm.trans (hid ▸ hfind))⟩
  rw [hfind, SessionTable.find?_eq_none_iff.mpr hnew] at hkept
  cases hkept

/-- Of the sessions that nobody had, somebody has those that were dealt out. -/
theorem contains_iff (h : Deals now a moves b) (hnew : a.assignments.contains id = false) :
    b.assignments.contains id = true ↔ ∃ m ∈ moves, m.1.id = id := by
  constructor
  · intro hheld
    obtain ⟨j, hfind⟩ := SessionTable.exists_find?_of_contains hheld
    obtain ⟨m, hm, hid, -⟩ := h.exists_of_find? hnew hfind
    exact ⟨m, hm, hid⟩
  · rintro ⟨m, hm, rfl⟩
    exact SessionTable.contains_of_find? (h.find?_of_mem hm)

/-- Queues grow in a deal. -/
theorem grows (h : Deals now a moves b) (ha : a.Consistent) (hr : b.queues[j]? = some r) :
    ∃ q, a.queues[j]? = some q ∧ q.Grows r := by
  induction h with
  | done => exact ⟨r, hr, .refl r⟩
  | deal hnew hnext _ ih =>
      obtain ⟨t, ht, hgrows⟩ := ih (ha.place_next hnew hnext) hr
      obtain ⟨q, hq, hfirst⟩ := ha.grows_place hnew ht
      exact ⟨q, hq, hfirst.trans hgrows⟩

/-- A session that is dealt out is in the queue of the agent it went to, as it was offered. -/
theorem exists_queue_of_mem (h : Deals now a moves b) (ha : a.Consistent) (hm : m ∈ moves) :
    ∃ r, b.queues[m.2]? = some r ∧ r.sessions.find? m.1.id = some m.1 := by
  induction h with
  | done => cases hm
  | @deal a b s i q moves hnew hnext hrest ih =>
      have hplaced := ha.place_next hnew hnext
      rcases List.mem_cons.mp hm with rfl | hm
      · have hin := (Deals.deal hnew hnext hrest).find?_of_mem (List.mem_cons_self ..)
        obtain ⟨r, hr, -⟩ := ((hrest.consistent hplaced).assigned_iff _ _).mp hin
        obtain ⟨t, ht, hgrows⟩ := hrest.grows hplaced hr
        refine ⟨r, hr, hgrows.kept s.id s ?_⟩
        rw [place, List.getElem?_modify_eq, hnext.at_position] at ht
        obtain rfl : q.add s = t := Option.some.inj ht
        rw [AgentQueue.add_eq_of_room (ha.not_contains hnew hnext.at_position)
          (Bool.and_eq_true_iff.mp hnext.canTake).2]
        exact (SessionTable.find?_insert _ _ _ _).trans (if_pos rfl)
      · exact ih hplaced hm

/-- The queue of an agent that receives nothing stays as it is. -/
theorem getElem?_of_not_received (h : Deals now a moves b) (hj : ∀ m ∈ moves, m.2 ≠ j) :
    b.queues[j]? = a.queues[j]? := by
  induction h with
  | done => rfl
  | deal _ _ _ ih =>
      have hfirst := hj _ (List.mem_cons_self ..)
      rw [ih fun m hm => hj m (List.mem_cons_of_mem _ hm)]
      exact List.getElem?_modify_ne _ _ hfirst

/-- The last session that an agent received came to it in its turn.  An agent with a free slot
left was not before it: not even with the sessions that it has in the end. -/
theorem last_in_turn (h : Deals now a moves b) (ha : a.Consistent) (hreceived : ∃ m ∈ moves, m.2 = j)
    (hq : b.queues[i]? = some q) (hr : b.queues[j]? = some r) (htake : q.canTake now = true) :
    ∃ last : AgentQueue, last.agent = r.agent ∧ r.size = last.size + 1 ∧ last.turn j ≤ q.turn i := by
  induction h with
  | done =>
      obtain ⟨m, hm, -⟩ := hreceived
      cases hm
  | @deal a b s k best moves hnew hnext hrest ih =>
      have hplaced := ha.place_next hnew hnext
      by_cases hlater : ∃ m ∈ moves, m.2 = j
      · exact ih hplaced hlater hq hr
      · -- Nobody else of the deal goes there: this session is the last one.
        have hnone : ∀ m ∈ moves, m.2 ≠ j := fun m hm hj => hlater ⟨m, hm, hj⟩
        obtain ⟨m, hm, hj⟩ := hreceived
        obtain rfl : k = j := by
          rcases List.mem_cons.mp hm with rfl | hm
          · exact hj
          · exact absurd hj (hnone m hm)
        obtain ⟨hroom, hout⟩ : best.hasOpenSpots = true ∧ best.contains s.id = false :=
          ⟨(Bool.and_eq_true_iff.mp hnext.canTake).2, ha.not_contains hnew hnext.at_position⟩
        obtain rfl : r = best.add s := by
          rw [hrest.getElem?_of_not_received hnone, place, List.getElem?_modify_eq,
            hnext.at_position] at hr
          exact (Option.some.inj hr).symm
        obtain ⟨first, hfirst, hgrows⟩ := (Deals.deal hnew hnext hrest).grows ha hq
        refine ⟨best, (best.agent_add s).symm, ?_, ?_⟩
        · rw [AgentQueue.add_eq_of_room hout hroom]
          exact SessionTable.size_insert_of_not_contains hout s
        · calc best.turn k ≤ first.turn i := hnext.least i first hfirst (hgrows.canTake htake)
            _ ≤ q.turn i := hgrows.turn_le i

/-- Next to an agent that received a session an available one is full, unless it is of no lower
level and, of the same level, does not lag behind. -/
theorem full_or_even (h : Deals now a moves b) (ha : a.Consistent)
    (hreceived : ∃ m ∈ moves, m.2 = j) (hq : b.queues[i]? = some q) (hr : b.queues[j]? = some r)
    (havailable : q.agent.available now = true) :
    q.size = q.maxSlots ∨ r.agent.level.priority ≤ q.agent.level.priority ∧
      (q.agent.level = r.agent.level → r.size ≤ q.size + 1 ∧ (i < j → r.size ≤ q.size)) := by
  by_cases hroom : q.hasOpenSpots = true
  · obtain ⟨last, hagent, hsize, hturn⟩ := h.last_in_turn ha hreceived hq hr
      (Bool.and_eq_true_iff.mpr ⟨havailable, hroom⟩)
    rw [AgentQueue.turn_le_iff, hagent] at hturn
    refine .inr ⟨by omega, ?_⟩
    intro hlevel
    rw [hlevel] at hturn
    constructor
    · omega
    · intro hij
      omega
  · have hle := ((h.consistent ha).queue q (List.mem_of_getElem? hq)).size_le
    have hge : q.maxSlots ≤ q.size := by simpa [AgentQueue.hasOpenSpots] using hroom
    exact .inl (Nat.le_antisymm hle hge)

/-- An agent that was given nothing has as many sessions as before. -/
theorem exists_size_eq (h : Deals now a moves b) (hj : ¬ ∃ m ∈ moves, m.2 = j)
    (hr : b.queues[j]? = some r) : ∃ p ∈ a.queues, p.size = r.size := by
  rw [h.getElem?_of_not_received fun m hm heq => hj ⟨m, hm, heq⟩] at hr
  exact ⟨r, List.mem_of_getElem? hr, rfl⟩

/-- From empty queues the loads within a level differ by at most one and do not increase. -/
theorem even_of_empty (h : Deals now a moves b) (ha : a.Consistent) (hslots : b.WithinSlots)
    (hempty : ∀ p ∈ a.queues, p.size = 0) (hq : b.queues[i]? = some q) (hr : b.queues[j]? = some r)
    (havailable : q.agent.available now = true) (hsame : q.agent.level = r.agent.level) :
    r.size ≤ q.size + 1 ∧ (i < j → r.size ≤ q.size) := by
  by_cases hj : ∃ m ∈ moves, m.2 = j
  · rcases h.full_or_even ha hj hq hr havailable with hfull | ⟨-, heven⟩
    · -- Agents of one level have the same number of slots.
      have hle : r.size ≤ q.size := by
        have hr' := List.mem_of_getElem? hr
        rw [hfull, hslots.slots q (List.mem_of_getElem? hq), hsame, ← hslots.slots r hr']
        exact hslots.size_le r hr'
      exact ⟨Nat.le_succ_of_le hle, fun _ => hle⟩
    · exact heven hsame
  · obtain ⟨p, hp, hsize⟩ := h.exists_size_eq hj hr
    have hzero : r.size = 0 := hsize.symm.trans (hempty p hp)
    exact ⟨by omega, fun _ => by omega⟩

end Deals

/-! ## Batches -/

/-- What sessions leave that are offered one after another at a moment. -/
def offerAll (now : Moment) : Allocation → List Session → Allocation
  | a, [] => a
  | a, s :: rest => offerAll now (a.offer s now) rest

/-- The sessions that are taken of those that are offered one after another at a moment. -/
def accepted (now : Moment) : Allocation → List Session → List Session
  | _, [] => []
  | a, s :: rest =>
    if (a.allocate? s now).isSome then s :: accepted now (a.offer s now) rest
    else accepted now (a.offer s now) rest

/-- A batch of different sessions that nobody has is dealt out as far as slots are free. -/
theorem Consistent.deals_offerAll (h : a.Consistent) (now : Moment) {batch : List Session}
    (hdistinct : (batch.map (·.id)).Nodup)
    (hnew : ∀ s ∈ batch, a.assignments.contains s.id = false) :
    ∃ moves, Deals now a moves (a.offerAll now batch) ∧
      moves.map (·.1) = accepted now a batch ∧ accepted now a batch = batch.take (a.openSpots now) := by
  induction batch generalizing a with
  | nil => exact ⟨[], .done a, rfl, List.take_nil.symm⟩
  | cons s rest ih =>
      rw [List.map_cons, List.nodup_cons] at hdistinct
      obtain ⟨hfirst, hrest⟩ := List.forall_mem_cons.mp hnew
      by_cases hopen : a.hasOpenSpots now = true
      · obtain ⟨c, hc⟩ := Option.isSome_iff_exists.mp (isSome_allocate?_iff.mpr ⟨hfirst, hopen⟩)
        obtain ⟨-, i, q, hchoose, rfl⟩ := allocate?_eq_some_iff.mp hc
        have hnext := nextInTurn_of_choose? hchoose
        have hoffer : a.offer s now = a.place s i := by rw [offer, hc]; rfl
        have hnew' : ∀ t ∈ rest, (a.place s i).assignments.contains t.id = false := by
          intro t ht
          have hne : t.id ≠ s.id := fun heq => hdistinct.1 (heq ▸ List.mem_map_of_mem ht)
          rw [contains_place, hrest t ht, decide_eq_false hne]
          rfl
        obtain ⟨moves, hdeals, hgiven, htake⟩ := ih (h.place_next hfirst hnext) hdistinct.2 hnew'
        have hone := h.openSpots_place hfirst hnext
        refine ⟨(s, i) :: moves, ?_, ?_, ?_⟩
        · rw [offerAll, hoffer]
          exact .deal hfirst hnext hdeals
        · rw [accepted, hc, Option.isSome_some, if_pos rfl, hoffer, List.map_cons, hgiven]
        · rw [accepted, hc, Option.isSome_some, if_pos rfl, hoffer, htake, ← hone,
            List.take_succ_cons]
      · have hnone : a.allocate? s now = none := by
          rw [← Option.not_isSome_iff_eq_none, isSome_allocate?_iff]
          exact fun htaken => hopen htaken.2
        have hoffer : a.offer s now = a := by rw [offer, hnone]; rfl
        have hfull : a.openSpots now = 0 := by simpa [hasOpenSpots] using hopen
        obtain ⟨moves, hdeals, hgiven, htake⟩ := ih h hdistinct.2 hrest
        refine ⟨moves, ?_, ?_, ?_⟩
        · rwa [offerAll, hoffer]
        · rw [hgiven, accepted, hnone, hoffer]
          rfl
        · rw [accepted, hnone, hoffer, hfull, List.take_zero]
          simpa [hfull] using htake

/-- A batch saturates the lower levels first and spreads evenly within a level.  An allocation may
have evolved in any way, and its loads may be as uneven as they like.  Of different sessions that
nobody has, offered one after another at one moment, as many of the first are taken as slots are
free; these and no others are with an agent afterwards, and the roster is what it was.

Whoever is available and comes before an agent that was given one of them, by the priority of the
level, has no slot left.  An agent of the same level has no slot left or falls short by at most
one session, and if it stands before the other in the roster by none.  From empty queues the loads
of the available agents of one level differ by at most one and do not increase along the roster. -/
theorem batch_saturates_and_spreads {settings : PoolSettings} {a : Allocation}
    (h : Evolves (.ofSettings settings) a) {batch : List Session}
    (hdistinct : (batch.map (·.id)).Nodup)
    (hnew : ∀ s ∈ batch, a.assignments.contains s.id = false) (now : Moment) :
    let b := a.offerAll now batch
    let given := a.accepted now batch
    given = batch.take (a.openSpots now) ∧
    given.length = min batch.length (a.openSpots now) ∧
    (∀ s ∈ batch, s ∈ given ↔ b.assignments.contains s.id = true) ∧
    SameRoster (.ofSettings settings) b ∧
    ((roster settings).length < 2 ^ 24 → a.openSpots now < 2 ^ 64) ∧
    ∀ (i j : Nat) (q r : AgentQueue), b.queues[i]? = some q → b.queues[j]? = some r →
      q.agent.available now = true →
      ((∃ s ∈ batch, b.assignments.find? s.id = some j) →
        (q.agent.level.priority < r.agent.level.priority → q.size = q.maxSlots) ∧
        (q.agent.level = r.agent.level →
          (q.size = q.maxSlots ∨ r.size ≤ q.size + 1) ∧
          (i < j → q.size = q.maxSlots ∨ r.size ≤ q.size))) ∧
      ((∀ p ∈ a.queues, p.size = 0) → r.agent.available now = true →
        q.agent.level = r.agent.level → r.size ≤ q.size + 1 ∧ (i < j → r.size ≤ q.size)) := by
  intro b given
  have ha : a.Consistent := h.consistent (consistent_ofSettings settings)
  obtain ⟨moves, hdeals, hgiven, htake⟩ := ha.deals_offerAll now hdistinct hnew
  have hevolves : Evolves (.ofSettings settings) b := h.trans hdeals.evolves
  have hslots : b.WithinSlots := withinSlots_of_evolves hevolves
  have hreceived {j : Nat} (hj : ∃ s ∈ batch, b.assignments.find? s.id = some j) :
      ∃ m ∈ moves, m.2 = j := by
    obtain ⟨s, hs, hfind⟩ := hj
    obtain ⟨m, hm, -, hposition⟩ := hdeals.exists_of_find? (hnew s hs) hfind
    exact ⟨m, hm, hposition⟩
  refine ⟨htake, ?_, ?_, hevolves.sameRoster, ?_, ?_⟩
  · rw [show given = _ from htake, List.length_take, Nat.min_comm]
  · intro s hs
    rw [hdeals.contains_iff (hnew s hs), show given = _ from hgiven.symm, List.mem_map]
    constructor
    · rintro ⟨m, hm, rfl⟩
      exact ⟨m, hm, rfl⟩
    · rintro ⟨m, hm, hid⟩
      have hmem : m.1 ∈ batch := by
        apply List.mem_of_mem_take (i := a.openSpots now)
        rw [← htake, ← hgiven]
        exact List.mem_map_of_mem hm
      exact ⟨m, hm, List.inj_on_of_nodup_map hdistinct hmem hs hid⟩
  · intro hlength
    exact ((withinSlots_of_evolves h).sums_lt (h.length_queues ▸ hlength) now).2
  intro i j q r hq hr havailable
  constructor
  · intro hj
    rcases hdeals.full_or_even ha (hreceived hj) hq hr havailable with hfull | ⟨hlevel, heven⟩
    · exact ⟨fun _ => hfull, fun _ => ⟨.inl hfull, fun _ => .inl hfull⟩⟩
    · refine ⟨fun hlt => absurd hlevel (Nat.not_le_of_lt hlt), fun hsame => ?_⟩
      obtain ⟨hclose, hbefore⟩ := heven hsame
      exact ⟨.inr hclose, fun hij => .inr (hbefore hij)⟩
  · intro hempty _ hsame
    exact hdeals.even_of_empty ha hslots hempty hq hr havailable hsame

open Pool (smallDesk sampleHour) in
/-- One of two juniors is serving a session when four more arrive.  Three of them fill both
juniors, and the last one goes to the agent of the middle level. -/
theorem batch_saturates_and_spreads_three_agents :
    let desk : PoolSettings := { smallDesk with
      concurrency := 5
      regular := [.ofShift 10 (.onTheHour 7) (.ofHours 8) .middle "Team 1",
        .ofShift 11 (.onTheHour 7) (.ofHours 8) .junior "Team 1",
        .ofShift 12 (.onTheHour 7) (.ofHours 8) .junior "Team 2"] }
    let now := sampleHour 10
    let first : Session := .start (.ofNat 0) now
    let batch : List Session := [1, 2, 3, 4].map fun n => .start (.ofNat n) now
    let a := (ofSettings desk).offer first now
    let b := a.offerAll now batch
    Evolves (.ofSettings desk) a ∧ (batch.map (·.id)).Nodup ∧
      (∀ s ∈ batch, a.assignments.contains s.id = false) ∧
      accepted now a batch = batch.take (a.openSpots now) ∧
      (∃ s ∈ batch, b.assignments.find? s.id = some 0) ∧
      ∀ i ∈ [1, 2], ∀ q, b.queues[i]? = some q → q.size = q.maxSlots := by
  intro desk now first batch a b
  have hstep : (ofSettings desk).allocate? first now = some a := by decide +kernel
  have hevolves : Evolves (.ofSettings desk) a := .of_step (.allocate hstep)
  have hdistinct : (batch.map (·.id)).Nodup := by decide +kernel
  have hnew : ∀ s ∈ batch, a.assignments.contains s.id = false := by decide +kernel
  have hmiddle : ∃ s ∈ batch, b.assignments.find? s.id = some 0 := by decide +kernel
  obtain ⟨htake, -, -, -, -, hload⟩ := batch_saturates_and_spreads hevolves hdistinct hnew now
  have hlevels : ∀ i ∈ [1, 2], ∀ q ∈ b.queues[i]?, ∀ r ∈ b.queues[0]?,
      q.agent.available now = true ∧ q.agent.level.priority < r.agent.level.priority := by
    decide +kernel
  have hfirst : b.queues[0]?.isSome = true := by decide +kernel
  obtain ⟨r, hr⟩ := Option.isSome_iff_exists.mp hfirst
  refine ⟨hevolves, hdistinct, hnew, htake, hmiddle, ?_⟩
  intro i hi q hq
  obtain ⟨havailable, hlevel⟩ := hlevels i hi q hq r hr
  exact ((hload i 0 q r hq hr havailable).1 hmiddle).1 hlevel

end Allocation

end SupportDesk
