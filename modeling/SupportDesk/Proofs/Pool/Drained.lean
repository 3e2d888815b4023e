/-
# What a drain achieves

A drain is a loop without a bound of its own: it asks whether a slot is free, takes the first of
the backlog, gives it to an agent, and begins again.  Whether a slot is free is told by a sum over
agents; who is given the session is found by a search, behind two checks that the session is with
nobody.  If these ever disagreed, the session would go back to the backlog and the drain would end
halfway.

In a consistent pool they always agree.  The drain then deals out the head of the backlog in
order, one session for each free slot, until no slot is free or nobody waits.  That the loop ends
rests on less: every turn shortens the backlog, whatever the pool.
-/

import SupportDesk.Proofs.Agent.Batch
import SupportDesk.Proofs.Pool.Ledger
import SupportDesk.Proofs.Pool.Occupancy

namespace SupportDesk

open Allocation (Deals NextInTurn)

namespace Pool

/-! ## The loop -/

/-- The loop of a drain at a moment ends with a pool and a number of sessions moved. -/
inductive Loops (now : Moment) : Pool → Pool → Nat → Prop
  | full {p : Pool} (hfull : p.allocation.hasOpenSpots now = false) : Loops now p p 0
  | nobody {p : Pool} {b : Backlog} (hopen : p.allocation.hasOpenSpots now = true)
      (hpop : p.backlog.pop = (none, b)) : Loops now p { p with backlog := b } 0
  | putBack {p : Pool} {s : Session} {b : Backlog} (hopen : p.allocation.hasOpenSpots now = true)
      (hpop : p.backlog.pop = (some s, b)) (hlost : assign? { p with backlog := b } s now = none) :
      Loops now p { p with backlog := b.restoreFront s } 0
  | move {p q r : Pool} {s : Session} {b : Backlog} {n : Nat}
      (hopen : p.allocation.hasOpenSpots now = true) (hpop : p.backlog.pop = (some s, b))
      (hassign : assign? { p with backlog := b } s now = some q) (hrest : Loops now q r n) :
      Loops now p r (n + 1)

/-- The loop of a drain comes to the branch in which a session goes back to the backlog. -/
inductive PutsBack (now : Moment) : Pool → Prop
  | here {p : Pool} {s : Session} {b : Backlog} (hopen : p.allocation.hasOpenSpots now = true)
      (hpop : p.backlog.pop = (some s, b)) (hlost : assign? { p with backlog := b } s now = none) :
      PutsBack now p
  | later {p q : Pool} {s : Session} {b : Backlog} (hopen : p.allocation.hasOpenSpots now = true)
      (hpop : p.backlog.pop = (some s, b)) (hassign : assign? { p with backlog := b } s now = some q)
      (hrest : PutsBack now q) : PutsBack now p

variable {now : Moment} {p q r : Pool} {m n : Nat}

/-- The loop has one outcome. -/
theorem Loops.unique (h : Loops now p q m) (h' : Loops now p r n) : q = r ∧ m = n := by
  induction h generalizing r n with
  | full hfull => cases h' <;> simp_all
  | nobody hopen hpop => cases h' <;> simp_all
  | putBack hopen hpop hlost => cases h' <;> simp_all
  | move hopen hpop hassign _ ih =>
      cases h' with
      | full hfull => simp_all
      | nobody _ hpop' => simp_all
      | putBack _ hpop' hlost => simp_all
      | move _ hpop' hassign' hrest' =>
          obtain ⟨hs, rfl⟩ := Prod.mk.inj (hpop.symm.trans hpop')
          obtain rfl := Option.some.inj hs
          obtain rfl := Option.some.inj (hassign.symm.trans hassign')
          obtain ⟨rfl, rfl⟩ := ih hrest'
          exact ⟨rfl, rfl⟩

/-- As many turns as sessions wait are enough, whatever the pool. -/
theorem loops_drainUpTo {fuel : Nat} (h : p.queueSize ≤ fuel) :
    Loops now p (drainUpTo now fuel p).1 (drainUpTo now fuel p).2 := by
  induction fuel generalizing p with
  | zero =>
      have hempty : p.backlog.order = [] := List.length_eq_zero_iff.mp (Nat.le_zero.mp h)
      by_cases hopen : p.allocation.hasOpenSpots now = true
      · exact .nobody hopen (by simp [Backlog.pop, hempty])
      · exact .full (by simpa using hopen)
  | succ fuel ih =>
      rw [drainUpTo]
      split
      next hopen =>
        split
        next b hpop => exact .nobody hopen hpop
        next s b hpop =>
          split
          next q hassign =>
            have hshorter : q.queueSize ≤ fuel := by
              have hsize := Backlog.size_of_pop hpop
              rw [queueSize, hsize] at h
              rw [queueSize, backlog_assign hassign]
              exact Nat.le_of_succ_le_succ h
            exact .move hopen hpop hassign (ih hshorter)
          next hlost => exact .putBack hopen hpop hlost
      next hfull => exact .full (by simpa using hfull)

/-- The loop ends for every pool, with what a drain leaves and the number it tells. -/
theorem loops_iff : Loops now p q n ↔ p.drain now = (q, n) := by
  have hdrain : Loops now p (p.drain now).1 (p.drain now).2 := loops_drainUpTo (Nat.le_refl _)
  constructor
  · intro h
    obtain ⟨hpool, hcount⟩ := hdrain.unique h
    exact Prod.ext hpool hcount
  · intro h
    rwa [h] at hdrain

/-- In a consistent pool the first of the backlog is given to an agent wherever a slot is free. -/
theorem Consistent.exists_assign? (h : p.Consistent) {s : Session} {b : Backlog}
    (hopen : p.allocation.hasOpenSpots now = true) (hpop : p.backlog.pop = (some s, b)) :
    ∃ q, assign? { p with backlog := b } s now = some q ∧ q.Consistent := by
  cases horder : p.backlog.order with
  | nil => simp [Backlog.pop, horder] at hpop
  | cons id rest =>
      obtain ⟨first, rfl, -, hfirst⟩ := h.backlog.pop_of_order horder
      obtain ⟨i, best, hchoose⟩ := Allocation.exists_choose? (Allocation.hasOpenSpots_iff.mp hopen)
      have hassign := h.assign?_eq_handOver horder hchoose
      obtain ⟨hsame, hrest⟩ := Prod.mk.inj (hpop.symm.trans hfirst)
      obtain rfl := Option.some.inj hsame
      rw [hpop] at hassign
      exact ⟨_, hassign, h.handOver horder hchoose⟩

/-- So no session goes back to the backlog. -/
theorem Consistent.not_putsBack (h : p.Consistent) : ¬ PutsBack now p := by
  intro hback
  induction hback with
  | here hopen hpop hlost =>
      obtain ⟨q, hassign, -⟩ := h.exists_assign? hopen hpop
      rw [hlost] at hassign
      cases hassign
  | later hopen hpop hassign _ ih =>
      obtain ⟨q, hassign', hq⟩ := h.exists_assign? hopen hpop
      obtain rfl := Option.some.inj (hassign.symm.trans hassign')
      exact ih hq

/-! ## What is dealt out -/

namespace Drains

variable {moves : List (Session × Nat)} {id : SessionId}

/-- The agents are dealt sessions. -/
theorem deals (h : Drains now p moves q) (hp : p.Consistent) :
    Deals now p.allocation moves q.allocation := by
  induction h with
  | full => exact .done _
  | empty => exact .done _
  | @move p q s rest i best moves hopen horder hfind hchoose _ ih =>
      obtain ⟨-, -, hout⟩ := hp.withPop horder
      exact .deal (hp.not_assigned hout) (Allocation.nextInTurn_of_choose? hchoose)
        (ih (hp.handOver horder hchoose))

/-- They leave the line from its head. -/
theorem toList_eq (h : Drains now p moves q) (hp : p.Consistent) :
    p.backlog.toList = moves.map (·.1) ++ q.backlog.toList := by
  induction h with
  | full => rfl
  | empty => rfl
  | @move p q s rest i best moves hopen horder hfind hchoose _ ih =>
      rw [hp.backlog.toList_of_order horder hfind, List.map_cons, List.cons_append,
        ← ih (hp.handOver horder hchoose)]
      rfl

theorem limit_eq (h : Drains now p moves q) : q.backlog.limit = p.backlog.limit := by
  induction h with
  | full => rfl
  | empty => rfl
  | move _ _ _ _ _ ih => exact ih.trans (limit_pop _)

/-- What does not move keeps its record. -/
theorem find?_of_not_mem (h : Drains now p moves q) (hid : ∀ m ∈ moves, m.1.id ≠ id) :
    q.allocated.find? id = p.allocated.find? id := by
  induction h with
  | full => rfl
  | empty => rfl
  | move _ _ _ _ _ ih =>
      have hfirst := hid _ (List.mem_cons_self ..)
      rw [ih fun m hm => hid m (List.mem_cons_of_mem _ hm), handOver, SessionTable.find?_insert,
        if_neg hfirst.symm]

/-- What moves is recorded as it was when it waited. -/
theorem find?_of_mem (h : Drains now p moves q) (hp : p.Consistent) {m : Session × Nat}
    (hm : m ∈ moves) : q.allocated.find? m.1.id = some m.1 := by
  induction h with
  | full => cases hm
  | empty => cases hm
  | @move p q s rest i best moves hopen horder hfind hchoose hrest ih =>
      have hhanded := hp.handOver horder hchoose
      rcases List.mem_cons.mp hm with rfl | hm
      · rw [hrest.find?_of_not_mem fun m hm => (hrest.deals hhanded).ne_of_place hm, handOver,
          SessionTable.find?_insert, if_pos rfl]
      · exact ih hhanded hm

/-- As many sessions move as wait, or as slots are free if these are fewer. -/
theorem length_eq (h : Drains now p moves q) (hp : p.Consistent) :
    moves.length = min p.queueSize (p.allocation.openSpots now) := by
  have hslots := (h.deals hp).openSpots hp.allocation
  have hline : p.queueSize = moves.length + q.queueSize := by
    have hlength := congrArg List.length (h.toList_eq hp)
    have hsize (r : Pool) (hr : r.Consistent) : r.backlog.toList.length = r.queueSize := by
      rw [queueSize, Backlog.size, ← hr.backlog.map_id_toList, List.length_map]
    rwa [List.length_append, List.length_map, hsize p hp, hsize q (h.consistent hp)] at hlength
  rcases h.settled with hfull | hempty
  · have hzero : q.allocation.openSpots now = 0 := by simpa [Allocation.hasOpenSpots] using hfull
    omega
  · have hzero : q.queueSize = 0 := by rw [queueSize, Backlog.size, hempty, List.length_nil]
    omega

end Drains

/-- One pool comes from another by sessions that go from the head of its line to agents, each to
the agent whose turn it is, and differs from it in nothing else. -/
structure HandsOut (now : Moment) (p : Pool) (moves : List (Session × Nat)) (q : Pool) : Prop where
  line : p.backlog.toList = moves.map (·.1) ++ q.backlog.toList
  limit : q.backlog.limit = p.backlog.limit
  dealt : Deals now p.allocation moves q.allocation
  /-- A session is recorded as it was when it waited. -/
  recorded : ∀ m ∈ moves, q.allocated.find? m.1.id = some m.1
  /-- Its agent serves it, and no other does. -/
  served : ∀ m ∈ moves, (∃ r, q.allocation.queues[m.2]? = some r ∧
    r.sessions.find? m.1.id = some m.1) ∧ ∀ i, q.allocation.Holds i m.1.id → i = m.2
  /-- Whoever was with an agent stays there. -/
  kept : ∀ id, p.allocated.contains id = true → q.allocated.find? id = p.allocated.find? id ∧
    ∀ i, q.allocation.Holds i id ↔ p.allocation.Holds i id
  queues : ∀ (i : Nat) (r : AgentQueue), q.allocation.queues[i]? = some r →
    ∃ r', p.allocation.queues[i]? = some r' ∧ r'.Grows r
  agents : q.allocation.queues.map (·.agent) = p.allocation.queues.map (·.agent)

theorem Drains.handsOut {moves : List (Session × Nat)} (h : Drains now p moves q)
    (hp : p.Consistent) : HandsOut now p moves q := by
  have hdeals := h.deals hp
  have hq := h.consistent hp
  refine ⟨h.toList_eq hp, h.limit_eq, hdeals, fun m => h.find?_of_mem hp, ?_, ?_,
    fun i r => hdeals.grows hp.allocation, hdeals.serves.agents⟩
  · intro m hm
    refine ⟨hdeals.exists_queue_of_mem hp.allocation hm, ?_⟩
    intro i hi
    rw [← hq.allocation.assigned_iff, hdeals.find?_of_mem hm] at hi
    exact (Option.some.inj hi).symm
  · intro id hid
    have hother : ∀ m ∈ moves, m.1.id ≠ id := by
      rintro m hm rfl
      have hnew := hdeals.untracked hm
      rw [(hp.allocated_iff m.1.id).mp hid] at hnew
      cases hnew
    refine ⟨h.find?_of_not_mem hother, ?_⟩
    intro i
    rw [← hq.allocation.assigned_iff, ← hp.allocation.assigned_iff,
      hdeals.find?_of_not_mem hother]

/-! ## What ends in a drain -/

/-- A sweep that no error cuts short ends in a drain. -/
theorem exists_drain_of_sweep (h : (p.sweep now).fault = none) :
    ∃ q r, p.expireWaiting now = .ok q ∧ q.expireAllocated now = .ok r ∧
      (p.sweep now).pool = (r.drain now).1 := by
  unfold sweep at h ⊢
  split
  next hwaiting =>
    rw [hwaiting] at h
    cases h
  next q hwaiting =>
    simp only [hwaiting] at h
    split
    next hactive =>
      rw [hactive] at h
      cases h
    next r hactive => exact ⟨q, r, hwaiting, hactive, rfl⟩

namespace Situation

/-- The event has run to its end, and that is a drain: an admission, a sweep that no error cuts
short, a change of shift, or a drain asked for as such. -/
def EndsInDrain (s : Situation) : Event → Prop
  | .create id => s.grants (.create id) = true
  | .sweep => (s.pool.sweep s.now).fault = none
  | .drain | .shiftChanged => True
  | .prolong _ | .destroy _ | .allocate _ | .setClock _ => False

/-- Afterwards nobody waits or no slot is free. -/
theorem settled_step {s : Situation} {e : Event} (hfresh : s.Fresh e) (hends : s.EndsInDrain e)
    (h : s.pool.Consistent) : (s.step e).pool.allocation.hasOpenSpots s.now = false ∨
      (s.step e).pool.backlog.order = [] := by
  have hdrained {p : Pool} (hp : p.Consistent) :
      (p.drain s.now).1.allocation.hasOpenSpots s.now = false ∨
        (p.drain s.now).1.backlog.order = [] := by
    obtain ⟨moves, hdrains, -⟩ := hp.drains s.now
    exact hdrains.settled
  cases e with
  | create id =>
      obtain ⟨q, hq⟩ := Option.isSome_iff_exists.mp hends
      obtain ⟨-, rfl⟩ := create?_eq_some_iff.mp hq
      simpa only [step, hq, Option.getD_some] using hdrained (h.takeIn hfresh s.now)
  | sweep =>
      obtain ⟨q, r, hwaiting, hactive, hpool⟩ := exists_drain_of_sweep hends
      rw [step, hpool]
      exact hdrained ((h.expireWaiting hwaiting).expireAllocated hactive)
  | drain => exact hdrained h
  | shiftChanged => exact hdrained ((h.adjust s.now).withLimit _)
  | prolong | destroy | allocate | setClock => cases hends

end Situation

/-- A drain is complete and ordered, and never fails halfway.  Take any pool that a run leaves
whose sessions are new when they are created, and any moment.  The loop of the drain ends, with one
outcome, and never comes to the branch that puts a session back.  As many sessions move as wait,
or as slots are free if these are fewer.  They are the first of the line, in order; each is
recorded as it was and is with one agent.  The rest of the line stays, and so do the sessions that
were with agents and the agents themselves, open or closed.

So whenever a session has been admitted, a shift has changed, or a sweep has ended, nobody waits or
no slot is free.  A sweep ends if the calendar reaches the deadlines of all sessions.  With fewer
than two to the power of 24 agents the sum of the free slots does not leave 64 bits. -/
theorem drain_complete_and_ordered (settings : PoolSettings) (start : Moment) (events : List Event)
    (hfresh : Situation.Admits Situation.Fresh (.start settings start) events) (now : Moment) :
    let s := (Situation.start settings start).run events
    let p := s.pool
    let q := (p.drain now).1
    let count := min p.queueSize (p.allocation.openSpots now)
    (∀ r n, Loops now p r n ↔ r = q ∧ n = count) ∧ ¬ PutsBack now p ∧
    (∃ moves, moves.map (·.1) = p.backlog.toList.take count ∧
      q.backlog.toList = p.backlog.toList.drop count ∧ HandsOut now p moves q) ∧
    ((Allocation.roster settings).length < 2 ^ 24 → p.allocation.openSpots now < 2 ^ 64) ∧
    (p.DeadlinesInCalendar → s.EndsInDrain .sweep) ∧
    ∀ e, s.Fresh e → s.EndsInDrain e →
      (s.step e).pool.backlog.order = [] ∨
        (s.step e).pool.allocation.hasOpenSpots s.now = false := by
  intro s p q count
  have h : p.Consistent := hfresh.consistent_run (consistent_ofSettings settings start)
  obtain ⟨moves, hdrains, hmoved⟩ := h.drains now
  have hcount : moves.length = count := hdrains.length_eq h
  refine ⟨?_, h.not_putsBack, ⟨moves, ?_, ?_, hdrains.handsOut h⟩, ?_, ?_, ?_⟩
  · intro r n
    rw [loops_iff, Prod.ext_iff, hmoved, hcount]
    exact and_congr eq_comm eq_comm
  · rw [hdrains.toList_eq h, ← hcount, List.take_left' (List.length_map _)]
  · rw [hdrains.toList_eq h, ← hcount, List.drop_left' (List.length_map _)]
  · intro hroster
    have hevolves : Allocation.Evolves (.ofSettings settings) p.allocation :=
      Situation.evolves_run (.start settings start) events
    exact ((Allocation.withinSlots_of_evolves hevolves).sums_lt
      (hevolves.length_queues ▸ hroster) now).2
  · intro hreach
    obtain ⟨r, -, hsweep, -⟩ := h.sweep_eq_drain hreach s.now
    exact congrArg Sweep.fault hsweep
  · intro e hnew hends
    exact (Situation.settled_step hnew hends h).symm

/-- Six sessions are with agents and three wait when one is ended.  The first of the line moves,
also if a sweep or a change of shift comes to it, and the others go on waiting. -/
theorem drain_complete_and_ordered_smallDesk :
    let desk : PoolSettings := { smallDesk with concurrency := 5 }
    let hour := sampleHour 10
    let events : List Event :=
      (List.range 9).map (fun n => .create (.ofNat n)) ++ [.destroy (.ofNat 0)]
    let s := (Situation.start desk hour).run events
    let p := s.pool
    let q := (p.drain hour).1
    let count := min p.queueSize (p.allocation.openSpots hour)
    Situation.Admits Situation.Fresh (.start desk hour) events ∧
      p.backlog.order = [.ofNat 6, .ofNat 7, .ofNat 8] ∧ count = 1 ∧ Loops hour p q count ∧
      (∃ moves, moves.map (·.1) = p.backlog.toList.take count ∧
        q.backlog.toList = p.backlog.toList.drop count ∧ HandsOut hour p moves q) ∧
      p.allocation.openSpots hour < 2 ^ 64 ∧ s.EndsInDrain .sweep ∧
      ∀ e ∈ [Event.sweep, .shiftChanged], (s.step e).pool.backlog.order = [] ∨
        (s.step e).pool.allocation.hasOpenSpots s.now = false := by
  intro desk hour events
  have hfresh : Situation.Admits Situation.Fresh (.start desk hour) events := by decide +kernel
  have hwaiting : ((Situation.start desk hour).run events).pool.backlog.order =
      [.ofNat 6, .ofNat 7, .ofNat 8] := by decide +kernel
  have hslots : ((Situation.start desk hour).run events).pool.allocation.openSpots hour = 1 := by
    decide +kernel
  have hreach : ((Situation.start desk hour).run events).pool.DeadlinesInCalendar := by
    decide +kernel
  have hroster : (Allocation.roster desk).length < 2 ^ 24 := by decide +kernel
  have hdrain := drain_complete_and_ordered desk hour events hfresh hour
  -- What the run leaves is known by these facts alone.
  generalize (Situation.start desk hour).run events = s at hwaiting hslots hreach hdrain ⊢
  intro s' p q count
  have hcount : count = 1 := by
    rw [show count = min p.queueSize _ from rfl, hslots, queueSize, Backlog.size, hwaiting]
    rfl
  obtain ⟨hloops, -, ⟨moves, hfirst, hrest, hhanded⟩, hfits, hsweep, hsettled⟩ := hdrain
  have hends := hsweep hreach
  refine ⟨hfresh, hwaiting, hcount, (hloops q count).mpr ⟨rfl, rfl⟩,
    ⟨moves, hfirst, hrest, hhanded⟩, hfits hroster, hends, ?_⟩
  intro e he
  rcases List.mem_pair.mp he with rfl | rfl
  · exact hsettled .sweep True.intro hends
  · exact hsettled .shiftChanged True.intro True.intro

end Pool

end SupportDesk
