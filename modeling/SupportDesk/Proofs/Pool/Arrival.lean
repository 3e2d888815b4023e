/-
# First come, first served

Sessions leave the backlog for an agent at its head only.  Seen from outside, an operation that
creates nothing splits the line in two: of the front everyone is gone, to an agent or for good,
and of the rest nobody has come to an agent and nobody has changed places.  Over a run the
sessions that have been created are split in the same way, into earlier ones, among which are
all that an agent was ever given, and later ones, among which are all that wait.
-/

import SupportDesk.Proofs.Pool.History

namespace SupportDesk.Pool

/-- One pool comes from another by the first of its line leaving it, some of them for an agent,
and by others dropping out of the rest. -/
structure TakesFromFront (p q : Pool) (front rest : List SessionId) : Prop where
  order : p.backlog.order = front ++ rest
  remaining : q.backlog.order.Sublist rest
  served : ∀ id, q.allocated.contains id = true → p.allocated.contains id = true ∨ id ∈ front

/-- For some splitting of the line. -/
def KeepsOrder (p q : Pool) : Prop := ∃ front rest, TakesFromFront p q front rest

namespace KeepsOrder

variable {p q r : Pool}

/-- Nobody comes to an agent, and nobody changes places. -/
theorem of_sublist (horder : q.backlog.order.Sublist p.backlog.order)
    (hserved : ∀ id, q.allocated.contains id = true → p.allocated.contains id = true) :
    KeepsOrder p q :=
  ⟨[], p.backlog.order, rfl, horder, fun id hid => .inl (hserved id hid)⟩

theorem of_eq (horder : q.backlog.order = p.backlog.order)
    (hserved : q.allocated = p.allocated) : KeepsOrder p q :=
  of_sublist (horder ▸ List.Sublist.refl _) fun _ hid => hserved ▸ hid

theorem refl (p : Pool) : KeepsOrder p p := of_eq rfl rfl

/-- What leaves the line later stood behind what left it before. -/
theorem trans (hpq : KeepsOrder p q) (hqr : KeepsOrder q r) : KeepsOrder p r := by
  obtain ⟨front, rest, horder, hremaining, hserved⟩ := hpq
  obtain ⟨next, back, hsplit, hback, hnext⟩ := hqr
  rw [hsplit] at hremaining
  obtain ⟨middle, last, rfl, hmiddle, hlast⟩ := List.append_sublist_iff.mp hremaining
  refine ⟨front ++ middle, last, ?_, hback.trans hlast, ?_⟩
  · rw [horder, List.append_assoc]
  · intro id hid
    rcases hnext id hid with hq | hin
    · rcases hserved id hq with hp | hfront
      · exact .inl hp
      · exact .inr (List.mem_append_left middle hfront)
    · exact .inr (List.mem_append_right front (hmiddle.subset hin))

end KeepsOrder

theorem keepsOrder_openAdditional (p : Pool) (now : Moment) :
    KeepsOrder p (p.openAdditional now) := by
  rw [openAdditional_eq]
  exact .of_eq rfl rfl

theorem keepsOrder_relax (p : Pool) (now : Moment) : KeepsOrder p (p.relax now) := by
  rw [relax_eq]
  exact .of_eq rfl rfl

theorem keepsOrder_dismiss (p : Pool) (gone : List SessionId) : KeepsOrder p (p.dismiss gone) :=
  .of_sublist List.filter_sublist fun _ hid => hid

theorem keepsOrder_release (p : Pool) (id : SessionId) : KeepsOrder p (p.release id) := by
  rw [release_eq]
  refine .of_sublist (List.Sublist.refl _) ?_
  intro k hk
  simp only [SessionTable.contains_erase, Bool.and_eq_true] at hk
  exact hk.2

theorem keepsOrder_destroy (p : Pool) (id : SessionId) (now : Moment) :
    KeepsOrder p (p.destroy id now).1 := by
  rcases p.destroy_cases id now with hend | hend | hend <;> rw [hend]
  · exact (keepsOrder_dismiss p [id]).trans (keepsOrder_relax _ now)
  · exact keepsOrder_release p id
  · exact .refl p

theorem keepsOrder_foldl_release (ids : List SessionId) (p : Pool) :
    KeepsOrder p (ids.foldl release p) := by
  induction ids generalizing p with
  | nil => exact .refl p
  | cons id ids ih => exact (keepsOrder_release p id).trans (ih (p.release id))

theorem keepsOrder_prolong {p q : Pool} {id : SessionId} {now : Moment}
    (hq : p.prolong? id now = some q) : KeepsOrder p q := by
  rcases prolong?_eq_some_iff.mp hq with ⟨-, rfl⟩ | ⟨-, -, rfl⟩
  · exact .of_eq rfl rfl
  · refine .of_sublist (List.Sublist.refl _) ?_
    intro k hk
    simpa only [SessionTable.contains_modify] using hk

theorem keepsOrder_expireWaiting {p q : Pool} {now : Moment} (hq : p.expireWaiting now = .ok q) :
    KeepsOrder p q := by
  obtain ⟨gone, -, rfl⟩ := expireWaiting_eq_ok_iff.mp hq
  split
  · exact .refl p
  · exact (keepsOrder_dismiss p gone).trans (keepsOrder_relax _ now)

theorem keepsOrder_expireAllocated {p q : Pool} {now : Moment}
    (hq : p.expireAllocated now = .ok q) : KeepsOrder p q := by
  obtain ⟨gone, -, rfl⟩ := expireAllocated_eq_ok_iff.mp hq
  exact keepsOrder_foldl_release gone p

namespace Consistent

variable {p q : Pool}

/-- The first of the line is handed over. -/
theorem keepsOrder_handOver (h : p.Consistent) {s : Session} {rest : List SessionId}
    (horder : p.backlog.order = s.id :: rest) (i : Nat) : KeepsOrder p (p.handOver s i) := by
  obtain ⟨a, -, -, hpop⟩ := h.backlog.pop_of_order horder
  refine ⟨[s.id], rest, horder, ?_, ?_⟩
  · rw [Pool.handOver, hpop]
  · intro id hid
    simp only [Pool.handOver, SessionTable.contains_insert, Bool.or_eq_true,
      decide_eq_true_eq] at hid
    rcases hid with rfl | hid
    · exact .inr List.mem_cons_self
    · exact .inl hid

theorem keepsOrder_drain (h : p.Consistent) (now : Moment) : KeepsOrder p (p.drain now).1 := by
  obtain ⟨moves, hdrains, -⟩ := h.drains now
  refine hdrains.preserves (P := KeepsOrder p) h ?_ (.refl p)
  intro q s rest i best hq horder _ _ hkeeps
  exact hkeeps.trans (hq.keepsOrder_handOver horder i)

/-- A session that is created joins the line at its end before anyone is served. -/
theorem keepsOrder_create (h : p.Consistent) {id : SessionId} {now : Moment}
    (hnew : p.contains id = false) (hq : p.create? id now = some q) :
    KeepsOrder (p.withNew id now) q := by
  obtain ⟨-, rfl⟩ := create?_eq_some_iff.mp hq
  have hopened : KeepsOrder (p.withNew id now) (p.takeIn id now) := by
    unfold Pool.takeIn
    split
    · exact keepsOrder_openAdditional _ now
    · exact .refl _
  exact hopened.trans ((h.takeIn hnew now).keepsOrder_drain now)

theorem keepsOrder_shiftChanged (h : p.Consistent) (now : Moment) :
    KeepsOrder p (p.shiftChanged now) := by
  have hadjust : KeepsOrder p ((p.adjust now).withLimit (p.maximumQueueSize now)) := by
    rw [adjust_eq]
    exact .of_eq rfl rfl
  rw [shiftChanged_eq]
  exact hadjust.trans (((h.adjust now).withLimit _).keepsOrder_drain now)

theorem keepsOrder_sweep (h : p.Consistent) (now : Moment) :
    KeepsOrder p (p.sweep now).pool := by
  generalize hq : (p.sweep now).pool = q
  cases hq ▸ p.sweeps_sweep now with
  | refused => exact .refl p
  | halfway hwaiting => exact keepsOrder_expireWaiting hwaiting
  | whole hwaiting hactive =>
      have hr := (h.expireWaiting hwaiting).expireAllocated hactive
      have hboth := (keepsOrder_expireWaiting hwaiting).trans (keepsOrder_expireAllocated hactive)
      exact hboth.trans (hr.keepsOrder_drain now)

end Consistent

namespace Situation

/-- The pool with the session that an event creates at the end of the line. -/
def joined (s : Situation) (e : Event) : Pool :=
  (s.drawn e).elim s.pool fun id => s.pool.withNew id s.now

theorem order_joined (s : Situation) (e : Event) :
    (s.joined e).backlog.order = s.pool.backlog.order ++ (s.drawn e).toList := by
  unfold joined
  cases s.drawn e <;> simp [withNew]

theorem allocated_joined (s : Situation) (e : Event) :
    (s.joined e).allocated = s.pool.allocated := by
  unfold joined
  cases s.drawn e <;> rfl

/-- Whoever an event creates joins the line at its end, and then the line keeps its order. -/
theorem keepsOrder_step {s : Situation} {e : Event} (hnew : s.DrawsNew e)
    (h : s.pool.Consistent) (hwithin : ∀ a, e ≠ .allocate a) :
    KeepsOrder (s.joined e) (s.step e).pool := by
  cases e with
  | create id =>
      cases hq : s.pool.create? id s.now with
      | none => simpa [step, joined, drawn, grants, hq] using KeepsOrder.refl s.pool
      | some q =>
          have hdrawn := drawn_create hq
          simpa [step, joined, hdrawn, hq] using h.keepsOrder_create (hnew id hdrawn) hq
  | prolong id =>
      cases hq : s.pool.prolong? id s.now with
      | none => simpa [step, joined, drawn, hq] using KeepsOrder.refl s.pool
      | some q => simpa [step, joined, drawn, hq] using keepsOrder_prolong hq
  | destroy id => exact keepsOrder_destroy s.pool id s.now
  | allocate a => exact absurd rfl (hwithin a)
  | sweep => exact h.keepsOrder_sweep s.now
  | drain => exact h.keepsOrder_drain s.now
  | shiftChanged => exact h.keepsOrder_shiftChanged s.now
  | setClock now => exact .refl s.pool

/-- A session was with an agent at some time in a run. -/
def Served (s : Situation) (events : List Event) (id : SessionId) : Prop :=
  ∃ before after, events = before ++ after ∧ (s.run before).pool.allocated.contains id = true

/-- One session was created before another in a run. -/
def CreatedBefore (s : Situation) (events : List Event) (first second : SessionId) : Prop :=
  [first, second].Sublist (s.created events)

/-- Whoever was served in a longer run was served before its last event or is served after it. -/
theorem served_concat {s : Situation} {events : List Event} {e : Event} {id : SessionId}
    (h : s.Served (events ++ [e]) id) :
    s.Served events id ∨ ((s.run events).step e).pool.allocated.contains id = true := by
  obtain ⟨before, after, heq, hin⟩ := h
  cases after using List.reverseRecOn with
  | nil =>
      rw [List.append_nil] at heq
      rw [← heq, run_append] at hin
      exact .inr hin
  | append_singleton after last =>
      rw [← List.append_assoc] at heq
      obtain ⟨rfl, -⟩ := List.append_inj' heq rfl
      exact .inl ⟨before, after, rfl, hin⟩

/-- What a run has created falls into earlier sessions, among which are all that an agent was
ever given, and later ones, among which are all that wait, in this order. -/
structure Lined (s : Situation) (events : List Event) (earlier later : List SessionId) : Prop where
  created : s.created events = earlier ++ later
  waiting : (s.run events).pool.backlog.order.Sublist later
  served : ∀ id, s.Served events id → id ∈ earlier

namespace Lined

variable {s : Situation} {events : List Event} {earlier later : List SessionId}

/-- The split moves back by those who leave the line for an agent. -/
theorem concat {e : Event} (h : s.Lined events earlier later)
    (hkeeps : KeepsOrder ((s.run events).joined e) ((s.run events).step e).pool) :
    ∃ earlier later, s.Lined (events ++ [e]) earlier later := by
  obtain ⟨front, rest, horder, hremaining, hserved⟩ := hkeeps
  have hjoined : (front ++ rest).Sublist (later ++ ((s.run events).drawn e).toList) := by
    rw [← horder, order_joined]
    exact h.waiting.append (List.Sublist.refl _)
  obtain ⟨middle, last, hsplit, hmiddle, hlast⟩ := List.append_sublist_iff.mp hjoined
  refine ⟨earlier ++ middle, last, ?_, ?_, ?_⟩
  · rw [created_concat, h.created, List.append_assoc, hsplit, List.append_assoc]
  · rw [run_append]
    exact hremaining.trans hlast
  · intro id hid
    rcases served_concat hid with hbefore | hnow
    · exact List.mem_append_left _ (h.served id hbefore)
    · rcases hserved id hnow with hthen | hfront
      · rw [allocated_joined] at hthen
        exact List.mem_append_left _ (h.served id ⟨events, [], by simp, hthen⟩)
      · exact List.mem_append_right _ (hmiddle.subset hfront)

/-- Whoever was served was created before all who wait. -/
theorem createdBefore (h : s.Lined events earlier later) {id k : SessionId}
    (hid : s.Served events id) (hk : k ∈ (s.run events).pool.backlog.order) :
    s.CreatedBefore events id k := by
  have hfirst : [id].Sublist earlier := List.singleton_sublist.mpr (h.served id hid)
  have hsecond : [k].Sublist later := List.singleton_sublist.mpr (h.waiting.subset hk)
  rw [CreatedBefore, h.created]
  exact hfirst.append hsecond

end Lined

/-- A run from a new pool that draws once can be split in this way at its end. -/
theorem DrawsOnce.exists_lined {settings : PoolSettings} {now : Moment} {events : List Event}
    (h : (start settings now).DrawsOnce events) :
    ∃ earlier later, (start settings now).Lined events earlier later := by
  induction events using List.reverseRecOn with
  | nil =>
      refine ⟨[], [], rfl, List.Sublist.refl [], ?_⟩
      rintro id ⟨before, after, heq, hin⟩
      obtain ⟨rfl, -⟩ := List.append_eq_nil_iff.mp heq.symm
      cases hin
  | append_singleton events e ih =>
      obtain ⟨earlier, later, hlined⟩ := ih h.init
      have htraced := h.init.traced
      have hwithin : ∀ a, e ≠ .allocate a := by
        rintro a rfl
        exact h.within a (by simp)
      exact hlined.concat (keepsOrder_step (htraced.drawsNew h) htraced.consistent hwithin)

end Situation

/-- Nobody overtakes.  In a run from a new pool in which no identifier is given out twice, the
backlog lists its sessions in the order in which they were created, and every session that was
ever with an agent was created before every one that waits. -/
theorem first_come_first_served (settings : PoolSettings) (now : Moment) (events : List Event)
    (honce : (Situation.start settings now).DrawsOnce events) :
    let start := Situation.start settings now
    let p := (start.run events).pool
    p.backlog.order.Sublist (start.created events) ∧
      ∀ id, start.Served events id → ∀ k ∈ p.backlog.order, start.CreatedBefore events id k := by
  intro start p
  obtain ⟨earlier, later, hlined⟩ := honce.exists_lined
  constructor
  · rw [hlined.created]
    exact hlined.waiting.trans (List.sublist_append_right earlier later)
  · intro id hid k hk
    exact hlined.createdBefore hid hk

/-- On a small desk with two slots for each agent the first session has ended and one that
waited has been ended out of the middle of the line.  The clock was set back, the last of the
line has shown signs of life, and another session has joined behind it. -/
theorem first_come_first_served_smallDesk :
    let desk : PoolSettings := { smallDesk with concurrency := 5 }
    let now := sampleHour 10
    let events : List Event := [.create (.ofNat 0), .create (.ofNat 1), .create (.ofNat 2),
      .create (.ofNat 3), .create (.ofNat 4), .create (.ofNat 5), .create (.ofNat 6),
      .create (.ofNat 7), .create (.ofNat 8), .destroy (.ofNat 7), .setClock (sampleHour 9),
      .prolong (.ofNat 8), .destroy (.ofNat 0), .drain, .create (.ofNat 9)]
    (Situation.start desk now).DrawsOnce events ∧
      ((Situation.start desk now).run events).pool.backlog.order = [.ofNat 8, .ofNat 9] ∧
      [SessionId.ofNat 8, .ofNat 9].Sublist ((Situation.start desk now).created events) ∧
      ((Situation.start desk now).run events).pool.contains (.ofNat 0) = false ∧
      (Situation.start desk now).CreatedBefore events (.ofNat 0) (.ofNat 8) ∧
      (Situation.start desk now).CreatedBefore events (.ofNat 6) (.ofNat 8) := by
  intro desk now events
  have honce : (Situation.start desk now).DrawsOnce events :=
    ⟨by simp [events], by decide +kernel⟩
  have horder : ((Situation.start desk now).run events).pool.backlog.order =
      [.ofNat 8, .ofNat 9] := by decide +kernel
  have hwaits : SessionId.ofNat 8 ∈ ((Situation.start desk now).run events).pool.backlog.order := by
    rw [horder]
    exact List.mem_cons_self
  have hfirst : (Situation.start desk now).Served events (.ofNat 0) :=
    ⟨events.take 1, events.drop 1, rfl, by decide +kernel⟩
  have hlast : (Situation.start desk now).Served events (.ofNat 6) :=
    ⟨events, [], by simp, by decide +kernel⟩
  obtain ⟨hline, hbefore⟩ := first_come_first_served desk now events honce
  refine ⟨honce, horder, ?_, by decide +kernel, ?_, ?_⟩
  · rw [← horder]
    exact hline
  · exact hbefore (.ofNat 0) hfirst (.ofNat 8) hwaits
  · exact hbefore (.ofNat 6) hlast (.ofNat 8) hwaits

end SupportDesk.Pool
