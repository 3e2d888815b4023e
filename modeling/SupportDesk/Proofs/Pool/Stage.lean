/-
# Where a session is

Seen from one session a pool has three stages: the session waits in the backlog, it is with the
agent of one queue, or the pool does not know it.  Only a creation brings a session into the
pool.  Everything else that happens leaves its stage as it is, hands a waiting session to an
agent, or ends it, and for each operation it is said here whose session it may end.

Sweeps are included that an arithmetic error cuts short.
-/

import SupportDesk.Proofs.Pool.Ledger

namespace SupportDesk.Pool

/-- Where a session of a pool is. -/
inductive Stage
  /-- It waits in the backlog. -/
  | waiting
  /-- It is with the agent of the queue at a position. -/
  | served (i : Nat)
  /-- The pool does not know it. -/
  | absent
deriving DecidableEq, Repr

/-- How a stage may change without a creation.  The parameter tells whether the session may be
ended. -/
inductive Stage.Leads (mayEnd : Prop) : Stage → Stage → Prop
  | stay (a : Stage) : Leads mayEnd a a
  | hand (i : Nat) : Leads mayEnd .waiting (.served i)
  | leave (a : Stage) (hend : mayEnd) : Leads mayEnd a .absent

namespace Stage.Leads

variable {mayEnd other : Prop} {a b c : Stage}

theorem of_eq (h : b = a) : Leads mayEnd a b := by
  rw [h]
  exact .stay a

theorem trans (hab : Leads mayEnd a b) (hbc : Leads mayEnd b c) : Leads mayEnd a c := by
  cases hab with
  | stay => exact hbc
  | hand i =>
      cases hbc with
      | stay => exact .hand i
      | leave _ hend => exact .leave _ hend
  | leave _ hend =>
      cases hbc with
      | stay => exact .leave _ hend
      | leave => exact .leave _ hend

theorem mono (h : Leads mayEnd a b) (himp : mayEnd → other) : Leads other a b := by
  cases h with
  | stay => exact .stay a
  | hand i => exact .hand i
  | leave _ hend => exact .leave a (himp hend)

/-- An unknown session stays unknown. -/
theorem absent_of_absent (h : Leads mayEnd .absent b) : b = .absent := by
  cases h <;> rfl

/-- A session stays with its agent until it is ended. -/
theorem of_served {i : Nat} (h : Leads mayEnd (.served i) b) :
    b = .served i ∨ b = .absent ∧ mayEnd := by
  cases h with
  | stay => exact .inl rfl
  | leave _ hend => exact .inr ⟨rfl, hend⟩

end Stage.Leads

/-- Where a session is. -/
def stage (p : Pool) (id : SessionId) : Stage :=
  if p.backlog.contains id then .waiting
  else (p.allocation.assignments.find? id).elim .absent .served

/-- One pool comes from another without a creation, and only some sessions have been ended. -/
def Advances (mayEnd : SessionId → Prop) (p q : Pool) : Prop :=
  ∀ id, (p.stage id).Leads (mayEnd id) (q.stage id)

/-- A session is known whose time has lapsed. -/
def Lapsed (p : Pool) (now : Moment) (id : SessionId) : Prop :=
  ∃ s, p.session? id = some s ∧ lapsed p.timeout now s.lastTouchedAt = true

theorem stage_eq_waiting_iff {p : Pool} {id : SessionId} :
    p.stage id = .waiting ↔ p.backlog.contains id = true := by
  unfold stage
  split
  next hwaits => simp [hwaits]
  next hout => cases p.allocation.assignments.find? id <;> simp [hout]

/-- Pools with the same sessions in each place have them at the same stages. -/
theorem stage_congr {p q : Pool} {id : SessionId}
    (hbacklog : q.backlog.contains id = p.backlog.contains id)
    (hassign : q.allocation.assignments.find? id = p.allocation.assignments.find? id) :
    q.stage id = p.stage id := by
  rw [stage, stage, hbacklog, hassign]

namespace Advances

variable {mayEnd other : SessionId → Prop} {p q r : Pool}

theorem of_stage_eq (h : ∀ id, q.stage id = p.stage id) : Advances mayEnd p q :=
  fun id => .of_eq (h id)

theorem refl (p : Pool) : Advances mayEnd p p := of_stage_eq fun _ => rfl

theorem trans (hpq : Advances mayEnd p q) (hqr : Advances mayEnd q r) : Advances mayEnd p r :=
  fun id => (hpq id).trans (hqr id)

theorem mono (h : Advances mayEnd p q) (himp : ∀ id, mayEnd id → other id) :
    Advances other p q := fun id => (h id).mono (himp id)

end Advances

namespace Consistent

variable {p q : Pool} {mayEnd : SessionId → Prop}

/-- A session that waits is not assigned. -/
theorem find?_assignments_of_waiting (h : p.Consistent) {id : SessionId}
    (hwaits : p.backlog.contains id = true) : p.allocation.assignments.find? id = none :=
  SessionTable.find?_eq_none_iff.mpr (h.not_assigned (h.disjoint id hwaits))

theorem stage_eq_served_iff (h : p.Consistent) {id : SessionId} {i : Nat} :
    p.stage id = .served i ↔ p.allocation.assignments.find? id = some i := by
  unfold stage
  split
  next hwaits => simp [h.find?_assignments_of_waiting hwaits]
  next => cases p.allocation.assignments.find? id <;> simp

theorem stage_eq_absent_iff (h : p.Consistent) {id : SessionId} :
    p.stage id = .absent ↔ p.contains id = false := by
  have hassigned : p.allocated.contains id = (p.allocation.assignments.find? id).isSome := by
    rw [← SessionTable.contains_eq_isSome, Bool.eq_iff_iff]
    exact h.allocated_iff id
  unfold stage contains
  rw [hassigned]
  split
  next hwaits => simp [hwaits]
  next hout => cases p.allocation.assignments.find? id <;> simp [hout]

/-! ## Opening, closing and draining -/

theorem advances_openAdditional (p : Pool) (now : Moment) :
    Advances mayEnd p (p.openAdditional now) := by
  unfold Pool.openAdditional
  split
  next a ha =>
    obtain ⟨i, -, rfl⟩ := Option.map_eq_some_iff.mp ha
    exact .of_stage_eq fun _ => rfl
  next => exact .refl p

theorem advances_relax (p : Pool) (now : Moment) : Advances mayEnd p (p.relax now) := by
  unfold Pool.relax
  split
  · exact .of_stage_eq fun _ => rfl
  · exact .refl p

/-- The first of the backlog comes to its agent, and all others stay where they are. -/
theorem advances_handOver (h : p.Consistent) {s : Session} {rest : List SessionId}
    (horder : p.backlog.order = s.id :: rest) (i : Nat) :
    Advances mayEnd p (p.handOver s i) := by
  obtain ⟨a, -, hfind, hpop⟩ := h.backlog.pop_of_order horder
  intro id
  by_cases hid : id = s.id
  · subst hid
    have hbefore : p.stage s.id = .waiting :=
      stage_eq_waiting_iff.mpr (SessionTable.contains_of_find? hfind)
    have hafter : (p.handOver s i).stage s.id = .served i := by
      simp [stage, Pool.handOver, hpop, Backlog.contains, SessionTable.contains_erase,
        Allocation.place, SessionTable.find?_insert]
    rw [hbefore, hafter]
    exact .hand i
  · refine .of_eq (stage_congr ?_ ?_)
    · simp [Pool.handOver, hpop, Backlog.contains, SessionTable.contains_erase, hid]
    · simp [Pool.handOver, Allocation.place, SessionTable.find?_insert, hid]

theorem advances_drain (h : p.Consistent) (now : Moment) :
    Advances mayEnd p (p.drain now).1 := by
  obtain ⟨moves, hdrains, -⟩ := h.drains now
  refine hdrains.preserves (P := fun q => Advances mayEnd p q) h ?_ (.refl p)
  intro q s rest i best hq horder _ _ hadvances
  exact hadvances.trans (hq.advances_handOver horder i)

/-! ## Ending sessions -/

/-- Sessions taken out of the backlog are ended. -/
theorem advances_dismiss (h : p.Consistent) (gone : List SessionId) :
    Advances (· ∈ gone) p (p.dismiss gone) := by
  intro id
  by_cases hends : id ∈ gone ∧ p.backlog.contains id = true
  · obtain ⟨hgone, hwaits⟩ := hends
    have hafter : (p.dismiss gone).stage id = .absent := by
      simp [stage, contains_backlog_dismiss, hgone, h.find?_assignments_of_waiting hwaits]
    rw [hafter]
    exact .leave _ hgone
  · refine .of_eq (stage_congr ?_ rfl)
    rw [contains_backlog_dismiss]
    by_cases hgone : id ∈ gone
    · have hout : p.backlog.contains id = false := by simpa [hgone] using hends
      simp [hout]
    · simp [hgone]

/-- A session that is released from its agent is ended. -/
theorem advances_release (h : p.Consistent) (id : SessionId) :
    Advances (· = id) p (p.release id) := by
  cases hi : p.allocation.assignments.find? id with
  | none =>
      rw [release_of_unassigned hi]
      exact .of_stage_eq fun _ => rfl
  | some i =>
      rw [release_of_assigned hi]
      intro k
      by_cases hk : k = id
      · subst hk
        have hbefore := h.stage_eq_served_iff.mpr hi
        have hout : p.backlog.contains k = false := by
          by_contra hwaits
          rw [stage_eq_waiting_iff.mpr (by simpa using hwaits)] at hbefore
          cases hbefore
        have hafter : Pool.stage { p with
            allocation := p.allocation.vacate k i, allocated := p.allocated.erase k } k =
              .absent := by
          simp [stage, hout, Allocation.vacate, SessionTable.find?_erase]
        rw [hafter]
        exact .leave _ rfl
      · refine .of_eq (stage_congr rfl ?_)
        simp [Allocation.vacate, SessionTable.find?_erase, hk]

theorem advances_foldl_release (h : p.Consistent) (ids : List SessionId) :
    Advances (· ∈ ids) p (ids.foldl Pool.release p) := by
  induction ids generalizing p with
  | nil => exact .refl p
  | cons id ids ih =>
      have hfirst : Advances (· ∈ id :: ids) p (p.release id) :=
        (h.advances_release id).mono fun _ hk => hk ▸ List.mem_cons_self
      have hrest :
          Advances (· ∈ id :: ids) (p.release id) (ids.foldl Pool.release (p.release id)) :=
        (ih (h.release id)).mono fun _ => List.mem_cons_of_mem id
      exact hfirst.trans hrest

/-! ## Operations -/

/-- A session that is created is in the pool then, and no other is ended. -/
theorem advances_create (h : p.Consistent) {id : SessionId} {now : Moment}
    (hnew : p.contains id = false) (hq : p.create? id now = some q) :
    q.stage id ≠ .absent ∧ ∀ k ≠ id, (p.stage k).Leads False (q.stage k) := by
  obtain ⟨-, rfl⟩ := create?_eq_some_iff.mp hq
  have hopened : Advances (fun _ => False) (p.withNew id now) (p.takeIn id now) := by
    unfold Pool.takeIn
    split
    · exact advances_openAdditional _ now
    · exact .refl _
  have hall := hopened.trans ((h.takeIn hnew now).advances_drain now)
  constructor
  · have hwaits : (p.withNew id now).stage id = .waiting := by
      rw [stage_eq_waiting_iff]
      simp [Pool.withNew, Backlog.contains, SessionTable.contains_insert]
    intro habsent
    have hid := hall id
    rw [hwaits, habsent] at hid
    cases hid with
    | leave _ hend => exact hend
  · intro k hk
    have hsame : (p.withNew id now).stage k = p.stage k := by
      refine stage_congr ?_ rfl
      simp [Pool.withNew, Backlog.contains, SessionTable.contains_insert, hk]
    rw [← hsame]
    exact hall k

/-- A sign of life leaves every session where it is. -/
theorem advances_prolong {id : SessionId} {now : Moment} (hq : p.prolong? id now = some q) :
    Advances mayEnd p q := by
  apply Advances.of_stage_eq
  intro k
  rcases prolong?_eq_some_iff.mp hq with ⟨-, rfl⟩ | ⟨-, -, rfl⟩
  · exact stage_congr (by simp [Backlog.contains, SessionTable.contains_modify]) rfl
  · rfl

/-- A session that is given to an agent directly changes the stage of no other. -/
theorem stage_allocate {s : Session} {now : Moment} (hq : p.allocate? s now = some q)
    {k : SessionId} (hk : k ≠ s.id) : q.stage k = p.stage k := by
  obtain ⟨-, hassign⟩ := allocate?_eq_some_iff.mp hq
  obtain ⟨-, -, i, best, -, rfl⟩ := assign?_eq_some_iff.mp hassign
  exact stage_congr rfl (by simp [Allocation.place, SessionTable.find?_insert, hk])

/-- An ending ends the session that it names. -/
theorem advances_destroy (h : p.Consistent) (id : SessionId) (now : Moment) :
    Advances (· = id) p (p.destroy id now).1 := by
  by_cases hwaits : p.backlog.contains id = true
  · rw [destroy_of_waiting now hwaits]
    have hgone := (h.advances_dismiss [id]).mono fun _ => List.mem_singleton.mp
    exact hgone.trans (advances_relax _ now)
  · rw [h.destroy_of_not_waiting now (by simpa using hwaits)]
    split
    · exact h.advances_release id
    · exact .refl p

/-- The waiting sessions that a sweep ends have lapsed. -/
theorem advances_expireWaiting (h : p.Consistent) {now : Moment}
    (hq : p.expireWaiting now = .ok q) : Advances (p.Lapsed now) p q := by
  obtain ⟨gone, hgone, rfl⟩ := expireWaiting_eq_ok_iff.mp hq
  split
  · exact .refl p
  · obtain ⟨-, rfl⟩ := Backlog.expired_eq_ok_iff.mp hgone
    refine ((h.advances_dismiss _).mono ?_).trans (advances_relax _ now)
    intro id hid
    obtain ⟨s, hfind, hlapsed⟩ := (Option.any_eq_true _ _).mp (List.mem_filter.mp hid).2
    exact ⟨s, h.session?_eq_some_iff.mpr (.inl hfind), hlapsed⟩

/-- So have the sessions with agents that it ends. -/
theorem advances_expireAllocated (h : p.Consistent) {now : Moment}
    (hq : p.expireAllocated now = .ok q) :
    Advances (fun id => ∃ s, p.allocated.find? id = some s ∧
      lapsed p.timeout now s.lastTouchedAt = true) p q := by
  obtain ⟨gone, hgone, rfl⟩ := expireAllocated_eq_ok_iff.mp hq
  refine (h.advances_foldl_release gone).mono ?_
  intro id hid
  obtain ⟨s, hs, hfound⟩ := exists_of_mem_filterMapM hgone hid
  obtain ⟨⟨key, value⟩, hentry, rfl⟩ := List.mem_map.mp hs
  have hfind := h.distinct.find?_eq_some hentry
  cases hexpired : value.expired p.timeout now with
  | error e => simp [hexpired, Except.map] at hfound
  | ok answer =>
      simp only [hexpired, Except.map, Except.ok.injEq, Option.ite_none_right_eq_some,
        Option.some.injEq] at hfound
      obtain ⟨rfl, rfl⟩ := hfound
      obtain ⟨-, hlapsed⟩ := Session.expired_eq_ok_iff.mp hexpired
      exact ⟨value, by rw [h.keyed key value hfind]; exact hfind, hlapsed.symm⟩

/-- A sweep ends lapsed sessions only, also where an error cuts it short. -/
theorem advances_sweep (h : p.Consistent) (now : Moment) :
    Advances (p.Lapsed now) p (p.sweep now).pool := by
  generalize hq : (p.sweep now).pool = q
  cases hq ▸ p.sweeps_sweep now with
  | refused => exact .refl p
  | halfway hwaiting => exact h.advances_expireWaiting hwaiting
  | @whole q r hwaiting hactive =>
      have hfirst := h.advances_expireWaiting hwaiting
      have hq := h.expireWaiting hwaiting
      have hlast : Advances (p.Lapsed now) r (r.drain now).1 :=
        (hq.expireAllocated hactive).advances_drain now
      refine (hfirst.trans ((hq.advances_expireAllocated hactive).mono ?_)).trans hlast
      rintro id ⟨s, hs, hlapsed⟩
      obtain ⟨hallocated, htimeout⟩ := expireWaiting_frame hwaiting
      rw [hallocated] at hs
      rw [htimeout] at hlapsed
      exact ⟨s, h.session?_eq_some_iff.mpr (.inr hs), hlapsed⟩

/-- A change of shift ends nobody. -/
theorem advances_shiftChanged (h : p.Consistent) (now : Moment) :
    Advances mayEnd p (p.shiftChanged now) := by
  have hadjust : Advances mayEnd p (p.adjust now) := by
    unfold Pool.adjust
    split
    · exact advances_openAdditional p now
    · exact advances_relax p now
  have hlimit : Advances mayEnd (p.adjust now)
      ((p.adjust now).withLimit (p.maximumQueueSize now)) := .of_stage_eq fun _ => rfl
  rw [shiftChanged_eq]
  exact (hadjust.trans hlimit).trans (((h.adjust now).withLimit _).advances_drain now)

end Consistent

namespace Situation

/-- The identifier that an event gives out: that of a granted creation. -/
def drawn (s : Situation) : Event → Option SessionId
  | .create id => if s.grants (.create id) then some id else none
  | _ => none

/-- The identifier under which an event brings a session into the pool. -/
def enters (s : Situation) : Event → Option SessionId
  | .allocate a => if s.grants (.allocate a) then some a.id else none
  | e => s.drawn e

/-- Whose session an event may end. -/
def MayEnd (s : Situation) (e : Event) (id : SessionId) : Prop :=
  e = .destroy id ∨ e = .sweep ∧ s.pool.Lapsed s.now id

/-- A session that is created now draws an identifier that the pool does not have. -/
def DrawsNew (s : Situation) (e : Event) : Prop :=
  ∀ id, s.drawn e = some id → s.pool.contains id = false

theorem drawn_create {s : Situation} {id : SessionId} {q : Pool}
    (hq : s.pool.create? id s.now = some q) : s.drawn (.create id) = some id := by
  simp [drawn, grants, hq]

theorem Fresh.drawsNew {s : Situation} {e : Event} (h : s.Fresh e) : s.DrawsNew e := by
  intro id hid
  cases e with
  | create k =>
      simp only [drawn, Option.ite_none_right_eq_some, Option.some.injEq] at hid
      exact hid.2 ▸ h
  | _ => cases hid

/-- It is enough for consistency that the identifiers which are given out are new. -/
theorem DrawsNew.consistent_step {s : Situation} {e : Event} (hnew : s.DrawsNew e)
    (h : s.pool.Consistent) : (s.step e).pool.Consistent := by
  cases e with
  | create id =>
      cases hq : s.pool.create? id s.now with
      | none => simpa [step, hq] using h
      | some q => simpa [step, hq] using h.create (hnew id (drawn_create hq)) hq
  | _ => exact Situation.consistent_step True.intro h

/-- An event changes the stage of a session that it does not bring into the pool only as stages
may change, and ends it only if it is one that ends this session. -/
theorem stage_step {s : Situation} {e : Event} (hnew : s.DrawsNew e) (h : s.pool.Consistent)
    {id : SessionId} (hid : s.enters e ≠ some id) :
    (s.pool.stage id).Leads (s.MayEnd e id) ((s.step e).pool.stage id) := by
  cases e with
  | create k =>
      cases hq : s.pool.create? k s.now with
      | none => exact .of_eq (by simp [step, hq])
      | some q =>
          have hk : id ≠ k := by
            rintro rfl
            exact hid (drawn_create hq)
          have hleads := (h.advances_create (hnew k (drawn_create hq)) hq).2 id hk
          simpa [step, hq] using hleads.mono False.elim
  | prolong k =>
      cases hq : s.pool.prolong? k s.now with
      | none => exact .of_eq (by simp [step, hq])
      | some q => simpa [step, hq] using Consistent.advances_prolong hq id
  | destroy k =>
      refine (h.advances_destroy k s.now id).mono ?_
      rintro rfl
      exact .inl rfl
  | allocate a =>
      cases hq : s.pool.allocate? a s.now with
      | none => exact .of_eq (by simp [step, hq])
      | some q =>
          have ha : id ≠ a.id := by
            rintro rfl
            simp [enters, grants, hq] at hid
          exact .of_eq (by simpa [step, hq] using Consistent.stage_allocate hq ha)
  | sweep => exact (h.advances_sweep s.now id).mono fun hlapsed => .inr ⟨rfl, hlapsed⟩
  | drain => exact h.advances_drain s.now id
  | shiftChanged => exact h.advances_shiftChanged s.now id
  | setClock now => exact .stay _

/-- A session that is created is in the pool then. -/
theorem contains_step_of_drawn {s : Situation} {e : Event} (hnew : s.DrawsNew e)
    (h : s.pool.Consistent) {id : SessionId} (hid : s.drawn e = some id) :
    (s.step e).pool.contains id = true := by
  have hout := hnew id hid
  cases e with
  | create k =>
      simp only [drawn, Option.ite_none_right_eq_some, Option.some.injEq] at hid
      obtain ⟨hgranted, rfl⟩ := hid
      obtain ⟨q, hq⟩ := Option.isSome_iff_exists.mp hgranted
      have hstays := (h.advances_create hout hq).1
      rw [Ne, (h.create hout hq).stage_eq_absent_iff, Bool.not_eq_false] at hstays
      simpa [step, hq] using hstays
  | _ => cases hid

end Situation

end SupportDesk.Pool
