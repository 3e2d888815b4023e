/-
# What operations do to the sessions of any pool

Identifiers are drawn at random, and a pool may be asked for a session under an identifier that
it has.  Even then its sessions can be found: whatever waits is listed in the order, and every
session is kept under its own identifier.  This much is kept by every operation, and it is enough
to say what an operation does to the sessions themselves: those that are left were there before
or have just shown a sign of life, and none is lost but those that the operation ends.

A sweep that no arithmetic error cuts short leaves no session whose time has lapsed, wherever the
session is.
-/

import SupportDesk.Proofs.Pool.Ledger

namespace SupportDesk.Pool

/-- A session is kept under an identifier, waiting or with an agent. -/
def Live (p : Pool) (id : SessionId) (s : Session) : Prop :=
  p.backlog.sessions.find? id = some s ∨ p.allocated.find? id = some s

/-- The sessions of a pool can be found. -/
structure Indexed (p : Pool) : Prop where
  ordered : ∀ id, p.backlog.contains id = true → id ∈ p.backlog.order
  waiting : p.backlog.sessions.Keyed
  served : p.allocated.Keyed

/-- A pool is left in which sessions can be found.  They were there before or have been touched
at certain moments, and only those are gone that may be ended. -/
structure Renews (touches : Moment → Prop) (mayEnd : SessionId → Prop) (p q : Pool) : Prop where
  indexed : q.Indexed
  live : ∀ id s, q.Live id s → p.Live id s ∨ touches s.lastTouchedAt
  known : ∀ id, p.contains id = true → q.contains id = true ∨ mayEnd id

theorem indexed_ofSettings (settings : PoolSettings) (now : Moment) :
    (ofSettings settings now).Indexed :=
  have h := consistent_ofSettings settings now
  ⟨fun id => (h.backlog.mem_order id).mpr, h.backlog.keyed, h.keyed⟩

variable {touches : Moment → Prop} {mayEnd other : SessionId → Prop} {now : Moment}
  {p q r : Pool}

namespace Renews

theorem trans (hpq : Renews touches mayEnd p q) (hqr : Renews touches mayEnd q r) :
    Renews touches mayEnd p r := by
  refine ⟨hqr.indexed, ?_, ?_⟩
  · intro id s hs
    rcases hqr.live id s hs with hs | htouched
    · exact hpq.live id s hs
    · exact .inr htouched
  · intro id hid
    rcases hpq.known id hid with hid | hend
    · exact hqr.known id hid
    · exact .inr hend

theorem mono (h : Renews touches mayEnd p q) (himp : ∀ id, mayEnd id → other id) :
    Renews touches other p q :=
  ⟨h.indexed, h.live, fun id hid => (h.known id hid).imp_right (himp id)⟩

end Renews

namespace Indexed

/-- A change that touches neither the backlog's sessions nor those with agents. -/
theorem renews_of_same (h : p.Indexed) (horder : q.backlog.order = p.backlog.order)
    (hwaiting : q.backlog.sessions = p.backlog.sessions) (hserved : q.allocated = p.allocated) :
    Renews touches mayEnd p q := by
  refine ⟨⟨?_, hwaiting ▸ h.waiting, hserved ▸ h.served⟩, ?_, ?_⟩
  · rw [horder]
    simpa only [Backlog.contains, hwaiting] using h.ordered
  · intro id s hs
    rw [Live, hwaiting, hserved] at hs
    exact .inl hs
  · intro id hid
    left
    rwa [contains, Backlog.contains, hwaiting, hserved]

theorem renews_refl (h : p.Indexed) : Renews touches mayEnd p p := h.renews_of_same rfl rfl rfl

/-! ## The parts of operations -/

theorem renews_openAdditional (h : p.Indexed) (now : Moment) :
    Renews touches mayEnd p (p.openAdditional now) := by
  rw [openAdditional_eq]
  exact h.renews_of_same rfl rfl rfl

theorem renews_relax (h : p.Indexed) (now : Moment) : Renews touches mayEnd p (p.relax now) := by
  rw [relax_eq]
  exact h.renews_of_same rfl rfl rfl

/-- A new session at the end of the backlog is touched now. -/
theorem renews_withNew (h : p.Indexed) (htouches : touches now) (id : SessionId) :
    Renews touches mayEnd p (p.withNew id now) := by
  refine ⟨⟨?_, h.waiting.insert (.start id now), h.served⟩, ?_, ?_⟩
  · intro k hk
    simp only [withNew, Backlog.contains, SessionTable.contains_insert, Bool.or_eq_true,
      decide_eq_true_eq] at hk
    rcases hk with rfl | hk
    · exact List.mem_append_right _ (List.mem_singleton.mpr rfl)
    · exact List.mem_append_left _ (h.ordered k hk)
  · rintro k s (hs | hs)
    · simp only [withNew, SessionTable.find?_insert] at hs
      split at hs
      next =>
        cases hs
        exact .inr htouches
      next => exact .inl (.inl hs)
    · exact .inl (.inr hs)
  · intro k hk
    left
    simp only [contains, withNew, Backlog.contains, SessionTable.contains_insert,
      Bool.or_eq_true] at hk ⊢
    tauto

/-- What is left of the backlog without the first of its order. -/
theorem ordered_rest (h : p.Indexed) {id : SessionId} {rest : List SessionId}
    (horder : p.backlog.order = id :: rest) {k : SessionId}
    (hk : (p.backlog.sessions.erase id).contains k = true) : k ∈ rest := by
  rw [SessionTable.contains_erase, Bool.and_eq_true, decide_eq_true_eq] at hk
  have hmem := h.ordered k hk.2
  rw [horder] at hmem
  exact (List.mem_cons.mp hmem).resolve_left hk.1

/-- Taking the first of the order where it has no session. -/
theorem renews_skip (h : p.Indexed) {b : Backlog} (hb : p.backlog.pop = (none, b)) :
    Renews touches mayEnd p { p with backlog := b } := by
  unfold Backlog.pop at hb
  split at hb
  next =>
    cases hb
    exact h.renews_refl
  next id rest horder =>
    obtain ⟨hnone, rfl⟩ := Prod.mk.inj hb
    have hfind (k : SessionId) :
        (p.backlog.sessions.erase id).find? k = p.backlog.sessions.find? k := by
      rw [SessionTable.find?_erase]
      split
      next hk => rw [hk, hnone]
      next => rfl
    refine ⟨⟨fun k => h.ordered_rest horder, h.waiting.erase id, h.served⟩, ?_, ?_⟩
    · intro k s hs
      rw [Live, hfind] at hs
      exact .inl hs
    · intro k hk
      left
      rwa [contains, Backlog.contains, SessionTable.contains_eq_isSome, hfind,
        ← SessionTable.contains_eq_isSome]

/-- Giving the first of the order to an agent. -/
theorem renews_give (h : p.Indexed) {b : Backlog} {s : Session} {now : Moment}
    (hb : p.backlog.pop = (some s, b))
    (hq : Pool.assign? { p with backlog := b } s now = some q) : Renews touches mayEnd p q := by
  obtain ⟨-, -, i, best, -, rfl⟩ := assign?_eq_some_iff.mp hq
  unfold Backlog.pop at hb
  split at hb
  next => cases hb
  next id rest horder =>
    obtain ⟨hfind, rfl⟩ := Prod.mk.inj hb
    obtain rfl := h.waiting id s hfind
    refine ⟨⟨fun k => h.ordered_rest horder, h.waiting.erase s.id, h.served.insert s⟩, ?_, ?_⟩
    · intro k a ha
      left
      simp only [Live, SessionTable.find?_erase, SessionTable.find?_insert] at ha
      by_cases hk : k = s.id
      · subst hk
        obtain rfl : s = a := by simpa using ha
        exact .inl hfind
      · rwa [if_neg hk, if_neg hk] at ha
    · intro k hk
      left
      simp only [contains, Backlog.contains, SessionTable.contains_erase,
        SessionTable.contains_insert, Bool.or_eq_true, Bool.and_eq_true, decide_eq_true_eq] at hk ⊢
      tauto

/-- Putting the first of the order back where it was. -/
theorem renews_putBack (h : p.Indexed) {b : Backlog} {s : Session}
    (hb : p.backlog.pop = (some s, b)) :
    Renews touches mayEnd p { p with backlog := b.restoreFront s } := by
  unfold Backlog.pop at hb
  split at hb
  next => cases hb
  next id rest horder =>
    obtain ⟨hfind, rfl⟩ := Prod.mk.inj hb
    obtain rfl := h.waiting id s hfind
    have hback : Backlog.restoreFront
        { p.backlog with order := rest, sessions := p.backlog.sessions.erase s.id } s =
          { p.backlog with
            order := s.id :: rest
            sessions := (p.backlog.sessions.erase s.id).insert s.id s } := by
      simp [Backlog.restoreFront, Backlog.contains, SessionTable.contains_erase]
    have hsame (k : SessionId) :
        ((p.backlog.sessions.erase s.id).insert s.id s).find? k = p.backlog.sessions.find? k := by
      rw [SessionTable.find?_insert, SessionTable.find?_erase]
      split
      next hk => rw [hk, hfind]
      next => rfl
    have hcontains (k : SessionId) : ((p.backlog.sessions.erase s.id).insert s.id s).contains k =
        p.backlog.sessions.contains k := by
      rw [SessionTable.contains_eq_isSome, hsame, ← SessionTable.contains_eq_isSome]
    rw [hback, ← horder]
    refine ⟨⟨?_, (h.waiting.erase s.id).insert s, h.served⟩, ?_, ?_⟩
    · intro k hk
      rw [Backlog.contains, hcontains] at hk
      exact h.ordered k hk
    · intro k a ha
      rw [Live, hsame] at ha
      exact .inl ha
    · intro k hk
      left
      rwa [contains, Backlog.contains, hcontains]

/-- A drain moves sessions, changes none and loses none. -/
theorem renews_drain (h : p.Indexed) (now : Moment) : Renews touches mayEnd p (p.drain now).1 := by
  refine drain_preserves_of_turns (P := Renews touches mayEnd p) ?_ ?_ ?_ h.renews_refl
  · intro q b hb hq
    exact hq.trans (hq.indexed.renews_skip hb)
  · intro q r s b hb hr hq
    exact hq.trans (hq.indexed.renews_give hb hr)
  · intro q s b hb hq
    exact hq.trans (hq.indexed.renews_putBack hb)

theorem live_drain (h : p.Indexed) {id : SessionId} {s : Session}
    (hs : (p.drain now).1.Live id s) : p.Live id s := by
  have hdrain : Renews (fun _ => False) (fun _ => False) p (p.drain now).1 := h.renews_drain now
  exact (hdrain.live id s hs).resolve_right not_false

/-- Sessions taken out of the backlog are ended. -/
theorem renews_dismiss (h : p.Indexed) (gone : List SessionId) :
    Renews touches (· ∈ gone) p (p.dismiss gone) := by
  refine ⟨⟨?_, h.waiting.foldl_erase gone, h.served⟩, ?_, ?_⟩
  · intro k hk
    rw [contains_backlog_dismiss, Bool.and_eq_true, decide_eq_true_eq] at hk
    exact List.mem_filter.mpr ⟨h.ordered k hk.2, decide_eq_true hk.1⟩
  · rintro k s (hs | hs)
    · simp only [dismiss, SessionTable.find?_foldl_erase] at hs
      split at hs
      next => cases hs
      next => exact .inl (.inl hs)
    · exact .inl (.inr hs)
  · intro k hk
    have hallocated : (p.dismiss gone).allocated = p.allocated := rfl
    simp only [contains, contains_backlog_dismiss, hallocated, Bool.or_eq_true, Bool.and_eq_true,
      decide_eq_true_eq] at hk ⊢
    tauto

/-- A session that is released from its agent is ended. -/
theorem renews_release (h : p.Indexed) (id : SessionId) :
    Renews touches (· = id) p (p.release id) := by
  rw [release_eq]
  refine ⟨⟨h.ordered, h.waiting, h.served.erase id⟩, ?_, ?_⟩
  · rintro k s (hs | hs)
    · exact .inl (.inl hs)
    · simp only [SessionTable.find?_erase] at hs
      split at hs
      next => cases hs
      next => exact .inl (.inr hs)
  · intro k hk
    simp only [contains, SessionTable.contains_erase, Bool.or_eq_true, Bool.and_eq_true,
      decide_eq_true_eq] at hk ⊢
    tauto

theorem renews_foldl_release (h : p.Indexed) (ids : List SessionId) :
    Renews touches (· ∈ ids) p (ids.foldl Pool.release p) := by
  induction ids generalizing p with
  | nil => exact h.renews_refl
  | cons id ids ih =>
      have hfirst : Renews touches (· = id) p (p.release id) := h.renews_release id
      exact (hfirst.mono fun _ hk => hk ▸ List.mem_cons_self).trans
        ((ih hfirst.indexed).mono fun _ => List.mem_cons_of_mem id)

/-! ## Operations -/

theorem renews_create (h : p.Indexed) (htouches : touches now) {id : SessionId}
    (hq : p.create? id now = some q) :
    Renews touches mayEnd p q := by
  obtain ⟨-, rfl⟩ := create?_eq_some_iff.mp hq
  have hnew : Renews touches mayEnd p (p.withNew id now) := h.renews_withNew htouches id
  have htaken : Renews touches mayEnd p (p.takeIn id now) := by
    unfold takeIn
    split
    · exact hnew.trans (hnew.indexed.renews_openAdditional now)
    · exact hnew
  exact htaken.trans (htaken.indexed.renews_drain now)

/-- A sign of life touches the session that it names. -/
theorem renews_prolong (h : p.Indexed) (htouches : touches now) {id : SessionId}
    (hq : p.prolong? id now = some q) :
    Renews touches mayEnd p q := by
  have htouched {t : SessionTable Session} {k : SessionId} {s : Session}
      (hs : (t.modify id (·.prolong now)).find? k = some s) :
      t.find? k = some s ∨ touches s.lastTouchedAt := by
    rw [SessionTable.find?_modify] at hs
    split at hs
    next =>
      obtain ⟨a, -, rfl⟩ := Option.map_eq_some_iff.mp hs
      exact .inr htouches
    next => exact .inl hs
  rcases prolong?_eq_some_iff.mp hq with ⟨-, rfl⟩ | ⟨-, -, rfl⟩
  · refine ⟨⟨?_, h.waiting.modify_prolong id now, h.served⟩, ?_, ?_⟩
    · simpa only [Backlog.contains, SessionTable.contains_modify] using h.ordered
    · rintro k s (hs | hs)
      · exact (htouched hs).imp_left .inl
      · exact .inl (.inr hs)
    · intro k hk
      left
      simpa only [contains, Backlog.contains, SessionTable.contains_modify] using hk
  · refine ⟨⟨h.ordered, h.waiting, h.served.modify_prolong id now⟩, ?_, ?_⟩
    · rintro k s (hs | hs)
      · exact .inl (.inl hs)
      · exact (htouched hs).imp_left .inr
    · intro k hk
      left
      simpa only [contains, SessionTable.contains_modify] using hk

theorem renews_destroy (h : p.Indexed) (id : SessionId) (now : Moment) :
    Renews touches (· = id) p (p.destroy id now).1 := by
  rcases p.destroy_cases id now with hend | hend | hend <;> rw [hend]
  · have hgone : Renews touches (· = id) p (p.dismiss [id]) :=
      (h.renews_dismiss [id]).mono fun _ => List.mem_singleton.mp
    exact hgone.trans (hgone.indexed.renews_relax now)
  · exact h.renews_release id
  · exact h.renews_refl

theorem renews_expireWaiting (h : p.Indexed) {now : Moment} (hq : p.expireWaiting now = .ok q) :
    Renews touches (fun _ => True) p q := by
  obtain ⟨gone, -, rfl⟩ := expireWaiting_eq_ok_iff.mp hq
  split
  · exact h.renews_refl
  · have hgone : Renews touches (fun _ => True) p (p.dismiss gone) :=
      (h.renews_dismiss gone).mono fun _ _ => True.intro
    exact hgone.trans (hgone.indexed.renews_relax now)

theorem renews_expireAllocated (h : p.Indexed) {now : Moment} (hq : p.expireAllocated now = .ok q) :
    Renews touches (fun _ => True) p q := by
  obtain ⟨gone, -, rfl⟩ := expireAllocated_eq_ok_iff.mp hq
  exact (h.renews_foldl_release gone).mono fun _ _ => True.intro

/-- A sweep changes no session that it leaves, however far it comes. -/
theorem renews_sweep (h : p.Indexed) (now : Moment) :
    Renews touches (fun _ => True) p (p.sweep now).pool := by
  generalize hq : (p.sweep now).pool = q
  cases hq ▸ p.sweeps_sweep now with
  | refused => exact h.renews_refl
  | halfway hwaiting => exact h.renews_expireWaiting hwaiting
  | whole hwaiting hactive =>
      have hfirst : Renews touches (fun _ => True) p _ := h.renews_expireWaiting hwaiting
      have hboth := hfirst.trans (hfirst.indexed.renews_expireAllocated hactive)
      exact hboth.trans (hboth.indexed.renews_drain now)

theorem renews_shiftChanged (h : p.Indexed) (now : Moment) :
    Renews touches mayEnd p (p.shiftChanged now) := by
  rw [shiftChanged_eq, adjust_eq]
  have hset : Renews touches mayEnd p (Pool.withLimit
      { p with allocation := (p.adjust now).allocation } (p.maximumQueueSize now)) :=
    h.renews_of_same rfl rfl rfl
  exact hset.trans (hset.indexed.renews_drain now)

/-! ## What a whole sweep leaves -/

/-- The first part of a sweep leaves no waiting session whose time has lapsed. -/
theorem expireWaiting_of_deadlines (h : p.Indexed) (hreach : p.DeadlinesInCalendar)
    (now : Moment) :
    ∃ q, p.expireWaiting now = .ok q ∧ ∀ id s, q.backlog.sessions.find? id = some s →
      p.backlog.sessions.find? id = some s ∧ lapsed p.timeout now s.lastTouchedAt = false := by
  have hall : p.backlog.deadlinesInCalendar p.timeout = true := by
    apply List.all_eq_true.mpr
    intro id _
    cases hfind : p.backlog.sessions.find? id with
    | none => rfl
    | some s => exact hreach s (mem_sessions_of_find? (.inl hfind))
  refine ⟨_, expireWaiting_eq_ok_iff.mpr ⟨_, Backlog.expired_eq_ok_iff.mpr ⟨hall, rfl⟩, rfl⟩, ?_⟩
  generalize hlist : p.backlog.order.filter (p.backlog.hasLapsed p.timeout now) = gone
  -- A session that waits stands in the order, so that it is found if its time has lapsed.
  have hstays {id : SessionId} {s : Session} (hs : p.backlog.sessions.find? id = some s)
      (hout : id ∉ gone) : lapsed p.timeout now s.lastTouchedAt = false := by
    rw [← hlist, List.mem_filter, Backlog.hasLapsed, hs, Option.any_some] at hout
    have hin := h.ordered id (SessionTable.contains_of_find? hs)
    simpa [hin] using hout
  intro id s hs
  split at hs
  next hnone => exact ⟨hs, hstays hs (hnone ▸ List.not_mem_nil)⟩
  next =>
    rw [relax_eq] at hs
    simp only [dismiss, SessionTable.find?_foldl_erase] at hs
    split at hs
    next => cases hs
    next hout => exact ⟨hs, hstays hs hout⟩

/-- The second part leaves no session with an agent whose time has lapsed. -/
theorem expireAllocated_of_deadlines (h : p.Indexed)
    (hreach : ∀ s ∈ p.allocated.values, (s.lastTouchedAt.add p.timeout).isOk = true)
    (now : Moment) :
    ∃ q, p.expireAllocated now = .ok q ∧ q.backlog = p.backlog ∧
      ∀ id s, q.allocated.find? id = some s →
        p.allocated.find? id = some s ∧ lapsed p.timeout now s.lastTouchedAt = false := by
  refine ⟨_, expireAllocated_eq_ok_iff.mpr ⟨_, expiredAllocated_of_deadlines hreach now, rfl⟩, ?_⟩
  obtain ⟨hbacklog, hallocated⟩ := foldl_release_frame (p.allocated.values.filterMap fun s =>
    if lapsed p.timeout now s.lastTouchedAt then some s.id else none) p
  refine ⟨hbacklog, ?_⟩
  intro id s hs
  rw [hallocated, SessionTable.find?_foldl_erase] at hs
  split at hs
  next => cases hs
  next hout =>
    refine ⟨hs, ?_⟩
    rw [← Bool.not_eq_true]
    intro hlapsed
    apply hout
    have hvalue : s ∈ p.allocated.values :=
      List.mem_map.mpr ⟨_, SessionTable.mem_entries_of_find? hs, rfl⟩
    exact List.mem_filterMap.mpr ⟨s, hvalue, by rw [if_pos hlapsed, h.served id s hs]⟩

/-- A sweep that the calendar does not cut short leaves no session whose time has lapsed. -/
theorem sweep_of_deadlines (h : p.Indexed) (hreach : p.DeadlinesInCalendar) (now : Moment) :
    (p.sweep now).fault = none ∧ ∀ id s, (p.sweep now).pool.Live id s →
      p.Live id s ∧ lapsed p.timeout now s.lastTouchedAt = false := by
  obtain ⟨q, hq, hwaiting⟩ := h.expireWaiting_of_deadlines hreach now
  obtain ⟨hallocated, htimeout⟩ := expireWaiting_frame hq
  have hfirst : Renews (fun _ => False) (fun _ => True) p q := h.renews_expireWaiting hq
  have hqreach : ∀ s ∈ q.allocated.values, (s.lastTouchedAt.add q.timeout).isOk = true := by
    rw [hallocated, htimeout]
    exact fun s hs => hreach s (List.mem_append_right _ hs)
  obtain ⟨r, hr, hbacklog, hserved⟩ := hfirst.indexed.expireAllocated_of_deadlines hqreach now
  have hboth := hfirst.trans (hfirst.indexed.renews_expireAllocated hr)
  have hsweep : p.sweep now = ⟨(r.drain now).1, none⟩ := by simp only [Pool.sweep, hq, hr]
  rw [hsweep]
  refine ⟨rfl, ?_⟩
  intro id s hs
  rcases hboth.indexed.live_drain hs with hs | hs
  · rw [hbacklog] at hs
    exact (hwaiting id s hs).imp_left .inl
  · obtain ⟨hin, hlapsed⟩ := hserved id s hs
    rw [hallocated] at hin
    rw [htimeout] at hlapsed
    exact ⟨.inr hin, hlapsed⟩

end Indexed

namespace Situation

/-- Whose session an event may end. -/
def Ends (e : Event) (id : SessionId) : Prop := e = .destroy id ∨ e = .sweep

/-- Every event that gives no session to an agent from outside. -/
theorem renews_step {s : Situation} (h : s.pool.Indexed) {e : Event} (he : ∀ a, e ≠ .allocate a) :
    Renews (· = s.now) (Ends e) s.pool (s.step e).pool := by
  cases e with
  | create id =>
      cases hq : s.pool.create? id s.now with
      | none => simpa [step, hq] using h.renews_refl
      | some q =>
          have hrenews : Renews (· = s.now) (Ends (.create id)) s.pool q := h.renews_create rfl hq
          simpa [step, hq] using hrenews
  | prolong id =>
      cases hq : s.pool.prolong? id s.now with
      | none => simpa [step, hq] using h.renews_refl
      | some q =>
          have hrenews : Renews (· = s.now) (Ends (.prolong id)) s.pool q := h.renews_prolong rfl hq
          simpa [step, hq] using hrenews
  | destroy id => exact (h.renews_destroy id s.now).mono fun k hk => .inl (hk ▸ rfl)
  | allocate a => exact absurd rfl (he a)
  | sweep => exact (h.renews_sweep s.now).mono fun _ _ => .inr rfl
  | drain => exact h.renews_drain s.now
  | shiftChanged => exact h.renews_shiftChanged s.now
  | setClock now => exact h.renews_refl

end Situation

end SupportDesk.Pool
