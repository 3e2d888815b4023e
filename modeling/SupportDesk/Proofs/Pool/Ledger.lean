/-
# Signs of life as a ledger keeps them

Where a session is kept changes over its life, and with it the table that holds the moment of
its last sign of life.  Seen from outside none of this shows: the known sessions and their
moments follow an abstract ledger that has a single entry for each of them.  The ledger is
told only the events, the clock, and which creations were granted.
-/

import SupportDesk.Proofs.Pool.Terms
import SupportDesk.Proofs.Session.Expiry

namespace SupportDesk.Pool

/-- The session known under an identifier, waiting or with an agent. -/
def session? (p : Pool) (id : SessionId) : Option Session :=
  (p.backlog.sessions.find? id).or (p.allocated.find? id)

/-- All known sessions. -/
def sessions (p : Pool) : List Session := p.backlog.sessions.values ++ p.allocated.values

/-- The calendar reaches the moment at which each known session would expire. -/
def DeadlinesInCalendar (p : Pool) : Prop :=
  ∀ s ∈ p.sessions, (s.lastTouchedAt.add p.timeout).isOk = true

instance (p : Pool) : Decidable p.DeadlinesInCalendar :=
  inferInstanceAs (Decidable (∀ s ∈ p.sessions, (s.lastTouchedAt.add p.timeout).isOk = true))

theorem contains_eq_session?_isSome (p : Pool) (id : SessionId) :
    p.contains id = (p.session? id).isSome := by
  simp only [contains, session?, Backlog.contains, SessionTable.contains_eq_isSome,
    Option.isSome_or]

/-- What a look-up finds is one of the known sessions. -/
theorem mem_sessions_of_find? {p : Pool} {id : SessionId} {s : Session}
    (h : p.backlog.sessions.find? id = some s ∨ p.allocated.find? id = some s) :
    s ∈ p.sessions := by
  rcases h with h | h
  · exact List.mem_append_left _ (List.mem_map.mpr ⟨_, SessionTable.mem_entries_of_find? h, rfl⟩)
  · exact List.mem_append_right _ (List.mem_map.mpr ⟨_, SessionTable.mem_entries_of_find? h, rfl⟩)

/-- In a consistent pool a session is known from either place. -/
theorem Consistent.session?_eq_some_iff {p : Pool} (h : p.Consistent) {id : SessionId}
    {s : Session} : p.session? id = some s ↔
      p.backlog.sessions.find? id = some s ∨ p.allocated.find? id = some s := by
  cases hwaits : p.backlog.sessions.find? id with
  | none => simp [session?, hwaits]
  | some waiting =>
      have hout := SessionTable.find?_eq_none_iff.mpr
        (h.disjoint id (SessionTable.contains_of_find? hwaits))
      simp [session?, hwaits, hout]

/-- Where an identifier has no session with agents, a change among those that wait is a change
of what is known under it. -/
theorem or_change_waiting {waiting active : Option Session} {k id : SessionId}
    (f : Option Session → Option Session) (hout : k = id → active = none) :
    (if k = id then f waiting else waiting).or active =
      if k = id then f (waiting.or active) else waiting.or active := by
  split
  next hk => rw [hout hk, Option.or_none, Option.or_none]
  next => rfl

/-- And where it has none that waits, a change among those with agents is. -/
theorem or_change_active {waiting active : Option Session} {k id : SessionId}
    (f : Option Session → Option Session) (hout : k = id → waiting = none) :
    waiting.or (if k = id then f active else active) =
      if k = id then f (waiting.or active) else waiting.or active := by
  split
  next hk => rw [hout hk, Option.none_or, Option.none_or]
  next => rfl

/-! ## What each part of an operation does to the known sessions -/

/-- Opening an agent changes the allocation alone. -/
theorem openAdditional_eq (p : Pool) (now : Moment) :
    p.openAdditional now = { p with allocation := (p.openAdditional now).allocation } := by
  unfold openAdditional
  split <;> rfl

/-- Closing agents changes the allocation alone. -/
theorem relax_eq (p : Pool) (now : Moment) :
    p.relax now = { p with allocation := (p.relax now).allocation } := by
  unfold relax
  split <;> rfl

/-- So does what a change of shift makes of the agents. -/
theorem adjust_eq (p : Pool) (now : Moment) :
    p.adjust now = { p with allocation := (p.adjust now).allocation } := by
  unfold adjust
  split
  · exact openAdditional_eq p now
  · exact relax_eq p now

/-- The first part of a sweep leaves what is with agents. -/
theorem expireWaiting_frame {p q : Pool} {now : Moment} (hq : p.expireWaiting now = .ok q) :
    q.allocated = p.allocated ∧ q.timeout = p.timeout := by
  obtain ⟨gone, -, rfl⟩ := expireWaiting_eq_ok_iff.mp hq
  split
  · exact ⟨rfl, rfl⟩
  · rw [relax_eq]
    exact ⟨rfl, rfl⟩

/-- Releasing a session changes the allocation and the record of the session. -/
theorem release_eq (p : Pool) (id : SessionId) :
    p.release id = { p with
      allocation := (p.release id).allocation, allocated := p.allocated.erase id } := by
  cases hi : p.allocation.assignments.find? id with
  | none => rw [release_of_unassigned hi]
  | some i => rw [release_of_assigned hi]

/-- Releasing a list of sessions changes only what is with agents. -/
theorem foldl_release_frame (ids : List SessionId) (p : Pool) :
    (ids.foldl release p).backlog = p.backlog ∧
      (ids.foldl release p).allocated = ids.foldl (·.erase ·) p.allocated := by
  induction ids generalizing p with
  | nil => exact ⟨rfl, rfl⟩
  | cons id ids ih =>
      obtain ⟨hbacklog, hallocated⟩ := ih (p.release id)
      rw [release_eq] at hbacklog hallocated
      rw [List.foldl_cons, List.foldl_cons, release_eq]
      exact ⟨hbacklog, hallocated⟩

/-- Where the calendar reaches their deadlines, the sessions with agents that have expired are
found. -/
theorem expiredAllocated_of_deadlines {p : Pool}
    (hreach : ∀ s ∈ p.allocated.values, (s.lastTouchedAt.add p.timeout).isOk = true)
    (now : Moment) :
    p.expiredAllocated now = .ok (p.allocated.values.filterMap fun s =>
      if lapsed p.timeout now s.lastTouchedAt then some s.id else none) := by
  apply filterMapM_eq_ok
  intro s hs
  rw [Session.expired_eq_ok (hreach s hs) now]
  rfl

namespace Consistent

variable {p q : Pool}

/-- A session moves to an agent as it is. -/
theorem session?_handOver (h : p.Consistent) {s : Session} {rest : List SessionId}
    (horder : p.backlog.order = s.id :: rest) (hfind : p.backlog.sessions.find? s.id = some s)
    (i : Nat) (id : SessionId) : (p.handOver s i).session? id = p.session? id := by
  obtain ⟨a, -, -, hpop⟩ := h.backlog.pop_of_order horder
  simp only [session?, Pool.handOver, hpop, SessionTable.find?_erase, SessionTable.find?_insert]
  by_cases hid : id = s.id
  · subst hid
    simp [hfind]
  · simp [hid]

/-- A drain moves sessions to agents and changes none of them. -/
theorem session?_drain (h : p.Consistent) (now : Moment) (id : SessionId) :
    (p.drain now).1.session? id = p.session? id := by
  obtain ⟨moves, hdrains, -⟩ := h.drains now
  refine hdrains.preserves (P := fun q => q.session? id = p.session? id) h ?_ rfl
  intro q s rest i best hq horder hfind _ heq
  rw [hq.session?_handOver horder hfind, heq]

/-- An admitted session is known from its start, and no other changes. -/
theorem session?_create (h : p.Consistent) {id : SessionId} {now : Moment}
    (hnew : p.contains id = false) (hq : p.create? id now = some q) (k : SessionId) :
    q.session? k = if k = id then some (.start id now) else p.session? k := by
  obtain ⟨-, rfl⟩ := create?_eq_some_iff.mp hq
  have hsession : (p.withNew id now).session? k =
      if k = id then some (.start id now) else p.session? k := by
    simp only [session?, Pool.withNew, SessionTable.find?_insert]
    split <;> simp
  rw [(h.takeIn hnew now).session?_drain, ← hsession, Pool.takeIn]
  split
  · rw [openAdditional_eq]
    rfl
  · rfl

/-- A sign of life touches the session it names, wherever that is. -/
theorem session?_prolong (h : p.Consistent) {id : SessionId} {now : Moment}
    (hq : p.prolong? id now = some q) (k : SessionId) :
    q.session? k = if k = id then (p.session? k).map (·.prolong now) else p.session? k := by
  rcases prolong?_eq_some_iff.mp hq with ⟨hwaits, rfl⟩ | ⟨hwaits, -, rfl⟩
  · have hout := SessionTable.find?_eq_none_iff.mpr (h.disjoint id hwaits)
    simp only [session?, SessionTable.find?_modify]
    exact or_change_waiting (Option.map (·.prolong now)) fun hk => hk ▸ hout
  · have hout := SessionTable.find?_eq_none_iff.mpr hwaits
    simp only [session?, SessionTable.find?_modify]
    exact or_change_active (Option.map (·.prolong now)) fun hk => hk ▸ hout

/-- A sign of life is recorded exactly for a known session. -/
theorem prolong?_isSome (p : Pool) (id : SessionId) (now : Moment) :
    (p.prolong? id now).isSome = p.contains id := by
  unfold prolong? Backlog.prolong? contains
  by_cases hwaits : p.backlog.contains id = true
  · simp [hwaits]
  · rw [Bool.not_eq_true] at hwaits
    by_cases hactive : p.allocated.contains id = true <;> simp [hwaits, hactive]

/-- An ended session is not known any more, and no other changes. -/
theorem session?_destroy (h : p.Consistent) (id : SessionId) (now : Moment) (k : SessionId) :
    (p.destroy id now).1.session? k = if k = id then none else p.session? k := by
  by_cases hwaits : p.backlog.contains id = true
  · have hout := SessionTable.find?_eq_none_iff.mpr (h.disjoint id hwaits)
    rw [destroy_of_waiting now hwaits, relax_eq]
    simp only [session?, Pool.dismiss, List.foldl_cons, List.foldl_nil, SessionTable.find?_erase]
    exact or_change_waiting (fun _ => none) fun hk => hk ▸ hout
  · rw [Bool.not_eq_true] at hwaits
    have hout := SessionTable.find?_eq_none_iff.mpr hwaits
    rw [h.destroy_of_not_waiting now hwaits]
    split
    next =>
      rw [release_eq]
      simp only [session?, SessionTable.find?_erase]
      exact or_change_active (fun _ => none) fun hk => hk ▸ hout
    next hactive =>
      by_cases hk : k = id
      · subst hk
        simp [session?, hout, SessionTable.find?_eq_none_iff, hactive]
      · simp [hk]

/-- The answer to an ending tells whether the session was known. -/
theorem destroy_answer (h : p.Consistent) (id : SessionId) (now : Moment) :
    (p.destroy id now).2 = p.contains id := by
  by_cases hwaits : p.backlog.contains id = true
  · simp [destroy_of_waiting now hwaits, contains, hwaits]
  · rw [Bool.not_eq_true] at hwaits
    rw [h.destroy_of_not_waiting now hwaits, contains, hwaits]
    split
    next hactive => simp [hactive]
    next hactive => simpa using hactive

/-- The first part of a sweep leaves the waiting sessions whose time has not lapsed. -/
theorem expireWaiting_eq_ok (h : p.Consistent) (hreach : p.DeadlinesInCalendar) (now : Moment) :
    ∃ q, p.expireWaiting now = .ok q ∧ q.allocated = p.allocated ∧ q.timeout = p.timeout ∧
      ∀ k, q.backlog.sessions.find? k = (p.backlog.sessions.find? k).filter
        fun s => !lapsed p.timeout now s.lastTouchedAt := by
  obtain ⟨answer, hanswer, hleft⟩ := h.backlog.removeExpired_eq_ok
    (fun id s hs => hreach s (mem_sessions_of_find? (.inl hs))) now
  cases answer with
  | none => exact ⟨p, by rw [Pool.expireWaiting, hanswer]; rfl, rfl, rfl, hleft⟩
  | some b =>
      refine ⟨Pool.relax { p with backlog := b } now,
        by rw [Pool.expireWaiting, hanswer]; rfl, ?_⟩
      rw [relax_eq]
      exact ⟨rfl, rfl, hleft⟩

/-- The sessions with agents that are found to have expired. -/
theorem expiredAllocated_eq_ok (h : p.Consistent)
    (hreach : ∀ s ∈ p.allocated.values, (s.lastTouchedAt.add p.timeout).isOk = true)
    (now : Moment) :
    ∃ gone, p.expiredAllocated now = .ok gone ∧ ∀ id, id ∈ gone ↔
      ∃ s, p.allocated.find? id = some s ∧ lapsed p.timeout now s.lastTouchedAt = true := by
  refine ⟨_, expiredAllocated_of_deadlines hreach now, ?_⟩
  intro id
  simp only [List.mem_filterMap, Option.ite_none_right_eq_some, Option.some.injEq]
  constructor
  · rintro ⟨s, hs, hlapsed, rfl⟩
    obtain ⟨⟨key, value⟩, hentry, rfl⟩ := List.mem_map.mp hs
    have hfind := h.distinct.find?_eq_some hentry
    exact ⟨value, by rw [h.keyed key value hfind]; exact hfind, hlapsed⟩
  · rintro ⟨s, hs, hlapsed⟩
    exact ⟨s, List.mem_map.mpr ⟨_, SessionTable.mem_entries_of_find? hs, rfl⟩, hlapsed,
      h.keyed id s hs⟩

/-- The second part of a sweep leaves the sessions with agents whose time has not lapsed. -/
theorem expireAllocated_eq_ok (h : p.Consistent)
    (hreach : ∀ s ∈ p.allocated.values, (s.lastTouchedAt.add p.timeout).isOk = true)
    (now : Moment) :
    ∃ q, p.expireAllocated now = .ok q ∧ q.backlog = p.backlog ∧
      ∀ k, q.allocated.find? k = (p.allocated.find? k).filter
        fun s => !lapsed p.timeout now s.lastTouchedAt := by
  obtain ⟨gone, hgone, hmem⟩ := h.expiredAllocated_eq_ok hreach now
  obtain ⟨hbacklog, hallocated⟩ := foldl_release_frame gone p
  refine ⟨gone.foldl Pool.release p, by rw [Pool.expireAllocated, hgone]; rfl, hbacklog, ?_⟩
  intro k
  rw [hallocated, SessionTable.find?_foldl_erase]
  cases hfind : p.allocated.find? k with
  | none => simp
  | some s =>
      have hk : k ∈ gone ↔ lapsed p.timeout now s.lastTouchedAt = true := by simp [hmem, hfind]
      by_cases hlapsed : lapsed p.timeout now s.lastTouchedAt = true <;>
        simp [hk, hlapsed, Option.filter]

/-- A sweep takes out exactly the sessions whose time has lapsed, and drains. -/
theorem sweep_eq_drain (h : p.Consistent) (hreach : p.DeadlinesInCalendar) (now : Moment) :
    ∃ r : Pool, r.Consistent ∧ p.sweep now = ⟨(r.drain now).1, none⟩ ∧
      ∀ k, r.session? k = (p.session? k).filter fun s => !lapsed p.timeout now s.lastTouchedAt := by
  obtain ⟨q, hq, hqallocated, hqtimeout, hqbacklog⟩ := h.expireWaiting_eq_ok hreach now
  have hqreach : ∀ s ∈ q.allocated.values, (s.lastTouchedAt.add q.timeout).isOk = true := by
    rw [hqallocated, hqtimeout]
    exact fun s hs => hreach s (List.mem_append_right _ hs)
  have hqcons := h.expireWaiting hq
  obtain ⟨r, hr, hrbacklog, hrallocated⟩ := hqcons.expireAllocated_eq_ok hqreach now
  refine ⟨r, hqcons.expireAllocated hr, by simp only [Pool.sweep, hq, hr], ?_⟩
  intro k
  simp only [session?, hrbacklog, hrallocated, hqallocated, hqtimeout, hqbacklog]
  -- A session is in one of the two places only, so that the two filters are one.
  cases hwaits : p.backlog.sessions.find? k with
  | none => simp
  | some s =>
      have hout := SessionTable.find?_eq_none_iff.mpr
        (h.disjoint k (SessionTable.contains_of_find? hwaits))
      simp [hout]

/-- A change of shift may move sessions but changes none. -/
theorem session?_shiftChanged (h : p.Consistent) (now : Moment) (k : SessionId) :
    (p.shiftChanged now).session? k = p.session? k := by
  rw [shiftChanged_eq, ((h.adjust now).withLimit _).session?_drain, adjust_eq]
  rfl

end Consistent

/-! ## The ledger -/

/-- What an event makes of the session of one identifier. -/
def Event.effect (timeout : Duration) (now : Moment) (granted : Bool) (k : SessionId) :
    Event → Option Session → Option Session
  | .create id, known => if granted ∧ k = id then some (.start id now) else known
  | .prolong id, known => if k = id then known.map (·.prolong now) else known
  | .destroy id, known => if k = id then none else known
  | .sweep, known => known.filter fun s => !lapsed timeout now s.lastTouchedAt
  | .allocate _, known | .drain, known | .shiftChanged, known | .setClock _, known => known

/-- The moment of the last sign of life of every session in a ledger. -/
abbrev Ledger := SessionId → Option Moment

/-- What a ledger is told of an event. -/
structure Entry where
  event : Event
  now : Moment
  granted : Bool

namespace Ledger

/-- The ledger of a new desk. -/
def empty : Ledger := fun _ => none

/-- The ledger after one more event.  A granted creation and a sign of life of a known
session set the moment, an ending deletes it, and a sweep deletes every moment from which the
timeout has passed; nothing else is entered. -/
def enter (timeout : Duration) (l : Ledger) (entry : Entry) : Ledger :=
  match entry.event with
  | .create id => if entry.granted then Function.update l id (some entry.now) else l
  | .prolong id => if (l id).isSome then Function.update l id (some entry.now) else l
  | .destroy id => Function.update l id none
  | .sweep => fun id => (l id).filter fun touched => !lapsed timeout entry.now touched
  | .allocate _ | .drain | .shiftChanged | .setClock _ => l

/-- The ledger after a list of events. -/
def follow (timeout : Duration) (entries : List Entry) : Ledger :=
  entries.foldl (enter timeout) empty

end Ledger

/-- The ledger that the sessions of a pool would fill. -/
def ledger (p : Pool) : Ledger := fun id => (p.session? id).map (·.lastTouchedAt)

namespace Situation

/-- Created sessions are new, none is given to an agent from outside, and a sweep comes only
while the calendar reaches the deadline of every session. -/
def Orderly (s : Situation) : Event → Prop
  | .create id => s.pool.contains id = false
  | .allocate _ => False
  | .sweep => s.pool.DeadlinesInCalendar
  | .prolong _ | .destroy _ | .drain | .shiftChanged | .setClock _ => True

instance (s : Situation) : (e : Event) → Decidable (s.Orderly e)
  | .create id => inferInstanceAs (Decidable (s.pool.contains id = false))
  | .allocate _ => inferInstanceAs (Decidable False)
  | .sweep => inferInstanceAs (Decidable s.pool.DeadlinesInCalendar)
  | .prolong _ | .destroy _ | .drain | .shiftChanged | .setClock _ =>
      inferInstanceAs (Decidable True)

/-- What the ledger is told of an event. -/
def entry (s : Situation) (e : Event) : Entry := ⟨e, s.now, s.grants e⟩

/-- What the ledger is told of a run. -/
def entries : Situation → List Event → List Entry
  | _, [] => []
  | s, e :: events => s.entry e :: (s.step e).entries events

theorem Orderly.fresh {s : Situation} {e : Event} (h : s.Orderly e) : s.Fresh e := by
  cases e with
  | create id => exact h
  | _ => exact True.intro

/-- Every event changes the known sessions by its effect alone. -/
theorem session?_step {s : Situation} {e : Event} (horderly : s.Orderly e)
    (h : s.pool.Consistent) (k : SessionId) :
    (s.step e).pool.session? k =
      e.effect s.pool.timeout s.now (s.grants e) k (s.pool.session? k) := by
  cases e with
  | create id =>
      cases hq : s.pool.create? id s.now with
      | none => simp [step, grants, Event.effect, hq]
      | some q => simpa [step, grants, Event.effect, hq] using h.session?_create horderly hq k
  | prolong id =>
      cases hq : s.pool.prolong? id s.now with
      | none =>
          -- A refused sign of life is one of an unknown session.
          have hunknown : s.pool.session? id = none := by
            rw [← Option.not_isSome_iff_eq_none, ← contains_eq_session?_isSome,
              ← Consistent.prolong?_isSome _ _ s.now, hq]
            decide
          simp only [step, hq, Option.getD_none, Event.effect]
          split
          next hk => simp [hk, hunknown]
          next => rfl
      | some q => simpa [step, Event.effect, hq] using h.session?_prolong hq k
  | destroy id => exact h.session?_destroy id s.now k
  | allocate a => exact horderly.elim
  | sweep =>
      obtain ⟨r, hr, hsweep, hsession⟩ := h.sweep_eq_drain horderly s.now
      simp only [step, hsweep, hr.session?_drain, hsession]
      rfl
  | drain => exact h.session?_drain s.now k
  | shiftChanged => exact h.session?_shiftChanged s.now k
  | setClock now => rfl

/-- One event enters in the ledger of the pool what the abstract ledger enters. -/
theorem ledger_step {s : Situation} {e : Event} (horderly : s.Orderly e)
    (h : s.pool.Consistent) :
    (s.step e).pool.ledger = s.pool.ledger.enter s.pool.timeout (s.entry e) := by
  funext k
  rw [ledger, session?_step horderly h k]
  cases e with
  | create id =>
      by_cases hgranted : s.grants (.create id) = true <;> by_cases hk : k = id <;>
        simp [Ledger.enter, entry, Event.effect, ledger, hgranted, hk, Session.start]
  | prolong id =>
      by_cases hk : k = id
      · subst hk
        cases hknown : s.pool.session? k <;>
          simp [Ledger.enter, entry, Event.effect, ledger, hknown]
      · cases hknown : s.pool.session? id <;>
          simp [Ledger.enter, entry, Event.effect, ledger, hknown, hk]
  | destroy id =>
      by_cases hk : k = id <;> simp [Ledger.enter, entry, Event.effect, ledger, hk]
  | sweep =>
      cases hknown : s.pool.session? k <;>
        simp [Ledger.enter, entry, Event.effect, ledger, hknown, Option.filter]
  | allocate a => rfl
  | drain => rfl
  | shiftChanged => rfl
  | setClock now => rfl

/-- Along a run the pool fills the ledger that is told of the run. -/
theorem ledger_run {s : Situation} {events : List Event} (horderly : Admits Orderly s events)
    (h : s.pool.Consistent) :
    (s.run events).pool.ledger =
      (s.entries events).foldl (Ledger.enter s.pool.timeout) s.pool.ledger := by
  induction events generalizing s with
  | nil => rfl
  | cons e events ih =>
      obtain ⟨hfirst, hrest⟩ := horderly
      have hnext : (s.step e).pool.Consistent := consistent_step hfirst.fresh h
      rw [run_cons, ih hrest hnext, ledger_step hfirst h, timeout_step]
      rfl

/-- Where a session is known after an event that does not create it, it was known before and
was created at the same moment. -/
theorem createdAt_step {s : Situation} {e : Event} (horderly : s.Orderly e)
    (h : s.pool.Consistent) {id : SessionId} {after : Session} (hcreate : e ≠ .create id)
    (hafter : (s.step e).pool.session? id = some after) :
    ∃ before, s.pool.session? id = some before ∧ after.createdAt = before.createdAt := by
  rw [session?_step horderly h] at hafter
  cases hbefore : s.pool.session? id with
  | none => cases e <;> simp_all [Event.effect]
  | some before =>
      refine ⟨before, rfl, ?_⟩
      rw [hbefore] at hafter
      cases e with
      | create k =>
          have hk : id ≠ k := fun hk => hcreate (hk ▸ rfl)
          simp_all [Event.effect]
      | prolong k =>
          simp only [Event.effect, Option.map_some] at hafter
          split at hafter <;> cases hafter <;> rfl
      | destroy k => simp_all [Event.effect]
      | sweep =>
          simp only [Event.effect, Option.filter_eq_some_iff, Option.some.injEq] at hafter
          rw [hafter.1]
      | _ => cases hafter; rfl

/-- The same over a run. -/
theorem createdAt_run {s : Situation} {events : List Event} (horderly : Admits Orderly s events)
    (h : s.pool.Consistent) {id : SessionId} {after : Session}
    (hcreate : Event.create id ∉ events)
    (hafter : (s.run events).pool.session? id = some after) :
    ∃ before, s.pool.session? id = some before ∧ after.createdAt = before.createdAt := by
  induction events generalizing s with
  | nil => exact ⟨after, hafter, rfl⟩
  | cons e events ih =>
      obtain ⟨hfirst, hrest⟩ := horderly
      obtain ⟨hne, hnotin⟩ := not_or.mp (mt List.mem_cons.mpr hcreate)
      obtain ⟨middle, hmiddle, hsame⟩ :=
        ih hrest (consistent_step hfirst.fresh h) hnotin hafter
      obtain ⟨before, hbefore, hfirstsame⟩ := createdAt_step hfirst h (Ne.symm hne) hmiddle
      exact ⟨before, hbefore, hsame.trans hfirstsame⟩

/-- A session that an event moves to an agent is moved as it was. -/
theorem moved_step {s : Situation} {e : Event} (horderly : s.Orderly e) (h : s.pool.Consistent)
    {id : SessionId} {before after : Session}
    (hwaits : s.pool.backlog.sessions.find? id = some before)
    (hactive : (s.step e).pool.allocated.find? id = some after) : after = before := by
  have hnext : (s.step e).pool.Consistent := consistent_step horderly.fresh h
  have hknown : s.pool.session? id = some before := h.session?_eq_some_iff.mpr (.inl hwaits)
  have heffect := session?_step horderly h id
  rw [hknown, hnext.session?_eq_some_iff.mpr (.inr hactive)] at heffect
  cases e with
  | create k =>
      have hk : id ≠ k := by
        rintro rfl
        have hnew : s.pool.contains id = false := horderly
        rw [contains_eq_session?_isSome, hknown] at hnew
        cases hnew
      simpa [Event.effect, hk] using heffect
  | prolong k =>
      by_cases hk : id = k
      · -- A sign of life does not move the session.
        subst hk
        have hin := SessionTable.contains_of_find? hwaits
        have hstays : (s.step (.prolong id)).pool.backlog.contains id = true := by
          simp [step, prolong?, Backlog.prolong?, Backlog.contains, hin,
            SessionTable.contains_modify]
        have hout := hnext.disjoint id hstays
        rw [SessionTable.contains_of_find? hactive] at hout
        cases hout
      · simpa [Event.effect, hk] using heffect
  | destroy k =>
      by_cases hk : id = k
      · simp [Event.effect, hk] at heffect
      · simpa [Event.effect, hk] using heffect
  | sweep =>
      simp only [Event.effect, eq_comm (a := some after), Option.filter_eq_some_iff,
        Option.some.injEq] at heffect
      exact heffect.1.symm
  | _ => exact Option.some.inj heffect

end Situation

/-- Whatever happens to a new pool, the moments of the last signs of life are those of the
abstract ledger, which knows nothing of places; a sign of life and an ending are granted
exactly for the sessions of the ledger.  A session keeps the moment at which it was created
until its identifier is given out again, and is handed to an agent as it waited. -/
theorem ledger_throughout (settings : PoolSettings) (now : Moment) (events : List Event)
    (horderly : Situation.Admits Situation.Orderly (.start settings now) events) :
    let s := (Situation.start settings now).run events
    let ledger := Ledger.follow settings.timeout ((Situation.start settings now).entries events)
    (∀ id, (s.pool.session? id).map (·.lastTouchedAt) = ledger id) ∧
      (∀ id, s.grants (.prolong id) = (ledger id).isSome) ∧
      (∀ id, s.grants (.destroy id) = (ledger id).isSome) ∧
      (∀ later, Situation.Admits Situation.Orderly s later → ∀ id, Event.create id ∉ later →
        ∀ after, (s.run later).pool.session? id = some after →
          ∃ before, s.pool.session? id = some before ∧ after.createdAt = before.createdAt) ∧
      ∀ e, s.Orderly e → ∀ id before after,
        s.pool.backlog.sessions.find? id = some before →
          (s.step e).pool.allocated.find? id = some after → after = before := by
  intro s ledger
  have hstart := consistent_ofSettings settings now
  have h : s.pool.Consistent :=
    (horderly.mono fun _ _ he => he.fresh).consistent_run hstart
  have hledger (id : SessionId) : (s.pool.session? id).map (·.lastTouchedAt) = ledger id :=
    congrFun (Situation.ledger_run horderly hstart) id
  have hknown (id : SessionId) : s.pool.contains id = (ledger id).isSome := by
    rw [contains_eq_session?_isSome, ← hledger, Option.isSome_map]
  refine ⟨hledger, ?_, ?_, ?_, ?_⟩
  · intro id
    exact (Consistent.prolong?_isSome s.pool id s.now).trans (hknown id)
  · intro id
    exact (h.destroy_answer id s.now).trans (hknown id)
  · intro later hlater id hcreate after hafter
    exact Situation.createdAt_run hlater h hcreate hafter
  · intro e he id before after hwaits hactive
    exact Situation.moved_step he h hwaits hactive

/-- At the small desk three sessions are served and one waits.  An hour later one of those
served and the one that waits show a sign of life, and the sweep removes the other two and
moves the one that waits, whose moments stay; an ending leaves one session. -/
theorem ledger_throughout_smallDesk :
    let events : List Event := [.create (.ofNat 0), .create (.ofNat 1), .create (.ofNat 2),
      .create (.ofNat 3), .drain, .setClock (sampleHour 11), .prolong (.ofNat 1),
      .prolong (.ofNat 3), .shiftChanged, .sweep, .prolong (.ofNat 0), .destroy (.ofNat 1),
      .setClock (sampleHour 9)]
    let s := (Situation.start smallDesk (sampleHour 10)).run events
    Situation.Admits Situation.Orderly (.start smallDesk (sampleHour 10)) events ∧
      s.pool.session? (.ofNat 3) = some ⟨.ofNat 3, sampleHour 10, sampleHour 11⟩ ∧
      (∀ id, (s.pool.session? id).map (·.lastTouchedAt) =
        Ledger.follow smallDesk.timeout
          ((Situation.start smallDesk (sampleHour 10)).entries events) id) ∧
      s.grants (.destroy (.ofNat 3)) = true ∧ s.grants (.prolong (.ofNat 1)) = false := by
  intro events s
  have horderly : Situation.Admits Situation.Orderly (.start smallDesk (sampleHour 10)) events := by
    decide +kernel
  obtain ⟨hledger, hprolong, hdestroy, -, -⟩ :=
    ledger_throughout smallDesk (sampleHour 10) events horderly
  refine ⟨horderly, by decide +kernel, hledger, (hdestroy _).trans ?_, (hprolong _).trans ?_⟩
  · decide +kernel
  · decide +kernel

end SupportDesk.Pool
