/-
# The overflow valve

When the backlog is full the desk has opened the additional agents that are on shift, one for
each admission that filled the backlog.  There is one way in which an agent stays in reserve
although it could help: agents keep their sessions when they are closed, and an admission
opens the first agent of the reserve whether or not it has a free slot.  An opening of an agent
whose slots are all taken moves nobody, so that the backlog stays full and no further
admission can open the next agent.

At one instant this is the only way.  Whoever is in reserve when a session is refused stands
behind an agent that the last admission opened in vain.
-/

import SupportDesk.Proofs.Agent.Reserve
import SupportDesk.Proofs.Pool.OnePlace
import SupportDesk.Proofs.Session.Expiry

namespace SupportDesk.Pool

/-! ## Moves and departures -/

/-- One pool comes from another by sessions that move to agents or leave. -/
structure Serves (now : Moment) (p q : Pool) : Prop where
  allocation : Allocation.Serves now p.allocation q.allocation
  size_le : q.queueSize ≤ p.queueSize
  limit : q.backlog.limit = p.backlog.limit

namespace Serves

variable {now : Moment} {p q r : Pool}

theorem refl (p : Pool) : Serves now p p := ⟨.refl _, Nat.le_refl _, rfl⟩

theorem trans (hpq : Serves now p q) (hqr : Serves now q r) : Serves now p r :=
  ⟨hpq.allocation.trans hqr.allocation, hqr.size_le.trans hpq.size_le,
    hqr.limit.trans hpq.limit⟩

end Serves

/-- A session may be taken from any agent. -/
theorem serves_release (p : Pool) (id : SessionId) (now : Moment) :
    Serves now p (p.release id) := by
  cases hi : p.allocation.assignments.find? id with
  | none =>
      rw [release_of_unassigned hi]
      exact ⟨.refl _, Nat.le_refl _, rfl⟩
  | some i =>
      rw [release_of_assigned hi]
      exact ⟨.vacate p.allocation id i, Nat.le_refl _, rfl⟩

theorem serves_foldl_release (p : Pool) (ids : List SessionId) (now : Moment) :
    Serves now p (ids.foldl release p) := by
  induction ids generalizing p with
  | nil => exact .refl p
  | cons id ids ih => exact (serves_release p id now).trans (ih (p.release id))

namespace Consistent

variable {p q : Pool}

/-- A move takes one session out of the backlog. -/
theorem queueSize_handOver (h : p.Consistent) {s : Session} {rest : List SessionId}
    (horder : p.backlog.order = s.id :: rest) (i : Nat) :
    (p.handOver s i).queueSize + 1 = p.queueSize := by
  obtain ⟨a, -, -, hpop⟩ := h.backlog.pop_of_order horder
  simp [Pool.handOver, queueSize, Backlog.size, hpop, horder]

theorem serves_handOver (h : p.Consistent) {s : Session} {rest : List SessionId} {now : Moment}
    {i : Nat} {best : AgentQueue} (horder : p.backlog.order = s.id :: rest)
    (hchoose : Allocation.choose? now p.allocation.queues = some (i, best)) :
    Serves now p (p.handOver s i) := by
  have hsize := h.queueSize_handOver horder i
  refine ⟨.place s hchoose, by omega, ?_⟩
  obtain ⟨a, -, -, hpop⟩ := h.backlog.pop_of_order horder
  simp only [Pool.handOver, hpop]

theorem serves_of_drains (h : p.Consistent) {now : Moment} {moves : List (Session × Nat)}
    (hdrains : Drains now p moves q) : Serves now p q := by
  refine hdrains.preserves (P := Serves now p) h ?_ (.refl p)
  intro r s rest i best hr horder _ hchoose hserves
  exact hserves.trans (hr.serves_handOver horder hchoose)

theorem serves_drain (h : p.Consistent) (now : Moment) : Serves now p (p.drain now).1 := by
  obtain ⟨moves, hdrains, -⟩ := h.drains now
  exact h.serves_of_drains hdrains

/-- A drain with a free slot and somebody waiting moves somebody. -/
theorem queueSize_drain_lt (h : p.Consistent) {now : Moment}
    (hopen : p.allocation.hasOpenSpots now = true) (hwaits : 0 < p.queueSize) :
    (p.drain now).1.queueSize < p.queueSize := by
  obtain ⟨moves, hdrains, -⟩ := h.drains now
  generalize (p.drain now).1 = r at hdrains
  cases hdrains with
  | full hfull =>
      rw [hopen] at hfull
      cases hfull
  | empty hempty => simp [queueSize, Backlog.size, hempty] at hwaits
  | @move _ _ s rest i _ _ _ horder _ hchoose hrest =>
      have hone := h.queueSize_handOver horder i
      have hle := ((h.handOver horder hchoose).serves_of_drains hrest).size_le
      omega

end Consistent

/-! ## Events other than admissions -/

/-- What an event other than an admission does: sessions move or leave, unless the backlog has
become shorter; then the additional agents may have been closed before. -/
def Recedes (now : Moment) (p q : Pool) : Prop :=
  Serves now p q ∨ (q.queueSize < p.queueSize ∧ Serves now p.closeAdditional q)

namespace Recedes

variable {now : Moment} {p q r : Pool}

theorem trans_serves (hpq : Recedes now p q) (hqr : Serves now q r) : Recedes now p r := by
  rcases hpq with hserves | ⟨hlt, hserves⟩
  · exact .inl (hserves.trans hqr)
  · exact .inr ⟨hqr.size_le.trans_lt hlt, hserves.trans hqr⟩

theorem turns (h : Recedes now p q) : Allocation.Turns now p.allocation q.allocation := by
  rcases h with hserves | ⟨-, hserves⟩
  · exact ⟨_, .inl rfl, hserves.allocation⟩
  · exact ⟨_, .inr (.inl rfl), hserves.allocation⟩

theorem size_le (h : Recedes now p q) : q.queueSize ≤ p.queueSize := by
  rcases h with hserves | ⟨hlt, -⟩
  · exact hserves.size_le
  · exact hlt.le

theorem limit (h : Recedes now p q) : q.backlog.limit = p.backlog.limit := by
  rcases h with hserves | ⟨-, hserves⟩
  · exact hserves.limit
  · exact hserves.limit

end Recedes

/-- The reaction to a shorter backlog. -/
theorem recedes_relax (p : Pool) {b : Backlog} (now : Moment) (hlimit : b.limit = p.backlog.limit)
    (hlt : b.size < p.queueSize) : Recedes now p (Pool.relax { p with backlog := b } now) := by
  unfold Pool.relax
  split
  · exact .inr ⟨hlt, ⟨.refl _, hlt.le, hlimit⟩⟩
  · exact .inl ⟨.refl _, hlt.le, hlimit⟩

theorem recedes_prolong {p q : Pool} {id : SessionId} {now : Moment}
    (hq : p.prolong? id now = some q) : Recedes now p q := by
  rcases prolong?_eq_some_iff.mp hq with ⟨-, rfl⟩ | ⟨-, -, rfl⟩ <;>
    exact .inl ⟨.refl _, Nat.le_refl _, rfl⟩

namespace Consistent

variable {p q : Pool}

theorem recedes_destroy (h : p.Consistent) (id : SessionId) (now : Moment) :
    Recedes now p (p.destroy id now).1 := by
  by_cases hwaits : p.backlog.contains id = true
  · rw [destroy_of_waiting now hwaits]
    refine recedes_relax p now rfl ?_
    apply List.length_filter_lt_length_iff_exists.mpr
    exact ⟨id, (h.backlog.mem_order id).mpr hwaits, by simp⟩
  · rw [h.destroy_of_not_waiting now (by simpa using hwaits)]
    split
    · exact .inl (serves_release p id now)
    · exact .inl (.refl p)

end Consistent

theorem recedes_expireWaiting {p q : Pool} {now : Moment} (hq : p.expireWaiting now = .ok q) :
    Recedes now p q := by
  obtain ⟨gone, hgone, rfl⟩ := expireWaiting_eq_ok_iff.mp hq
  split
  · exact .inl (.refl p)
  next hsome =>
    obtain ⟨id, hid⟩ := List.exists_mem_of_ne_nil gone hsome
    refine recedes_relax p now rfl ?_
    apply List.length_filter_lt_length_iff_exists.mpr
    exact ⟨id, Backlog.mem_order_of_expired hgone hid, by simp [hid]⟩

theorem serves_expireAllocated {p q : Pool} {now : Moment}
    (hq : p.expireAllocated now = .ok q) : Serves now p q := by
  obtain ⟨gone, -, rfl⟩ := expireAllocated_eq_ok_iff.mp hq
  exact serves_foldl_release p gone now

namespace Consistent

variable {p q : Pool}

theorem recedes_sweep (h : p.Consistent) (now : Moment) : Recedes now p (p.sweep now).pool := by
  generalize hq : (p.sweep now).pool = q
  cases hq ▸ p.sweeps_sweep now with
  | refused => exact .inl (.refl p)
  | halfway hwaiting => exact recedes_expireWaiting hwaiting
  | whole hwaiting hactive =>
      have hrest := ((h.expireWaiting hwaiting).expireAllocated hactive).serves_drain now
      exact (recedes_expireWaiting hwaiting).trans_serves
        ((serves_expireAllocated hactive).trans hrest)

end Consistent

/-! ## Admissions -/

/-- A session is refused exactly while the backlog is full. -/
theorem create?_eq_none_iff {p : Pool} {id : SessionId} {now : Moment} :
    p.create? id now = none ↔ p.backlog.limit ≤ p.queueSize := by
  simp [create?, Backlog.create?, queueSize]

/-- Agents are opened for an admission as the reserve allows. -/
theorem allocation_takeIn (p : Pool) (id : SessionId) (now : Moment) :
    (p.takeIn id now).allocation =
      if p.maximumQueueSize now ≤ p.queueSize + 1 then
        (p.allocation.openAdditional? now).getD p.allocation
      else p.allocation := by
  unfold takeIn
  split
  · unfold Pool.openAdditional
    cases hopen : p.allocation.openAdditional? now <;> simp [withNew, hopen]
  · rfl

@[simp] theorem backlog_takeIn (p : Pool) (id : SessionId) (now : Moment) :
    (p.takeIn id now).backlog = (p.withNew id now).backlog := by
  unfold takeIn Pool.openAdditional
  split
  · split <;> rfl
  · rfl

@[simp] theorem queueSize_takeIn (p : Pool) (id : SessionId) (now : Moment) :
    (p.takeIn id now).queueSize = p.queueSize + 1 := by
  rw [queueSize, backlog_takeIn]
  exact queueSize_withNew p id now

namespace Consistent

variable {p q : Pool}

/-- An admission opens an agent or none, and then sessions move; the limit stays. -/
theorem turns_create (h : p.Consistent) {id : SessionId} {now : Moment}
    (hnew : p.contains id = false) (hq : p.create? id now = some q) :
    Allocation.Turns now p.allocation q.allocation ∧ q.backlog.limit = p.backlog.limit ∧
      q.queueSize ≤ p.queueSize + 1 := by
  obtain ⟨-, rfl⟩ := create?_eq_some_iff.mp hq
  have hserves := (h.takeIn hnew now).serves_drain now
  refine ⟨⟨_, ?_, hserves.allocation⟩, ?_, ?_⟩
  · rw [allocation_takeIn]
    split
    · cases hopen : p.allocation.openAdditional? now with
      | none => exact .inl rfl
      | some a => exact .inr (.inr rfl)
    · exact .inl rfl
  · rw [hserves.limit, backlog_takeIn]
    rfl
  · exact (queueSize_takeIn p id now) ▸ hserves.size_le

/-- Whoever is in reserve when an admission has filled the backlog stands behind an agent that
the admission has opened in vain. -/
theorem opensFull_of_create (h : p.Consistent) {id : SessionId} {now : Moment}
    (hmax : p.maximumQueueSize now = p.backlog.limit) (hnew : p.contains id = false)
    (hq : p.create? id now = some q) (hfilled : p.backlog.limit ≤ q.queueSize) {j : Nat}
    {r : AgentQueue} (hr : q.allocation.queues[j]? = some r)
    (hshut : Allocation.canOpen r.agent now = true) :
    ∃ i < j, Allocation.OpensFull now p.allocation q.allocation i := by
  have hle := (h.turns_create hnew hq).2.2
  obtain ⟨hroom, rfl⟩ := create?_eq_some_iff.mp hq
  have hserves := ((h.takeIn hnew now).serves_drain now).allocation
  have hsize := queueSize_takeIn p id now
  have hallocation := allocation_takeIn p id now
  rw [if_pos (by omega)] at hallocation
  cases hnext : p.allocation.nextToOpen? now with
  | none =>
      -- Nobody was in reserve, and a drain puts nobody there.
      obtain ⟨m, hm, hagent, -⟩ := hserves.queue j r hr
      rw [hallocation, Allocation.openAdditional?, hnext] at hm
      rw [hagent, Allocation.nextToOpen?_eq_none_iff.mp hnext m (List.mem_of_getElem? hm)] at hshut
      cases hshut
  | some i =>
      obtain ⟨⟨first, hfirst, -⟩, -⟩ := Allocation.getElem?_of_nextToOpen? hnext
      have hopen : p.allocation.openAdditional? now = some (p.takeIn id now).allocation := by
        rw [hallocation, Allocation.openAdditional?, hnext]
        rfl
      have hfull : first.hasOpenSpots = false := by
        by_contra hfree
        have hspots := Allocation.hasOpenSpots_of_openAdditional hnext hfirst
          (by simpa using hfree) hopen
        have hlt := (h.takeIn hnew now).queueSize_drain_lt hspots (by omega)
        omega
      exact ⟨i, Allocation.opensFull_of_openAdditional hnext hfirst hfull hopen hserves hr hshut⟩

end Consistent

/-! ## Runs at one instant -/

namespace Situation

/-- Requests and sweeps, with the clock at rest. -/
def AtOneInstant (s : Situation) : Event → Prop
  | .create id => s.pool.contains id = false
  | .prolong _ | .destroy _ | .sweep => True
  | .allocate _ | .drain | .shiftChanged | .setClock _ => False

instance (s : Situation) : (e : Event) → Decidable (s.AtOneInstant e)
  | .create id => inferInstanceAs (Decidable (s.pool.contains id = false))
  | .prolong _ | .destroy _ | .sweep => inferInstanceAs (Decidable True)
  | .allocate _ | .drain | .shiftChanged | .setClock _ => inferInstanceAs (Decidable False)

/-- A creation that is granted. -/
def Admission (s : Situation) (e : Event) : Prop := (∃ id, e = .create id) ∧ s.grants e = true

/-- The event opens the agent at a position although its slots are all taken. -/
def OpensFull (i : Nat) (s : Situation) (e : Event) : Prop :=
  Allocation.OpensFull s.now s.pool.allocation (s.step e).pool.allocation i

/-- The event closes the agent at a position while its slots are all taken. -/
def ClosesFull (i : Nat) (s : Situation) (e : Event) : Prop :=
  Allocation.ClosesFull s.now s.pool.allocation (s.step e).pool.allocation i

/-- The last admission of a run has opened an agent that stands before a position, in vain:
its slots were all taken by sessions that it had kept when it was closed earlier. -/
def BehindVainOpening (s : Situation) (events : List Event) (j : Nat) : Prop :=
  ∃ before e after, events = before ++ e :: after ∧ (s.run before).Admission e ∧
    ¬ ((s.run before).step e).Occurs after Admission ∧
      ∃ i < j, (s.run before).OpensFull i e ∧ s.Occurs before (ClosesFull i)

theorem AtOneInstant.fresh {s : Situation} {e : Event} (h : s.AtOneInstant e) : s.Fresh e := by
  cases e with
  | create id => exact h
  | _ => exact True.intro

/-- What stays as it is at one instant. -/
structure Steady (settings : PoolSettings) (now : Moment) (s : Situation) : Prop where
  clock : s.now = now
  consistent : s.pool.Consistent
  roster : Allocation.SameRoster (.ofSettings settings) s.pool.allocation
  limit : s.pool.backlog.limit = (Allocation.ofSettings settings).capacity now * 3 / 2
  size_le : s.pool.queueSize ≤ s.pool.backlog.limit

theorem steady_start (settings : PoolSettings) (now : Moment) :
    Steady settings now (start settings now) :=
  ⟨rfl, consistent_ofSettings settings now, .refl _, rfl, Nat.zero_le _⟩

namespace Steady

variable {settings : PoolSettings} {now : Moment} {s : Situation} {e : Event}

/-- The limit is the maximum of the moment. -/
theorem maximum (h : Steady settings now s) :
    s.pool.maximumQueueSize s.now = s.pool.backlog.limit := by
  rw [maximumQueueSize, Pool.capacity, h.roster.capacity, h.limit, h.clock]

/-- Events other than admissions only take sessions out of the backlog. -/
theorem recedes (h : Steady settings now s) (he : s.AtOneInstant e) (hnot : ¬ s.Admission e) :
    Recedes s.now s.pool (s.step e).pool := by
  cases e with
  | create id =>
      cases hq : s.pool.create? id s.now with
      | none => simpa [step, hq] using .inl (.refl s.pool)
      | some q => exact absurd ⟨⟨id, rfl⟩, by simp [grants, hq]⟩ hnot
  | prolong id =>
      cases hq : s.pool.prolong? id s.now with
      | none => simpa [step, hq] using .inl (.refl s.pool)
      | some q => simpa [step, hq] using recedes_prolong hq
  | destroy id => exact h.consistent.recedes_destroy id s.now
  | sweep => exact h.consistent.recedes_sweep s.now
  | allocate a => exact he.elim
  | drain => exact he.elim
  | shiftChanged => exact he.elim
  | setClock m => exact he.elim

/-- In every event agents are opened or closed first, and then sessions come and go. -/
theorem turns (h : Steady settings now s) (he : s.AtOneInstant e) :
    Allocation.Turns s.now s.pool.allocation (s.step e).pool.allocation := by
  by_cases hadmission : s.Admission e
  · obtain ⟨⟨id, rfl⟩, hgranted⟩ := hadmission
    obtain ⟨q, hq⟩ := Option.isSome_iff_exists.mp hgranted
    simpa [step, hq] using (h.consistent.turns_create he hq).1
  · exact (h.recedes he hadmission).turns

theorem now_step (he : s.AtOneInstant e) : (s.step e).now = s.now := by
  cases e <;> first | rfl | exact he.elim

theorem step (h : Steady settings now s) (he : s.AtOneInstant e) :
    Steady settings now (s.step e) := by
  have hcons := consistent_step he.fresh h.consistent
  have hroster := h.roster.trans (h.turns he).sameRoster
  have hclock := (now_step he).trans h.clock
  by_cases hadmission : s.Admission e
  · obtain ⟨⟨id, rfl⟩, hgranted⟩ := hadmission
    obtain ⟨q, hq⟩ := Option.isSome_iff_exists.mp hgranted
    obtain ⟨-, hlimit, hsize⟩ := h.consistent.turns_create he hq
    have hroom := (create?_eq_some_iff.mp hq).1
    have hstep : (s.step (.create id)).pool = q := by simp [Situation.step, hq]
    rw [← hstep] at hlimit hsize
    exact ⟨hclock, hcons, hroster, hlimit.trans h.limit, by omega⟩
  · have hrecedes := h.recedes he hadmission
    refine ⟨hclock, hcons, hroster, hrecedes.limit.trans h.limit, ?_⟩
    rw [hrecedes.limit]
    exact hrecedes.size_le.trans h.size_le

end Steady

/-- A run at one instant is steady to its end. -/
theorem Admits.steady_run {settings : PoolSettings} {now : Moment} {events : List Event}
    (h : Admits AtOneInstant (start settings now) events) :
    Steady settings now ((start settings now).run events) :=
  h.preserves (P := Steady settings now) (fun _ _ he hs => hs.step he) (steady_start settings now)

/-- An event that is no admission leaves what the last admission was. -/
theorem BehindVainOpening.concat {s : Situation} {events : List Event} {j : Nat}
    (h : BehindVainOpening s events j) {e : Event} (hnot : ¬ (s.run events).Admission e) :
    BehindVainOpening s (events ++ [e]) j := by
  obtain ⟨before, f, after, rfl, hadmission, hlast, hvain⟩ := h
  refine ⟨before, f, after ++ [e], by simp, hadmission, ?_, hvain⟩
  rw [occurs_concat_iff]
  rintro (hearlier | hnow)
  · exact hlast hearlier
  · rw [run_append, run_cons] at hnot
    exact hnot hnow

/-- Why agents are in reserve at the end of a run: one whose slots are all taken was closed so,
and while the backlog is full every one stands behind an agent opened in vain. -/
structure Explained (s : Situation) (events : List Event) : Prop where
  full : ∀ (i : Nat) (q : AgentQueue), (s.run events).pool.allocation.queues[i]? = some q →
    Allocation.canOpen q.agent (s.run events).now = true → q.hasOpenSpots = false →
      s.Occurs events (ClosesFull i)
  behind : (s.run events).pool.backlog.limit ≤ (s.run events).pool.queueSize →
    ∀ (j : Nat) (q : AgentQueue), (s.run events).pool.allocation.queues[j]? = some q →
      Allocation.canOpen q.agent (s.run events).now = true → s.BehindVainOpening events j

/-- One more event leaves every agent of the reserve explained. -/
theorem Explained.concat {settings : PoolSettings} {now : Moment} {s : Situation}
    {events : List Event} {e : Event} (h : s.Explained events)
    (hsteady : Steady settings now (s.run events)) (he : (s.run events).AtOneInstant e) :
    s.Explained (events ++ [e]) := by
  have hend : s.run (events ++ [e]) = (s.run events).step e := by rw [run_append]; rfl
  have hclock : (s.run (events ++ [e])).now = (s.run events).now := by
    rw [hend, Steady.now_step he]
  constructor
  · intro i r hr hshut hfull
    rw [hclock] at hshut
    rw [hend] at hr
    obtain ⟨q, hq, hqfull⟩ := (hsteady.turns he).full hr hshut hfull
    rw [occurs_concat_iff]
    by_cases hqshut : Allocation.canOpen q.agent (s.run events).now = true
    · exact .inl (h.full i q hq hqshut hqfull)
    · exact .inr ⟨q, r, hq, hr, hqfull, by simpa using hqshut, hshut⟩
  · intro hfilled j r hr hshut
    rw [hclock] at hshut
    rw [hend] at hr hfilled
    by_cases hadmission : (s.run events).Admission e
    · obtain ⟨⟨id, rfl⟩, hgranted⟩ := hadmission
      obtain ⟨q, hq⟩ := Option.isSome_iff_exists.mp hgranted
      have hstep : ((s.run events).step (.create id)).pool = q := by simp [Situation.step, hq]
      have hlimit := (hsteady.consistent.turns_create he hq).2.1
      rw [hstep] at hr hfilled
      obtain ⟨i, hij, hopens⟩ := hsteady.consistent.opensFull_of_create hsteady.maximum he hq
        (hlimit ▸ hfilled) hr hshut
      have hvain : (s.run events).OpensFull i (.create id) := by
        rw [OpensFull, hstep]
        exact hopens
      obtain ⟨first, -, hfirst, -, hfull, hreserve, -⟩ := hopens
      exact ⟨events, .create id, [], rfl, ⟨⟨id, rfl⟩, hgranted⟩, not_occurs_nil _ _, i, hij,
        hvain, h.full i first hfirst hreserve hfull⟩
    · rcases hsteady.recedes he hadmission with hserves | ⟨hlt, hserves⟩
      · obtain ⟨q, hq, hagent, -⟩ := hserves.allocation.queue j r hr
        rw [hserves.limit] at hfilled
        exact (h.behind (hfilled.trans hserves.size_le) j q hq (hagent ▸ hshut)).concat hadmission
      · -- The backlog has become shorter, and is below its limit.
        have hlimit : ((s.run events).step e).pool.backlog.limit =
            (s.run events).pool.backlog.limit := hserves.limit
        have hle := hsteady.size_le
        omega

/-- Every agent that is in reserve during a run at one instant is explained. -/
theorem explained_run {settings : PoolSettings} {now : Moment} {events : List Event}
    (hslots : 3 ≤ settings.concurrency) (hcapacity : 0 < (ofSettings settings now).capacity now)
    (h : Admits AtOneInstant (start settings now) events) :
    (start settings now).Explained events := by
  induction events using List.reverseRecOn with
  | nil =>
      constructor
      · intro i q hq hshut hfull
        have hfree := Allocation.hasOpenSpots_ofSettings hslots (List.mem_of_getElem? hq) hshut
        rw [hfull] at hfree
        cases hfree
      · intro hfilled
        have hpositive : 0 < (ofSettings settings now).capacity now * 3 / 2 := by omega
        exact absurd hfilled (Nat.not_le_of_lt hpositive)
  | append_singleton events e ih =>
      obtain ⟨hevents, he, -⟩ := admits_append.mp h
      exact (ih hevents).concat hevents.steady_run he

end Situation

/-- When a session is refused at one instant, every additional agent that is on shift and still
closed to chat stands behind one that the last admission opened in vain, because an earlier
event had closed it with all its slots taken.  With at most one additional agent on shift,
none is closed then that has a free slot. -/
theorem refused_only_behind_vain_opening (settings : PoolSettings) (now : Moment)
    (events : List Event) (id : SessionId) (hslots : 3 ≤ settings.concurrency)
    (hcapacity : 0 < (ofSettings settings now).capacity now)
    (hevents : Situation.Admits Situation.AtOneInstant (.start settings now) events)
    (hrefused : ((Situation.start settings now).run events).grants (.create id) = false) :
    let queues := ((Situation.start settings now).run events).pool.allocation.queues
    (∀ (j : Nat) (q : AgentQueue), queues[j]? = some q →
      Allocation.canOpen q.agent now = true →
        (Situation.start settings now).BehindVainOpening events j) ∧
      ((∀ (i j : Nat) (a b : AdditionalAgent), settings.additional[i]? = some a →
        settings.additional[j]? = some b → (Agent.additional a).working now = true →
          (Agent.additional b).working now = true → i = j) →
        ∀ q ∈ queues, ¬ (Allocation.canOpen q.agent now = true ∧ q.hasOpenSpots = true)) := by
  intro queues
  have hsteady := hevents.steady_run
  have hfilled : ((Situation.start settings now).run events).pool.backlog.limit ≤
      ((Situation.start settings now).run events).pool.queueSize := by
    rw [Situation.grants, Option.isSome_eq_false_iff, Option.isNone_iff_eq_none] at hrefused
    exact create?_eq_none_iff.mp hrefused
  have hbehind (j : Nat) (q : AgentQueue) (hq : queues[j]? = some q)
      (hshut : Allocation.canOpen q.agent now = true) :
      (Situation.start settings now).BehindVainOpening events j :=
    (Situation.explained_run hslots hcapacity hevents).behind hfilled j q hq
      (hsteady.clock.symm ▸ hshut)
  refine ⟨hbehind, ?_⟩
  rintro hsole q hq ⟨hshut, -⟩
  obtain ⟨j, hj⟩ := List.mem_iff_getElem?.mp hq
  obtain ⟨before, e, after, rfl, -, -, i, hij, hopens, -⟩ := hbehind j q hj hshut
  have hearlier := (Situation.admits_append.mp hevents).1.steady_run
  obtain ⟨first, -, hfirst, -, -, hreserve, -⟩ := hopens
  rw [hearlier.clock] at hreserve
  obtain ⟨hi, a, ha, hworka⟩ := hearlier.roster.exists_additional hfirst hreserve
  obtain ⟨hj, b, hb, hworkb⟩ := hsteady.roster.exists_additional hj hshut
  have hsame := hsole _ _ a b ha hb hworka hworkb
  omega

/-- At the small desk four sessions fill every slot and the backlog.  The end of the one that
waits closes both additional agents, the second of which then loses its session.  The next
admission opens the first one in vain, and a session is refused while the second could serve
it. -/
theorem refused_only_behind_vain_opening_smallDesk :
    let events : List Event := [.create (.ofNat 0), .create (.ofNat 1), .create (.ofNat 2),
      .create (.ofNat 3), .destroy (.ofNat 3), .destroy (.ofNat 2), .create (.ofNat 4)]
    3 ≤ smallDesk.concurrency ∧ 0 < (ofSettings smallDesk (sampleHour 10)).capacity (sampleHour 10) ∧
      Situation.Admits Situation.AtOneInstant (.start smallDesk (sampleHour 10)) events ∧
      ((Situation.start smallDesk (sampleHour 10)).run events).grants (.create (.ofNat 5)) = false ∧
      (Situation.start smallDesk (sampleHour 10)).BehindVainOpening events 2 := by
  intro events
  have hslots : 3 ≤ smallDesk.concurrency := by decide
  have hcapacity : 0 < (ofSettings smallDesk (sampleHour 10)).capacity (sampleHour 10) := by
    decide +kernel
  have hevents :
      Situation.Admits Situation.AtOneInstant (.start smallDesk (sampleHour 10)) events := by
    decide +kernel
  have hrefused : ((Situation.start smallDesk (sampleHour 10)).run events).grants
      (.create (.ofNat 5)) = false := by decide +kernel
  obtain ⟨q, hq, hshut⟩ : ∃ q, ((Situation.start smallDesk
      (sampleHour 10)).run events).pool.allocation.queues[2]? = some q ∧
        Allocation.canOpen q.agent (sampleHour 10) = true :=
    ⟨_, by rfl, by decide +kernel⟩
  exact ⟨hslots, hcapacity, hevents, hrefused, (refused_only_behind_vain_opening smallDesk
    (sampleHour 10) events (.ofNat 5) hslots hcapacity hevents hrefused).1 2 q hq hshut⟩

/-- It is not so that a refusal always finds every additional agent on shift opened or full. -/
theorem not_refused_only_without_reserve :
    ¬ ∀ (settings : PoolSettings) (now : Moment) (events : List Event) (id : SessionId),
      3 ≤ settings.concurrency → 0 < (ofSettings settings now).capacity now →
        Situation.Admits Situation.AtOneInstant (.start settings now) events →
          ((Situation.start settings now).run events).grants (.create id) = false →
            ∀ q ∈ ((Situation.start settings now).run events).pool.allocation.queues,
              ¬ (Allocation.canOpen q.agent now = true ∧ q.hasOpenSpots = true) := by
  intro h
  have hsmall := h smallDesk (sampleHour 10) [.create (.ofNat 0), .create (.ofNat 1),
    .create (.ofNat 2), .create (.ofNat 3), .destroy (.ofNat 3), .destroy (.ofNat 2),
    .create (.ofNat 4)] (.ofNat 5) (by decide) (by decide +kernel) (by decide +kernel)
    (by decide +kernel)
  revert hsmall
  decide +kernel

end SupportDesk.Pool
