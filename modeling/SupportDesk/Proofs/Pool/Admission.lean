/-
# Admission and the length of the backlog

The backlog admits by its length and its limit alone, and a refusal leaves no trace.  The limit
is set when the pool is made and at every change of shift, so that it may fall below the length
of the backlog.  Putting a session back asks for no limit either.  All the same the backlog
never outgrows the largest limit that has been in force: a session is put back only where it
was just taken, and nothing but an admission lengthens the backlog.

Nothing is assumed here about the pool or about the identifiers that are drawn.
-/

import SupportDesk.Proofs.Pool.Overflow
import SupportDesk.Proofs.Pool.Terms

namespace SupportDesk.Pool

/-! ## What each move does to the length -/

variable {p q : Pool} {now : Moment}

theorem size_pop_le (b : Backlog) : b.pop.2.size ≤ b.size := by
  unfold Backlog.pop
  split
  · exact Nat.le_refl _
  next id rest horder => simp [Backlog.size, horder]

/-- A session that is put back where it was taken makes the backlog no longer than it was. -/
theorem size_restoreFront_pop_le {b c : Backlog} {s : Session} (h : b.pop = (some s, c)) :
    (c.restoreFront s).size ≤ b.size := by
  unfold Backlog.pop at h
  split at h
  · cases h
  next id rest horder =>
    obtain ⟨-, rfl⟩ := Prod.mk.inj h
    unfold Backlog.restoreFront
    split <;> simp [Backlog.size, horder]

theorem queueSize_assign {s : Session} (hq : p.assign? s now = some q) :
    q.queueSize = p.queueSize := congrArg Backlog.size (backlog_assign hq)

theorem queueSize_release (p : Pool) (id : SessionId) : (p.release id).queueSize = p.queueSize := by
  unfold release
  dsimp only
  split <;> rfl

theorem queueSize_move_le (h : Move now p q) : q.queueSize ≤ p.queueSize := by
  cases h with
  | pop => exact size_pop_le p.backlog
  | putBack hpop => exact size_restoreFront_pop_le hpop
  | assign hq => exact (queueSize_assign hq).le
  | dismiss => exact List.length_filter_le _ _
  | release id => exact (queueSize_release p id).le
  | openNext | closeAll | touchWaiting | touchServed => exact Nat.le_refl _

/-- Moves leave the backlog at most as long as it was. -/
theorem Moves.queueSize_le (h : Moves now p q) : q.queueSize ≤ p.queueSize :=
  h.preserves (P := fun r => r.queueSize ≤ p.queueSize)
    (fun _ _ hmove hp => (queueSize_move_le hmove).trans hp) (Nat.le_refl _)

namespace Situation

/-! ## Events -/

/-- A session that is refused leaves everything as it was. -/
theorem step_create_of_refused {s : Situation} {id : SessionId}
    (h : s.pool.create? id s.now = none) : s.step (.create id) = s := by
  simp [step, h]

theorem queueSize_prepared {s : Situation} {e : Event} (h : ¬ s.Admission e) :
    (s.prepared e).queueSize = s.pool.queueSize := by
  cases e with
  | create id =>
      rw [prepared, if_neg fun hgranted => h ⟨⟨id, rfl⟩, hgranted⟩]
  | _ => rfl

/-- Only an admission lengthens the backlog, and by one session. -/
theorem queueSize_step_le (s : Situation) (e : Event) :
    (s.step e).pool.queueSize ≤ s.pool.queueSize ∨
      (s.Admission e ∧ (s.step e).pool.queueSize = s.pool.queueSize + 1) := by
  have hmoves := (s.moves_step e).queueSize_le
  by_cases hadmission : s.Admission e
  · obtain ⟨⟨id, rfl⟩, hgranted⟩ := hadmission
    rw [prepared, if_pos hgranted, queueSize_withNew] at hmoves
    rcases Nat.lt_or_eq_of_le hmoves with hlt | heq
    · exact .inl (Nat.le_of_lt_succ hlt)
    · exact .inr ⟨⟨⟨id, rfl⟩, hgranted⟩, heq⟩
  · rw [queueSize_prepared hadmission] at hmoves
    exact .inl hmoves

/-- The limit is written by a change of shift and by nothing else. -/
theorem limit_step (s : Situation) (e : Event) :
    (s.step e).pool.backlog.limit =
      if e = .shiftChanged then s.pool.capacity s.now * 3 / 2 else s.pool.backlog.limit := by
  split
  next he =>
    subst he
    exact (sameTerms_shiftChanged s.pool s.now).limit
  next he => exact (sameTerms_step he).limit

/-- What is admitted finds room below the limit. -/
theorem queueSize_lt_of_admission {s : Situation} {e : Event} (h : s.Admission e) :
    s.pool.queueSize < s.pool.backlog.limit := by
  obtain ⟨⟨id, rfl⟩, hgranted⟩ := h
  obtain ⟨q, hq⟩ := Option.isSome_iff_exists.mp hgranted
  exact (create?_eq_some_iff.mp hq).1

/-! ## Runs -/

/-- A limit of the backlog that has been in force in the course of a run. -/
def LimitInForce (s : Situation) (events : List Event) (limit : Nat) : Prop :=
  ∃ earlier, earlier <+: events ∧ (s.run earlier).pool.backlog.limit = limit

theorem LimitInForce.concat {s : Situation} {events : List Event} {limit : Nat}
    (h : s.LimitInForce events limit) (e : Event) : s.LimitInForce (events ++ [e]) limit := by
  obtain ⟨earlier, hbegins, hlimit⟩ := h
  exact ⟨earlier, hbegins.trans (List.prefix_append events [e]), hlimit⟩

/-- A backlog that has been within some limit stays within one that has been in force. -/
theorem exists_limitInForce (s : Situation) (events : List Event)
    (h : s.pool.queueSize ≤ s.pool.backlog.limit) :
    ∃ limit, s.LimitInForce events limit ∧ (s.run events).pool.queueSize ≤ limit := by
  induction events using List.reverseRecOn with
  | nil => exact ⟨_, ⟨[], List.prefix_rfl, rfl⟩, h⟩
  | append_singleton events e ih =>
      have hend : s.run (events ++ [e]) = (s.run events).step e := by rw [run_append]; rfl
      rw [hend]
      rcases queueSize_step_le (s.run events) e with hle | ⟨hadmission, heq⟩
      · obtain ⟨limit, hforce, hwithin⟩ := ih
        exact ⟨limit, hforce.concat e, hle.trans hwithin⟩
      · -- The limit that has just let the session in is in force before the event.
        have hroom := queueSize_lt_of_admission hadmission
        exact ⟨_, ⟨events, List.prefix_append events [e], rfl⟩, heq.trans_le hroom⟩

/-- The limit lasts as long as the shift does. -/
theorem limit_run {s : Situation} {events : List Event} (h : .shiftChanged ∉ events) :
    (s.run events).pool.backlog.limit = s.pool.backlog.limit := by
  induction events generalizing s with
  | nil => rfl
  | cons e events ih =>
      have hfirst : e ≠ .shiftChanged := (List.ne_of_not_mem_cons h).symm
      rw [run_cons, ih (List.not_mem_of_not_mem_cons h), limit_step, if_neg hfirst]

end Situation

/-- Admission is exact.  At the end of any run a session is refused if and only if the backlog is
as long as its limit, and a refusal changes nothing at all.  The limit is one and a half times
the capacity of the moment, rounded down, when the pool is made and when the shift changes, and
no other event writes it.  Only an admission lengthens the backlog, by one session at most.  So
the backlog is within the largest limit that has been in force, and without a change of shift
within the first one. -/
theorem admission_exact (settings : PoolSettings) (now : Moment) (events : List Event) :
    let first := Situation.start settings now
    let s := first.run events
    (∀ id, (s.pool.create? id s.now = none ↔ s.pool.backlog.limit ≤ s.pool.queueSize) ∧
      (s.pool.create? id s.now = none → s.step (.create id) = s)) ∧
    first.pool.backlog.limit = first.pool.capacity now * 3 / 2 ∧
    (∀ e, (s.step e).pool.backlog.limit =
      if e = .shiftChanged then s.pool.capacity s.now * 3 / 2 else s.pool.backlog.limit) ∧
    (∀ e, (s.step e).pool.queueSize ≤ s.pool.queueSize ∨
      (s.Admission e ∧ (s.step e).pool.queueSize = s.pool.queueSize + 1)) ∧
    (∃ limit, first.LimitInForce events limit ∧ s.pool.queueSize ≤ limit) ∧
    (.shiftChanged ∉ events → s.pool.queueSize ≤ first.pool.backlog.limit) := by
  intro first s
  have hempty : first.pool.queueSize ≤ first.pool.backlog.limit := Nat.zero_le _
  refine ⟨fun id => ⟨create?_eq_none_iff, Situation.step_create_of_refused⟩, rfl, s.limit_step,
    s.queueSize_step_le, first.exists_limitInForce events hempty, ?_⟩
  intro hsame
  obtain ⟨limit, ⟨earlier, hbegins, rfl⟩, hwithin⟩ := first.exists_limitInForce events hempty
  have hearlier : .shiftChanged ∉ earlier := fun hin => hsame (hbegins.subset hin)
  exact hwithin.trans_eq (Situation.limit_run hearlier)

/-- Four sessions fill the slots and the backlog of the small desk.  The fifth is refused and
leaves no trace, and the backlog is as long as its first limit allows. -/
theorem admission_exact_smallDesk :
    let events : List Event :=
      [.create (.ofNat 0), .create (.ofNat 1), .create (.ofNat 2), .create (.ofNat 3)]
    let first := Situation.start smallDesk (sampleHour 10)
    let s := first.run events
    s.pool.create? (.ofNat 4) s.now = none ∧ s.step (.create (.ofNat 4)) = s ∧
      .shiftChanged ∉ events ∧ s.pool.queueSize ≤ first.pool.backlog.limit ∧
      s.pool.queueSize = 1 := by
  intro events first s
  have hrefused : s.pool.create? (.ofNat 4) s.now = none := by decide +kernel
  have hsame : .shiftChanged ∉ events := by decide
  obtain ⟨hexact, -, -, -, -, hinitial⟩ := admission_exact smallDesk (sampleHour 10) events
  exact ⟨hrefused, (hexact (.ofNat 4)).2 hrefused, hsame, hinitial hsame, by decide +kernel⟩

end SupportDesk.Pool
