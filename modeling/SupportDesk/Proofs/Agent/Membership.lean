/-
# Who is in a queue

A queue is asked to take sessions in and to let them go.  It takes a session in if a slot is free
and the session is not there yet.  An addition that it refuses leaves no trace, for whichever of the
two reasons: a session that is offered once more while it is there does not replace the one that was
taken in, and one that found no slot does not come in when a slot becomes free.

So what a queue holds is told by the additions that it did not refuse, each as long as its session
has not been let go.  Whether an addition is refused depends on what the queue holds by then, and
this depends on all the requests before it, not on those for the same session alone.
-/

import SupportDesk.Proofs.Agent.Allocation

namespace SupportDesk

/-- What a queue can be asked. -/
inductive QueueRequest
  | add (s : Session)
  | remove (id : SessionId)
deriving DecidableEq, Repr

namespace AgentQueue

/-- Carries out a request. -/
def perform (q : AgentQueue) : QueueRequest → AgentQueue
  | .add s => q.add s
  | .remove id => q.remove id

/-- Carries out requests one after another. -/
def run (q : AgentQueue) (requests : List QueueRequest) : AgentQueue := requests.foldl perform q

/-- The queue has a free slot, and does not hold the session yet. -/
structure Takes (q : AgentQueue) (s : Session) : Prop where
  new : q.contains s.id = false
  room : q.size < q.maxSlots

/-- A session was taken in, and not let go since. -/
def Keeps (q : AgentQueue) (requests : List QueueRequest) (s : Session) : Prop :=
  ∃ before after, requests = before ++ .add s :: after ∧ (q.run before).Takes s ∧
    .remove s.id ∉ after

variable {q : AgentQueue} {s : Session} {id : SessionId}

/-! ## One request -/

theorem takes_iff : q.Takes s ↔ q.contains s.id = false ∧ q.hasOpenSpots = true := by
  rw [hasOpenSpots, decide_eq_true_iff]
  exact ⟨fun h => ⟨h.new, h.room⟩, fun h => ⟨h.1, h.2⟩⟩

theorem add_of_takes (h : q.Takes s) : q.add s = { q with sessions := q.sessions.insert s.id s } :=
  add_eq_of_room h.new (takes_iff.mp h).2

/-- An addition changes nothing if and only if it is refused. -/
theorem add_eq_self_iff : q.add s = q ↔ ¬ q.Takes s := by
  constructor
  · intro hsame htakes
    have hsize := SessionTable.size_insert_of_not_contains htakes.new s
    rw [add_of_takes htakes] at hsame
    have hsessions : q.sessions.insert s.id s = q.sessions := congrArg sessions hsame
    rw [hsessions] at hsize
    omega
  · intro hrefused
    unfold add
    split
    next => rfl
    next hfits =>
      refine absurd (takes_iff.mpr ?_) hrefused
      simpa using hfits

/-- After an addition the queue holds what it took in and what it held before. -/
theorem find?_add (a : Session) : (q.add a).sessions.find? id = some s ↔
    (a = s ∧ s.id = id ∧ q.Takes a) ∨ q.sessions.find? id = some s := by
  by_cases htakes : q.Takes a
  · rw [add_of_takes htakes, SessionTable.find?_insert]
    split
    next hid =>
      subst hid
      have hnone := SessionTable.find?_eq_none_iff.mpr htakes.new
      rw [hnone, Option.some.injEq]
      constructor
      · rintro rfl
        exact .inl ⟨rfl, rfl, htakes⟩
      · rintro (⟨rfl, -⟩ | hnot)
        · rfl
        · cases hnot
    next hid =>
      refine (or_iff_right ?_).symm
      rintro ⟨rfl, hsame, -⟩
      exact hid hsame.symm
  · rw [add_eq_self_iff.mpr htakes]
    exact (or_iff_right fun h => htakes h.2.2).symm

/-- A session is held after a request if the request brought it in, or if it was held before and is
not let go. -/
theorem find?_perform (r : QueueRequest) : (q.perform r).sessions.find? id = some s ↔
    (r = .add s ∧ s.id = id ∧ q.Takes s) ∨ (q.sessions.find? id = some s ∧ r ≠ .remove id) := by
  cases r with
  | add a =>
      rw [perform, find?_add]
      constructor
      · rintro (⟨rfl, hid, htakes⟩ | hfind)
        · exact .inl ⟨rfl, hid, htakes⟩
        · exact .inr ⟨hfind, nofun⟩
      · rintro (⟨hadd, hid, htakes⟩ | ⟨hfind, -⟩)
        · obtain rfl := QueueRequest.add.inj hadd
          exact .inl ⟨rfl, hid, htakes⟩
        · exact .inr hfind
  | remove k =>
      rw [perform, remove, SessionTable.find?_erase]
      by_cases hid : id = k <;> simp [hid, eq_comm]

/-! ## Runs -/

theorem run_append_singleton (q : AgentQueue) (requests : List QueueRequest) (r : QueueRequest) :
    q.run (requests ++ [r]) = (q.run requests).perform r := by
  simp [run]

/-- What additions and removals keep is kept to the end. -/
theorem run_preserves {P : AgentQueue → Prop} (hadd : ∀ q s, P q → P (q.add s))
    (hremove : ∀ q id, P q → P (q.remove id)) (hq : P q) (requests : List QueueRequest) :
    P (q.run requests) := by
  induction requests using List.reverseRecOn with
  | nil => exact hq
  | append_singleton requests r ih =>
      rw [run_append_singleton]
      cases r with
      | add s => exact hadd _ s ih
      | remove id => exact hremove _ id ih

/-- With one more request, a session is kept if this one brings it in, or if it was kept before and
is not let go. -/
theorem keeps_append_singleton {requests : List QueueRequest} {r : QueueRequest} :
    q.Keeps (requests ++ [r]) s ↔
      (r = .add s ∧ (q.run requests).Takes s) ∨ (q.Keeps requests s ∧ r ≠ .remove s.id) := by
  constructor
  · rintro ⟨before, after, hsplit, htakes, hkept⟩
    rcases List.eq_nil_or_concat' after with rfl | ⟨after, last, rfl⟩
    · obtain ⟨rfl, hlast⟩ := List.append_inj' hsplit rfl
      exact .inl ⟨List.singleton_inj.mp hlast, htakes⟩
    · rw [← List.cons_append, ← List.append_assoc] at hsplit
      obtain ⟨rfl, hlast⟩ := List.append_inj' hsplit rfl
      obtain rfl := List.singleton_inj.mp hlast
      rw [List.mem_append, List.mem_singleton, not_or] at hkept
      exact .inr ⟨⟨before, after, rfl, htakes, hkept.1⟩, Ne.symm hkept.2⟩
  · rintro (⟨rfl, htakes⟩ | ⟨⟨before, after, rfl, htakes, hkept⟩, hr⟩)
    · exact ⟨requests, [], rfl, htakes, nofun⟩
    · refine ⟨before, after ++ [r], by simp, htakes, ?_⟩
      rw [List.mem_append, List.mem_singleton, not_or]
      exact ⟨hkept, Ne.symm hr⟩

/-- The sessions that are held are those that are kept, as they were when they were taken in. -/
theorem find?_run (agent : Agent) (concurrency : UInt32) (requests : List QueueRequest) :
    ((ofAgent agent concurrency).run requests).sessions.find? id = some s ↔
      s.id = id ∧ (ofAgent agent concurrency).Keeps requests s := by
  induction requests using List.reverseRecOn with
  | nil =>
      refine iff_of_false nofun ?_
      rintro ⟨-, before, after, hnil, -⟩
      simp at hnil
  | append_singleton requests r ih =>
      rw [run_append_singleton, find?_perform, ih, keeps_append_singleton]
      constructor
      · rintro (⟨rfl, rfl, htakes⟩ | ⟨⟨rfl, hkeeps⟩, hr⟩)
        · exact ⟨rfl, .inl ⟨rfl, htakes⟩⟩
        · exact ⟨rfl, .inr ⟨hkeeps, hr⟩⟩
      · rintro ⟨rfl, ⟨rfl, htakes⟩ | ⟨hkeeps, hr⟩⟩
        · exact .inl ⟨rfl, rfl, htakes⟩
        · exact .inr ⟨⟨rfl, hkeeps⟩, hr⟩

/-- Where there is one slot, a second session is refused, and not taken in when the first one has
gone. -/
example (a b : Moment) :
    let junior := Agent.additional (.ofWindow 100 .midnight .midnight)
    let q := (ofAgent junior 3).run
      [.add (.start (.ofNat 1) a), .add (.start (.ofNat 2) b), .remove (.ofNat 1)]
    q.maxSlots = 1 ∧ q.size = 0 := ⟨rfl, rfl⟩

/-! ## The queue as a set -/

/-- A queue has as many sessions as there are identifiers in it. -/
theorem Consistent.exists_ids (h : q.Consistent) :
    ∃ ids : Finset SessionId, ids.card = q.size ∧ ∀ id, id ∈ ids ↔ q.contains id = true := by
  refine ⟨q.sessions.keys.toFinset, ?_, ?_⟩
  · rw [List.toFinset_card_of_nodup h.distinct, size, SessionTable.size_eq_length_keys]
  · intro id
    rw [List.mem_toFinset, contains, SessionTable.contains_iff_mem_keys]

theorem consistent_run (agent : Agent) (concurrency : UInt32) (requests : List QueueRequest) :
    ((ofAgent agent concurrency).run requests).Consistent :=
  run_preserves (fun _ s h => h.add s) (fun _ id h => h.remove id)
    (consistent_ofAgent agent concurrency) requests

theorem terms_run (q : AgentQueue) (requests : List QueueRequest) :
    (q.run requests).agent = q.agent ∧ (q.run requests).maxSlots = q.maxSlots := by
  apply run_preserves (P := fun r => r.agent = q.agent ∧ r.maxSlots = q.maxSlots)
  · intro r s h
    simpa using h
  · intro r id h
    exact h
  · exact ⟨rfl, rfl⟩

/-- Whatever a new queue is asked, it keeps its agent, and the agent's share of the concurrency as
its slots.  It is a set of no more sessions than these, and tells how many slots are left and whether
there are any.  It holds exactly the sessions that were taken in and not let go since, as they were
when they were taken in; and an addition leaves it as it was if and only if the session is there or
all slots are taken. -/
theorem bounded_set (agent : Agent) (concurrency : UInt32) (requests : List QueueRequest) :
    let start := ofAgent agent concurrency
    let q := start.run requests
    q.agent = agent ∧ q.maxSlots = concurrency.toNat * agent.level.percent / 100 ∧
      q.size ≤ q.maxSlots ∧
      (∃ ids : Finset SessionId, ids.card = q.size ∧ ∀ id, id ∈ ids ↔ q.contains id = true) ∧
      (q.openSpots : Int) = q.maxSlots - q.size ∧ (q.hasOpenSpots = true ↔ 0 < q.openSpots) ∧
      (∀ id, q.contains id = true ↔ ∃ s, s.id = id ∧ start.Keeps requests s) ∧
      (∀ id s, q.sessions.find? id = some s ↔ s.id = id ∧ start.Keeps requests s) ∧
      ∀ s, q.add s = q ↔ q.contains s.id = true ∨ q.size = q.maxSlots := by
  intro start q
  obtain ⟨hagent, hslots⟩ := start.terms_run requests
  have hconsistent : q.Consistent := consistent_run agent concurrency requests
  have hsize := hconsistent.size_le
  refine ⟨hagent, hslots, hsize, hconsistent.exists_ids, ?_, ?_, ?_, ?_, ?_⟩
  · exact Int.ofNat_sub hsize
  · rw [hasOpenSpots, decide_eq_true_iff, openSpots]
    omega
  · intro id
    rw [contains, SessionTable.contains_eq_isSome, Option.isSome_iff_exists]
    exact exists_congr fun s => find?_run agent concurrency requests
  · exact fun id s => find?_run agent concurrency requests
  · intro s
    rw [add_eq_self_iff, takes_iff, not_and_or, hasOpenSpots, decide_eq_true_iff,
      Bool.not_eq_false, not_lt]
    exact or_congr_right ⟨hsize.antisymm, Eq.ge⟩

end AgentQueue

end SupportDesk
