/-
# The life of a session

A session waits, then it is with one agent, then it is gone.  The queue that it is given to is
the one that it stays in, whether or not the agent is on shift or open to chat, and a session
that is gone is not known again.  This is what the stages of a session allow, carried along the
run from any state to any later one.
-/

import SupportDesk.Proofs.Pool.History
import SupportDesk.Proofs.Pool.Terms

namespace SupportDesk.Pool

namespace Consistent

variable {p : Pool} {id : SessionId}

/-- A session that the pool does not know can be neither prolonged nor ended. -/
theorem refused_of_not_contains (h : p.Consistent) (hgone : p.contains id = false)
    (now : Moment) : p.prolong? id now = none ∧ (p.destroy id now).2 = false := by
  constructor
  · rw [← Option.not_isSome_iff_eq_none, prolong?_isSome, hgone]
    exact Bool.false_ne_true
  · rw [h.destroy_answer, hgone]

end Consistent

namespace Situation

variable {settings : PoolSettings} {now : Moment} {events later : List Event} {id : SessionId}

/-- Once a session has been created, the rest of the run leads it only forward. -/
theorem DrawsOnce.stage_run (honce : (start settings now).DrawsOnce (events ++ later))
    (hid : id ∈ (start settings now).created events) :
    (((start settings now).run events).pool.stage id).Leads True
      (((start settings now).run (events ++ later)).pool.stage id) := by
  induction later using List.reverseRecOn with
  | nil =>
      rw [List.append_nil]
      exact .stay _
  | append_singleton later e ih =>
      rw [← List.append_assoc] at honce ⊢
      have htraced := honce.init.traced
      have hbefore : id ∈ (start settings now).created (events ++ later) := by
        rw [created_append]
        exact List.mem_append_left _ hid
      have hnew : ((start settings now).run (events ++ later)).drawn e ≠ some id := by
        intro hdrawn
        apply honce.not_mem_created hbefore
        simp [created, hdrawn]
      have hstep := stage_step (htraced.drawsNew honce) htraced.consistent
        (honce.enters_eq_drawn _ ▸ hnew)
      rw [run_append _ _ [e]]
      exact (ih honce.init).trans (hstep.mono fun _ => trivial)

end Situation

/-- Of one roster a session is with the same agent while it is in the same queue.  The agent may
have been opened or closed. -/
theorem findAgent?_of_sameRoster {p q : Pool} {id : SessionId} {i : Nat}
    (hroster : Allocation.SameRoster p.allocation q.allocation)
    (hp : p.allocation.assignments.find? id = some i)
    (hq : q.allocation.assignments.find? id = some i) :
    (q.findAgent? id).map (Agent.setOpen false) = (p.findAgent? id).map (Agent.setOpen false) := by
  have hagent := congrArg (·[i]?) hroster.agents
  simpa [findAgent?, Allocation.findAgent?, hp, hq, Function.comp_def] using hagent

/-- The life of a session is one way and its agent never changes.  In a run from a new pool in
which no identifier is given out twice, take any state and any later one, whatever happened
between.  A session of the pool has been created; it was unknown before and known right after.
Every session that has been created has come from the earlier stage to the later one only
forward.  If it was with an agent and is still known, it is in the same queue, which belongs to
the same agent, and does not wait.  If it was gone, it is gone, and it can be neither prolonged
nor ended. -/
theorem life_is_one_way (settings : PoolSettings) (now : Moment) (events later : List Event)
    (honce : (Situation.start settings now).DrawsOnce (events ++ later)) :
    let s := (Situation.start settings now).run events
    let t := s.run later
    (∀ id, s.pool.contains id = true → id ∈ (Situation.start settings now).created events) ∧
      (∀ e rest id, later = e :: rest → s.drawn e = some id →
        s.pool.contains id = false ∧ (s.step e).pool.contains id = true) ∧
      ∀ id ∈ (Situation.start settings now).created events,
        (s.pool.stage id).Leads True (t.pool.stage id) ∧
        (∀ i, s.pool.allocation.assignments.find? id = some i → t.pool.contains id = true →
          t.pool.allocation.assignments.find? id = some i ∧ t.pool.allocation.Holds i id ∧
            t.pool.backlog.contains id = false ∧
            (t.pool.findAgent? id).map (Agent.setOpen false) =
              (s.pool.findAgent? id).map (Agent.setOpen false)) ∧
        (s.pool.contains id = false → t.pool.contains id = false ∧
          t.grants (.prolong id) = false ∧ t.grants (.destroy id) = false) := by
  intro s t
  have hbefore : s.pool.Consistent := honce.init.traced.consistent
  have hafter : t.pool.Consistent := by
    have hall := honce.traced.consistent
    rwa [Situation.run_append] at hall
  refine ⟨honce.init.traced.mem_created, ?entry, fun id hid => ?_⟩
  case entry =>
    rintro e rest id rfl hdrawn
    have hnext : (Situation.start settings now).DrawsOnce (events ++ [e]) := by
      rw [← List.singleton_append, ← List.append_assoc] at honce
      exact honce.init
    have hnew := honce.init.traced.drawsNew hnext
    exact ⟨hnew id hdrawn, Situation.contains_step_of_drawn hnew hbefore hdrawn⟩
  have hleads : (s.pool.stage id).Leads True (t.pool.stage id) := by
    have hall := honce.stage_run hid
    rwa [Situation.run_append] at hall
  refine ⟨hleads, ?served, ?gone⟩
  case served =>
    intro i hi hlive
    rw [hbefore.stage_eq_served_iff.mpr hi] at hleads
    rcases hleads.of_served with hstage | ⟨hstage, -⟩
    · have hsame := hafter.stage_eq_served_iff.mp hstage
      refine ⟨hsame, (hafter.allocation.assigned_iff id i).mp hsame, ?_, ?_⟩
      · by_contra hwaits
        rw [stage_eq_waiting_iff.mpr (by simpa using hwaits)] at hstage
        cases hstage
      · exact findAgent?_of_sameRoster (Situation.sameRoster_run s later) hi hsame
    · rw [hafter.stage_eq_absent_iff.mp hstage] at hlive
      cases hlive
  case gone =>
    intro hgone
    rw [hbefore.stage_eq_absent_iff.mpr hgone] at hleads
    have hstays := hafter.stage_eq_absent_iff.mp hleads.absent_of_absent
    obtain ⟨hprolong, hdestroy⟩ := hafter.refused_of_not_contains hstays t.now
    refine ⟨hstays, ?_, hdestroy⟩
    rw [Situation.grants, hprolong, Option.isSome_none]

/-- On the small desk the second session is given to an additional agent, who is closed to chat
when the waiting session is ended, goes off shift, and keeps the second session through a sweep
that ends the first. -/
theorem life_is_one_way_smallDesk :
    let start := Situation.start smallDesk (sampleHour 10)
    let events : List Event := [.create (.ofNat 0), .create (.ofNat 1), .create (.ofNat 2),
      .create (.ofNat 3), .destroy (.ofNat 3)]
    let later : List Event := [.setClock (sampleHour 20), .prolong (.ofNat 1), .sweep,
      .shiftChanged, .setClock (sampleHour 9), .drain]
    let s := start.run events
    let t := s.run later
    start.DrawsOnce (events ++ later) ∧
      s.pool.stage (.ofNat 0) = .served 0 ∧ t.pool.stage (.ofNat 0) = .absent ∧
      s.pool.stage (.ofNat 1) = .served 1 ∧ t.pool.contains (.ofNat 1) = true ∧
      t.pool.allocation.assignments.find? (.ofNat 1) = some 1 ∧
      t.pool.findAgent? (.ofNat 1) = some (.additional (.ofWindow 100 (.onTheHour 9)
        (.onTheHour 17))) ∧
      s.pool.contains (.ofNat 3) = false ∧ t.grants (.prolong (.ofNat 3)) = false := by
  intro start events later s t
  have honce : start.DrawsOnce (events ++ later) := ⟨by simp [events, later], by decide +kernel⟩
  have hgone : s.pool.contains (.ofNat 3) = false := by decide +kernel
  have hlive : t.pool.contains (.ofNat 1) = true := by decide +kernel
  obtain ⟨-, -, hcreated⟩ := life_is_one_way smallDesk (sampleHour 10) events later honce
  obtain ⟨-, hserved, -⟩ := hcreated (.ofNat 1) (by decide +kernel)
  obtain ⟨hsame, -, -, -⟩ := hserved 1 (by decide +kernel) hlive
  obtain ⟨-, -, hrefused⟩ := hcreated (.ofNat 3) (by decide +kernel)
  obtain ⟨-, hprolong, -⟩ := hrefused hgone
  exact ⟨honce, by decide +kernel, by decide +kernel, by decide +kernel, hlive, hsame,
    by decide +kernel, hgone, hprolong⟩

end SupportDesk.Pool
