/-
# How an allocation evolves

Whatever a desk does with its agents is made of four steps: a session is given to an agent, a
session is taken from one, the next additional agent is opened, and all of them are closed.
Each of them changes queues one by one, so that a property of queues that outlasts the changes
of a single queue outlasts every course of steps.

The steps may be taken at different moments, in any order of these moments, and nothing is
assumed about the allocation.  One whose queues and assignments agree goes on to be such.
-/

import SupportDesk.Proofs.Agent.Reserve

namespace SupportDesk.Allocation

/-- One step of an allocation, at some moment where it depends on one. -/
inductive Step : Allocation → Allocation → Prop
  | allocate {a b : Allocation} {s : Session} {now : Moment} (h : a.allocate? s now = some b) :
      Step a b
  | release {a b : Allocation} {id : SessionId} (h : a.release? id = some b) : Step a b
  | openNext {a b : Allocation} {now : Moment} (h : a.openAdditional? now = some b) : Step a b
  | closeAll (a : Allocation) : Step a a.closeAdditional

/-- One allocation comes from another by any number of steps. -/
def Evolves : Allocation → Allocation → Prop := Relation.ReflTransGen Step

variable {a b : Allocation}

/-- A step keeps the agreement of queues and assignments. -/
theorem Step.consistent (h : Step a b) (ha : a.Consistent) : b.Consistent := by
  cases h with
  | allocate h =>
      obtain ⟨hnew, i, best, hchoose, rfl⟩ := allocate?_eq_some_iff.mp h
      obtain ⟨hi, htake⟩ := getElem?_of_choose? hchoose
      exact ha.place hnew hi (Bool.and_eq_true_iff.mp htake).2
  | release h =>
      obtain ⟨i, hi, rfl⟩ := Option.map_eq_some_iff.mp h
      exact ha.vacate hi
  | openNext h => exact ha.openAdditional h
  | closeAll => exact ha.closeAdditional

/-- A step keeps the roster. -/
theorem Step.sameRoster (h : Step a b) : SameRoster a b := by
  cases h with
  | @allocate _ s now h =>
      obtain ⟨-, i, best, hchoose, rfl⟩ := allocate?_eq_some_iff.mp h
      exact (Serves.place s hchoose).sameRoster
  | release h =>
      obtain ⟨i, -, rfl⟩ := Option.map_eq_some_iff.mp h
      exact ⟨rfl, map_modify_of_eq (fun q => by simp) i⟩
  | openNext h => exact sameRoster_openAdditional h
  | closeAll => exact sameRoster_closeAdditional a

/-- The agents are promised the same concurrency throughout. -/
theorem Step.concurrency (h : Step a b) : b.concurrency = a.concurrency := by
  cases h with
  | allocate h =>
      obtain ⟨-, i, best, -, rfl⟩ := allocate?_eq_some_iff.mp h
      rfl
  | release h =>
      obtain ⟨i, -, rfl⟩ := Option.map_eq_some_iff.mp h
      rfl
  | openNext h =>
      obtain ⟨i, -, rfl⟩ := Option.map_eq_some_iff.mp h
      rfl
  | closeAll => rfl

section

variable {P : AgentQueue → Prop} (hadd : ∀ (q : AgentQueue) (s : Session), P q → P (q.add s))
  (hremove : ∀ (q : AgentQueue) (id : SessionId), P q → P (q.remove id))
  (hopen : ∀ (q : AgentQueue) (isOpen : Bool), P q → P (setOpen isOpen q))

include hadd hremove hopen

/-- A step gives one queue a session or takes one from it, or opens or closes agents. -/
theorem Step.forall_queues (h : Step a b) (ha : ∀ q ∈ a.queues, P q) : ∀ q ∈ b.queues, P q := by
  cases h with
  | allocate h =>
      obtain ⟨-, i, best, -, rfl⟩ := allocate?_eq_some_iff.mp h
      exact forall_mem_modify ha (fun q hq => hadd q _ hq) i
  | release h =>
      obtain ⟨i, -, rfl⟩ := Option.map_eq_some_iff.mp h
      exact forall_mem_modify ha (fun q hq => hremove q _ hq) i
  | openNext h =>
      obtain ⟨i, -, rfl⟩ := Option.map_eq_some_iff.mp h
      exact forall_mem_modify ha (fun q hq => hopen q true hq) i
  | closeAll =>
      intro q hq
      obtain ⟨r, hr, rfl⟩ := List.mem_map.mp hq
      exact hopen r false (ha r hr)

/-- What the changes of a queue keep holds of every queue to the end. -/
theorem Evolves.forall_queues (h : Evolves a b) (ha : ∀ q ∈ a.queues, P q) :
    ∀ q ∈ b.queues, P q := by
  induction h with
  | refl => exact ha
  | tail _ hstep ih => exact hstep.forall_queues hadd hremove hopen ih

end

namespace Evolves

variable {c : Allocation}

theorem refl (a : Allocation) : Evolves a a := Relation.ReflTransGen.refl

theorem of_step (h : Step a b) : Evolves a b := Relation.ReflTransGen.single h

theorem trans (hab : Evolves a b) (hbc : Evolves b c) : Evolves a c :=
  Relation.ReflTransGen.trans hab hbc

theorem concurrency (h : Evolves a b) : b.concurrency = a.concurrency := by
  induction h with
  | refl => rfl
  | tail _ hstep ih => exact hstep.concurrency.trans ih

/-- What comes from a consistent allocation is consistent. -/
theorem consistent (h : Evolves a b) (ha : a.Consistent) : b.Consistent := by
  induction h with
  | refl => exact ha
  | tail _ hstep ih => exact hstep.consistent ih

theorem sameRoster (h : Evolves a b) : SameRoster a b := by
  induction h with
  | refl => exact .refl a
  | tail _ hstep ih => exact ih.trans hstep.sameRoster

/-- There is a queue for each agent of the roster. -/
theorem length_queues {settings : PoolSettings} (h : Evolves (.ofSettings settings) b) :
    b.queues.length = (roster settings).length := by
  have hagents := congrArg List.length h.sameRoster.agents
  rw [List.length_map, List.length_map] at hagents
  exact hagents.trans (List.length_map _)

end Evolves

end SupportDesk.Allocation
