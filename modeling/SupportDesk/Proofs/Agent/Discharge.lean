/-
# Sessions that leave their agents

A session is discharged from whatever queue it is in, or from none.  Discharging touches one
queue and one assignment, and it touches neither the agents nor what they are promised.  So the
order in which sessions are discharged does not matter, nor whether additional agents are closed
before or after; for this nothing is assumed about the allocation.  A session that has only just
been placed where a slot was free leaves no trace.
-/

import SupportDesk.Proofs.Agent.Reserve

namespace SupportDesk

namespace AgentQueue

theorem remove_comm (q : AgentQueue) (x y : SessionId) :
    (q.remove x).remove y = (q.remove y).remove x := by
  simp only [remove, SessionTable.erase_comm]

/-- A session that is taken in and let go leaves the queue as it was. -/
theorem remove_add {q : AgentQueue} {s : Session} (hnew : q.contains s.id = false)
    (hroom : q.hasOpenSpots = true) : (q.add s).remove s.id = q := by
  simp only [add_eq_of_room hnew hroom, remove, SessionTable.erase_insert hnew]

end AgentQueue

namespace Allocation

/-! ## Changes of queues -/

section

variable {f g : AgentQueue → AgentQueue} (h : ∀ q, f (g q) = g (f q))

include h

/-- Two changes that a queue takes in any order can be made at any two positions in any order. -/
theorem modify_comm (qs : List AgentQueue) (i j : Nat) :
    (qs.modify i f).modify j g = (qs.modify j g).modify i f := by
  by_cases hij : i = j
  · subst hij
    rw [List.modify_modify_eq, List.modify_modify_eq]
    congr 1
    funext q
    exact (h q).symm
  · exact List.modify_modify_ne f g qs hij

/-- So can a change at one position and a change of all queues. -/
theorem map_modify_comm (qs : List AgentQueue) (i : Nat) :
    (qs.modify i f).map g = (qs.map g).modify i f := by
  apply List.ext_getElem?
  intro j
  rw [List.getElem?_map, List.getElem?_modify, List.getElem?_modify, List.getElem?_map]
  cases qs[j]? with
  | none => rfl
  | some q => by_cases hij : i = j <;> simp [hij, h]

end

variable {a : Allocation} {id k : SessionId} {i : Nat}

theorem closeAdditional_closeAdditional (a : Allocation) :
    a.closeAdditional.closeAdditional = a.closeAdditional := by
  simp [closeAdditional, setOpen]

theorem vacate_comm (a : Allocation) (x y : SessionId) (i j : Nat) :
    (a.vacate x i).vacate y j = (a.vacate y j).vacate x i := by
  have hqueues := modify_comm (f := (·.remove x)) (g := (·.remove y))
    (fun q => q.remove_comm y x) a.queues i j
  simp only [vacate, hqueues, a.assignments.erase_comm x y]

theorem closeAdditional_vacate (a : Allocation) (id : SessionId) (i : Nat) :
    (a.vacate id i).closeAdditional = a.closeAdditional.vacate id i := by
  have hqueues := map_modify_comm (f := (·.remove id)) (g := setOpen false) (fun _ => rfl)
    a.queues i
  simp only [vacate, closeAdditional, hqueues]

/-- A session that is placed and vacated leaves the allocation as it was. -/
theorem vacate_place {s : Session} {best : AgentQueue}
    (hunassigned : a.assignments.contains s.id = false) (hi : a.queues[i]? = some best)
    (hnew : best.contains s.id = false) (hroom : best.hasOpenSpots = true) :
    (a.place s i).vacate s.id i = a := by
  have hqueues : (a.queues.modify i (·.add s)).modify i (·.remove s.id) = a.queues := by
    apply List.ext_getElem?
    intro j
    rw [List.modify_modify_eq, List.getElem?_modify]
    by_cases hij : i = j
    · subst hij
      rw [hi]
      simp [AgentQueue.remove_add hnew hroom]
    · simp [hij]
  simp only [vacate, place, hqueues, SessionTable.erase_insert hunassigned]

/-! ## Discharging -/

/-- The allocation without a session, whether or not it was assigned. -/
def discharge (a : Allocation) (id : SessionId) : Allocation := (a.release? id).getD a

theorem discharge_of_assigned (hi : a.assignments.find? id = some i) :
    a.discharge id = a.vacate id i := by
  simp only [discharge, release?, hi, Option.map_some, Option.getD_some, vacate]

theorem discharge_of_unassigned (hi : a.assignments.find? id = none) : a.discharge id = a := by
  simp only [discharge, release?, hi, Option.map_none, Option.getD_none]

/-- A session is found in its queue whether or not another has left. -/
theorem find?_vacate (hk : k ≠ id) :
    (a.vacate id i).assignments.find? k = a.assignments.find? k := by
  rw [vacate, SessionTable.find?_erase, if_neg hk]

theorem discharge_comm (a : Allocation) (x y : SessionId) :
    (a.discharge x).discharge y = (a.discharge y).discharge x := by
  by_cases hxy : x = y
  · rw [hxy]
  cases hx : a.assignments.find? x with
  | none =>
      cases hy : a.assignments.find? y with
      | none =>
          rw [discharge_of_unassigned hx, discharge_of_unassigned hy, discharge_of_unassigned hx]
      | some j =>
          rw [discharge_of_unassigned hx, discharge_of_assigned hy,
            discharge_of_unassigned ((find?_vacate hxy).trans hx)]
  | some i =>
      cases hy : a.assignments.find? y with
      | none =>
          rw [discharge_of_assigned hx, discharge_of_unassigned hy, discharge_of_assigned hx,
            discharge_of_unassigned ((find?_vacate (Ne.symm hxy)).trans hy)]
      | some j =>
          rw [discharge_of_assigned hx, discharge_of_assigned hy,
            discharge_of_assigned ((find?_vacate hxy).trans hx),
            discharge_of_assigned ((find?_vacate (Ne.symm hxy)).trans hy), vacate_comm]

theorem sameRoster_discharge (a : Allocation) (id : SessionId) : SameRoster a (a.discharge id) := by
  cases hi : a.assignments.find? id with
  | none =>
      rw [discharge_of_unassigned hi]
      exact .refl a
  | some i =>
      rw [discharge_of_assigned hi]
      exact ⟨rfl, map_modify_of_eq (fun q => by simp) i⟩

theorem closeAdditional_discharge (a : Allocation) (id : SessionId) :
    a.closeAdditional.discharge id = (a.discharge id).closeAdditional := by
  have hsame : a.closeAdditional.assignments.find? id = a.assignments.find? id := rfl
  cases hi : a.assignments.find? id with
  | none => rw [discharge_of_unassigned hi, discharge_of_unassigned (hsame.trans hi)]
  | some i =>
      rw [discharge_of_assigned hi, discharge_of_assigned (hsame.trans hi), closeAdditional_vacate]

end Allocation

end SupportDesk
