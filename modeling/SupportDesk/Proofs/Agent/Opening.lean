/-
# Opening and closing agents

An operation may open the next additional agent or close them all.  How it reacts is told by
what it does to the agents in roster order, and by what that means for the flag of each of them.
Whatever it does to them, a session that an agent has stays in its queue and is assigned to it,
unless the operation ends the session.
-/

import SupportDesk.Proofs.Agent.Reserve

namespace SupportDesk

/-- What an operation does to the additional agents. -/
inductive Reaction
  | keep
  | openNext
  | closeAll
deriving DecidableEq, Repr

namespace Reaction

/-- Opens the first agent that is an additional one, on shift and closed. -/
def openFirst (now : Moment) : List Agent → List Agent
  | [] => []
  | a :: rest =>
    if Allocation.canOpen a now then a.setOpen true :: rest else a :: openFirst now rest

/-- The agents after a reaction. -/
def act (now : Moment) : Reaction → List Agent → List Agent
  | keep, agents => agents
  | openNext, agents => openFirst now agents
  | closeAll, agents => agents.map (.setOpen false)

/-- Nobody is opened where nobody can be. -/
theorem openFirst_eq_self {now : Moment} {agents : List Agent}
    (h : ∀ a ∈ agents, Allocation.canOpen a now = false) : openFirst now agents = agents := by
  induction agents with
  | nil => rfl
  | cons a rest ih =>
      rw [openFirst, h a List.mem_cons_self, ih fun b hb => h b (List.mem_cons_of_mem a hb)]
      rfl

/-- Whoever is opened is the first that can be. -/
theorem openFirst_append {now : Moment} {front : List Agent} {a : Agent} (rest : List Agent)
    (hfront : ∀ b ∈ front, Allocation.canOpen b now = false)
    (ha : Allocation.canOpen a now = true) :
    openFirst now (front ++ a :: rest) = front ++ a.setOpen true :: rest := by
  induction front with
  | nil => simp [openFirst, ha]
  | cons b front ih =>
      rw [List.cons_append, openFirst, hfront b List.mem_cons_self,
        ih fun c hc => hfront c (List.mem_cons_of_mem b hc)]
      rfl

end Reaction

/-! ## The flags after a reaction -/

theorem Agent.openToChat?_setOpen (isOpen : Bool) (a : Agent) :
    (a.setOpen isOpen).openToChat? = a.openToChat?.map fun _ => isOpen := by
  cases a <;> rfl

theorem Agent.id_setOpen (isOpen : Bool) (a : Agent) : (a.setOpen isOpen).id = a.id := by
  cases a <;> rfl

/-- An additional agent that is closed, and on shift. -/
def Agent.InReserve (now : Moment) (a : Agent) : Prop :=
  a.openToChat? = some false ∧ a.working now = true

instance (now : Moment) (a : Agent) : Decidable (a.InReserve now) :=
  inferInstanceAs (Decidable (_ ∧ _))

theorem Allocation.canOpen_iff {a : Agent} {now : Moment} :
    canOpen a now = true ↔ a.InReserve now := by
  cases a with
  | regular a => simp [canOpen, Agent.InReserve, Agent.openToChat?]
  | additional a => simp [canOpen, Agent.InReserve, Agent.openToChat?, and_comm]

namespace Reaction

/-- The agent at a place of the roster is in reserve, and none before it is. -/
def IsNext (now : Moment) (agents : List Agent) (i : Nat) : Prop :=
  (∃ a, agents[i]? = some a ∧ a.InReserve now) ∧ ∀ a ∈ agents.take i, ¬ a.InReserve now

/-- The flag of the agent at a place of the roster after a reaction: the next agent in turn is
opened, or all additional agents are closed, and whoever is not concerned keeps the flag. -/
def SetsFlag (now : Moment) (agents : List Agent) (i : Nat) (before after : Option Bool) :
    Reaction → Prop
  | keep => after = before
  | openNext =>
    (IsNext now agents i → after = some true) ∧ (¬ IsNext now agents i → after = before)
  | closeAll => after = before.map fun _ => false

variable {now : Moment} {agents rest : List Agent} {a b : Agent} {i : Nat}

theorem isNext_zero : IsNext now (a :: rest) 0 ↔ a.InReserve now := by
  simp [IsNext]

theorem isNext_succ :
    IsNext now (a :: rest) (i + 1) ↔ ¬ a.InReserve now ∧ IsNext now rest i := by
  simp only [IsNext, List.getElem?_cons_succ, List.take_succ_cons, List.forall_mem_cons]
  exact and_left_comm

/-- Opening the first agent in reserve sets the flags as it should. -/
theorem setsFlag_openFirst (ha : agents[i]? = some a) :
    ∃ b, (openFirst now agents)[i]? = some b ∧ b.id = a.id ∧
      openNext.SetsFlag now agents i a.openToChat? b.openToChat? := by
  induction agents generalizing i with
  | nil => cases ha
  | cons first rest ih =>
      rw [openFirst]
      by_cases hfirst : first.InReserve now
      · rw [if_pos (Allocation.canOpen_iff.mpr hfirst)]
        cases i with
        | zero =>
            obtain rfl := Option.some.inj ha
            refine ⟨first.setOpen true, rfl, first.id_setOpen true, fun _ => ?_, fun hnot => ?_⟩
            · rw [first.openToChat?_setOpen, hfirst.1]
              rfl
            · exact absurd (isNext_zero.mpr hfirst) hnot
        | succ i =>
            refine ⟨a, ha, rfl, fun hnext => ?_, fun _ => rfl⟩
            exact absurd hfirst (isNext_succ.mp hnext).1
      · rw [if_neg (mt Allocation.canOpen_iff.mp hfirst)]
        cases i with
        | zero =>
            obtain rfl := Option.some.inj ha
            exact ⟨first, rfl, rfl, fun hnext => absurd (isNext_zero.mp hnext) hfirst, fun _ => rfl⟩
        | succ i =>
            obtain ⟨b, hb, hid, hopened, hkept⟩ := ih ha
            refine ⟨b, hb, hid, fun hnext => hopened (isNext_succ.mp hnext).2, fun hnot => hkept ?_⟩
            exact fun hnext => hnot (isNext_succ.mpr ⟨hfirst, hnext⟩)

/-- Every reaction leaves each agent in its place, with the flag as it should be. -/
theorem setsFlag_act (reaction : Reaction) (ha : agents[i]? = some a) :
    ∃ b, (reaction.act now agents)[i]? = some b ∧ b.id = a.id ∧
      reaction.SetsFlag now agents i a.openToChat? b.openToChat? := by
  cases reaction with
  | keep => exact ⟨a, ha, rfl, rfl⟩
  | openNext => exact setsFlag_openFirst ha
  | closeAll =>
      refine ⟨a.setOpen false, ?_, a.id_setOpen false, a.openToChat?_setOpen false⟩
      rw [act, List.getElem?_map, ha]
      rfl

theorem length_act (reaction : Reaction) (agents : List Agent) :
    (reaction.act now agents).length = agents.length := by
  cases reaction with
  | keep => rfl
  | closeAll => exact List.length_map _
  | openNext =>
      induction agents with
      | nil => rfl
      | cons a rest ih =>
          rw [act, openFirst]
          split
          · rfl
          · exact congrArg (· + 1) ih

end Reaction

/-- A session that a queue has is still there when another is taken in. -/
theorem AgentQueue.contains_add {q : AgentQueue} {s : Session} {id : SessionId}
    (h : q.contains id = true) : (q.add s).contains id = true := by
  unfold add
  split
  · exact h
  · simp only [contains, SessionTable.contains_insert, Bool.or_eq_true]
    exact .inr h

namespace Allocation

/-- The agents in roster order. -/
def agents (a : Allocation) : List Agent := a.queues.map (·.agent)

/-- One allocation comes from another by a reaction, by sessions that are given to agents, and
by sessions that are ended. -/
structure Reacts (now : Moment) (reaction : Reaction) (ended : SessionId → Prop)
    (a b : Allocation) : Prop where
  agents : b.agents = reaction.act now a.agents
  holds : ∀ i id, a.Holds i id → b.Holds i id ∨ ended id
  assigned : ∀ i id, a.assignments.find? id = some i →
    b.assignments.find? id = some i ∨ ended id

namespace Reacts

variable {now : Moment} {reaction : Reaction} {ended other : SessionId → Prop}
  {a b c : Allocation}

theorem refl (a : Allocation) : Reacts now .keep ended a a :=
  ⟨rfl, fun _ _ h => .inl h, fun _ _ h => .inl h⟩

theorem mono (h : Reacts now reaction ended a b) (himp : ∀ id, ended id → other id) :
    Reacts now reaction other a b :=
  ⟨h.agents, fun i id hid => (h.holds i id hid).imp_right (himp id),
    fun i id hid => (h.assigned i id hid).imp_right (himp id)⟩

/-- After a reaction more sessions may come and go. -/
theorem trans (hab : Reacts now reaction ended a b) (hbc : Reacts now .keep ended b c) :
    Reacts now reaction ended a c := by
  refine ⟨hbc.agents.trans hab.agents, ?_, ?_⟩
  · intro i id hid
    rcases hab.holds i id hid with hstays | hgone
    · exact hbc.holds i id hstays
    · exact .inr hgone
  · intro i id hid
    rcases hab.assigned i id hid with hstays | hgone
    · exact hbc.assigned i id hstays
    · exact .inr hgone

end Reacts

theorem reacts_closeAdditional (a : Allocation) (now : Moment) (ended : SessionId → Prop) :
    Reacts now .closeAll ended a a.closeAdditional := by
  refine ⟨?_, ?_, fun _ _ hid => .inl hid⟩
  · simp [agents, Reaction.act, closeAdditional, setOpen, Function.comp_def]
  · rintro i id ⟨q, hq, hid⟩
    exact .inl ⟨setOpen false q, by simp [closeAdditional, hq], hid⟩

theorem reacts_openAdditional {a b : Allocation} {now : Moment}
    (hb : a.openAdditional? now = some b) (ended : SessionId → Prop) :
    Reacts now .openNext ended a b := by
  obtain ⟨i, hi, rfl⟩ := Option.map_eq_some_iff.mp hb
  refine ⟨?_, ?_, fun _ _ hid => .inl hid⟩
  · -- The roster is split at the agent that is opened.
    obtain ⟨hlt, hcan, hfirst⟩ := List.findIdx?_eq_some_iff_getElem.mp hi
    have hsplit : a.agents = (a.queues.take i).map (·.agent) ++
        a.queues[i].agent :: (a.queues.drop (i + 1)).map (·.agent) := by
      rw [← List.map_cons, ← List.map_append, List.getElem_cons_drop, List.take_append_drop]
      rfl
    rw [Reaction.act, hsplit, Reaction.openFirst_append _ _ hcan]
    · simp [agents, List.modify_eq_take_cons_drop hlt, setOpen]
    · intro b hb
      obtain ⟨q, hq, rfl⟩ := List.mem_map.mp hb
      obtain ⟨j, hj, rfl⟩ := List.mem_take_iff_getElem.mp hq
      simpa using hfirst j (by omega)
  · rintro j id ⟨q, hq, hid⟩
    refine .inl (holds_modify.mpr ⟨q, hq, ?_⟩)
    split
    · exact hid
    · exact hid

/-- Nobody is opened if nobody is in reserve. -/
theorem reacts_of_openAdditional?_eq_none {a : Allocation} {now : Moment}
    (hnone : a.openAdditional? now = none) (ended : SessionId → Prop) :
    Reacts now .openNext ended a a := by
  refine ⟨?_, fun _ _ hid => .inl hid, fun _ _ hid => .inl hid⟩
  have hnobody := nextToOpen?_eq_none_iff.mp (Option.map_eq_none_iff.mp hnone)
  refine (Reaction.openFirst_eq_self ?_).symm
  intro b hb
  obtain ⟨q, hq, rfl⟩ := List.mem_map.mp hb
  exact hnobody q hq

/-- A session that is assigned to nobody may be given to any agent. -/
theorem reacts_place {a : Allocation} {s : Session} (hnew : a.assignments.contains s.id = false)
    (i : Nat) (now : Moment) (ended : SessionId → Prop) :
    Reacts now .keep ended a (a.place s i) := by
  refine ⟨map_modify_of_eq (fun q => q.agent_add s) i, ?_, ?_⟩
  · rintro j id ⟨q, hq, hid⟩
    refine .inl (holds_modify.mpr ⟨q, hq, ?_⟩)
    split
    · exact AgentQueue.contains_add hid
    · exact hid
  · intro j id hid
    have hne : id ≠ s.id := by
      rintro rfl
      rw [SessionTable.find?_eq_none_iff.mpr hnew] at hid
      cases hid
    exact .inl (by simpa [place, SessionTable.find?_insert, hne] using hid)

/-- Whoever is taken from an agent is ended. -/
theorem reacts_vacate (a : Allocation) (id : SessionId) (i : Nat) (now : Moment) :
    Reacts now .keep (· = id) a (a.vacate id i) := by
  refine ⟨map_modify_of_eq (fun q => q.agent_remove id) i, ?_, ?_⟩
  · intro j k hk
    by_cases hid : k = id
    · exact .inr hid
    · exact .inl (holds_vacate.mpr ⟨hk, fun hboth => hid hboth.2⟩)
  · intro j k hk
    by_cases hid : k = id
    · exact .inr hid
    · exact .inl (by simpa [vacate, SessionTable.find?_erase, hid] using hk)

end Allocation

end SupportDesk
