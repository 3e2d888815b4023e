/-
# Who waits when an agent is opened

Two events can open an additional agent, an admission and a change of shift, and each of them
opens the first one in reserve if the backlog is then as long as the maximum.  An admission has
put its session into the backlog before, so that somebody waits.  A change of shift takes the
backlog as it is: at an instant without capacity the maximum is zero, an empty backlog is as long
as that, and an agent is opened for nobody.  There is no other such opening.

Nothing is assumed here about the pool or about the clock.
-/

import SupportDesk.Proofs.Pool.Moves
import SupportDesk.Proofs.Pool.Reaction

namespace SupportDesk

namespace Allocation

variable {a : Allocation} {now : Moment} {i : Nat}

/-- The agent of a queue is opened in its place of the roster. -/
theorem agents_modify_setOpen (a : Allocation) (i : Nat) :
    (a.queues.modify i (setOpen true)).map (·.agent) = a.agents.modify i (.setOpen true) := by
  apply List.ext_getElem?
  intro j
  simp only [agents, List.getElem?_map, List.getElem?_modify]
  cases a.queues[j]? with
  | none => rfl
  | some q => by_cases hij : i = j <;> simp [hij, setOpen]

/-- Opening the first of the reserve changes one agent of the roster. -/
theorem openFirst_of_some (h : a.nextToOpen? now = some i) :
    Reaction.openFirst now a.agents = a.agents.modify i (.setOpen true) := by
  have hopen : a.openAdditional? now =
      some { a with queues := a.queues.modify i (setOpen true) } := by
    rw [openAdditional?, h]
    rfl
  rw [← a.agents_modify_setOpen]
  exact (reacts_openAdditional hopen fun _ => False).agents.symm

/-- Where nobody is in reserve, nobody changes. -/
theorem openFirst_of_none (h : a.nextToOpen? now = none) :
    Reaction.openFirst now a.agents = a.agents := by
  have hnone : a.openAdditional? now = none := by rw [openAdditional?, h, Option.map_none]
  exact (reacts_of_openAdditional?_eq_none hnone fun _ => False).agents.symm

end Allocation

namespace Pool

theorem relaxation_ne_openNext (p : Pool) (now : Moment) : p.relaxation now ≠ .openNext := by
  unfold relaxation
  split <;> exact Reaction.noConfusion

theorem sweepReaction_ne_openNext (p : Pool) (now : Moment) :
    p.sweepReaction now ≠ .openNext := by
  unfold sweepReaction
  split
  · exact Reaction.noConfusion
  · exact relaxation_ne_openNext _ now

namespace Situation

/-- The event opens the additional agent at a position of the roster, who was closed. -/
def Opens (i : Nat) (s : Situation) (e : Event) : Prop :=
  ∃ before after, s.pool.allocation.agents[i]? = some before ∧
    (s.step e).pool.allocation.agents[i]? = some after ∧
    before.openToChat? = some false ∧ after.openToChat? = some true

variable {s : Situation} {e : Event} {i : Nat}

/-- An agent is opened by the reaction of the event, and is then the first in reserve. -/
theorem opens_iff : s.Opens i e ↔
    s.reaction e = .openNext ∧ s.pool.allocation.nextToOpen? s.now = some i := by
  have hagents := (s.reacts_step e).agents
  constructor
  · rintro ⟨before, after, hbefore, hafter, hclosed, hopen⟩
    rw [hagents] at hafter
    have hchanged : before ≠ after := by
      rintro rfl
      rw [hclosed] at hopen
      cases hopen
    cases hreaction : s.reaction e with
    | keep =>
        rw [hreaction, Reaction.act, hbefore] at hafter
        exact absurd (Option.some.inj hafter) hchanged
    | closeAll =>
        rw [hreaction, Reaction.act, List.getElem?_map, hbefore] at hafter
        obtain rfl := Option.some.inj hafter
        rw [Agent.openToChat?_setOpen, hclosed] at hopen
        cases hopen
    | openNext =>
        refine ⟨rfl, ?_⟩
        rw [hreaction, Reaction.act] at hafter
        cases hnext : s.pool.allocation.nextToOpen? s.now with
        | none =>
            rw [Allocation.openFirst_of_none hnext, hbefore] at hafter
            exact absurd (Option.some.inj hafter) hchanged
        | some j =>
            rw [Allocation.openFirst_of_some hnext] at hafter
            by_cases hij : j = i
            · rw [hij]
            · rw [List.getElem?_modify_ne _ _ hij, hbefore] at hafter
              exact absurd (Option.some.inj hafter) hchanged
  · rintro ⟨hreaction, hnext⟩
    obtain ⟨⟨q, hq, hreserve⟩, -⟩ := Allocation.getElem?_of_nextToOpen? hnext
    have hbefore : s.pool.allocation.agents[i]? = some q.agent := by
      rw [Allocation.agents, List.getElem?_map, hq]
      rfl
    have hclosed := (Allocation.canOpen_iff.mp hreserve).1
    refine ⟨q.agent, q.agent.setOpen true, hbefore, ?_, hclosed, ?_⟩
    · rw [hagents, hreaction, Reaction.act, Allocation.openFirst_of_some hnext,
        List.getElem?_modify_eq, hbefore]
      rfl
    · rw [Agent.openToChat?_setOpen, hclosed]
      rfl

/-- Agents are opened at the maximum, by an admission and by a change of shift. -/
theorem reaction_eq_openNext_iff : s.reaction e = .openNext ↔
    (∃ id, e = .create id ∧ s.grants e = true ∧
      s.pool.maximumQueueSize s.now ≤ s.pool.queueSize + 1) ∨
    e = .shiftChanged ∧ s.pool.maximumQueueSize s.now ≤ s.pool.queueSize := by
  cases e with
  | create id => simp [reaction]
  | destroy id =>
      by_cases hwaits : s.pool.backlog.contains id = true
      · simp [reaction, hwaits, relaxation_ne_openNext]
      · simp [reaction, hwaits]
  | sweep => simp [reaction, sweepReaction_ne_openNext]
  | shiftChanged => simp [reaction, relaxation_ne_openNext]
  | _ => simp [reaction]

/-- The event opens the next agent of the pool that is prepared for it, and drains. -/
theorem step_of_openNext (h : s.reaction e = .openNext) :
    (s.step e).pool = (((s.prepared e).openAdditional s.now).drain s.now).1 := by
  rcases reaction_eq_openNext_iff.mp h with ⟨id, rfl, hgranted, hmaximum⟩ | ⟨rfl, hmaximum⟩
  · obtain ⟨q, hq⟩ := Option.isSome_iff_exists.mp hgranted
    obtain ⟨-, rfl⟩ := create?_eq_some_iff.mp hq
    rw [step, hq, prepared, if_pos hgranted, takeIn, if_pos hmaximum]
    rfl
  · rw [step, prepared, openAdditional_withLimit, shiftChanged_eq, adjust, if_pos hmaximum]

/-- Agents are opened when somebody waits, but for one case.  An event that opens an agent does so
in the pool that is prepared for it, in which an admission has put its session at the end of the
backlog, and drains then.  The backlog of this pool is empty only at a change of shift, with no
capacity at the instant and nobody waiting.  In this case, whatever the roster, the agent that is
first in reserve is opened. -/
theorem opened_when_waited_for (s : Situation) (e : Event) :
    (∀ i, s.Opens i e →
      (s.step e).pool = (((s.prepared e).openAdditional s.now).drain s.now).1 ∧
        (0 < (s.prepared e).queueSize ∨
          e = .shiftChanged ∧ s.pool.capacity s.now = 0 ∧ s.pool.queueSize = 0)) ∧
      (s.pool.capacity s.now = 0 → s.pool.queueSize = 0 →
        ∀ i, s.Opens i .shiftChanged ↔ s.pool.allocation.nextToOpen? s.now = some i) := by
  constructor
  · intro i hopens
    obtain ⟨hreaction, -⟩ := opens_iff.mp hopens
    refine ⟨step_of_openNext hreaction, ?_⟩
    rcases reaction_eq_openNext_iff.mp hreaction with ⟨id, rfl, hgranted, -⟩ | ⟨rfl, hmaximum⟩
    · left
      rw [prepared, if_pos hgranted, queueSize_withNew]
      exact Nat.succ_pos _
    · rcases Nat.eq_zero_or_pos s.pool.queueSize with hempty | hwaits
      · refine .inr ⟨rfl, ?_, hempty⟩
        rw [maximumQueueSize, hempty] at hmaximum
        omega
      · exact .inl hwaits
  · intro hcapacity hempty i
    have hreaction : s.reaction .shiftChanged = .openNext := by
      apply reaction_eq_openNext_iff.mpr
      refine .inr ⟨rfl, ?_⟩
      rw [maximumQueueSize, hcapacity]
      exact Nat.zero_le _
    rw [opens_iff]
    exact and_iff_right hreaction

/-- In the morning an admission opens the first additional agent of the small desk.  In the
afternoon the junior goes home and the same agent is opened, with nobody there. -/
theorem opened_when_waited_for_smallDesk :
    let morning := start smallDesk (sampleHour 10)
    let afternoon := morning.step (.setClock (sampleHour 15))
    (morning.Opens 1 (.create (.ofNat 0)) ∧
        0 < (morning.prepared (.create (.ofNat 0))).queueSize) ∧
      afternoon.pool.capacity afternoon.now = 0 ∧ afternoon.pool.queueSize = 0 ∧
        afternoon.Opens 1 .shiftChanged := by
  intro morning afternoon
  have hopens : morning.Opens 1 (.create (.ofNat 0)) := opens_iff.mpr (by decide +kernel)
  obtain ⟨-, hwaits | ⟨hshift, -⟩⟩ :=
    (opened_when_waited_for morning (.create (.ofNat 0))).1 1 hopens
  · have hcapacity : afternoon.pool.capacity afternoon.now = 0 := by decide +kernel
    refine ⟨⟨hopens, hwaits⟩, hcapacity, rfl, ?_⟩
    have hnext : afternoon.pool.allocation.nextToOpen? afternoon.now = some 1 := by
      decide +kernel
    exact ((opened_when_waited_for afternoon .shiftChanged).2 hcapacity rfl 1).mpr hnext
  · cases hshift

/-- When its junior goes home, the small desk opens an agent although nobody waits. -/
theorem not_opened_only_when_waited_for :
    ¬ ∀ (settings : PoolSettings) (start : Moment) (events : List Event) (e : Event) (i : Nat),
      let s := (Situation.start settings start).run events
      s.Opens i e → 0 < (s.prepared e).queueSize := by
  intro h
  have hwaits := h smallDesk (sampleHour 10) [.setClock (sampleHour 15)] .shiftChanged 1
    (opens_iff.mpr (by decide +kernel))
  exact absurd hwaits (by decide +kernel)

end Situation

end Pool

end SupportDesk
