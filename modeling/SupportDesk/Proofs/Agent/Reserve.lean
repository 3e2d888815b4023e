/-
# Agents in reserve

An additional agent that is on shift and closed to chat is in reserve.  While sessions come
and go the agents stay as they are, and the queue of an agent in reserve can only become
shorter.  Opening and closing agents changes neither the roster behind them nor, with it, the
capacity.
-/

import SupportDesk.Proofs.Agent.Allocation

namespace SupportDesk

@[simp] theorem Agent.setOpen_setOpen (first second : Bool) (a : Agent) :
    (a.setOpen first).setOpen second = a.setOpen second := by cases a <;> rfl

namespace Allocation

/-- An agent in reserve is an additional one. -/
theorem isRegular_of_canOpen {agent : Agent} {now : Moment} (h : canOpen agent now = true) :
    agent.isRegular = false := by
  cases agent with
  | regular a => cases h
  | additional a => rfl

/-- An agent in reserve is on shift. -/
theorem working_of_canOpen {agent : Agent} {now : Moment} (h : canOpen agent now = true) :
    agent.working now = true := by
  cases agent with
  | regular a => cases h
  | additional a => exact (Bool.and_eq_true_iff.mp h).1

/-- An agent that may be given sessions is not in reserve. -/
theorem canOpen_of_available {agent : Agent} {now : Moment} (h : agent.available now = true) :
    canOpen agent now = false := by
  cases agent with
  | regular a => rfl
  | additional a => simp [canOpen, (Bool.and_eq_true_iff.mp h).2]

theorem canOpen_setOpen_true (agent : Agent) (now : Moment) :
    canOpen (agent.setOpen true) now = false := by
  cases agent <;> simp [canOpen, Agent.setOpen]

/-- Once an agent of the reserve is opened, it may be given sessions. -/
theorem available_setOpen_true {agent : Agent} {now : Moment} (h : canOpen agent now = true) :
    (agent.setOpen true).available now = true := by
  cases agent with
  | regular a => cases h
  | additional a =>
      have hworking : (Agent.setOpen true (.additional a)).working now = true := by
        rw [Agent.working_setOpen]
        exact working_of_canOpen h
      exact Bool.and_eq_true_iff.mpr ⟨hworking, rfl⟩

/-- What a change of queues does not touch is the same in all queues once one of them has been
changed. -/
theorem map_modify_of_eq {α : Type} {g : AgentQueue → α} {f : AgentQueue → AgentQueue}
    {qs : List AgentQueue} (h : ∀ q, g (f q) = g q) (i : Nat) :
    (qs.modify i f).map g = qs.map g := by
  apply List.ext_getElem?
  intro j
  rw [List.getElem?_map, List.getElem?_map, List.getElem?_modify]
  cases qs[j]? with
  | none => rfl
  | some q => by_cases hij : i = j <;> simp [hij, h]

/-! ## The roster behind an allocation -/

/-- Two allocations differ in what is assigned and in which agents are open at most. -/
structure SameRoster (a b : Allocation) : Prop where
  concurrency : b.concurrency = a.concurrency
  agents : b.queues.map (·.agent.setOpen false) = a.queues.map (·.agent.setOpen false)

namespace SameRoster

variable {a b c : Allocation}

theorem refl (a : Allocation) : SameRoster a a := ⟨rfl, rfl⟩

theorem trans (hab : SameRoster a b) (hbc : SameRoster b c) : SameRoster a c :=
  ⟨hbc.concurrency.trans hab.concurrency, hbc.agents.trans hab.agents⟩

/-- The capacity depends on the roster alone. -/
theorem capacity (h : SameRoster a b) (now : Moment) : b.capacity now = a.capacity now := by
  -- The share of an agent is that of the agent when closed.
  have hclosed (c : Allocation) : c.capacity now =
      (((c.queues.map (·.agent.setOpen false)).filter
        fun agent => agent.isRegular && agent.working now).map
          fun agent => c.concurrency.toNat * agent.level.percent).sum / 100 := by
    have hmap : c.queues.map (·.agent.setOpen false) =
        (c.queues.map (·.agent)).map (Agent.setOpen false) := by simp
    rw [hmap, List.filter_map, List.map_map, c.capacity_eq_sum]
    simp [Function.comp_def]
  rw [hclosed b, hclosed a, h.agents, h.concurrency]

/-- Whoever is in reserve is an additional agent of the roster, and on shift. -/
theorem exists_additional {settings : PoolSettings} (h : SameRoster (.ofSettings settings) b)
    {now : Moment} {i : Nat} {q : AgentQueue} (hq : b.queues[i]? = some q)
    (hshut : canOpen q.agent now = true) :
    settings.regular.length ≤ i ∧
      ∃ a, settings.additional[i - settings.regular.length]? = some a ∧
        (Agent.additional a).working now = true := by
  have hagent := congrArg (·[i]?) h.agents
  simp only [ofSettings, List.map_map, List.getElem?_map, hq, Option.map_some] at hagent
  obtain ⟨agent, hlisted, hclosed⟩ := Option.map_eq_some_iff.mp hagent.symm
  have hregular : agent.isRegular = false := by
    rw [← isRegular_of_canOpen hshut, ← Agent.isRegular_setOpen false q.agent, ← hclosed]
    simp [AgentQueue.ofAgent]
  have hworking : agent.working now = true := by
    rw [← working_of_canOpen hshut, ← Agent.working_setOpen false q.agent, ← hclosed]
    simp [AgentQueue.ofAgent]
  rw [roster, List.getElem?_append] at hlisted
  split at hlisted
  next =>
    rw [List.getElem?_map] at hlisted
    obtain ⟨a, -, rfl⟩ := Option.map_eq_some_iff.mp hlisted
    cases hregular
  next hbehind =>
    rw [List.length_map] at hbehind hlisted
    rw [List.getElem?_map] at hlisted
    obtain ⟨a, ha, rfl⟩ := Option.map_eq_some_iff.mp hlisted
    exact ⟨Nat.le_of_not_lt hbehind, a, ha, hworking⟩

end SameRoster

/-- With a concurrency of three an agent of the reserve has a slot, which is free at first. -/
theorem hasOpenSpots_ofSettings {settings : PoolSettings} (hslots : 3 ≤ settings.concurrency)
    {now : Moment} {q : AgentQueue} (hq : q ∈ (ofSettings settings).queues)
    (hshut : canOpen q.agent now = true) : q.hasOpenSpots = true := by
  obtain ⟨agent, -, rfl⟩ := List.mem_map.mp hq
  cases agent with
  | regular a => cases hshut
  | additional a =>
      have hconcurrency : 3 ≤ settings.concurrency.toNat := UInt32.le_iff_toNat_le.mp hslots
      have hslot : 0 < settings.concurrency.toNat * 40 / 100 := by omega
      exact decide_eq_true hslot

theorem sameRoster_closeAdditional (a : Allocation) : SameRoster a a.closeAdditional :=
  ⟨rfl, by simp [closeAdditional, setOpen, Function.comp_def]⟩

theorem sameRoster_openAdditional {a b : Allocation} {now : Moment}
    (h : a.openAdditional? now = some b) : SameRoster a b := by
  obtain ⟨i, -, rfl⟩ := Option.map_eq_some_iff.mp h
  exact ⟨rfl, map_modify_of_eq (fun q => by simp [setOpen]) i⟩

/-! ## Coming and going -/

/-- One allocation comes from another by sessions that come and go: the agents are the same,
and no agent in reserve has been given a session. -/
structure Serves (now : Moment) (a b : Allocation) : Prop where
  concurrency : b.concurrency = a.concurrency
  agents : b.queues.map (·.agent) = a.queues.map (·.agent)
  queue : ∀ (i : Nat) (r : AgentQueue), b.queues[i]? = some r → ∃ q : AgentQueue, a.queues[i]? = some q ∧ r.agent = q.agent ∧
    r.maxSlots = q.maxSlots ∧ (canOpen q.agent now = true → r.size ≤ q.size)

namespace Serves

variable {now : Moment} {a b c : Allocation}

theorem refl (a : Allocation) : Serves now a a :=
  ⟨rfl, rfl, fun _ r hr => ⟨r, hr, rfl, rfl, fun _ => Nat.le_refl _⟩⟩

theorem trans (hab : Serves now a b) (hbc : Serves now b c) : Serves now a c := by
  refine ⟨hbc.concurrency.trans hab.concurrency, hbc.agents.trans hab.agents, ?_⟩
  intro i r hr
  obtain ⟨m, hm, hmagent, hmslots, hmsize⟩ := hbc.queue i r hr
  obtain ⟨q, hq, hqagent, hqslots, hqsize⟩ := hab.queue i m hm
  refine ⟨q, hq, hmagent.trans hqagent, hmslots.trans hqslots, ?_⟩
  intro hshut
  exact (hmsize (hqagent ▸ hshut)).trans (hqsize hshut)

theorem sameRoster (h : Serves now a b) : SameRoster a b := by
  refine ⟨h.concurrency, ?_⟩
  have hagents := congrArg (List.map (Agent.setOpen false)) h.agents
  rwa [List.map_map, List.map_map] at hagents

/-- Every queue is still there, with its agent. -/
theorem exists_queue (h : Serves now a b) {i : Nat} {q : AgentQueue}
    (hq : a.queues[i]? = some q) : ∃ r, b.queues[i]? = some r ∧ r.agent = q.agent := by
  have hagents := congrArg (·[i]?) h.agents
  simp only [List.getElem?_map, hq, Option.map_some] at hagents
  exact Option.map_eq_some_iff.mp hagents

/-- A free slot of an agent in reserve stays free. -/
theorem room (h : Serves now a b) {i : Nat} {r : AgentQueue} (hr : b.queues[i]? = some r)
    (hshut : canOpen r.agent now = true) :
    ∃ q, a.queues[i]? = some q ∧ r.agent = q.agent ∧
      (q.hasOpenSpots = true → r.hasOpenSpots = true) := by
  obtain ⟨q, hq, hagent, hslots, hsize⟩ := h.queue i r hr
  refine ⟨q, hq, hagent, ?_⟩
  have hle := hsize (hagent ▸ hshut)
  simp only [AgentQueue.hasOpenSpots, decide_eq_true_eq, hslots]
  omega

/-- A change of one queue that keeps the agent, and gives nothing to one in reserve. -/
theorem modify {i : Nat} {f : AgentQueue → AgentQueue} (t : SessionTable Nat)
    (hagent : ∀ q, (f q).agent = q.agent) (hslots : ∀ q, (f q).maxSlots = q.maxSlots)
    (hsize : ∀ q, a.queues[i]? = some q → canOpen q.agent now = true → (f q).size ≤ q.size) :
    Serves now a ⟨a.concurrency, a.queues.modify i f, t⟩ := by
  refine ⟨rfl, map_modify_of_eq hagent i, ?_⟩
  intro j r hr
  rw [List.getElem?_modify] at hr
  obtain ⟨q, hq, rfl⟩ := Option.map_eq_some_iff.mp hr
  refine ⟨q, hq, ?_⟩
  split
  next hij =>
    subst hij
    exact ⟨hagent q, hslots q, hsize q hq⟩
  next => exact ⟨rfl, rfl, fun _ => Nat.le_refl _⟩

/-- A session goes to an agent that is not in reserve. -/
theorem place {i : Nat} {best : AgentQueue} (s : Session)
    (hchoose : choose? now a.queues = some (i, best)) : Serves now a (a.place s i) := by
  obtain ⟨hi, htake⟩ := getElem?_of_choose? hchoose
  refine modify _ (fun q => q.agent_add s) (fun q => q.maxSlots_add s) ?_
  intro q hq hshut
  obtain rfl : q = best := Option.some.inj (hq.symm.trans hi)
  rw [canOpen_of_available (Bool.and_eq_true_iff.mp htake).1] at hshut
  cases hshut

/-- A session may leave any agent. -/
theorem vacate (a : Allocation) (id : SessionId) (i : Nat) : Serves now a (a.vacate id i) :=
  modify _ (fun q => q.agent_remove id) (fun q => q.maxSlots_remove id)
    fun q _ _ => SessionTable.size_erase_le q.sessions id

end Serves

/-! ## Opening the reserve -/

/-- Nobody is in reserve exactly when there is no one to open. -/
theorem nextToOpen?_eq_none_iff {a : Allocation} {now : Moment} :
    a.nextToOpen? now = none ↔ ∀ q ∈ a.queues, canOpen q.agent now = false := by
  simp [nextToOpen?]

/-- The agent that is opened next is the first of the reserve. -/
theorem getElem?_of_nextToOpen? {a : Allocation} {now : Moment} {i : Nat}
    (h : a.nextToOpen? now = some i) :
    (∃ q, a.queues[i]? = some q ∧ canOpen q.agent now = true) ∧
      ∀ j q, a.queues[j]? = some q → canOpen q.agent now = true → i ≤ j := by
  obtain ⟨hlt, hi, hfirst⟩ := List.findIdx?_eq_some_iff_getElem.mp h
  refine ⟨⟨_, List.getElem?_eq_getElem hlt, hi⟩, ?_⟩
  intro j q hq hshut
  by_contra hji
  obtain ⟨hj, rfl⟩ := List.getElem?_eq_some_iff.mp hq
  exact hfirst j (Nat.lt_of_not_le hji) hshut

/-- The agent at a position is opened although its slots are all taken. -/
def OpensFull (now : Moment) (a b : Allocation) (i : Nat) : Prop :=
  ∃ q r, a.queues[i]? = some q ∧ b.queues[i]? = some r ∧ q.hasOpenSpots = false ∧
    canOpen q.agent now = true ∧ canOpen r.agent now = false

/-- The agent at a position is closed while its slots are all taken, and is in reserve then. -/
def ClosesFull (now : Moment) (a b : Allocation) (i : Nat) : Prop :=
  ∃ q r, a.queues[i]? = some q ∧ b.queues[i]? = some r ∧ q.hasOpenSpots = false ∧
    canOpen q.agent now = false ∧ canOpen r.agent now = true

/-- The agent that is opened brings its free slots. -/
theorem hasOpenSpots_of_openAdditional {a b : Allocation} {now : Moment} {i : Nat}
    {q : AgentQueue} (hnext : a.nextToOpen? now = some i) (hq : a.queues[i]? = some q)
    (hroom : q.hasOpenSpots = true) (hb : a.openAdditional? now = some b) :
    b.hasOpenSpots now = true := by
  obtain ⟨⟨q', hq', hshut⟩, -⟩ := getElem?_of_nextToOpen? hnext
  obtain rfl : q' = q := Option.some.inj (hq'.symm.trans hq)
  rw [openAdditional?, hnext] at hb
  cases hb
  refine hasOpenSpots_iff.mpr ⟨setOpen true q', ?_, ?_⟩
  · apply List.mem_of_getElem? (i := i)
    rw [List.getElem?_modify_eq, hq]
    rfl
  · exact Bool.and_eq_true_iff.mpr ⟨available_setOpen_true hshut, hroom⟩

/-- Whoever is in reserve after an agent was opened stands behind that agent. -/
theorem opensFull_of_openAdditional {a mid b : Allocation} {now : Moment} {i j : Nat}
    {q r : AgentQueue} (hnext : a.nextToOpen? now = some i) (hq : a.queues[i]? = some q)
    (hfull : q.hasOpenSpots = false) (hmid : a.openAdditional? now = some mid)
    (hserves : Serves now mid b) (hr : b.queues[j]? = some r)
    (hshut : canOpen r.agent now = true) : i < j ∧ OpensFull now a b i := by
  obtain ⟨⟨q', hq', hqshut⟩, hfirst⟩ := getElem?_of_nextToOpen? hnext
  obtain rfl : q' = q := Option.some.inj (hq'.symm.trans hq)
  rw [openAdditional?, hnext] at hmid
  cases hmid
  constructor
  · obtain ⟨m, hm, hagent, -⟩ := hserves.queue j r hr
    rw [hagent] at hshut
    by_cases hij : i = j
    · subst hij
      rw [List.getElem?_modify_eq, hq] at hm
      cases hm
      rw [setOpen, canOpen_setOpen_true] at hshut
      cases hshut
    · rw [List.getElem?_modify_ne _ _ hij] at hm
      exact Nat.lt_of_le_of_ne (hfirst j m hm hshut) hij
  · have hopened : (a.queues.modify i (setOpen true))[i]? = some (setOpen true q') := by
      rw [List.getElem?_modify_eq, hq]
      rfl
    obtain ⟨c, hc, hcagent⟩ := hserves.exists_queue hopened
    refine ⟨q', c, hq, hc, hfull, hqshut, ?_⟩
    rw [hcagent, setOpen, canOpen_setOpen_true]

/-- One allocation turns into another when agents are opened or closed first, and then
sessions come and go. -/
def Turns (now : Moment) (a b : Allocation) : Prop :=
  ∃ mid, (mid = a ∨ mid = a.closeAdditional ∨ a.openAdditional? now = some mid) ∧
    Serves now mid b

namespace Turns

variable {now : Moment} {a b : Allocation}

theorem sameRoster (h : Turns now a b) : SameRoster a b := by
  obtain ⟨mid, hmid, hserves⟩ := h
  rcases hmid with rfl | rfl | hmid
  · exact hserves.sameRoster
  · exact (sameRoster_closeAdditional a).trans hserves.sameRoster
  · exact (sameRoster_openAdditional hmid).trans hserves.sameRoster

/-- An agent that is in reserve afterwards has gained no session: if its slots are all taken
then, they were all taken before. -/
theorem full {i : Nat} {r : AgentQueue} (h : Turns now a b) (hr : b.queues[i]? = some r)
    (hshut : canOpen r.agent now = true) (hfull : r.hasOpenSpots = false) :
    ∃ q, a.queues[i]? = some q ∧ q.hasOpenSpots = false := by
  obtain ⟨mid, hmid, hserves⟩ := h
  obtain ⟨m, hm, -, hroom⟩ := hserves.room hr hshut
  have hmfull : m.hasOpenSpots = false := by
    by_contra hopen
    rw [hroom (by simpa using hopen)] at hfull
    cases hfull
  rcases hmid with rfl | rfl | hmid
  · exact ⟨m, hm, hmfull⟩
  · rw [closeAdditional, List.getElem?_map] at hm
    obtain ⟨q, hq, rfl⟩ := Option.map_eq_some_iff.mp hm
    exact ⟨q, hq, hmfull⟩
  · obtain ⟨k, -, rfl⟩ := Option.map_eq_some_iff.mp hmid
    rw [List.getElem?_modify] at hm
    obtain ⟨q, hq, rfl⟩ := Option.map_eq_some_iff.mp hm
    refine ⟨q, hq, ?_⟩
    split at hmfull <;> exact hmfull

end Turns

end Allocation

end SupportDesk
