/-
# The rules of a configuration

A configuration is looked at along its agents, with the numbers that were seen so far, and the
first problem is what is told.  Here the rules are said without a direction: two numbers that are
positive, agents of either kind who all have numbers of their own, and a shift for each of them.  A
configuration is accepted if and only if it keeps all of these rules.  If it does not, the problem
that is told is the first in a fixed order: the two numbers, then the agents as they stand, regular
before additional, and of each agent the number before the shift.

The two lists of agents are looked at as one, because the numbers seen along the first are carried
over to the second.
-/

import SupportDesk.Proofs.Text.Digits
import SupportDesk.Settings.DeskConfig

namespace SupportDesk

namespace DeskConfig

/-! ## What the rules ask for -/

/-- The rules of a configuration.  For a bound that an additional agent does not give, that of the
working hours stands. -/
structure KeepsRules (c : DeskConfig) : Prop where
  concurrency : 0 < c.pool.concurrency
  timeout : 0 < c.pool.timeoutSeconds
  ids : (c.agents.regular.map (·.id) ++ c.agents.additional.map (·.id)).Nodup
  hours : ∀ a ∈ c.agents.regular, 1 ≤ a.shiftHours ∧ a.shiftHours ≤ 23
  windows : ∀ a ∈ c.agents.additional,
    a.shiftStart.getD c.workingHours.start ≠ a.shiftEnd.getD c.workingHours.stop

/-- An agent as it stands in the configuration. -/
inductive AgentEntry
  | regular (a : RegularEntry)
  | additional (a : AdditionalEntry)

namespace AgentEntry

/-- The number of the agent. -/
def id : AgentEntry → AgentId
  | regular a => a.id
  | additional a => a.id

/-- The agent is given a shift that lasts, and not the whole day. -/
def HasShift (c : DeskConfig) : AgentEntry → Prop
  | regular a => 1 ≤ a.shiftHours ∧ a.shiftHours ≤ 23
  | additional a => a.shiftStart.getD c.workingHours.start ≠ a.shiftEnd.getD c.workingHours.stop

instance (c : DeskConfig) : (a : AgentEntry) → Decidable (a.HasShift c)
  | regular a => inferInstanceAs (Decidable (1 ≤ a.shiftHours ∧ a.shiftHours ≤ 23))
  | additional a => inferInstanceAs (Decidable
      (a.shiftStart.getD c.workingHours.start ≠ a.shiftEnd.getD c.workingHours.stop))

/-- What is told of an agent without such a shift. -/
def shiftProblem (c : DeskConfig) : AgentEntry → Invalid
  | regular a => .shiftHours a.id a.shiftHours
  | additional a => .emptyWindow a.id (a.shiftStart.getD c.workingHours.start)

end AgentEntry

/-- All agents in the order in which they are looked at. -/
def entries (c : DeskConfig) : List AgentEntry :=
  c.agents.regular.map .regular ++ c.agents.additional.map .additional

/-- These agents have different numbers, and each of them has a shift. -/
def InOrder (c : DeskConfig) (as : List AgentEntry) : Prop :=
  (as.map (·.id)).Nodup ∧ ∀ a ∈ as, a.HasShift c

/-- The first rule that a configuration breaks. -/
inductive FirstBroken (c : DeskConfig) : Invalid → Prop
  | concurrency : c.pool.concurrency = 0 → FirstBroken c .concurrency
  | timeout : 0 < c.pool.concurrency → c.pool.timeoutSeconds = 0 → FirstBroken c .timeout
  | duplicateId {before a after} : 0 < c.pool.concurrency → 0 < c.pool.timeoutSeconds →
      c.entries = before ++ a :: after → c.InOrder before → a.id ∈ before.map (·.id) →
      FirstBroken c (.duplicateId a.id)
  | shift {before a after} : 0 < c.pool.concurrency → 0 < c.pool.timeoutSeconds →
      c.entries = before ++ a :: after → c.InOrder before → a.id ∉ before.map (·.id) →
      ¬ a.HasShift c → FirstBroken c (a.shiftProblem c)

/-! ## The walk along the agents -/

section Walk

variable {α β : Type} {id : α → AgentId} {problem? : List AgentId → α → Option Invalid}

theorem firstProblem?_append (seen : List AgentId) (as bs : List α) :
    firstProblem? id problem? seen (as ++ bs) =
      (firstProblem? id problem? seen as).or
        (firstProblem? id problem? (seen ++ as.map id) bs) := by
  induction as generalizing seen with
  | nil => simp [firstProblem?]
  | cons a rest ih => simp [firstProblem?, ih, Option.or_assoc]

theorem firstProblem?_map (f : β → α) (seen : List AgentId) (bs : List β) :
    firstProblem? id problem? seen (bs.map f) =
      firstProblem? (fun b => id (f b)) (fun seen b => problem? seen (f b)) seen bs := by
  induction bs generalizing seen with
  | nil => rfl
  | cons b rest ih => simp [firstProblem?, ih]

/-- The first problem is that of an agent before whom there is none. -/
theorem firstProblem?_eq_some_iff {seen : List AgentId} {as : List α} {p : Invalid} :
    firstProblem? id problem? seen as = some p ↔ ∃ before a after, as = before ++ a :: after ∧
      firstProblem? id problem? seen before = none ∧
      problem? (seen ++ before.map id) a = some p := by
  constructor
  · intro h
    induction as generalizing seen with
    | nil => cases h
    | cons a rest ih =>
        rw [firstProblem?, Option.or_eq_some_iff] at h
        rcases h with hhere | ⟨hnone, hlater⟩
        · exact ⟨[], a, rest, rfl, rfl, by simpa using hhere⟩
        · obtain ⟨before, b, after, rfl, hbefore, hb⟩ := ih hlater
          refine ⟨a :: before, b, after, rfl, ?_, ?_⟩
          · rw [firstProblem?, hnone, hbefore, Option.none_or]
          · simpa using hb
  · rintro ⟨before, a, after, rfl, hbefore, ha⟩
    rw [firstProblem?_append, hbefore, Option.none_or, firstProblem?, ha, Option.some_or]

end Walk

variable {c : DeskConfig}

/-- The problem of an agent of either kind after those with the given numbers. -/
def entryProblem? (c : DeskConfig) (seen : List AgentId) : AgentEntry → Option Invalid
  | .regular a => regularProblem? seen a
  | .additional a => c.additionalProblem? seen a

theorem entryProblem?_eq (seen : List AgentId) (a : AgentEntry) :
    c.entryProblem? seen a =
      if a.id ∈ seen then some (.duplicateId a.id)
      else if a.HasShift c then none
      else some (a.shiftProblem c) := by
  cases a with
  | regular a => rfl
  | additional a =>
      simp only [entryProblem?, additionalProblem?, window, AgentEntry.id, AgentEntry.HasShift,
        AgentEntry.shiftProblem]
      by_cases hwindow :
        a.shiftStart.getD c.workingHours.start = a.shiftEnd.getD c.workingHours.stop <;>
      simp [hwindow]

/-- An agent has no problem if its number is new and it has a shift. -/
theorem entryProblem?_eq_none_iff {seen : List AgentId} {a : AgentEntry} :
    c.entryProblem? seen a = none ↔ a.id ∉ seen ∧ a.HasShift c := by
  rw [entryProblem?_eq]
  split
  next hseen => simp [hseen]
  next hnew => split <;> simp [*]

/-- Otherwise its number is told first, and then its shift. -/
theorem entryProblem?_eq_some_iff {seen : List AgentId} {a : AgentEntry} {p : Invalid} :
    c.entryProblem? seen a = some p ↔ a.id ∈ seen ∧ p = .duplicateId a.id ∨
      a.id ∉ seen ∧ ¬ a.HasShift c ∧ p = a.shiftProblem c := by
  rw [entryProblem?_eq]
  split
  next hseen => simp [hseen, eq_comm]
  next hnew => split <;> simp [*, eq_comm]

/-- There is no problem along agents who are in order and whose numbers are new. -/
theorem firstProblem?_eq_none_iff {seen : List AgentId} {as : List AgentEntry} :
    firstProblem? (·.id) c.entryProblem? seen as = none ↔
      (∀ a ∈ as, a.id ∉ seen) ∧ c.InOrder as := by
  induction as generalizing seen with
  | nil => simp [firstProblem?, InOrder]
  | cons a rest ih =>
      simp only [firstProblem?, Option.or_eq_none_iff, entryProblem?_eq_none_iff, ih, InOrder,
        List.forall_mem_cons, List.map_cons, List.nodup_cons, List.mem_append,
        List.mem_singleton, List.mem_map, not_or, not_exists, not_and]
      constructor
      · rintro ⟨⟨hnew, hshift⟩, hrest, hnodup, hshifts⟩
        exact ⟨⟨hnew, fun b hb => (hrest b hb).1⟩,
          ⟨fun b hb => (hrest b hb).2, hnodup⟩, hshift, hshifts⟩
      · rintro ⟨⟨hnew, hrest⟩, ⟨hother, hnodup⟩, hshift, hshifts⟩
        exact ⟨⟨hnew, hshift⟩, fun b hb => ⟨hrest b hb, hother b hb⟩, hnodup, hshifts⟩

theorem problem?_of_no_concurrency (h : c.pool.concurrency = 0) :
    c.problem? = some .concurrency := if_pos h

theorem problem?_of_no_timeout (hconcurrency : 0 < c.pool.concurrency)
    (h : c.pool.timeoutSeconds = 0) : c.problem? = some .timeout := by
  rw [problem?, if_neg (UInt32.pos_iff_ne_zero.mp hconcurrency), if_pos h]

/-- The two lists of agents are looked at as one. -/
theorem problem?_eq (hconcurrency : 0 < c.pool.concurrency) (htimeout : 0 < c.pool.timeoutSeconds) :
    c.problem? = firstProblem? (·.id) c.entryProblem? [] c.entries := by
  rw [problem?, if_neg (UInt32.pos_iff_ne_zero.mp hconcurrency),
    if_neg (UInt64.pos_iff_ne_zero.mp htimeout), entries, firstProblem?_append,
    firstProblem?_map, firstProblem?_map, List.nil_append, List.map_map]
  rfl

/-! ## Acceptance and refusal -/

/-- All agents are in order if their numbers differ over both lists and each has its shift. -/
theorem inOrder_entries_iff : c.InOrder c.entries ↔
    (c.agents.regular.map (·.id) ++ c.agents.additional.map (·.id)).Nodup ∧
    (∀ a ∈ c.agents.regular, 1 ≤ a.shiftHours ∧ a.shiftHours ≤ 23) ∧
    ∀ a ∈ c.agents.additional,
      a.shiftStart.getD c.workingHours.start ≠ a.shiftEnd.getD c.workingHours.stop := by
  have hids : c.entries.map (·.id) =
      c.agents.regular.map (·.id) ++ c.agents.additional.map (·.id) := by
    rw [entries, List.map_append, List.map_map, List.map_map]
    rfl
  rw [InOrder, hids, entries, List.forall_mem_append, List.forall_mem_map, List.forall_mem_map]
  rfl

theorem problem?_eq_none_iff : c.problem? = none ↔ c.KeepsRules := by
  by_cases hzero : c.pool.concurrency = 0
  · rw [problem?_of_no_concurrency hzero]
    refine iff_of_false nofun fun h => ?_
    exact UInt32.pos_iff_ne_zero.mp h.concurrency hzero
  have hconcurrency := UInt32.pos_iff_ne_zero.mpr hzero
  by_cases hzero : c.pool.timeoutSeconds = 0
  · rw [problem?_of_no_timeout hconcurrency hzero]
    refine iff_of_false nofun fun h => ?_
    exact UInt64.pos_iff_ne_zero.mp h.timeout hzero
  have htimeout := UInt64.pos_iff_ne_zero.mpr hzero
  rw [problem?_eq hconcurrency htimeout, firstProblem?_eq_none_iff, inOrder_entries_iff]
  constructor
  · rintro ⟨-, hids, hhours, hwindows⟩
    exact ⟨hconcurrency, htimeout, hids, hhours, hwindows⟩
  · intro h
    exact ⟨fun a _ => List.not_mem_nil, h.ids, h.hours, h.windows⟩

/-- Among the agents the problem is that of the first who is not in order after those before. -/
theorem firstProblem?_entries_eq_some_iff {p : Invalid} :
    firstProblem? (·.id) c.entryProblem? [] c.entries = some p ↔
      ∃ before a after, c.entries = before ++ a :: after ∧ c.InOrder before ∧
        (a.id ∈ before.map (·.id) ∧ p = .duplicateId a.id ∨
          a.id ∉ before.map (·.id) ∧ ¬ a.HasShift c ∧ p = a.shiftProblem c) := by
  rw [firstProblem?_eq_some_iff]
  simp only [firstProblem?_eq_none_iff, entryProblem?_eq_some_iff, List.nil_append,
    List.not_mem_nil, not_false_eq_true, implies_true, true_and]

theorem problem?_eq_some_iff {p : Invalid} : c.problem? = some p ↔ c.FirstBroken p := by
  constructor
  · intro h
    by_cases hzero : c.pool.concurrency = 0
    · rw [problem?_of_no_concurrency hzero] at h
      cases h
      exact .concurrency hzero
    have hconcurrency := UInt32.pos_iff_ne_zero.mpr hzero
    by_cases hzero : c.pool.timeoutSeconds = 0
    · rw [problem?_of_no_timeout hconcurrency hzero] at h
      cases h
      exact .timeout hconcurrency hzero
    have htimeout := UInt64.pos_iff_ne_zero.mpr hzero
    rw [problem?_eq hconcurrency htimeout, firstProblem?_entries_eq_some_iff] at h
    obtain ⟨before, a, after, hentries, hbefore, ⟨hseen, rfl⟩ | ⟨hnew, hshift, rfl⟩⟩ := h
    · exact .duplicateId hconcurrency htimeout hentries hbefore hseen
    · exact .shift hconcurrency htimeout hentries hbefore hnew hshift
  · intro h
    cases h with
    | concurrency hzero => exact problem?_of_no_concurrency hzero
    | timeout hconcurrency hzero => exact problem?_of_no_timeout hconcurrency hzero
    | duplicateId hconcurrency htimeout hentries hbefore hseen =>
        rw [problem?_eq hconcurrency htimeout, firstProblem?_entries_eq_some_iff]
        exact ⟨_, _, _, hentries, hbefore, .inl ⟨hseen, rfl⟩⟩
    | shift hconcurrency htimeout hentries hbefore hnew hshift =>
        rw [problem?_eq hconcurrency htimeout, firstProblem?_entries_eq_some_iff]
        exact ⟨_, _, _, hentries, hbefore, .inr ⟨hnew, hshift, rfl⟩⟩

/-- A configuration is accepted if it keeps the rules. -/
theorem validate_eq_ok_iff : c.validate = .ok () ↔ c.KeepsRules := by
  rw [← problem?_eq_none_iff, validate]
  split
  next p hproblem => simp [hproblem]
  next hnone => simp [hnone]

/-- A configuration is refused for the first rule that it breaks. -/
theorem validate_eq_error_iff {p : Invalid} : c.validate = .error p ↔ c.FirstBroken p := by
  rw [← problem?_eq_some_iff, validate]
  split
  next q hproblem => simp [hproblem]
  next hnone => simp [hnone]

/-! ## What the text of a problem tells -/

namespace Invalid

/-- Two problems are one condition, of one agent.  The time at which a shift begins and ends is no
part of the condition, and the text gives only its hour and minute. -/
inductive SameCondition : Invalid → Invalid → Prop
  | refl (p : Invalid) : SameCondition p p
  | emptyWindow (id : AgentId) (s t : TimeOfDay) :
      SameCondition (.emptyWindow id s) (.emptyWindow id t)

theorem toList_numeral (n : UInt32) : (toString n).toList = Digits.decimal n.toNat :=
  String.toList_ofList

/-- Different numbers have different numerals. -/
theorem eq_of_numeral {m n : UInt32} (h : (toString m).toList = (toString n).toList) : m = n := by
  rw [toList_numeral, toList_numeral] at h
  have hread := congrArg Digits.readDecimal? h
  rw [Digits.readDecimal?_decimal, Digits.readDecimal?_decimal] at hread
  exact UInt32.toNat_inj.mp (Option.some.inj hread)

/-- A numeral in front of a text that goes on with a colon ends there. -/
theorem eq_of_numeral_colon {m n : UInt32} {s t : List Char}
    (h : (toString m).toList ++ s = (toString n).toList ++ t) (hs : s.head? = some ':')
    (ht : t.head? = some ':') : m = n ∧ s = t := by
  have hsplit : ∀ (k : UInt32) (u : List Char), u.head? = some ':' →
      ((toString k).toList ++ u).takeWhile Digits.isDecimal = (toString k).toList ∧
        ((toString k).toList ++ u).dropWhile Digits.isDecimal = u := by
    intro k u hu
    apply Digits.takeWhile_isDecimal
    · rw [toList_numeral]
      exact fun c hc => Digits.isDecimal_of_mem_decimal hc
    · rw [hu]
      rintro c ⟨⟩
      rfl
  obtain ⟨hm, hsrest⟩ := hsplit m s hs
  obtain ⟨hn, htrest⟩ := hsplit n t ht
  rw [h] at hm hsrest
  exact ⟨eq_of_numeral (hm.symm.trans hn), hsrest.symm.trans htrest⟩

theorem toList_message_duplicateId (id : AgentId) :
    (duplicateId id).message.toList = "duplicate agent id ".toList ++ (toString id).toList :=
  String.toList_append

theorem toList_message_shiftHours (id : AgentId) (hours : UInt32) :
    (shiftHours id hours).message.toList = "agent ".toList ++ ((toString id).toList ++
      (": shift_hours must be between 1 and 23, got ".toList ++ (toString hours).toList)) := by
  unfold message
  simp only [String.toList_append, List.append_assoc]

theorem toList_message_emptyWindow (id : AgentId) (time : TimeOfDay) :
    (emptyWindow id time).message.toList = "additional agent ".toList ++ ((toString id).toList ++
      (": shift start and end are both ".toList ++ time.hoursMinutes.toList)) := by
  unfold message
  simp only [String.toList_append, List.append_assoc]

/-- The first letters of the text of a problem, which tell the rule. -/
def opening : Invalid → List Char
  | concurrency => ['p', 'o', 'o', 'l', '.', 'm']
  | timeout => ['p', 'o', 'o', 'l', '.', 's']
  | duplicateId _ => ['d', 'u', 'p', 'l', 'i', 'c']
  | shiftHours _ _ => ['a', 'g', 'e', 'n', 't', ' ']
  | emptyWindow _ _ => ['a', 'd', 'd', 'i', 't', 'i']

theorem take_message (p : Invalid) : p.message.toList.take 6 = p.opening := by
  cases p with
  | concurrency => rfl
  | timeout => rfl
  | duplicateId id =>
      rw [toList_message_duplicateId, List.take_append_of_le_length (by decide)]
      rfl
  | shiftHours id hours =>
      rw [toList_message_shiftHours, List.take_append_of_le_length (by decide)]
      rfl
  | emptyWindow id time =>
      rw [toList_message_emptyWindow, List.take_append_of_le_length (by decide)]
      rfl

/-- The text of a problem is that of no other condition. -/
theorem sameCondition_of_message {p q : Invalid} (h : p.message = q.message) :
    p.SameCondition q := by
  have hopening : p.opening = q.opening := by rw [← take_message, ← take_message, h]
  have hchars := congrArg String.toList h
  cases p with
  | concurrency =>
      cases q <;> simp [opening] at hopening
      exact .refl _
  | timeout =>
      cases q <;> simp [opening] at hopening
      exact .refl _
  | duplicateId id =>
      cases q <;> simp [opening] at hopening
      next id' =>
        rw [toList_message_duplicateId, toList_message_duplicateId] at hchars
        obtain rfl := eq_of_numeral (List.append_cancel_left hchars)
        exact .refl _
  | shiftHours id hours =>
      cases q <;> simp [opening] at hopening
      next id' hours' =>
        rw [toList_message_shiftHours, toList_message_shiftHours] at hchars
        obtain ⟨rfl, hrest⟩ := eq_of_numeral_colon (List.append_cancel_left hchars) rfl rfl
        obtain rfl := eq_of_numeral (List.append_cancel_left hrest)
        exact .refl _
  | emptyWindow id time =>
      cases q <;> simp [opening] at hopening
      next id' time' =>
        rw [toList_message_emptyWindow, toList_message_emptyWindow] at hchars
        obtain ⟨rfl, -⟩ := eq_of_numeral_colon (List.append_cancel_left hchars) rfl rfl
        exact .emptyWindow _ _ _

end Invalid

/-! ## Exactness -/

/-- Validation accepts a configuration if and only if it keeps all rules.  If it does not, the
problem that is told is the first rule that is broken, and its text is that of no other
condition. -/
theorem validate_exact (c : DeskConfig) :
    (c.validate = .ok () ↔ c.KeepsRules) ∧
      ∀ p, (c.validate = .error p ↔ c.FirstBroken p) ∧
        ∀ q : Invalid, q.message = p.message → q.SameCondition p :=
  ⟨validate_eq_ok_iff, fun _ => ⟨validate_eq_error_iff, fun _ htext =>
    Invalid.sameCondition_of_message htext⟩⟩

end DeskConfig

end SupportDesk
