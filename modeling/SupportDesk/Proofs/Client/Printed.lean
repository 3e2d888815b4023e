/-
# What the client prints of a report

A status report is printed as one line for each counter and, under a heading, one line for each
agent.  What a line of an agent shows is told by its words, which stand between spaces: the number,
the kind, the level, the hours and the load of the agent, and a mark if the agent takes no
sessions.  The widths of the columns are not told.

No part of a line holds a line break, so what is printed as one line is one line.  The texts in the
lines come from the desk: a kind, a level and the hours of a shift are single words, whatever the
roster.
-/

import SupportDesk.Proofs.Client.Report
import SupportDesk.Proofs.Text.Digits

namespace SupportDesk.Client

/-! ## Lines and words -/

/-- A text without line breaks. -/
def IsOneLine (s : String) : Prop := '\n' ∉ s.toList ∧ '\r' ∉ s.toList

instance (s : String) : Decidable (IsOneLine s) := inferInstanceAs (Decidable (_ ∧ _))

/-- The words of a text, which stand between spaces. -/
def words (s : String) : List String :=
  ((s.toList.splitOn ' ').filter fun word => !word.isEmpty).map String.ofList

/-- A text that is a single word: not empty and without blanks. -/
def IsWord (s : String) : Prop := s.toList ≠ [] ∧ ∀ c ∈ s.toList, Blank.isBlank c = false

instance (s : String) : Decidable (IsWord s) :=
  decidable_of_iff (s.toList ≠ [] ∧ (s.toList.all fun c => !Blank.isBlank c) = true)
    (by simp only [IsWord, List.all_eq_true, Bool.not_eq_true'])

variable {s t : String}

theorem isOneLine_append : IsOneLine (s ++ t) ↔ IsOneLine s ∧ IsOneLine t := by
  simp only [IsOneLine, String.toList_append, List.mem_append, not_or]
  exact and_and_and_comm

theorem IsWord.isOneLine (h : IsWord s) : IsOneLine s :=
  ⟨fun hc => absurd (h.2 _ hc) (by decide), fun hc => absurd (h.2 _ hc) (by decide)⟩

theorem isOneLine_ofList_replicate (n : Nat) :
    IsOneLine (String.ofList (List.replicate n ' ')) := by
  simp [IsOneLine, List.mem_replicate]

theorem words_append_space (s t : String) : words (s ++ " " ++ t) = words s ++ words t := by
  have hsplit : (s ++ " " ++ t).toList = s.toList ++ ' ' :: t.toList := by
    simp only [String.toList_append, List.append_assoc]
    rfl
  rw [words, hsplit, List.splitOn_append_cons_self, List.filter_append, List.map_append]
  rfl

theorem words_empty : words "" = [] := rfl

theorem words_space_append (t : String) : words (" " ++ t) = words t := by
  have h := words_append_space "" t
  rwa [String.empty_append, words_empty, List.nil_append] at h

theorem words_append_gap (s t : String) : words (s ++ "  " ++ t) = words s ++ words t := by
  have hgap : s ++ "  " ++ t = s ++ " " ++ (" " ++ t) := by
    rw [show "  " = " " ++ " " from rfl, ← String.append_assoc, String.append_assoc]
  rw [hgap, words_append_space, words_space_append]

theorem IsWord.words_eq (h : IsWord s) : words s = [s] := by
  have hspace : ' ' ∉ s.toList := fun hc => absurd (h.2 _ hc) (by decide)
  rw [words, List.splitOn_eq_singleton hspace, List.filter_cons_of_pos (by simpa using h.1),
    List.filter_nil, List.map_singleton, String.ofList_toList]

theorem ofList_replicate_succ (n : Nat) : String.ofList (List.replicate (n + 1) ' ') =
    " " ++ String.ofList (List.replicate n ' ') := by
  rw [← String.toList_inj]
  simp [List.replicate_succ]

theorem words_spaces_append (n : Nat) (t : String) :
    words (String.ofList (List.replicate n ' ') ++ t) = words t := by
  induction n with
  | zero => rw [List.replicate_zero, String.ofList_nil, String.empty_append]
  | succ n ih => rw [ofList_replicate_succ, String.append_assoc, words_space_append, ih]

theorem words_append_spaces (s : String) (n : Nat) :
    words (s ++ String.ofList (List.replicate n ' ')) = words s := by
  cases n with
  | zero => rw [List.replicate_zero, String.ofList_nil, String.append_empty]
  | succ n =>
      have hspaces := words_spaces_append n ""
      rw [String.append_empty] at hspaces
      rw [ofList_replicate_succ, ← String.append_assoc, words_append_space, hspaces, words_empty,
        List.append_nil]

/-- Filling a text with spaces on the left adds no word. -/
theorem words_rightAligned (width : Nat) (s : String) :
    words (AgentReport.rightAligned width s) = words s :=
  words_spaces_append _ s

/-- Filling a text with spaces on the right adds no word. -/
theorem words_leftAligned (width : Nat) (s : String) :
    words (AgentReport.leftAligned width s) = words s :=
  words_append_spaces s _

theorem isOneLine_rightAligned {width : Nat} (h : IsOneLine s) :
    IsOneLine (AgentReport.rightAligned width s) :=
  isOneLine_append.mpr ⟨isOneLine_ofList_replicate _, h⟩

theorem isOneLine_leftAligned {width : Nat} (h : IsOneLine s) :
    IsOneLine (AgentReport.leftAligned width s) :=
  isOneLine_append.mpr ⟨h, isOneLine_ofList_replicate _⟩

/-! ## What a desk writes in a line -/

theorem toList_toString (n : Nat) : (toString n).toList = Digits.decimal n := String.toList_ofList

theorem isWord_toString (n : Nat) : IsWord (toString n) := by
  rw [IsWord, toList_toString]
  exact ⟨Digits.decimal_ne_nil n,
    fun _ hc => Blank.isBlank_of_isDecimal (Digits.isDecimal_of_mem_decimal hc)⟩

theorem isWord_append (hs : IsWord s) (ht : IsWord t) : IsWord (s ++ t) := by
  refine ⟨?_, fun c hc => ?_⟩
  · rw [String.toList_append, Ne, List.append_eq_nil_iff]
    exact fun h => hs.1 h.1
  · rw [String.toList_append, List.mem_append] at hc
    exact hc.elim (hs.2 c) (ht.2 c)

theorem isWord_hoursMinutes (t : TimeOfDay) : IsWord t.hoursMinutes := by
  rw [IsWord, TimeOfDay.hoursMinutes, String.toList_ofList]
  refine ⟨by simp, fun c hc => ?_⟩
  rcases List.mem_append.mp hc with hc | hc
  · exact Blank.isBlank_of_isDecimal (Digits.isDecimal_of_mem_padded hc)
  · rcases List.mem_cons.mp hc with rfl | hc
    · decide
    · exact Blank.isBlank_of_isDecimal (Digits.isDecimal_of_mem_padded hc)

theorem isWord_workingHours (a : Agent) : IsWord a.workingHours :=
  isWord_append (isWord_append (isWord_hoursMinutes _) (by decide))
    (isWord_hoursMinutes _)

theorem isWord_kind (a : Agent) : IsWord a.kind := by
  have hkinds : IsWord "regular" ∧ IsWord "additional" := by decide
  cases a with
  | regular _ => exact hkinds.1
  | additional _ => exact hkinds.2

theorem isWord_levelName (l : Level) : IsWord l.name := by
  cases l <;> decide

/-! ## The line of an agent -/

/-- A text shows an agent: it is one line, whose words are the agent's number, kind, level, hours
and load, and a mark exactly if the agent takes no sessions. -/
structure ShowsAgent (line : String) (a : AgentSnapshot) : Prop where
  isOneLine : IsOneLine line
  words_eq : words line =
    [toString a.id, a.kind, a.level.name, a.workingHours,
      toString a.queueSize ++ "/" ++ toString a.maxSlots] ++
    if a.available then [] else ["(closed)"]

/-- The mark of a closed agent is a word of its own. -/
theorem words_append_mark (s : String) (available : Bool) :
    words (s ++ if available then "" else "  (closed)") =
      words s ++ if available then [] else ["(closed)"] := by
  cases available with
  | true => rw [if_pos rfl, if_pos rfl, String.append_empty, List.append_nil]
  | false =>
      have hclosed : IsWord "(closed)" := by decide
      rw [if_neg Bool.false_ne_true, if_neg Bool.false_ne_true,
        show "  (closed)" = "  " ++ "(closed)" from rfl, ← String.append_assoc, words_append_gap,
        hclosed.words_eq]

/-- What is read of the report on a queue is printed as a line that shows it. -/
theorem showsAgent_line {r : AgentReport} {q : AgentQueue} {now : Moment}
    (h : r.Tells (q.snapshot now)) : ShowsAgent r.line (q.snapshot now) := by
  let id := toString q.agent.id.toNat
  let load := toString q.size ++ "/" ++ toString q.maxSlots
  let shown := "" ++ "  " ++ AgentReport.rightAligned 4 id ++ " " ++
    AgentReport.leftAligned 10 q.agent.kind ++ " " ++
    AgentReport.leftAligned 9 q.agent.level.name ++ " " ++ q.agent.workingHours ++ "  " ++ load
  have hline : r.line = shown ++ if q.agent.available now then "" else "  (closed)" := by
    have hid : toString r.id = id := by
      rw [h.id]
      rfl
    have hload : toString r.queueSize ++ "/" ++ toString r.maxSlots = load := by
      change toString r.queueSize.toNat ++ "/" ++ toString r.maxSlots.toNat = load
      rw [h.queueSize, h.maxSlots]
      rfl
    delta AgentReport.line
    rw [hid, h.kind, h.level, h.workingHours, h.available]
    simp only [shown, ← hload, String.empty_append, String.append_assoc]
    rfl
  have hid : IsWord id := isWord_toString _
  have hload : IsWord load :=
    isWord_append (isWord_append (isWord_toString _) (by decide)) (isWord_toString _)
  have hkind := isWord_kind q.agent
  have hlevel := isWord_levelName q.agent.level
  have hhours := isWord_workingHours q.agent
  refine ⟨?_, ?_⟩
  · have hmark : IsOneLine (if q.agent.available now then "" else "  (closed)") := by
      split <;> decide
    have hspaces : IsOneLine "" ∧ IsOneLine " " ∧ IsOneLine "  " := by decide
    rw [hline, isOneLine_append]
    refine ⟨?_, hmark⟩
    simp only [shown, isOneLine_append, hspaces, isOneLine_rightAligned hid.isOneLine,
      isOneLine_leftAligned hkind.isOneLine, isOneLine_leftAligned hlevel.isOneLine,
      hhours.isOneLine, hload.isOneLine, and_self]
  · rw [hline, words_append_mark]
    simp only [shown, words_append_gap, words_append_space, words_rightAligned, words_leftAligned,
      hid.words_eq, hload.words_eq, hkind.words_eq, hlevel.words_eq, hhours.words_eq, words_empty]
    rfl

/-- A number that is longer than its column stays apart from the kind. -/
example : words (AgentReport.line ⟨12345, "additional", "Junior", "09:00-17:00", false, 0, 4⟩) =
    ["12345", "additional", "Junior", "09:00-17:00", "0/4", "(closed)"] := by decide

/-! ## The lines of a report -/

/-- The lines of the counters. -/
def counterLines (s : Pool.Status) : List String :=
  ["Capacity:        " ++ toString s.capacity, "Max backlog:     " ++ toString s.maximumQueueSize,
   "Backlog:         " ++ toString s.queueSize, "Active sessions: " ++ toString s.activeSessions]

/-- Lines that show a report: those of the counters and, under a heading, one for each agent in the
order of the agents.  None of them is broken. -/
structure ShowsReport (lines : List String) (s : Pool.Status) : Prop where
  isOneLine : ∀ line ∈ lines, IsOneLine line
  lines_eq : ∃ agentLines, lines = counterLines s ++ "Agents:" :: agentLines ∧
    List.Forall₂ ShowsAgent agentLines s.agents

theorem isOneLine_of_mem_counterLines {s : Pool.Status} {line : String}
    (hline : line ∈ counterLines s) : IsOneLine line := by
  have hnames : ∀ name ∈ ["Capacity:        ", "Max backlog:     ", "Backlog:         ",
      "Active sessions: "], IsOneLine name := by decide
  simp only [counterLines, List.mem_cons, List.not_mem_nil, or_false] at hline
  rcases hline with rfl | rfl | rfl | rfl <;>
    exact isOneLine_append.mpr ⟨hnames _ (by simp), (isWord_toString _).isOneLine⟩

/-- What the client prints of a report on a pool shows it. -/
theorem showsReport_lines {report : PoolReport} {p : Pool} {now : Moment}
    (h : report.Tells (p.status now)) : ShowsReport report.lines (p.status now) := by
  have hlines : report.lines =
      counterLines (p.status now) ++ "Agents:" :: report.agents.map AgentReport.line := by
    rw [counterLines, ← h.capacity, ← h.maximumQueueSize, ← h.queueSize, ← h.activeSessions]
    rfl
  have hshows : List.Forall₂ ShowsAgent (report.agents.map AgentReport.line)
      (p.status now).agents := by
    have htells : List.Forall₂ (fun (r : AgentReport) (q : AgentQueue) => r.Tells (q.snapshot now))
        report.agents p.allocation.queues := List.forall₂_map_right_iff.mp h.agents
    refine List.forall₂_map_left_iff.mpr (List.forall₂_map_right_iff.mpr ?_)
    exact htells.imp fun _ _ => showsAgent_line
  refine ⟨fun line hline => ?_, _, hlines, hshows⟩
  rw [hlines, List.mem_append, List.mem_cons] at hline
  rcases hline with hline | rfl | hline
  · exact isOneLine_of_mem_counterLines hline
  · decide
  · have hboth : List.Forall₂ (fun line a => IsOneLine line ∧ ShowsAgent line a)
        (report.agents.map AgentReport.line) (p.status now).agents :=
      hshows.imp fun _ _ h => ⟨h.isOneLine, h⟩
    exact ((List.forall₂_and_left _ _).mp hboth).1 line hline

end SupportDesk.Client
