/-
# The store as one list

A store keeps the order of its sessions apart from the sessions, and its limit apart from both.
Seen from outside it is a single list of sessions with a limit: the line, in which a request
does what one would do with a list.  The line answers every request as the store does, and the
notices of the store can be read off the answers.

The identifier of a new session is taken to be new to the line, and the calendar to reach the
moments at which the sessions of the line would expire.
-/

import SupportDesk.Proofs.Calendar.Order
import SupportDesk.Proofs.Session.Expiry
import SupportDesk.Session.Store

namespace SupportDesk

/-- Sessions that wait, and the length from which on nobody is admitted. -/
structure WaitingLine where
  sessions : List Session
  limit : Nat
deriving DecidableEq, Repr

namespace WaitingLine

/-- The identifiers of the sessions, in order. -/
def ids (l : WaitingLine) : List SessionId := l.sessions.map (·.id)

/-- What a request does with a line, and its answer. -/
def perform (l : WaitingLine) (now : Moment) : StoreRequest → StoreAnswer × WaitingLine
  | .create id =>
    if l.sessions.length < l.limit then
      (.session (some (.start id now)), { l with sessions := l.sessions ++ [.start id now] })
    else (.session none, l)
  | .pop => (.session l.sessions.head?, { l with sessions := l.sessions.tail })
  | .restore s => (.done, if s.id ∈ l.ids then l else { l with sessions := s :: l.sessions })
  | .prolong id =>
    (.found (id ∈ l.ids),
      { l with sessions := l.sessions.map fun s => if s.id = id then s.prolong now else s })
  | .remove id => (.found (id ∈ l.ids), { l with sessions := l.sessions.filter (·.id ≠ id) })
  | .expire timeout =>
    (.found (l.sessions.any fun s => lapsed timeout now s.lastTouchedAt),
      { l with sessions := l.sessions.filter fun s => !lapsed timeout now s.lastTouchedAt })
  | .setLimit limit => (.done, { l with limit })

/-- A request that a line admits: what it creates is new, and what it might remove has a moment
of expiry. -/
def Admits (l : WaitingLine) : StoreRequest → Prop
  | .create id => id ∉ l.ids
  | .expire timeout => ∀ s ∈ l.sessions, (s.lastTouchedAt.add timeout).isOk = true
  | .pop | .restore _ | .prolong _ | .remove _ | .setLimit _ => True

instance (l : WaitingLine) : (r : StoreRequest) → Decidable (l.Admits r)
  | .create id => inferInstanceAs (Decidable (id ∉ l.ids))
  | .expire timeout =>
      inferInstanceAs (Decidable (∀ s ∈ l.sessions, (s.lastTouchedAt.add timeout).isOk = true))
  | .pop | .restore _ | .prolong _ | .remove _ | .setLimit _ => inferInstanceAs (Decidable True)

/-- The answers to a list of requests, each made at its own moment, and what they leave. -/
def run : WaitingLine → List (Moment × StoreRequest) → List StoreAnswer × WaitingLine
  | l, [] => ([], l)
  | l, (now, r) :: rest =>
      let (answer, m) := l.perform now r
      let (answers, last) := run m rest
      (answer :: answers, last)

/-- Every request is admitted in its turn. -/
def AdmitsAll : WaitingLine → List (Moment × StoreRequest) → Prop
  | _, [] => True
  | l, (now, r) :: rest => l.Admits r ∧ AdmitsAll (l.perform now r).2 rest

instance decidableAdmitsAll : (l : WaitingLine) → (requests : List (Moment × StoreRequest)) →
    Decidable (l.AdmitsAll requests)
  | _, [] => isTrue True.intro
  | l, (now, r) :: rest =>
      have := decidableAdmitsAll (l.perform now r).2 rest
      inferInstanceAs (Decidable (l.Admits r ∧ AdmitsAll (l.perform now r).2 rest))

end WaitingLine

/-- The notice that an answer to a request calls for. -/
def StoreRequest.notice? : StoreRequest → StoreAnswer → Option StoreNotice
  | .create _, .session (some _) => some .created
  | .remove _, .found true | .expire _, .found true => some .removed
  | _, _ => none

namespace Backlog

/-- The replies to a list of requests, each made at its own moment, and what they leave. -/
def run (b : Backlog) : List (Moment × StoreRequest) →
    Except TimeError (List StoreReply × Backlog)
  | [] => .ok ([], b)
  | (now, r) :: rest =>
      match b.perform now r with
      | .error e => .error e
      | .ok (reply, c) => (run c rest).map fun (replies, last) => (reply :: replies, last)

/-! ## The line behind a backlog -/

/-- A backlog holds the sessions of a line: its order lists them, each once, and they are found
under their identifiers. -/
structure Holds (b : Backlog) (l : WaitingLine) : Prop where
  order : b.order = l.ids
  nodup : l.ids.Nodup
  find?_eq : ∀ id, b.sessions.find? id = l.sessions.find? (·.id = id)
  limit : b.limit = l.limit

theorem holds_ofLimit (limit : Nat) : (ofLimit limit).Holds ⟨[], limit⟩ :=
  ⟨rfl, List.nodup_nil, fun _ => rfl, rfl⟩

namespace Holds

variable {b c : Backlog} {l : WaitingLine}

theorem size (h : b.Holds l) : b.size = l.sessions.length := by
  rw [Backlog.size, h.order, WaitingLine.ids, List.length_map]

theorem contains (h : b.Holds l) (id : SessionId) : b.contains id = decide (id ∈ l.ids) := by
  rw [Backlog.contains, SessionTable.contains_eq_isSome, h.find?_eq, Bool.eq_iff_iff]
  simp [WaitingLine.ids]

/-- Two sessions of a line are not under one identifier. -/
theorem eq_of_id_eq (h : b.Holds l) {s t : Session} (hs : s ∈ l.sessions) (ht : t ∈ l.sessions)
    (hid : s.id = t.id) : s = t :=
  List.inj_on_of_nodup_map h.nodup hs ht hid

theorem find?_of_mem (h : b.Holds l) {s : Session} (hs : s ∈ l.sessions) :
    b.sessions.find? s.id = some s := by
  rw [h.find?_eq]
  cases hfind : l.sessions.find? (·.id = s.id) with
  | none => simpa using List.find?_eq_none.mp hfind s hs
  | some t =>
      have hid : t.id = s.id := by simpa using List.find?_some hfind
      rw [h.eq_of_id_eq (List.mem_of_find?_eq_some hfind) hs hid]

/-- A backlog lists the sessions of its line. -/
theorem toList (h : b.Holds l) : b.toList = l.sessions := by
  rw [Backlog.toList, h.order, WaitingLine.ids, List.filterMap_map]
  calc l.sessions.filterMap (b.sessions.find? ∘ (·.id))
      = l.sessions.filterMap some := List.filterMap_congr fun s hs => h.find?_of_mem hs
    _ = l.sessions := List.filterMap_some

/-! ### Requests -/

/-- A session joins the line at its end. -/
theorem append (h : b.Holds l) {s : Session} (hnew : s.id ∉ l.ids) :
    Holds { b with order := b.order ++ [s.id], sessions := b.sessions.insert s.id s }
      { l with sessions := l.sessions ++ [s] } := by
  refine ⟨?_, ?_, ?_, h.limit⟩
  · rw [h.order]
    simp [WaitingLine.ids]
  · simpa [WaitingLine.ids, List.nodup_append] using
      ⟨h.nodup, by simpa [WaitingLine.ids] using hnew⟩
  · intro id
    rw [SessionTable.find?_insert, h.find?_eq, List.find?_append]
    by_cases hid : id = s.id
    · subst hid
      have hnone : l.sessions.find? (·.id = s.id) = none := by
        simpa [WaitingLine.ids] using hnew
      simp [hnone]
    · simp [hid, Ne.symm hid]

/-- The first of the line leaves it. -/
theorem pop (h : b.Holds l) :
    b.pop.1 = l.sessions.head? ∧ b.pop.2.Holds { l with sessions := l.sessions.tail } := by
  have hnodup := h.nodup
  have horder := h.order
  cases hsessions : l.sessions with
  | nil =>
      rw [WaitingLine.ids, hsessions, List.map_nil] at horder
      have hpop : b.pop = (none, b) := by simp [Backlog.pop, horder]
      rw [hpop]
      refine ⟨rfl, ?_⟩
      rw [List.tail_nil, ← hsessions]
      exact h
  | cons s rest =>
      rw [WaitingLine.ids, hsessions, List.map_cons] at horder hnodup
      obtain ⟨hout, hrest⟩ := List.nodup_cons.mp hnodup
      have hfind : b.sessions.find? s.id = some s := h.find?_of_mem (by simp [hsessions])
      have hpop : b.pop = (some s, { b with
          order := rest.map (·.id), sessions := b.sessions.erase s.id }) := by
        simp [Backlog.pop, horder, hfind]
      rw [hpop]
      refine ⟨rfl, rfl, hrest, ?_, h.limit⟩
      intro id
      rw [SessionTable.find?_erase, h.find?_eq, hsessions, List.find?_cons]
      by_cases hid : id = s.id
      · subst hid
        have hnone : rest.find? (·.id = s.id) = none := by simpa using hout
        simp [hnone]
      · simp [hid, Ne.symm hid]

/-- A session goes to the head of the line, unless one of its identifier waits. -/
theorem restoreFront (h : b.Holds l) (s : Session) :
    (b.restoreFront s).Holds
      (if s.id ∈ l.ids then l else { l with sessions := s :: l.sessions }) := by
  unfold Backlog.restoreFront
  rw [h.contains]
  by_cases hin : s.id ∈ l.ids
  · simpa [hin] using h
  · simp only [hin, decide_false, Bool.false_eq_true, if_false]
    refine ⟨?_, ?_, ?_, h.limit⟩
    · rw [h.order]
      rfl
    · exact List.nodup_cons.mpr ⟨hin, h.nodup⟩
    · intro id
      rw [SessionTable.find?_insert, h.find?_eq, List.find?_cons]
      by_cases hid : id = s.id
      · simp [hid]
      · simp [hid, Ne.symm hid]

/-- A session of the line shows a sign of life where it stands. -/
theorem prolong (h : b.Holds l) (id : SessionId) (now : Moment) :
    Holds { b with sessions := b.sessions.modify id (·.prolong now) }
      { l with sessions := l.sessions.map fun s => if s.id = id then s.prolong now else s } := by
  have hkept (s : Session) : (if s.id = id then s.prolong now else s).id = s.id := by
    split <;> rfl
  have hids : WaitingLine.ids { l with
      sessions := l.sessions.map fun s => if s.id = id then s.prolong now else s } = l.ids := by
    simp [WaitingLine.ids, hkept]
  refine ⟨?_, ?_, ?_, h.limit⟩
  · rw [hids]
    exact h.order
  · rw [hids]
    exact h.nodup
  · intro k
    have hsame : (fun s : Session => decide (s.id = k)) ∘
        (fun s => if s.id = id then s.prolong now else s) = fun s => decide (s.id = k) := by
      funext s
      simp only [Function.comp_apply, hkept]
    rw [SessionTable.find?_modify, h.find?_eq, List.find?_map, hsame]
    cases hfind : l.sessions.find? (·.id = k) with
    | none => simp
    | some s =>
        have hid : s.id = k := by simpa using List.find?_some hfind
        by_cases hk : k = id <;> simp [hid, hk]

/-- Sessions leave the line by their identifiers, and the others stay in order. -/
theorem filter (h : b.Holds l) (gone : List SessionId) :
    Holds { b with
        order := b.order.filter (· ∉ gone), sessions := gone.foldl (·.erase ·) b.sessions }
      { l with sessions := l.sessions.filter (·.id ∉ gone) } := by
  have hids : WaitingLine.ids { l with sessions := l.sessions.filter (·.id ∉ gone) } =
      l.ids.filter (· ∉ gone) := by
    rw [WaitingLine.ids, WaitingLine.ids, List.filter_map]
    rfl
  refine ⟨?_, ?_, ?_, h.limit⟩
  · rw [hids, h.order]
  · rw [hids]
    exact h.nodup.filter _
  · intro id
    rw [SessionTable.find?_foldl_erase, h.find?_eq, List.find?_filter]
    by_cases hid : id ∈ gone
    · rw [if_pos hid, eq_comm, List.find?_eq_none]
      intro s _ hs
      simp only [decide_not, Bool.not_eq_true', decide_eq_false_iff_not, decide_eq_true_eq] at hs
      exact hs.1 (hs.2 ▸ hid)
    · rw [if_neg hid]
      congr 1
      funext s
      by_cases hs : s.id = id <;> simp [hs, hid]

/-- The search for expired sessions finds those of the line whose time has lapsed. -/
theorem expired_eq_ok (h : b.Holds l) {timeout : Duration}
    (hreach : ∀ s ∈ l.sessions, (s.lastTouchedAt.add timeout).isOk = true) (now : Moment) :
    b.expired timeout now =
      .ok ((l.sessions.filter fun s => lapsed timeout now s.lastTouchedAt).map (·.id)) := by
  apply expired_eq_ok_iff.mpr
  constructor
  · apply List.all_eq_true.mpr
    intro id hid
    rw [h.order] at hid
    obtain ⟨s, hs, rfl⟩ := List.mem_map.mp hid
    simpa [h.find?_of_mem hs] using hreach s hs
  · rw [h.order, WaitingLine.ids, List.filter_map]
    apply congrArg (List.map Session.id)
    apply List.filter_congr
    intro s hs
    simp [hasLapsed, h.find?_of_mem hs]

/-- If some sessions go, those under other identifiers stay. -/
theorem filter_not (h : b.Holds l) (gone : Session → Bool) :
    l.sessions.filter (fun s => !gone s) =
      l.sessions.filter fun s => s.id ∉ (l.sessions.filter gone).map (·.id) := by
  apply List.filter_congr
  intro s hs
  have hmem : s.id ∈ (l.sessions.filter gone).map (·.id) ↔ gone s = true := by
    constructor
    · intro hin
      obtain ⟨t, ht, hid⟩ := List.mem_map.mp hin
      obtain ⟨htin, htgone⟩ := List.mem_filter.mp ht
      exact h.eq_of_id_eq htin hs hid ▸ htgone
    · intro hgone
      exact List.mem_map.mpr ⟨s, List.mem_filter.mpr ⟨hs, hgone⟩, rfl⟩
  cases hgone : gone s <;> simp [hmem, hgone]

/-- The sessions whose time has lapsed leave the line, if there is any. -/
theorem removeExpired (h : b.Holds l) {timeout : Duration}
    (hreach : ∀ s ∈ l.sessions, (s.lastTouchedAt.add timeout).isOk = true) (now : Moment) :
    ∃ answer, b.removeExpired timeout now = .ok answer ∧
      answer.isSome = (l.sessions.any fun s => lapsed timeout now s.lastTouchedAt) ∧
      (answer.getD b).Holds { l with
        sessions := l.sessions.filter fun s => !lapsed timeout now s.lastTouchedAt } := by
  rw [Backlog.removeExpired, h.expired_eq_ok hreach now]
  cases hany : l.sessions.any fun s => lapsed timeout now s.lastTouchedAt with
  | true =>
      rw [h.filter_not]
      refine ⟨some _, congrArg Except.ok (if_neg ?_), rfl, h.filter _⟩
      simpa using hany
  | false =>
      have hnone : ∀ s ∈ l.sessions, lapsed timeout now s.lastTouchedAt = false := by
        simpa using hany
      have hkept : l.sessions.filter (fun s => !lapsed timeout now s.lastTouchedAt) = l.sessions :=
        List.filter_eq_self.mpr fun s hs => by rw [hnone s hs, Bool.not_false]
      rw [hkept]
      refine ⟨none, congrArg Except.ok (if_pos ?_), rfl, h⟩
      simpa using hnone

end Holds

/-! ## Requests -/

/-- The store answers a request as a line does, with the notice that the answer calls for, and
then holds what the line has become. -/
def Agrees (b : Backlog) (l : WaitingLine) (now : Moment) (r : StoreRequest) : Prop :=
  ∃ reply c, b.perform now r = .ok (reply, c) ∧ reply.answer = (l.perform now r).1 ∧
    reply.notice = r.notice? reply.answer ∧ c.Holds (l.perform now r).2

namespace Holds

variable {b : Backlog} {l : WaitingLine}

theorem agrees_create (h : b.Holds l) {id : SessionId} (hnew : id ∉ l.ids) (now : Moment) :
    b.Agrees l now (.create id) := by
  by_cases hroom : l.sessions.length < l.limit
  · have hmade : b.create? id now = some { b with
        order := b.order ++ [id], sessions := b.sessions.insert id (.start id now) } :=
      create?_eq_some_iff.mpr ⟨by rwa [h.size, h.limit], rfl⟩
    refine ⟨_, _, by rw [Backlog.perform, hmade], by simp [WaitingLine.perform, hroom], rfl, ?_⟩
    simpa [WaitingLine.perform, hroom] using h.append (s := .start id now) hnew
  · have hrefused : b.create? id now = none := by
      rw [Backlog.create?, h.size, h.limit, if_pos (Nat.le_of_not_lt hroom)]
    refine ⟨_, _, by rw [Backlog.perform, hrefused], by simp [WaitingLine.perform, hroom], rfl, ?_⟩
    simpa [WaitingLine.perform, hroom] using h

theorem agrees_pop (h : b.Holds l) (now : Moment) : b.Agrees l now .pop := by
  obtain ⟨hfirst, hrest⟩ := h.pop
  exact ⟨_, _, rfl, congrArg StoreAnswer.session hfirst, rfl, hrest⟩

theorem agrees_restore (h : b.Holds l) (now : Moment) (s : Session) :
    b.Agrees l now (.restore s) :=
  ⟨_, _, rfl, rfl, rfl, h.restoreFront s⟩

/-- Nobody of the line has an identifier that the line does not list. -/
theorem id_ne_of_not_mem {id : SessionId} (hout : id ∉ l.ids) : ∀ s ∈ l.sessions, s.id ≠ id := by
  rintro s hs rfl
  exact hout (List.mem_map.mpr ⟨s, hs, rfl⟩)

theorem agrees_prolong (h : b.Holds l) (now : Moment) (id : SessionId) :
    b.Agrees l now (.prolong id) := by
  by_cases hin : id ∈ l.ids
  · have hfound : b.prolong? id now = some { b with
        sessions := b.sessions.modify id (·.prolong now) } :=
      prolong?_eq_some_iff.mpr ⟨by simpa [h.contains] using hin, rfl⟩
    exact ⟨_, _, by rw [Backlog.perform, hfound], by simp [WaitingLine.perform, hin], rfl,
      h.prolong id now⟩
  · have hmissing : b.prolong? id now = none := by simp [Backlog.prolong?, h.contains, hin]
    have hsame : (l.sessions.map fun s => if s.id = id then s.prolong now else s) =
        l.sessions.map fun s => s :=
      List.map_congr_left fun s hs => if_neg (id_ne_of_not_mem hin s hs)
    refine ⟨_, _, by rw [Backlog.perform, hmissing], by simp [WaitingLine.perform, hin], rfl, ?_⟩
    rw [WaitingLine.perform, hsame, List.map_id']
    exact h

theorem agrees_remove (h : b.Holds l) (now : Moment) (id : SessionId) :
    b.Agrees l now (.remove id) := by
  by_cases hin : id ∈ l.ids
  · have hfound : b.remove? id = some { b with
        order := b.order.filter (· ≠ id), sessions := b.sessions.erase id } :=
      remove?_eq_some_iff.mpr ⟨by simpa [h.contains] using hin, rfl⟩
    refine ⟨_, _, by rw [Backlog.perform, hfound], by simp [WaitingLine.perform, hin], rfl, ?_⟩
    simpa [WaitingLine.perform] using h.filter [id]
  · have hmissing : b.remove? id = none := by simp [Backlog.remove?, h.contains, hin]
    have hsame : l.sessions.filter (·.id ≠ id) = l.sessions :=
      List.filter_eq_self.mpr fun s hs => by simpa using id_ne_of_not_mem hin s hs
    refine ⟨_, _, by rw [Backlog.perform, hmissing], by simp [WaitingLine.perform, hin], rfl, ?_⟩
    rw [WaitingLine.perform, hsame]
    exact h

theorem agrees_expire (h : b.Holds l) {timeout : Duration}
    (hreach : ∀ s ∈ l.sessions, (s.lastTouchedAt.add timeout).isOk = true) (now : Moment) :
    b.Agrees l now (.expire timeout) := by
  obtain ⟨answer, hanswer, hany, hkept⟩ := h.removeExpired hreach now
  cases answer with
  | some c =>
      exact ⟨_, _, by rw [Backlog.perform, hanswer]; rfl, congrArg StoreAnswer.found hany, rfl,
        hkept⟩
  | none =>
      exact ⟨_, _, by rw [Backlog.perform, hanswer]; rfl, congrArg StoreAnswer.found hany, rfl,
        hkept⟩

theorem agrees_setLimit (h : b.Holds l) (now : Moment) (limit : Nat) :
    b.Agrees l now (.setLimit limit) :=
  ⟨_, _, rfl, rfl, rfl, h.order, h.nodup, h.find?_eq, rfl⟩

/-- A store and the line that it holds agree about every request that the line admits. -/
theorem agrees (h : b.Holds l) (now : Moment) {r : StoreRequest} (hr : l.Admits r) :
    b.Agrees l now r := by
  cases r with
  | create id => exact h.agrees_create hr now
  | pop => exact h.agrees_pop now
  | restore s => exact h.agrees_restore now s
  | prolong id => exact h.agrees_prolong now id
  | remove id => exact h.agrees_remove now id
  | expire timeout => exact h.agrees_expire hr now
  | setLimit limit => exact h.agrees_setLimit now limit

/-- They agree about a list of requests that are admitted in their turn. -/
theorem run (h : b.Holds l) {requests : List (Moment × StoreRequest)}
    (hr : l.AdmitsAll requests) :
    ∃ replies c, b.run requests = .ok (replies, c) ∧
      replies.map (·.answer) = (l.run requests).1 ∧
      replies.map (·.notice) =
        List.zipWith (fun request answer => request.2.notice? answer) requests (l.run requests).1 ∧
      c.Holds (l.run requests).2 := by
  induction requests generalizing b l with
  | nil => exact ⟨[], b, rfl, rfl, rfl, h⟩
  | cons request rest ih =>
      obtain ⟨now, r⟩ := request
      obtain ⟨hfirst, hrest⟩ := hr
      obtain ⟨reply, c, hperform, hanswer, hnotice, hc⟩ := h.agrees now hfirst
      obtain ⟨replies, last, hrun, hanswers, hnotices, hlast⟩ := ih hc hrest
      refine ⟨reply :: replies, last, ?_, ?_, ?_, hlast⟩
      · rw [Backlog.run, hperform]
        dsimp only
        rw [hrun]
        rfl
      · simp [WaitingLine.run, hanswer, hanswers]
      · simp [WaitingLine.run, hnotice, hanswer, hnotices]

/-- Taking the first of the line and putting it back leaves the line. -/
theorem restoreFront_pop (h : b.Holds l) {s : Session} (hs : b.pop.1 = some s) :
    (b.pop.2.restoreFront s).Holds l := by
  obtain ⟨sessions, limit⟩ := l
  obtain ⟨hfirst, hrest⟩ := h.pop
  rw [hs] at hfirst
  obtain ⟨rest, rfl⟩ := List.head?_eq_some_iff.mp hfirst.symm
  have hout : s.id ∉ WaitingLine.ids ⟨rest, limit⟩ := (List.nodup_cons.mp h.nodup).1
  have hback := hrest.restoreFront s
  rwa [List.tail_cons, if_neg hout] at hback

end Holds

end Backlog

/-- A session store is one bounded list, first in first out.  Whatever it is asked, at whatever
moments, its answers are those of a plain list of sessions, and it contains what the list does.
A notice goes out for every session that is created and for every removal or expiry that
removes something, and for nothing else.  The session that was taken from the head can be put
back, and the list is then as it was. -/
theorem store_is_one_list (limit : Nat) (requests : List (Moment × StoreRequest))
    (hadmits : WaitingLine.AdmitsAll ⟨[], limit⟩ requests) :
    let line := WaitingLine.run ⟨[], limit⟩ requests
    ∃ replies b, (Backlog.ofLimit limit).run requests = .ok (replies, b) ∧
      replies.map (·.answer) = line.1 ∧
      replies.map (·.notice) =
        List.zipWith (fun request answer => request.2.notice? answer) requests line.1 ∧
      b.toList = line.2.sessions ∧ b.limit = line.2.limit ∧
      b.size = line.2.sessions.length ∧ (∀ id, b.contains id = decide (id ∈ line.2.ids)) ∧
      ∀ s, b.pop.1 = some s →
        (b.pop.2.restoreFront s).toList = b.toList ∧ (b.pop.2.restoreFront s).limit = b.limit := by
  intro line
  obtain ⟨replies, b, hrun, hanswers, hnotices, hholds⟩ :=
    (Backlog.holds_ofLimit limit).run hadmits
  refine ⟨replies, b, hrun, hanswers, hnotices, hholds.toList, hholds.limit, hholds.size,
    hholds.contains, ?_⟩
  intro s hs
  have hback := hholds.restoreFront_pop hs
  exact ⟨hback.toList.trans hholds.toList.symm, hback.limit.trans hholds.limit.symm⟩

/-- A store for two sessions refuses a third, takes it in when the first has been taken, and gets
the first back over its limit.  An hour later one session shows a sign of life and the others
expire together. -/
theorem store_is_one_list_of_two :
    let ten : Moment := ⟨.sample, .onTheHour 10⟩
    let eleven : Moment := ⟨.sample, .onTheHour 11⟩
    let requests : List (Moment × StoreRequest) :=
      [(ten, .create (.ofNat 0)), (ten, .create (.ofNat 1)), (ten, .create (.ofNat 2)), (ten, .pop),
        (ten, .create (.ofNat 3)), (ten, .restore (.start (.ofNat 0) ten)),
        (eleven, .prolong (.ofNat 1)), (eleven, .expire (.ofHours 1)), (eleven, .remove (.ofNat 0))]
    WaitingLine.AdmitsAll ⟨[], 2⟩ requests ∧
      ∃ replies b, (Backlog.ofLimit 2).run requests = .ok (replies, b) ∧
        b.toList = [⟨.ofNat 1, ten, eleven⟩] ∧
        replies.map (·.notice) = [some .created, some .created, none, none, some .created, none,
          none, some .removed, none] := by
  intro ten eleven requests
  have hadmits : WaitingLine.AdmitsAll ⟨[], 2⟩ requests := by decide +kernel
  obtain ⟨replies, b, hrun, -, hnotices, hlist, -⟩ := store_is_one_list 2 requests hadmits
  refine ⟨hadmits, replies, b, hrun, ?_, ?_⟩
  · rw [hlist]
    decide +kernel
  · rw [hnotices]
    decide +kernel

end SupportDesk
