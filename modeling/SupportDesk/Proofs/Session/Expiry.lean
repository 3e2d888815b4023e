/-
# Which sessions a sweep removes

Deciding whether a session has expired adds the timeout to its last sign of life, which the
calendar may not reach.  Where it does for every session, the lists of expired sessions are
found without an error, and they name exactly the sessions whose time has lapsed.
-/

import SupportDesk.Proofs.Session.Backlog

namespace SupportDesk

/-- Whether a timeout has passed since a moment. -/
def lapsed (timeout : Duration) (now touched : Moment) : Bool :=
  match touched.add timeout with
  | .ok deadline => deadline ≤ now
  | .error _ => false

/-- Where no member is refused, a search through a list finds what a plain search finds. -/
theorem filterMapM_eq_ok {α β ε : Type} {f : α → Except ε (Option β)} {g : α → Option β}
    {xs : List α} (h : ∀ a ∈ xs, f a = .ok (g a)) : xs.filterMapM f = .ok (xs.filterMap g) := by
  induction xs with
  | nil => rfl
  | cons a xs ih =>
      rw [List.filterMapM_cons, h a List.mem_cons_self,
        ih fun b hb => h b (List.mem_cons_of_mem a hb), List.filterMap_cons]
      cases g a <;> rfl

/-- What a search through a list has found comes from a member. -/
theorem exists_of_mem_filterMapM {α β ε : Type} {f : α → Except ε (Option β)} {xs : List α}
    {found : List β} (h : xs.filterMapM f = .ok found) {b : β} (hb : b ∈ found) :
    ∃ a ∈ xs, f a = .ok (some b) := by
  induction xs generalizing found with
  | nil =>
      cases h
      cases hb
  | cons a xs ih =>
      rw [List.filterMapM_cons] at h
      cases ha : f a with
      | error e =>
          rw [ha] at h
          cases h
      | ok answer =>
          cases hrest : xs.filterMapM f with
          | error e =>
              rw [ha, hrest] at h
              cases answer <;> cases h
          | ok rest =>
              rw [ha, hrest] at h
              have later (hmem : b ∈ rest) : ∃ a' ∈ a :: xs, f a' = .ok (some b) := by
                obtain ⟨a', ha', hfound⟩ := ih hrest hmem
                exact ⟨a', List.mem_cons_of_mem a ha', hfound⟩
              cases answer with
              | none =>
                  cases h
                  exact later hb
              | some first =>
                  cases h
                  rcases List.mem_cons.mp hb with rfl | hmem
                  · exact ⟨a, List.mem_cons_self, ha⟩
                  · exact later hmem

/-- A search through a list succeeds only if no member is refused. -/
theorem isOk_of_filterMapM {α β ε : Type} {f : α → Except ε (Option β)} {xs : List α}
    {found : List β} (h : xs.filterMapM f = .ok found) {a : α} (ha : a ∈ xs) :
    (f a).isOk = true := by
  induction xs generalizing found with
  | nil => cases ha
  | cons b xs ih =>
      rw [List.filterMapM_cons] at h
      cases hb : f b with
      | error e =>
          rw [hb] at h
          cases h
      | ok answer =>
          cases hrest : xs.filterMapM f with
          | error e =>
              rw [hb, hrest] at h
              cases answer <;> cases h
          | ok rest =>
              rcases List.mem_cons.mp ha with rfl | ha
              · rw [hb]
                rfl
              · exact ih hrest ha

/-- An error of a search through a list comes from a member. -/
theorem exists_of_filterMapM_eq_error {α β ε : Type} {f : α → Except ε (Option β)} {xs : List α}
    {e : ε} (h : xs.filterMapM f = .error e) : ∃ a ∈ xs, f a = .error e := by
  induction xs with
  | nil => cases h
  | cons a xs ih =>
      rw [List.filterMapM_cons] at h
      cases ha : f a with
      | error e' =>
          rw [ha] at h
          cases h
          exact ⟨a, List.mem_cons_self, ha⟩
      | ok answer =>
          cases hrest : xs.filterMapM f with
          | error e' =>
              rw [ha, hrest] at h
              obtain rfl : e' = e := by cases answer <;> cases h <;> rfl
              obtain ⟨b, hb, hfound⟩ := ih hrest
              exact ⟨b, List.mem_cons_of_mem a hb, hfound⟩
          | ok rest =>
              rw [ha, hrest] at h
              cases answer <;> cases h

/-- If all errors are alike, a search through the same members in another order fails as well or
finds the same. -/
theorem filterMapM_perm {α β ε : Type} {f : α → Except ε (Option β)} {xs ys : List α} {e : ε}
    (h : xs.Perm ys) (halike : ∀ a e', f a = .error e' → e' = e) :
    (xs.filterMapM f = .error e ∧ ys.filterMapM f = .error e) ∨
      ∃ found found', xs.filterMapM f = .ok found ∧ ys.filterMapM f = .ok found' ∧
        found.Perm found' := by
  have hfails {zs : List α} {a : α} (ha : a ∈ zs) (hbad : (f a).isOk ≠ true) :
      zs.filterMapM f = .error e := by
    cases hzs : zs.filterMapM f with
    | ok found => exact absurd (isOk_of_filterMapM hzs ha) hbad
    | error e' =>
        obtain ⟨b, -, hb⟩ := exists_of_filterMapM_eq_error hzs
        rw [halike b e' hb]
  by_cases hall : ∀ a ∈ xs, (f a).isOk = true
  · right
    have hfound : ∀ a ∈ xs, f a = .ok ((f a).toOption.getD none) := by
      intro a ha
      have hok := hall a ha
      cases hf : f a with
      | ok answer => rfl
      | error e' =>
          rw [hf] at hok
          cases hok
    refine ⟨_, _, filterMapM_eq_ok hfound, filterMapM_eq_ok fun a ha => hfound a (h.mem_iff.mpr ha),
      h.filterMap _⟩
  · left
    push Not at hall
    obtain ⟨a, ha, hbad⟩ := hall
    exact ⟨hfails ha hbad, hfails (h.mem_iff.mp ha) hbad⟩

namespace Session

/-- Where the calendar reaches the deadline, the answer is whether it has passed. -/
theorem expired_eq_ok {s : Session} {timeout : Duration}
    (h : (s.lastTouchedAt.add timeout).isOk = true) (now : Moment) :
    s.expired timeout now = .ok (lapsed timeout now s.lastTouchedAt) := by
  unfold expired lapsed
  cases hadd : s.lastTouchedAt.add timeout with
  | error e =>
      rw [hadd] at h
      cases h
  | ok deadline => rfl

/-- The only error is that the calendar does not reach the deadline. -/
theorem error_of_expired {s : Session} {timeout : Duration} {now : Moment} {e : TimeError}
    (h : s.expired timeout now = .error e) : e = .momentOverflow := by
  unfold expired Moment.add at h
  cases hdate : s.lastTouchedAt.date.addDays? (s.lastTouchedAt.time.addCarry timeout).2 with
  | none =>
      simp only [hdate, Except.map] at h
      cases h
      rfl
  | some date =>
      simp only [hdate, Except.map] at h
      cases h

/-- There is an answer only where the calendar reaches the deadline. -/
theorem expired_eq_ok_iff {s : Session} {timeout : Duration} {now : Moment} {gone : Bool} :
    s.expired timeout now = .ok gone ↔
      (s.lastTouchedAt.add timeout).isOk = true ∧ gone = lapsed timeout now s.lastTouchedAt := by
  constructor
  · intro h
    have hreach : (s.lastTouchedAt.add timeout).isOk = true := by
      cases hadd : s.lastTouchedAt.add timeout with
      | error e => simp [expired, hadd, Except.map] at h
      | ok deadline => rfl
    rw [expired_eq_ok hreach, Except.ok.injEq] at h
    exact ⟨hreach, h.symm⟩
  · rintro ⟨hreach, rfl⟩
    exact expired_eq_ok hreach now

end Session

namespace Backlog

variable {b : Backlog}

/-- Whether a session waits whose time has lapsed. -/
def hasLapsed (b : Backlog) (timeout : Duration) (now : Moment) (id : SessionId) : Bool :=
  (b.sessions.find? id).any fun s => lapsed timeout now s.lastTouchedAt

/-- Whether the calendar reaches the deadline of every session that waits. -/
def deadlinesInCalendar (b : Backlog) (timeout : Duration) : Bool :=
  b.order.all fun id => (b.sessions.find? id).all fun s => (s.lastTouchedAt.add timeout).isOk

/-- The expired sessions are found, in order, exactly where the calendar reaches the deadline of
every session that waits. -/
theorem expired_eq_ok_iff {timeout : Duration} {now : Moment} {gone : List SessionId} :
    b.expired timeout now = .ok gone ↔
      b.deadlinesInCalendar timeout = true ∧ gone = b.order.filter (b.hasLapsed timeout now) := by
  have hfound (hreach : b.deadlinesInCalendar timeout = true) :
      b.expired timeout now = .ok (b.order.filter (b.hasLapsed timeout now)) := by
    rw [← List.filterMap_eq_filter]
    apply filterMapM_eq_ok
    intro id hid
    have hdeadline := List.all_eq_true.mp hreach id hid
    cases hfind : b.sessions.find? id with
    | none => simp [Option.guard, hasLapsed, hfind]
    | some s =>
        rw [hfind, Option.all_some] at hdeadline
        simp [Session.expired_eq_ok hdeadline now, Except.map, Option.guard, hasLapsed, hfind]
  constructor
  · intro hok
    have hreach : b.deadlinesInCalendar timeout = true := by
      apply List.all_eq_true.mpr
      intro id hid
      have hanswer := isOk_of_filterMapM hok hid
      cases hfind : b.sessions.find? id with
      | none => rfl
      | some s =>
          rw [Option.all_some]
          cases hexpired : s.expired timeout now with
          | error e => simp [hfind, hexpired, Except.map, Except.isOk, Except.toBool] at hanswer
          | ok gone => exact (Session.expired_eq_ok_iff.mp hexpired).1
    rw [hfound hreach, Except.ok.injEq] at hok
    exact ⟨hreach, hok.symm⟩
  · rintro ⟨hreach, rfl⟩
    exact hfound hreach

/-- Whoever is found to have expired waits in the backlog. -/
theorem mem_order_of_expired {timeout : Duration} {now : Moment} {gone : List SessionId}
    (h : b.expired timeout now = .ok gone) {id : SessionId} (hid : id ∈ gone) : id ∈ b.order := by
  obtain ⟨-, rfl⟩ := expired_eq_ok_iff.mp h
  exact (List.mem_filter.mp hid).1

end Backlog

namespace Backlog.Consistent

variable {b : Backlog}

/-- The waiting sessions that are found to have expired. -/
theorem expired_eq_ok (h : b.Consistent) {timeout : Duration}
    (hreach : ∀ id s, b.sessions.find? id = some s →
      (s.lastTouchedAt.add timeout).isOk = true) (now : Moment) :
    ∃ gone, b.expired timeout now = .ok gone ∧ ∀ id, id ∈ gone ↔
      ∃ s, b.sessions.find? id = some s ∧ lapsed timeout now s.lastTouchedAt = true := by
  have hall : b.deadlinesInCalendar timeout = true := by
    apply List.all_eq_true.mpr
    intro id _
    cases hfind : b.sessions.find? id with
    | none => rfl
    | some s => exact hreach id s hfind
  refine ⟨_, expired_eq_ok_iff.mpr ⟨hall, rfl⟩, ?_⟩
  intro id
  rw [List.mem_filter, hasLapsed, Option.any_eq_true]
  constructor
  · rintro ⟨-, hlapsed⟩
    exact hlapsed
  · rintro ⟨s, hfind, hlapsed⟩
    exact ⟨(h.mem_order id).mpr (SessionTable.contains_of_find? hfind), s, hfind, hlapsed⟩

/-- What is left of the waiting sessions when the expired ones have been removed. -/
theorem removeExpired_eq_ok (h : b.Consistent) {timeout : Duration}
    (hreach : ∀ id s, b.sessions.find? id = some s →
      (s.lastTouchedAt.add timeout).isOk = true) (now : Moment) :
    ∃ answer, b.removeExpired timeout now = .ok answer ∧ ∀ id,
      (answer.getD b).sessions.find? id =
        (b.sessions.find? id).filter fun s => !lapsed timeout now s.lastTouchedAt := by
  obtain ⟨gone, hgone, hmem⟩ := h.expired_eq_ok hreach now
  refine ⟨_, by rw [Backlog.removeExpired, hgone]; rfl, ?_⟩
  intro id
  have hleft : (gone.foldl (·.erase ·) b.sessions).find? id =
      (b.sessions.find? id).filter fun s => !lapsed timeout now s.lastTouchedAt := by
    rw [SessionTable.find?_foldl_erase]
    cases hfind : b.sessions.find? id with
    | none => simp
    | some s =>
        have hid : id ∈ gone ↔ lapsed timeout now s.lastTouchedAt = true := by
          simp [hmem, hfind]
        by_cases hlapsed : lapsed timeout now s.lastTouchedAt = true <;>
          simp [hid, hlapsed, Option.filter]
  cases gone with
  | nil => simpa using hleft
  | cons k gone => simpa using hleft

end Backlog.Consistent

end SupportDesk
