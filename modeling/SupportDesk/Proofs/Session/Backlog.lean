/-
# The backlog's two views

A backlog keeps its order and its sessions apart.  It is consistent when the order lists
exactly the sessions that are kept, each once and under its own identifier.  Every operation
preserves this, so that taking the first of the order always finds its session.
-/

import SupportDesk.Proofs.Session.Table
import SupportDesk.Session.Backlog

namespace SupportDesk.Backlog

/-- The order and the sessions of a backlog agree. -/
structure Consistent (b : Backlog) : Prop where
  order_nodup : b.order.Nodup
  distinct : b.sessions.Distinct
  mem_order : ∀ id, id ∈ b.order ↔ b.contains id = true
  keyed : b.sessions.Keyed

theorem consistent_ofLimit (limit : Nat) : (ofLimit limit).Consistent where
  order_nodup := List.nodup_nil
  distinct := SessionTable.distinct_empty
  mem_order id := by simp [ofLimit, contains, SessionTable.contains, SessionTable.empty]
  keyed := SessionTable.keyed_empty

/-- Admission happens exactly below the limit, and appends the new session. -/
theorem create?_eq_some_iff {b c : Backlog} {id : SessionId} {now : Moment} :
    b.create? id now = some c ↔ b.size < b.limit ∧
      c = { b with order := b.order ++ [id], sessions := b.sessions.insert id (.start id now) } := by
  unfold create?
  split
  next hfull => simp [Nat.not_lt.mpr hfull]
  next hroom => simp [Nat.lt_of_not_le hroom, eq_comm]

/-- The backlog after a removal, and when there is one. -/
theorem remove?_eq_some_iff {b c : Backlog} {id : SessionId} :
    b.remove? id = some c ↔ b.contains id = true ∧
      c = { b with order := b.order.filter (· ≠ id), sessions := b.sessions.erase id } := by
  unfold remove?
  split
  next hin => simp [hin, eq_comm]
  next hout => simp [hout]

/-- The backlog after a sign of life, and when one is recorded. -/
theorem prolong?_eq_some_iff {b c : Backlog} {id : SessionId} {now : Moment} :
    b.prolong? id now = some c ↔ b.contains id = true ∧
      c = { b with sessions := b.sessions.modify id (·.prolong now) } := by
  unfold prolong?
  split
  next hin => simp [hin, eq_comm]
  next hout => simp [hout]

/-- A session that is taken makes the order shorter by one. -/
theorem size_of_pop {b c : Backlog} {s : Session} (h : b.pop = (some s, c)) :
    b.size = c.size + 1 := by
  unfold pop at h
  split at h
  next => cases h
  next id rest ho =>
    obtain ⟨-, rfl⟩ := Prod.mk.inj h
    rw [size, ho, List.length_cons]
    rfl

namespace Consistent

variable {b c : Backlog}

/-- The limit plays no part in the agreement. -/
theorem withLimit (h : b.Consistent) (limit : Nat) :
    Consistent { b with limit := limit } := ⟨h.1, h.2, h.3, h.4⟩

/-- A session that did not wait may be put at the end. -/
theorem append (h : b.Consistent) {id : SessionId} (hnew : b.contains id = false)
    (now : Moment) : Consistent { b with
      order := b.order ++ [id], sessions := b.sessions.insert id (.start id now) } := by
  have hout : id ∉ b.order := by
    rw [h.mem_order, hnew]
    exact Bool.false_ne_true
  refine ⟨?_, h.distinct.insert _ _, ?_, h.keyed.insert (.start id now)⟩
  · exact List.nodup_append'.mpr ⟨h.order_nodup, List.nodup_singleton id, by simpa using hout⟩
  · intro k
    have hk := h.mem_order k
    simp only [contains] at hk
    simp only [contains, SessionTable.contains_insert, List.mem_append, List.mem_singleton, hk,
      Bool.or_eq_true, decide_eq_true_eq]
    exact or_comm

/-- The first of the order waits, and taking it leaves the others as they were. -/
theorem pop_of_order (h : b.Consistent) {id : SessionId} {rest : List SessionId}
    (ho : b.order = id :: rest) :
    ∃ s, s.id = id ∧ b.sessions.find? id = some s ∧
      b.pop = (some s, { b with order := rest, sessions := b.sessions.erase id }) := by
  have hin : b.contains id = true := by
    rw [← h.mem_order, ho]
    exact List.mem_cons_self
  obtain ⟨s, hs⟩ := SessionTable.exists_find?_of_contains hin
  exact ⟨s, h.keyed id s hs, hs, by simp [pop, ho, hs]⟩

/-- The sessions in line are those of the order. -/
theorem map_id_toList (h : b.Consistent) : b.toList.map (·.id) = b.order := by
  have hkept : ∀ id ∈ b.order, (b.sessions.find? id).map (·.id) = some id := by
    intro id hid
    obtain ⟨s, hs⟩ := SessionTable.exists_find?_of_contains ((h.mem_order id).mp hid)
    rw [hs, Option.map_some, h.keyed id s hs]
  rw [toList, List.map_filterMap, List.filterMap_congr hkept, List.filterMap_some]

/-- The first in line stands before those who wait once it is taken. -/
theorem toList_of_order (h : b.Consistent) {s : Session} {rest : List SessionId}
    (ho : b.order = s.id :: rest) (hfind : b.sessions.find? s.id = some s) :
    b.toList = s :: b.pop.2.toList := by
  obtain ⟨first, -, -, hpop⟩ := h.pop_of_order ho
  have hnodup := h.order_nodup
  rw [ho, List.nodup_cons] at hnodup
  have hkept : ∀ id ∈ rest, b.sessions.find? id = (b.sessions.erase s.id).find? id := by
    intro id hid
    have hne : id ≠ s.id := fun heq => hnodup.1 (heq ▸ hid)
    rw [SessionTable.find?_erase, if_neg hne]
  rw [toList, ho, List.filterMap_cons_some hfind, List.filterMap_congr hkept, hpop]
  rfl

theorem pop (h : b.Consistent) : b.pop.2.Consistent := by
  unfold Backlog.pop
  split
  next => exact h
  next id rest ho =>
    have hnodup := h.order_nodup
    rw [ho, List.nodup_cons] at hnodup
    refine ⟨hnodup.2, h.distinct.erase id, ?_, h.keyed.erase id⟩
    intro k
    have hk := h.mem_order k
    rw [ho, List.mem_cons] at hk
    simp only [contains] at hk
    simp only [contains, SessionTable.contains_erase, Bool.and_eq_true, decide_eq_true_eq, ← hk]
    constructor
    · intro hrest
      exact ⟨fun heq => hnodup.1 (heq ▸ hrest), .inr hrest⟩
    · rintro ⟨hne, heq | hrest⟩
      · exact absurd heq hne
      · exact hrest

theorem prolong (h : b.Consistent) {id : SessionId} {now : Moment}
    (hc : b.prolong? id now = some c) : c.Consistent := by
  obtain ⟨-, rfl⟩ := prolong?_eq_some_iff.mp hc
  refine ⟨h.order_nodup, h.distinct.modify _ _, ?_, h.keyed.modify_prolong id now⟩
  intro k
  simpa only [contains, SessionTable.contains_modify] using h.mem_order k

/-- Taking any sessions out of both views keeps them in agreement. -/
theorem filter_erase (h : b.Consistent) (gone : List SessionId) :
    Consistent { b with
      order := b.order.filter (· ∉ gone)
      sessions := gone.foldl (·.erase ·) b.sessions } := by
  refine ⟨h.order_nodup.filter _, h.distinct.foldl_erase gone, ?_, h.keyed.foldl_erase gone⟩
  intro k
  have hk := h.mem_order k
  simp only [contains] at hk
  simp only [contains, SessionTable.contains_foldl_erase, List.mem_filter, hk, Bool.and_eq_true,
    decide_eq_true_eq]
  exact and_comm

theorem remove (h : b.Consistent) {id : SessionId} (hc : b.remove? id = some c) :
    c.Consistent := by
  obtain ⟨-, rfl⟩ := remove?_eq_some_iff.mp hc
  simpa using h.filter_erase [id]

theorem removeExpired (h : b.Consistent) {timeout : Duration} {now : Moment}
    (hc : b.removeExpired timeout now = .ok (some c)) : c.Consistent := by
  unfold Backlog.removeExpired at hc
  cases hgone : b.expired timeout now with
  | error e =>
      rw [hgone] at hc
      cases hc
  | ok gone =>
      rw [hgone] at hc
      simp only [Except.map, Except.ok.injEq] at hc
      split at hc
      · cases hc
      · cases hc
        exact h.filter_erase gone

end Consistent

end SupportDesk.Backlog
