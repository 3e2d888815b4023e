/-
# Tables read by look-up

A table is read through `find?`: two tables that answer every look-up alike hold the same
values.  Each operation is described by what it does to look-ups, and the number of entries
is described for tables whose keys are distinct.  Nothing about the order of the entries is
used outside this module, but that tables which differ in it alone are changed alike.
-/

import Mathlib
import SupportDesk.Session.Basic
import SupportDesk.Session.Table

namespace SupportDesk.SessionTable

variable {α : Type}

/-- No key is listed twice. -/
def Distinct (t : SessionTable α) : Prop := t.keys.Nodup

/-! ## Look-ups -/

@[simp] theorem find?_empty (id : SessionId) : (empty : SessionTable α).find? id = none := rfl

/-- A key is contained exactly when a look-up finds a value. -/
theorem contains_eq_isSome (t : SessionTable α) (id : SessionId) :
    t.contains id = (t.find? id).isSome := by
  rw [Bool.eq_iff_iff]
  simp [contains, find?, List.find?_isSome]

/-- A key that is not contained has no value. -/
theorem find?_eq_none_iff {t : SessionTable α} {id : SessionId} :
    t.find? id = none ↔ t.contains id = false := by
  rw [contains_eq_isSome, Option.isSome_eq_false_iff, Option.isNone_iff_eq_none]

/-- A key with a value is contained. -/
theorem contains_of_find? {t : SessionTable α} {id : SessionId} {a : α}
    (h : t.find? id = some a) : t.contains id = true := by
  rw [contains_eq_isSome, h]
  rfl

/-- A contained key has a value. -/
theorem exists_find?_of_contains {t : SessionTable α} {id : SessionId}
    (h : t.contains id = true) : ∃ a, t.find? id = some a := by
  rw [contains_eq_isSome] at h
  exact Option.isSome_iff_exists.mp h

/-- What a look-up finds stands in the table under that key. -/
theorem mem_entries_of_find? {t : SessionTable α} {id : SessionId} {a : α}
    (h : t.find? id = some a) : (id, a) ∈ t.entries := by
  obtain ⟨⟨key, value⟩, hfind, hvalue⟩ := Option.map_eq_some_iff.mp h
  have hkey : key = id := by simpa using List.find?_some hfind
  have hmem := List.mem_of_find?_eq_some hfind
  rw [hkey, show value = a from hvalue] at hmem
  exact hmem

/-- Where no key repeats, every entry is what a look-up of its key finds. -/
theorem Distinct.find?_eq_some {t : SessionTable α} (h : t.Distinct) {id : SessionId} {a : α}
    (hmem : (id, a) ∈ t.entries) : t.find? id = some a := by
  have hkey : t.contains id = true := by
    rw [contains_iff_mem_keys]
    exact List.mem_map.mpr ⟨(id, a), hmem, rfl⟩
  obtain ⟨b, hb⟩ := exists_find?_of_contains hkey
  have hpair : (id, b) = (id, a) :=
    List.inj_on_of_nodup_map h (mem_entries_of_find? hb) hmem rfl
  rw [hb, (Prod.mk.inj hpair).2]

/-- Changing entries without changing their keys changes what each look-up finds. -/
private theorem find?_map_entries (t : SessionTable α) (f : SessionId × α → SessionId × α)
    (hf : ∀ e, (f e).1 = e.1) (k : SessionId) :
    (⟨t.entries.map f⟩ : SessionTable α).find? k =
      (t.entries.find? fun e => e.1 = k).map fun e => (f e).2 := by
  have hkey : (fun e : SessionId × α => decide (e.1 = k)) ∘ f = fun e => decide (e.1 = k) := by
    funext e
    simp only [Function.comp_apply, hf]
  simp only [find?, List.find?_map, hkey, Option.map_map]
  rfl

/-- The look-up after a key has been given a value. -/
theorem find?_insert (t : SessionTable α) (id : SessionId) (a : α) (k : SessionId) :
    (t.insert id a).find? k = if k = id then some a else t.find? k := by
  unfold insert
  split
  next hin =>
    rw [find?_map_entries t _ (fun e => by split <;> simp_all) k]
    cases hfind : t.entries.find? fun e => e.1 = k with
    | none =>
        have hne : k ≠ id := by
          rintro rfl
          simp only [contains_eq_isSome, find?, hfind, Option.map_none, Option.isSome_none,
            Bool.false_eq_true] at hin
        simp [find?, hfind, hne]
    | some e =>
        have hkey : e.1 = k := by simpa using List.find?_some hfind
        by_cases hid : k = id <;> simp [find?, hfind, hkey, hid]
  next hout =>
    simp only [find?, List.find?_append]
    by_cases hid : k = id
    · subst hid
      have hnone : t.find? k = none := find?_eq_none_iff.mpr (by simpa using hout)
      simp [Option.map_eq_none_iff.mp hnone]
    · simp [hid, Ne.symm hid]

/-- The look-up after a key has been removed. -/
theorem find?_erase (t : SessionTable α) (id k : SessionId) :
    (t.erase id).find? k = if k = id then none else t.find? k := by
  simp only [find?, erase, List.find?_filter]
  by_cases hid : k = id
  · subst hid
    simp [List.find?_eq_none]
  · rw [if_neg hid]
    congr 2
    funext e
    by_cases he : e.1 = k <;> simp [he, hid]

/-- The look-up after the value of a key has been changed. -/
theorem find?_modify (t : SessionTable α) (id : SessionId) (f : α → α) (k : SessionId) :
    (t.modify id f).find? k = if k = id then (t.find? k).map f else t.find? k := by
  unfold modify
  rw [find?_map_entries t _ (fun e => by split <;> rfl) k]
  cases hfind : t.entries.find? fun e => e.1 = k with
  | none => simp [find?, hfind]
  | some e =>
      have hkey : e.1 = k := by simpa using List.find?_some hfind
      rw [find?, hfind]
      by_cases hid : k = id <;> simp [hkey, hid]

/-- The look-up after a list of keys has been removed. -/
theorem find?_foldl_erase (ids : List SessionId) (t : SessionTable α) (k : SessionId) :
    (ids.foldl (·.erase ·) t).find? k = if k ∈ ids then none else t.find? k := by
  induction ids generalizing t with
  | nil => simp
  | cons id ids ih =>
      rw [List.foldl_cons, ih, find?_erase]
      by_cases hid : k = id <;> simp [hid]

/-! ## Keys -/

theorem contains_insert (t : SessionTable α) (id : SessionId) (a : α) (k : SessionId) :
    (t.insert id a).contains k = (decide (k = id) || t.contains k) := by
  rw [contains_eq_isSome, contains_eq_isSome, find?_insert]
  by_cases hid : k = id <;> simp [hid]

theorem contains_erase (t : SessionTable α) (id k : SessionId) :
    (t.erase id).contains k = (decide (k ≠ id) && t.contains k) := by
  rw [contains_eq_isSome, contains_eq_isSome, find?_erase]
  by_cases hid : k = id <;> simp [hid]

theorem contains_modify (t : SessionTable α) (id : SessionId) (f : α → α) (k : SessionId) :
    (t.modify id f).contains k = t.contains k := by
  rw [contains_eq_isSome, contains_eq_isSome, find?_modify]
  by_cases hid : k = id <;> simp [hid]

theorem contains_foldl_erase (ids : List SessionId) (t : SessionTable α) (k : SessionId) :
    (ids.foldl (·.erase ·) t).contains k = (decide (k ∉ ids) && t.contains k) := by
  rw [contains_eq_isSome, contains_eq_isSome, find?_foldl_erase]
  by_cases hid : k ∈ ids <;> simp [hid]

theorem distinct_empty : (empty : SessionTable α).Distinct := List.nodup_nil

/-- Keys stay distinct when a key is given a value. -/
theorem Distinct.insert {t : SessionTable α} (h : t.Distinct) (id : SessionId) (a : α) :
    (t.insert id a).Distinct := by
  unfold Distinct
  rw [keys_insert]
  split
  next => exact h
  next hout =>
    have hnew : id ∉ t.keys := by rwa [contains_iff_mem_keys] at hout
    exact List.nodup_append'.mpr ⟨h, List.nodup_singleton id, by simpa using hnew⟩

/-- Keys stay distinct when a key is removed. -/
theorem Distinct.erase {t : SessionTable α} (h : t.Distinct) (id : SessionId) :
    (t.erase id).Distinct := by
  unfold Distinct
  rw [keys_erase]
  exact h.filter _

/-- Keys stay distinct when a value changes. -/
theorem Distinct.modify {t : SessionTable α} (h : t.Distinct) (id : SessionId) (f : α → α) :
    (t.modify id f).Distinct := by
  unfold Distinct
  rw [keys_modify]
  exact h

/-- Keys stay distinct when a list of keys is removed. -/
theorem Distinct.foldl_erase {t : SessionTable α} (h : t.Distinct) (ids : List SessionId) :
    (ids.foldl (·.erase ·) t).Distinct := by
  induction ids generalizing t with
  | nil => exact h
  | cons id ids ih => exact ih (h.erase id)

/-! ## Numbers of entries -/

theorem size_eq_length_keys (t : SessionTable α) : t.size = t.keys.length := by
  simp [size, keys]

/-- A new key adds one entry. -/
theorem size_insert_of_not_contains {t : SessionTable α} {id : SessionId}
    (h : t.contains id = false) (a : α) : (t.insert id a).size = t.size + 1 := by
  simp [size_eq_length_keys, keys_insert, h]

/-- Removing a key never adds entries. -/
theorem size_erase_le (t : SessionTable α) (id : SessionId) : (t.erase id).size ≤ t.size :=
  List.length_filter_le _ _

/-! ## Tables that list the same -/

/-- Keys may be removed in any order. -/
theorem erase_comm (t : SessionTable α) (a b : SessionId) :
    (t.erase a).erase b = (t.erase b).erase a := by
  simp only [erase, List.filter_comm]

/-- Removing a key that is not there changes nothing. -/
theorem erase_of_not_contains {t : SessionTable α} {id : SessionId}
    (h : t.contains id = false) : t.erase id = t := by
  have hkept : ∀ e ∈ t.entries, decide (e.1 ≠ id) = true := by simpa [contains] using h
  rw [erase, List.filter_eq_self.mpr hkept]

/-- Removing a key that has just been put in gives the table back. -/
theorem erase_insert {t : SessionTable α} {id : SessionId} (h : t.contains id = false) (a : α) :
    (t.insert id a).erase id = t := by
  have hkept : t.entries.filter (fun e => e.1 ≠ id) = t.entries :=
    congrArg entries (erase_of_not_contains h)
  simp only [insert, h, Bool.false_eq_true, if_false, erase, List.filter_append, hkept]
  simp

/-- The order of the entries does not matter for what is contained. -/
theorem contains_of_perm {t u : SessionTable α} (h : t.entries.Perm u.entries) (id : SessionId) :
    t.contains id = u.contains id := by
  rw [Bool.eq_iff_iff, contains_iff_mem_keys, contains_iff_mem_keys]
  exact (h.map _).mem_iff

theorem insert_perm {t u : SessionTable α} (h : t.entries.Perm u.entries) (id : SessionId)
    (a : α) : (t.insert id a).entries.Perm (u.insert id a).entries := by
  unfold insert
  rw [contains_of_perm h id]
  split
  · exact h.map _
  · exact h.append_right _

theorem erase_perm {t u : SessionTable α} (h : t.entries.Perm u.entries) (id : SessionId) :
    (t.erase id).entries.Perm (u.erase id).entries := h.filter _

/-! ## Tables of sessions -/

/-- Every session stands under its own identifier. -/
def Keyed (t : SessionTable Session) : Prop := ∀ id s, t.find? id = some s → s.id = id

theorem keyed_empty : (empty : SessionTable Session).Keyed := fun _ _ h => nomatch h

/-- A session put under its identifier leaves a table of sessions keyed. -/
theorem Keyed.insert {t : SessionTable Session} (h : t.Keyed) (s : Session) :
    (t.insert s.id s).Keyed := by
  intro id a ha
  rw [find?_insert] at ha
  split at ha
  next hid =>
    cases ha
    exact hid.symm
  next => exact h id a ha

theorem Keyed.erase {t : SessionTable Session} (h : t.Keyed) (id : SessionId) :
    (t.erase id).Keyed := by
  intro k a ha
  rw [find?_erase] at ha
  split at ha
  next => cases ha
  next => exact h k a ha

theorem Keyed.foldl_erase {t : SessionTable Session} (h : t.Keyed) (ids : List SessionId) :
    (ids.foldl (·.erase ·) t).Keyed := by
  induction ids generalizing t with
  | nil => exact h
  | cons id ids ih => exact ih (h.erase id)

/-- A sign of life does not move a session to another identifier. -/
theorem Keyed.modify_prolong {t : SessionTable Session} (h : t.Keyed) (id : SessionId)
    (now : Moment) : (t.modify id (·.prolong now)).Keyed := by
  intro k a ha
  rw [find?_modify] at ha
  split at ha
  next =>
    obtain ⟨s, hs, rfl⟩ := Option.map_eq_some_iff.mp ha
    exact h k s hs
  next => exact h k a ha

end SupportDesk.SessionTable
