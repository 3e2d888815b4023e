/-
# Canonical values

A value is as a desk keeps it when its whole numbers fit their 64 bits and the keys of its objects
increase.  Putting a value in canonical form makes its keys increase, and leaves a value whose
keys increase as it is.  Messages are written in canonical form, so their members stand in the
order of their keys.
-/

import Mathlib.Data.String.Basic
import SupportDesk.Proofs.Json.Values
import SupportDesk.Wire.Message

namespace SupportDesk

/-- A number that is real or fits its 64 bits. -/
def JsonNumber.IsInRange (n : JsonNumber) : Prop := n.IsWhole ∨ ∃ x, n = .real x

namespace Json

/-- A value whose own number, if it is one, fits its 64 bits. -/
def IsInRange : Json → Prop
  | number n => n.IsInRange
  | _ => True

/-- A value whose own keys, if it has any, increase. -/
def IsSorted : Json → Prop
  | object members => (members.map (·.1)).Pairwise (· < ·)
  | _ => True

/-- A value as a desk keeps it. -/
def IsKept (v : Json) : Prop := v.Everywhere fun w => w.IsInRange ∧ w.IsSorted

variable {P : Json → Prop} {k : String} {v : Json} {items : List Json}
  {members seen : List (String × Json)}

theorem canonicalItems_eq_map (items : List Json) : canonicalItems items = items.map canonical := by
  induction items with
  | nil => rfl
  | cons v items ih => rw [canonicalItems, ih, List.map_cons]

/-! ## Values that are canonical -/

/-- A member is put between the smaller keys and the greater ones. -/
theorem insertMember_append (smaller greater : List (String × Json))
    (hsmaller : ∀ m ∈ smaller, m.1 < k) (hgreater : ∀ m ∈ greater, k < m.1) :
    insertMember k v (smaller ++ greater) = smaller ++ (k, v) :: greater := by
  induction smaller with
  | nil =>
      cases greater with
      | nil => rfl
      | cons m greater =>
          rw [List.nil_append, List.nil_append, insertMember,
            if_pos (hgreater m List.mem_cons_self)]
  | cons m smaller ih =>
      obtain ⟨key, value⟩ := m
      have hlt : key < k := hsmaller _ List.mem_cons_self
      rw [List.cons_append, insertMember, if_neg (lt_asymm hlt), if_neg hlt.ne',
        ih fun m hm => hsmaller m (List.mem_cons_of_mem _ hm), List.cons_append]

/-- Members with increasing keys after all those seen stay in their places. -/
theorem canonicalMembers_of_sorted (hsorted : (members.map (·.1)).Pairwise (· < ·))
    (hseen : ∀ m ∈ seen, ∀ n ∈ members, m.1 < n.1) (hvalues : ∀ m ∈ members, m.2.canonical = m.2) :
    canonicalMembers members seen = seen ++ members := by
  induction members generalizing seen with
  | nil => rw [canonicalMembers, List.append_nil]
  | cons m members ih =>
      obtain ⟨k, v⟩ := m
      obtain ⟨hfirst, hrest⟩ := List.pairwise_cons.mp hsorted
      have hk : ∀ m ∈ seen, m.1 < k := fun m hm => hseen m hm _ List.mem_cons_self
      have hput : insertMember k v seen = seen ++ [(k, v)] := by
        simpa only [List.append_nil] using insertMember_append seen [] hk nofun
      rw [canonicalMembers, hvalues _ List.mem_cons_self, hput, ih hrest]
      · rw [List.append_assoc, List.singleton_append]
      · intro m hm n hn
        rcases List.mem_append.mp hm with hm | hm
        · exact hseen m hm n (List.mem_cons_of_mem _ hn)
        · rw [List.mem_singleton.mp hm]
          exact hfirst n.1 (List.mem_map_of_mem hn)
      · exact fun m hm => hvalues m (List.mem_cons_of_mem _ hm)

/-- A value whose keys increase everywhere is its own canonical form. -/
theorem canonical_of_sorted (h : v.Everywhere IsSorted) : v.canonical = v := by
  induction h with
  | @scalar v hscalar h =>
      cases v with
      | array items => exact hscalar.elim
      | object members => exact hscalar.elim
      | null | bool _ | number _ | string _ => rfl
  | array _ _ ih =>
      rw [canonical, canonicalItems_eq_map, List.map_congr_left ih, List.map_id']
  | object h _ ih =>
      rw [canonical, canonicalMembers_of_sorted h (by simp) ih, List.nil_append]

/-! ## Canonical forms -/

theorem mem_insertMember {m : String × Json} (hm : m ∈ insertMember k v members) :
    m = (k, v) ∨ m ∈ members := by
  induction members with
  | nil => exact .inl (List.mem_singleton.mp hm)
  | cons n members ih =>
      obtain ⟨key, value⟩ := n
      rw [insertMember] at hm
      split_ifs at hm with hlt heq
      · exact List.mem_cons.mp hm
      · exact (List.mem_cons.mp hm).imp_right (List.mem_cons_of_mem _)
      · rcases List.mem_cons.mp hm with rfl | hm
        · exact .inr List.mem_cons_self
        · exact (ih hm).imp_right (List.mem_cons_of_mem _)

/-- A member is put in where its key belongs. -/
theorem pairwise_insertMember (h : (members.map (·.1)).Pairwise (· < ·)) :
    ((insertMember k v members).map (·.1)).Pairwise (· < ·) := by
  induction members with
  | nil => exact List.pairwise_singleton _ _
  | cons m members ih =>
      obtain ⟨key, value⟩ := m
      obtain ⟨hfirst, hrest⟩ := List.pairwise_cons.mp h
      rw [insertMember]
      split_ifs with hlt heq
      · refine List.pairwise_cons.mpr ⟨?_, h⟩
        intro other hother
        rcases List.mem_cons.mp hother with rfl | hother
        · exact hlt
        · exact hlt.trans (hfirst other hother)
      · rw [heq]
        exact h
      · refine List.pairwise_cons.mpr ⟨?_, ih hrest⟩
        intro other hother
        obtain ⟨m, hm, rfl⟩ := List.mem_map.mp hother
        rcases mem_insertMember hm with rfl | hm
        · exact (lt_or_gt_of_ne fun h => heq h.symm).resolve_right hlt
        · exact hfirst m.1 (List.mem_map_of_mem hm)

/-- The members of a canonical form have increasing keys, and their values are canonical forms or
were seen before. -/
theorem canonicalMembers_spec (hseen : (seen.map (·.1)).Pairwise (· < ·)) :
    ((canonicalMembers members seen).map (·.1)).Pairwise (· < ·) ∧
      ∀ m ∈ canonicalMembers members seen, m ∈ seen ∨ ∃ n ∈ members, m.2 = n.2.canonical := by
  induction members generalizing seen with
  | nil => exact ⟨hseen, fun m hm => .inl hm⟩
  | cons n members ih =>
      obtain ⟨k, v⟩ := n
      obtain ⟨hsorted, hvalues⟩ := ih (pairwise_insertMember (v := v.canonical) (k := k) hseen)
      refine ⟨hsorted, fun m hm => ?_⟩
      rcases hvalues m hm with hm | ⟨n, hn, heq⟩
      · rcases mem_insertMember hm with rfl | hm
        · exact .inr ⟨(k, v), List.mem_cons_self, rfl⟩
        · exact .inl hm
      · exact .inr ⟨n, List.mem_cons_of_mem _ hn, heq⟩

/-- The canonical form of a value whose numbers fit is as a desk keeps it. -/
theorem isKept_canonical (h : v.Everywhere IsInRange) : v.canonical.IsKept := by
  induction h with
  | @scalar v hscalar h =>
      cases v with
      | array items => exact hscalar.elim
      | object members => exact hscalar.elim
      | null | bool _ | number _ | string _ => exact .scalar hscalar ⟨h, True.intro⟩
  | array _ _ ih =>
      refine .array ⟨True.intro, True.intro⟩ ?_
      rw [canonicalItems_eq_map]
      intro w hw
      obtain ⟨v, hv, rfl⟩ := List.mem_map.mp hw
      exact ih v hv
  | object _ _ ih =>
      have hempty : (([] : List (String × Json)).map (·.1)).Pairwise (· < ·) := List.Pairwise.nil
      obtain ⟨hsorted, hvalues⟩ := canonicalMembers_spec hempty
      refine .object ⟨True.intro, hsorted⟩ fun m hm => ?_
      obtain ⟨n, hn, heq⟩ := (hvalues m hm).resolve_left (List.not_mem_nil)
      rw [heq]
      exact ih n hn

end Json

/-! ## Canonical forms of messages -/

theorem AgentSnapshot.canonical_json (a : AgentSnapshot) : a.json.canonical =
    .object [("available", .bool a.available), ("id", .nat a.id.toNat), ("kind", .string a.kind),
      ("level", .string a.level.name), ("max_slots", .nat a.maxSlots),
      ("queue_size", .nat a.queueSize), ("working", .bool a.working),
      ("working_hours", .string a.workingHours)] := rfl

theorem Pool.Status.canonical_json (s : Pool.Status) : s.json.canonical =
    .object [("active_sessions", .nat s.activeSessions),
      ("agents", .array (s.agents.map fun a => a.json.canonical)), ("capacity", .nat s.capacity),
      ("maximum_queue_size", .nat s.maximumQueueSize), ("queue_size", .nat s.queueSize)] := by
  have hitems : s.agents.map (fun a => a.json.canonical) =
      Json.canonicalItems (s.agents.map AgentSnapshot.json) := by
    rw [Json.canonicalItems_eq_map, List.map_map]
    rfl
  rw [hitems]
  rfl

theorem CreateAnswer.canonical_json (a : CreateAnswer) : a.json.canonical = a.json := by
  obtain ⟨code, sessionId⟩ := a
  cases sessionId <;> rfl

theorem ActionAnswer.canonical_json (a : ActionAnswer) : a.json.canonical = a.json := rfl

end SupportDesk
