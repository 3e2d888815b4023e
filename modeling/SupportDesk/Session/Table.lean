/-
# Tables keyed by session

A finite table from session identifiers to values, kept as its entries in the order in
which the keys were first put in.  Each key stands at most once in a table built by
`insert`; `erase` removes a key wherever it stands.
-/

import SupportDesk.Session.Id

namespace SupportDesk

/-- A table from session identifiers to values. -/
structure SessionTable (α : Type) where
  entries : List (SessionId × α)
deriving DecidableEq, Repr

namespace SessionTable

variable {α : Type}

/-- The table without entries. -/
def empty : SessionTable α := ⟨[]⟩

instance : Inhabited (SessionTable α) := ⟨empty⟩

/-- The number of entries. -/
def size (t : SessionTable α) : Nat := t.entries.length

/-- The keys, in order. -/
def keys (t : SessionTable α) : List SessionId := t.entries.map (·.1)

/-- The values, in order. -/
def values (t : SessionTable α) : List α := t.entries.map (·.2)

/-- The value of a key. -/
def find? (t : SessionTable α) (id : SessionId) : Option α :=
  (t.entries.find? fun e => e.1 = id).map (·.2)

/-- Whether a key has a value. -/
def contains (t : SessionTable α) (id : SessionId) : Bool := t.entries.any fun e => e.1 = id

/-- Removes a key. -/
def erase (t : SessionTable α) (id : SessionId) : SessionTable α :=
  ⟨t.entries.filter fun e => e.1 ≠ id⟩

/-- Gives a key a value.  A key that has one keeps its place. -/
def insert (t : SessionTable α) (id : SessionId) (a : α) : SessionTable α :=
  if t.contains id then ⟨t.entries.map fun e => if e.1 = id then (id, a) else e⟩
  else ⟨t.entries ++ [(id, a)]⟩

/-- Changes the value of a key, if it has one. -/
def modify (t : SessionTable α) (id : SessionId) (f : α → α) : SessionTable α :=
  ⟨t.entries.map fun e => if e.1 = id then (e.1, f e.2) else e⟩

@[simp] theorem keys_empty : (empty : SessionTable α).keys = [] := rfl

@[simp] theorem keys_modify (t : SessionTable α) (id : SessionId) (f : α → α) :
    (t.modify id f).keys = t.keys := by
  simp only [keys, modify, List.map_map]
  apply List.map_congr_left
  intro e _
  by_cases h : e.1 = id <;> simp [h]

@[simp] theorem keys_erase (t : SessionTable α) (id : SessionId) :
    (t.erase id).keys = t.keys.filter (· ≠ id) := by
  simp only [keys, erase, List.filter_map]
  rfl

/-- A key is contained exactly when it is listed. -/
theorem contains_iff_mem_keys (t : SessionTable α) (id : SessionId) :
    t.contains id = true ↔ id ∈ t.keys := by
  simp [contains, keys]

/-- A new key is listed last; an old one stays where it is. -/
theorem keys_insert (t : SessionTable α) (id : SessionId) (a : α) :
    (t.insert id a).keys = if t.contains id then t.keys else t.keys ++ [id] := by
  unfold insert
  split
  · simp only [keys, List.map_map]
    apply List.map_congr_left
    intro e _
    by_cases h : e.1 = id <;> simp [h]
  · simp [keys]

end SessionTable

end SupportDesk
