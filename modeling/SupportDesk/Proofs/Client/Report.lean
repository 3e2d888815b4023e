/-
# What the client reads in the answers

The client has readers of its own for the answers of a server, which know fewer fields than the
server writes and expect numbers of a fixed width.  The server writes the members of an object by
increasing keys, in another order than that of the client's fields.  Neither matters: fields are
found by their names, and a member that the client does not know is passed over.

A status report whose figures fit 64 bits is read without loss.
-/

import SupportDesk.Client.Report
import SupportDesk.Proofs.Json.Canonical
import SupportDesk.Proofs.Json.Messages
import SupportDesk.Proofs.Pool.Figures

namespace SupportDesk

/-! ## What a report tells -/

/-- The client's report on an agent says of it what the server's does. -/
structure AgentReport.Tells (r : AgentReport) (a : AgentSnapshot) : Prop where
  id : r.id = a.id
  kind : r.kind = a.kind
  level : r.level = a.level.name
  workingHours : r.workingHours = a.workingHours
  available : r.available = a.available
  queueSize : r.queueSize.toNat = a.queueSize
  maxSlots : r.maxSlots.toNat = a.maxSlots

/-- The client's report on a pool says of it what the server's does, and of its agents in their
order. -/
structure PoolReport.Tells (r : PoolReport) (s : Pool.Status) : Prop where
  capacity : r.capacity.toNat = s.capacity
  maximumQueueSize : r.maximumQueueSize.toNat = s.maximumQueueSize
  queueSize : r.queueSize.toNat = s.queueSize
  activeSessions : r.activeSessions.toNat = s.activeSessions
  agents : List.Forall₂ AgentReport.Tells r.agents s.agents

/-- What the client makes of an agent's line. -/
def AgentReport.ofSnapshot (a : AgentSnapshot) : AgentReport :=
  ⟨a.id, a.kind, a.level.name, a.workingHours, a.available, a.queueSize.toUInt64,
    a.maxSlots.toUInt64⟩

/-- What the client makes of a status report. -/
def PoolReport.ofStatus (s : Pool.Status) : PoolReport :=
  ⟨s.capacity.toUInt64, s.maximumQueueSize.toUInt64, s.queueSize.toUInt64,
    s.activeSessions.toUInt64, s.agents.map .ofSnapshot⟩

theorem AgentSnapshot.FitsWords.tells {a : AgentSnapshot} (h : a.FitsWords) :
    (AgentReport.ofSnapshot a).Tells a :=
  ⟨rfl, rfl, rfl, rfl, rfl, UInt64.toNat_ofNat_of_lt' h.queueSize,
    UInt64.toNat_ofNat_of_lt' h.maxSlots⟩

theorem Pool.Status.FitsWords.tells {s : Pool.Status} (h : s.FitsWords) :
    (PoolReport.ofStatus s).Tells s := by
  refine ⟨UInt64.toNat_ofNat_of_lt' h.capacity, UInt64.toNat_ofNat_of_lt' h.maximumQueueSize,
    UInt64.toNat_ofNat_of_lt' h.queueSize, UInt64.toNat_ofNat_of_lt' h.activeSessions, ?_⟩
  rw [PoolReport.ofStatus, List.forall₂_map_left_iff, List.forall₂_same]
  exact fun a ha => (h.agents a ha).tells

namespace Json.Reader

variable {α β : Type} {r : Reader α} {v : Json} {a : α}

/-! ## Values -/

theorem ReadsAs.map (h : ReadsAs r v a) (f : α → β) : ReadsAs (f <$> r) v (f a) :=
  ⟨h.readable, fun rest hrest => (h.reads rest hrest).map⟩

theorem readsAs_text (s : String) : ReadsAs text (.string s) s :=
  ⟨True.intro, fun rest _ => reads_text s rest⟩

theorem readsAs_boolean (b : Bool) : ReadsAs boolean (.bool b) b := by
  refine ⟨True.intro, fun rest _ => ?_⟩
  cases b with
  | true =>
      refine (reads_peekToken (by decide)).bind ?_
      exact (reads_expectChars ascii_true rest).bind reads_pure
  | false =>
      refine (reads_peekToken (by decide)).bind ?_
      exact (reads_expectChars ascii_false rest).bind reads_pure

/-- A whole number is read where it may be as large as it is. -/
theorem readsAs_natural {n most : Nat} (hn : n ≤ most) (hmost : most ≤ maxNatural) :
    ReadsAs (natural most) (.nat n) n := by
  have hwhole : (JsonNumber.natural n).IsWhole := hn.trans hmost
  refine ⟨hwhole, fun rest hrest => ?_⟩
  obtain ⟨c, more, heq, hc⟩ := exists_numberChars_eq_cons hwhole
  have hnumber := reads_readNumber hwhole hrest
  rw [show (Json.nat n).chars = numberChars (.natural n) from rfl, heq, List.cons_append] at *
  refine (reads_peekToken (beginsToken_of_begins_number hc)).bind ?_
  rw [if_pos hc]
  refine hnumber.bind ?_
  simp only [if_pos hn]
  exact reads_pure

theorem readsAs_word {n : Nat} (hn : n < 2 ^ 64) : ReadsAs word (.nat n) n.toUInt64 :=
  (readsAs_natural (Nat.le_of_lt_succ hn) (le_refl maxNatural)).map Nat.toUInt64

/-- A truth value is passed over. -/
theorem readsAs_skipAny_bool (b : Bool) : ReadsAs skipAny (.bool b) () := by
  refine ⟨True.intro, fun rest _ => reads_get.bind ?_⟩
  cases b with
  | true => exact (reads_peekToken (by decide)).bind (reads_expectChars ascii_true rest)
  | false => exact (reads_peekToken (by decide)).bind (reads_expectChars ascii_false rest)

/-- A list is read if its items are. -/
theorem readsAs_listOf {items : List Json} {read : List α}
    (h : List.Forall₂ (ReadsAs r) items read) : ReadsAs (listOf r) (.array items) read := by
  refine ⟨True.intro, fun rest _ => ?_⟩
  refine (reads_peekToken (by decide)).bind ?_
  exact (reads_advance (by decide)).bind (reads_readItems h)

/-- A field is read if its value is. -/
theorem readsAs_field {σ : Type} {name : String} {put : σ → Option α → σ} (h : ReadsAs r v a)
    (acc : σ) : ReadsAs ((field name r put).read acc) v (put acc (some a)) :=
  h.map fun a => put acc (some a)

/-! ## Reports -/

theorem readsAs_agentReport {a : AgentSnapshot} (h : a.FitsWords) :
    ReadsAs agentReport a.json.canonical (.ofSnapshot a) := by
  rw [a.canonical_json]
  have hid : ReadsAs (do return (← natural 0xffffffff).toUInt32) (.nat a.id.toNat) a.id := by
    have hfits : a.id.toNat ≤ 0xffffffff := Nat.le_of_lt_succ a.id.toNat_lt
    have hread := (readsAs_natural hfits (by decide)).map Nat.toUInt32
    rwa [show a.id.toNat.toUInt32 = a.id from UInt32.ofNat_toNat] at hread
  have hgathers : Gathers agentFields ⟨none, none, none, none, none, none, none⟩
      [("available", .bool a.available), ("id", .nat a.id.toNat), ("kind", .string a.kind),
        ("level", .string a.level.name), ("max_slots", .nat a.maxSlots),
        ("queue_size", .nat a.queueSize), ("working", .bool a.working),
        ("working_hours", .string a.workingHours)]
      ⟨some a.id, some a.kind, some a.level.name, some a.workingHours, some a.available,
        some a.queueSize.toUInt64, some a.maxSlots.toUInt64⟩ :=
    .field (i := 4) rfl (readsAs_field (readsAs_boolean a.available) _)
      (.field (i := 0) rfl (readsAs_field hid _)
        (.field (i := 1) rfl (readsAs_field (readsAs_text a.kind) _)
          (.field (i := 2) rfl (readsAs_field (readsAs_text a.level.name) _)
            (.field (i := 6) rfl (readsAs_field (readsAs_word h.maxSlots) _)
              (.field (i := 5) rfl (readsAs_field (readsAs_word h.queueSize) _)
                (.other (by decide) (readsAs_skipAny_bool a.working)
                  (.field (i := 3) rfl (readsAs_field (readsAs_text a.workingHours) _)
                    .done)))))))
  refine ⟨show "available" ≠ embeddedKey by decide, fun rest _ => ?_⟩
  exact (reads_record_of_gathers hgathers (by decide) (by simp) rest).bind reads_pure

theorem readsAs_poolReport {s : Pool.Status} (h : s.FitsWords) :
    ReadsAs poolReport s.json.canonical (.ofStatus s) := by
  rw [s.canonical_json]
  have hagents : List.Forall₂ (ReadsAs agentReport) (s.agents.map fun a => a.json.canonical)
      (s.agents.map .ofSnapshot) := by
    rw [List.forall₂_map_left_iff, List.forall₂_map_right_iff, List.forall₂_same]
    exact fun a ha => readsAs_agentReport (h.agents a ha)
  have hgathers : Gathers poolFields ⟨none, none, none, none, none⟩
      [("active_sessions", .nat s.activeSessions),
        ("agents", .array (s.agents.map fun a => a.json.canonical)), ("capacity", .nat s.capacity),
        ("maximum_queue_size", .nat s.maximumQueueSize), ("queue_size", .nat s.queueSize)]
      ⟨some s.capacity.toUInt64, some s.maximumQueueSize.toUInt64, some s.queueSize.toUInt64,
        some s.activeSessions.toUInt64, some (s.agents.map .ofSnapshot)⟩ :=
    .field (i := 3) rfl (readsAs_field (readsAs_word h.activeSessions) _)
      (.field (i := 4) rfl (readsAs_field (readsAs_listOf hagents) _)
        (.field (i := 0) rfl (readsAs_field (readsAs_word h.capacity) _)
          (.field (i := 1) rfl (readsAs_field (readsAs_word h.maximumQueueSize) _)
            (.field (i := 2) rfl (readsAs_field (readsAs_word h.queueSize) _) .done))))
  refine ⟨show "active_sessions" ≠ embeddedKey by decide, fun rest _ => ?_⟩
  exact (reads_record_of_gathers hgathers (by decide) (by simp) rest).bind reads_pure

/-! ## Codes -/

/-- Whether a field may be absent at the end of an array does not matter in an object. -/
theorem Gathers.map_mayEndEarly {σ : Type} {all : List (Field σ)} {acc last : σ}
    {members : List (String × Json)} (h : Gathers all acc members last) (early : Bool) :
    Gathers (all.map fun f => { f with mayEndEarly := early }) acc members last := by
  induction h with
  | done => exact .done
  | @field acc next last i f v members hf hv _ ih =>
      have hf' : (all.map fun f => ({ f with mayEndEarly := early } : Field σ))[i]? =
          some { f with mayEndEarly := early } := by rw [List.getElem?_map, hf, Option.map_some]
      exact .field (f := { f with mayEndEarly := early }) hf' hv ih
  | other hk hv _ ih =>
      refine .other ?_ hv ih
      rwa [List.map_map]

/-- The client reads what the server makes of a creation. -/
theorem reads_clientCreateAnswer (a : CreateAnswer) (rest : List Char) :
    Reads clientCreateAnswer (a.json.chars ++ rest) a rest := by
  obtain ⟨values, last, hjson, hfills, hcode, hid⟩ := exists_fills_createAnswer a
  have hgathers := (hfills.gathers fun _ hf => hf).map_mayEndEarly false
  have hkeys : ((membersOf createFields values).map (·.1)).Nodup :=
    List.Nodup.sublist (keys_membersOf createFields values) (by decide)
  rw [hjson]
  refine (reads_record_of_gathers hgathers (by decide) hkeys rest).bind ?_
  rw [hcode, hid]
  exact reads_pure

end Json.Reader

end SupportDesk
