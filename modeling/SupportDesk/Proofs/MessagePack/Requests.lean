/-
# Requests are read back from bytes

A request is written as a map of its action and, if it has one, its session.  The names are texts;
the session is the sixteen bytes of its identifier.  Whatever follows the map is left alone.
-/

import SupportDesk.Proofs.MessagePack.Reads

namespace SupportDesk

/-- The bytes of an identifier are read back. -/
theorem SessionId.ofBytes?_bigEndian (id : SessionId) :
    ofBytes? (MessagePack.bigEndian 16 id.value) = some id := by
  have hlt : id.value < 256 ^ 16 := id.value_lt.trans_eq (by decide)
  have hvalue := Packed.Reader.bigEndian_bigEndian hlt
  rw [Packed.Reader.bigEndian] at hvalue
  rw [ofBytes?, if_pos (Packed.Reader.length_bigEndian 16 _), hvalue, ofNat]
  simp only [Nat.mod_eq_of_lt id.value_lt]

namespace Packed

open Reader

variable {bytes rest : List UInt8} {entries : List (Packed × Packed)} {n depth : Nat}

/-! ## Maps -/

/-- The entries of a map are read back one after the other. -/
inductive Entries (depth : Nat) : List UInt8 → List (Packed × Packed) → Prop
  | nil : Entries depth [] []
  | cons {key item bytes : List UInt8} {k v : Packed} {entries : List (Packed × Packed)}
      (hkey : ∀ rest, Reads (value depth) (key ++ rest) k rest)
      (hitem : ∀ rest, Reads (value depth) (item ++ rest) v rest)
      (hrest : Entries depth bytes entries) :
      Entries depth (key ++ (item ++ bytes)) ((k, v) :: entries)

theorem Entries.reads_many (h : Entries depth bytes entries) (rest : List UInt8) :
    Reads (many (do return (← value depth, ← value depth)) entries.length) (bytes ++ rest) entries
      rest := by
  induction h with
  | nil => exact reads_pure
  | cons hkey hitem _ ih =>
      rw [List.append_assoc, List.append_assoc]
      refine Reads.bind ?_ (Reads.bind ih reads_pure)
      exact (hkey _).bind ((hitem _).bind reads_pure)

theorem lead_shortMap (h : n < 0x10) :
    ∃ size, lead (0x80 + n).toUInt8.toNat = .container .map size ∧
      ∀ rest, Reads size rest n rest := by
  have htoNat : (0x80 + n).toUInt8.toNat = 0x80 + n := Nat.mod_eq_of_lt (by omega)
  refine ⟨pure n, ?_, fun _ => reads_pure⟩
  unfold lead
  rw [htoNat, if_neg (by omega), if_pos (by omega), Nat.add_sub_cancel_left]

/-- A short map is read back if its entries are. -/
theorem reads_value_shortMap (h : Entries (depth + 1) bytes entries)
    (hlength : entries.length < 0x10) (rest : List UInt8) :
    Reads (value (depth + 2)) (MessagePack.mapStart entries.length ++ (bytes ++ rest))
      (.map entries) rest := by
  obtain ⟨size, hlead, hsize⟩ := lead_shortMap hlength
  rw [MessagePack.mapStart, if_pos hlength]
  refine reads_byte.bind ?_
  rw [hlead]
  exact (hsize _).bind ((h.reads_many rest).bind reads_pure)

/-! ## Requests -/

theorem kind?_name (kind : Request.Kind) : kind? (.text kind.name) = some kind := by
  cases kind <;> rfl

theorem reads_kindName (kind : Request.Kind) (rest : List UInt8) :
    Reads (value (depth + 1)) (MessagePack.text kind.name ++ rest) (.text kind.name) rest :=
  reads_value_text kind.name (by cases kind <;> decide) rest

/-- The entry of an action in front of the others. -/
theorem Entries.action (kind : Request.Kind) (h : Entries (depth + 1) bytes entries) :
    Entries (depth + 1) (MessagePack.text "action" ++ (MessagePack.text kind.name ++ bytes))
      ((.text "action", .text kind.name) :: entries) :=
  .cons (reads_value_text _ (by decide)) (reads_kindName kind) h

/-- The entry of a session. -/
theorem entries_session (id : SessionId) :
    Entries (depth + 1)
      (MessagePack.text Atom.sessionKey ++ (MessagePack.sessionId id ++ []))
      [(.text Atom.sessionKey, .bytes (MessagePack.bigEndian 16 id.value))] :=
  .cons (reads_value_text _ (by decide))
    (reads_value_binary _ (by rw [length_bigEndian]; decide)) .nil

/-- A map that begins with an action is the request of the action with what stands beside it. -/
theorem ofBytes?_of_entries {kind : Request.Kind} {r : Request} {fields : List (Atom × Atom)}
    (h : Entries (depthLimit - 1) bytes entries) (hlength : entries.length + 1 < 0x10)
    (hfields : taggedEntries (some kind) entries = some (kind, fields))
    (hr : Request.ofPayload kind (.members fields) = .ok r) (rest : List UInt8) :
    Request.ofBytes? (MessagePack.mapStart (entries.length + 1) ++
      ((MessagePack.text "action" ++ (MessagePack.text kind.name ++ bytes)) ++ rest)) =
      some r := by
  have hmap := reads_value_shortMap (h.action kind) hlength rest
  have hparse : parse? (MessagePack.mapStart (entries.length + 1) ++
      ((MessagePack.text "action" ++ (MessagePack.text kind.name ++ bytes)) ++ rest)) =
      some (.map ((.text "action", .text kind.name) :: entries)) :=
    congrArg (Option.map Prod.fst) hmap
  have hkey : isActionKey (.text "action") = true := rfl
  have htagged : taggedEntries none ((.text "action", .text kind.name) :: entries) =
      some (kind, fields) := by
    simp [taggedEntries, hkey, kind?_name, hfields]
  rw [Request.ofBytes?, hparse, Option.bind_some, request?, htagged]
  simp [hr, Except.toOption]

end Packed

/-- A request is read back from its bytes, whatever follows them. -/
theorem Request.ofBytes?_request (r : Request) (rest : List UInt8) :
    ofBytes? (MessagePack.request r ++ rest) = some r := by
  have hbare (hr : ofPayload r.kind (.members []) = .ok r) :=
    Packed.ofBytes?_of_entries .nil (by decide) rfl hr rest
  have hsession (id : SessionId) (hr : ofPayload r.kind (.members [(.text Atom.sessionKey,
      .bytes (MessagePack.bigEndian 16 id.value))]) = .ok r) :=
    Packed.ofBytes?_of_entries (Packed.entries_session id) (show 2 < 0x10 by decide) rfl hr rest
  have hid (id : SessionId) : Payload.session? (.members [(.text Atom.sessionKey,
      .bytes (MessagePack.bigEndian 16 id.value))]) = .ok id := by
    simp only [Payload.session?, Payload.sessionOfMembers, Atom.namesSession, Atom.session?,
      id.ofBytes?_bigEndian]
    rfl
  simp only [List.append_assoc, List.append_nil] at hsession hbare
  cases r with
  | ping | health | createSession | status =>
      simp only [MessagePack.request, sessionId?, List.append_assoc]
      exact hbare rfl
  | prolongSession id | destroySession id =>
      simp only [MessagePack.request, sessionId?, List.append_assoc]
      refine hsession id ?_
      simp only [ofPayload, kind, Kind.complete, hid]
      rfl

end SupportDesk
