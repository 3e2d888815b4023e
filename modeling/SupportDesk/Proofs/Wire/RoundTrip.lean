/-
# Messages survive their formats

Requests are read back from text and from bytes.  Answers and sessions are read back from text, and
so are replies whose data is portable, with null data read as no data.  A text in any of the shapes
that a reader takes settles after one round: what is written for the message that was read is read
as the same message, and is written for it again.

Data beyond a depth of 126 does not survive, however plain it is.
-/

import SupportDesk.Proofs.Json.Messages
import SupportDesk.Proofs.MessagePack.Requests

namespace SupportDesk

namespace Json

open Reader

variable {α : Type} {reader : Reader α} {write : α → Json} {P : Json → Prop}

/-- The text that is written for the message that a text is read as. -/
def rewritten (reader : Reader α) (write : α → Json) (text : String) : Except DecodeError String :=
  (readWhole reader text).map fun a => (write a).text

/-- A type of messages that are read back from their text, and whose texts settle after one
round. -/
structure RoundTrips (reader : Reader α) (write : α → Json) : Prop where
  readWhole_text (a : α) : readWhole reader (write a).text = .ok a
  settles {text again : String} (h : rewritten reader write text = .ok again) :
    readWhole reader again = readWhole reader text ∧ rewritten reader write again = .ok again

/-- The message that a text is read as when the text is rewritten. -/
theorem exists_of_rewritten {text again : String} (h : rewritten reader write text = .ok again) :
    ∃ a, readWhole reader text = .ok a ∧ (write a).text = again := by
  rw [rewritten] at h
  cases hread : readWhole reader text with
  | error e =>
      rw [hread] at h
      cases h
  | ok a =>
      rw [hread] at h
      exact ⟨a, rfl, Except.ok.inj h⟩

/-- Texts settle where every message is read back. -/
theorem RoundTrips.of_reads (h : ∀ a, Reader.Reads reader (write a).chars a []) :
    RoundTrips reader write := by
  have hback (a : α) : readWhole reader (write a).text = .ok a := readWhole_of_reads (h a)
  refine ⟨hback, fun hrewritten => ?_⟩
  obtain ⟨a, hread, rfl⟩ := exists_of_rewritten hrewritten
  rw [rewritten, hback, hread]
  exact ⟨rfl, rfl⟩

end Json

open Json Json.Reader

theorem Reply.text_withoutNull (r : Reply) : r.withoutNull.json.text = r.json.text := by
  obtain ⟨status, data, error, version⟩ := r
  rcases data with _ | _ | _ | _ | _ | _ | _ <;> rfl

/-- A reply with portable data is read back, except that null data becomes absent. -/
theorem Reply.readWhole_text {r : Reply} (h : ∀ data ∈ r.data, data.IsKept ∧ data.IsPortable) :
    readWhole reply r.json.text = .ok r.withoutNull := by
  have hreads := reads_reply r h []
  rw [List.append_nil] at hreads
  exact readWhole_of_reads hreads

/-- Every type of message survives its formats, and every text that is read settles; the data of a
reply must be portable, and becomes absent if it is null. -/
theorem messages_round_trip :
    (RoundTrips Reader.request Request.json ∧
      ∀ (r : Request) (rest : List UInt8),
        Request.ofBytes? (MessagePack.request r ++ rest) = some r) ∧
    RoundTrips Reader.createAnswer CreateAnswer.json ∧
    RoundTrips Reader.actionAnswer ActionAnswer.json ∧
    RoundTrips Reader.sessionReference SessionReference.json ∧
    RoundTrips Reader.session Session.json ∧
    (∀ r : Reply, (∀ data ∈ r.data, data.IsKept ∧ data.IsPortable) →
      readWhole reply r.json.text = .ok r.withoutNull) ∧
    ∀ (text : String) (r : Reply), readWhole reply text = .ok r →
      (∀ data ∈ r.data, data.IsPortable) →
        readWhole reply r.json.text = .ok r.withoutNull ∧
          rewritten reply Reply.json r.json.text = .ok r.json.text := by
  have hrequest (r : Request) := reads_request r []
  have hcreate (a : CreateAnswer) := reads_createAnswer a []
  have haction (a : ActionAnswer) := reads_actionAnswer a []
  have hreference (r : SessionReference) := reads_sessionReference r []
  have hsession (s : Session) := reads_session s []
  simp only [List.append_nil] at hrequest hcreate haction hreference hsession
  refine ⟨⟨.of_reads hrequest, Request.ofBytes?_request⟩, .of_reads hcreate, .of_reads haction,
    .of_reads hreference, .of_reads hsession, fun r => Reply.readWhole_text, ?_⟩
  intro text r hread hportable
  have hkept : ∀ data ∈ r.data, data.IsKept := yields_reply.of_readWhole hread
  have hback := Reply.readWhole_text fun data hdata => ⟨hkept data hdata, hportable data hdata⟩
  refine ⟨hback, ?_⟩
  rw [rewritten, hback]
  exact congrArg Except.ok r.text_withoutNull

/-- The answer to a ping survives its format. -/
theorem messages_round_trip_pong :
    (∀ data ∈ Reply.pong.data, data.IsKept ∧ data.IsPortable) ∧
      readWhole reply Reply.pong.json.text = .ok Reply.pong ∧
        rewritten reply Reply.json Reply.pong.json.text = .ok Reply.pong.json.text := by
  have heverywhere {P : Json → Prop} (h : P (.object [("pong", .bool true)]))
      (hpong : P (.bool true)) : Everywhere P (.object [("pong", .bool true)]) := by
    refine .object h fun m hm => ?_
    rw [List.mem_singleton.mp hm]
    exact .scalar True.intro hpong
  have hdata : ∀ data ∈ Reply.pong.data, data.IsKept ∧ data.IsPortable := by
    rintro _ ⟨⟩
    have hkey : "pong" ≠ embeddedKey := by decide
    exact ⟨heverywhere ⟨True.intro, List.pairwise_singleton _ _⟩ ⟨True.intro, True.intro⟩,
      heverywhere hkey True.intro, by decide⟩
  obtain ⟨-, -, -, -, -, hreplies, hsettles⟩ := messages_round_trip
  have hback := hreplies Reply.pong hdata
  exact ⟨hdata, hback, (hsettles _ _ hback fun data h => (hdata data h).2).2⟩

/-- Empty arrays inside each other. -/
def Json.nested : Nat → Json
  | 0 => .array []
  | n + 1 => .array [nested n]

theorem Json.everywhere_nested {P : Json → Prop} (h : ∀ items, P (.array items)) (n : Nat) :
    (nested n).Everywhere P := by
  induction n with
  | zero => exact .array (h []) nofun
  | succ n ih =>
      refine .array (h [nested n]) fun v hv => ?_
      rw [List.mem_singleton.mp hv]
      exact ih

/-- An object that stands for the text of a number. -/
def Json.embeddedOne : Json := .object [(embeddedKey, .string "1")]

/-- Plain data is lost if it is nested too deeply, and data without any number comes back as a
number if it stands for the text of one. -/
theorem unportable_replies_lost :
    ((nested 126).IsKept ∧ (nested 126).Everywhere IsPlain ∧
      readWhole reply (Reply.ok (nested 126)).json.text ≠ .ok (Reply.ok (nested 126))) ∧
    (embeddedOne.IsKept ∧ embeddedOne.height ≤ 126 ∧
      readWhole reply (Reply.ok embeddedOne).json.text ≠ .ok (Reply.ok embeddedOne)) := by
  refine ⟨⟨everywhere_nested (fun _ => ⟨True.intro, True.intro⟩) 126,
    everywhere_nested (fun _ => True.intro) 126, fun h => ?_⟩, ⟨?_, by decide, fun h => ?_⟩⟩
  · have hlost : (readWhole reply (Reply.ok (nested 126)).json.text).toBool = false := by
      rw [readWhole, readAll, readFront, Json.text, Bytes.toList_ofList]
      decide +kernel
    rw [h] at hlost
    cases hlost
  · refine .object ⟨True.intro, List.pairwise_singleton _ _⟩ fun m hm => ?_
    rw [List.mem_singleton.mp hm]
    exact .scalar True.intro ⟨True.intro, True.intro⟩
  · have hnumber : (readWhole reply (Reply.ok embeddedOne).json.text).toOption.bind
        (fun r => r.data.map height) = some 0 := by
      rw [readWhole, readAll, readFront, Json.text, Bytes.toList_ofList]
      decide +kernel
    rw [h] at hnumber
    cases hnumber

end SupportDesk
