/-
# Malformed requests are isolated

A payload that holds no request is answered by an error and changes nothing: neither the desk nor
any other reply of the connection.  This holds of a connection exactly as long as every reply fits
into a frame.  The error says why the payload was not read, and shows it if it is a text, so a
payload within the limit can have a reply beyond it; the connection then ends without the reply.

Over HTTP a request that does not succeed is refused, and changes nothing either.
-/

import SupportDesk.Proofs.Http.Answers
import SupportDesk.Proofs.MessagePack.Frames
import SupportDesk.Proofs.Pool.Run

namespace SupportDesk

namespace Socket

variable {reason : List UInt8 → String} {d : Desk} {a : Arrival}
  {arrivals before after : List Arrival}

/-- The answers to payloads if there were no limit to the length of a reply. -/
def answers (reason : List UInt8 → String) (d : Desk) : List Arrival → List Exchange × Desk
  | [] => ([], d)
  | a :: rest =>
    let (e, d) := serve reason d a.now a.fresh a.payload
    let (es, d) := answers reason d rest
    (e :: es, d)

/-- A connection on which malformed payloads are isolated. -/
structure Isolates (reason : List UInt8 → String) (d : Desk) (arrivals : List Arrival) : Prop where
  /-- There is one reply for each frame. -/
  length_eq : (converse reason d arrivals).1.length = arrivals.length
  /-- The replies stand in the order of the frames. -/
  reply_at (before after : List Arrival) (a : Arrival) (h : arrivals = before ++ a :: after) :
    (converse reason d arrivals).1[before.length]? =
      some (serve reason (converse reason d before).2 a.now a.fresh a.payload).1
  /-- A payload that holds no request is answered by an error without data. -/
  refused (before after : List Arrival) (a : Arrival) (h : arrivals = before ++ a :: after)
    (hbad : Request.ofBytes? a.payload = none) :
    ∃ e, (converse reason d arrivals).1[before.length]? = some e ∧
      e.reply.status = "error" ∧ e.reply.data = none
  /-- It leaves the desk as it was. -/
  unchanged (before after : List Arrival) (a : Arrival) (h : arrivals = before ++ a :: after)
    (hbad : Request.ofBytes? a.payload = none) :
    (converse reason d (before ++ [a])).2 = (converse reason d before).2
  /-- The other replies and the last state are as if it had not been sent. -/
  as_if_not_sent (before after : List Arrival) (a : Arrival) (h : arrivals = before ++ a :: after)
    (hbad : Request.ofBytes? a.payload = none) :
    converse reason d (before ++ after) =
      ((converse reason d arrivals).1.eraseIdx before.length, (converse reason d arrivals).2)

theorem serve_of_bad {now : Moment} {fresh : SessionId} {payload : List UInt8}
    (hbad : Request.ofBytes? payload = none) :
    serve reason d now fresh payload =
      (⟨.failure (decodeFailure ++ reason payload), false⟩, d) := by
  simp only [serve, hbad]

/-! ## Without a limit -/

theorem answers_cons (d : Desk) (a : Arrival) (rest : List Arrival) :
    answers reason d (a :: rest) =
      ((serve reason d a.now a.fresh a.payload).1 ::
          (answers reason (serve reason d a.now a.fresh a.payload).2 rest).1,
        (answers reason (serve reason d a.now a.fresh a.payload).2 rest).2) := rfl

theorem answers_append (d : Desk) (before after : List Arrival) :
    answers reason d (before ++ after) =
      ((answers reason d before).1 ++ (answers reason (answers reason d before).2 after).1,
        (answers reason (answers reason d before).2 after).2) := by
  induction before generalizing d with
  | nil => rfl
  | cons a before ih => rw [List.cons_append, answers_cons, ih, answers_cons, List.cons_append]

theorem length_answers (d : Desk) (arrivals : List Arrival) :
    (answers reason d arrivals).1.length = arrivals.length := by
  induction arrivals generalizing d with
  | nil => rfl
  | cons a rest ih => rw [answers_cons, List.length_cons, ih, List.length_cons]

/-- The answer to a payload stands where the payload does. -/
theorem answers_at (d : Desk) (before after : List Arrival) (a : Arrival) :
    (answers reason d (before ++ a :: after)).1[before.length]? =
      some (serve reason (answers reason d before).2 a.now a.fresh a.payload).1 := by
  rw [answers_append, List.getElem?_append_right (length_answers d before).le, length_answers,
    Nat.sub_self, answers_cons]
  rfl

/-- Leaving out a malformed payload leaves out its answer and nothing else. -/
theorem answers_without (hbad : Request.ofBytes? a.payload = none) (d : Desk)
    (before after : List Arrival) :
    answers reason d (before ++ after) =
      ((answers reason d (before ++ a :: after)).1.eraseIdx before.length,
        (answers reason d (before ++ a :: after)).2) := by
  have hlength : (answers reason d before).1.length = before.length := length_answers d before
  rw [answers_append, answers_append, answers_cons, serve_of_bad hbad]
  simp only [← hlength, List.eraseIdx_append_of_length_le (Nat.le_refl _), Nat.sub_self,
    List.eraseIdx_cons_zero]

/-! ## With the limit -/

theorem converse_cons_of_fits (h : (serve reason d a.now a.fresh a.payload).1.fits = true)
    (rest : List Arrival) :
    converse reason d (a :: rest) =
      ((serve reason d a.now a.fresh a.payload).1 ::
          (converse reason (serve reason d a.now a.fresh a.payload).2 rest).1,
        (converse reason (serve reason d a.now a.fresh a.payload).2 rest).2) := by
  simp only [converse, respond, h, if_true]

theorem converse_cons_of_not_fits (h : ¬ (serve reason d a.now a.fresh a.payload).1.fits = true)
    (rest : List Arrival) :
    converse reason d (a :: rest) = ([], (serve reason d a.now a.fresh a.payload).2) := by
  simp only [converse, respond, if_neg h]

/-- While all replies fit, the limit changes nothing. -/
theorem converse_eq_answers (h : ∀ e ∈ (answers reason d arrivals).1, e.fits = true) :
    converse reason d arrivals = answers reason d arrivals := by
  induction arrivals generalizing d with
  | nil => rfl
  | cons a rest ih =>
      rw [answers_cons] at h
      obtain ⟨hfirst, hrest⟩ := List.forall_mem_cons.mp h
      rw [converse_cons_of_fits hfirst, ih hrest, answers_cons]

/-- A reply that does not fit is missing, and so is every later one. -/
theorem fits_of_length_eq (h : (converse reason d arrivals).1.length = arrivals.length) :
    ∀ e ∈ (answers reason d arrivals).1, e.fits = true := by
  induction arrivals generalizing d with
  | nil => exact nofun
  | cons a rest ih =>
      by_cases hfits : (serve reason d a.now a.fresh a.payload).1.fits = true
      · rw [converse_cons_of_fits hfits] at h
        rw [answers_cons]
        exact List.forall_mem_cons.mpr ⟨hfits, ih (Nat.succ.inj h)⟩
      · rw [converse_cons_of_not_fits hfits] at h
        cases h

/-- Malformed payloads are isolated on a connection exactly if all replies fit. -/
theorem isolates_iff :
    Isolates reason d arrivals ↔ ∀ e ∈ (answers reason d arrivals).1, e.fits = true := by
  refine ⟨fun h => fits_of_length_eq h.length_eq, fun hfits => ?_⟩
  have hall : converse reason d arrivals = answers reason d arrivals := converse_eq_answers hfits
  have hbefore {before after : List Arrival} (h : arrivals = before ++ after) :
      converse reason d before = answers reason d before := by
    refine converse_eq_answers fun e he => hfits e ?_
    rw [h, answers_append]
    exact List.mem_append_left _ he
  have hat (before after : List Arrival) (a : Arrival) (h : arrivals = before ++ a :: after) :
      (converse reason d arrivals).1[before.length]? =
        some (serve reason (converse reason d before).2 a.now a.fresh a.payload).1 := by
    rw [hall, hbefore h, h, answers_at]
  refine ⟨by rw [hall, length_answers], hat, ?_, ?_, ?_⟩
  · intro before after a h hbad
    refine ⟨_, hat before after a h, ?_⟩
    rw [serve_of_bad hbad]
    exact ⟨rfl, rfl⟩
  · intro before after a h hbad
    have hthrough : arrivals = (before ++ [a]) ++ after := by rw [h, List.append_cons]
    rw [hbefore hthrough, hbefore h, answers_append, answers_cons, serve_of_bad hbad]
    rfl
  · intro before after a h hbad
    have hwithout : answers reason d (before ++ after) =
        ((answers reason d arrivals).1.eraseIdx before.length, (answers reason d arrivals).2) := by
      rw [h]
      exact answers_without hbad d before after
    rw [hall, ← hwithout]
    refine converse_eq_answers fun e he => hfits e ?_
    rw [hwithout] at he
    exact List.mem_of_mem_eraseIdx he

end Socket

/-- On a connection malformed payloads are isolated, whatever the reasons that are given for not
reading them, exactly if all replies fit into frames; the frames are told apart whatever they hold.
An HTTP request that does not succeed is refused, and leaves the desk as it is. -/
theorem malformed_requests_isolated (reason : List UInt8 → String) (d : Desk) :
    (∀ payloads : List (List UInt8), (∀ p ∈ payloads, p.length ≤ Socket.frameLimit) →
      Socket.payloads (payloads.flatMap Socket.frame) = payloads) ∧
    (∀ arrivals : List Socket.Arrival, Socket.Isolates reason d arrivals ↔
      ∀ e ∈ (Socket.answers reason d arrivals).1, e.fits = true) ∧
    ∀ (socketPath : String) (now : Moment) (fresh : SessionId) (h : Http.HttpRequest),
      (Http.answer d socketPath now fresh h).1.status ≠ 200 →
        (Http.answer d socketPath now fresh h).1.status ∈ Http.refusals ∧
          (Http.answer d socketPath now fresh h).2 = d :=
  ⟨fun _ => Socket.payloads_flatMap_frame, fun _ => Socket.isolates_iff,
    fun _ now fresh _ => Http.refused_of_status_ne d now fresh⟩

open Pool (smallDesk sampleHour) in
/-- A malformed payload in front of a ping, and a request for a path that leads nowhere. -/
theorem malformed_requests_isolated_smallDesk :
    let d : Desk := ⟨.ofSettings smallDesk (sampleHour 10), .manual (sampleHour 10), 0, none⟩
    let bad : Socket.Arrival := ⟨[0xc1], sampleHour 10, .ofNat 0⟩
    let ping : Socket.Arrival := ⟨MessagePack.request .ping, sampleHour 10, .ofNat 0⟩
    let lost : Http.HttpRequest := ⟨"GET", "/nowhere", none, []⟩
    Socket.payloads ([bad.payload, ping.payload].flatMap Socket.frame) =
        [bad.payload, ping.payload] ∧
      Socket.Isolates Socket.complaint d [bad, ping] ∧
      (Http.answer d "/run/desk.sock" (sampleHour 10) (.ofNat 0) lost).2 = d := by
  intro d bad ping lost
  obtain ⟨hframes, hisolates, hhttp⟩ := malformed_requests_isolated Socket.complaint d
  refine ⟨hframes _ ?_, (hisolates _).mpr ?_, (hhttp "/run/desk.sock" _ _ lost ?_).2⟩
  · decide +kernel
  · decide +kernel
  · decide +kernel

namespace Socket

/-- A text of characters that cannot be shown. -/
def deletes (n : Nat) : String := String.ofList (List.replicate n '\x7f')

theorem utf8ByteSize_deletes (n : Nat) : (deletes n).utf8ByteSize = n := by
  rw [deletes, String.utf8ByteSize_ofList]
  induction n with
  | zero => rfl
  | succ n ih =>
      have hsize : '\x7f'.utf8Size = 1 := by decide
      rw [List.replicate_succ, String.utf8Len_cons, ih, hsize]

/-- A character that cannot be shown takes six characters to show. -/
theorem le_utf8ByteSize_quoted_deletes (n : Nat) :
    6 * n ≤ (Quoted.text (deletes n)).utf8ByteSize := by
  have hescaped : (Quoted.escaped '\x7f').length = 6 := by decide +kernel
  have hflat : ((List.replicate n '\x7f').flatMap Quoted.escaped).length = 6 * n := by
    induction n with
    | zero => rfl
    | succ n ih =>
        rw [List.replicate_succ, List.flatMap_cons, List.length_append, ih, hescaped]
        omega
  have hchars := Bytes.length_le_utf8ByteSize
    ('"' :: (List.replicate n '\x7f').flatMap Quoted.escaped ++ ['"'])
  rw [List.cons_append, List.length_cons, List.length_append, hflat] at hchars
  rw [Quoted.text, deletes, String.toList_ofList]
  exact (by omega : 6 * n ≤ _).trans hchars

/-- What is said of a text that stands alone shows the text. -/
theorem utf8ByteSize_le_complaint {s : String} (hs : s.utf8ByteSize < 256 ^ 4) :
    (Quoted.text s).utf8ByteSize ≤ (complaint (MessagePack.text s)).utf8ByteSize := by
  have hparse := Packed.parse?_text s hs
  rw [complaint, hparse]
  simp only [String.utf8ByteSize_append]
  omega

/-- A text within the limit that cannot be shown within the limit has no reply. -/
theorem converse_long_text {n : Nat} (hshort : n + 5 ≤ frameLimit) (hlong : frameLimit ≤ 6 * n)
    (d : Desk) (now : Moment) (fresh : SessionId) :
    (MessagePack.text (deletes n)).length ≤ frameLimit ∧
      Request.ofBytes? (MessagePack.text (deletes n)) = none ∧
        converse complaint d [⟨MessagePack.text (deletes n), now, fresh⟩] = ([], d) := by
  have hsize := utf8ByteSize_deletes n
  have hbytes : (deletes n).utf8ByteSize < 256 ^ 4 := by
    rw [hsize]
    exact (by omega : n < frameLimit).trans (by decide)
  have hbad : Request.ofBytes? (MessagePack.text (deletes n)) = none := by
    rw [Request.ofBytes?, Packed.parse?_text _ hbytes]
    rfl
  refine ⟨?_, hbad, ?_⟩
  · rw [MessagePack.length_text, hsize]
    split_ifs <;> omega
  · have hquoted := le_utf8ByteSize_quoted_deletes n
    have hcomplaint := utf8ByteSize_le_complaint hbytes
    have hreply := MessagePack.utf8ByteSize_lt_length_reply_failure
      (decodeFailure ++ complaint (MessagePack.text (deletes n)))
    rw [String.utf8ByteSize_append] at hreply
    have hfits : ¬ (serve complaint d now fresh (MessagePack.text (deletes n))).1.fits = true := by
      rw [serve_of_bad hbad, Exchange.fits, decide_eq_true_eq]
      exact fun hle => absurd (hreply.trans_le hle) (by omega)
    rw [converse_cons_of_not_fits (a := ⟨MessagePack.text (deletes n), now, fresh⟩) hfits,
      serve_of_bad hbad]

open Pool (smallDesk sampleHour) in
/-- A connection with a single frame within the limit, which is not answered. -/
theorem long_text_not_answered :
    let d : Desk := ⟨.ofSettings smallDesk (sampleHour 10), .manual (sampleHour 10), 0, none⟩
    let payload := MessagePack.text (deletes 1400000)
    payload.length ≤ frameLimit ∧ Request.ofBytes? payload = none ∧
      converse complaint d [⟨payload, sampleHour 10, .ofNat 0⟩] = ([], d) :=
  converse_long_text (by decide) (by decide) _ _ _

end Socket

end SupportDesk
