/-
# Frames and their lengths

Payloads within the limit are read back from their frames, one after the other.  A refusal is
longer than the reason that it gives.
-/

import SupportDesk.MessagePack.Socket
import SupportDesk.Proofs.MessagePack.Reads

namespace SupportDesk

namespace Socket

variable {payload rest : List UInt8}

theorem length_lengthBytes (n : Nat) : (lengthBytes n).length = 4 := by
  rw [lengthBytes, List.length_reverse, Packed.Reader.length_bigEndian]

theorem lengthOf_lengthBytes {n : Nat} (hn : n < 256 ^ 4) : lengthOf (lengthBytes n) = n := by
  rw [lengthOf, lengthBytes, List.reverse_reverse, Packed.Reader.bigEndian_bigEndian hn]

/-- The payload of a frame at the front is read, and then what follows the frame. -/
theorem payloads_frame_append (hpayload : payload.length ≤ frameLimit) (rest : List UInt8) :
    payloads (frame payload ++ rest) = payload :: payloads rest := by
  have hlength : lengthOf ((frame payload ++ rest).take 4) = payload.length := by
    rw [frame, List.append_assoc, List.take_left' (length_lengthBytes _),
      lengthOf_lengthBytes (hpayload.trans_lt (by decide))]
  have hdrop : (frame payload ++ rest).drop 4 = payload ++ rest := by
    rw [frame, List.append_assoc, List.drop_left' (length_lengthBytes _)]
  have henough : ¬ (frame payload ++ rest).length < 4 := by
    simp [frame, length_lengthBytes]
  rw [payloads, dif_neg henough]
  simp only [hlength, hdrop]
  rw [if_neg (by simp [hpayload]), List.take_left' rfl, List.drop_left' rfl]

/-- The payloads of frames are read back in order. -/
theorem payloads_flatMap_frame {ps : List (List UInt8)} (hps : ∀ p ∈ ps, p.length ≤ frameLimit) :
    payloads (ps.flatMap frame) = ps := by
  induction ps with
  | nil =>
      rw [List.flatMap_nil, payloads]
      rfl
  | cons p ps ih =>
      rw [List.flatMap_cons, payloads_frame_append (hps p List.mem_cons_self),
        ih fun q hq => hps q (List.mem_cons_of_mem _ hq)]

end Socket

namespace MessagePack

/-- A text is written in its own bytes after one to five others. -/
theorem length_text (s : String) :
    (text s).length = (if s.utf8ByteSize < 0x20 then 1 else if s.utf8ByteSize < 0x100 then 2
      else if s.utf8ByteSize < 0x10000 then 3 else 5) + s.utf8ByteSize := by
  simp only [text, List.length_append, Bytes.length_toList]
  split_ifs <;> simp only [List.length_cons, List.length_nil, Packed.Reader.length_bigEndian]

/-- Apart from its reason a refusal has 40 bytes. -/
theorem length_reply_failure (reason : String) :
    (reply (.failure reason)).length = 40 + (text reason).length := by
  have hstatus : (text "status").length = 7 := by rw [length_text]; decide
  have hdata : (text "data").length = 5 := by rw [length_text]; decide
  have herror : (text "error").length = 6 := by rw [length_text]; decide
  have hversion : (text "version").length = 8 := by rw [length_text]; decide
  have hnumber : (text "0.1.0").length = 6 := by rw [length_text]; decide
  have hjson : reply (.failure reason) = mapStart 4 ++ (text "status" ++ text "error" ++
      (text "data" ++ [0xc0] ++ (text "error" ++ text reason ++
        (text "version" ++ text "0.1.0" ++ [])))) := rfl
  have hstart : (mapStart 4).length = 1 := rfl
  simp only [hjson, List.length_append, hstart, hstatus, hdata, herror, hversion, hnumber,
    List.length_singleton, List.length_nil]
  omega

theorem utf8ByteSize_lt_length_reply_failure (reason : String) :
    reason.utf8ByteSize < (reply (.failure reason)).length := by
  rw [length_reply_failure, length_text]
  omega

end MessagePack

end SupportDesk
