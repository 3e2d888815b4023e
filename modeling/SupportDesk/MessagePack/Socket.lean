/-
# The socket interface

A connection carries frames: a length of four bytes, least significant first, and so many
bytes of payload.  Complete frames are answered by one frame each, in order.  A payload that
holds no request is answered by an error, which says why, and leaves the desk as it is.  A
frame that is announced longer than the limit ends the connection, and so does a reply that
is longer than the limit: it is not sent, and no further frame is answered.  An incomplete
frame at the end of the input is dropped.
-/

import SupportDesk.MessagePack.Reader
import SupportDesk.MessagePack.Writer
import SupportDesk.Pool.Router
import SupportDesk.Text.Quoted

namespace SupportDesk.Socket

/-- The number of bytes that a payload may have. -/
def frameLimit : Nat := 8388608

/-- A number in four bytes, least significant first. -/
def lengthBytes (n : Nat) : List UInt8 := (MessagePack.bigEndian 4 n).reverse

/-- The frame of a payload. -/
def frame (payload : List UInt8) : List UInt8 := lengthBytes payload.length ++ payload

/-- The number that four bytes denote, least significant first. -/
def lengthOf (bs : List UInt8) : Nat := Packed.Reader.bigEndian bs.reverse

/-- The payloads of the complete frames at the front of a byte sequence, up to the first
frame that is too long. -/
def payloads (bs : List UInt8) : List (List UInt8) :=
  if _h : bs.length < 4 then []
  else
    let n := lengthOf (bs.take 4)
    let rest := bs.drop 4
    if frameLimit < n ∨ rest.length < n then []
    else rest.take n :: payloads (rest.drop n)
termination_by bs.length
decreasing_by simp only [List.length_drop]; omega

/-- The text in front of the reason for which a payload was not read. -/
def decodeFailure : String := "Deserialization error: "

/-- Why a payload was not read, where that is a text that stands alone; the reasons for which
other payloads are not read are left out. -/
def complaint (payload : List UInt8) : String :=
  match Packed.parse? payload with
  | some (.text s) =>
    "invalid type: string " ++ Quoted.text s
      ++ ", expected internally tagged enum HelpdeskRequest"
  | _ => ""

/-- The answer to one payload: the reply, and whether the payload was read. -/
structure Exchange where
  reply : Reply
  understood : Bool
deriving Repr

/-- Whether the reply fits into a frame. -/
def Exchange.fits (e : Exchange) : Bool := (MessagePack.reply e.reply).length ≤ frameLimit

/-- The reply to one payload.  `reason` tells why a payload was not read. -/
def serve (reason : List UInt8 → String) (d : Desk) (now : Moment) (fresh : SessionId)
    (payload : List UInt8) : Exchange × Desk :=
  match Request.ofBytes? payload with
  | some request =>
    let (reply, d) := d.answer now fresh request
    (⟨reply, true⟩, d)
  | none => (⟨.failure (decodeFailure ++ reason payload), false⟩, d)

/-- Answers one payload, unless the reply does not fit. -/
def respond (reason : List UInt8 → String) (d : Desk) (now : Moment) (fresh : SessionId)
    (payload : List UInt8) : Option Exchange × Desk :=
  let (e, d) := serve reason d now fresh payload
  (if e.fits then some e else none, d)

/-- A payload as it comes to a desk: the moment at which it is answered, and the identifier
that a new session would be given. -/
structure Arrival where
  payload : List UInt8
  now : Moment
  fresh : SessionId
deriving Repr

/-- Answers payloads in order, up to the first whose reply does not fit. -/
def converse (reason : List UInt8 → String) (d : Desk) : List Arrival → List Exchange × Desk
  | [] => ([], d)
  | a :: rest =>
    match respond reason d a.now a.fresh a.payload with
    | (some e, d) =>
      let (es, d) := converse reason d rest
      (e :: es, d)
    | (none, d) => ([], d)

end SupportDesk.Socket
