/-
# Messages read from JSON text

The readers of every message, each by the shape that its writer gives it.  A record is
also read from an array of its fields in order.
-/

import SupportDesk.Json.Reader
import SupportDesk.Wire.Tagged

namespace SupportDesk.Json

namespace Reader

/-- Puts a value into a record under construction. -/
def field {σ α : Type} (name : String) (value : Reader α) (put : σ → Option α → σ) : Field σ :=
  ⟨name, fun acc => (fun a => put acc (some a)) <$> value, false⟩

/-- A field that may be absent at the end of an array. -/
def trailing {σ : Type} (f : Field σ) : Field σ := { f with mayEndEarly := true }

/-- Reads a session identifier. -/
def sessionId : Reader SessionId := parsed SessionId.parse?

/-- Reads a moment. -/
def moment : Reader Moment := parsed Moment.parse?

/-- Reads a level. -/
def level : Reader Level := variant Level.variants

/-! ## Sessions and answers -/

/-- The fields of a session that have been read. -/
structure SessionDraft where
  id : Option SessionId
  createdAt : Option Moment
  lastTouchedAt : Option Moment

/-- The fields of a session. -/
def sessionFields : List (Field SessionDraft) :=
  [field "id" sessionId fun d v => { d with id := v },
   field "created_at" moment fun d v => { d with createdAt := v },
   field "last_touched_at" moment fun d v => { d with lastTouchedAt := v }]

/-- Reads a session. -/
def session : Reader Session := do
  let d ← record sessionFields ⟨none, none, none⟩
  return ⟨← required "id" d.id, ← required "created_at" d.createdAt,
    ← required "last_touched_at" d.lastTouchedAt⟩

/-- Reads a message that names a session. -/
def sessionReference : Reader SessionReference := do
  let d ← record [field "session_id" sessionId fun _ v => v] none
  return ⟨← required "session_id" d⟩

/-- The fields of a creation's answer that have been read. -/
structure CreateDraft where
  code : Option CreateCode
  sessionId : Option (Option SessionId)

/-- The fields of a creation's answer. -/
def createFields : List (Field CreateDraft) :=
  [field "code" (variant CreateCode.variants) fun d v => { d with code := v },
   trailing (field "session_id" (optional sessionId) fun d v => { d with sessionId := v })]

/-- Reads the answer to a request for a new session. -/
def createAnswer : Reader CreateAnswer := do
  let d ← record createFields ⟨none, none⟩
  return ⟨← required "code" d.code, d.sessionId.join⟩

/-- Reads the answer to prolonging or ending a session. -/
def actionAnswer : Reader ActionAnswer := do
  let d ← record [field "code" (variant ActionCode.variants) fun _ v => v] none
  return ⟨← required "code" d⟩

/-! ## Replies -/

/-- The fields of a reply that have been read. -/
structure ReplyDraft where
  status : Option String
  data : Option (Option Json)
  error : Option (Option String)
  version : Option String

/-- The fields of a reply. -/
def replyFields : List (Field ReplyDraft) :=
  [field "status" text fun d v => { d with status := v },
   field "data" (optional (readValue (depthLimit - 1))) fun d v => { d with data := v },
   field "error" (optional text) fun d v => { d with error := v },
   field "version" text fun d v => { d with version := v }]

/-- Reads the envelope of a reply.  Data that is null is absent. -/
def reply : Reader Reply := do
  let d ← record replyFields ⟨none, none, none, none⟩
  return ⟨← required "status" d.status, d.data.join.map canonical, d.error.join,
    ← required "version" d.version⟩

/-! ## Requests -/

/-- The name of the member that tells the action. -/
def actionKey : String := "action"

/-- Reads the kind of a request from the name of its action. -/
def kind : Reader Request.Kind := do
  lookupVariant Request.kinds (← text)

/-- What matters of a value beside the action. -/
def atom : Json → Atom
  | .string s => .text s
  | _ => .other

/-- Reads one member of a request: the action once, and anything else kept as it is. -/
def readTagged (acc : Option Request.Kind × List (Atom × Atom)) :
    Reader (Option Request.Kind × List (Atom × Atom)) := do
  let k ← readName readString
  if k = actionKey then
    if acc.1.isSome then fail (.duplicateField actionKey)
    skipColon
    return (some (← kind), acc.2)
  else
    skipColon
    let v ← readValueWith none (depthLimit - 1)
    return (acc.1, (.text k, atom v) :: acc.2)

/-- Reads the items that follow the action in an array, up to the closing bracket. -/
def readTaggedItems : Reader (Request.Kind × Payload) := do
  if (← peekToken) = ']' then fail (.missingField actionKey)
  let k ← kind
  let rest ← readItemsAux (readValueWith none (depthLimit - 1)) ((← get).length + 1) false
  return (k, .items (rest.map atom))

/-- Reads a request, whose action is a member or the first item. -/
def request : Reader Request := do
  let (kind, payload) ← match ← peekToken with
    | '[' => do advance; readTaggedItems
    | '{' => do
      advance
      let (kind, fields) ← foldMembers readTagged (none, [])
      pure (← required actionKey kind, Payload.members fields.reverse)
    | _ => refuse
  match Request.ofPayload kind payload with
  | .ok r => return r
  | .error e => fail e

end Reader

end SupportDesk.Json
