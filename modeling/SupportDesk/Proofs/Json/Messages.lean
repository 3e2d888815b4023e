/-
# Messages are read back from JSON text

Every message has a reader of its own, and a record of fields is read back when each of its fields
is, with the names of the fields distinct.  The data of a reply is the only part of a message that
may be any value: it is read back if it is nested to a depth of at most 126 and holds neither a
real number nor an object that stands for a text.  Null data is read as no data.
-/

import SupportDesk.Proofs.Calendar.Written
import SupportDesk.Proofs.Json.Yields
import SupportDesk.Proofs.Session.Id

namespace SupportDesk

/-- A value that is neither a real number nor an object whose first key makes it stand for a
text. -/
def Json.IsPlain : Json → Prop
  | .number (.real _) => False
  | .object ((key, _) :: _) => key ≠ Reader.embeddedKey
  | _ => True

/-- Data that survives being written and read: plain everywhere, and nested to a depth of at most
126. -/
structure Json.IsPortable (v : Json) : Prop where
  plain : v.Everywhere IsPlain
  height_le : v.height ≤ 126

/-- A reply in which null data is absent. -/
def Reply.withoutNull (r : Reply) : Reply :=
  { r with data := r.data.bind fun
    | .null => none
    | v => some v }

namespace Json.Reader

variable {α σ : Type} {a : α} {v : Json} {rest : List Char}

/-- The bytes of a message are read as the message. -/
theorem readFront_of_reads {r : Reader α} {v : Json} (h : Reads r v.chars a []) :
    readFront r v.bytes = .ok a := by
  rw [readFront, Json.bytes, Json.text, Bytes.toList_ofList,
    show r.run (Bytes.ofChars v.chars) = .ok (a, []) from h]
  rfl

/-- Nothing is left to read behind a message. -/
theorem readAll_of_reads {r : Reader α} {v : Json} (h : Reads r v.chars a []) :
    readAll r v.bytes = .ok a := by
  have hwhole : Reads (do
      let a ← r
      skipSpace
      if (← get).isEmpty then return a else fail .malformed) v.chars a [] :=
    h.bind (Reads.bind (show Reads skipSpace [] () [] from rfl) (reads_get.bind reads_pure))
  exact readFront_of_reads hwhole

/-- A text that is read to its end is read as a whole. -/
theorem readWhole_of_reads {r : Reader α} {v : Json} (h : Reads r v.chars a []) :
    readWhole r v.text = .ok a :=
  readAll_of_reads h

/-! ## Texts, variants and values that may be absent -/

theorem reads_text (s : String) (rest : List Char) :
    Reads text ((Json.string s).chars ++ rest) s rest := by
  refine (reads_peekToken (by decide)).bind ?_
  simp only [if_true]
  exact reads_readString s rest

theorem reads_parsed {parse? : String → Option α} {s : String} (h : parse? s = some a)
    (rest : List Char) : Reads (parsed parse?) ((Json.string s).chars ++ rest) a rest := by
  refine (reads_text s rest).bind ?_
  rw [h]
  exact reads_pure

theorem reads_lookupVariant {variants : List (String × α)} {name : String} {cs : List Char}
    (h : variants.find? (fun v => v.1 = name) = some (name, a)) :
    Reads (lookupVariant variants name) cs a cs := by
  rw [lookupVariant, h]
  exact reads_pure

theorem reads_variant {variants : List (String × α)} {name : String}
    (h : variants.find? (fun v => v.1 = name) = some (name, a)) (rest : List Char) :
    Reads (variant variants) ((Json.string name).chars ++ rest) a rest := by
  refine (reads_peekToken (by decide)).bind ?_
  exact (reads_readString name rest).bind (reads_lookupVariant h)

theorem reads_optional_null (r : Reader α) (rest : List Char) :
    Reads (optional r) (Json.null.chars ++ rest) none rest := by
  refine (reads_skipSpace (c := 'n') (by decide)).bind ?_
  refine (reads_peek?_of_ascii (by decide)).bind ?_
  exact (reads_expectChars ascii_null rest).bind reads_pure

theorem reads_optional {r : Reader α} (hreadable : v.IsReadable) (hv : v ≠ .null)
    (h : Reads r (v.chars ++ rest) a rest) : Reads (optional r) (v.chars ++ rest) (some a) rest := by
  obtain ⟨c, more, heq, hbegins, -, hnull⟩ := exists_chars_eq_cons hreadable
  rw [heq, List.cons_append] at h ⊢
  refine (reads_skipSpace hbegins).bind ?_
  refine (reads_peek?_of_ascii (ascii_of_beginsToken hbegins)).bind ?_
  rw [if_neg fun hc => hv (hnull (Option.some.inj hc))]
  exact h.bind reads_pure

/-! ## Records -/

/-- Values are read into the fields of a record one after the other; the last fields may have no
value. -/
inductive Fills : σ → List (Field σ) → List Json → σ → Prop
  | done {acc : σ} {fields : List (Field σ)} : Fills acc fields [] acc
  | cons {acc next last : σ} {f : Field σ} {v : Json} {fields : List (Field σ)}
      {values : List Json} (hv : ReadsAs (f.read acc) v next) (hrest : Fills next fields values last) :
      Fills acc (f :: fields) (v :: values) last

/-- The members that are written for the values of fields. -/
def membersOf (fields : List (Field σ)) (values : List Json) : List (String × Json) :=
  List.zipWith (fun f v => (f.name, v)) fields values

variable {fields : List (Field σ)} {values : List Json} {acc start last : σ}

theorem find?_name {f : Field σ} (hnodup : (fields.map (·.name)).Nodup) (hf : f ∈ fields) :
    fields.find? (fun g => g.name = f.name) = some f := by
  induction fields with
  | nil => cases hf
  | cons g fields ih =>
      obtain ⟨hg, hrest⟩ := List.nodup_cons.mp hnodup
      rcases List.mem_cons.mp hf with rfl | hf
      · simp
      · have hne : g.name ≠ f.name := fun heq => hg (List.mem_map.mpr ⟨f, hf, heq.symm⟩)
        rw [List.find?_cons_of_neg (by simpa using hne)]
        exact ih hrest hf

/-- Members are read into the fields of a record in whatever order they stand, and one that is no
field is passed over. -/
inductive Gathers (all : List (Field σ)) : σ → List (String × Json) → σ → Prop
  | done {acc : σ} : Gathers all acc [] acc
  | field {acc next last : σ} {i : Nat} {f : Field σ} {v : Json}
      {members : List (String × Json)} (hf : all[i]? = some f) (hv : ReadsAs (f.read acc) v next)
      (hrest : Gathers all next members last) : Gathers all acc ((f.name, v) :: members) last
  | other {acc last : σ} {k : String} {v : Json} {members : List (String × Json)}
      (hk : k ∉ all.map (·.name)) (hv : ReadsAs skipAny v ()) (hrest : Gathers all acc members last) :
      Gathers all acc ((k, v) :: members) last

/-- Members with distinct keys are read by a record whose fields have distinct names. -/
theorem Gathers.steps {all : List (Field σ)} {members : List (String × Json)}
    (h : Gathers all acc members last) (hall : (all.map (·.name)).Nodup)
    (hkeys : (members.map (·.1)).Nodup) {names : List String}
    (hfresh : ∀ m ∈ members, m.1 ∉ names) :
    ∃ after, Steps (readMember all) (names, acc) members (after, last) := by
  induction h generalizing names with
  | done => exact ⟨names, .nil⟩
  | @field acc next last i f v members hf hv _ ih =>
      obtain ⟨hfirst, hrest⟩ := List.nodup_cons.mp hkeys
      have hnew : f.name ∉ names := hfresh _ List.mem_cons_self
      have hlater : ∀ m ∈ members, m.1 ∉ f.name :: names := by
        intro m hm hmem
        rcases List.mem_cons.mp hmem with heq | hmem
        · exact hfirst (List.mem_map.mpr ⟨m, hm, heq⟩)
        · exact hfresh m (List.mem_cons_of_mem _ hm) hmem
      obtain ⟨after, hafter⟩ := ih hrest hlater
      refine ⟨after, .cons (fun rest hrest => ?_) hafter⟩
      refine (reads_readName f.name _).bind ?_
      rw [find?_name hall (List.mem_of_getElem? hf)]
      simp only [if_neg hnew]
      exact (reads_skipColon hv.readable rest).bind ((hv.reads rest hrest).bind reads_pure)
  | @other acc last k v members hk hv _ ih =>
      obtain ⟨-, hrest⟩ := List.nodup_cons.mp hkeys
      obtain ⟨after, hafter⟩ := ih hrest fun m hm => hfresh m (List.mem_cons_of_mem _ hm)
      refine ⟨after, .cons (fun rest hrest => ?_) hafter⟩
      refine (reads_readName k _).bind ?_
      have hnone : all.find? (fun f => f.name = k) = none := by
        rw [List.find?_eq_none]
        intro f hf heq
        exact hk (List.mem_map.mpr ⟨f, hf, of_decide_eq_true heq⟩)
      rw [hnone]
      exact (reads_skipColon hv.readable rest).bind ((hv.reads rest hrest).bind reads_pure)

/-- A record is read from an object whose keys are distinct, in whatever order they stand. -/
theorem reads_record_of_gathers {members : List (String × Json)}
    (h : Gathers fields start members last) (hnodup : (fields.map (·.name)).Nodup)
    (hkeys : (members.map (·.1)).Nodup) (rest : List Char) :
    Reads (record fields start) ((Json.object members).chars ++ rest) last rest := by
  obtain ⟨after, hsteps⟩ := h.steps hnodup hkeys fun _ _ => List.not_mem_nil
  refine (reads_peekToken (by decide)).bind ?_
  exact (reads_advance (by decide)).bind ((reads_foldMembers hsteps rest).bind reads_pure)

/-- The values of fields in their order are members. -/
theorem Fills.gathers {all : List (Field σ)} (h : Fills acc fields values last)
    (hfields : ∀ f ∈ fields, f ∈ all) : Gathers all acc (membersOf fields values) last := by
  induction h with
  | done =>
      rw [membersOf, List.zipWith_nil_right]
      exact .done
  | cons hv _ ih =>
      obtain ⟨i, hi⟩ := List.getElem?_of_mem (hfields _ List.mem_cons_self)
      exact .field hi hv (ih fun g hg => hfields g (List.mem_cons_of_mem _ hg))

theorem keys_membersOf (fields : List (Field σ)) (values : List Json) :
    ((membersOf fields values).map (·.1)).Sublist (fields.map (·.name)) := by
  induction fields generalizing values with
  | nil => exact List.nil_sublist _
  | cons f fields ih =>
      cases values with
      | nil => exact List.nil_sublist _
      | cons v values => exact (ih values).cons_cons f.name

/-- A record is read back if each of its fields is. -/
theorem reads_record (h : Fills start fields values last) (hnodup : (fields.map (·.name)).Nodup)
    (rest : List Char) :
    Reads (record fields start) ((Json.object (membersOf fields values)).chars ++ rest) last
      rest :=
  reads_record_of_gathers (h.gathers fun _ hf => hf) hnodup
    (hnodup.sublist (keys_membersOf fields values)) rest

/-! ## Sessions and answers -/

theorem reads_session (s : Session) (rest : List Char) :
    Reads session (s.json.chars ++ rest) s rest := by
  have hfills : Fills ⟨none, none, none⟩ sessionFields
      [.string s.id.text, .string s.createdAt.text, .string s.lastTouchedAt.text]
      ⟨some s.id, some s.createdAt, some s.lastTouchedAt⟩ :=
    .cons ⟨True.intro, fun rest _ => (reads_parsed s.id.parse?_text rest).map⟩
      (.cons ⟨True.intro, fun rest _ => (reads_parsed s.createdAt.parse?_text rest).map⟩
        (.cons ⟨True.intro, fun rest _ => (reads_parsed s.lastTouchedAt.parse?_text rest).map⟩ .done))
  exact (reads_record hfills (by decide) rest).bind reads_pure

theorem reads_sessionReference (r : SessionReference) (rest : List Char) :
    Reads sessionReference (r.json.chars ++ rest) r rest := by
  have hfills : Fills none [field "session_id" sessionId fun _ v => v]
      [.string r.sessionId.text] (some r.sessionId) :=
    .cons ⟨True.intro, fun rest _ => (reads_parsed r.sessionId.parse?_text rest).map⟩ .done
  exact (reads_record hfills (by decide) rest).bind reads_pure

/-- The fields of a creation's answer are filled with what was written. -/
theorem exists_fills_createAnswer (a : CreateAnswer) : ∃ values last,
    a.json = .object (membersOf createFields values) ∧
      Fills ⟨none, none⟩ createFields values last ∧
      last.code = some a.code ∧ last.sessionId.join = a.sessionId := by
  obtain ⟨code, sessionId⟩ := a
  have hcode : CreateCode.variants.find? (fun v => v.1 = code.name) = some (code.name, code) := by
    cases code <;> decide
  cases sessionId with
  | none =>
      exact ⟨[.string code.name], ⟨some code, none⟩, rfl,
        .cons ⟨True.intro, fun rest _ => (reads_variant hcode rest).map⟩ .done, rfl, rfl⟩
  | some id =>
      have hid (rest : List Char) : Reads (optional Reader.sessionId)
          ((Json.string id.text).chars ++ rest) (some id) rest :=
        reads_optional True.intro nofun (reads_parsed id.parse?_text rest)
      exact ⟨[.string code.name, .string id.text], ⟨some code, some (some id)⟩, rfl,
        .cons ⟨True.intro, fun rest _ => (reads_variant hcode rest).map⟩
          (.cons ⟨True.intro, fun rest _ => (hid rest).map⟩ .done), rfl, rfl⟩

theorem reads_createAnswer (a : CreateAnswer) (rest : List Char) :
    Reads createAnswer (a.json.chars ++ rest) a rest := by
  obtain ⟨values, last, hjson, hfills, hcode, hid⟩ := exists_fills_createAnswer a
  rw [hjson]
  refine (reads_record hfills (by decide) rest).bind ?_
  rw [hcode, hid]
  exact reads_pure

theorem reads_actionAnswer (a : ActionAnswer) (rest : List Char) :
    Reads actionAnswer (a.json.chars ++ rest) a rest := by
  obtain ⟨code⟩ := a
  have hcode : ActionCode.variants.find? (fun v => v.1 = code.name) = some (code.name, code) := by
    cases code <;> decide
  have hfills : Fills none [field "code" (variant ActionCode.variants) fun _ v => v]
      [.string code.name] (some code) :=
    .cons ⟨True.intro, fun rest _ => (reads_variant hcode rest).map⟩ .done
  exact (reads_record hfills (by decide) rest).bind reads_pure

/-! ## Replies -/

/-- Data that a desk keeps can be read where it is plain. -/
theorem everywhere_isReadable (hkept : v.IsKept) (hplain : v.Everywhere IsPlain) :
    v.Everywhere IsReadable := by
  refine (hkept.and hplain).mono ?_
  rintro w ⟨⟨hrange, -⟩, hplain⟩
  cases w with
  | number n =>
      rcases hrange with hwhole | ⟨x, rfl⟩
      · exact hwhole
      · exact hplain.elim
  | object members =>
      cases members with
      | nil => exact True.intro
      | cons m members => exact hplain
  | null | bool _ | string _ | array _ => exact True.intro

theorem reads_optional_data (hkept : v.IsKept) (hportable : v.IsPortable) (hnull : v ≠ .null)
    (rest : List Char) (hrest : EndsNumber rest) :
    Reads (optional (readValue (depthLimit - 1))) (v.chars ++ rest) (some v) rest := by
  have hreadable := everywhere_isReadable hkept hportable.plain
  have hheight : v.height < depthLimit - 1 := Nat.lt_succ_of_le hportable.height_le
  exact reads_optional hreadable.holds hnull
    (reads_get.bind (reads_readValueWith _ hreadable hheight rest hrest))

theorem reads_optional_text (o : Option String) (rest : List Char) :
    Reads (optional text) ((Reply.optionalJson (o.map .string)).chars ++ rest) o rest := by
  cases o with
  | none => exact reads_optional_null text rest
  | some s => exact reads_optional True.intro nofun (reads_text s rest)

theorem isReadable_optional_text (o : Option String) :
    (Reply.optionalJson (o.map .string)).IsReadable := by
  cases o <;> exact True.intro

/-- A reply is read back, except that null data becomes absent. -/
theorem reads_reply (r : Reply) (hdata : ∀ data ∈ r.data, data.IsKept ∧ data.IsPortable)
    (rest : List Char) : Reads reply (r.json.chars ++ rest) r.withoutNull rest := by
  obtain ⟨status, data, error, version⟩ := r
  have hoptional : ∃ read : Option Json, (Reply.optionalJson data).IsReadable ∧
      (∀ rest, EndsNumber rest → Reads (optional (readValue (depthLimit - 1)))
        ((Reply.optionalJson data).chars ++ rest) read rest) ∧
      read.map canonical = (Reply.withoutNull ⟨status, data, error, version⟩).data := by
    cases data with
    | none => exact ⟨none, True.intro, fun rest _ => reads_optional_null _ rest, rfl⟩
    | some v =>
        obtain ⟨hkept, hportable⟩ := hdata v rfl
        by_cases hnull : v = .null
        · subst hnull
          exact ⟨none, True.intro, fun rest _ => reads_optional_null _ rest, rfl⟩
        · have hreadable := everywhere_isReadable hkept hportable.plain
          refine ⟨some v, hreadable.holds, reads_optional_data hkept hportable hnull, ?_⟩
          rw [Option.map_some, canonical_of_sorted (hkept.mono fun _ h => h.2)]
          cases v with
          | null => exact absurd rfl hnull
          | bool _ | number _ | string _ | array _ | object _ => rfl
  obtain ⟨read, hreadable, hread, hcanonical⟩ := hoptional
  have hfills : Fills ⟨none, none, none, none⟩ replyFields
      [.string status, Reply.optionalJson data, Reply.optionalJson (error.map .string),
        .string version] ⟨some status, some read, some error, some version⟩ :=
    .cons ⟨True.intro, fun rest _ => (reads_text status rest).map⟩
      (.cons ⟨hreadable, fun rest hrest => (hread rest hrest).map⟩
        (.cons ⟨isReadable_optional_text error, fun rest _ => (reads_optional_text error rest).map⟩
          (.cons ⟨True.intro, fun rest _ => (reads_text version rest).map⟩ .done)))
  refine (reads_record hfills (by decide) rest).bind ?_
  have hgiven : (⟨status, read.map canonical, error, version⟩ : Reply) =
      Reply.withoutNull ⟨status, data, error, version⟩ := by
    rw [hcanonical]
    rfl
  rw [← hgiven]
  exact reads_pure

/-! ## Requests -/

theorem reads_kind (kind : Request.Kind) (rest : List Char) :
    Reads Reader.kind ((Json.string kind.name).chars ++ rest) kind rest := by
  refine (reads_text kind.name rest).bind (reads_lookupVariant ?_)
  cases kind <;> decide

theorem reads_action (kind : Request.Kind) (rest : List Char) :
    Reads (readTagged (none, []))
      (quotedChars actionKey ++ ':' :: ((Json.string kind.name).chars ++ rest)) (some kind, [])
      rest :=
  (reads_readName _ _).bind ((reads_skipColon (v := .string kind.name) True.intro rest).bind
    ((reads_kind kind rest).bind reads_pure))

theorem reads_sessionMember (kind : Request.Kind) (id : SessionId) (rest : List Char)
    (hrest : EndsNumber rest) :
    Reads (readTagged (some kind, []))
      (quotedChars Atom.sessionKey ++ ':' :: ((Json.string id.text).chars ++ rest))
      (some kind, [(.text Atom.sessionKey, .text id.text)]) rest := by
  have hreadable : (Json.string id.text).Everywhere IsReadable := .scalar True.intro True.intro
  have hvalue : Reads (readValueWith none (depthLimit - 1)) ((Json.string id.text).chars ++ rest)
      (.string id.text) rest :=
    reads_readValueWith none hreadable (Nat.zero_lt_succ _) rest hrest
  refine (reads_readName _ _).bind ?_
  rw [if_neg (by decide)]
  exact (reads_skipColon (v := .string id.text) True.intro rest).bind (hvalue.bind reads_pure)

/-- Members that say what a request is give the request. -/
theorem reads_request_of_steps {members : List (String × Json)} {kind : Request.Kind}
    {fields : List (Atom × Atom)} {r : Request}
    (h : Steps readTagged (none, []) members (some kind, fields))
    (hr : Request.ofPayload kind (.members fields.reverse) = .ok r) (rest : List Char) :
    Reads request ((Json.object members).chars ++ rest) r rest := by
  refine (reads_peekToken (by decide)).bind ?_
  refine (reads_advance (by decide)).bind ?_
  refine (reads_foldMembers h rest).bind ?_
  refine Reads.bind reads_pure (Reads.bind reads_pure ?_)
  simp only [hr]
  exact reads_pure

/-- A request is read back. -/
theorem reads_request (r : Request) (rest : List Char) :
    Reads request (r.json.chars ++ rest) r rest := by
  have hbare {kind : Request.Kind} (hr : Request.ofPayload kind (.members []) = .ok r) :
      Reads request ((Json.object [(actionKey, .string kind.name)]).chars ++ rest) r rest :=
    reads_request_of_steps (.cons (fun rest _ => reads_action kind rest) .nil) hr rest
  have hsession {kind : Request.Kind} {id : SessionId}
      (hr : Request.ofPayload kind (.members [(.text Atom.sessionKey, .text id.text)]) = .ok r) :
      Reads request ((Json.object [(actionKey, .string kind.name),
        (Atom.sessionKey, .string id.text)]).chars ++ rest) r rest :=
    reads_request_of_steps (.cons (fun rest _ => reads_action kind rest)
      (.cons (fun rest hrest => reads_sessionMember kind id rest hrest) .nil)) hr rest
  have hid (id : SessionId) :
      Payload.session? (.members [(.text Atom.sessionKey, .text id.text)]) = .ok id := by
    simp only [Payload.session?, Payload.sessionOfMembers, Atom.namesSession, Atom.session?,
      id.parse?_text]
    rfl
  cases r with
  | ping | health | createSession | status => exact hbare rfl
  | prolongSession id | destroySession id =>
      refine hsession ?_
      simp only [Request.ofPayload, Request.Kind.complete, hid]
      rfl

end Json.Reader

end SupportDesk
