/-
# Requests as HTTP requests

Every request that has an endpoint can be spelled as an HTTP request to it, and prolonging a session
in two ways.  Each spelling calls for the request that it spells: fixed paths name their endpoints,
an identifier in a path is read back from its segment, and one in a body from the body's text.
-/

import Mathlib.Data.List.TakeWhile
import SupportDesk.Proofs.Http.Answers
import SupportDesk.Proofs.Json.Messages
import SupportDesk.Proofs.Text.Bytes

namespace SupportDesk.Http

variable {cs : List Char} {c : Char} {id : SessionId}

/-! ## Paths -/

/-- The path of a target that is nothing but a path. -/
theorem pathOf_path (hcs : ∀ c ∈ cs, isPathChar c = true) :
    pathOf (String.ofList ('/' :: cs)) = '/' :: cs := by
  have hscheme : ('/' :: cs).dropWhile isSchemeChar = '/' :: cs :=
    List.dropWhile_cons_of_neg (by decide)
  have hwithout : withoutAuthority ('/' :: cs) = '/' :: cs := by
    rw [withoutAuthority, hscheme]
    rfl
  rw [pathOf, String.toList_ofList, hwithout]
  refine List.takeWhile_eq_self_iff.mpr fun c hc => ?_
  rcases List.mem_cons.mp hc with rfl | hc
  · decide
  · exact hcs c hc

theorem segments_eq_singleton (hcs : '/' ∉ cs) : segments cs = [cs] := by
  induction cs with
  | nil => rfl
  | cons c cs ih =>
      obtain ⟨hc, hrest⟩ := not_or.mp (mt List.mem_cons.mpr hcs)
      rw [segments, ih hrest]
      exact Ne.symm hc

theorem segments_append_slash {pre : List Char} (hpre : '/' ∉ pre) (cs : List Char) :
    segments (pre ++ '/' :: cs) = pre :: segments cs := by
  induction pre with
  | nil => rfl
  | cons c pre ih =>
      obtain ⟨hc, hrest⟩ := not_or.mp (mt List.mem_cons.mpr hpre)
      rw [List.cons_append, segments, ih hrest]
      exact Ne.symm hc

/-- A segment without percent signs is its own text. -/
theorem percentDecode_eq (hcs : ∀ c ∈ cs, c ≠ '%') :
    percentDecode cs = (String.ofList cs).toUTF8.toList := by
  induction cs with
  | nil =>
      rw [Bytes.toList_eq]
      rfl
  | cons c cs ih =>
      have hc : c ≠ '%' := hcs c List.mem_cons_self
      have ih := ih fun c hc => hcs c (List.mem_cons_of_mem _ hc)
      rw [String.ofList_cons, Bytes.toList_append, ← ih, percentDecode]
      exact fun _ _ _ heq => absurd heq hc

theorem decodeSegment?_eq (hcs : ∀ c ∈ cs, c ≠ '%') :
    decodeSegment? cs = some (String.ofList cs) := by
  rw [decodeSegment?, percentDecode_eq hcs, Bytes.fromUTF8?_toList]

/-! ## Identifiers in paths -/

/-- The characters of a written identifier stand for themselves in a path. -/
theorem plain_of_mem_chars (hc : c ∈ id.chars) : isPathChar c = true ∧ c ≠ '/' ∧ c ≠ '%' := by
  rcases SessionId.eq_hyphen_or_digit hc with rfl | ⟨d, hd, rfl⟩
  · decide
  · clear hc
    revert d
    decide

theorem sessionOfSegment_chars (id : SessionId) : sessionOfSegment id.chars = .ok id := by
  have hplain : ∀ c ∈ id.chars, c ≠ '%' := fun c hc => (plain_of_mem_chars hc).2.2
  have hdecode := decodeSegment?_eq hplain
  have hparse : SessionId.parse? (String.ofList id.chars) = some id := id.parse?_text
  rw [sessionOfSegment, hdecode, Option.bind_some, hparse]

/-- A segment as long as an identifier is none of the fixed names. -/
theorem resource?_of_segments {path name : List Char}
    (h : segments path = [[], "api".toList, "session".toList, name]) (hlength : name.length = 36) :
    resource? path = some (.session name) := by
  have hword (word : String) (hword : word.length ≠ 36) : String.ofList name ≠ word := by
    rintro rfl
    exact hword (String.length_ofList.trans hlength)
  rw [resource?, h]
  simp only [List.map_cons, List.map_nil, String.ofList_toList]
  split
  next heq => simp at heq
  next heq => simp at heq
  next heq => exact absurd (by simpa using heq) (hword "create" (by decide))
  next heq => exact absurd (by simpa using heq) (hword "prolongate" (by decide))
  next heq => exact absurd (by simpa using heq) (hword "ping" (by decide))
  next segment _ _ _ heq =>
    obtain rfl : String.ofList name = segment := by simpa using heq
    have hempty := hword "" (by decide)
    simp [hempty]
  next heq => simp at heq
  next hsession _ => exact (hsession (String.ofList name) rfl).elim

theorem resource?_session (id : SessionId) :
    resource? (pathOf ("/api/session/" ++ id.text)) = some (.session id.chars) := by
  have hname : "/api/session/" = String.ofList
      ('/' :: ("api".toList ++ '/' :: ("session".toList ++ ['/']))) := by decide
  have htarget : "/api/session/" ++ id.text = String.ofList
      ('/' :: ("api".toList ++ '/' :: ("session".toList ++ '/' :: id.chars))) := by
    rw [SessionId.text, hname, ← String.ofList_append]
    simp only [List.cons_append, List.append_assoc, List.nil_append]
  have hfixed : ("api".toList ++ '/' :: ("session".toList ++ ['/'])).all isPathChar = true := by
    decide
  have hpath : pathOf ("/api/session/" ++ id.text) =
      [] ++ '/' :: ("api".toList ++ '/' :: ("session".toList ++ '/' :: id.chars)) := by
    rw [htarget, pathOf_path, List.nil_append]
    intro c hc
    have hsplit : c ∈ ("api".toList ++ '/' :: ("session".toList ++ ['/'])) ++ id.chars := by
      simpa only [List.cons_append, List.append_assoc, List.nil_append] using hc
    rcases List.mem_append.mp hsplit with hc | hc
    · exact List.all_eq_true.mp hfixed c hc
    · exact (plain_of_mem_chars hc).1
  have hsegments : segments (pathOf ("/api/session/" ++ id.text)) =
      [[], "api".toList, "session".toList, id.chars] := by
    have hid : segments id.chars = [id.chars] :=
      segments_eq_singleton fun hc => (plain_of_mem_chars hc).2.1 rfl
    rw [hpath, segments_append_slash (by decide), segments_append_slash (by decide),
      segments_append_slash (by decide), hid]
  exact resource?_of_segments hsegments id.length_chars

/-! ## Bodies -/

/-- In quotes a text becomes at most six times as long. -/
theorem length_quotedChars_le (s : String) :
    (Json.quotedChars s).length ≤ 6 * s.length + 2 := by
  have hescaped (c : Char) : (Json.escaped c).length ≤ 6 := by
    unfold Json.escaped
    split_ifs <;> simp [Digits.length_fixed]
  have hflat (cs : List Char) : (cs.flatMap Json.escaped).length ≤ 6 * cs.length := by
    induction cs with
    | nil => exact Nat.le_refl _
    | cons c cs ih =>
        rw [List.flatMap_cons, List.length_append, List.length_cons]
        have hc := hescaped c
        omega
  have hs := hflat s.toList
  rw [String.length_toList] at hs
  rw [Json.quotedChars, List.cons_append, List.length_cons, List.length_append,
    List.length_singleton]
  omega

/-- An identifier is read back from the body that names it. -/
theorem sessionOfBody_text {h : HttpRequest} {id : SessionId}
    (htype : h.contentType = some "application/json")
    (hbody : h.body = (SessionReference.json ⟨id⟩).bytes) : sessionOfBody h = .ok id := by
  have hjson : ((some "application/json").bind MediaType.parse?).map MediaType.isJson = some true := by
    decide
  have hreads := Json.Reader.reads_sessionReference ⟨id⟩ []
  rw [List.append_nil] at hreads
  have hread := Json.Reader.readFront_of_reads hreads
  have hsize : ¬ bodyLimit < (SessionReference.json ⟨id⟩).bytes.length := by
    have hchars : (SessionReference.json ⟨id⟩).chars =
        '{' :: (Json.quotedChars "session_id" ++ ':' :: Json.quotedChars id.text ++ ['}']) := rfl
    have hname := length_quotedChars_le "session_id"
    have hid := length_quotedChars_le id.text
    have hlength : id.text.length = 36 := String.length_ofList.trans id.length_chars
    have hbytes := Bytes.utf8ByteSize_le (SessionReference.json ⟨id⟩).chars
    simp only [hchars, List.length_cons, List.length_append, List.length_nil] at hbytes
    rw [Json.bytes, Bytes.length_toList, Json.text, hchars, bodyLimit]
    rw [hlength] at hid
    have hten : "session_id".length = 10 := by decide
    omega
  rw [sessionOfBody, htype, hjson, hbody]
  simp only [if_neg hsize, hread]

/-! ## Spellings -/

/-- The HTTP requests that spell a request. -/
def spellings : Request → List HttpRequest
  | .ping => []
  | .health => [⟨"GET", "/health", none, []⟩]
  | .createSession => [⟨"POST", "/api/session/create", none, []⟩]
  | .prolongSession id => ["/api/session/prolongate", "/api/session/ping"].map fun path =>
      ⟨"PUT", path, some "application/json", (SessionReference.json ⟨id⟩).bytes⟩
  | .destroySession id => [⟨"DELETE", "/api/session/" ++ id.text, none, []⟩]
  | .status => [⟨"GET", "/api/pool/status", none, []⟩]

/-- The members that an answer over HTTP adds to the desk's data. -/
def extraMembers (socketPath : String) : Request → List (String × Json)
  | .health => [("version", .string protocolVersion), ("socket", .string socketPath)]
  | _ => []

/-- A spelling calls for the request that it spells. -/
theorem callOf_spelling (socketPath : String) {r : Request} {h : HttpRequest}
    (hh : h ∈ spellings r) :
    h.method ≠ "HEAD" ∧ callOf socketPath h = .ok (.desk r (extraMembers socketPath r)) := by
  cases r with
  | ping => cases hh
  | health =>
      rw [List.mem_singleton.mp hh]
      have hresource : resource? (pathOf "/health") = some .health := by decide
      exact ⟨by decide, by rw [callOf, hresource]; rfl⟩
  | createSession =>
      rw [List.mem_singleton.mp hh]
      have hresource : resource? (pathOf "/api/session/create") = some .create := by decide
      exact ⟨by decide, by rw [callOf, hresource]; rfl⟩
  | status =>
      rw [List.mem_singleton.mp hh]
      have hresource : resource? (pathOf "/api/pool/status") = some .status := by decide
      exact ⟨by decide, by rw [callOf, hresource]; rfl⟩
  | prolongSession id =>
      obtain ⟨path, hpath, rfl⟩ := List.mem_map.mp hh
      have hput : "PUT" ≠ "HEAD" := by decide
      have hresource : resource? (pathOf path) = some .prolong := by
        clear hh
        revert path
        decide
      have hbody : sessionOfBody ⟨"PUT", path, some "application/json",
          (SessionReference.json ⟨id⟩).bytes⟩ = .ok id := sessionOfBody_text rfl rfl
      refine ⟨hput, ?_⟩
      rw [callOf, hresource]
      simp only [hbody]
      rfl
  | destroySession id =>
      rw [List.mem_singleton.mp hh]
      have hdelete : "DELETE" ≠ "HEAD" := by decide
      refine ⟨hdelete, ?_⟩
      rw [callOf, resource?_session]
      simp only [sessionOfSegment_chars]
      rfl

end SupportDesk.Http
