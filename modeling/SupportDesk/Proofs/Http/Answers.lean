/-
# Answers over HTTP

A desk never fails to answer a request that it takes, so an HTTP request that calls for one is
answered with success and the data of the desk's reply.  The other requests are refused, each with
a status of its own, and leave the desk as it is.
-/

import Mathlib.Tactic.SplitIfs
import SupportDesk.Http.Api

namespace SupportDesk

variable {d : Desk} {now : Moment} {fresh : SessionId}

/-- A desk answers every request with success. -/
theorem Desk.exists_answer_eq_ok (d : Desk) (now : Moment) (fresh : SessionId) (r : Request) :
    ∃ data, (d.answer now fresh r).1 = .ok data := by
  cases r with
  | ping | health | status | destroySession id => exact ⟨_, rfl⟩
  | createSession | prolongSession id =>
      rw [answer]
      split
      · exact ⟨_, rfl⟩
      · exact ⟨_, rfl⟩

theorem Desk.exists_answer_data (d : Desk) (now : Moment) (fresh : SessionId) (r : Request) :
    ∃ data, (d.answer now fresh r).1.data = some data := by
  obtain ⟨data, hdata⟩ := d.exists_answer_eq_ok now fresh r
  rw [hdata]
  exact ⟨data.canonical, rfl⟩

namespace Http

variable {socketPath : String} {h : HttpRequest}

/-- The statuses of refusals. -/
def refusals : List Nat := [400, 404, 405, 413, 415, 422]

/-- A request to the desk is answered with the data of its reply. -/
theorem answer_of_desk {r : Request} {extra : List (String × Json)} {data : Json}
    (hcall : callOf socketPath h = .ok (.desk r extra))
    (hdata : (d.answer now fresh r).1.data = some data) :
    answer d socketPath now fresh h =
      (⟨200, if h.method = "HEAD" then none else some (extend extra data)⟩,
        (d.answer now fresh r).2) := by
  obtain ⟨given, hgiven⟩ := d.exists_answer_eq_ok now fresh r
  have hcontent : content (d.answer now fresh r).1 = .ok data := by
    rw [content, hdata, hgiven]
    rfl
  simp only [answer, hcall, hcontent]

theorem sessionOfBody_mem_refusals {status : Nat} (hbody : sessionOfBody h = .error status) :
    status ∈ refusals := by
  unfold sessionOfBody at hbody
  split at hbody
  · split_ifs at hbody
    · cases hbody
      decide
    · split at hbody <;> cases hbody <;> decide
  · cases hbody
    decide

theorem sessionOfSegment_mem_refusals {segment : List Char} {status : Nat}
    (hsegment : sessionOfSegment segment = .error status) : status ∈ refusals := by
  unfold sessionOfSegment at hsegment
  split at hsegment
  · cases hsegment
  · cases hsegment
    decide

theorem eq_error_of_map {α β ε : Type} {f : α → β} {x : Except ε α} {e : ε}
    (hmap : x.map f = .error e) : x = .error e := by
  cases x with
  | error e => exact congrArg Except.error (Except.error.inj hmap)
  | ok a => cases hmap

theorem exists_of_map_eq_ok {α β ε : Type} {f : α → β} {x : Except ε α} {b : β}
    (hmap : x.map f = .ok b) : ∃ a, f a = b := by
  cases x with
  | error e => cases hmap
  | ok a => exact ⟨a, Except.ok.inj hmap⟩

/-- An unknown path, a wrong method, and a body or a path that names no session are refused. -/
theorem callOf_mem_refusals {status : Nat} (hcall : callOf socketPath h = .error status) :
    status ∈ refusals := by
  unfold callOf at hcall
  split at hcall
  next =>
    cases hcall
    decide
  next resource hresource =>
    split_ifs at hcall
    · cases resource with
      | health | version | create | status => cases hcall
      | prolong => exact sessionOfBody_mem_refusals (eq_error_of_map hcall)
      | session segment => exact sessionOfSegment_mem_refusals (eq_error_of_map hcall)
    · cases hcall
      decide

/-- A request that does not succeed is refused, and the desk is left as it is. -/
theorem refused_of_status_ne (d : Desk) (now : Moment) (fresh : SessionId)
    (hstatus : (answer d socketPath now fresh h).1.status ≠ 200) :
    (answer d socketPath now fresh h).1.status ∈ refusals ∧
      (answer d socketPath now fresh h).2 = d := by
  cases hcall : callOf socketPath h with
  | error status =>
      have hanswer : answer d socketPath now fresh h = (⟨status, none⟩, d) := by
        simp only [answer, hcall]
      rw [hanswer]
      exact ⟨callOf_mem_refusals hcall, rfl⟩
  | ok call =>
      refine absurd ?_ hstatus
      cases call with
      | version => simp only [answer, hcall]
      | desk r extra =>
          obtain ⟨data, hdata⟩ := d.exists_answer_data now fresh r
          rw [answer_of_desk hcall hdata]

end Http

end SupportDesk
