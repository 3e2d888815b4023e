/-
# Client and server agree on every answer

A desk answers over HTTP with the canonical form of a status report or of a code, and the client
reads it with its own readers.  For every report of a pool, whatever its roster and its figures,
the client reads what the desk reported, and its status command prints the four counters and one
line for each agent in the order of the roster, with the agent's number, kind, level, hours and
load.  For every outcome of creating, prolonging and ending a session the client reads the code of
the outcome, and the session that was created.

The figures of a report are assumed to fit 64 bits, as they do in a program.  For rosters of less
than two to the power of 24 agents this is shown, not assumed.
-/

import SupportDesk.Client.Session
import SupportDesk.Proofs.Client.Printed
import SupportDesk.Proofs.Wire.Interchange

namespace SupportDesk

open Json.Reader

variable {socketPath : String} {d : Desk} {now : Moment} {fresh : SessionId} {r : Request}
  {h : Http.HttpRequest}

/-! ## What the desk sends -/

/-- Apart from the report on health the body of an answer is the data of the reply. -/
theorem Http.answer_of_carries {data : Json} (hcarries : (Carrier.http h).Carries socketPath r)
    (hr : r ≠ .health) (hdata : (d.answer now fresh r).1.data = some data) :
    (answer d socketPath now fresh h).1 = ⟨200, some data⟩ := by
  obtain ⟨hmethod, extra, hcall⟩ := hcarries
  rw [answer_of_desk hcall hdata, if_neg hmethod, extra_of_callOf hcall, extraMembers_eq_nil hr,
    extend_nil]

/-- A value that is read wherever it is written is read from its bytes alone. -/
theorem Json.Reader.ReadsAs.readAll_bytes {α : Type} {r : Reader α} {v : Json} {a : α}
    (h : ReadsAs r v a) : readAll r v.bytes = .ok a := by
  have hread := h.reads [] nofun
  rw [List.append_nil] at hread
  exact readAll_of_reads hread

/-! ## What the client prints -/

namespace Client

/-- A report that is read is printed, and the command succeeds. -/
theorem exit_of_report {server : String} {call : Call} {url : Url} {report : PoolReport}
    {body : List UInt8} (hcall : Stage.asking.call? (trimmed server) = some call)
    (haddress : call.address = .ok url) (hread : readAll poolReport body = .ok report) :
    (carryOut ⟨server, .status⟩ [.answer 200 body]).exit? =
      some ⟨0, report.lines.map .output⟩ := by
  have houtcome : call.outcome (.answer 200 body) = .ok ⟨200, body⟩ := by
    simp only [Call.outcome, haddress]
    rfl
  have hcontent : content call poolReport (call.outcome (.answer 200 body)) = .ok report := by
    simp only [content, houtcome, hread]
    rfl
  have hstep : Stage.asking.receive call (call.outcome (.answer 200 body)) =
      finish (report.lines.map .output) .done := by
    simp only [Stage.receive, hcontent]
    rfl
  have hrun : carryOut ⟨server, .status⟩ [.answer 200 body] =
      ⟨[call], report.lines.map .output ++ [], .ended .done⟩ := by
    simp only [carryOut, Stage.ofTask, run, hcall, hstep]
    rfl
  rw [hrun, List.append_nil]
  simp only [Run.exit?, Ending.exit, List.append_nil]

end Client

/-! ## Agreement -/

/-- Client and server agree on every answer.  Whatever a desk reports of its pool, an HTTP request
for the status is answered with success; the client reads the body as a report that tells of the
counters and of the agents, in order, what the desk reports, and its status command prints lines
that show the report, one for each agent, and succeeds.  The body of an answer to creating,
prolonging or ending a session is read as the code of what became of the session, and with the
identifier that was given out.  The client knows every code that there is.

The figures are such as fit 64 bits.  So do those of every report that a run leads to, if the
roster has fewer than two to the power of 24 agents; and the lines of every such report stand in
the order of the roster, whatever its length. -/
theorem client_reads_every_answer (socketPath : String) :
    (∀ (d : Desk) (now : Moment) (fresh : SessionId) (h : Http.HttpRequest),
      (Carrier.http h).Carries socketPath .status → (d.pool.status now).FitsWords →
      ∃ body report lines, (Http.answer d socketPath now fresh h).1 = ⟨200, some body⟩ ∧
        readAll poolReport body.bytes = .ok report ∧ report.Tells (d.pool.status now) ∧
        Client.ShowsReport lines (d.pool.status now) ∧
        ∀ (server : String) (call : Client.Call) (url : Url),
          Client.Stage.asking.call? (Client.trimmed server) = some call →
          call.address = .ok url →
          (Client.carryOut ⟨server, .status⟩ [.answer 200 body.bytes]).exit? =
            some ⟨0, lines.map .output⟩) ∧
    (∀ (d : Desk) (now : Moment) (fresh : SessionId) (h : Http.HttpRequest),
      (Carrier.http h).Carries socketPath .createSession →
      ∃ body, (Http.answer d socketPath now fresh h).1 = ⟨200, some body⟩ ∧
        readAll clientCreateAnswer body.bytes = .ok
          (if (d.pool.create? fresh now).isSome then ⟨.created, some fresh⟩ else ⟨.tooBusy, none⟩)) ∧
    (∀ (d : Desk) (now : Moment) (fresh id : SessionId) (h : Http.HttpRequest),
      ((Carrier.http h).Carries socketPath (.prolongSession id) →
        ∃ body, (Http.answer d socketPath now fresh h).1 = ⟨200, some body⟩ ∧
          readAll actionAnswer body.bytes =
            .ok ⟨if (d.pool.prolong? id now).isSome then .success else .failed⟩) ∧
      ((Carrier.http h).Carries socketPath (.destroySession id) →
        ∃ body, (Http.answer d socketPath now fresh h).1 = ⟨200, some body⟩ ∧
          readAll actionAnswer body.bytes =
            .ok ⟨if (d.pool.destroy id now).2 then .success else .failed⟩)) ∧
    (∀ a : CreateAnswer, readAll clientCreateAnswer a.json.canonical.bytes = .ok a) ∧
    (∀ a : ActionAnswer, readAll actionAnswer a.json.canonical.bytes = .ok a) ∧
    ∀ (settings : PoolSettings) (start : Moment) (events : List Pool.Event),
      Pool.Situation.Admits Pool.Situation.Fresh (.start settings start) events →
      ∀ now, let report := ((Pool.Situation.start settings start).run events).pool.status now
        ((Allocation.roster settings).length < 2 ^ 24 → report.FitsWords) ∧
        report.agents.map (fun a => (a.id, a.kind, a.level, a.workingHours)) =
          (Allocation.roster settings).map fun agent =>
            (agent.id, agent.kind, agent.level, agent.workingHours) := by
  have hcreate (a : CreateAnswer) : readAll clientCreateAnswer a.json.canonical.bytes = .ok a := by
    have hread := reads_clientCreateAnswer a []
    rw [List.append_nil] at hread
    rw [a.canonical_json]
    exact readAll_of_reads hread
  have haction (a : ActionAnswer) : readAll actionAnswer a.json.canonical.bytes = .ok a := by
    have hread := reads_actionAnswer a []
    rw [List.append_nil] at hread
    rw [a.canonical_json]
    exact readAll_of_reads hread
  refine ⟨?_, ?_, ?_, hcreate, haction, ?_⟩
  · intro d now fresh h hcarries hfits
    have hread := (readsAs_poolReport hfits).readAll_bytes
    refine ⟨(d.pool.status now).json.canonical, .ofStatus (d.pool.status now), _,
      Http.answer_of_carries hcarries (by simp) rfl, hread, hfits.tells,
      Client.showsReport_lines hfits.tells, ?_⟩
    exact fun server call url hcall haddress => Client.exit_of_report hcall haddress hread
  · intro d now fresh h hcarries
    refine ⟨_, Http.answer_of_carries hcarries (by simp) ?_, hcreate _⟩
    cases hpool : d.pool.create? fresh now <;> simp only [Desk.answer, hpool] <;> rfl
  · intro d now fresh id h
    constructor
    · intro hcarries
      refine ⟨_, Http.answer_of_carries hcarries (by simp) ?_, haction _⟩
      cases hpool : d.pool.prolong? id now <;> simp only [Desk.answer, hpool] <;> rfl
    · intro hcarries
      exact ⟨_, Http.answer_of_carries hcarries (by simp) rfl, haction _⟩
  · intro settings start events hfresh now
    exact ⟨fun hroster => Pool.fitsWords_status hroster start hfresh now,
      Pool.agents_status settings start events now⟩

open Pool (smallDesk sampleHour) in
/-- A client asks a small desk for its status and has it printed; it has a session created, and
learns that an unknown one cannot be prolonged. -/
theorem client_reads_every_answer_smallDesk :
    let hour := sampleHour 10
    let server := "http://[::1]:8767/"
    let d : Desk := ⟨.ofSettings smallDesk hour, .manual hour, 0, none⟩
    let answer (h : Http.HttpRequest) := (Http.answer d "/run/desk.sock" hour (.ofNat 1) h).1
    let ask : Http.HttpRequest := ⟨"GET", "/api/pool/status", none, []⟩
    let post : Http.HttpRequest := ⟨"POST", "/api/session/create", none, []⟩
    let ping : Http.HttpRequest := ⟨"PUT", "/api/session/ping", some "application/json",
      (SessionReference.json ⟨.ofNat 2⟩).bytes⟩
    (∃ body report lines, answer ask = ⟨200, some body⟩ ∧
      readAll poolReport body.bytes = .ok report ∧ report.Tells (d.pool.status hour) ∧
      Client.ShowsReport lines (d.pool.status hour) ∧
      (Client.carryOut ⟨server, .status⟩ [.answer 200 body.bytes]).exit? =
        some ⟨0, lines.map .output⟩) ∧
      (∃ body, answer post = ⟨200, some body⟩ ∧
        readAll clientCreateAnswer body.bytes = .ok ⟨.created, some (.ofNat 1)⟩) ∧
      ∃ body, answer ping = ⟨200, some body⟩ ∧
        readAll actionAnswer body.bytes = .ok ⟨.failed⟩ := by
  intro hour server d answer ask post ping
  obtain ⟨hstatus, hcreate, haction, -, -, hreach⟩ := client_reads_every_answer "/run/desk.sock"
  have hcarries {r : Request} {h : Http.HttpRequest} (hh : h ∈ Http.spellings r) :
      (Carrier.http h).Carries "/run/desk.sock" r := by
    obtain ⟨hmethod, hcall⟩ := Http.callOf_spelling "/run/desk.sock" hh
    exact ⟨hmethod, _, hcall⟩
  have hfits : (d.pool.status hour).FitsWords :=
    (hreach smallDesk hour [] True.intro hour).1 (by decide +kernel)
  refine ⟨?_, ?_, ?_⟩
  · obtain ⟨body, report, lines, hanswer, hread, htells, hshows, hprints⟩ :=
      hstatus d hour (.ofNat 1) ask (hcarries List.mem_cons_self) hfits
    let call : Client.Call := ⟨"GET", Client.trimmed server ++ "/api/pool/status", none, 0⟩
    have haddress : call.address.isOk = true := by decide +kernel
    obtain ⟨url, hurl⟩ : ∃ url, call.address = .ok url := by
      cases h : call.address with
      | error f =>
          rw [h] at haddress
          cases haddress
      | ok url => exact ⟨url, rfl⟩
    exact ⟨body, report, lines, hanswer, hread, htells, hshows,
      hprints server call url rfl hurl⟩
  · obtain ⟨body, hanswer, hread⟩ := hcreate d hour (.ofNat 1) post (hcarries List.mem_cons_self)
    have hgranted : (d.pool.create? (.ofNat 1) hour).isSome = true := by decide +kernel
    rw [hgranted] at hread
    exact ⟨body, hanswer, hread⟩
  · obtain ⟨body, hanswer, hread⟩ := (haction d hour (.ofNat 1) (.ofNat 2) ping).1
      (hcarries (List.mem_cons_of_mem _ List.mem_cons_self))
    have hrefused : (d.pool.prolong? (.ofNat 2) hour).isSome = false := by decide +kernel
    rw [hrefused] at hread
    exact ⟨body, hanswer, hread⟩

end SupportDesk
