/-
# A connection and its end

To connect, a client creates a session and pings it until something goes wrong.  Whatever the
network makes of its requests, the client creates one session only, it pings if and only if it was
told the identifier of a session that was created, and it pings no session but this one.  Each ping
is followed by another one if the server answers that it was successful, and by the end of the
client in all other cases: if there is no answer, if its status is no success, if its body does not
read as an answer, or if it reads as a failure.

Of the ends that come from the creation, that of a busy desk is told apart by its exit code.  An
answer that says that a session was created, but not which, is a failure like any other.

The deliveries are those of a network in its order, and there may be more of them than the client
asks for.
-/

import SupportDesk.Client.Session
import SupportDesk.Proofs.Client.Report

namespace SupportDesk.Client

open Json.Reader

/-- The request by which a client creates a session. -/
def creation (server : String) : Call := ⟨"POST", server ++ "/api/session/create", none, 0⟩

/-- The request by which a client keeps a session alive, after an interval. -/
def renewal (server : String) (interval : Nat) (id : SessionId) : Call :=
  ⟨"PUT", server ++ "/api/session/ping", some (SessionReference.json ⟨id⟩), interval⟩

/-- The request is answered with success, and the body of the answer reads as the given value. -/
def Call.Yields {α : Type} (call : Call) (reader : Json.Reader α) (d : Delivery) (a : α) : Prop :=
  ∃ answer, call.outcome d = .ok answer ∧ Http.isSuccess answer.status = true ∧
    readAll reader answer.body = .ok a

/-- The exit code of a client that has ended. -/
def Run.code? (r : Run) : Option Nat := r.exit?.map (·.code)

/-! ## What an answer tells -/

variable {α : Type} {server : String} {interval : Nat} {id : SessionId}

/-- The content of an answer is what the request yields. -/
theorem content_eq_ok_iff {call : Call} {reader : Json.Reader α} {d : Delivery} {a : α} :
    content call reader (call.outcome d) = .ok a ↔ call.Yields reader d a := by
  unfold content Call.Yields
  cases call.outcome d with
  | error f => simp
  | ok answer =>
      simp only [Except.ok.injEq, exists_eq_left']
      split
      next hsuccess =>
        cases readAll reader answer.body <;> simp [hsuccess, Except.mapError]
      next hstatus => simp [hstatus]

/-- A request yields one value only. -/
theorem Call.Yields.unique {call : Call} {reader : Json.Reader α} {d : Delivery} {a b : α}
    (ha : call.Yields reader d a) (hb : call.Yields reader d b) : a = b := by
  rw [← content_eq_ok_iff] at ha hb
  exact Except.ok.inj (ha.symm.trans hb)

/-- The body of a ping is read back as the identifier of the session. -/
theorem renewal_names (server : String) (interval : Nat) (id : SessionId) :
    ∃ body, (renewal server interval id).body = some body ∧
      readWhole sessionReference body.text = .ok ⟨id⟩ := by
  refine ⟨_, rfl, ?_⟩
  have hreads := reads_sessionReference ⟨id⟩ []
  rw [List.append_nil] at hreads
  exact readWhole_of_reads hreads

/-! ## Steps -/

section Steps

variable {call : Call} {d : Delivery}

theorem receive_created (h : call.Yields clientCreateAnswer d ⟨.created, some id⟩) :
    (Stage.creating (some interval)).receive call (call.outcome d) =
      ⟨[.output ("Session created: " ++ id.text)], .pinging id (some interval)⟩ := by
  rw [Stage.receive, content_eq_ok_iff.mpr h]
  rfl

theorem receive_tooBusy {id? : Option SessionId}
    (h : call.Yields clientCreateAnswer d ⟨.tooBusy, id?⟩) :
    (Stage.creating (some interval)).receive call (call.outcome d) =
      finish [.error tooBusyText] (.left 2) := by
  rw [Stage.receive, content_eq_ok_iff.mpr h]
  rfl

/-- A creation that yields neither a session nor that the desk is busy fails. -/
theorem receive_notCreated (interval : Nat)
    (hbusy : ∀ id?, ¬ call.Yields clientCreateAnswer d ⟨.tooBusy, id?⟩)
    (hcreated : ∀ id, ¬ call.Yields clientCreateAnswer d ⟨.created, some id⟩) :
    ∃ f, (Stage.creating (some interval)).receive call (call.outcome d) =
      finish [] (.failed f) := by
  simp only [← content_eq_ok_iff] at hbusy hcreated
  rw [Stage.receive]
  unfold afterCreate
  split
  next f _ => exact ⟨f, rfl⟩
  next id hcontent => exact absurd hcontent (hcreated id)
  next id? hcontent => exact absurd hcontent (hbusy id?)
  next => exact ⟨.notCreated, rfl⟩

theorem receive_pinged (h : call.Yields actionAnswer d ⟨.success⟩) :
    (Stage.pinging id (some interval)).receive call (call.outcome d) =
      ⟨[], .pinging id (some interval)⟩ := by
  rw [Stage.receive, content_eq_ok_iff.mpr h]
  rfl

/-- A ping that does not yield success fails. -/
theorem receive_notPinged (id : SessionId) (interval : Nat)
    (h : ¬ call.Yields actionAnswer d ⟨.success⟩) :
    ∃ f, (Stage.pinging id (some interval)).receive call (call.outcome d) =
      finish [] (.failed f) := by
  rw [← content_eq_ok_iff] at h
  rw [Stage.receive]
  cases hcontent : content call actionAnswer (call.outcome d) with
  | error f => exact ⟨f, rfl⟩
  | ok answer =>
      obtain ⟨code⟩ := answer
      cases code with
      | success => exact absurd hcontent h
      | failed => exact ⟨.dropped id, rfl⟩

end Steps

/-! ## Runs -/

/-- A client that has ended sends nothing more. -/
theorem run_ended (server : String) (e : Ending) (deliveries : List Delivery) :
    run server (.ended e) deliveries = ⟨[], [], .ended e⟩ := by
  cases deliveries <;> rfl

/-- A step, and the run from the stage to which it leads. -/
theorem run_cons {stage : Stage} {call : Call} {step : Step} {d : Delivery}
    (hcall : stage.call? server = some call)
    (hstep : stage.receive call (call.outcome d) = step) (rest : List Delivery) :
    run server stage (d :: rest) =
      ⟨call :: (run server step.next rest).calls, step.lines ++ (run server step.next rest).lines,
        (run server step.next rest).stage⟩ := by
  rw [run, hcall, ← hstep]

/-- A step with which the client ends. -/
theorem run_finish {stage : Stage} {call : Call} {d : Delivery} {lines : List Line} {e : Ending}
    (hcall : stage.call? server = some call)
    (hstep : stage.receive call (call.outcome d) = finish lines e) (rest : List Delivery) :
    run server stage (d :: rest) = ⟨[call], lines, .ended e⟩ := by
  rw [run_cons hcall hstep, finish, run_ended, List.append_nil]

/-- What was sent and printed before has no part in the exit code. -/
theorem Run.code?_prepend (r : Run) (calls : List Call) (lines : List Line) :
    Run.code? ⟨calls, lines, r.stage⟩ = r.code? := by
  obtain ⟨_, _, stage⟩ := r
  cases stage <;> rfl

/-- Pings of a session are sent as long as those before were successful, and after the first that
was not the client ends with code 1. -/
def PingsUntilFailure (server : String) (interval : Nat) (id : SessionId)
    (deliveries : List Delivery) (pings : List Call) (code? : Option Nat) : Prop :=
  ∃ good others, deliveries = good ++ others ∧
    (∀ d ∈ good, (renewal server interval id).Yields actionAnswer d ⟨.success⟩) ∧
    (∀ d ∈ others.head?, ¬ (renewal server interval id).Yields actionAnswer d ⟨.success⟩) ∧
    pings = List.replicate (good.length + 1) (renewal server interval id) ∧
    code? = if others = [] then none else some 1

theorem run_pinging (server : String) (interval : Nat) (id : SessionId)
    (deliveries : List Delivery) :
    PingsUntilFailure server interval id deliveries
      (run server (.pinging id (some interval)) deliveries).calls
      (run server (.pinging id (some interval)) deliveries).code? := by
  induction deliveries with
  | nil => exact ⟨[], [], rfl, nofun, nofun, rfl, rfl⟩
  | cons d rest ih =>
      by_cases hyields : (renewal server interval id).Yields actionAnswer d ⟨.success⟩
      · rw [run_cons rfl (receive_pinged hyields), Run.code?_prepend]
        obtain ⟨good, others, rfl, hgood, hother, hpings, hcode⟩ := ih
        refine ⟨d :: good, others, rfl, ?_, hother, ?_, hcode⟩
        · exact List.forall_mem_cons.mpr ⟨hyields, hgood⟩
        · simp only [hpings, List.length_cons, List.replicate_succ]
      · obtain ⟨f, hfails⟩ := receive_notPinged id interval hyields
        rw [run_finish rfl hfails]
        refine ⟨[], d :: rest, rfl, nofun, ?_, rfl, rfl⟩
        rintro d' ⟨⟩
        exact hyields

/-- Pings are sent, and the client does not leave as from a busy desk. -/
theorem PingsUntilFailure.ne {deliveries : List Delivery} {pings : List Call} {code? : Option Nat}
    (h : PingsUntilFailure server interval id deliveries pings code?) :
    pings ≠ [] ∧ code? ≠ some 2 := by
  obtain ⟨good, others, -, -, -, rfl, rfl⟩ := h
  refine ⟨List.cons_ne_nil _ _, ?_⟩
  split <;> simp

/-- What becomes of a connection after the answer to its creation. -/
theorem connect_cases (server : String) (interval : Nat) (d : Delivery) (rest : List Delivery) :
    let r := carryOut ⟨server, .connect interval⟩ (d :: rest)
    let create := creation (trimmed server)
    (∃ id pings, create.Yields clientCreateAnswer d ⟨.created, some id⟩ ∧
      r.calls = create :: pings ∧
      PingsUntilFailure (trimmed server) interval id rest pings r.code?) ∨
    (∃ id?, create.Yields clientCreateAnswer d ⟨.tooBusy, id?⟩ ∧
      r.calls = [create] ∧ r.code? = some 2) ∨
    ((∀ id?, ¬ create.Yields clientCreateAnswer d ⟨.tooBusy, id?⟩) ∧
      (∀ id, ¬ create.Yields clientCreateAnswer d ⟨.created, some id⟩) ∧
      r.calls = [create] ∧ r.code? = some 1) := by
  intro r create
  have hconnect : r = run (trimmed server) (.creating (some interval)) (d :: rest) := rfl
  by_cases hcreated : ∃ id, create.Yields clientCreateAnswer d ⟨.created, some id⟩
  · obtain ⟨id, hid⟩ := hcreated
    rw [hconnect, run_cons rfl (receive_created hid), Run.code?_prepend]
    exact .inl ⟨id, _, hid, rfl, run_pinging ..⟩
  by_cases hbusy : ∃ id?, create.Yields clientCreateAnswer d ⟨.tooBusy, id?⟩
  · obtain ⟨id?, hid?⟩ := hbusy
    rw [hconnect, run_finish rfl (receive_tooBusy hid?)]
    exact .inr (.inl ⟨id?, hid?, rfl, rfl⟩)
  push Not at hcreated hbusy
  obtain ⟨f, hfails⟩ := receive_notCreated interval hbusy hcreated
  rw [hconnect, run_finish rfl hfails]
  exact .inr (.inr ⟨hbusy, hcreated, rfl, rfl⟩)

/-- A client that connects sends one creation.  It leaves with code 2 if and only if the desk is
busy, and it pings if and only if a session was created of which it was told the identifier: then
it pings this session, and no other, until the first ping that is not successful, which ends it
with code 1.  After any other answer to the creation it ends with code 1 and does not ping.  While
an answer is outstanding it waits. -/
theorem connect_until_failure (server : String) (interval : Nat) (deliveries : List Delivery) :
    let r := carryOut ⟨server, .connect interval⟩ deliveries
    let create := creation (trimmed server)
    ∃ pings, r.calls = create :: pings ∧
      (r.code? = some 2 ↔ ∃ d ∈ deliveries.head?, ∃ id?,
        create.Yields clientCreateAnswer d ⟨.tooBusy, id?⟩) ∧
      (pings ≠ [] ↔ ∃ d ∈ deliveries.head?, ∃ id,
        create.Yields clientCreateAnswer d ⟨.created, some id⟩) ∧
      (deliveries = [] → r.code? = none) ∧
      ∀ d rest, deliveries = d :: rest →
        (∀ id, create.Yields clientCreateAnswer d ⟨.created, some id⟩ →
          PingsUntilFailure (trimmed server) interval id rest pings r.code? ∧
          ∃ body, (renewal (trimmed server) interval id).body = some body ∧
            readWhole sessionReference body.text = .ok ⟨id⟩) ∧
        ((∀ id?, ¬ create.Yields clientCreateAnswer d ⟨.tooBusy, id?⟩) →
          (∀ id, ¬ create.Yields clientCreateAnswer d ⟨.created, some id⟩) →
          pings = [] ∧ r.code? = some 1) := by
  intro r create
  cases deliveries with
  | nil =>
      have hwaits : r.code? = none := rfl
      exact ⟨[], rfl, by simp [hwaits], by simp, fun _ => hwaits, nofun⟩
  | cons d rest =>
      simp only [List.head?_cons, Option.mem_def, Option.some.injEq, exists_eq_left']
      rcases connect_cases server interval d rest with
        ⟨id, pings, hid, hcalls, hpings⟩ | ⟨id?, hid?, hcalls, hcode⟩ |
        ⟨hbusy, hcreated, hcalls, hcode⟩
      · refine ⟨pings, hcalls, ?_, ?_, nofun, ?_⟩
        · refine iff_of_false hpings.ne.2 ?_
          rintro ⟨id?, hid?⟩
          cases hid.unique hid?
        · exact iff_of_true hpings.ne.1 ⟨id, hid⟩
        · rintro d' rest' ⟨⟩
          refine ⟨?_, fun _ hnone => absurd hid (hnone id)⟩
          intro id' hid'
          cases hid.unique hid'
          exact ⟨hpings, renewal_names ..⟩
      · have hother : ∀ id, ¬ create.Yields clientCreateAnswer d ⟨.created, some id⟩ := by
          intro id hid
          cases hid.unique hid?
        refine ⟨[], hcalls, iff_of_true hcode ⟨id?, hid?⟩, ?_, nofun, ?_⟩
        · exact iff_of_false (not_not.mpr rfl) (not_exists.mpr hother)
        · rintro d' rest' ⟨⟩
          exact ⟨fun id hid => absurd hid (hother id), fun hnone => absurd hid? (hnone id?)⟩
      · refine ⟨[], hcalls, ?_, ?_, nofun, ?_⟩
        · refine iff_of_false ?_ (not_exists.mpr hbusy)
          rw [hcode]
          decide
        · exact iff_of_false (not_not.mpr rfl) (not_exists.mpr hcreated)
        · rintro d' rest' ⟨⟩
          exact ⟨fun id hid => absurd hid (hcreated id), fun _ _ => ⟨rfl, hcode⟩⟩

/-- A delivered answer yields what its body reads as. -/
theorem Call.yields_of_readAll {call : Call} {reader : Json.Reader α} {body : List UInt8} {a : α}
    (haddress : call.address.isOk = true) (hread : readAll reader body = .ok a) :
    call.Yields reader (.answer 200 body) a := by
  unfold Call.Yields Call.outcome
  cases hurl : call.address with
  | error f =>
      rw [hurl] at haddress
      cases haddress
  | ok url => exact ⟨⟨200, body⟩, rfl, rfl, hread⟩

/-- A client learns that the desk is busy; another one is told of a session, is dropped at the
second ping, and does not ask for the answer that comes after. -/
theorem connect_until_failure_dropped :
    let server := "http://[::1]:8767/"
    let create := creation (trimmed server)
    let busy := Delivery.answer 200 (CreateAnswer.json ⟨.tooBusy, none⟩).bytes
    let created := Delivery.answer 200 (CreateAnswer.json ⟨.created, some (.ofNat 7)⟩).bytes
    let script := [Delivery.answer 200 (ActionAnswer.json ⟨.success⟩).bytes,
      .answer 200 (ActionAnswer.json ⟨.failed⟩).bytes, .lost]
    (carryOut ⟨server, .connect 1000⟩ [busy]).code? = some 2 ∧
      create.Yields clientCreateAnswer created ⟨.created, some (.ofNat 7)⟩ ∧
      ∃ pings, (carryOut ⟨server, .connect 1000⟩ (created :: script)).calls = create :: pings ∧
        pings ≠ [] ∧ PingsUntilFailure (trimmed server) 1000 (.ofNat 7) script pings
          (carryOut ⟨server, .connect 1000⟩ (created :: script)).code? := by
  intro server create busy created script
  have haddress : create.address.isOk = true := by decide +kernel
  have hyields (a : CreateAnswer) :
      create.Yields clientCreateAnswer (.answer 200 a.json.bytes) a := by
    have hreads := reads_clientCreateAnswer a []
    rw [List.append_nil] at hreads
    exact Call.yields_of_readAll haddress (readAll_of_reads hreads)
  have hcreated := hyields ⟨.created, some (.ofNat 7)⟩
  obtain ⟨-, -, hbusy, -⟩ := connect_until_failure server 1000 [busy]
  obtain ⟨pings, hcalls, -, hpings, -, huntil⟩ :=
    connect_until_failure server 1000 (created :: script)
  refine ⟨hbusy.mpr ⟨busy, rfl, none, hyields _⟩, hcreated, pings, hcalls, ?_, ?_⟩
  · exact hpings.mpr ⟨created, rfl, _, hcreated⟩
  · exact ((huntil created script rfl).1 _ hcreated).1

end SupportDesk.Client
