import QuorumGate.Proofs.Interpretation
import QuorumGate.Service.Executions
import QuorumGate.Transport.Deployment

/-!
# What a deployment comes to on the wire

The client sends one request, once, whatever comes back. What comes back is told apart in three
places: the sender gives an answer of its own in the place of an interrupted one, the client reads
the answer, and the gate takes every failure but a timeout for a failed deployment.
-/

namespace QuorumGate

/-- How an execution counts that has landed. -/
def Landing.outcome : Landing → Outcome
  | reported r => r.outcome
  | raised .. => .failed
  | timedOut => .indeterminate

@[simp] theorem Executions.finished_outcome (e : Text) (limit : Number) (landing : Landing)
    (now : Instant) : (finished e limit landing now).outcome = landing.outcome := by
  cases landing <;> rfl

namespace Deployment

variable {d : Deployment} {carrier : Outgoing → Arrival} {o : Order} {a : Arrival} {r : Response}

/-! ## One request -/

/-- The request as it goes out. -/
def request (d : Deployment) (o : Order) : Outgoing :=
  { d.outgoing o with method := (d.outgoing o).method.upper }

/-- What a carrier replies, with the requests that it is handed, the oldest first. -/
def carry (carrier : Outgoing → Arrival) : (r : Wire) → StateM (List Outgoing) r.Reply
  | .send o => fun sent => (carrier o, sent ++ [o])
  | .pause _ | .note _ => pure ()
  | .fresh _ => pure ⟨[]⟩

/-- What the sender makes of an arrival. -/
def received : Arrival → Except Failure (Int × Json.Members)
  | .response r => r.payload.map (r.status, ·)
  | .interrupted i => .ok (Transport.communicationFailure i.label)
  | .broken label message => .error (.foreign label message)
  | .silence => .error .silence

theorem interpret_send {α : Type} (o : Outgoing) (next : Arrival → Transport α)
    (sent : List Outgoing) :
    Program.interpret (I := wires) (carry carrier) (.ask (Wire.send o) next) sent =
      (next (carrier o)).interpret (carry carrier) (sent ++ [o]) := rfl

/-- Without patience, one request is sent. -/
theorem interpret_sendWithin (out : Outgoing) (sent : List Outgoing) :
    (Transport.sendWithin once out 1 0).interpret (carry carrier) sent =
      (received (carrier out), sent ++ [out]) := by
  rw [Transport.sendWithin]
  show Program.interpret (I := wires) (carry carrier) (.ask (Wire.send out) _) sent = _
  rw [interpret_send]
  cases carrier out with
  | response r =>
    show Program.interpret (I := wires) (carry carrier)
      (Program.ofExcept (r.payload.map (r.status, ·)) : Transport _) _ =
        (r.payload.map (r.status, ·), _)
    cases r.payload <;> rfl
  | interrupted i => rfl
  | broken label message => rfl
  | silence => rfl

/-- What the client makes of an answer. -/
def reported (answer : Int × Json.Members) : Except Failure Report :=
  if answer.1 < 400 then accepted answer.2 else .ok (refused answer.1 answer.2)

/-- What the client makes of an arrival. -/
def result (a : Arrival) : Except Failure Report := (received a).bind reported

/-- A deployment is one request, whatever comes back for it. -/
theorem interpret_deploy (d : Deployment) (carrier : Outgoing → Arrival) (o : Order)
    (sent : List Outgoing) : (d.deploy o).interpret (carry carrier) sent =
      (result (carrier (d.request o)), sent ++ [d.request o]) := by
  have one : (once.retries + 1).toNat = 1 := rfl
  have same : { d.outgoing o with method := (d.outgoing o).method.upper } = d.request o := rfl
  rw [deploy, Transport.send, one, same, Program.interpret_bind, interpret_sendWithin, result]
  cases received (carrier (d.request o)) with
  | error e => rfl
  | ok answer =>
    obtain ⟨status, ms⟩ := answer
    show Program.interpret (I := wires) (carry carrier) (if status < 400 then _ else _) _ =
      (reported (status, ms), _)
    rw [reported]
    split
    · cases accepted ms <;> rfl
    · rfl

/-- How a deployment lands that goes over a carrier. -/
def landing (d : Deployment) (carrier : Outgoing → Arrival) (o : Order) : Landing :=
  .ofResult ((d.deploy o).interpret (carry carrier) []).1

/-- An answer that says that the upstream could not be reached. -/
def LeavesOpen (r : Response) : Prop :=
  r.status = 503 ∧
    ∃ ms, r.payload = .ok ms ∧ (refusal ms).startsWith Transport.failurePrefix = true

/-- An answer that accepts, in words that can be read. -/
def Accepts (r : Response) : Prop := r.status < 400 ∧ ∃ report, r.payload.bind accepted = .ok report

/-- How a deployment counts for which something arrives. -/
inductive Means : Arrival → Outcome → Prop where
  | accepted {r : Response} (accepts : Accepts r) : Means (.response r) .succeeded
  | unread {r : Response} (status : r.status < 400) (unread : ¬Accepts r) :
      Means (.response r) .failed
  | refused {r : Response} (status : 400 ≤ r.status) (closed : ¬LeavesOpen r) :
      Means (.response r) .failed
  | leftOpen {r : Response} (status : LeavesOpen r) : Means (.response r) .indeterminate
  | interrupted (i : Interruption) : Means (.interrupted i) .indeterminate
  | silence : Means .silence .indeterminate
  | timedOut (message : Text) : Means (.broken Failure.timeoutLabel message) .indeterminate
  | broken {label : Text} (message : Text) (other : label ≠ Failure.timeoutLabel) :
      Means (.broken label message) .failed

theorem Means.of_failed (h : Means a .failed) :
    (∃ r, a = .response r ∧ (400 ≤ r.status ∨ ¬Accepts r)) ∨
      ∃ label message, label ≠ Failure.timeoutLabel ∧ a = .broken label message := by
  cases h with
  | unread _ unread => exact .inl ⟨_, rfl, .inr unread⟩
  | refused status => exact .inl ⟨_, rfl, .inl status⟩
  | @broken label message other => exact .inr ⟨label, message, other, rfl⟩

end Deployment

end QuorumGate
