import QuorumGate.Service.Ledger

/-!
# Execution

An approved proposal is claimed by a conditional write that carries a new execution id. Only the
holder of the stored id deploys, and afterwards records how the deployment went.
-/

namespace QuorumGate

/-- How often a write is tried, and how long a deployment may take by default. -/
structure ExecutionRules where
  attempts : Nat
  defaultLimit : Number

/-- The time that a deployment may take: zero and none stand for the default. -/
def ExecutionRules.limit (rules : ExecutionRules) (requested : Option Number) : Number :=
  match requested with
  | some n => if n.isZero then rules.defaultLimit else n
  | none => rules.defaultLimit

namespace Executions

/-- Refuses a proposal that is executed, overdue or not approved. -/
def checkExecutable (attempts : Nat) (policy : Policy) (p : Proposal) (correlation : Text) :
    Service Unit := do
  if p.status = .executed then Service.reject (.executedBefore p.id p.executedAt)
  let now ← Service.now
  let current ← Service.timed (p.evaluate policy now)
  if current = .expired then
    let _ ← Ledger.expire attempts p correlation
    Service.reject (.windowClosed p.id p.expiresAt)
  if current ≠ .approved then
    Service.reject (.quorumMissing p.id p.signatures.length policy.threshold)
  Service.guard (current.checkMove .executed p.id)

/-- Who claims which proposal. -/
structure Claim where
  proposal : Text
  execution : Text
  policy : Policy
  attempts : Nat
  correlation : Text

/-- Claims the execution on a copy of the record. After a conflict the claim may have been stored
all the same, which the next copy shows. -/
def Claim.within (c : Claim) : Nat → Proposal → Service Proposal
  | 0, _ => Service.reject (.busy c.proposal .claim)
  | left + 1, p => do
    checkExecutable c.attempts c.policy p c.correlation
    let now ← Service.now
    let update := StoreOp.updateProposal (p.claim c.execution now) p.version
    match ← Service.storeUnlessConflict update c.correlation with
    | some stored => return stored
    | none =>
      let p ← Ledger.load c.proposal c.correlation
      if p.isClaimedBy c.execution then return p
      else
        Service.note .info .execution
          ("execute on " ++ c.proposal ++ " hit a version conflict, re-checking")
        c.within left p

def claim (attempts : Nat) (id execution correlation : Text) : Service Proposal := do
  let p ← Ledger.load id correlation
  let policy ← Policies.get p.policyId correlation
  Claim.within ⟨id, execution, policy, attempts, correlation⟩ attempts p

def order (p : Proposal) (correlation : Text) : Order :=
  ⟨p.contractId, p.wasmHash, p.network, p.id, correlation⟩

/-- Calls the deployer, unless no time is left for it. -/
def callDeployer (o : Order) (limit : Number) : Service Landing :=
  if limit.atMostZero then pure .timedOut else .ask (Effect.deploy o limit) .done

/-- A finished execution. A call that did not end in time may have taken effect. -/
def finished (execution : Text) (limit : Number) (landing : Landing) (now : Instant) :
    Execution :=
  match landing with
  | .reported r => ⟨execution, r.outcome, r.detail, r.reference, some now⟩
  | .raised label message => ⟨execution, .failed, some (label ++ ": " ++ message), none, some now⟩
  | .timedOut =>
    let detail := s!"deployment did not complete within {limit.text}s"
    ⟨execution, .indeterminate, some detail, none, some now⟩

def noteLanding (id : Text) (limit : Number) : Landing → Service Unit
  | .reported _ => pure ()
  | .raised .. =>
    Service.note .error .execution ("deployment for proposal " ++ id ++ " raised")
  | .timedOut =>
    Service.note .error .execution
      ("deployment for proposal " ++ id ++ s!" timed out after {limit.text}s")

def deploy (p : Proposal) (execution : Text) (limit : Number) (correlation : Text) :
    Service Execution := do
  let landing ← callDeployer (order p correlation) limit
  noteLanding p.id limit landing
  let now ← Service.now
  return finished execution limit landing now

/-- Records a finished execution. -/
def recordWithin (id : Text) (e : Execution) (correlation : Text) :
    Nat → Proposal → Service Proposal
  | 0, _ => Service.reject (.busy id .outcome)
  | left + 1, p => do
    let update := StoreOp.updateProposal (p.withExecution e) p.version
    match ← Service.storeUnlessConflict update correlation with
    | some stored =>
      let level := if e.outcome = .succeeded then Level.info else Level.error
      let reference := displayOption e.reference
      Service.note level .execution
        ("proposal " ++ id ++ s!" deployment {e.outcome.word} (reference=" ++ reference ++ ")")
      return stored
    | none =>
      let p ← Ledger.load id correlation
      recordWithin id e correlation left p

def receipt (stored : Proposal) (e : Execution) : Receipt :=
  ⟨stored.id, stored.status, stored.executedAt, e.outcome, e.reference, e.detail⟩

def execute (rules : ExecutionRules) (id : Text) (requested : Option Number)
    (correlation : Text) : Service Receipt := do
  let execution ← Service.fresh .execution
  let claimed ← claim rules.attempts id execution correlation
  Service.note .info .execution
    ("proposal " ++ id ++ " claimed for execution " ++ execution)
  let e ← deploy claimed execution (rules.limit requested) correlation
  let stored ← recordWithin claimed.id e correlation rules.attempts claimed
  if e.outcome.isFailure then Service.reject (.deploymentFailed id e.outcome e.detail)
  return receipt stored e

end Executions

end QuorumGate
