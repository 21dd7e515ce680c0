import QuorumGate.Policy
import QuorumGate.Proposal.Status

/-!
# Proposals

A proposal asks for one exact deployment under a policy and gathers signatures for it. Its version
counts the writes.
-/

namespace QuorumGate

structure Signature where
  id : Text
  signer : Text
  data : Option Text
  signedAt : Instant
  deriving DecidableEq, Repr

/-- Equal up to the offset in which the time is written. -/
def Signature.same (s t : Signature) : Bool :=
  { s with signedAt := t.signedAt } == t && s.signedAt.same t.signedAt

@[simp] theorem Signature.same_self (s : Signature) : s.same s = true := by simp [same]

/-- The one execution of a proposal. -/
structure Execution where
  id : Text
  outcome : Outcome
  detail : Option Text
  reference : Option Text
  finishedAt : Option Instant
  deriving DecidableEq, Repr

def Execution.started (id : Text) : Execution := ⟨id, .inFlight, none, none, none⟩

structure Proposal where
  id : Text
  policyId : Text
  contractName : Text
  contractId : Text
  wasmHash : Text
  network : Network
  proposer : Text
  description : Option Text
  createdAt : Instant
  expiresAt : Option Instant
  signatures : List Signature
  status : Status
  version : Int
  executedAt : Option Instant
  execution : Option Execution
  deriving DecidableEq, Repr

/-- Whether two optional readings are both missing or name the same moment. -/
def sameMoment : Option Instant → Option Instant → Bool
  | none, none => true
  | some s, some t => s.same t
  | _, _ => false

@[simp] theorem sameMoment_self (t : Option Instant) : sameMoment t t = true := by
  cases t <;> simp [sameMoment]

namespace Proposal

def hasSigned (p : Proposal) (signer : Text) : Bool := p.signatures.any (·.signer == signer)

/-- Whether two proposals agree on all that is fixed at creation. -/
def sameCreation (p q : Proposal) : Bool :=
  p.id == q.id && p.policyId == q.policyId && p.contractName == q.contractName &&
    p.contractId == q.contractId && p.wasmHash == q.wasmHash && p.network == q.network &&
    p.proposer == q.proposer && p.description == q.description &&
    p.createdAt.same q.createdAt && sameMoment p.expiresAt q.expiresAt

def withStatus (p : Proposal) (s : Status) : Proposal := { p with status := s }

def sign (p : Proposal) (s : Signature) : Proposal := { p with signatures := p.signatures ++ [s] }

/-- Claims the execution for its holder. -/
def claim (p : Proposal) (execution : Text) (now : Instant) : Proposal :=
  { p with
    status := .executed
    executedAt := some now
    execution := some (.started execution) }

def withExecution (p : Proposal) (e : Execution) : Proposal := { p with execution := some e }

def isClaimedBy (p : Proposal) (execution : Text) : Bool :=
  match p.execution with
  | some e => e.id == execution
  | none => false

end Proposal

/-- What a deployer reports. -/
structure Report where
  succeeded : Bool
  indeterminate : Bool
  reference : Option Text
  detail : Option Text
  deriving DecidableEq, Repr

/-- A report that leaves open whether the deployment took place is no failure. -/
def Report.outcome (r : Report) : Outcome :=
  if r.succeeded then .succeeded else if r.indeterminate then .indeterminate else .failed

/-- What the caller of an execution is told. -/
structure Receipt where
  proposalId : Text
  status : Status
  executedAt : Option Instant
  outcome : Outcome
  reference : Option Text
  detail : Option Text
  deriving DecidableEq, Repr

/-- A proposal together with its policy and how far it is from approval. -/
structure Overview where
  proposal : Proposal
  policy : Policy
  collected : Int
  needed : Int
  remaining : Int
  pendingSigners : List Text
  deriving DecidableEq, Repr

end QuorumGate
