import QuorumGate.Store.Operation

/-!
# A record store in memory

Records stand in the order in which they were first written. An update compares the stored version
with the expected one and writes the next version, in one step.
-/

namespace QuorumGate

structure Store where
  policies : List Policy
  proposals : List Proposal
  deriving DecidableEq, Repr

namespace Store

def empty : Store := ⟨[], []⟩

def policy? (s : Store) (id : Text) : Option Policy := s.policies.find? (·.id == id)

def proposal? (s : Store) (id : Text) : Option Proposal := s.proposals.find? (·.id == id)

/-- Puts a record in the place of the one with its id. -/
def replace (p : Proposal) (ps : List Proposal) : List Proposal :=
  ps.map fun q => if q.id == p.id then p else q

def insertPolicy (s : Store) (p : Policy) : Except Failure Store :=
  if (s.policy? p.id).isSome then .error (.conflict p.id 0 (.version 1))
  else .ok { s with policies := s.policies ++ [p] }

def insertProposal (s : Store) (p : Proposal) : Except Failure Store :=
  if (s.proposal? p.id).isSome then .error (.conflict p.id 0 (.version 1))
  else .ok { s with proposals := s.proposals ++ [p] }

def listPolicies (s : Store) (limit : Int) : Except Failure (List Policy) :=
  (Instant.newestFirst Policy.createdAt s.policies).mapError .time |>.map (upTo limit)

def listProposals (s : Store) (statuses : Option (List Status)) : Except Failure (List Proposal) :=
  let wanted := s.proposals.filter fun p => statuses.all (·.contains p.status)
  (Instant.newestFirst Proposal.createdAt wanted).mapError .time

/-- The version that a successful update leaves. -/
def committed (p : Proposal) (expected : Int) : Proposal := { p with version := expected + 1 }

def updateProposal (s : Store) (p : Proposal) (expected : Int) : Except Failure Store :=
  match s.proposal? p.id with
  | none => .error (.conflict p.id expected .nothing)
  | some q =>
    if q.version = expected then
      .ok { s with proposals := replace (committed p expected) s.proposals }
    else .error (.conflict p.id expected (.version q.version))

/-- The result of a write: its new store and the written record, or a failure and no change. -/
def written (s : Store) (a : α) : Except Failure Store → Except Failure α × Store
  | .ok t => (.ok a, t)
  | .error e => (.error e, s)

def perform (s : Store) : (op : StoreOp) → Except Failure op.Result × Store
  | .insertPolicy p => s.written p (s.insertPolicy p)
  | .getPolicy id => (.ok (s.policy? id), s)
  | .listPolicies limit => (s.listPolicies limit, s)
  | .insertProposal p => s.written p (s.insertProposal p)
  | .getProposal id => (.ok (s.proposal? id), s)
  | .listProposals statuses => (s.listProposals statuses, s)
  | .updateProposal p expected => s.written (committed p expected) (s.updateProposal p expected)

end Store

end QuorumGate
