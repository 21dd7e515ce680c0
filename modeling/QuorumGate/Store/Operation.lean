import QuorumGate.Failure

/-!
# Operations of a record store

Policies are written once. A proposal is replaced only by a writer that knows its version.
-/

namespace QuorumGate

inductive StoreOp where
  | insertPolicy (p : Policy)
  | getPolicy (id : Text)
  | listPolicies (limit : Int)
  | insertProposal (p : Proposal)
  | getProposal (id : Text)
  | listProposals (statuses : Option (List Status))
  | updateProposal (p : Proposal) (expected : Int)
  deriving DecidableEq, Repr

namespace StoreOp

abbrev Result : StoreOp → Type
  | insertPolicy _ => Policy
  | getPolicy _ => Option Policy
  | listPolicies _ => List Policy
  | insertProposal _ | updateProposal .. => Proposal
  | getProposal _ => Option Proposal
  | listProposals _ => List Proposal

end StoreOp

/-- The leading items up to a limit; a negative limit counts from the end. -/
def upTo (limit : Int) (xs : List α) : List α :=
  if 0 ≤ limit then xs.take limit.toNat else xs.take (xs.length - limit.natAbs)

end QuorumGate
