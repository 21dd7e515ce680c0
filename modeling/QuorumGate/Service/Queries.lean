import QuorumGate.Service.Ledger

/-!
# Queries

Reading with bounded listings, and how far a proposal is from approval.
-/

namespace QuorumGate.Queries

/-- Between one and the largest limit. -/
def bounded (largest limit : Int) : Int := max 1 (min limit largest)

def overview (id correlation : Text) : Service Overview := do
  let p ← Ledger.get id correlation
  let policy ← Policies.get p.policyId correlation
  return ⟨p, policy, p.signatures.length, policy.threshold, p.remaining policy,
    p.pendingSigners policy⟩

def proposals (largest : Int) (filter : Option Status) (limit : Int) (correlation : Text) :
    Service (List Proposal) :=
  Ledger.list filter (bounded largest limit) correlation

def policy (id correlation : Text) : Service Policy := Policies.get id correlation

def policies (largest limit : Int) (correlation : Text) : Service (List Policy) :=
  Policies.list (bounded largest limit) correlation

end QuorumGate.Queries
