import QuorumGate.Json.Printer
import QuorumGate.Proposal.Basic
import QuorumGate.Text.Blank

/-!
# What a signer signs

The payload names the fields that pin one exact deployment, sorted by name.
-/

namespace QuorumGate

namespace Proposal

def payloadMembers (p : Proposal) : Json.Members :=
  [("contract_id", .text p.contractId), ("network", .text p.network.word),
   ("policy_id", .text p.policyId), ("wasm_hash", .text p.wasmHash)]

def payload (p : Proposal) : String := (Json.object p.payloadMembers).compact

end Proposal

/-- Accepts every artifact that is not blank. -/
def acceptsPresence (signer : Text) (payload : String) (signature : Text) : Bool :=
  !signer.strip.isEmpty && !payload.isEmpty && !signature.strip.isEmpty

end QuorumGate
