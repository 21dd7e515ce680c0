import QuorumGate.Proofs.Transport.BackOff

/-!
# When a deployment is reported as successful

The client goes by the status of the answer alone: it takes every answer below 400 for an accepted
deployment, be it a redirection, and every other one, as well as none at all, for one that was not
accepted. What the body says decides only whether there is a report, and what it tells.
-/

namespace QuorumGate

namespace Deployment

variable {d : Deployment} {carrier : Outgoing → Arrival} {o : Order} {a : Arrival} {r : Response}
  {ms : Json.Members} {report : Report}

namespace Answered

def client : Deployment := ⟨"http://registry:3001", .real 30.0⟩

def order : Order := ⟨"CABC", ⟨List.replicate 64 (.char 'a')⟩, .testnet, "key", "corr-1"⟩

/-- A response whose body is an object without members. -/
def bare (status : Int) : Response := ⟨status, [], [123, 125], 1⟩

end Answered

end Deployment

end QuorumGate
