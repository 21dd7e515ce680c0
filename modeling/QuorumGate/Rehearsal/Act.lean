import QuorumGate.Draft
import QuorumGate.Service.Effect

/-!
# Scripts

A rehearsal runs the gate through a script. Besides the operations themselves a script holds cues
that say how the store, the verifier and the deployer behave when they are called next, and what
rivals do in between.
-/

namespace QuorumGate.Rehearsal

/-- The calls of a record store, for each of which there are cues of its own. -/
inductive Method where
  | insertPolicy
  | getPolicy
  | listPolicies
  | insertProposal
  | getProposal
  | listProposals
  | updateProposal
  deriving DecidableEq, Repr

def Method.of : StoreOp → Method
  | .insertPolicy _ => insertPolicy
  | .getPolicy _ => getPolicy
  | .listPolicies _ => listPolicies
  | .insertProposal _ => insertProposal
  | .getProposal _ => getProposal
  | .listProposals _ => listProposals
  | .updateProposal .. => updateProposal

/-- A draft whose network is still a word. -/
structure Sketch where
  policyId : Text
  contractName : Text
  contractId : Text
  wasmHash : Text
  network : Text
  proposer : Text
  description : Option Text

def Sketch.toDraft (s : Sketch) : Except Failure ProposalDraft :=
  match s.network.string?.bind Network.ofWord? with
  | some n =>
    .ok ⟨s.policyId, s.contractName, s.contractId, s.wasmHash, n, s.proposer, s.description⟩
  | none => .error (.unknownWord s.network "Network")

/-- A call of the store itself, with records that are still to be read. -/
inductive RawOp where
  | insertPolicy (v : Json)
  | getPolicy (id : Text)
  | listPolicies (limit : Int)
  | insertProposal (v : Json)
  | getProposal (id : Text)
  | listProposals (statuses : Option (List Text))
  | updateProposal (v : Json) (expected : Int)

/-- How a deployer's call ends. What it reports is still to be read. -/
inductive Ending where
  | usual
  | outcome (v : Json)
  | raises (label message : Text)
  | hangs

/-- A length of time as it is given: seconds and microseconds, whole or not. -/
structure Span where
  seconds : Number
  micros : Number

mutual

/-- One operation, carried out under a correlation id. -/
inductive Act where
  | mk (correlation : Text) (deed : Deed)

inductive Deed where
  | createPolicy (d : PolicyDraft)
  | getPolicy (id : Text)
  | listPolicies (limit : Int)
  | createProposal (s : Sketch)
  | sign (id : Text) (r : SigningRequest)
  | getProposal (id : Text)
  | load (id : Text)
  | listProposals (status : Option Text) (limit : Int)
  | payload (id : Text)
  | expire (id : Text) (rivals : List Act)
  | execute (id : Text) (limit : Option Number)
  | overview (id : Text)
  | queryProposals (status : Option Text) (limit : Int)
  | queryPolicy (id : Text)
  | queryPolicies (limit : Int)
  | sweep
  | runSweeper (rounds : Nat) (between : List (List Act))
  | advance (d : Span)
  | setClock (v : Json)
  | raw (op : RawOp)
  | cueStore (m : Method) (cues : List StoreCue)
  | cueVerifier (cues : List VerifierCue)
  | cueDeployer (cues : List DeployerCue)

/-- How one call of the store goes. A lost answer is one whose write has taken place. -/
inductive StoreCue where
  | pass
  | conflict
  | lost
  | unavailable
  | after (rivals : List Act) (next : StoreCue)

/-- What happens before a verifier answers, and its answer if it is not the usual one. -/
inductive VerifierCue where
  | mk (rivals : List Act) (valid : Option Bool)

inductive DeployerCue where
  | mk (rivals : List Act) (ending : Ending)

end

instance : Inhabited Deed := ⟨.sweep⟩

instance : Inhabited Act := ⟨.mk "" default⟩

instance : Inhabited StoreCue := ⟨.pass⟩

end QuorumGate.Rehearsal
