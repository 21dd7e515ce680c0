import QuorumGate.Proposal.Evaluation
import QuorumGate.Proposal.Payload
import QuorumGate.Service.Policies

/-!
# The ledger of proposals

Every write is conditional on the version that was read. A writer that meets a conflict loads the
record again and checks the rules again, so that no signature is lost and none is stored twice.
-/

namespace QuorumGate

namespace ProposalDraft

/-- The draft with the blanks around its names removed and its hash in lower case. -/
def normalized (d : ProposalDraft) : ProposalDraft :=
  { d with
    contractName := d.contractName.strip
    contractId := d.contractId.strip
    wasmHash := d.wasmHash.strip.lower
    proposer := d.proposer.strip }

/-- A digest in lower-case digits. -/
def isLowerDigest (t : Text) : Bool := isDigest t && t.glyphs.all fun g => !g.isIn Char.isUpper

/-- The first rule that a normalized draft breaks. -/
def objection? (d : ProposalDraft) : Option Rejection :=
  if d.contractName.isEmpty then some (.blankField "contract_name")
  else if d.contractId.isEmpty then some (.blankField "contract_id")
  else if d.proposer.isEmpty then some (.blankField "proposer")
  else if isLowerDigest d.wasmHash then none
  else some .malformedHash

def check (d : ProposalDraft) : Except Rejection Unit :=
  match d.objection? with
  | some r => .error r
  | none => .ok ()

def toProposal (d : ProposalDraft) (id : Text) (now : Instant) (expiresAt : Option Instant) :
    Proposal where
  id := id
  policyId := d.policyId
  contractName := d.contractName
  contractId := d.contractId
  wasmHash := d.wasmHash
  network := d.network
  proposer := d.proposer
  description := d.description
  createdAt := now
  expiresAt := expiresAt
  signatures := []
  status := .pending
  version := 1
  executedAt := none
  execution := none

end ProposalDraft

/-- The end of the window of a proposal created at a given time. -/
def Policy.expiryAt (p : Policy) (now : Instant) : Except TimeFault (Option Instant) :=
  match p.expirySeconds with
  | none => .ok none
  | some n => (Duration.ofSeconds n).bind fun d => (now.plus d).map some

namespace Ledger

def load (id correlation : Text) : Service Proposal := do
  match ← Service.store (.getProposal id) correlation with
  | some p => return p
  | none => Service.reject (.noProposal id)

/-- An insertion that conflicts with its own first attempt has succeeded, whatever was written to
the record since. -/
def recoverInsert (p : Proposal) (correlation : Text) : Service Proposal := do
  match ← Service.store (.getProposal p.id) correlation with
  | some q =>
    if q.sameCreation p then
      Service.note .info .ledger
        ("proposal " ++ p.id ++ " was stored by an earlier attempt")
      return q
    else Service.reject (.proposalIdTaken p.id)
  | none => Service.reject (.proposalIdTaken p.id)

def create (draft : ProposalDraft) (correlation : Text) : Service Proposal := do
  let policy ← Policies.get draft.policyId correlation
  let d := { draft.normalized with policyId := policy.id }
  Service.guard d.check
  let now ← Service.now
  let expiresAt ← Service.timed (policy.expiryAt now)
  let id ← Service.fresh .proposal
  let p := d.toProposal id now expiresAt
  let inserted ← Service.storeUnlessConflict (.insertProposal p) correlation
  let stored ← match inserted with
    | some q => pure q
    | none => recoverInsert p correlation
  Service.note .info .ledger
    ("created proposal " ++ stored.id ++ " for contract " ++ stored.contractId ++
      s!" on {stored.network.word} under policy " ++ policy.id)
  return stored

/-- Writes the expired stage, unless the record is terminal or still within its window. -/
def expireWithin (id correlation : Text) : Nat → Proposal → Service Proposal
  | 0, _ => Service.reject (.busy id .expiry)
  | left + 1, p =>
    if p.status.isTerminal then pure p
    else do
      let now ← Service.now
      let expired ← Service.timed (p.isExpired now)
      if expired then
        let update := StoreOp.updateProposal (p.withStatus .expired) p.version
        match ← Service.storeUnlessConflict update correlation with
        | some q =>
          let moment := Rejection.moment q.expiresAt
          Service.note .info .ledger ("proposal " ++ q.id ++ " expired at " ++ moment)
          return q
        | none =>
          let q ← load id correlation
          expireWithin id correlation left q
      else return p

def expire (attempts : Nat) (p : Proposal) (correlation : Text) : Service Proposal :=
  expireWithin p.id correlation attempts p

/-- What a signer wants to have recorded, and under which policy. -/
structure Signing where
  proposal : Text
  policy : Policy
  signer : Text
  data : Option Text
  attempts : Nat
  correlation : Text

namespace Signing

/-- Refuses a signature on a closed or overdue proposal, by a stranger, or by one who has signed. -/
def checkOpen (c : Signing) (p : Proposal) : Service Unit := do
  if p.status.isTerminal then Service.reject (.closed p.id p.status)
  let now ← Service.now
  let expired ← Service.timed (p.isExpired now)
  if expired then
    let _ ← expire c.attempts p c.correlation
    Service.reject (.overdue p.id)
  if !c.policy.signers.contains c.signer then
    Service.reject (.notASigner c.signer c.policy.id p.id)
  if p.hasSigned c.signer then Service.reject (.alreadySigned c.signer p.id)

/-- Refuses an artifact that the verifier does not accept. -/
def checkArtifact (c : Signing) (p : Proposal) : Service Unit := do
  match c.data with
  | none => return ()
  | some data =>
    let verified ← Service.verify c.signer p.payload data
    if !verified then
      Service.note .warning .ledger
        ("rejected signature from " ++ c.signer ++ " on proposal " ++ c.proposal)
      Service.reject (.unverified c.signer c.proposal)

/-- The proposal with one more signature, at the stage that follows from it. -/
def signed (c : Signing) (p : Proposal) (s : Signature) (now : Instant) : Service Proposal := do
  let q := p.sign s
  let next ← Service.timed (q.evaluate c.policy now)
  if next = .expired then
    let _ ← expire c.attempts p c.correlation
    Service.reject (.overdue c.proposal)
  Service.guard (p.status.checkMove next c.proposal)
  return q.withStatus next

/-- Signs a copy of the record. After a conflict the signature may have been stored all the same,
which the next copy shows. -/
def recordWithin (c : Signing) : Nat → Proposal → Service Proposal
  | 0, _ => Service.reject (.busy c.proposal .signature)
  | left + 1, p => do
    let now ← Service.now
    let id ← Service.fresh .signature
    let s : Signature := ⟨id, c.signer, c.data, now⟩
    let q ← c.signed p s now
    match ← Service.storeUnlessConflict (.updateProposal q p.version) c.correlation with
    | some stored =>
      Service.note .info .ledger
        (s!"recorded signature {stored.signatures.length}/{c.policy.threshold} from " ++ c.signer ++
          " on proposal " ++ c.proposal ++ s!" (status={stored.status.word})")
      return stored
    | none =>
      Service.note .info .ledger
        ("signature from " ++ c.signer ++ " on " ++ c.proposal ++
          " hit a version conflict, retrying")
      if left = 0 then Service.reject (.busy c.proposal .signature)
      else
        let p ← load c.proposal c.correlation
        if p.signatures.any s.same then return p
        else
          c.checkOpen p
          recordWithin c left p

end Signing

def sign (attempts : Nat) (id : Text) (request : SigningRequest) (correlation : Text) :
    Service Proposal := do
  let p ← load id correlation
  let policy ← Policies.get p.policyId correlation
  let c : Signing := ⟨id, policy, request.signer.strip, request.data, attempts, correlation⟩
  c.checkOpen p
  c.checkArtifact p
  c.recordWithin attempts p

def get (id correlation : Text) : Service Proposal := do
  let p ← load id correlation
  let policy ← Policies.get p.policyId correlation
  let now ← Service.now
  Service.timed (p.viewAt policy now)

def payload (id correlation : Text) : Service String := do
  return (← load id correlation).payload

/-- The stored stages that can turn out to be the wanted one. -/
def candidates : Status → List Status
  | .pending => [.pending]
  | .approved => [.approved]
  | .executed => [.executed]
  | .expired => [.expired, .pending, .approved]

/-- Whether a proposal belongs to a listing. -/
def wanted (filter : Option Status) (p : Proposal) : Bool := filter.all (· == p.status)

/-- The proposals as they are at one time, as far as they are wanted. Each policy is asked for
once. -/
def viewsAt (now : Instant) (filter : Option Status) (correlation : Text) :
    List (Text × Policy) → List Proposal → Service (List Proposal)
  | _, [] => pure []
  | known, p :: rest => do
    let policy ← match known.lookup p.policyId with
      | some policy => pure policy
      | none => Policies.get p.policyId correlation
    let view ← Service.timed (p.viewAt policy now)
    let views ← viewsAt now filter correlation ((p.policyId, policy) :: known) rest
    return if wanted filter view then view :: views else views

def list (filter : Option Status) (limit : Int) (correlation : Text) :
    Service (List Proposal) := do
  let ps ← Service.store (.listProposals (filter.map candidates)) correlation
  let now ← Service.now
  let views ← viewsAt now filter correlation [] ps
  let sorted ← Service.timed (Instant.newestFirst Proposal.createdAt views)
  return upTo limit sorted

end Ledger

end QuorumGate
