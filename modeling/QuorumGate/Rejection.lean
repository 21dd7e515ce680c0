import QuorumGate.Proposal.Basic
import QuorumGate.Time.Text

/-!
# Rejections

Every reason for which the gate refuses a request. A reason belongs to a kind, and the kind
decides how the refusal is reported.
-/

namespace QuorumGate

/-- What was being written when too many rivals got in between. -/
inductive Contended where
  | signature
  | expiry
  | claim
  | outcome
  deriving DecidableEq, Repr

def Contended.activity : Contended → String
  | signature => "recording the signature"
  | expiry => "recording expiry"
  | claim => "claiming execution"
  | outcome => "recording the deployment outcome"

inductive Rejection where
  | policyWithoutName
  | policyWithoutCreator
  | policyWithoutSigners
  | blankSigner
  | repeatedSigners (signers : List Text)
  | thresholdOutOfRange (signers : Nat) (threshold : Int)
  | expiryNotPositive (seconds : Int)
  | expiryTooLong (seconds : Int)
  | blankField (name : String)
  | malformedHash
  | noPolicy (id : Text)
  | noProposal (id : Text)
  | notASigner (signer policy proposal : Text)
  | alreadySigned (signer proposal : Text)
  | unverified (signer proposal : Text)
  | closed (proposal : Text) (status : Status)
  | overdue (proposal : Text)
  | noSuchMove (proposal : Text) (current target : Status)
  | quorumMissing (proposal : Text) (collected : Nat) (threshold : Int)
  | executedBefore (proposal : Text) (executedAt : Option Instant)
  | windowClosed (proposal : Text) (expiresAt : Option Instant)
  | deploymentFailed (proposal : Text) (outcome : Outcome) (detail : Option Text)
  | busy (proposal : Text) (what : Contended)
  | policyIdTaken (id : Text)
  | proposalIdTaken (id : Text)
  deriving DecidableEq, Repr

inductive RejectionKind where
  | invalidPolicy
  | invalidProposal
  | notFound
  | unauthorizedSigner
  | duplicateSignature
  | invalidSignature
  | proposalTerminal
  | notApproved
  | proposalExpired
  | alreadyExecuted
  | executionFailed
  | concurrentModification
  deriving DecidableEq, Repr

namespace RejectionKind

def code : RejectionKind → String
  | invalidPolicy => "INVALID_POLICY"
  | invalidProposal => "INVALID_PROPOSAL"
  | notFound => "NOT_FOUND"
  | unauthorizedSigner => "UNAUTHORIZED_SIGNER"
  | duplicateSignature => "DUPLICATE_SIGNATURE"
  | invalidSignature => "INVALID_SIGNATURE"
  | proposalTerminal => "PROPOSAL_TERMINAL"
  | notApproved => "NOT_APPROVED"
  | proposalExpired => "PROPOSAL_EXPIRED"
  | alreadyExecuted => "ALREADY_EXECUTED"
  | executionFailed => "EXECUTION_FAILED"
  | concurrentModification => "CONCURRENT_MODIFICATION"

def title : RejectionKind → String
  | invalidPolicy => "Invalid Policy"
  | invalidProposal => "Invalid Proposal"
  | notFound => "Not Found"
  | unauthorizedSigner => "Unauthorized Signer"
  | duplicateSignature => "Duplicate Signature"
  | invalidSignature => "Invalid Signature"
  | proposalTerminal => "Proposal Closed"
  | notApproved => "Proposal Not Approved"
  | proposalExpired => "Proposal Expired"
  | alreadyExecuted => "Proposal Already Executed"
  | executionFailed => "Deployment Failed"
  | concurrentModification => "Concurrent Modification"

/-- The HTTP status of an answer that reports the refusal. -/
def httpStatus : RejectionKind → Int
  | invalidPolicy | invalidProposal | invalidSignature => 400
  | unauthorizedSigner => 403
  | notFound => 404
  | duplicateSignature | proposalTerminal | notApproved | alreadyExecuted
  | concurrentModification => 409
  | proposalExpired => 410
  | executionFailed => 502

end RejectionKind

namespace Rejection

def kind : Rejection → RejectionKind
  | policyWithoutName | policyWithoutCreator | policyWithoutSigners | blankSigner
  | repeatedSigners _ | thresholdOutOfRange .. | expiryNotPositive _ | expiryTooLong _ =>
    .invalidPolicy
  | blankField _ | malformedHash => .invalidProposal
  | noPolicy _ | noProposal _ => .notFound
  | notASigner .. => .unauthorizedSigner
  | alreadySigned .. => .duplicateSignature
  | unverified .. => .invalidSignature
  | closed .. | overdue _ => .proposalTerminal
  | noSuchMove _ current _ => if current.isTerminal then .proposalTerminal else .notApproved
  | quorumMissing .. => .notApproved
  | executedBefore .. => .alreadyExecuted
  | windowClosed .. => .proposalExpired
  | deploymentFailed .. => .executionFailed
  | busy .. | policyIdTaken _ | proposalIdTaken _ => .concurrentModification

/-- The record that the refusal is about. -/
def resource : Rejection → Option Text
  | policyWithoutName | policyWithoutCreator | policyWithoutSigners | blankSigner
  | repeatedSigners _ | thresholdOutOfRange .. | expiryNotPositive _ | expiryTooLong _
  | blankField _ | malformedHash => none
  | noPolicy id | noProposal id | policyIdTaken id | proposalIdTaken id => some id
  | notASigner _ _ id | alreadySigned _ id | unverified _ id => some id
  | closed id _ | overdue id | noSuchMove id _ _ | quorumMissing id _ _
  | executedBefore id _ | windowClosed id _ | deploymentFailed id _ _ | busy id _ => some id

def moment (t : Option Instant) : String := t.elim Json.spelling.nothing Instant.text

def message : Rejection → Text
  | policyWithoutName => "policy name must not be empty"
  | policyWithoutCreator => "created_by must not be empty"
  | policyWithoutSigners => "policy requires at least one signer"
  | blankSigner => "signer identities must not be empty"
  | repeatedSigners signers => "duplicate signers: " ++ Text.joined ", " signers
  | thresholdOutOfRange signers threshold =>
    s!"threshold must be between 1 and {signers}, got {threshold}"
  | expiryNotPositive seconds => s!"expiry_seconds must be positive, got {seconds}"
  | expiryTooLong seconds => s!"expiry_seconds must be at most {maxExpirySeconds}, got {seconds}"
  | blankField name => s!"{name} must not be empty"
  | malformedHash => "wasm_hash must be a 64 character hex digest"
  | noPolicy id => "policy " ++ id ++ " not found"
  | noProposal id => "proposal " ++ id ++ " not found"
  | notASigner signer policy _ => signer ++ " is not a signer of policy " ++ policy
  | alreadySigned signer id => signer ++ " already signed proposal " ++ id
  | unverified signer _ =>
    "signature from " ++ signer ++ " does not verify against the proposal payload"
  | closed id status => "proposal " ++ id ++ " is " ++ status.word
  | overdue id => "proposal " ++ id ++ " has expired"
  | noSuchMove _ current target =>
    s!"proposal is {current.word} and cannot move to {target.word}"
  | quorumMissing id collected threshold =>
    "proposal " ++ id ++ s!" has {collected} of {threshold} required signatures"
  | executedBefore id t => "proposal " ++ id ++ " was already executed at " ++ moment t
  | windowClosed id t => "proposal " ++ id ++ " expired at " ++ moment t
  | deploymentFailed id outcome detail =>
    "deployment for proposal " ++ id ++ s!" is {outcome.word}: " ++ displayOption detail
  | busy id what => "proposal " ++ id ++ " kept changing while " ++ what.activity
  | policyIdTaken id => "policy id " ++ id ++ " is already taken"
  | proposalIdTaken id => "proposal id " ++ id ++ " is already taken"

end Rejection

end QuorumGate
