import QuorumGate.Proposal.Json

/-!
# Requests

What a client asks for, before any rule of the gate has been applied to it.
-/

namespace QuorumGate

structure PolicyDraft where
  name : Text
  signers : List Text
  threshold : Int
  expirySeconds : Option Int
  createdBy : Text
  deriving DecidableEq, Repr

namespace PolicyDraft

def toJson (d : PolicyDraft) : Json :=
  .object [("name", .text d.name), ("signers", .listOf .text d.signers),
    ("threshold", .whole d.threshold), ("expiry_seconds", .ofOption .whole d.expirySeconds),
    ("created_by", .text d.createdBy)]

open Reading in
def ofJson : Json → Reading PolicyDraft :=
  object fun ms =>
    PolicyDraft.mk <$> required "name" text ms <*> required "signers" (list text) ms
      <*> required "threshold" int ms
      <*> optional "expiry_seconds" (fun v => check (atMost maxExpirySeconds) (int v)) ms
      <*> required "created_by" text ms

end PolicyDraft

structure ProposalDraft where
  policyId : Text
  contractName : Text
  contractId : Text
  wasmHash : Text
  network : Network
  proposer : Text
  description : Option Text
  deriving DecidableEq, Repr

/-- Whether a text is a digest of 32 bytes in hexadecimal digits of either case. -/
def isDigest (t : Text) : Bool :=
  t.glyphs.length == 64 && t.glyphs.all (·.isIn fun c => (Text.hexValue? c).isSome)

def digestPattern (t : Text) : Option IssueKind :=
  if !t.isWhole then some .badUnicode else if isDigest t then none else some .badPattern

namespace ProposalDraft

def toJson (d : ProposalDraft) : Json :=
  .object [("policy_id", .text d.policyId), ("contract_name", .text d.contractName),
    ("contract_id", .text d.contractId), ("wasm_hash", .text d.wasmHash),
    ("network", .text d.network.word), ("proposer", .text d.proposer),
    ("description", .optText d.description)]

open Reading in
def ofJson : Json → Reading ProposalDraft :=
  object fun ms =>
    ProposalDraft.mk <$> required "policy_id" text ms <*> required "contract_name" text ms
      <*> required "contract_id" text ms
      <*> required "wasm_hash" (fun v => check digestPattern (text v)) ms
      <*> required "network" (looseMember Network.ofWord?) ms <*> required "proposer" text ms
      <*> optional "description" text ms

end ProposalDraft

/-- An approval by one signer, with or without an artifact to verify. -/
structure SigningRequest where
  signer : Text
  data : Option Text
  deriving DecidableEq, Repr

namespace SigningRequest

def toJson (r : SigningRequest) : Json :=
  .object [("signer", .text r.signer), ("signature_data", .optText r.data)]

open Reading in
def ofJson : Json → Reading SigningRequest :=
  object fun ms =>
    SigningRequest.mk <$> required "signer" text ms <*> optional "signature_data" text ms

end SigningRequest

/-- How long the deployment may take, unless the default is meant. -/
structure ExecutionRequest where
  limit : Option Float
  deriving Repr

namespace ExecutionRequest

def toJson (r : ExecutionRequest) : Json := .object [("timeout_seconds", .ofOption .real r.limit)]

open Reading in
def ofJson : Json → Reading ExecutionRequest :=
  object fun ms =>
    ExecutionRequest.mk <$> optional "timeout_seconds" (fun v => check aboveZero (float v)) ms

end ExecutionRequest

end QuorumGate
