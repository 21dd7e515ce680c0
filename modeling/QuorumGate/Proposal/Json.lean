import QuorumGate.Proposal.Basic

/-!
# Proposals as JSON

The members of each record, and how a record is read back from them.
-/

namespace QuorumGate

def optInstant : Option Instant → Json := .ofOption fun t => .text t.iso

namespace Signature

def toJson (s : Signature) : Json :=
  .object [("id", .text s.id), ("signer", .text s.signer), ("signature_data", .optText s.data),
    ("signed_at", .text s.signedAt.iso)]

open Reading in
/-- A signature without an identifier gets a new one. -/
def ofJson : Json → Reading Signature :=
  object fun ms =>
    Signature.mk <$> defaulted "id" draw text ms <*> required "signer" text ms
      <*> optional "signature_data" text ms <*> required "signed_at" instant ms

end Signature

namespace Execution

def toJson (e : Execution) : Json :=
  .object [("execution_id", .text e.id), ("outcome", .text e.outcome.word),
    ("detail", .optText e.detail), ("deployment_reference", .optText e.reference),
    ("finished_at", optInstant e.finishedAt)]

open Reading in
def ofJson : Json → Reading Execution :=
  object fun ms =>
    Execution.mk <$> required "execution_id" text ms
      <*> required "outcome" (member Outcome.ofWord?) ms <*> optional "detail" text ms
      <*> optional "deployment_reference" text ms <*> optional "finished_at" instant ms

end Execution

namespace Proposal

def members (p : Proposal) : Json.Members :=
  [("id", .text p.id), ("policy_id", .text p.policyId), ("contract_name", .text p.contractName),
   ("contract_id", .text p.contractId), ("wasm_hash", .text p.wasmHash),
   ("network", .text p.network.word), ("proposer", .text p.proposer),
   ("description", .optText p.description), ("created_at", .text p.createdAt.iso),
   ("expires_at", optInstant p.expiresAt),
   ("signatures", .listOf Signature.toJson p.signatures), ("status", .text p.status.word),
   ("version", .whole p.version), ("executed_at", optInstant p.executedAt),
   ("execution", .ofOption Execution.toJson p.execution)]

def toJson (p : Proposal) : Json := .object p.members

open Reading in
def ofJson : Json → Reading Proposal :=
  object fun ms =>
    Proposal.mk <$> required "id" text ms <*> required "policy_id" text ms
      <*> required "contract_name" text ms <*> required "contract_id" text ms
      <*> required "wasm_hash" text ms <*> required "network" (looseMember Network.ofWord?) ms
      <*> required "proposer" text ms <*> optional "description" text ms
      <*> required "created_at" instant ms <*> optional "expires_at" instant ms
      <*> defaulted "signatures" (pure []) (list Signature.ofJson) ms
      <*> defaulted "status" (pure .pending) (looseMember Status.ofWord?) ms
      <*> defaulted "version" (pure 1) int ms <*> optional "executed_at" instant ms
      <*> optional "execution" Execution.ofJson ms

end Proposal

namespace Report

def toJson (r : Report) : Json :=
  .object [("succeeded", .bool r.succeeded), ("indeterminate", .bool r.indeterminate),
    ("reference", .optText r.reference), ("detail", .optText r.detail)]

open Reading in
def ofJson : Json → Reading Report :=
  object fun ms =>
    Report.mk <$> required "succeeded" bool ms <*> defaulted "indeterminate" (pure false) bool ms
      <*> optional "reference" text ms <*> optional "detail" text ms

end Report

namespace Receipt

def toJson (r : Receipt) : Json :=
  .object [("proposal_id", .text r.proposalId), ("status", .text r.status.word),
    ("executed_at", optInstant r.executedAt), ("outcome", .text r.outcome.word),
    ("deployment_reference", .optText r.reference), ("detail", .optText r.detail)]

open Reading in
def ofJson : Json → Reading Receipt :=
  object fun ms =>
    Receipt.mk <$> required "proposal_id" text ms
      <*> required "status" (member Status.ofWord?) ms <*> optional "executed_at" instant ms
      <*> required "outcome" (member Outcome.ofWord?) ms
      <*> optional "deployment_reference" text ms <*> optional "detail" text ms

end Receipt

namespace Overview

def toJson (o : Overview) : Json :=
  .object [("proposal", o.proposal.toJson), ("policy", o.policy.toJson),
    ("signatures_collected", .whole o.collected), ("signatures_required", .whole o.needed),
    ("signatures_remaining", .whole o.remaining),
    ("pending_signers", .listOf .text o.pendingSigners)]

open Reading in
def ofJson : Json → Reading Overview :=
  object fun ms =>
    Overview.mk <$> required "proposal" Proposal.ofJson ms <*> required "policy" Policy.ofJson ms
      <*> required "signatures_collected" int ms <*> required "signatures_required" int ms
      <*> required "signatures_remaining" int ms
      <*> defaulted "pending_signers" (pure []) (list text) ms

end Overview

end QuorumGate
