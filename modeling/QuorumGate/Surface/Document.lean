import QuorumGate.Draft

/-!
# Response documents

A successful answer is an envelope around its data, a refused request gets a problem document.
Both carry the correlation id of the request.
-/

namespace QuorumGate

structure Envelope (α : Type) where
  correlation : Text
  contractVersion : Text
  data : α
  deriving Repr

namespace Envelope

def toJson (f : α → Json) (e : Envelope α) : Json :=
  .object [("correlation_id", .text e.correlation), ("contract_version", .text e.contractVersion),
    ("data", f e.data)]

open Reading in
def ofJson (f : Json → Reading α) : Json → Reading (Envelope α) :=
  object fun ms =>
    Envelope.mk <$> required "correlation_id" text ms
      <*> defaulted "contract_version" (pure ("v1" : Text)) text ms <*> required "data" f ms

end Envelope

/-- What a signer signs, as text and in hexadecimal. -/
structure SigningPayload where
  proposalId : Text
  payload : Text
  hex : Text
  deriving DecidableEq, Repr

namespace SigningPayload

def toJson (p : SigningPayload) : Json :=
  .object [("proposal_id", .text p.proposalId), ("payload", .text p.payload),
    ("payload_hex", .text p.hex)]

open Reading in
def ofJson : Json → Reading SigningPayload :=
  object fun ms =>
    SigningPayload.mk <$> required "proposal_id" text ms <*> required "payload" text ms
      <*> required "payload_hex" text ms

end SigningPayload

structure Problem where
  type : Text
  title : Text
  status : Int
  detail : Text
  path : Text
  correlation : Text
  code : Text
  resource : Option Text
  deriving DecidableEq, Repr

namespace Problem

def untyped : Text := "about:blank"

def toJson (p : Problem) : Json :=
  .object [("type", .text p.type), ("title", .text p.title), ("status", .whole p.status),
    ("detail", .text p.detail), ("instance", .text p.path),
    ("correlation_id", .text p.correlation), ("error_code", .text p.code),
    ("resource_id", .optText p.resource)]

open Reading in
def ofJson : Json → Reading Problem :=
  object fun ms =>
    Problem.mk <$> defaulted "type" (pure untyped) text ms <*> required "title" text ms
      <*> required "status" int ms <*> required "detail" text ms <*> required "instance" text ms
      <*> required "correlation_id" text ms <*> required "error_code" text ms
      <*> optional "resource_id" text ms

end Problem

end QuorumGate
