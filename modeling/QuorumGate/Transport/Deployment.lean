import QuorumGate.Transport.Retry

/-!
# Deploying through a registry

A deployment is asked for once. When no answer arrives it may have taken place all the same, and
the report leaves that open.
-/

namespace QuorumGate

structure Deployment where
  baseUrl : Text
  timeout : Number

namespace Deployment

def outgoing (d : Deployment) (o : Order) : Outgoing where
  method := "POST"
  url := d.baseUrl.dropSlashes ++ "/api/contracts/" ++ o.contractId ++ "/deployments"
  params := .none
  headers := some (Correlation.propagated o.correlation ++ [(("Idempotency-Key" : Text), o.key)])
  body := some (.object [("wasm_hash", .text o.wasmHash), ("network", .text o.network.word)])
  timeout := d.timeout

/-- A deployment is not sent again. -/
def once : Patience := ⟨0, .real 0.2, []⟩

/-- The first of two members that says something. -/
def reference (payload : Json.Members) : Option Text :=
  let found := match Json.lookup "deployment_id" payload with
    | some v => if v.isEmptyish then Json.lookup "id" payload else some v
    | none => Json.lookup "id" payload
  match found with
  | none | some .null => none
  | some v => some v.display

/-- The report on an accepted deployment. -/
def accepted (payload : Json.Members) : Except Failure Report :=
  match Json.lookup "status" payload with
  | none | some .null => .ok ⟨true, false, reference payload, none⟩
  | some (.text s) => .ok ⟨true, false, reference payload, some s⟩
  | some _ => .error (.invalid "DeploymentOutcome" [⟨[.key "detail"], .notAText⟩])

def refusal (payload : Json.Members) : Text :=
  ((Json.lookup "detail" payload).getD (.object payload)).display

/-- The report on a deployment that was not accepted. -/
def refused (status : Int) (payload : Json.Members) : Report :=
  let detail := refusal payload
  let leftOpen := status = 503 && detail.startsWith Transport.failurePrefix
  ⟨false, leftOpen, none, some detail⟩

def deploy (d : Deployment) (o : Order) : Transport Report := do
  let (status, payload) ← Transport.send once (d.outgoing o)
  if status < 400 then .ofExcept (accepted payload)
  else
    let detail := refusal payload
    Transport.note .warning .deployment (s!"deployment request returned {status}: " ++ detail)
    return refused status payload

end Deployment

end QuorumGate
