import QuorumGate.Proposal.Json
import QuorumGate.Transport.Retry

/-!
# A record store behind a registry

Records are kept by a remote registry. The version that an update expects travels in a header, and
the registry refuses the update when it holds another one.
-/

namespace QuorumGate

/-- Where a registry is found and with how much patience it is asked. -/
structure Registry where
  baseUrl : Text
  timeout : Number
  patience : Patience

namespace Registry

def policiesPath : String := "/api/multisig/policies"

def proposalsPath : String := "/api/multisig/proposals"

/-- A request to the registry, without its base URL. -/
structure Call where
  method : String
  path : Text
  params : Params := .none
  body : Option Json := none
  headers : List (Text × Text) := []

def outgoing (g : Registry) (c : Call) (correlation : Text) : Outgoing where
  method := c.method
  url := g.baseUrl.dropSlashes ++ c.path
  params := c.params
  headers := some (Correlation.propagated correlation ++ c.headers)
  body := c.body
  timeout := g.timeout

def send (g : Registry) (c : Call) (correlation : Text) : Transport (Int × Json.Members) :=
  Transport.send g.patience (g.outgoing c correlation)

/-- What a refused request says about itself. -/
def detail (payload : Json.Members) : Json := (Json.lookup "detail" payload).getD (.object payload)

/-- Ends with a failure unless the status reports success. -/
def checkStatus (status : Int) (payload : Json.Members) : Transport Unit := do
  if 400 ≤ status then
    let text := (detail payload).display
    Transport.note .error .registry (s!"registry request failed with status {status}: " ++ text)
    .fail (.unavailable (s!"registry responded {status}: " ++ text) status [])

/-- Reads a record from an answer. A malformed record counts as an unavailable registry. -/
def record (model : String) (read : Json → Reading α) (v : Json) : Transport α := do
  let ids ← Transport.freshSignatures (read v).draws
  match (read v).resultWith ids with
  | .ok a => return a
  | .error issues =>
    let summary := Issue.summary model issues
    .fail (.unavailable s!"invalid registry {model} payload: {summary}" 502 issues)

def policyRecord : Json → Transport Policy := record "MultisigPolicy" Policy.ofJson

def proposalRecord : Json → Transport Proposal := record "MultisigProposal" Proposal.ofJson

/-- What a value is called when it cannot be gone through. -/
def typeName : Json → String
  | .null => "NoneType"
  | .bool _ => "bool"
  | .number (.whole _) => "int"
  | .number (.real _) => "float"
  | .text _ => "str"
  | .list _ => "list"
  | .object _ => "dict"

/-- What is gone through for a listing: the items of a list, the keys of an object, the characters
of a text. -/
def listed (payload : Json.Members) : Transport (List Json) :=
  match Json.lookup "items" payload with
  | none => pure []
  | some (.list vs) => pure vs
  | some (.object ms) => pure (ms.map fun m => .text m.1)
  | some (.text s) => pure (s.glyphs.map fun g => .text ⟨[g]⟩)
  | some v => .fail (.notIterable (typeName v))

def records (read : Json → Transport α) : List Json → Transport (List α)
  | [] => pure []
  | v :: rest => do
    let a ← read v
    let as ← records read rest
    return a :: as

/-- The version that a refused update was met by, if the registry tells it. -/
def currentVersion (payload : Json.Members) : Found :=
  match Json.lookup "current_version" payload with
  | some (.number (.whole n)) => .version n
  | some (.bool b) => .flag b
  | _ => .nothing

def insert (g : Registry) (path id : Text) (v : Json) (read : Json → Transport α)
    (correlation : Text) : Transport α := do
  let (status, payload) ← g.send { method := "POST", path, body := some v } correlation
  if status = 409 then .fail (.conflict id 0 .nothing)
  checkStatus status payload
  read (.object payload)

def get (g : Registry) (path id : Text) (read : Json → Transport α) (correlation : Text) :
    Transport (Option α) := do
  let (status, payload) ← g.send { method := "GET", path := path ++ "/" ++ id } correlation
  if status = 404 then return none
  checkStatus status payload
  some <$> read (.object payload)

def list (g : Registry) (path : Text) (params : Params) (read : Json → Transport α)
    (correlation : Text) : Transport (List α) := do
  let (status, payload) ← g.send { method := "GET", path, params } correlation
  checkStatus status payload
  records read (← listed payload)

def update (g : Registry) (p : Proposal) (expected : Int) (correlation : Text) :
    Transport Proposal := do
  let (status, payload) ← g.send
    { method := "PUT"
      path := proposalsPath ++ "/" ++ p.id
      body := some { p with version := expected + 1 }.toJson
      headers := [("If-Match", expected.repr)] } correlation
  if status = 409 ∨ status = 412 then .fail (.conflict p.id expected (currentVersion payload))
  checkStatus status payload
  proposalRecord (.object payload)

def statusParams : Option (List Status) → Params
  | none => .none
  | some statuses => .pairs (statuses.map fun s => ("status", .text s.word))

def perform (g : Registry) (correlation : Text) : (op : StoreOp) → Transport op.Result
  | .insertPolicy p => g.insert policiesPath p.id p.toJson policyRecord correlation
  | .getPolicy id => g.get policiesPath id policyRecord correlation
  | .listPolicies limit =>
    g.list policiesPath (.fields [("limit", .whole limit)]) policyRecord correlation
  | .insertProposal p => g.insert proposalsPath p.id p.toJson proposalRecord correlation
  | .getProposal id => g.get proposalsPath id proposalRecord correlation
  | .listProposals statuses => do
    let ps ← g.list proposalsPath (statusParams statuses) proposalRecord correlation
    .ofExcept ((Instant.newestFirst Proposal.createdAt ps).mapError .time)
  | .updateProposal p expected => g.update p expected correlation

end Registry

end QuorumGate
