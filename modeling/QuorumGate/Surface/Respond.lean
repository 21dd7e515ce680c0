import QuorumGate.Service.Executions
import QuorumGate.Service.Queries
import QuorumGate.Settings
import QuorumGate.Surface.Message
import QuorumGate.Surface.Routing

/-!
# Answering requests

A request is routed, read, handed to a service and answered with an envelope or a problem
document. Every answer but that to an unforeseen failure carries the correlation id of its
request.
-/

namespace QuorumGate.Surface

/-- The gate's process and what it stands in, as far as answers show it. `usualLimit` is the number
of items that is asked for by default, a setting that is looked at only when the process begins.
Bodies are read up to `depth`. Requests come by `scheme`, and one that names no host is taken to
name `address`. The pages of the annex come from outside. -/
structure Gate where
  settings : Settings
  draining : Bool
  usualLimit : Int
  depth : Nat
  scheme : String
  address : String
  pages : Annex → Incoming → Except Failure Page

namespace Gate

def attempts (g : Gate) : Nat := g.settings.attempts.toNat

def envelope (g : Gate) (correlation : Text) (status : Int) (form : α → Json) (data : α) :
    Outcoming :=
  answer status ((Envelope.mk correlation g.settings.contractVersion data).toJson form)

/-- Runs a service and puts its result into an envelope. -/
def serve (g : Gate) (correlation : Text) (status : Int) (form : α → Json) (p : Service α) :
    Service Outcoming := do
  return g.envelope correlation status form (← p)

/-- Goes on with what was read, or answers that it is invalid. -/
def withRead (x : Except Refusal α) (next : α → Service Outcoming) : Service Outcoming :=
  match x with
  | .ok a => next a
  | .error refusal => .ofExcept refusal

def limitOf (g : Gate) (query : String) : Reading Int :=
  Reading.under (.key "limit") <|
    match queryValue? "limit" query with
    | some s => Reading.check (Reading.atLeast 1) (Reading.int (.text s))
    | none => pure g.usualLimit

def statusOf (query : String) : Reading (Option Status) :=
  Reading.under (.key "status") <|
    match queryValue? "status" query with
    | some s => some <$> Reading.looseMember Status.ofWord? (.text s)
    | none => pure none

def readQuery (x : Reading α) : Except Refusal α :=
  (Reading.under (.key "query") x).result.mapError fun issues => .ok (invalid issues)

def rules (g : Gate) : ExecutionRules := ⟨g.attempts, g.settings.deploymentTimeout⟩

def signingPayload (id : Text) (payload : String) : SigningPayload :=
  ⟨id, payload, Text.hexText (Text.utf8Bytes payload)⟩

def state (status : Int) (word : String) : Outcoming :=
  answer status (.object [("status", .text word)])

def handle (g : Gate) (r : Incoming) (c : Text) : Endpoint → Service Outcoming
  | .annex a => .ofExcept ((g.pages a r).map Page.answer)
  | .createPolicy =>
    withRead ((r.content g.depth).read PolicyDraft.ofJson) fun d =>
      g.serve c 201 Policy.toJson (Policies.create d c)
  | .listPolicies =>
    withRead (readQuery (g.limitOf r.query)) fun limit =>
      g.serve c 200 (Json.listOf Policy.toJson) (Queries.policies g.settings.largestLimit limit c)
  | .showPolicy id => g.serve c 200 Policy.toJson (Queries.policy id c)
  | .createProposal =>
    withRead ((r.content g.depth).read ProposalDraft.ofJson) fun d =>
      g.serve c 201 Proposal.toJson (Ledger.create d c)
  | .listProposals =>
    withRead (readQuery (Prod.mk <$> statusOf r.query <*> g.limitOf r.query)) fun (filter, limit) =>
      g.serve c 200 (Json.listOf Proposal.toJson)
        (Queries.proposals g.settings.largestLimit filter limit c)
  | .showProposal id => g.serve c 200 Overview.toJson (Queries.overview id c)
  | .showPayload id =>
    g.serve c 200 (fun p => (signingPayload id p).toJson) (Ledger.payload id c)
  | .signProposal id =>
    withRead ((r.content g.depth).read SigningRequest.ofJson) fun request =>
      g.serve c 200 Proposal.toJson (Ledger.sign g.attempts id request c)
  | .executeProposal id =>
    withRead ((r.content g.depth).readOptional ExecutionRequest.ofJson) fun request =>
      let limit := (request.bind (·.limit)).map Number.real
      g.serve c 200 Receipt.toJson (Executions.execute g.rules id limit c)
  | .health => pure (state 200 "ok")
  | .live => pure (state 200 "live")
  | .ready => pure (if g.draining then state 503 "draining" else state 200 "ready")

/-- The host that a request names. Whether a URL can be made of it is not looked at. -/
def host (g : Gate) (r : Incoming) : String := (r.header? "host").getD g.address

/-- The target of a redirection to another path keeps the host and the query. -/
def target (g : Gate) (r : Incoming) (path : String) : String :=
  let query := if r.query.isEmpty then "" else "?" ++ r.query
  escapeTarget (g.scheme ++ "://" ++ g.host r ++ String.ofList (escapeMarks path) ++ query)

def dispatch (g : Gate) (r : Incoming) (c : Text) : Service Outcoming :=
  match route r.method r.path with
  | .found e => g.handle r c e
  | .wrongMethod allowed => pure ((plainAnswer 405 "Method Not Allowed").withHeader "allow" allowed)
  | .redirected path => pure ⟨307, [("location", g.target r path)], .nothing⟩
  | .unknown => pure (plainAnswer 404 "Not Found")

/-- The answer to a rejected request. -/
def rejected (path : String) (c : Text) (e : Rejection) : Outcoming :=
  problem ⟨Problem.untyped, e.kind.title, e.kind.httpStatus, e.message, path, c, e.kind.code,
    e.resource⟩

def unavailable (path : String) (c detail : Text) : Outcoming :=
  problem ⟨Problem.untyped, "Registry Unavailable", 503, detail, path, c, "REGISTRY_UNAVAILABLE",
    none⟩

def unforeseen (path : String) (c : Text) : Outcoming :=
  problem ⟨Problem.untyped, "Internal Server Error", 500, "An unexpected error occurred.", path, c,
    "INTERNAL_ERROR", none⟩

/-- The id that a request brings, or a new one. -/
def correlationOf (r : Incoming) : Program services ε Text :=
  match r.header? "x-correlation-id" with
  | some id => if id.isEmpty then new else pure id
  | none => new
where
  new : Program services ε Text := do
    let id ← Service.fresh .correlation
    return "corr_" ++ id.take 12

def correlationHeader : String := "x-correlation-id"

/-- Ends the work under a correlation id. A failure that nobody has foreseen is reported outside of
it, where the id is no longer known. -/
def failed (path : String) : Program services Empty Outcoming := do
  Service.correlate ""
  Service.note .error .surface s!"unhandled error on {path}"
  return unforeseen path ""

/-- Ends the work under a correlation id, and marks the answer with it, if it can be written. -/
def marked (path : String) (c : Text) (answer : Outcoming) : Program services Empty Outcoming :=
  if answer.body.all Json.isWritable then do
    Service.correlate ""
    return answer.withHeader correlationHeader c
  else failed path

/-- Answers a request. -/
def respond (g : Gate) (r : Incoming) : Program services Empty Outcoming := do
  let c ← correlationOf r
  Service.correlate c
  let path := reportedPath (g.host r) r.path
  match ← (g.dispatch r c).attempt with
  | .ok answer => marked path c answer
  | .error (.rejected e) =>
    Service.note .info .surface (s!"{e.kind.code} on {path}: " ++ e.message)
    marked path c (rejected path c e)
  | .error (.unavailable detail _ _) =>
    Service.note .error .surface (s!"registry unavailable on {path}: " ++ detail)
    marked path c (unavailable path c detail)
  | .error _ => failed path

end Gate

end QuorumGate.Surface
