import QuorumGate.Rehearsal.Stage
import QuorumGate.Service.Executions
import QuorumGate.Service.Queries
import QuorumGate.Service.Sweeper

/-!
# Playing a script

The operations of a script run one after the other against the cued surroundings. Rivals run at
once, against the same store, clock and identifiers, but without cues.
-/

namespace QuorumGate.Rehearsal

/-- Who answers the services, and by which rules they work. -/
structure Company where
  answer : (r : Effect) → Rehearse r.Reply
  attempts : Nat
  defaultLimit : Number
  largestLimit : Int
  interval : Number

abbrev Interlude := Rehearse (Except Failure Unit)

namespace Company

def run (c : Company) (form : α → Json) (p : Service α) : Rehearse (Except Failure Json) := do
  return (← p.interpret c.answer).map form

def payloadForm (payload : String) : Json :=
  .object [("payload", .text payload),
    ("hex", .text (Text.hexText (Text.utf8Bytes payload)))]

/-- Calls the store itself. -/
def runRaw (c : Company) (correlation : Text) (op : RawOp) : Rehearse (Except Failure Json) := do
  match ← readOp op with
  | .error e => return .error e
  | .ok op => c.run (resultJson op) (Service.store op correlation)

/-- Runs the rounds of the sweeper with an interlude after every pause. -/
def runSweeper (c : Company) : Nat → List Interlude → Interlude
  | 0, _ => return .ok ()
  | n + 1, interludes => do
    match ← (Sweeper.rounds c.attempts c.interval 1).interpret c.answer with
    | .error e => return .error e
    | .ok () =>
      match ← interludes.headD (pure (.ok ())) with
      | .error e => return .error e
      | .ok () => c.runSweeper n interludes.tail

def expire (c : Company) (id correlation : Text) (interlude : Interlude) :
    Rehearse (Except Failure Json) := do
  match ← (Ledger.load id correlation).interpret c.answer with
  | .error e => return .error e
  | .ok p =>
    match ← interlude with
    | .error e => return .error e
    | .ok () => c.run Proposal.toJson (Ledger.expire c.attempts p correlation)

def rules (c : Company) : ExecutionRules := ⟨c.attempts, c.defaultLimit⟩

/-- Carries out one operation. The interludes are what its rivals do. -/
def perform (c : Company) (interludes : List Interlude) (correlation : Text) :
    Deed → Rehearse (Except Failure Json)
  | .createPolicy d => c.run Policy.toJson (Policies.create d correlation)
  | .getPolicy id => c.run Policy.toJson (Policies.get id correlation)
  | .listPolicies limit => c.run (Json.listOf Policy.toJson) (Policies.list limit correlation)
  | .createProposal s =>
    match s.toDraft with
    | .ok d => c.run Proposal.toJson (Ledger.create d correlation)
    | .error e => return .error e
  | .sign id r => c.run Proposal.toJson (Ledger.sign c.attempts id r correlation)
  | .getProposal id => c.run Proposal.toJson (Ledger.get id correlation)
  | .load id => c.run Proposal.toJson (Ledger.load id correlation)
  | .listProposals status limit =>
    match status.mapM readStatus with
    | .ok filter => c.run (Json.listOf Proposal.toJson) (Ledger.list filter limit correlation)
    | .error e => return .error e
  | .payload id => c.run payloadForm (Ledger.payload id correlation)
  | .expire id _ => c.expire id correlation (interludes.headD (pure (.ok ())))
  | .execute id limit => c.run Receipt.toJson (Executions.execute c.rules id limit correlation)
  | .overview id => c.run Overview.toJson (Queries.overview id correlation)
  | .queryProposals status limit =>
    match status.mapM readStatus with
    | .ok filter =>
      c.run (Json.listOf Proposal.toJson)
        (Queries.proposals c.largestLimit filter limit correlation)
    | .error e => return .error e
  | .queryPolicy id => c.run Policy.toJson (Queries.policy id correlation)
  | .queryPolicies limit =>
    c.run (Json.listOf Policy.toJson) (Queries.policies c.largestLimit limit correlation)
  | .sweep => c.run (fun n : Nat => .whole n) (Sweeper.sweep c.attempts)
  | .runSweeper rounds _ => do
    let rounds := max rounds 1
    let slept := Json.list (List.replicate rounds (.number c.interval))
    return (← c.runSweeper rounds interludes).map fun () => slept
  | .advance d => return (← advance d).map fun () => .null
  | .setClock v => do
    match readClock v with
    | .error e => return .error e
    | .ok clock =>
      modify fun st => { st with clock }
      return .ok .null
  | .raw op => c.runRaw correlation op
  | .cueStore m cues => do
    modify fun st =>
      { st with
        storeCues := fun n => if n = m then st.storeCues n ++ cues else st.storeCues n }
    return .ok .null
  | .cueVerifier cues => do
    modify fun st => { st with verifierCues := st.verifierCues ++ cues }
    return .ok .null
  | .cueDeployer cues => do
    modify fun st => { st with deployerCues := st.deployerCues ++ cues }
    return .ok .null

end Company

/-- The rivals have services of their own, with the usual rules. -/
def rivalCompany : Company := ⟨plainly, 8, .real 120.0, 100, .real 30.0⟩

mutual

def rival : Act → Rehearse (Except Failure Json)
  | .mk correlation (.expire id rivals') =>
    rivalCompany.perform [rivals rivals'] correlation (.expire id [])
  | .mk correlation (.runSweeper n between) =>
    rivalCompany.perform (rivalsBetween between) correlation (.runSweeper n [])
  | .mk correlation deed => rivalCompany.perform [] correlation deed

/-- Rivals one after the other. A refusal or a lost race is their own affair; any other failure
breaks into whatever they have interrupted. -/
def rivals : List Act → Interlude
  | [] => return .ok ()
  | a :: rest => do
    match ← rival a with
    | .ok _ => rivals rest
    | .error e => if e.isOrdinary then rivals rest else return .error e

def rivalsBetween : List (List Act) → List Interlude
  | [] => []
  | acts :: rest => rivals acts :: rivalsBetween rest

end

/-- The id of the record that an operation is about. -/
def record : StoreOp → Text
  | .insertPolicy p => p.id
  | .insertProposal p | .updateProposal p _ => p.id
  | .getPolicy id | .getProposal id => id
  | .listPolicies _ | .listProposals _ => ""

def expectedVersion : StoreOp → Int
  | .updateProposal _ expected => expected
  | _ => 0

/-- The version that a successful operation has left. -/
def writtenVersion : (op : StoreOp) → op.Result → Int
  | .insertProposal _, p | .updateProposal .., p => p.version
  | _, _ => 1

/-- One call of the store under a cue. -/
def cuedStore (op : StoreOp) : StoreCue → Rehearse (Except Failure op.Result)
  | .pass => onStore op
  | .conflict => return .error (.conflict (record op) (expectedVersion op) .nothing)
  | .lost => do
    match ← onStore op with
    | .ok a =>
      return .error (.conflict (record op) (expectedVersion op) (.version (writtenVersion op a)))
    | .error e => return .error e
  | .unavailable => return .error (.unavailable "registry responded 503: down" 503 [])
  | .after acts next => do
    match ← rivals acts with
    | .error e => return .error e
    | .ok () => cuedStore op next

def takeStoreCue (m : Method) : Rehearse StoreCue :=
  modifyGet fun st =>
    match st.storeCues m with
    | [] => (.pass, st)
    | cue :: rest =>
      (cue, { st with storeCues := fun n => if n = m then rest else st.storeCues n })

def takeVerifierCue : Rehearse VerifierCue :=
  modifyGet fun st =>
    match st.verifierCues with
    | [] => (.mk [] none, st)
    | cue :: verifierCues => (cue, { st with verifierCues })

def takeDeployerCue : Rehearse DeployerCue :=
  modifyGet fun st =>
    match st.deployerCues with
    | [] => (.mk [] .usual, st)
    | cue :: deployerCues => (cue, { st with deployerCues })

def Ending.landing : Ending → Landing
  | usual => .reported usualReport
  | outcome v => .ofResult ((Report.ofJson v).result.mapError (.invalid "DeploymentOutcome"))
  | raises label message => .ofResult (.error (.foreign label message))
  | hangs => .ofResult (.error .silence)

/-- The surroundings as the cues have them. -/
def onCue : (r : Effect) → Rehearse r.Reply
  | .store op _ => do cuedStore op (← takeStoreCue (.of op))
  | .verify signer payload signature => do
    modify fun st => { st with verified := (signer, payload, signature) :: st.verified }
    let .mk acts valid ← takeVerifierCue
    match ← rivals acts with
    | .error e => return .error e
    | .ok () => return .ok (valid.getD (acceptsPresence signer payload signature))
  | .deploy o _ => do
    takeOrder o
    let .mk acts ending ← takeDeployerCue
    match ← rivals acts with
    | .error e => return .ofResult (.error e)
    | .ok () => return ending.landing
  | r => plainly r

/-- What one operation of a script has led to. -/
structure Scene where
  result : Except Failure Json
  stored : List Proposal
  orders : List Order
  verified : List (Text × String × Text)
  lines : List (Note × Text)

def interludesOf : Deed → List Interlude
  | .expire _ acts => [rivals acts]
  | .runSweeper _ between => rivalsBetween between
  | _ => []

def scene (c : Company) : Act → Rehearse Scene
  | .mk correlation deed => do
    let result ← c.perform (interludesOf deed) correlation deed
    let lines ← takeLines
    modifyGet fun st =>
      (⟨result, st.store.proposals, st.orders.reverse, st.verified.reverse, lines⟩,
        { st with orders := [], verified := [] })

/-- The rules of the services in a script. -/
structure Casting where
  attempts : Int
  defaultLimit : Number
  largestLimit : Int
  interval : Number

def Casting.company (c : Casting) : Company :=
  ⟨onCue, c.attempts.toNat, c.defaultLimit, c.largestLimit, c.interval⟩

def play (c : Casting) (clock : Instant) (acts : List Act) : List Scene :=
  ((acts.mapM (scene c.company)).run (Stage.opening clock)).1

end QuorumGate.Rehearsal
