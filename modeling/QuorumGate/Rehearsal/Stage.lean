import QuorumGate.Proposal.Json
import QuorumGate.Proposal.Payload
import QuorumGate.Rehearsal.Act
import QuorumGate.Store.Memory
import QuorumGate.Text.Ascii
import QuorumGate.Transport.Url
import QuorumGate.Transport.Wire

/-!
# The stage

What surrounds the gate in a rehearsal: a clock that moves only when told, numbered identifiers, a
store in memory, and a queue of replies for outgoing requests. Everything that is asked of the
surroundings is written down.
-/

namespace QuorumGate.Rehearsal

/-- How many identifiers of each kind have been given out. -/
structure Counters where
  policy : Nat
  proposal : Nat
  signature : Nat
  execution : Nat
  correlation : Nat
  deriving DecidableEq, Repr

namespace Counters

def zero : Counters := ⟨0, 0, 0, 0, 0⟩

/-- Counts one more of a kind. -/
def next (c : Counters) : IdKind → Nat × Counters
  | .policy => (c.policy + 1, { c with policy := c.policy + 1 })
  | .proposal => (c.proposal + 1, { c with proposal := c.proposal + 1 })
  | .signature => (c.signature + 1, { c with signature := c.signature + 1 })
  | .execution => (c.execution + 1, { c with execution := c.execution + 1 })
  | .correlation => (c.correlation + 1, { c with correlation := c.correlation + 1 })

end Counters

def kindDigit : IdKind → Char
  | .policy => 'a'
  | .proposal => 'b'
  | .signature => 'c'
  | .execution => 'd'
  | .correlation => 'e'

/-- The 32 digits of an identifier, in the groups in which they are written with dashes. -/
def digitGroups (kind : IdKind) (n : Nat) : List (List Char) :=
  let head := kindDigit kind :: Text.hexDigits 11 n
  [head.take 8, head.drop 8, "4000".toList, "8000".toList, "000000000000".toList]

def identifier (kind : IdKind) (n : Nat) : Text :=
  let groups := digitGroups kind n
  String.ofList <| match kind with
    | .policy | .proposal => List.intercalate ['-'] groups
    | .signature | .execution | .correlation => groups.flatten

inductive ReplyBody where
  | empty
  | bytes (bs : Text.Bytes)
  | text (s : String)
  | json (v : Json)
  | echo (patch : Json.Members)

/-- What comes back for the next outgoing request. -/
inductive ReplyCue where
  | raises (label message : Text)
  | hangs
  | response (status : Int) (headers : List (String × String)) (body : ReplyBody)

structure Stage where
  clock : Instant
  counters : Counters
  correlation : Text
  lines : List (Note × Text)
  store : Store
  storeCues : Method → List StoreCue
  verifierCues : List VerifierCue
  deployerCues : List DeployerCue
  replies : List ReplyCue
  orders : List Order
  verified : List (Text × String × Text)
  sent : List Outgoing
  pauses : List Number

def Stage.opening (clock : Instant) : Stage where
  clock := clock
  counters := .zero
  correlation := ""
  lines := []
  store := .empty
  storeCues := fun _ => []
  verifierCues := []
  deployerCues := []
  replies := []
  orders := []
  verified := []
  sent := []
  pauses := []

abbrev Rehearse := StateM Stage

def freshId (kind : IdKind) : Rehearse Text :=
  modifyGet fun st =>
    let (n, counters) := st.counters.next kind
    (identifier kind n, { st with counters })

def freshIds (kind : IdKind) : Nat → Rehearse (List Text)
  | 0 => pure []
  | n + 1 => do
    let id ← freshId kind
    return id :: (← freshIds kind n)

/-- Writes a line down under the correlation id of the moment. -/
def writeDown (line : Note) : Rehearse Unit :=
  modify fun st => { st with lines := (line, st.correlation) :: st.lines }

def onStore (op : StoreOp) : Rehearse (Except Failure op.Result) :=
  modifyGet fun st =>
    let (result, store) := st.store.perform op
    (result, { st with store })

def rest (seconds : Number) : Rehearse Unit :=
  modify fun st => { st with pauses := seconds :: st.pauses }

/-- What a deployer reports when no cue says otherwise. -/
def usualReport : Report := ⟨true, false, some "dep_1", some "submitted"⟩

def takeOrder (o : Order) : Rehearse Unit :=
  modify fun st => { st with orders := o :: st.orders }

/-- The surroundings without any cue. -/
def plainly : (r : Effect) → Rehearse r.Reply
  | .now => return (← get).clock
  | .fresh kind => freshId kind
  | .note line => writeDown line
  | .correlate id => modify fun st => { st with correlation := id }
  | .store op _ => onStore op
  | .verify signer payload signature => return .ok (acceptsPresence signer payload signature)
  | .deploy o _ => do
    takeOrder o
    return .reported usualReport
  | .pause seconds => rest seconds

/-- Reads a record, taking identifiers for the signatures that have none. -/
def readRecord (model : String) (read : Json → Reading α) (v : Json) :
    Rehearse (Except Failure α) := do
  let ids ← freshIds .signature (read v).draws
  return ((read v).resultWith ids).mapError (.invalid model)

/-- Reads the time to which a clock is set. -/
def readClock (v : Json) : Except Failure Instant :=
  (Reading.instant v).result.mapError (.invalid "datetime")

def readStatus (s : Text) : Except Failure Status :=
  match s.string?.bind Status.ofWord? with
  | some status => .ok status
  | none => .error (.unknownWord s "ProposalStatus")

def readStatuses (words : List Text) : Except Failure (List Status) := words.mapM readStatus

/-- The operation with its records read. -/
def readOp : RawOp → Rehearse (Except Failure StoreOp)
  | .insertPolicy v =>
    return (← readRecord "MultisigPolicy" Policy.ofJson v).map StoreOp.insertPolicy
  | .getPolicy id => return .ok (.getPolicy id)
  | .listPolicies limit => return .ok (.listPolicies limit)
  | .insertProposal v =>
    return (← readRecord "MultisigProposal" Proposal.ofJson v).map StoreOp.insertProposal
  | .getProposal id => return .ok (.getProposal id)
  | .listProposals statuses => return (statuses.mapM readStatuses).map StoreOp.listProposals
  | .updateProposal v expected =>
    return (← readRecord "MultisigProposal" Proposal.ofJson v).map (.updateProposal · expected)

/-- A record, a list of records, or nothing, as JSON. -/
def resultJson : (op : StoreOp) → op.Result → Json
  | .insertPolicy _, p => p.toJson
  | .getPolicy _, p => .ofOption Policy.toJson p
  | .listPolicies _, ps => .listOf Policy.toJson ps
  | .insertProposal _, p | .updateProposal .., p => p.toJson
  | .getProposal _, p => .ofOption Proposal.toJson p
  | .listProposals _, ps => .listOf Proposal.toJson ps

/-- The bytes of a reply to a given request. -/
def ReplyBody.toBytes (o : Outgoing) : ReplyBody → Text.Bytes
  | empty => []
  | bytes bs => bs
  | text s => Text.utf8Bytes s
  | json v => Text.utf8Bytes v.compact
  | echo patch =>
    let own := match o.body with
      | some (.object ms) => ms
      | _ => []
    Text.utf8Bytes (Json.object (patch.foldl (fun ms m => Json.put m.1 m.2 ms) own)).compact

/-- The first character of headers outside of ASCII. -/
def headerFault? (headers : List (String × String)) : Option Text.AsciiFault :=
  headers.findSome? fun h => Text.AsciiFault.of? h.1 <|> Text.AsciiFault.of? h.2

/-- How deep lists and objects may stand inside one another in what is read on the stage. -/
def greatestDepth : Nat := 970

/-- What a cue makes of a request. Only a response needs a URL that can be taken apart, and ASCII
in its headers. -/
def ReplyCue.toArrival (o : Outgoing) : ReplyCue → Arrival
  | raises label message =>
    match label.string?.bind Interruption.ofLabel? with
    | some i => .interrupted i
    | none => .broken label message
  | hangs => .silence
  | response status headers body =>
    match Url.fault? o.url with
    | some fault => .broken fault.label fault.message
    | none =>
      match headerFault? headers with
      | some fault => .broken Text.AsciiFault.label fault.message
      | none => .response ⟨status, headers, body.toBytes o, greatestDepth⟩

/-- Sends a request: the next reply comes back, or no connection is made. -/
def sendOut (o : Outgoing) : Rehearse Arrival :=
  modifyGet fun st =>
    let st := { st with sent := o :: st.sent }
    match st.replies with
    | [] => (.interrupted .connect, st)
    | cue :: replies => (cue.toArrival o, { st with replies })

/-- Outgoing requests on the stage. -/
def overWire : (w : Wire) → Rehearse w.Reply
  | .send o => sendOut o
  | .pause seconds => rest seconds
  | .note line => writeDown line
  | .fresh kind => freshId kind

/-- The lines written down since the last time they were taken, oldest first. -/
def takeLines : Rehearse (List (Note × Text)) :=
  modifyGet fun st => (st.lines.reverse, { st with lines := [] })

/-- The requests sent and the pauses made since the last time they were taken. -/
def takeTraffic : Rehearse (List Outgoing × List Number) :=
  modifyGet fun st => ((st.sent.reverse, st.pauses.reverse), { st with sent := [], pauses := [] })

/-- Moves the clock. -/
def advance (d : Span) : Rehearse (Except Failure Unit) :=
  modifyGet fun st =>
    match (Duration.ofParts d.seconds d.micros).bind st.clock.plus with
    | .ok clock => (.ok (), { st with clock })
    | .error fault => (.error (.time fault), st)

end QuorumGate.Rehearsal
