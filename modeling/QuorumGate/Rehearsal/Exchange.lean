import QuorumGate.Rehearsal.Stage
import QuorumGate.Service.Sweeper
import QuorumGate.Surface.Respond
import QuorumGate.Transport.Deployment
import QuorumGate.Transport.Registry

/-!
# Requests on the stage

The whole gate under a sequence of requests. Records lie in memory or with a registry, and every
outgoing request takes the next reply of a queue.
-/

namespace QuorumGate.Rehearsal

open Surface (Gate Incoming Outcoming Page)

/-- The registry that the settings name. -/
def registryOf (s : Settings) : Registry where
  baseUrl := s.registryUrl
  timeout := s.remoteTimeout
  patience := ⟨s.remoteRetries, s.remoteBackoff, Transport.unavailableStatuses⟩

def deploymentOf (s : Settings) : Deployment := ⟨s.deploymentUrl, s.deploymentTimeout⟩

/-- The surroundings of the whole gate. -/
def wired (s : Settings) : (r : Effect) → Rehearse r.Reply
  | .store op correlation =>
    match s.backend with
    | .memory => onStore op
    | .registry => ((registryOf s).perform correlation op).interpret overWire
  | .deploy o _ => .ofResult <$> ((deploymentOf s).deploy o).interpret overWire
  | r => plainly r

inductive Turn where
  | request (r : Incoming) (replies : List ReplyCue)
  | advance (d : Span)
  | start
  | stop

/-- What a turn shows. -/
inductive Showing where
  | answered (o : Outcoming)
  | draining (d : Bool)
  | nothing

structure Exchange where
  showing : Showing
  sent : List Outgoing
  pauses : List Number
  lines : List (Note × Text)

/-- Starts the process; the sweeper, if it is on, sweeps at once. -/
def startUp (s : Settings) : Rehearse (Except Failure Unit) := do
  if s.sweepInterval.isPositive then
    writeDown ⟨.info, .surface, s!"expiry sweep every {s.sweepInterval.text}s"⟩
    (Sweeper.round s.attempts.toNat).interpret (wired s)
  else return .ok ()

/-- Plays a turn. What is sent outside of a request waits for the next request to be shown. -/
def playTurn (g : Gate) : Turn → Rehearse (Except Failure (Gate × Exchange))
  | .request r replies => do
    modify fun st => { st with replies := st.replies ++ replies }
    match ← (g.respond r).interpret (wired g.settings) with
    | .ok o =>
      let (sent, pauses) ← takeTraffic
      return .ok (g, ⟨.answered o, sent, pauses, ← takeLines⟩)
  | .advance d => do
    match ← advance d with
    | .ok () => return .ok (g, ⟨.nothing, [], [], ← takeLines⟩)
    | .error e => return .error e
  | .start => do
    match ← startUp g.settings with
    | .ok () => return .ok ({ g with draining := false }, ⟨.draining false, [], [], ← takeLines⟩)
    | .error e => return .error e
  | .stop => return .ok ({ g with draining := true }, ⟨.draining true, [], [], ← takeLines⟩)

/-- Plays the turns until one fails. A failure of the clock or of the sweeper ends the process, and
nothing that was shown before is kept. -/
def exchanges (g : Gate) : List Turn → Rehearse (Except Failure (List Exchange))
  | [] => return .ok []
  | t :: rest => do
    match ← playTurn g t with
    | .error e => return .error e
    | .ok (g, shown) => return (← exchanges g rest).map (shown :: ·)

/-- The gate as it is set up. Its pages are left blank. -/
def gateOf (s : Settings) : Gate where
  settings := s
  draining := false
  usualLimit := Settings.defaults.defaultLimit
  depth := greatestDepth
  scheme := "http"
  address := "testserver"
  pages := fun _ _ => .ok Page.blank

/-- Plays the turns on a fresh stage. -/
def serve (s : Settings) (clock : Instant) (turns : List Turn) :
    Except Failure (List Exchange) :=
  ((exchanges (gateOf s) turns).run (Stage.opening clock)).1

/-- What a single job over the wire shows. -/
structure Errand (α : Type) where
  result : Except Failure α
  sent : List Outgoing
  pauses : List Number
  lines : List (Note × Text)

def runErrand (p : Transport α) : Rehearse (Errand α) := do
  let result ← p.interpret overWire
  let lines ← takeLines
  let (sent, pauses) ← takeTraffic
  return ⟨result, sent, pauses, lines⟩

/-- A single job on a fresh stage, with its replies. -/
def errand (p : Transport α) (clock : Instant) (replies : List ReplyCue) : Errand α :=
  ((runErrand p).run { Stage.opening clock with replies }).1

/-- An operation on a registry, with records that are still to be read. -/
structure RegistryTurn where
  op : RawOp
  correlation : Text
  replies : List ReplyCue

def registryTurn (g : Registry) (t : RegistryTurn) : Rehearse (Errand Json) := do
  modify fun st => { st with replies := t.replies }
  match ← readOp t.op with
  | .error e => return ⟨.error e, [], [], []⟩
  | .ok op => runErrand (resultJson op <$> g.perform t.correlation op)

def askRegistry (g : Registry) (clock : Instant) (turns : List RegistryTurn) :
    List (Errand Json) :=
  ((turns.mapM (registryTurn g)).run (Stage.opening clock)).1

end QuorumGate.Rehearsal
