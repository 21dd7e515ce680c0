import QuorumGate.Note
import QuorumGate.Program
import QuorumGate.Store.Operation

/-!
# What the services ask for

The services decide; the clock, the store, the verifier and the deployer are asked.
-/

namespace QuorumGate

/-- What a new identifier is for. -/
inductive IdKind where
  | policy
  | proposal
  | signature
  | execution
  | correlation
  deriving DecidableEq, Repr

/-- One deployment, as a deployer is asked for it. -/
structure Order where
  contractId : Text
  wasmHash : Text
  network : Network
  key : Text
  correlation : Text
  deriving DecidableEq, Repr

/-- How a deployer's call ends. -/
inductive Landing where
  | reported (r : Report)
  | raised (label message : Text)
  | timedOut
  deriving DecidableEq, Repr

/-- A call that has led to a report or a failure. A failure that has the name of a timeout is taken
for one, wherever it comes from. -/
def Landing.ofResult : Except Failure Report → Landing
  | .ok r => .reported r
  | .error e =>
    if e.label = Failure.timeoutLabel then .timedOut else .raised e.label e.message

inductive Effect where
  | now
  | fresh (kind : IdKind)
  | note (line : Note)
  | correlate (id : Text)
  | store (op : StoreOp) (correlation : Text)
  | verify (signer : Text) (payload : String) (signature : Text)
  | deploy (order : Order) (limit : Number)
  | pause (seconds : Number)

/-- The store and the verifier may fail, and the failure is the caller's to deal with. -/
abbrev Effect.Reply : Effect → Type
  | now => Instant
  | fresh _ => Text
  | note _ | correlate _ | pause _ => Unit
  | store op _ => Except Failure op.Result
  | verify .. => Except Failure Bool
  | deploy .. => Landing

abbrev services : Interface := ⟨Effect, Effect.Reply⟩

abbrev Service := Program services Failure

namespace Service

def now : Program services ε Instant := .ask Effect.now .done

def fresh (kind : IdKind) : Program services ε Text := .ask (Effect.fresh kind) .done

def note (level : Level) (channel : Channel) (text : Text) : Program services ε Unit :=
  .ask (Effect.note ⟨level, channel, text⟩) .done

/-- Puts the log lines that follow under a correlation id. -/
def correlate (id : Text) : Program services ε Unit := .ask (Effect.correlate id) .done

def reject (r : Rejection) : Service α := .fail (.rejected r)

/-- A computation with times, whose fault ends the service. -/
def timed (x : Except TimeFault α) : Service α := .ofExcept (x.mapError .time)

def guard (x : Except Rejection α) : Service α := .ofExcept (x.mapError .rejected)

def store (op : StoreOp) (correlation : Text) : Service op.Result :=
  .ask (Effect.store op correlation) .ofExcept

/-- The result of a write, or none when the store reports a conflict. -/
def storeUnlessConflict (op : StoreOp) (correlation : Text) : Service (Option op.Result) :=
  .ask (Effect.store op correlation) fun
    | .ok a => .done (some a)
    | .error (.conflict ..) => .done none
    | .error e => .fail e

def verify (signer : Text) (payload : String) (signature : Text) : Service Bool :=
  .ask (Effect.verify signer payload signature) .ofExcept

end Service

end QuorumGate
