import QuorumGate.Correlation
import QuorumGate.Failure
import QuorumGate.Json.Parser
import QuorumGate.Note
import QuorumGate.Program
import QuorumGate.Service.Effect
import QuorumGate.Text.Charset.Names
import QuorumGate.Transport.ContentType

/-!
# Talking to a remote service

One request goes out and at most one response comes back. The answer of a remote service is
always taken as a JSON object.
-/

namespace QuorumGate

/-- The query of an outgoing request. -/
inductive Params where
  | none
  | fields (ms : Json.Members)
  | pairs (ps : List (Text × Json))
  deriving Repr

/-- A request as it is handed over to a client, which has yet to send it. The URL is not escaped. -/
structure Outgoing where
  method : Text
  url : Text
  params : Params
  headers : Option (List (Text × Text))
  body : Option Json
  timeout : Number
  deriving Repr

/-- A response. Lists and objects in its body are read up to a depth, which is what its reader has
left of a stack. -/
structure Response where
  status : Int
  headers : List (String × String)
  body : Text.Bytes
  depth : Nat
  deriving Repr

/-- What can interrupt a request on its way so that sending it again may help. -/
inductive Interruption where
  | timeout
  | connectTimeout
  | readTimeout
  | writeTimeout
  | poolTimeout
  | network
  | connect
  | read
  | write
  | close
  deriving DecidableEq, Repr

namespace Interruption

def label : Interruption → String
  | timeout => "TimeoutException"
  | connectTimeout => "ConnectTimeout"
  | readTimeout => "ReadTimeout"
  | writeTimeout => "WriteTimeout"
  | poolTimeout => "PoolTimeout"
  | network => "NetworkError"
  | connect => "ConnectError"
  | read => "ReadError"
  | write => "WriteError"
  | close => "CloseError"

def all : List Interruption :=
  [timeout, connectTimeout, readTimeout, writeTimeout, poolTimeout, network, connect, read, write,
   close]

def ofLabel? (s : String) : Option Interruption := all.find? (·.label == s)

end Interruption

/-- What comes back for a request that was handed over. If the client refuses its URL, nothing is
sent, and what comes back is broken. -/
inductive Arrival where
  | response (r : Response)
  | interrupted (i : Interruption)
  | broken (label message : Text)
  | silence

inductive Wire where
  | send (o : Outgoing)
  | pause (seconds : Number)
  | note (line : Note)
  | fresh (kind : IdKind)

abbrev Wire.Reply : Wire → Type
  | send _ => Arrival
  | pause _ | note _ => Unit
  | fresh _ => Text

abbrev wires : Interface := ⟨Wire, Wire.Reply⟩

abbrev Transport := Program wires Failure

namespace Transport

def note (level : Level) (channel : Channel) (text : Text) : Transport Unit :=
  .ask (Wire.note ⟨level, channel, text⟩) .done

def pause (seconds : Number) : Transport Unit := .ask (Wire.pause seconds) .done

def freshSignatures : Nat → Transport (List Text)
  | 0 => pure []
  | n + 1 => do
    let id ← Program.ask (Wire.fresh .signature) .done
    let ids ← freshSignatures n
    return id :: ids

end Transport

namespace Response

/-- The values of a header, found by its lower-case name. -/
def header? (name : String) (headers : List (String × String)) : Option String :=
  match headers.filter fun h => h.1.toLower == name with
  | [] => none
  | hs => some (", ".intercalate (hs.map (·.2)))

/-- The declared encoding; UTF-8 where none is declared, or one that is not known. -/
def charset (r : Response) : Except Text.CharsetFault Text.Charset := do
  let name ← match header? "content-type" r.headers with
    | some value => ContentType.charsetName? value
    | none => pure none
  return (name.bind Text.Charset.ofName?).getD (.utf8 false)

/-- The body as a text. -/
def text (r : Response) : Except Failure Text :=
  (r.charset.bind (·.decode r.body)).mapError .undecodable

/-- The body as an object: a list stands under `items`, whatever else under `detail`. A body that
is not JSON is taken as text. -/
def payload (r : Response) : Except Failure Json.Members :=
  if r.body.isEmpty then .ok []
  else
    match Json.parseBytes? r.depth r.body with
    | some (.ok (.object ms)) => .ok ms
    | some (.ok (.list vs)) => .ok [("items", .list vs)]
    | some (.ok v) => .ok [("detail", v)]
    | some (.error (.tooDeep innermost)) => .error (.tooDeep innermost)
    | _ => r.text.map fun t => [("detail", .text t)]

end Response

end QuorumGate
