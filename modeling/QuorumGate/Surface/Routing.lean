import QuorumGate.Text.Blank
import QuorumGate.Text.Encoding
import QuorumGate.Text.Quoted

/-!
# Routing

The endpoints of the gate with their paths and methods. An endpoint with the path but another
method is remembered, so that the refusal can name the methods that would be allowed.
-/

namespace QuorumGate.Surface

/-- What is shown of the gate, but not made by it: a description of its endpoints, the pages that
present it, and the figures of its traffic. -/
inductive Annex where
  | description
  | manual
  | authorization
  | reference
  | figures
  deriving DecidableEq, Repr

inductive Endpoint where
  | annex (a : Annex)
  | createPolicy
  | listPolicies
  | showPolicy (id : String)
  | createProposal
  | listProposals
  | showProposal (id : String)
  | showPayload (id : String)
  | signProposal (id : String)
  | executeProposal (id : String)
  | health
  | live
  | ready
  deriving DecidableEq, Repr

/-- A path whose segments are fixed but for at most one. -/
structure Pattern where
  before : List String
  after : Option (List String)
  deriving DecidableEq, Repr

structure Route where
  methods : List String
  pattern : Pattern
  endpoint : String → Endpoint

def policiesSegments : List String := ["api", "v1", "multisig", "policies"]

def proposalsSegments : List String := ["api", "v1", "multisig", "proposals"]

def routes : List Route :=
  [⟨["GET", "HEAD"], ⟨["openapi.json"], none⟩, fun _ => .annex .description⟩,
   ⟨["GET", "HEAD"], ⟨["docs"], none⟩, fun _ => .annex .manual⟩,
   ⟨["GET", "HEAD"], ⟨["docs", "oauth2-redirect"], none⟩, fun _ => .annex .authorization⟩,
   ⟨["GET", "HEAD"], ⟨["redoc"], none⟩, fun _ => .annex .reference⟩,
   ⟨["GET"], ⟨["metrics"], none⟩, fun _ => .annex .figures⟩,
   ⟨["POST"], ⟨policiesSegments, none⟩, fun _ => .createPolicy⟩,
   ⟨["GET"], ⟨policiesSegments, none⟩, fun _ => .listPolicies⟩,
   ⟨["GET"], ⟨policiesSegments, some []⟩, .showPolicy⟩,
   ⟨["POST"], ⟨proposalsSegments, none⟩, fun _ => .createProposal⟩,
   ⟨["GET"], ⟨proposalsSegments, none⟩, fun _ => .listProposals⟩,
   ⟨["GET"], ⟨proposalsSegments, some []⟩, .showProposal⟩,
   ⟨["GET"], ⟨proposalsSegments, some ["payload"]⟩, .showPayload⟩,
   ⟨["POST"], ⟨proposalsSegments, some ["signatures"]⟩, .signProposal⟩,
   ⟨["POST"], ⟨proposalsSegments, some ["execute"]⟩, .executeProposal⟩,
   ⟨["GET"], ⟨["health"], none⟩, fun _ => .health⟩,
   ⟨["GET"], ⟨["health", "live"], none⟩, fun _ => .live⟩,
   ⟨["GET"], ⟨["health", "ready"], none⟩, fun _ => .ready⟩]

/-- The segments of a path, of which the first stands before the first slash. -/
def segments (path : List Char) : List (List Char) := path.splitOn '/'

/-- Whether segments are the fixed ones. A line feed at the very end is overlooked. -/
def areFixed : List String → List (List Char) → Bool
  | [], [] => true
  | [f], [s] => s = f.toList || s = f.toList ++ ['\n']
  | f :: fs, s :: ss => s = f.toList && areFixed fs ss
  | _, _ => false

/-- The free segment of a path that fits, empty if the pattern has none. -/
def Pattern.match? (p : Pattern) (path : String) : Option String :=
  match segments path.toList with
  | [] :: rest =>
    match p.after with
    | none => if areFixed p.before rest then some "" else none
    | some after =>
      let n := p.before.length
      match rest.drop n with
      | free :: tail =>
        let fits := rest.take n == p.before.map String.toList && areFixed after tail
        if fits && !free.isEmpty then some (String.ofList free) else none
      | [] => none
  | _ => none

/-- Where a request goes. -/
inductive Routing where
  | found (e : Endpoint)
  | wrongMethod (allowed : String)
  | redirected (path : String)
  | unknown
  deriving DecidableEq, Repr

/-- Looks for the first route with a path and a method. Of the routes that have only the path, the
first one says what it allows. -/
def findRoute (method path : String) : Routing :=
  let matching := routes.filterMap fun r => (r.pattern.match? path).map fun id => (r, id)
  match matching.find? fun m => m.1.methods.contains method with
  | some (r, id) => .found (r.endpoint id)
  | none =>
    match matching with
    | (r, _) :: _ => .wrongMethod (", ".intercalate r.methods)
    | [] => .unknown

/-- An unknown path with a slash at its end is redirected if it is known without. -/
def route (method path : String) : Routing :=
  match findRoute method path with
  | .unknown =>
    let shorter := String.ofList (Text.dropTrailing (· == '/') path.toList)
    if path.endsWith "/" ∧ findRoute method shorter ≠ .unknown then .redirected shorter
    else .unknown
  | found => found

/-- The value of a hexadecimal pair. -/
def hexPair? (a b : Char) : Option UInt8 := do
  return UInt8.ofNat (16 * (← Text.hexValue? a) + (← Text.hexValue? b))

def asText (bs : Text.Bytes) : List Char := Text.utf8Lossy bs.reverse

/-- Undoes percent escapes. The bytes between two characters beyond ASCII are decoded together;
`run` holds those that wait, the last one first. -/
def unescapeFrom (run : Text.Bytes) : List Char → List Char
  | '%' :: a :: b :: rest =>
    match hexPair? a b with
    | some byte => unescapeFrom (byte :: run) rest
    | none => unescapeFrom (UInt8.ofNat '%'.toNat :: run) (a :: b :: rest)
  | c :: rest =>
    if c.toNat < 0x80 then unescapeFrom (UInt8.ofNat c.toNat :: run) rest
    else asText run ++ c :: unescapeFrom [] rest
  | [] => asText run
termination_by s => s.length

def unescape (s : List Char) : String := String.ofList (unescapeFrom [] s)

/-- The pairs of a query string; a plus stands for a blank. -/
def queryPairs (query : String) : List (String × String) :=
  let parts := (query.toList.splitOn '&').filter (!·.isEmpty)
  parts.map fun part =>
    let blanks (s : List Char) := s.map fun c => if c = '+' then ' ' else c
    let key := part.takeWhile (· != '=')
    let value := (part.dropWhile (· != '=')).drop 1
    (unescape (blanks key), unescape (blanks value))

/-- The value of a key, the last one if there are several. -/
def queryValue? (key query : String) : Option String :=
  ((queryPairs query).reverse.find? (·.1 == key)).map (·.2)

/-- The characters that stand as they are in the target of a redirection. -/
def isPlain (c : Char) : Bool :=
  c.isAlphanum || "-_.~:/%#?=@[]!$&'()*+,;".toList.contains c

def escapeTarget (s : String) : String :=
  String.ofList <| s.toList.flatMap fun c =>
    if isPlain c then [c]
    else
      (Text.utf8Bytes (String.singleton c)).flatMap fun b =>
        '%' :: (Text.hexDigits 2 b.toNat).map Char.toUpper

end QuorumGate.Surface
