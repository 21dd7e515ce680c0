import QuorumGate.Failure
import QuorumGate.Json.Parser
import QuorumGate.Surface.Document
import QuorumGate.Text.Encoding

/-!
# Requests and responses of the gate
-/

namespace QuorumGate.Surface

/-- A request; its path is unescaped and its query is not. -/
structure Incoming where
  method : String
  path : String
  query : String
  headers : List (String × String)
  body : Text.Bytes
  deriving Repr

/-- The value of a header, found by its lower-case name. -/
def Incoming.header? (r : Incoming) (name : String) : Option String :=
  (r.headers.find? fun h => h.1.toLower == name).map (·.2)

/-- What an answer brings along. -/
inductive Content where
  | nothing
  | json (v : Json)
  | page (bs : Text.Bytes)
  deriving Repr

structure Outcoming where
  status : Int
  headers : List (String × Text)
  content : Content
  deriving Repr

/-- The document that an answer brings along. -/
def Outcoming.body (o : Outcoming) : Option Json :=
  match o.content with
  | .json v => some v
  | .nothing | .page _ => none

def jsonType : String := "application/json"

def problemType : String := "application/problem+json"

def plainType : String := "text/plain"

theorem plainType_ne_problemType : (plainType : Text) ≠ problemType := by decide

/-- A response with a JSON body. -/
def answer (status : Int) (v : Json) : Outcoming :=
  ⟨status, [("content-type", jsonType)], .json v⟩

/-- A response of the server itself, without an envelope. -/
def plainAnswer (status : Int) (detail : String) : Outcoming :=
  answer status (.object [("detail", .text detail)])

/-- Puts a header in front. -/
def Outcoming.withHeader (r : Outcoming) (name : String) (value : Text) : Outcoming :=
  { r with headers := (name, value) :: r.headers }

def problem (p : Problem) : Outcoming :=
  ⟨p.status, [("content-type", problemType)], .json p.toJson⟩

/-- A page that comes from outside the gate, with its type and the encoding in which it is packed.
It is no problem document. -/
structure Page where
  kind : Text
  packing : Option Text
  bytes : Text.Bytes
  kind_ne : kind ≠ (problemType : Text)

def Page.blank : Page := ⟨plainType, none, [], plainType_ne_problemType⟩

def Page.answer (p : Page) : Outcoming :=
  ⟨200, ("content-type", p.kind) :: (p.packing.map (("content-encoding", ·))).toList,
    .page p.bytes⟩

/-- The answer to an invalid request. -/
def invalid (issues : List Issue) : Outcoming :=
  answer 422 (.object [("detail", .listOf Issue.toJson issues)])

/-- What a request brings along. A body that is malformed is not JSON; one that is unreadable may
be, but is no text or exceeds what is read. -/
inductive Body where
  | missing
  | json (v : Json)
  | unread
  | malformed
  | unreadable

/-- Whether a content type stands for JSON. -/
def isJsonType (contentType : String) : Bool :=
  let kind := Text.trim Text.isBlank (contentType.toList.takeWhile (· != ';'))
  let parts := (kind.map Char.toLower).splitOn '/'
  match parts with
  | [main, sub] =>
    main == "application".toList && (sub == "json".toList || "+json".toList.isSuffixOf sub)
  | _ => false

/-- What a request brings along, read up to a depth. -/
def Incoming.content (depth : Nat) (r : Incoming) : Body :=
  if r.body.isEmpty then .missing
  else if isJsonType ((r.header? "content-type").getD "") then
    match Json.parseBytes? depth r.body with
    | some (.ok v) => .json v
    | some (.error .malformed) => .malformed
    | some (.error _) | none => .unreadable
  else .unread

/-- The part of a value to which a path leads. -/
def partAt : List Step → Json → Json
  | [], v => v
  | .key k :: path, v => partAt path ((v.member? k).getD .null)
  | .index i :: path, .list vs => partAt path (vs.getD i .null)
  | .index _ :: _, _ => .null

/-- The part of a body that the report of an issue cites. What is missing is cited by its
surroundings. -/
def cited (v : Json) (i : Issue) : Json :=
  partAt (if i.kind = .missing then i.path.dropLast else i.path) v

/-- What a client is told instead of a result, or the failure to tell it. -/
abbrev Refusal := Except Failure Outcoming

/-- The issues of a body. They cannot be reported when they cite what cannot be written. -/
def refuseBody (v : Json) (issues : List Issue) : Refusal :=
  if issues.all fun i => (cited v i).isWritable then
    .ok (invalid (issues.map (Issue.under (.key "body"))))
  else .error .unwritable

/-- What the body says, read as a record. -/
def readObject (read : Json → Reading α) (v : Json) : Except Refusal α :=
  match v with
  | .object _ => (read v).result.mapError (refuseBody v)
  | _ => .error (refuseBody v [⟨[], .notABody⟩])

def Body.read (read : Json → Reading α) : Body → Except Refusal α
  | missing => .error (refuseBody .null [⟨[], .missing⟩])
  | json v => readObject read v
  | unread => .error (refuseBody .null [⟨[], .notABody⟩])
  | malformed => .error (refuseBody .null [⟨[], .badJson⟩])
  | unreadable => .error (.ok (plainAnswer 400 "There was an error parsing the body"))

/-- As `Body.read`, but there may be nothing to read. -/
def Body.readOptional (read : Json → Reading α) : Body → Except Refusal (Option α)
  | missing | json .null => .ok none
  | b => (b.read read).map some

/-- A path as a part of a URL: what would start a query or a fragment is escaped. -/
def escapeMarks (path : String) : List Char :=
  path.toList.flatMap fun c =>
    if c = '?' then "%3F".toList else if c = '#' then "%23".toList else [c]

/-- The path in which a problem is reported: that of the URL whose host the request names. A host
that holds a slash or another mark has a part of this path in it. -/
def reportedPath (host path : String) : String :=
  let named := (host.toList ++ escapeMarks path).filter fun c =>
    c != '\t' && c != '\n' && c != '\r'
  let afterHost := named.dropWhile fun c => c != '/' && c != '?' && c != '#'
  String.ofList (afterHost.takeWhile fun c => c != '?' && c != '#')

end QuorumGate.Surface
