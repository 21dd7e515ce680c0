import QuorumGate.Json.Basic
import QuorumGate.Validation.Issue

/-!
# Reading records from JSON

A reading looks at all parts of a value and collects the issues of each, in the order of the
parts. It may draw identifiers from a numbered supply, and tells how many have been drawn.
-/

namespace QuorumGate

abbrev Checked := Except (List Issue)

namespace Issue

def Step.toJson : Step → Json
  | .key name => .text name
  | .index i => .whole i

/-- An issue with its path and its word. -/
def toJson (i : Issue) : Json :=
  .object [("loc", .listOf Step.toJson i.path), ("type", .text i.kind.code)]

end Issue

/-- Both results, or all the issues. -/
def Checked.apply (f : Checked (α → β)) (x : Checked α) : Checked β :=
  match f, x with
  | .ok f, .ok a => .ok (f a)
  | .ok _, .error is => .error is
  | .error is, .ok _ => .error is
  | .error is, .error js => .error (is ++ js)

/-- Given a supply of identifiers and how many of them are taken, a result and how many are taken
afterwards. -/
def Reading (α : Type) : Type := (Nat → Text) → Nat → Checked α × Nat

namespace Reading

instance : Applicative Reading where
  pure a := fun _ n => (.ok a, n)
  map f x := fun supply n => let r := x supply n; (r.1.map f, r.2)
  seq f x := fun supply n =>
    let g := f supply n
    let r := x () supply g.2
    (Checked.apply g.1 r.1, r.2)

def refuse (kind : IssueKind) : Reading α := fun _ n => (.error [⟨[], kind⟩], n)

/-- Takes the next identifier. -/
def draw : Reading Text := fun supply n => (.ok (supply n), n + 1)

/-- Reads a part, and reports its issues as seen from the whole. -/
def under (s : Step) (x : Reading α) : Reading α := fun supply n =>
  let r := x supply n
  (r.1.mapError (List.map (Issue.under s)), r.2)

/-- Adds a condition that is tested when all else is right. -/
def check (p : α → Option IssueKind) (x : Reading α) : Reading α := fun supply n =>
  let r := x supply n
  match r.1 with
  | .error is => (.error is, r.2)
  | .ok a =>
    match p a with
    | some kind => (.error [⟨[], kind⟩], r.2)
    | none => (.ok a, r.2)

/-- The value, or the issue of not having one. -/
def orRefuse (kind : IssueKind) : Option α → Reading α
  | some a => pure a
  | none => refuse kind

/-- Reads the items of a list, the first of them at index `i`. -/
def items (f : Json → Reading α) (i : Nat) : List Json → Reading (List α)
  | [] => pure []
  | v :: rest => (· :: ·) <$> under (.index i) (f v) <*> items f (i + 1) rest

def list (f : Json → Reading α) : Json → Reading (List α)
  | .list vs => items f 0 vs
  | _ => refuse .notAList

def nullable (f : Json → Reading α) : Json → Reading (Option α)
  | .null => pure none
  | v => some <$> f v

/-- A member that must be there. -/
def required (k : String) (f : Json → Reading α) (ms : Json.Members) : Reading α :=
  under (.key k) <| match Json.lookup k ms with
    | some v => f v
    | none => refuse .missing

/-- A member that has a default. -/
def defaulted (k : String) (default : Reading α) (f : Json → Reading α) (ms : Json.Members) :
    Reading α :=
  under (.key k) <| match Json.lookup k ms with
    | some v => f v
    | none => default

/-- A member that may be null or missing. -/
def optional (k : String) (f : Json → Reading α) (ms : Json.Members) : Reading (Option α) :=
  defaulted k (pure none) (nullable f) ms

def object (f : Json.Members → Reading α) : Json → Reading α
  | .object ms => f ms
  | _ => refuse .notAnObject

/-- How many identifiers are drawn. That does not depend on the supply. -/
def draws (x : Reading α) : Nat := (x (fun _ => "") 0).2

/-- The result when the identifiers are taken from a list. -/
def resultWith (ids : List Text) (x : Reading α) : Checked α := (x (fun i => ids.getD i "") 0).1

/-- The result of a reading that draws no identifier. -/
def result (x : Reading α) : Checked α := x.resultWith []

end Reading

end QuorumGate
