import QuorumGate.Number
import QuorumGate.Text.Quoted

/-!
# JSON values

Whole and real numbers are kept apart, and an object keeps the order in which its members were
first written.
-/

namespace QuorumGate

inductive Json where
  | null
  | bool (b : Bool)
  | number (n : Number)
  | text (t : Text)
  | list (items : List Json)
  | object (members : List (Text × Json))
  deriving Repr, Inhabited

namespace Json

abbrev Members := List (Text × Json)

def whole (n : Int) : Json := number (.whole n)

def real (x : Float) : Json := number (.real x)

/-- The value if there is one, else null. -/
def ofOption (f : α → Json) : Option α → Json
  | some a => f a
  | none => null

def listOf (f : α → Json) (as : List α) : Json := list (as.map f)

def optText : Option Text → Json := ofOption text

/-- Sets a member: in place if the key is there, else at the end. -/
def put (k : Text) (v : Json) : Members → Members
  | [] => [(k, v)]
  | (k', v') :: rest => if k' = k then (k, v) :: rest else (k', v') :: put k v rest

def lookup (k : Text) (ms : Members) : Option Json := List.lookup k ms

/-- The member of an object; none for a missing key and for a value that is no object. -/
def member? (k : Text) : Json → Option Json
  | object ms => lookup k ms
  | _ => none

/-- Null, false, zero, and whatever is empty. -/
def isEmptyish : Json → Bool
  | null => true
  | bool b => !b
  | number n => n.isZero
  | text t => t.isEmpty
  | list items => items.isEmpty
  | object ms => ms.isEmpty

end Json

/-- How a value is spelled inside a message. -/
structure Spelling where
  nothing : String
  yes : String
  no : String

namespace Json

def spelling : Spelling := ⟨"None", "True", "False"⟩

mutual

/-- A value as it stands inside a written list or record. -/
def inner : Json → String
  | null => spelling.nothing
  | bool b => if b then spelling.yes else spelling.no
  | number n => n.text
  | text t => t.quoted
  | list items => "[" ++ ", ".intercalate (innerItems items) ++ "]"
  | object ms => "\x7b" ++ ", ".intercalate (innerMembers ms) ++ "\x7d"

def innerItems : List Json → List String
  | [] => []
  | v :: rest => inner v :: innerItems rest

def innerMembers : Members → List String
  | [] => []
  | (k, v) :: rest => (k.quoted ++ ": " ++ inner v) :: innerMembers rest

end

mutual

/-- Whether a value can be written as JSON proper in UTF-8, which has neither infinities nor
not-a-numbers nor surrogates that stand alone. -/
def isWritable : Json → Bool
  | number (.real x) => !(x.isNaN || x.isInf)
  | text t => t.isWhole
  | list items => areWritable items
  | object ms => membersAreWritable ms
  | _ => true

def areWritable : List Json → Bool
  | [] => true
  | v :: rest => isWritable v && areWritable rest

def membersAreWritable : Members → Bool
  | [] => true
  | (k, v) :: rest => k.isWhole && isWritable v && membersAreWritable rest

end

/-- A value as it stands in a message: text bare, all else as inside a list. -/
def display : Json → Text
  | text t => t
  | v => inner v

end Json

/-- An optional text in a message. -/
def displayOption : Option Text → Text
  | some t => t
  | none => Json.spelling.nothing

end QuorumGate
