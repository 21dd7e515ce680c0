import QuorumGate.Decimal.Whole
import QuorumGate.Json.Parser
import QuorumGate.Text.Blank
import QuorumGate.Text.Case
import QuorumGate.Time.Reading
import QuorumGate.Validation.Reading

/-!
# Reading single values

Numbers, flags and instants are also read from text and from one another, as far as nothing is
lost by it.
-/

namespace QuorumGate.Reading

def text : Json → Reading Text
  | .text t => pure t
  | _ => refuse .notAText

/-- Reads the characters of a text, none of which may be a surrogate that stands alone. -/
def onChars (f : List Char → Reading α) (t : Text) : Reading α :=
  match t.chars? with
  | some s => f s
  | none => refuse .badUnicode

/-- The longest whole number that is read from text, its sign included. -/
def mostDigits : Nat := 4300

/-- A whole number in plain digits, with a minus or without a sign. A run of digits that is too
long is refused whatever follows it. -/
def plainInt (s : List Char) : Except IssueKind Int :=
  let (negative, body) := match s with
    | '-' :: rest => (true, rest)
    | _ => (false, s)
  let (ds, rest) := Decimal.takeDigits body
  if ds = ['0'] ∧ rest = [] then .ok 0
  else if ds.isEmpty ∨ ds.head? = some '0' then .error .badIntText
  else if mostDigits < s.length - rest.length then .error .oversizedInt
  else if rest ≠ [] then .error .badIntText
  else .ok (if negative then -(Decimal.valueOfDigits ds : Int) else Decimal.valueOfDigits ds)

/-- What stands after leading zeros and underscores: a number, or the last zero with a point. -/
def afterZeros? (last : Char) : List Char → Option (List Char)
  | [] => some [last]
  | c :: rest =>
    if c = '0' ∨ c = '_' then afterZeros? c rest
    else if c = '-' ∨ Decimal.isDigit c then some (c :: rest)
    else if c = '.' then some (last :: c :: rest)
    else none

/-- Drops leading zeros; a text that does not start like a number is none. -/
def dropLeadingZeros? : List Char → Option (List Char)
  | '0' :: rest => afterZeros? '0' rest
  | c :: rest => if c = '-' ∨ Decimal.isDigit c then some (c :: rest) else none
  | [] => none

/-- Drops a fraction of zeros, of which there must be one at least. -/
def dropZeroFraction (s : List Char) : List Char :=
  match s.dropWhile (· != '.') with
  | '.' :: '0' :: fraction =>
    if fraction.all (· == '0') then s.takeWhile (· != '.') else s
  | _ => s

/-- The text without its underscores, if each stands alone and not at an end. -/
def dropUnderscores? (s : List Char) : Option (List Char) :=
  let alone := (s.zip (s.drop 1)).all fun p => !(p.1 == '_' && p.2 == '_')
  if alone && s.head? != some '_' && s.getLast? != some '_' then some (s.filter (· != '_'))
  else none

/-- The text without what may be left out of a number: a plus in front of anything but a minus,
leading zeros, a fraction of zeros, and underscores. -/
def tidyInt? (s : List Char) : Option (List Char) := do
  let unsigned ← match s with
    | '+' :: '-' :: _ => none
    | '+' :: rest => some rest
    | _ => some s
  let body := dropZeroFraction (← dropLeadingZeros? unsigned)
  return (dropUnderscores? body).getD body

/-- The number that a text stands for, with blanks around it. -/
def intOfText (s : List Char) : Except IssueKind Int :=
  let body := Text.trim Text.isWhiteSpace s
  match plainInt body with
  | .error .badIntText =>
    match tidyInt? body with
    | some tidy => plainInt tidy
    | none => .error .badIntText
  | plain => plain

def intOfReal (x : Float) : Reading Int :=
  if x.isNaN || x.isInf then refuse .infiniteInt
  else
    match Decimal.whole? x with
    | none => refuse .fractionalInt
    | some n => if n.natAbs < Nat.pow 2 63 then pure n else refuse .oversizedInt

def int : Json → Reading Int
  | .number (.whole n) => pure n
  | .number (.real x) => intOfReal x
  | .bool b => pure (if b then 1 else 0)
  | .text t => t |> onChars fun s =>
    match intOfText s with
    | .ok n => pure n
    | .error kind => refuse kind
  | _ => refuse .notAnInt

/-- The double nearest to a whole number, infinite for one that is too large. -/
def floatOfInt (n : Int) : Float := Decimal.toReal (n < 0) n.natAbs 0

def infinite : List String := ["inf", "infinity"]

/-- Blanks may stand around a number, underscores within one, but not both. -/
def floatOfText? (s : List Char) : Option Float := do
  let body ←
    if s.contains '_' then dropUnderscores? s else some (Text.trim Text.isWhiteSpace s)
  let (negative, body) := Decimal.takeSign body
  let word := String.ofList (body.map Char.toLower)
  if infinite.contains word then return if negative then -1.0 / 0.0 else 1.0 / 0.0
  else if word = "nan" then return 0.0 / 0.0
  else Decimal.real? negative body

def float : Json → Reading Float
  | .number (.whole n) => if (floatOfInt n).isInf then refuse .notAFloat else pure (floatOfInt n)
  | .number (.real x) => pure x
  | .bool b => pure (if b then 1.0 else 0.0)
  | .text t => t |> onChars fun s => orRefuse .badFloatText (floatOfText? s)
  | _ => refuse .notAFloat

/-- Only zero and one stand for a flag, and a number that needs more than 64 bits does not even
look like one. -/
def boolOfInt (n : Int) : Reading Bool :=
  if n = 0 then pure false
  else if n = 1 then pure true
  else if -Int.pow 2 63 ≤ n ∧ n < Int.pow 2 63 then refuse .badBoolText
  else refuse .notABool

def noWords : List String := ["0", "off", "f", "false", "n", "no"]

def yesWords : List String := ["1", "on", "t", "true", "y", "yes"]

def boolOfText? (s : List Char) : Option Bool :=
  let word := String.ofList (s.map Char.toLower)
  if noWords.contains word then some false
  else if yesWords.contains word then some true
  else none

def bool : Json → Reading Bool
  | .bool b => pure b
  | .number (.whole n) => boolOfInt n
  | .number (.real x) =>
    if x.abs < Float.ofNat (Nat.pow 2 63) then
      match Decimal.whole? x with
      | some n => boolOfInt n
      | none => refuse .notABool
    else refuse .notABool
  | .text t => t |> onChars fun s => orRefuse .badBoolText (boolOfText? s)
  | _ => refuse .notABool

def instant : Json → Reading Instant
  | .text t => t |> onChars fun s => orRefuse .badInstant (Instant.read? s)
  | .number (.whole n) =>
    if (floatOfInt n).isInf then refuse .notAnInstant else orRefuse .badInstant (Instant.ofUnix? n)
  | .number (.real x) => orRefuse .badInstant (Instant.ofUnixReal? x)
  | _ => refuse .notAnInstant

/-- One of a closed set of words. -/
def member (ofWord? : String → Option α) : Json → Reading α
  | .text t => orRefuse .notAMember (t.string?.bind ofWord?)
  | _ => refuse .notAMember

/-- One of a closed set of words, in any letter case and with blanks around it. -/
def looseMember (ofWord? : String → Option α) : Json → Reading α
  | .text t => member ofWord? (.text t.strip.lower)
  | v => member ofWord? v

/-! Bounds. A not-a-number keeps none of them. -/

def atLeast (bound n : Int) : Option IssueKind := if bound ≤ n then none else some .notAtLeast

def atMost (bound n : Int) : Option IssueKind := if n ≤ bound then none else some .notAtMost

def aboveZero (x : Float) : Option IssueKind := if x > 0.0 then none else some .notAbove

def notNegative (x : Float) : Option IssueKind := if x ≥ 0.0 then none else some .notAtLeast

end QuorumGate.Reading
