import QuorumGate.Decimal.Reading
import QuorumGate.Text.Blank
import QuorumGate.Text.Charset.Names

/-!
# Content types

The parameters of a content type stand behind semicolons. The value of a parameter may be quoted,
escaped by percent signs under a name that ends with an asterisk, or split into numbered pieces.
-/

namespace QuorumGate.ContentType

def strip (s : List Char) : List Char := Text.trim Text.isBlank s

/-- Splits at the semicolons outside of quotes. A quote after a backslash does not count. -/
def splitParams (acc : List Char) (quoted escaped : Bool) : List Char → List (List Char)
  | [] => [acc.reverse]
  | c :: rest =>
    if c = ';' ∧ ¬quoted then acc.reverse :: splitParams [] false false rest
    else splitParams (c :: acc) (if c = '"' ∧ ¬escaped then !quoted else quoted) (c = '\\') rest

/-- Drops one backslash of each two. -/
def halveBackslashes : List Char → List Char
  | '\\' :: '\\' :: rest => '\\' :: halveBackslashes rest
  | c :: rest => c :: halveBackslashes rest
  | [] => []

/-- Drops a backslash in front of a quote. -/
def freeQuotes : List Char → List Char
  | '\\' :: '"' :: rest => '"' :: freeQuotes rest
  | c :: rest => c :: freeQuotes rest
  | [] => []

/-- Drops the quotes or the angle brackets around a value. -/
def unquote (s : List Char) : List Char :=
  let inner := (s.drop 1).dropLast
  if s.length < 2 then s
  else if s.head? = some '"' ∧ s.getLast? = some '"' then freeQuotes (halveBackslashes inner)
  else if s.head? = some '<' ∧ s.getLast? = some '>' then inner
  else s

/-- Undoes percent escapes, each of which is one character. -/
def unpercent : List Char → List Char
  | '%' :: a :: b :: rest =>
    match Text.hexValue? a, Text.hexValue? b with
    | some x, some y => Char.ofNat (16 * x + y) :: unpercent rest
    | _, _ => '%' :: unpercent (a :: b :: rest)
  | c :: rest => c :: unpercent rest
  | [] => []
termination_by s => s.length

/-- A piece of a parameter. The number of a whole value is none. -/
structure Piece where
  name : List Char
  number : Option Nat
  value : List Char
  escaped : Bool
  deriving DecidableEq, Repr

def isNameChar (c : Char) : Bool := c.isAlphanum || c == '_'

/-- The name of a piece: an asterisk after the name of the parameter, then perhaps a number and
another asterisk. -/
def pieceName? (s : List Char) : Option (List Char × Option Nat) :=
  let name := s.takeWhile isNameChar
  match s.drop name.length with
  | '*' :: rest =>
    let (ds, tail) := Decimal.takeDigits rest
    if name.isEmpty then none
    else if rest.isEmpty then some (name, none)
    else if ds.isEmpty then none
    else if tail = [] ∨ tail = ['*'] then some (name, some (Decimal.valueOfDigits ds))
    else none
  | _ => none

def Piece.ofParam? (p : List Char × List Char) : Option Piece :=
  (pieceName? p.1).map fun (name, number) =>
    ⟨name, number, unquote p.2, p.1.getLast? == some '*'⟩

/-- Whether a piece stands in front of another one of its parameter: by number, then by value. -/
def Piece.le (p q : Piece) : Bool :=
  let (m, n) := (p.number.getD 0, q.number.getD 0)
  m < n || m == n &&
    (p.value < q.value || p.value == q.value && (!p.escaped || q.escaped))

/-- A name with its value, both without blanks around them. -/
def split (s : List Char) : List Char × List Char :=
  let name := s.takeWhile (· != '=')
  ((strip name).map Char.toLower, strip (s.drop (name.length + 1)))

/-- Reads a value in the encoding that it names, ASCII where it names none. A value that is
ill-formed in it stands as it is. -/
def decoded (charset value : List Char) : List Char :=
  let known := if charset.isEmpty then some .ascii else Text.Charset.ofName? (String.ofList charset)
  let bytes := value.map fun c => UInt8.ofNat c.toNat
  match (known.bind (·.readExactly? bytes)).bind Text.chars? with
  | some cs => cs
  | none => value

/-- The value that pieces make up. If one of them is escaped, the value may begin with the name of
an encoding and that of a language, and an apostrophe behind each. -/
def joinPieces (pieces : List Piece) : List Char :=
  let sorted := pieces.mergeSort Piece.le
  let whole := sorted.flatMap fun p => if p.escaped then unpercent p.value else p.value
  if sorted.any (·.escaped) then
    match whole.splitOn '\'' with
    | charset :: _ :: value :: rest => decoded charset (List.intercalate ['\''] (value :: rest))
    | _ => whole
  else whole

/-- Whether the first piece that is unlike the first of its parameter has a number. -/
def firstMixed? (pieces : List Piece) : Option Bool :=
  (pieces.map (·.name)).eraseDups.findSome? fun name =>
    match pieces.filter fun p => p.name == name with
    | [] => none
    | p :: rest =>
      (rest.find? fun q => q.number.isSome != p.number.isSome).map (·.number.isSome)

/-- The value of a parameter. What stands before the first semicolon counts as one, and pieces
count only where nothing else does. A parameter cannot have both a whole value and pieces. -/
def param? (name : String) (s : String) : Except Text.CharsetFault (Option (List Char)) :=
  match (splitParams [] false false s.toList).map split with
  | [] => .ok none
  | first :: rest =>
    let pieces := rest.filterMap Piece.ofParam?
    match firstMixed? pieces with
    | some numbered => .error (.mixedPieces numbered)
    | none =>
      let whole := first :: rest.filter fun p => (Piece.ofParam? p).isNone
      match whole.find? fun p => p.1 == name.toList with
      | some p => .ok (some (unquote p.2))
      | none =>
        match pieces.filter fun p => p.name == name.toList with
        | [] => .ok none
        | pieces => .ok (some (joinPieces pieces))

/-- The encoding that is declared, if its name is ASCII. -/
def charsetName? (s : String) : Except Text.CharsetFault (Option String) := do
  let name ← param? "charset" s
  return (name.filter (·.all fun c => c.toNat < 0x80)).map fun cs => .ofList (cs.map Char.toLower)

end QuorumGate.ContentType
