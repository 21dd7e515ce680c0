import QuorumGate.Decimal.Shortest

/-!
# Reading decimal numbers

Digits with a point and an exponent stand for the double nearest to what is written.
-/

namespace QuorumGate.Decimal

def isDigit (c : Char) : Bool := '0' ≤ c && c ≤ '9'

def valueOfDigits (ds : List Char) : Nat :=
  ds.foldl (fun n c => 10 * n + (c.toNat - '0'.toNat)) 0

/-- Splits off the leading digits. -/
def takeDigits (s : List Char) : List Char × List Char := (s.takeWhile isDigit, s.dropWhile isDigit)

/-- Splits off a sign; true for a minus. -/
def takeSign : List Char → Bool × List Char
  | '-' :: rest => (true, rest)
  | '+' :: rest => (false, rest)
  | s => (false, s)

/-- The exponent after its mark, if a digit follows the mark and the sign. -/
def exponent? (s : List Char) : Option (Int × List Char) :=
  match s with
  | m :: rest =>
    if m = 'e' ∨ m = 'E' then
      let (negative, rest) := takeSign rest
      let (ds, rest) := takeDigits rest
      if ds.isEmpty then none
      else some (if negative then -(valueOfDigits ds : Int) else valueOfDigits ds, rest)
    else none
  | [] => none

/-- The real `digits * 10 ^ exponent`, with the exponent bounded so that no huge power is built. -/
def toReal (negative : Bool) (digits : Nat) (exponent : Int) : Float :=
  let size : Int := digitCount digits + exponent
  let x : Float :=
    if digits = 0 ∨ size < -400 then 0.0
    else if 400 < size then 1.0 / 0.0
    else Float.ofScientific digits (exponent < 0) exponent.natAbs
  if negative then -x else x

/-- A decimal number without its sign; digits on one side of the point are enough. -/
def real? (negative : Bool) (s : List Char) : Option Float :=
  let (ds, rest) := takeDigits s
  let (frac, rest) := match rest with
    | '.' :: rest => takeDigits rest
    | _ => ([], rest)
  let digits := valueOfDigits (ds ++ frac)
  if ds.isEmpty && frac.isEmpty then none
  else
    match rest with
    | [] => some (toReal negative digits (-frac.length))
    | _ =>
      match exponent? rest with
      | some (e, []) => some (toReal negative digits (e - frac.length))
      | _ => none

end QuorumGate.Decimal
