import QuorumGate.Decimal.Shortest

/-!
# How numbers are written

Part of every message that names a number: whole numbers are written plainly, other numbers by
their shortest digits in the layout of this module.
-/

namespace QuorumGate.Decimal

/-- Where positional notation ends, how an exponent is written, and the names of what is not a
number. -/
structure Layout where
  leastPositional : Int
  mostPositional : Int
  exponentMark : Char
  exponentDigits : Nat
  notANumber : String
  infinity : String

/-- Positional from `1e-4` below `1e16`, then `1e+16`, with a signed exponent of two digits. -/
def plain : Layout := ⟨-4, 15, 'e', 2, "nan", "inf"⟩

def digitsOf (n : Nat) : List Char := Nat.toDigits 10 n

def padLeft (width : Nat) (ds : List Char) : List Char :=
  List.replicate (width - ds.length) '0' ++ ds

/-- The digits `ds` with the point after the first `place` of them, padded as needed. -/
def positional (ds : List Char) (place : Int) : List Char :=
  if place ≤ 0 then '0' :: '.' :: (List.replicate (-place).toNat '0' ++ ds)
  else
    let whole := place.toNat
    if ds.length ≤ whole then ds ++ List.replicate (whole - ds.length) '0' ++ ['.', '0']
    else ds.take whole ++ '.' :: ds.drop whole

def exponential (l : Layout) (ds : List Char) (e : Int) : List Char :=
  let head := match ds with
    | [] => []
    | [d] => [d]
    | d :: rest => d :: '.' :: rest
  head ++ l.exponentMark :: (if e < 0 then '-' else '+') ::
    padLeft l.exponentDigits (digitsOf e.natAbs)

def Layout.magnitude (l : Layout) (s : Scientific) : List Char :=
  let ds := digitsOf s.digits
  let e : Int := s.exponent + ds.length - 1
  if l.leastPositional ≤ e ∧ e ≤ l.mostPositional then positional ds (e + 1)
  else exponential l ds e

def Layout.render (l : Layout) (x : Float) : String :=
  if x.isNaN then l.notANumber
  else
    let sign := if isNegative x then ['-'] else []
    if x.isInf then String.ofList sign ++ l.infinity
    else
      let b := Binary.ofFloat x
      let body := if b.mantissa = 0 then ['0', '.', '0'] else l.magnitude b.shortest
      String.ofList (sign ++ body)

end QuorumGate.Decimal
