import QuorumGate.Decimal.Shortest

/-!
# The whole part of a real
-/

namespace QuorumGate.Decimal

/-- The whole part of a finite number, toward zero. -/
def wholePart (x : Float) : Int :=
  let b := Binary.ofFloat x
  let r := Ratio.scaled b.mantissa b.exponent
  let n : Int := r.num / r.den
  if isNegative x then -n else n

/-- The value of a finite number without a fraction. -/
def whole? (x : Float) : Option Int :=
  let b := Binary.ofFloat x
  let r := Ratio.scaled b.mantissa b.exponent
  if r.num % r.den = 0 then some (wholePart x) else none

end QuorumGate.Decimal
