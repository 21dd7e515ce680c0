import QuorumGate.Decimal.Layout

/-!
# Numbers

A number is whole or real, and keeps which of the two it is: `5` and `5.0` are written
differently.
-/

namespace QuorumGate

inductive Number where
  | whole (n : Int)
  | real (x : Float)
  deriving Repr

namespace Number

def text : Number → String
  | whole n => n.repr
  | real x => Decimal.plain.render x

def isZero : Number → Bool
  | whole n => n == 0
  | real x => x == 0.0

/-- A not-a-number is not at most zero. -/
def atMostZero : Number → Bool
  | whole n => n ≤ 0
  | real x => x ≤ 0.0

/-- A not-a-number is not positive either. -/
def isPositive : Number → Bool
  | whole n => 0 < n
  | real x => x > 0.0

/-- The number times `2 ^ k`; none when a real is to be scaled by a power no real can hold. -/
def scale? (k : Nat) : Number → Option Number
  | whole n => some (whole (n * Int.pow 2 k))
  | real x => if k < 1024 then some (real (x * Float.ofNat (Nat.pow 2 k))) else none

end Number

end QuorumGate
