/-!
# The fewest digits that read back

A finite binary64 number is `m * 2 ^ q`. The reals that round to it form an interval around it,
ends included exactly when `m` is even. On each decimal grid the number has two neighbours, and
the first grid of 1, 2, …, 17 digits that has a neighbour inside the interval gives the digits;
of two neighbours inside, the nearer is taken, and the even one on a tie.
-/

namespace QuorumGate.Decimal

/-- The number `mantissa * 2 ^ exponent`. -/
structure Binary where
  mantissa : Nat
  exponent : Int
  deriving DecidableEq, Repr

/-- The number `digits * 10 ^ exponent`. -/
structure Scientific where
  digits : Nat
  exponent : Int
  deriving DecidableEq, Repr

def isNegative (x : Float) : Bool := x.toBits.toNat / Nat.pow 2 63 == 1

/-- The absolute value of a finite number. -/
def Binary.ofFloat (x : Float) : Binary :=
  let bits := x.toBits.toNat % Nat.pow 2 63
  let fraction := bits % Nat.pow 2 52
  let biased : Nat := bits / Nat.pow 2 52
  if biased = 0 then ⟨fraction, -1074⟩ else ⟨fraction + Nat.pow 2 52, (biased : Int) - 1075⟩

def digitCount (n : Nat) : Nat := (Nat.toDigits 10 n).length

/-- A positive rational number. -/
structure Ratio where
  num : Nat
  den : Nat
  deriving DecidableEq, Repr

/-- The ratio `n * 2 ^ k`. -/
def Ratio.scaled (n : Nat) (k : Int) : Ratio :=
  if 0 ≤ k then ⟨n * Nat.pow 2 k.toNat, 1⟩ else ⟨n, Nat.pow 2 (-k).toNat⟩

/-- The least `e` with `r < 10 ^ e`. -/
def Ratio.magnitude (r : Ratio) : Int :=
  if r.den ≤ r.num then digitCount (r.num / r.den)
  else 1 - digitCount ((r.den - 1) / r.num)

/-- The ratio `r / 10 ^ k`. -/
def Ratio.shift (r : Ratio) (k : Int) : Ratio :=
  if 0 ≤ k then ⟨r.num, r.den * Nat.pow 10 k.toNat⟩ else ⟨r.num * Nat.pow 10 (-k).toNat, r.den⟩

/-- The interval of reals that round to a number, as three ratios of one denominator. -/
structure Interval where
  low : Nat
  mid : Nat
  high : Nat
  den : Nat
  closed : Bool
  deriving Repr

def Interval.holds (i : Interval) (n : Nat) : Bool :=
  let v := n * i.den
  if i.closed then i.low ≤ v && v ≤ i.high else i.low < v && v < i.high

/-- The interval of `b`, in units of `10 ^ k`. The gap below a power of two is half as wide. -/
def Binary.interval (b : Binary) (k : Int) : Interval :=
  let narrow := b.mantissa = Nat.pow 2 52 ∧ b.exponent ≠ -1074
  let unit := (Ratio.scaled 1 (b.exponent - 2)).shift k
  { low := (4 * b.mantissa - if narrow then 1 else 2) * unit.num
    mid := 4 * b.mantissa * unit.num
    high := (4 * b.mantissa + 2) * unit.num
    den := unit.den
    closed := b.mantissa % 2 == 0 }

/-- The neighbour of the middle on the grid of whole numbers that lies in the interval, the
nearer of two. -/
def Interval.nearest? (i : Interval) : Option Nat :=
  let below := i.mid / i.den
  let above := below + 1
  match i.holds below, i.holds above with
  | true, true =>
    let toBelow := i.mid - below * i.den
    let toAbove := above * i.den - i.mid
    if toBelow < toAbove then some below
    else if toAbove < toBelow then some above
    else if below % 2 = 0 then some below else some above
  | true, false => some below
  | false, true => some above
  | false, false => none

/-- Drops the trailing zeros of the digits. -/
def Scientific.trim (s : Scientific) : Scientific :=
  if s.digits ≠ 0 ∧ s.digits % 10 = 0 then trim ⟨s.digits / 10, s.exponent + 1⟩ else s
termination_by s.digits
decreasing_by omega

/-- Shortest digits of a nonzero `b`, without trailing zeros. -/
def Binary.shortest (b : Binary) : Scientific :=
  let top := (Ratio.scaled b.mantissa b.exponent).magnitude
  let grids := (List.range 17).map fun (i : Nat) => top - (i + 1)
  let hit := grids.findSome? fun k => (b.interval k).nearest?.map fun n => Scientific.mk n k
  (hit.getD ⟨b.mantissa, 0⟩).trim

end QuorumGate.Decimal
