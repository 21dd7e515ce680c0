import QuorumGate.Decimal.Whole
import QuorumGate.Number

/-!
# Lengths of time

A length of time is a whole number of microseconds, within bounds. What is given in parts of a
microsecond is rounded to the nearest one, a half to the even one.
-/

namespace QuorumGate

def microsPerSecond : Nat := 1000000
def microsPerMinute : Nat := 60 * microsPerSecond
def microsPerDay : Nat := 86400 * microsPerSecond

/-- Why a computation with times can fail. -/
inductive TimeFault where
  | incomparable
  | dateOutOfRange
  | durationOutOfRange (days : Int)
  | durationOverflow
  | infiniteDuration
  | undefinedDuration
  deriving DecidableEq, Repr

namespace TimeFault

def message : TimeFault → String
  | incomparable => "can't compare offset-naive and offset-aware datetimes"
  | dateOutOfRange => "date value out of range"
  | durationOutOfRange days => s!"days={days}; must have magnitude <= 999999999"
  | durationOverflow => "Python int too large to convert to C int"
  | infiniteDuration => "cannot convert float infinity to integer"
  | undefinedDuration => "cannot convert float NaN to integer"

end TimeFault

structure Duration where
  micros : Int
  deriving DecidableEq, Repr

namespace Duration

/-- At most 999999999 days; beyond 2^31 days the failure is another one. -/
def ofMicros (n : Int) : Except TimeFault Duration :=
  let days := Int.fdiv n microsPerDay
  if 2147483647 < days ∨ days < -2147483648 then .error .durationOverflow
  else if 999999999 < days ∨ days < -999999999 then .error (.durationOutOfRange days)
  else .ok ⟨n⟩

def ofSeconds (n : Int) : Except TimeFault Duration := ofMicros (n * microsPerSecond)

/-- A number of units of so many microseconds: whole microseconds, and what is left of one. -/
def split (unit : Nat) : Number → Except TimeFault (Int × Float)
  | .whole n => .ok (n * unit, 0.0)
  | .real x =>
    if x.isNaN then .error .undefinedDuration
    else if x.isInf then .error .infiniteDuration
    else
      let n := Decimal.wholePart x
      let rest := (x - Float.ofInt n) * Float.ofNat unit
      let m := Decimal.wholePart rest
      .ok (n * unit + m, rest - Float.ofInt m)

/-- What is left of a microsecond, rounded; a half is rounded so that the sum with `n` is even. -/
def roundRest (n : Int) (rest : Float) : Int :=
  let nearest := rest.round
  if (nearest - rest).abs == 0.5 then
    let odd := Float.ofInt (n % 2)
    Decimal.wholePart (2.0 * ((rest + odd) * 0.5).round - odd)
  else Decimal.wholePart nearest

/-- So many seconds and microseconds. -/
def ofParts (seconds micros : Number) : Except TimeFault Duration := do
  let (m, mRest) ← split 1 micros
  let (s, sRest) ← split microsPerSecond seconds
  let n := m + s
  ofMicros (n + roundRest n (mRest + sRest))

end Duration

end QuorumGate
