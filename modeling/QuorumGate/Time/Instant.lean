import QuorumGate.Time.Date
import QuorumGate.Time.Duration

/-!
# Instants

A reading of a clock and a calendar, with or without an offset from UTC. Two readings can be
compared only when both carry an offset or neither does.
-/

namespace QuorumGate

/-- Minutes east of UTC, less than a day. -/
structure Offset where
  minutes : Int
  lower : -1440 < minutes
  upper : minutes < 1440
  deriving DecidableEq, Repr

def Offset.utc : Offset := ⟨0, by decide, by decide⟩

/-- A date and the microseconds since midnight on it. -/
structure Instant where
  date : Date
  micros : Nat
  micros_lt : micros < microsPerDay
  offset : Option Offset
  deriving DecidableEq, Repr

namespace Instant

/-- Microseconds since midnight of 1 January of year 1, as the clock on the wall counts them. -/
def wall (t : Instant) : Int := t.date.ordinal * microsPerDay + t.micros

/-- The same count in UTC; a reading without an offset keeps the count of its wall clock. -/
def ticks (t : Instant) : Int :=
  match t.offset with
  | some o => t.wall - o.minutes * microsPerMinute
  | none => t.wall

def isAware (t : Instant) : Bool := t.offset.isSome

/-- Whether two readings name the same moment. With and without an offset they never do. -/
def same (s t : Instant) : Bool := s.isAware == t.isAware && s.ticks == t.ticks

@[simp] theorem same_self (t : Instant) : t.same t = true := by simp [same]

/-- Whether `s` is strictly later than `t`. -/
def isAfter (s t : Instant) : Except TimeFault Bool :=
  if s.isAware = t.isAware then .ok (t.ticks < s.ticks) else .error .incomparable

/-- The reading at a count of the wall clock. -/
def ofWall? (wall : Int) (offset : Option Offset) : Option Instant :=
  if wall < 0 then none
  else
    let n := wall.toNat
    (Date.ofOrdinal? (n / microsPerDay)).map fun d =>
      ⟨d, n % microsPerDay, Nat.mod_lt _ (by decide), offset⟩

/-- A duration later on the same wall clock. -/
def plus (t : Instant) (d : Duration) : Except TimeFault Instant :=
  match ofWall? (t.wall + d.micros) t.offset with
  | some t => .ok t
  | none => .error .dateOutOfRange

/-- Whether every two of the readings can be compared. -/
def allComparable : List Instant → Bool
  | [] => true
  | t :: rest => rest.all fun s => s.isAware == t.isAware

/-- Sorts by a reading, newest first; equal readings keep their order. -/
def newestFirst (time : α → Instant) (xs : List α) : Except TimeFault (List α) :=
  if allComparable (xs.map time) then
    .ok (xs.mergeSort fun x y => (time y).ticks ≤ (time x).ticks)
  else .error .incomparable

end Instant

end QuorumGate
