import QuorumGate.Decimal.Reading
import QuorumGate.Time.Instant

/-!
# Reading instants

A text is a date with a time of day, a date alone, or a number. Numbers count seconds since 1970
in UTC, or milliseconds when the count exceeds 2e10 in absolute value.
-/

namespace QuorumGate.Instant

def digitValue? (c : Char) : Option Nat :=
  if '0' ≤ c ∧ c ≤ '9' then some (c.toNat - '0'.toNat) else none

def number2? (a b : Char) : Option Nat := do
  return 10 * (← digitValue? a) + (← digitValue? b)

def number4? (a b c d : Char) : Option Nat := do
  return 100 * (← number2? a b) + (← number2? c d)

def readDate? : List Char → Option (Date × List Char)
  | y1 :: y2 :: y3 :: y4 :: '-' :: m1 :: m2 :: '-' :: d1 :: d2 :: rest => do
    let d ← Date.mk? (← number4? y1 y2 y3 y4) (← number2? m1 m2) (← number2? d1 d2)
    return (d, rest)
  | _ => none

/-- The first six digits of a fraction as microseconds. -/
def fractionMicros (ds : List Char) : Nat :=
  ((ds ++ List.replicate 6 '0').take 6).foldl (fun n c => 10 * n + (c.toNat - '0'.toNat)) 0

/-- Seconds, if a colon announces them, with an optional fraction; in microseconds. -/
def readSeconds? (s : List Char) : Option (Nat × List Char) :=
  match s with
  | ':' :: s1 :: s2 :: rest => do
    let seconds ← number2? s1 s2
    if 59 < seconds then none
    else
      match rest with
      | mark :: tail =>
        if mark = '.' ∨ mark = ',' then
          let ds := tail.takeWhile fun c => (digitValue? c).isSome
          if ds.isEmpty then none
          else some (seconds * microsPerSecond + fractionMicros ds, tail.drop ds.length)
        else some (seconds * microsPerSecond, rest)
      | [] => some (seconds * microsPerSecond, [])
  | ':' :: _ => none
  | _ => some (0, s)

/-- The time of day in microseconds since midnight. -/
def readClock? : List Char → Option (Nat × List Char)
  | h1 :: h2 :: ':' :: m1 :: m2 :: rest => do
    let hours ← number2? h1 h2
    let minutes ← number2? m1 m2
    if 23 < hours ∨ 59 < minutes then none
    else
      let (micros, rest) ← readSeconds? rest
      return ((hours * 60 + minutes) * microsPerMinute + micros, rest)
  | _ => none

def offset? (negative : Bool) (hours minutes : Nat) : Option Offset :=
  let total : Int := hours * 60 + minutes
  let signed := if negative then -total else total
  if 59 < minutes then none
  else if h : -1440 < signed ∧ signed < 1440 then some ⟨signed, h.1, h.2⟩ else none

/-- The digits of an offset after its sign, with or without a colon. -/
def readOffset? (negative : Bool) : List Char → Option (Option Offset)
  | [h1, h2, ':', m1, m2] | [h1, h2, m1, m2] => do
    let o ← offset? negative (← number2? h1 h2) (← number2? m1 m2)
    return some o
  | _ => none

/-- The rest of a text after the time of day: nothing, UTC, or a signed offset. -/
def readZone? : List Char → Option (Option Offset)
  | [] => some none
  | ['Z'] | ['z'] => some (some Offset.utc)
  | '+' :: rest => readOffset? false rest
  | '-' :: rest | '\u2212' :: rest => readOffset? true rest
  | _ => none

/-- A date and a time of day with a separator between them. -/
def readDateTime? (s : List Char) : Option Instant := do
  let (d, rest) ← readDate? s
  match rest with
  | sep :: rest =>
    if sep = 'T' ∨ sep = 't' ∨ sep = ' ' ∨ sep = '_' then
      let (micros, rest) ← readClock? rest
      let zone ← readZone? rest
      if h : micros < microsPerDay then some ⟨d, micros, h, zone⟩ else none
    else none
  | [] => none

/-- A date alone means midnight, without an offset. -/
def readDateOnly? (s : List Char) : Option Instant := do
  let (d, rest) ← readDate? s
  if rest.isEmpty then some ⟨d, 0, by decide, none⟩ else none

/-- Seconds from 1 January of year 1 to the start of 1970. -/
def unixEpoch : Int := 719162 * 86400

/-- The instant a number of seconds and microseconds after the start of 1970. -/
def ofUnixMicros? (seconds micros : Int) : Option Instant :=
  ofWall? ((seconds + unixEpoch) * microsPerSecond + micros) (some Offset.utc)

/-- The largest count, in absolute value, that is taken for seconds. -/
def mostSeconds : Nat := 20000000000

def ofUnix? (count : Int) : Option Instant :=
  if count.natAbs ≤ mostSeconds then ofUnixMicros? count 0
  else ofUnixMicros? (Int.fdiv count 1000) (Int.fmod count 1000 * 1000)

/-- The whole seconds are rounded down, and what is left is rounded to a microsecond. -/
def ofUnixReal? (count : Float) : Option Instant :=
  if count.isNaN then none
  else
    let seconds := if count.abs > Float.ofNat mostSeconds then count / 1000.0 else count
    let micros := ((seconds - seconds.floor) * 1000000.0).round
    ofUnixMicros? seconds.floor.toInt64.toInt micros.toInt64.toInt

/-- A number in digits with an optional sign. It is whole unless a point follows its first
digits. -/
def readNumber? (s : List Char) : Option Instant :=
  let (negative, body) := Decimal.takeSign s
  let (ds, rest) := Decimal.takeDigits body
  let n := Decimal.valueOfDigits ds
  if Nat.pow 2 63 ≤ n then none
  else
    match rest with
    | [] => if ds.isEmpty then none else ofUnix? (if negative then -(n : Int) else n)
    | '.' :: _ => (Decimal.real? negative body).bind ofUnixReal?
    | _ => none

def read? (s : List Char) : Option Instant :=
  readDateTime? s <|> readNumber? s <|> readDateOnly? s

end QuorumGate.Instant
