import QuorumGate.Text.Encoding

/-!
# UTF-7

ASCII stands for itself, and all else in runs of base-64 digits between a plus and the first byte
that is no such digit. A run holds UTF-16 units of sixteen bits, and no bit may be left over but
zeros.
-/

namespace QuorumGate.Text.Utf7

/-- The value of a base-64 digit. -/
def digit? (b : Nat) : Option Nat :=
  if 0x41 ≤ b ∧ b ≤ 0x5A then some (b - 0x41)
  else if 0x61 ≤ b ∧ b ≤ 0x7A then some (b - 0x61 + 26)
  else if 0x30 ≤ b ∧ b ≤ 0x39 then some (b - 0x30 + 52)
  else if b = 0x2B then some 62
  else if b = 0x2F then some 63
  else none

/-- Where the reader stands: outside of the runs, right after a plus, or inside a run with the
bits that are left, their number, and a high surrogate that waits for its partner. -/
inductive State where
  | direct
  | opened
  | run (bits count : Nat) (high : Option Nat)

def illFormed : Glyph := .char replacement

/-- A unit that is complete, after a high surrogate or not. -/
def unit (high : Option Nat) (u : Nat) : List Glyph × Option Nat :=
  match high with
  | some h =>
    if isLowSurrogate u then ([.char (surrogatePair h u)], none)
    else if isHighSurrogate u then ([.ofCodePoint h], some u)
    else ([.ofCodePoint h, .ofCodePoint u], none)
  | none => if isHighSurrogate u then ([], some u) else ([.ofCodePoint u], none)

/-- A digit inside a run. -/
def digit (bits count : Nat) (high : Option Nat) (d : Nat) : List Glyph × State :=
  let bits := bits * 64 + d
  let count := count + 6
  if 16 ≤ count then
    let (out, high) := unit high (bits / Nat.pow 2 (count - 16))
    (out, .run (bits % Nat.pow 2 (count - 16)) (count - 16) high)
  else ([], .run bits count high)

/-- A byte outside of the runs. -/
def outside (b : Nat) : List Glyph × State :=
  if b = 0x2B then ([], .opened)
  else if b < 0x80 then ([.char (Char.ofNat b)], .direct)
  else ([illFormed], .direct)

/-- The first byte after a run. A minus only ends it. -/
def afterRun (bits count : Nat) (high : Option Nat) (b : Nat) : List Glyph × State :=
  if 6 ≤ count ∨ bits ≠ 0 then ([illFormed], .direct)
  else
    let waiting := match high with
      | some h => if b < 0x80 ∧ b ≠ 0x2B then [.ofCodePoint h] else []
      | none => []
    if b = 0x2D then (waiting, .direct)
    else
      let (out, next) := outside b
      (waiting ++ out, next)

def step (st : State) (b : Nat) : List Glyph × State :=
  match st with
  | .direct => outside b
  | .opened =>
    if b = 0x2D then ([.char '+'], .direct)
    else
      match digit? b with
      | some d => digit 0 0 none d
      | none => ([illFormed], .direct)
  | .run bits count high =>
    match digit? b with
    | some d => digit bits count high d
    | none => afterRun bits count high b

/-- What is missing at the end of the bytes. -/
def ending : State → List Glyph
  | .direct | .opened => []
  | .run bits count high => if high.isSome ∨ 6 ≤ count ∨ bits ≠ 0 then [illFormed] else []

def readFrom (acc : List Glyph) (st : State) : Bytes → List Glyph
  | [] => acc.reverse ++ ending st
  | b :: rest =>
    let (out, next) := step st b.toNat
    readFrom (out.reverse ++ acc) next rest

/-- Reads U+FFFD for what is ill-formed. -/
def read (bs : Bytes) : List Glyph := readFrom [] .direct bs

end QuorumGate.Text.Utf7
