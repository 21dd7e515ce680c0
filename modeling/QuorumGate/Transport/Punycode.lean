/-!
# Punycode

International labels in ASCII: the ASCII characters come first, then the places and the code points
of the others, as differences in a variable-length number system.
-/

namespace QuorumGate.Punycode

/-- What a digit at a place is worth at least for another one to follow. -/
def threshold (bias place : Nat) : Nat := min 26 (max 1 (36 * place - bias))

/-- Scales a difference down until it fits into two digits, counting what one step is worth. -/
def scale (steps delta : Nat) : Nat × Nat :=
  if 455 < delta then scale (steps + 36) (delta / 35) else (steps, delta)
termination_by delta
decreasing_by omega

/-- The bias for the next number. -/
def adapt (delta : Nat) (first : Bool) (length : Nat) : Nat :=
  let delta := if first then delta / 700 else delta / 2
  let (steps, delta) := scale 0 (delta + delta / length)
  steps + 36 * delta / (delta + 38)

def digitChar (d : Nat) : Char := Char.ofNat (if d < 26 then 0x61 + d else 0x30 + (d - 26))

def digit? (c : Char) : Option Nat :=
  if c.isAlpha then some (c.toLower.toNat - 0x61)
  else if c.isDigit then some (c.toNat - 0x30 + 26)
  else none

/-- The digits of a number, from a place on. -/
def digits (bias place n : Nat) : List Char :=
  let t := threshold bias place
  if n < t then [digitChar n]
  else digitChar (t + (n - t) % (36 - t)) :: digits bias (place + 1) ((n - t) / (36 - t))
termination_by n
decreasing_by
  have hle : threshold bias place ≤ 26 := Nat.min_le_left _ _
  have hpos : 1 ≤ threshold bias place := by unfold threshold; omega
  have : (n - threshold bias place) / (36 - threshold bias place) ≤ n - threshold bias place :=
    Nat.div_le_self _ _
  omega

/-- Where the writer stands: what has been passed since the last number, the bias, and how many
characters have been written. -/
structure Progress where
  delta : Nat
  bias : Nat
  written : Nat

/-- Writes the places of one code point. -/
def places (basic point : Nat) (p : Progress) : List Char → List Char × Progress
  | [] => ([], p)
  | c :: rest =>
    if c.toNat < point then places basic point { p with delta := p.delta + 1 } rest
    else if c.toNat = point then
      let bias := adapt p.delta (p.written == basic) (p.written + 1)
      let (more, q) := places basic point ⟨0, bias, p.written + 1⟩ rest
      (digits p.bias 1 p.delta ++ more, q)
    else places basic point p rest

/-- Writes the places of code points, given in rising order, from the one after `last` on. -/
def numbers (basic : Nat) (s : List Char) (last : Nat) (p : Progress) : List Nat → List Char
  | [] => []
  | point :: points =>
    let p := { p with delta := p.delta + (point - last) * (p.written + 1) }
    let (out, q) := places basic point p s
    out ++ numbers basic s (point + 1) { q with delta := q.delta + 1 } points

def encode (s : List Char) : List Char :=
  let basic := s.filter fun c => c.toNat < 0x80
  let points := ((s.map Char.toNat).filter fun n => 0x80 ≤ n).eraseDups.mergeSort
  let tail := numbers basic.length s 0x80 ⟨0, 72, basic.length⟩ points
  if basic.isEmpty then tail else basic ++ '-' :: tail

/-- Reads one number from its digits. The weight is that of the next digit. -/
def number? (bias place weight value : Nat) : List Char → Option (Nat × List Char)
  | [] => none
  | c :: rest =>
    match digit? c with
    | none => none
    | some d =>
      let t := threshold bias place
      let value := value + d * weight
      if d < t then some (value, rest) else number? bias (place + 1) (weight * (36 - t)) value rest

theorem length_lt_of_number? {bias place weight value n : Nat} {s rest : List Char}
    (h : number? bias place weight value s = some (n, rest)) : rest.length < s.length := by
  induction s generalizing place weight value with
  | nil => simp [number?] at h
  | cons c s ih =>
    simp only [number?] at h
    split at h
    · simp at h
    · split at h
      · simp_all
      · have := ih h
        simp only [List.length_cons]
        omega

/-- Puts in the characters that numbers tell, counting places round after round. -/
def insertAll (out : List Char) (point place bias : Nat) (first : Bool) (s : List Char) :
    Option (List Char) :=
  if s.isEmpty then some out
  else
    match h : number? bias 1 1 0 s with
    | none => none
    | some (delta, rest) =>
      let size := out.length + 1
      let point := point + (place + delta) / size
      let place := (place + delta) % size
      if point.isValidChar then
        insertAll (out.take place ++ Char.ofNat point :: out.drop place) point (place + 1)
          (adapt delta first size) false rest
      else none
termination_by s.length
decreasing_by exact length_lt_of_number? h

/-- Splits at the last hyphen; without one all is behind it. -/
def splitHyphen (s : List Char) : List Char × List Char :=
  let tail := (s.reverse.takeWhile (· != '-')).reverse
  (s.take (s.length - tail.length - 1), tail)

def decode? (s : List Char) : Option (List Char) :=
  let (basic, tail) := splitHyphen s
  insertAll basic 0x80 0 72 true tail

end QuorumGate.Punycode
