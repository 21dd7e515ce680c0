import QuorumGate.Text.Encoding

/-!
# Tables of pairs

Encodings of large character sets assign characters to pairs of bytes.
-/

namespace QuorumGate.Text

/-- The characters of consecutive pairs that share their first byte. U+FFFD stands where nothing is
assigned. -/
structure PairRow where
  lead : Nat
  first : Nat
  chars : String

/-- Consecutive pairs that share their first byte, with consecutive code points. -/
structure PairRun where
  lead : Nat
  first : Nat
  last : Nat
  codePoint : Nat

def PairRow.find? (rows : List PairRow) (a b : Nat) : Option Char :=
  rows.findSome? fun r =>
    if r.lead = a ∧ r.first ≤ b then (r.chars.toList[b - r.first]?).filter (· != replacement)
    else none

def PairRun.find? (runs : List PairRun) (a b : Nat) : Option Char :=
  (runs.find? fun r => r.lead == a && r.first ≤ b && b ≤ r.last).map fun r =>
    Char.ofNat (r.codePoint + (b - r.first))

end QuorumGate.Text
