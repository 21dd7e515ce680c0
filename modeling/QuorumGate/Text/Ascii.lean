import QuorumGate.Text.Quoted

/-!
# Text that must be ASCII

Where only ASCII can be written, the first run of other characters is reported.
-/

namespace QuorumGate.Text

/-- A run of characters outside of ASCII. -/
structure AsciiFault where
  position : Nat
  first : Char
  count : Nat
  deriving DecidableEq, Repr

namespace AsciiFault

def label : String := "UnicodeEncodeError"

def of? (s : String) : Option AsciiFault :=
  let before := s.toList.takeWhile (·.toNat < 0x80)
  match s.toList.drop before.length with
  | [] => none
  | c :: rest => some ⟨before.length, c, 1 + (rest.takeWhile (0x80 ≤ ·.toNat)).length⟩

def message (f : AsciiFault) : String :=
  let run :=
    if f.count = 1 then
      s!"character '{String.ofList (escapedChar f.first)}' in position {f.position}"
    else s!"characters in position {f.position}-{f.position + f.count - 1}"
  s!"'ascii' codec can't encode {run}: ordinal not in range(128)"

end AsciiFault

end QuorumGate.Text
