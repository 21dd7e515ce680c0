import QuorumGate.Decimal.Reading
import QuorumGate.Text.Encoding

/-!
# Internet addresses

The text of addresses of the fourth and the sixth version.
-/

namespace QuorumGate.Address

/-- A number from 0 to 255 without leading zeros. -/
def isOctet (s : List Char) : Bool :=
  !s.isEmpty && s.length ≤ 3 && s.all Decimal.isDigit && (s == ['0'] || s.head? != some '0') &&
    Decimal.valueOfDigits s ≤ 255

/-- Four octets with points between them. -/
def isVersion4 (s : List Char) : Bool :=
  let parts := s.splitOn '.'
  parts.length == 4 && parts.all isOctet

/-- One character of a host that looks like an address of version 4. The state counts the groups
that are still to come, and tells whether the current group has a digit. -/
def dottedStep (states : List (Nat × Bool)) (c : Char) : List (Nat × Bool) :=
  (states.flatMap fun (groups, started) =>
    (if Decimal.isDigit c then [(groups, true)] else []) ++
      if started && groups != 0 then [(groups - 1, false)] else []).eraseDups

/-- Whether a host looks like an address of version 4: four groups of digits with any one character
between them. -/
def looksVersion4 (s : List Char) : Bool := (s.foldl dottedStep [(3, false)]).contains (0, true)

def isHexGroup (s : List Char) : Bool := s.length ≤ 4 && s.all fun c => (Text.hexValue? c).isSome

/-- Groups with a colon between them, of which an empty one stands for at least one group of zeros.
It may stand at an end only next to another empty part, since two colons meet there. -/
def areGroups (parts : List (List Char)) : Bool :=
  let inner := (parts.drop 1).dropLast
  let first := parts.head?.getD []
  let last := parts.getLast?.getD []
  let gaps := (inner.filter List.isEmpty).length
  let before := inner.takeWhile (!·.isEmpty)
  let after := inner.reverse.takeWhile (!·.isEmpty)
  parts.all isHexGroup &&
    if gaps = 0 then parts.length == 8 && !first.isEmpty && !last.isEmpty
    else
      gaps == 1 && (!first.isEmpty || before.isEmpty) && (!last.isEmpty || after.isEmpty) &&
        before.length + after.length + (if first.isEmpty then 0 else 1) +
          (if last.isEmpty then 0 else 1) < 8

/-- Eight groups of up to four hexadecimal digits. The last two may be written like an address of
version 4, and a zone may follow a percent sign. -/
def isVersion6 (s : List Char) : Bool :=
  let address := s.takeWhile (· != '%')
  let zone := s.drop address.length
  let zoneIsFine := zone.isEmpty || (1 < zone.length && !(zone.drop 1).contains '%')
  let parts := address.splitOn ':'
  let last := parts.getLast?.getD []
  zoneIsFine && 3 ≤ parts.length && !s.contains '/' &&
    if last.contains '.' then isVersion4 last && areGroups (parts.dropLast ++ [['0'], ['0']])
    else areGroups parts

end QuorumGate.Address
