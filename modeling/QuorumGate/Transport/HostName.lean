import QuorumGate.Text.Case
import QuorumGate.Text.Composition
import QuorumGate.Text.Direction
import QuorumGate.Text.Joining
import QuorumGate.Text.Script
import QuorumGate.Transport.HostLetter
import QuorumGate.Transport.Punycode

/-!
# International host names

A host name with characters outside of ASCII is a row of labels, each of which follows the rules for
international domain names and has a short enough form in ASCII.
-/

namespace QuorumGate.HostName

/-- Whether a zero-width non-joiner may stand between two rows of characters, the first of which is
given backwards. -/
def breaksJoin (before rest : List Char) : Bool :=
  before.head?.any (Text.combiningClass · == Text.viramaClass) ||
    (before.dropWhile Text.isNonspacing).head?.any Text.joinsNext &&
      (rest.dropWhile Text.isNonspacing).head?.any Text.joinsPrevious

/-- Whether a character may stand behind some and before others. -/
def isAllowed (before : List Char) (c : Char) (rest : List Char) : Bool :=
  let others := before ++ rest
  isLetter c ||
    match c with
    | '\u200c' => breaksJoin before rest
    | '\u200d' => before.head?.any (Text.combiningClass · == Text.viramaClass)
    | '\u00b7' => before.head? == some 'l' && rest.head? == some 'l'
    | '\u0375' => rest.head?.any (Text.within Text.Script.greek)
    | '\u05f3' | '\u05f4' => before.head?.any (Text.within Text.Script.hebrew)
    | '\u30fb' =>
      others.any (Text.within (Text.Script.hiragana ++ Text.Script.katakana ++ Text.Script.han))
    | _ =>
      if Text.within [(0x660, 0x669)] c then !others.any (Text.within [(0x6F0, 0x6F9)])
      else Text.within [(0x6F0, 0x6F9)] c && !others.any (Text.within [(0x660, 0x669)])

def areAllowed (before : List Char) : List Char → Bool
  | [] => true
  | c :: rest => isAllowed before c rest && areAllowed (c :: before) rest

def hasHyphensApart (s : List Char) : Bool :=
  s.head? != some '-' && s.getLast? != some '-' && (s.drop 2).take 2 != ['-', '-']

def rightToLeft : List Text.Direction := [.rightToLeft, .arabic]

def numbers : List Text.Direction := [.arabicNumber, .europeanNumber]

/-- Whether the directions go together. Where one goes from right to left, all do, and numbers are
of one kind. -/
def directionsAgree (s : List Char) : Bool :=
  let ds := s.map Text.direction
  let last := (Text.dropTrailing (· == .mark) ds).getLast?
  !ds.any (.arabicNumber :: rightToLeft).contains ||
    ds.head?.any rightToLeft.contains && last.any (rightToLeft ++ numbers).contains &&
      !ds.contains .leftToRight && !numbers.all ds.contains

/-- Whether a label follows the rules, whatever its length in ASCII. -/
def isLabel (s : List Char) : Bool :=
  !s.isEmpty && hasHyphensApart s && !s.head?.any Text.isMark && areAllowed [] s &&
    Text.isComposed s && directionsAgree s

/-- What stands in front of the ASCII form of a label. -/
def marker : List Char := "xn--".toList

/-- The ASCII form of a label. A label in ASCII is its own, if the label that it stands for follows
the rules. -/
def asciiLabel? (s : List Char) : Option (List Char) :=
  if s.all fun c => c.toNat < 0x80 then
    let lower := s.map Char.toLower
    let stem := lower.drop marker.length
    let isFine :=
      if marker.isPrefixOf lower then
        !stem.isEmpty && stem.getLast? != some '-' && (Punycode.decode? stem).any isLabel
      else isLabel lower
    if isFine then some s else none
  else if isLabel s then some (marker ++ Punycode.encode s)
  else none

/-- Whether a character separates labels. -/
def isPoint (c : Char) : Bool := c == '.' || c == '\u3002' || c == '\uff0e' || c == '\uff61'

def mostInLabel : Nat := 63

def mostInName : Nat := 253

/-- Whether a name in lower case has an ASCII form. A point may stand at its end. -/
def isValid (s : List Char) : Bool :=
  let labels := s.splitOnP isPoint
  let labels := if labels.getLast? == some [] then labels.dropLast else labels
  match labels.mapM asciiLabel? with
  | some forms =>
    !forms.isEmpty && forms.all (·.length ≤ mostInLabel) &&
      (List.intercalate ['.'] forms).length ≤ mostInName
  | none => false

end QuorumGate.HostName
