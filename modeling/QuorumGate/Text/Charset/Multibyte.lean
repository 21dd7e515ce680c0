import QuorumGate.Text.Charset.BigFive
import QuorumGate.Text.Charset.GuoBiao
import QuorumGate.Text.Charset.Japanese
import QuorumGate.Text.Charset.Korean

/-!
# Multi-byte encodings

ASCII stands for itself, and all else in sequences of two bytes or more. A byte that begins no
sequence is read as U+FFFD, and so is a sequence that is cut off at the end.
-/

namespace QuorumGate.Text

inductive Multibyte where
  | gb2312
  | gbk
  | gb18030
  | big5
  | codePage950
  | eucKr
  | codePage949
  | shiftJis
  | codePage932
  | eucJp
  deriving DecidableEq, Repr

namespace Multibyte

/-- What a byte begins: a character that takes so many more bytes, or none. -/
inductive Taken where
  | char (c : Char) (more : Nat)
  | illFormed
  | cutOff

def Taken.ofChar? (c : Option Char) (more : Nat) : Taken :=
  match c with
  | some c => .char c more
  | none => .illFormed

/-- A pair of bytes. -/
def pair (find? : Nat → Nat → Option Char) (a : Nat) : List Nat → Taken
  | [] => .cutOff
  | b :: _ => .ofChar? (find? a b) 1

def gbkPair? (a b : Nat) : Option Char :=
  PairRow.find? GuoBiao.extension a b <|> PairRow.find? GuoBiao.basic a b

def gb18030Pair? (a b : Nat) : Option Char := gbkPair? a b <|> PairRun.find? GuoBiao.laterRuns a b

/-- Four bytes, of which the second and the last are digits. Their number counts the sequences with
the same first byte or a lower one; those from the sixteenth first byte on are beyond U+FFFF. -/
def fourBytes? (a b c d : Nat) : Option Char :=
  if 0x81 ≤ a ∧ a ≤ 0xFE ∧ 0x81 ≤ c ∧ c ≤ 0xFE ∧ 0x30 ≤ d ∧ d ≤ 0x39 then
    let within (lead : Nat) := ((lead * 10 + (b - 0x30)) * 126 + (c - 0x81)) * 10 + (d - 0x30)
    let lead := a - 0x81
    if lead < 4 then
      let n := within lead
      (GuoBiao.fourByteRuns.find? fun r => r.first ≤ n && n ≤ r.last).map fun r =>
        Char.ofNat (r.codePoint + (n - r.first))
    else if 15 ≤ lead then
      let n := 0x10000 + within (lead - 15)
      if n < 0x110000 then some (Char.ofNat n) else none
    else none
  else none

/-- A pair, or four bytes if the second one is a digit. -/
def takeGb18030 (a : Nat) : List Nat → Taken
  | [] => .cutOff
  | b :: rest =>
    if 0x30 ≤ b ∧ b ≤ 0x39 then
      match rest with
      | c :: d :: _ => .ofChar? (fourBytes? a b c d) 3
      | _ => .cutOff
    else .ofChar? (gb18030Pair? a b) 1

/-- The letters that can begin a syllable, in the order of syllables. -/
def initials : List Nat :=
  [0xA1, 0xA2, 0xA4, 0xA7, 0xA8, 0xA9, 0xB1, 0xB2, 0xB3, 0xB5, 0xB6, 0xB7, 0xB8, 0xB9, 0xBA, 0xBB,
   0xBC, 0xBD, 0xBE]

/-- The letters that can end a syllable, the filler first. -/
def finals : List Nat :=
  [0xD4, 0xA1, 0xA2, 0xA3, 0xA4, 0xA5, 0xA6, 0xA7, 0xA9, 0xAA, 0xAB, 0xAC, 0xAD, 0xAE, 0xAF, 0xB0,
   0xB1, 0xB2, 0xB4, 0xB5, 0xB6, 0xB7, 0xB8, 0xBA, 0xBB, 0xBC, 0xBD, 0xBE]

/-- A syllable by its three letters. -/
def syllable? (initial vowel final : Nat) : Option Char := do
  let i ← initials.idxOf? initial
  let f ← finals.idxOf? final
  if 0xBF ≤ vowel ∧ vowel ≤ 0xD3 then
    some (Char.ofNat (0xAC00 + (i * 21 + (vowel - 0xBF)) * 28 + f))
  else none

/-- A pair. The filler begins a syllable that is spelled out in three more pairs. -/
def takeEucKr (a : Nat) : List Nat → Taken
  | [] => .cutOff
  | b :: rest =>
    if a = 0xA4 ∧ b = 0xD4 then
      match rest with
      | 0xA4 :: i :: 0xA4 :: v :: 0xA4 :: f :: _ => .ofChar? (syllable? i v f) 7
      | _ :: _ :: _ :: _ :: _ :: _ :: _ => .illFormed
      | _ => .cutOff
    else .ofChar? (PairRow.find? Korean.basic a b) 1

/-- A pair of the shifted form: a row of it holds two rows of the set. -/
def shiftedPair? (a b : Nat) : Option Char :=
  let row := 2 * (if a < 0xA0 then a - 0x81 else a - 0xC1)
  if b < 0x40 ∨ b = 0x7F ∨ 0xFC < b then none
  else if 0x9F ≤ b then PairRow.find? Japanese.basic (0xA2 + row) (b + 2)
  else PairRow.find? Japanese.basic (0xA1 + row) (if b < 0x7F then b + 0x61 else b + 0x60)

/-- The half-width katakana, single bytes in the shifted form. -/
def halfWidth? (b : Nat) : Option Char :=
  if 0xA1 ≤ b ∧ b ≤ 0xDF then some (Char.ofNat (0xFEC0 + b)) else none

def takeShiftJis (a : Nat) (rest : List Nat) : Taken :=
  match halfWidth? a with
  | some c => .char c 0
  | none =>
    if 0x81 ≤ a ∧ a ≤ 0x9F ∨ 0xE0 ≤ a ∧ a ≤ 0xFC then pair shiftedPair? a rest else .illFormed

/-- The pairs from F0 to F9 are for private use. -/
def codePage932Pair? (a b : Nat) : Option Char :=
  if 0xF0 ≤ a ∧ a ≤ 0xF9 then
    if b < 0x40 ∨ b = 0x7F ∨ 0xFC < b then none
    else some (Char.ofNat (0xE000 + 188 * (a - 0xF0) + (b - (if b < 0x7F then 0x40 else 0x41))))
  else PairRow.find? Japanese.variants a b <|> shiftedPair? a b

def takeCodePage932 (a : Nat) (rest : List Nat) : Taken :=
  match halfWidth? a with
  | some c => .char c 0
  | none =>
    if a = 0x80 then .char (Char.ofNat a) 0
    else if a = 0xA0 then .char '\uf8f0' 0
    else if 0xFD ≤ a then .char (Char.ofNat (0xF8F1 + (a - 0xFD))) 0
    else pair codePage932Pair? a rest

/-- A pair, a half-width katakana behind 8E, or a pair of the supplement behind 8F. -/
def takeEucJp (a : Nat) (rest : List Nat) : Taken :=
  if a = 0x8E then pair (fun _ => halfWidth?) a rest
  else if a = 0x8F then
    match rest with
    | b :: c :: _ => .ofChar? (PairRow.find? Japanese.supplement b c) 2
    | _ => .cutOff
  else pair (PairRow.find? Japanese.basic) a rest

/-- What a byte beyond ASCII begins. -/
def take : Multibyte → Nat → List Nat → Taken
  | gb2312 => pair (PairRow.find? GuoBiao.basic)
  | gbk => pair gbkPair?
  | gb18030 => takeGb18030
  | big5 => pair (PairRow.find? BigFive.basic)
  | codePage950 =>
    pair fun a b => PairRow.find? BigFive.variants a b <|> PairRow.find? BigFive.basic a b
  | eucKr => takeEucKr
  | codePage949 =>
    pair fun a b => PairRow.find? Korean.basic a b <|> PairRow.find? Korean.extension a b
  | shiftJis => takeShiftJis
  | codePage932 => takeCodePage932
  | eucJp => takeEucJp

def decode (e : Multibyte) : List Nat → List Char
  | [] => []
  | a :: rest =>
    if a < 0x80 then Char.ofNat a :: decode e rest
    else
      match e.take a rest with
      | .char c more => c :: decode e (rest.drop more)
      | .illFormed => replacement :: decode e rest
      | .cutOff => [replacement]
termination_by s => s.length
decreasing_by all_goals simp only [List.length_drop, List.length_cons]; omega

end Multibyte

end QuorumGate.Text
