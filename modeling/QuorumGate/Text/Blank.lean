import QuorumGate.Text.Basic

/-!
# Blank characters

Two classes of blank characters and the trimming that goes by them. Names and identities are
trimmed by the wider class, the text of numbers by the narrower one.
-/

namespace QuorumGate.Text

/-- The characters with the Unicode property White_Space, as inclusive code point ranges. -/
def whiteSpace : List (Nat × Nat) :=
  [(0x09, 0x0D), (0x20, 0x20), (0x85, 0x85), (0xA0, 0xA0), (0x1680, 0x1680), (0x2000, 0x200A),
   (0x2028, 0x2029), (0x202F, 0x202F), (0x205F, 0x205F), (0x3000, 0x3000)]

/-- The four information separators, which count as blank although they are not White_Space. -/
def separators : List (Nat × Nat) := [(0x1C, 0x1F)]

def within (ranges : List (Nat × Nat)) (c : Char) : Bool :=
  ranges.any fun r => r.1 ≤ c.toNat && c.toNat ≤ r.2

def isWhiteSpace (c : Char) : Bool := within whiteSpace c

def isBlank (c : Char) : Bool := isWhiteSpace c || within separators c

/-- Drops what satisfies `p` at the end. -/
def dropTrailing (p : α → Bool) (xs : List α) : List α := (xs.reverse.dropWhile p).reverse

/-- Drops what satisfies `p` at both ends. -/
def trim (p : α → Bool) (xs : List α) : List α := dropTrailing p (xs.dropWhile p)

def strip (t : Text) : Text := ⟨trim (·.isIn isBlank) t.glyphs⟩

/-- Drops every slash at the end. -/
def dropSlashes (t : Text) : Text := ⟨dropTrailing (· == .char '/') t.glyphs⟩

end QuorumGate.Text
