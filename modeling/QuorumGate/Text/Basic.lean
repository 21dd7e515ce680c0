/-!
# Text

A text is a list of characters. One that comes out of JSON may also hold surrogates without their
partners: it can be stored, compared and escaped like any other, but it has no UTF-8 form.
-/

namespace QuorumGate

/-- A character, or a surrogate that stands alone. -/
inductive Glyph where
  | char (c : Char)
  | surrogate (n : Fin 0x800)
  deriving DecidableEq, Repr

namespace Glyph

def codePoint : Glyph → Nat
  | char c => c.toNat
  | surrogate n => 0xD800 + n.val

def ofCodePoint (n : Nat) : Glyph :=
  if h : 0xD800 ≤ n ∧ n < 0xE000 then surrogate ⟨n - 0xD800, by omega⟩ else char (Char.ofNat n)

def char? : Glyph → Option Char
  | char c => some c
  | surrogate _ => none

/-- Whether it is a character of a class. -/
def isIn (p : Char → Bool) : Glyph → Bool
  | char c => p c
  | surrogate _ => false

end Glyph

structure Text where
  glyphs : List Glyph
  deriving DecidableEq, Repr, Inhabited

namespace Text

def ofList (cs : List Char) : Text := ⟨cs.map .char⟩

def ofString (s : String) : Text := ofList s.toList

instance : Coe String Text := ⟨ofString⟩

instance : Append Text := ⟨fun s t => ⟨s.glyphs ++ t.glyphs⟩⟩

def isEmpty (t : Text) : Bool := t.glyphs.isEmpty

/-- Whether it begins with another text. -/
def startsWith (t front : Text) : Bool := front.glyphs.isPrefixOf t.glyphs

/-- The first so many glyphs. -/
def take (n : Nat) (t : Text) : Text := ⟨t.glyphs.take n⟩

/-- Order by code points. -/
def le (s t : Text) : Bool := !(t.glyphs.map Glyph.codePoint).lex (s.glyphs.map Glyph.codePoint)

def joined (separator : Text) : List Text → Text
  | [] => ⟨[]⟩
  | [t] => t
  | t :: rest => t ++ separator ++ joined separator rest

def charsOf? : List Glyph → Option (List Char)
  | [] => some []
  | .char c :: rest => (charsOf? rest).map (c :: ·)
  | .surrogate _ :: _ => none

/-- The characters, unless a surrogate stands alone. -/
def chars? (t : Text) : Option (List Char) := charsOf? t.glyphs

def string? (t : Text) : Option String := t.chars?.map String.ofList

/-- Whether no surrogate stands alone. -/
def isWhole (t : Text) : Bool := t.chars?.isSome

@[simp] theorem glyphs_append (s t : Text) : (s ++ t).glyphs = s.glyphs ++ t.glyphs := rfl

@[simp] theorem chars?_ofList (cs : List Char) : (ofList cs).chars? = some cs := by
  show charsOf? (cs.map .char) = some cs
  induction cs with
  | nil => rfl
  | cons c cs ih => simp [charsOf?, ih]

@[simp] theorem string?_ofString (s : String) : (ofString s).string? = some s := by
  simp [string?, ofString]

end Text

end QuorumGate
