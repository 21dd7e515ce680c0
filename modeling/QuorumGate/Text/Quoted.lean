import QuorumGate.Text.Printable

/-!
# Quoted text

Text inside a written list or record stands in quotes: single ones, unless the text has a single
quote and no double quote. Backslashes, the quote in use and unprintable characters are escaped.
-/

namespace QuorumGate.Text

def hexDigits (width n : Nat) : List Char :=
  let ds := Nat.toDigits 16 n
  List.replicate (width - ds.length) '0' ++ ds

def quoteFor (t : Text) : Char :=
  if t.glyphs.contains (.char '\'') && !t.glyphs.contains (.char '"') then '"' else '\''

/-- A character from U+0080 on, or a control, by its number. -/
def escapedChar (c : Char) : List Char :=
  if c.toNat < 0x100 then '\\' :: 'x' :: hexDigits 2 c.toNat
  else if c.toNat < 0x10000 then '\\' :: 'u' :: hexDigits 4 c.toNat
  else '\\' :: 'U' :: hexDigits 8 c.toNat

def quotedChar (quote c : Char) : List Char :=
  if c = quote ∨ c = '\\' then ['\\', c]
  else if c = '\n' then ['\\', 'n']
  else if c = '\r' then ['\\', 'r']
  else if c = '\t' then ['\\', 't']
  else if isPrintable c then [c]
  else escapedChar c

def quotedGlyph (quote : Char) : Glyph → List Char
  | .char c => quotedChar quote c
  | g => '\\' :: 'u' :: hexDigits 4 g.codePoint

def quoted (t : Text) : String :=
  let q := quoteFor t
  String.ofList (q :: (t.glyphs.flatMap (quotedGlyph q) ++ [q]))

end QuorumGate.Text
