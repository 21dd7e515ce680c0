import QuorumGate.Json.Basic

/-!
# Compact JSON text

No spaces, and ASCII only: every other character is escaped, beyond the basic plane by a surrogate
pair.
-/

namespace QuorumGate.Json

/-- The UTF-16 code units of a character. -/
def utf16Units (c : Char) : List Nat :=
  if c.toNat < 0x10000 then [c.toNat]
  else [0xD800 + (c.toNat - 0x10000) / 0x400, 0xDC00 + (c.toNat - 0x10000) % 0x400]

def unitEscape (u : Nat) : List Char := '\\' :: 'u' :: Text.hexDigits 4 u

/-- A character inside a JSON string. -/
def escapeChar (c : Char) : List Char :=
  if c = '"' then ['\\', '"']
  else if c = '\\' then ['\\', '\\']
  else if c = '\n' then ['\\', 'n']
  else if c = '\r' then ['\\', 'r']
  else if c = '\t' then ['\\', 't']
  else if c = '\x08' then ['\\', 'b']
  else if c = '\x0c' then ['\\', 'f']
  else if 0x20 ≤ c.toNat ∧ c.toNat < 0x7F then [c]
  else (utf16Units c).flatMap unitEscape

def escapeGlyph : Glyph → List Char
  | .char c => escapeChar c
  | g => unitEscape g.codePoint

def stringLiteral (t : Text) : List Char := '"' :: (t.glyphs.flatMap escapeGlyph ++ ['"'])

def numberLiteral : Number → List Char
  | .whole n => n.repr.toList
  | .real x =>
    if x.isNaN then "NaN".toList
    else if x.isInf then (if Decimal.isNegative x then "-Infinity" else "Infinity").toList
    else (Decimal.plain.render x).toList

mutual

def compactChars : Json → List Char
  | null => "null".toList
  | bool true => "true".toList
  | bool false => "false".toList
  | number n => numberLiteral n
  | text t => stringLiteral t
  | list items => '[' :: compactItems items ++ [']']
  | object ms => '{' :: compactMembers ms ++ ['}']

def compactItems : List Json → List Char
  | [] => []
  | [v] => compactChars v
  | v :: rest => compactChars v ++ ',' :: compactItems rest

def compactMembers : Members → List Char
  | [] => []
  | [(k, v)] => stringLiteral k ++ ':' :: compactChars v
  | (k, v) :: rest => stringLiteral k ++ ':' :: compactChars v ++ ',' :: compactMembers rest

end

def compact (v : Json) : String := String.ofList v.compactChars

end QuorumGate.Json
