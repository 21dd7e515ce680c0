import QuorumGate.Text.Basic

/-!
# Bytes as text

Decoding of UTF-8, UTF-16 and UTF-32, and the choice among them by the first bytes. Where an
encoded surrogate has no partner it is read as one that stands alone.
-/

namespace QuorumGate.Text

abbrev Bytes := List UInt8

def replacement : Char := '\ufffd'

/-- The bounds of the second byte after the leading byte `b`, and how many bytes follow `b`.
Surrogates are encoded by three bytes, of which the second is A0 or more. -/
def utf8Lead (surrogates : Bool) (b : Nat) : Option (Nat × Nat × Nat) :=
  if 0xC2 ≤ b ∧ b ≤ 0xDF then some (0x80, 0xBF, 1)
  else if b = 0xE0 then some (0xA0, 0xBF, 2)
  else if b = 0xED then some (0x80, if surrogates then 0xBF else 0x9F, 2)
  else if 0xE1 ≤ b ∧ b ≤ 0xEF then some (0x80, 0xBF, 2)
  else if b = 0xF0 then some (0x90, 0xBF, 3)
  else if b = 0xF4 then some (0x80, 0x8F, 3)
  else if 0xF1 ≤ b ∧ b ≤ 0xF3 then some (0x80, 0xBF, 3)
  else none

def leadBits (b following : Nat) : Nat :=
  match following with
  | 1 => b % 0x20
  | 2 => b % 0x10
  | _ => b % 0x08

/-- Where the reader of UTF-8 stands: between characters, or inside one, with the bits read so
far, the bounds of the next byte and how many bytes are missing. -/
inductive Utf8State where
  | between
  | inside (bits low high missing : Nat)

/-- Reads one byte between two characters; `none` marks an ill-formed sequence. -/
def utf8Start (surrogates : Bool) (b : Nat) : List (Option Glyph) × Utf8State :=
  if b < 0x80 then ([some (.char (Char.ofNat b))], .between)
  else
    match utf8Lead surrogates b with
    | some (low, high, following) => ([], .inside (leadBits b following) low high following)
    | none => ([none], .between)

/-- Reads one byte. An ill-formed sequence ends before the first byte that cannot continue it. -/
def utf8Step (surrogates : Bool) (st : Utf8State) (b : Nat) : List (Option Glyph) × Utf8State :=
  match st with
  | .between => utf8Start surrogates b
  | .inside bits low high missing =>
    if low ≤ b ∧ b ≤ high then
      let bits := bits * 0x40 + b % 0x40
      if missing = 1 then ([some (.ofCodePoint bits)], .between)
      else ([], .inside bits 0x80 0xBF (missing - 1))
    else
      let (out, next) := utf8Start surrogates b
      (none :: out, next)

def utf8Read (surrogates : Bool) (acc : List (Option Glyph)) :
    Utf8State → Bytes → List (Option Glyph)
  | .between, [] => acc.reverse
  | .inside .., [] => (none :: acc).reverse
  | st, b :: rest =>
    let (out, next) := utf8Step surrogates st b.toNat
    utf8Read surrogates (out.reverse ++ acc) next rest

def allSome : List (Option α) → Option (List α)
  | [] => some []
  | some a :: rest => (allSome rest).map (a :: ·)
  | none :: _ => none

/-- UTF-8 without an ill-formed sequence, but for surrogates. -/
def utf8? (bs : Bytes) : Option (List Glyph) := allSome (utf8Read true [] .between bs)

/-- UTF-8 in which each ill-formed sequence is read as U+FFFD. -/
def utf8Lossy (bs : Bytes) : List Char :=
  (utf8Read false [] .between bs).map fun g => (g.bind Glyph.char?).getD replacement

inductive Endian where
  | little
  | big
  deriving DecidableEq, Repr

def Endian.pair (e : Endian) (a b : UInt8) : Nat :=
  match e with
  | .little => a.toNat + 0x100 * b.toNat
  | .big => 0x100 * a.toNat + b.toNat

def Endian.quad (e : Endian) (a b c d : UInt8) : Nat :=
  match e with
  | .little => e.pair a b + 0x10000 * e.pair c d
  | .big => 0x10000 * e.pair a b + e.pair c d

def isHighSurrogate (n : Nat) : Bool := 0xD800 ≤ n && n ≤ 0xDBFF
def isLowSurrogate (n : Nat) : Bool := 0xDC00 ≤ n && n ≤ 0xDFFF

/-- The character of a surrogate pair. -/
def surrogatePair (high low : Nat) : Char :=
  Char.ofNat (0x10000 + (high - 0xD800) * 0x400 + (low - 0xDC00))

def units16 (e : Endian) : Bytes → Option (List Nat)
  | [] => some []
  | [_] => none
  | a :: b :: rest => (units16 e rest).map (e.pair a b :: ·)

def joinUnits : List Nat → List Glyph
  | [] => []
  | [u] => [.ofCodePoint u]
  | u :: v :: rest =>
    if isHighSurrogate u && isLowSurrogate v then .char (surrogatePair u v) :: joinUnits rest
    else .ofCodePoint u :: joinUnits (v :: rest)

def utf16? (e : Endian) (bs : Bytes) : Option (List Glyph) := (units16 e bs).map joinUnits

def utf32? (e : Endian) : Bytes → Option (List Glyph)
  | [] => some []
  | a :: b :: c :: d :: rest =>
    let n := e.quad a b c d
    if n < 0x110000 then (utf32? e rest).map (.ofCodePoint n :: ·) else none
  | _ => none

/-- Decodes by a byte order mark or, without one, by where the zero bytes of the first characters
lie: a text whose first two characters are ASCII shows its encoding there. -/
def detect? (bs : Bytes) : Option (List Glyph) :=
  match bs with
  | 0x00 :: 0x00 :: 0xFE :: 0xFF :: rest => utf32? .big rest
  | 0xFF :: 0xFE :: 0x00 :: 0x00 :: rest => utf32? .little rest
  | 0xFE :: 0xFF :: rest => utf16? .big rest
  | 0xFF :: 0xFE :: rest => utf16? .little rest
  | 0xEF :: 0xBB :: 0xBF :: rest => utf8? rest
  | 0x00 :: 0x00 :: _ :: _ :: _ => utf32? .big bs
  | 0x00 :: _ :: _ :: _ :: _ => utf16? .big bs
  | _ :: 0x00 :: 0x00 :: 0x00 :: _ => utf32? .little bs
  | _ :: 0x00 :: _ :: _ :: _ => utf16? .little bs
  | [0x00, _] => utf16? .big bs
  | [_, 0x00] => utf16? .little bs
  | _ => utf8? bs

def utf8Bytes (s : String) : Bytes := s.toUTF8.toList

/-- Each byte as two lower-case hexadecimal digits. -/
def hexText (bs : Bytes) : String :=
  String.ofList (bs.flatMap fun b => [Nat.digitChar (b.toNat / 16), Nat.digitChar (b.toNat % 16)])

def hexValue? (c : Char) : Option Nat :=
  if '0' ≤ c ∧ c ≤ '9' then some (c.toNat - '0'.toNat)
  else if 'a' ≤ c ∧ c ≤ 'f' then some (c.toNat - 'a'.toNat + 10)
  else if 'A' ≤ c ∧ c ≤ 'F' then some (c.toNat - 'A'.toNat + 10)
  else none

def bytesOfHex? : List Char → Option Bytes
  | [] => some []
  | a :: b :: rest => do
    let x ← hexValue? a
    let y ← hexValue? b
    return UInt8.ofNat (16 * x + y) :: (← bytesOfHex? rest)
  | [_] => none

end QuorumGate.Text
