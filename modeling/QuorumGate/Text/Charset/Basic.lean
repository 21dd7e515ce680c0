import QuorumGate.Text.Charset.Multibyte
import QuorumGate.Text.Utf7

/-!
# Declared encodings

An encoding that is declared for some bytes turns all of them into text: what is ill-formed is
read as U+FFFD. Only a stream without its byte order mark fails, and what is no encoding of texts.
-/

namespace QuorumGate.Text

/-- Why bytes cannot be decoded, or why it cannot be told how. -/
inductive CharsetFault where
  | mixedPieces (numbered : Bool)
  | noMark (bits : Nat)
  | strictOnly
  | textToText
  | unforgiving
  | undefined
  deriving DecidableEq, Repr

inductive Charset where
  | ascii
  | latin1
  | upper (table : String)
  | full (table : String)
  | multibyte (encoding : Multibyte)
  | utf7
  | utf8 (marked : Bool)
  | utf16 (order : Option Endian)
  | utf32 (order : Option Endian)
  | unusable (fault : CharsetFault)
  deriving DecidableEq, Repr

/-- UTF-16 in which U+FFFD stands for a surrogate without its partner and for what is cut off. -/
def utf16Lossy (e : Endian) : Bytes → List Char
  | [] => []
  | [_] => [replacement]
  | [a, b] => [(Glyph.ofCodePoint (e.pair a b)).char?.getD replacement]
  | [a, b, _] =>
    match (Glyph.ofCodePoint (e.pair a b)).char? with
    | some x => [x, replacement]
    | none => if isHighSurrogate (e.pair a b) then [replacement] else [replacement, replacement]
  | a :: b :: c :: d :: rest =>
    if isHighSurrogate (e.pair a b) && isLowSurrogate (e.pair c d) then
      surrogatePair (e.pair a b) (e.pair c d) :: utf16Lossy e rest
    else (Glyph.ofCodePoint (e.pair a b)).char?.getD replacement :: utf16Lossy e (c :: d :: rest)

/-- UTF-32 in which U+FFFD stands for what is no character and for what is cut off. -/
def utf32Lossy (e : Endian) : Bytes → List Char
  | a :: b :: c :: d :: rest =>
    let n := e.quad a b c d
    (if n < 0x110000 then (Glyph.ofCodePoint n).char?.getD replacement else replacement) ::
      utf32Lossy e rest
  | [] => []
  | _ => [replacement]

namespace Charset

/-- A byte by the table of the bytes from `first` on. -/
def ofTable (first : Nat) (table : String) (bs : Bytes) : List Char :=
  let cells := table.toList.toArray
  bs.map fun b =>
    if b.toNat < first then Char.ofNat b.toNat else cells.getD (b.toNat - first) replacement

def decode (c : Charset) (bs : Bytes) : Except CharsetFault Text :=
  match c with
  | ascii => .ok (ofList (bs.map fun b => if b < 0x80 then Char.ofNat b.toNat else replacement))
  | latin1 => .ok (ofList (bs.map fun b => Char.ofNat b.toNat))
  | upper table => .ok (ofList (ofTable 0x80 table bs))
  | full table => .ok (ofList (ofTable 0 table bs))
  | multibyte e => .ok (ofList (e.decode (bs.map UInt8.toNat)))
  | utf7 => .ok ⟨Utf7.read bs⟩
  | utf8 false => .ok (ofList (utf8Lossy bs))
  | utf8 true =>
    match bs with
    | [0xEF] | [0xEF, 0xBB] => .ok (ofList [])
    | 0xEF :: 0xBB :: 0xBF :: rest => .ok (ofList (utf8Lossy rest))
    | _ => .ok (ofList (utf8Lossy bs))
  | utf16 (some e) => .ok (ofList (utf16Lossy e bs))
  | utf16 none =>
    match bs with
    | 0xFF :: 0xFE :: rest => .ok (ofList (utf16Lossy .little rest))
    | 0xFE :: 0xFF :: rest => .ok (ofList (utf16Lossy .big rest))
    | _ :: _ :: _ => .error (.noMark 16)
    | _ => .ok (ofList (utf16Lossy .little bs))
  | utf32 (some e) => .ok (ofList (utf32Lossy e bs))
  | utf32 none =>
    match bs with
    | 0xFF :: 0xFE :: 0x00 :: 0x00 :: rest => .ok (ofList (utf32Lossy .little rest))
    | 0x00 :: 0x00 :: 0xFE :: 0xFF :: rest => .ok (ofList (utf32Lossy .big rest))
    | _ :: _ :: _ :: _ :: _ => .error (.noMark 32)
    | _ => .ok (ofList (utf32Lossy .little bs))
  | unusable fault => .error fault

/-- The text, if nothing is ill-formed. A stream without its byte order mark is little-endian. -/
def readExactly? (c : Charset) (bs : Bytes) : Option Text :=
  let text := match c, c.decode bs with
    | _, .ok t => some t
    | utf16 none, .error _ => some (ofList (utf16Lossy .little bs))
    | utf32 none, .error _ => some (ofList (utf32Lossy .little bs))
    | _, .error _ => none
  text.filter fun t => !t.glyphs.contains (.char replacement)

end Charset

end QuorumGate.Text
