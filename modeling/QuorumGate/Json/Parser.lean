import QuorumGate.Decimal.Reading
import QuorumGate.Json.Basic
import QuorumGate.Text.Encoding

/-!
# Reading JSON text

The grammar is that of RFC 8259 with `NaN`, `Infinity` and `-Infinity` added. Of two members with
one key the later value counts, at the place of the earlier. A text can also be refused for its
size: for a whole number that is too long, or for lists and objects that stand too deep inside one
another. The first fault from the left is the one that is reported.
-/

namespace QuorumGate.Json

open Decimal (isDigit takeDigits valueOfDigits exponent?)

/-- What a value is nested in. -/
inductive Nesting where
  | list
  | object
  deriving DecidableEq, Repr

/-- Why a text cannot be read. -/
inductive Fault where
  | malformed
  | longNumber
  | tooDeep (innermost : Nesting)
  deriving DecidableEq, Repr

abbrev Parsed (α : Type) := Except Fault (α × List Glyph)

def isSpace (c : Char) : Bool := c = ' ' || c = '\t' || c = '\n' || c = '\r'

def skipSpace (s : List Glyph) : List Glyph := s.dropWhile (·.isIn isSpace)

def hex4? (a b c d : Char) : Option Nat := do
  let a ← Text.hexValue? a
  let b ← Text.hexValue? b
  let c ← Text.hexValue? c
  let d ← Text.hexValue? d
  return ((a * 16 + b) * 16 + c) * 16 + d

def unescape? : Char → Option Char
  | '"' => some '"'
  | '\\' => some '\\'
  | '/' => some '/'
  | 'b' => some '\x08'
  | 'f' => some '\x0c'
  | 'n' => some '\n'
  | 'r' => some '\r'
  | 't' => some '\t'
  | _ => none

/-- What stands for a glyph inside a string: the glyph itself, or a UTF-16 code unit written by its
number. -/
inductive Piece where
  | glyph (g : Glyph)
  | unit (u : Nat)
  deriving DecidableEq, Repr

/-- Joins surrogate pairs of two units that stand side by side. -/
def joinPieces : List Piece → List Glyph
  | [] => []
  | .glyph g :: rest => g :: joinPieces rest
  | [.unit u] => [.ofCodePoint u]
  | .unit u :: .glyph g :: rest => .ofCodePoint u :: g :: joinPieces rest
  | .unit u :: .unit v :: rest =>
    if Text.isHighSurrogate u && Text.isLowSurrogate v then
      .char (Text.surrogatePair u v) :: joinPieces rest
    else .ofCodePoint u :: joinPieces (.unit v :: rest)

/-- Reads the pieces of a string after its opening quote, with the closing one. -/
def pieces (acc : List Piece) : List Glyph → Parsed (List Piece)
  | [] => .error .malformed
  | .char '"' :: rest => .ok (acc.reverse, rest)
  | .char '\\' :: .char 'u' :: .char a :: .char b :: .char c :: .char d :: rest =>
    match hex4? a b c d with
    | some u => pieces (.unit u :: acc) rest
    | none => .error .malformed
  | .char '\\' :: .char c :: rest =>
    match unescape? c with
    | some c => pieces (.glyph (.char c) :: acc) rest
    | none => .error .malformed
  | .char '\\' :: _ => .error .malformed
  | g :: rest =>
    if g.codePoint < 0x20 then .error .malformed else pieces (.glyph g :: acc) rest

def stringTail (s : List Glyph) : Parsed Text :=
  (pieces [] s).map fun (ps, rest) => (⟨joinPieces ps⟩, rest)

/-- The digits after a point, if a digit follows the point. -/
def fraction (s : List Char) : List Char × List Char :=
  match s with
  | '.' :: d :: rest => if isDigit d then takeDigits (d :: rest) else ([], s)
  | _ => ([], s)

/-- The longest whole number that is read. -/
def mostDigits : Nat := 4300

/-- Reads a number without its sign. A number with neither fraction nor exponent is whole. -/
def unsigned (negative : Bool) (s : List Char) : Except Fault (Number × List Char) :=
  let (ds, rest) := match s with
    | '0' :: rest => (['0'], rest)
    | _ => takeDigits s
  if ds.isEmpty then .error .malformed
  else
    let (frac, afterFraction) := fraction rest
    let digits := valueOfDigits (ds ++ frac)
    match exponent? afterFraction with
    | some (e, rest) => .ok (.real (Decimal.toReal negative digits (e - frac.length)), rest)
    | none =>
      if frac.isEmpty then
        let n : Int := valueOfDigits ds
        if mostDigits < ds.length then .error .longNumber
        else .ok (.whole (if negative then -n else n), afterFraction)
      else .ok (.real (Decimal.toReal negative digits (-frac.length)), afterFraction)

/-- The words that stand for a value. -/
def words : List (List Char × Json) :=
  [("null".toList, null), ("true".toList, bool true), ("false".toList, bool false),
   ("NaN".toList, real (0.0 / 0.0)), ("Infinity".toList, real (1.0 / 0.0)),
   ("-Infinity".toList, real (-1.0 / 0.0))]

def word? (s : List Char) : Option (Json × List Char) :=
  words.findSome? fun (w, v) => if w.isPrefixOf s then some (v, s.drop w.length) else none

def scalarChars (s : List Char) : Except Fault (Json × List Char) :=
  match word? s with
  | some found => .ok found
  | none =>
    match s with
    | '-' :: rest => (unsigned true rest).map fun (n, rest) => (number n, rest)
    | _ => (unsigned false s).map fun (n, rest) => (number n, rest)

/-- The characters that occur in words and numbers. -/
def isScalarChar (c : Char) : Bool := c.isAlphanum || c = '+' || c = '-' || c = '.'

/-- Reads a word or a number. -/
def scalar (s : List Glyph) : Parsed Json :=
  let run := (s.takeWhile (·.isIn isScalarChar)).filterMap Glyph.char?
  (scalarChars run).map fun (v, rest) => (v, s.drop (run.length - rest.length))

mutual

/-- Reads one value at the front of `s`, in which lists and objects may stand `depth` deep. The
bound exceeds the number of nested readings, since each reads a character first. -/
def valueWithin (depth : Nat) : Nat → List Glyph → Parsed Json
  | 0, _ => .error .malformed
  | bound + 1, s =>
    match skipSpace s with
    | .char '"' :: rest => (stringTail rest).map fun (t, rest) => (text t, rest)
    | .char '[' :: rest =>
      if depth = 0 then .error (.tooDeep .list)
      else
        match skipSpace rest with
        | .char ']' :: rest => .ok (list [], rest)
        | rest => itemsWithin (depth - 1) bound [] rest
    | .char '{' :: rest =>
      if depth = 0 then .error (.tooDeep .object)
      else
        match skipSpace rest with
        | .char '}' :: rest => .ok (object [], rest)
        | rest => membersWithin (depth - 1) bound [] rest
    | s => scalar s

/-- Reads the items of a list that is not empty, with the closing bracket. -/
def itemsWithin (depth : Nat) : Nat → List Json → List Glyph → Parsed Json
  | 0, _, _ => .error .malformed
  | bound + 1, acc, s =>
    match valueWithin depth bound s with
    | .error e => .error e
    | .ok (v, rest) =>
      match skipSpace rest with
      | .char ',' :: rest => itemsWithin depth bound (v :: acc) rest
      | .char ']' :: rest => .ok (list (v :: acc).reverse, rest)
      | _ => .error .malformed

/-- Reads the members of an object that is not empty, with the closing brace. -/
def membersWithin (depth : Nat) : Nat → Members → List Glyph → Parsed Json
  | 0, _, _ => .error .malformed
  | bound + 1, acc, s =>
    match skipSpace s with
    | .char '"' :: rest =>
      match stringTail rest with
      | .error e => .error e
      | .ok (k, rest) =>
        match skipSpace rest with
        | .char ':' :: rest =>
          match valueWithin depth bound rest with
          | .error e => .error e
          | .ok (v, rest) =>
            match skipSpace rest with
            | .char ',' :: rest => membersWithin depth bound (put k v acc) rest
            | .char '}' :: rest => .ok (object (put k v acc), rest)
            | _ => .error .malformed
        | _ => .error .malformed
    | _ => .error .malformed

end

/-- Reads a text that holds one value. -/
def parse (depth : Nat) (s : List Glyph) : Except Fault Json :=
  match valueWithin depth (2 * s.length + 2) s with
  | .error e => .error e
  | .ok (v, rest) => if (skipSpace rest).isEmpty then .ok v else .error .malformed

/-- Reads a text that holds one value, however deep. -/
def parse? (s : String) : Option Json :=
  let t := Text.ofString s
  (parse t.glyphs.length t.glyphs).toOption

/-- Reads bytes that hold one value, in any of the encodings of `Text.detect?`; none if they are
no text. -/
def parseBytes? (depth : Nat) (bs : Text.Bytes) : Option (Except Fault Json) :=
  (Text.detect? bs).map (parse depth)

end QuorumGate.Json
