import QuorumGate.Text.Blank
import QuorumGate.Text.Digit
import QuorumGate.Text.Quoted
import QuorumGate.Transport.Address
import QuorumGate.Transport.HostName

/-!
# URLs

A request is not sent to a URL that cannot be taken apart: every part of it has its own rules, and
the first rule that is broken is the one that is reported.
-/

namespace QuorumGate.Url

/-- Why a URL is refused. -/
inductive Fault where
  | tooLong
  | unprintable (c : Char) (position : Nat)
  | badHost (family : String) (host : Text)
  | badPort (port : Text)
  | twoSlashes
  | leadingColon
  | surrogate (g : Glyph)
  deriving DecidableEq, Repr

namespace Fault

/-- A surrogate is not the fault of the URL but that of its text. -/
def label : Fault → String
  | surrogate _ => "UnicodeEncodeError"
  | _ => "InvalidURL"

def message : Fault → String
  | tooLong => "URL too long"
  | unprintable c position =>
    s!"Invalid non-printable ASCII character in URL, {(Text.ofList [c]).quoted} at position " ++
      s!"{position}."
  | badHost family host => s!"Invalid {family}: {host.quoted}"
  | badPort port => s!"Invalid port: {port.quoted}"
  | twoSlashes => "Relative URLs cannot have a path starting with '//'"
  | leadingColon => "Relative URLs cannot have a path starting with ':'"
  | surrogate g =>
    s!"'utf-8' codec can't encode character {(Text.mk [g]).quoted} in position 0: " ++
      "surrogates not allowed"

end Fault

def mostGlyphs : Nat := 65536

/-- The controls of ASCII. -/
def isControl (c : Char) : Bool := c.toNat < 0x20 || c.toNat == 0x7F

/-- The first control, and how many glyphs stand before it. -/
def firstControl? (position : Nat) : List Glyph → Option Fault
  | [] => none
  | .char c :: rest =>
    if isControl c then some (.unprintable c position) else firstControl? (position + 1) rest
  | .surrogate .. :: rest => firstControl? (position + 1) rest

/-- A URL in its parts. A missing part is an empty one. -/
structure Parts where
  scheme : List Glyph
  userInfo : List Glyph
  host : List Glyph
  port : List Glyph
  path : List Glyph
  query : List Glyph
  fragment : List Glyph
  deriving DecidableEq, Repr

def isSchemeChar (c : Char) : Bool := c.isAlphanum || c == '+' || c == '-' || c == '.'

def isOneOf (cs : List Char) (g : Glyph) : Bool := g.isIn cs.contains

/-- Splits off the scheme, which ends with a colon and may be empty. -/
def takeScheme (s : List Glyph) : List Glyph × List Glyph :=
  let (scheme, rest) := s.span (·.isIn isSchemeChar)
  match rest with
  | .char ':' :: rest => if scheme.head?.all (·.isIn Char.isAlpha) then (scheme, rest) else ([], s)
  | _ => ([], s)

/-- Splits at the last `c`; without one all is behind it. -/
def splitLast (c : Char) (s : List Glyph) : List Glyph × List Glyph :=
  let behind := (s.reverse.takeWhile (· != .char c)).reverse
  (s.take (s.length - behind.length - 1), behind)

/-- Splits at the first `c`; without one all is in front of it. -/
def splitFirst (c : Char) (s : List Glyph) : List Glyph × List Glyph :=
  let (front, rest) := s.span (· != .char c)
  (front, rest.drop 1)

/-- Splits a host from its port. A host in brackets may hold colons. -/
def takeHost (s : List Glyph) : List Glyph × List Glyph :=
  let (_, behind) := splitLast ']' s
  let host :=
    if s.head? == some (.char '[') && s.contains (.char ']') then s.take (s.length - behind.length)
    else s.takeWhile (· != .char ':')
  match s.drop host.length with
  | .char ':' :: port => (host, port)
  | port => (host, port)

def Parts.of (s : List Glyph) : Parts :=
  let (scheme, rest) := takeScheme s
  let (authority, rest) := match rest with
    | .char '/' :: .char '/' :: rest => rest.span fun g => !isOneOf ['/', '?', '#'] g
    | _ => ([], rest)
  let (userInfo, place) := splitLast '@' authority
  let (host, port) := takeHost place
  let (rest, fragment) := splitFirst '#' rest
  let (path, query) := splitFirst '?' rest
  { scheme, userInfo, host, port, path, query, fragment }

/-- Whether a number is written, with a sign or without, and with blanks around it. Its digits may be
of any script, and single underscores may stand between them. -/
def isNumber (s : List Char) : Bool :=
  let (_, body) := Decimal.takeSign (Text.trim Text.isBlank s)
  let groups := body.splitOn '_'
  groups.all (fun g => !g.isEmpty && g.all Text.isDigit) && groups.flatten.length ≤ 4300

/-- The characters of a part, with U+FFFD for each surrogate. -/
def shown (s : List Glyph) : List Char := s.map fun g => g.char?.getD Text.replacement

def hostFault? (host : List Glyph) : Option Fault :=
  let shown := shown host
  if Address.looksVersion4 shown then
    if Address.isVersion4 shown then none else some (.badHost "IPv4 address" ⟨host⟩)
  else if 2 ≤ shown.length ∧ shown.head? = some '[' ∧ shown.getLast? = some ']' then
    if Address.isVersion6 (shown.drop 1).dropLast then none
    else some (.badHost "IPv6 address" ⟨host⟩)
  else if shown.all (·.toNat < 0x80) || HostName.isValid (shown.flatMap Text.lowerChar) then none
  else some (.badHost "IDNA hostname" ⟨host⟩)

def portFault? (port : List Glyph) : Option Fault :=
  if port.isEmpty || isNumber (shown port) then none else some (.badPort ⟨port⟩)

/-- A path without scheme and authority must not look like the rest of either. -/
def pathFault? (p : Parts) : Option Fault :=
  if p.scheme.isEmpty && p.userInfo.isEmpty && p.host.isEmpty && p.port.isEmpty then
    match p.path with
    | .char '/' :: .char '/' :: _ => some .twoSlashes
    | .char ':' :: _ => some .leadingColon
    | _ => none
  else none

/-- The first surrogate, which has no escaped form. -/
def firstSurrogate? (s : List Glyph) : Option Fault :=
  (s.find? (·.char?.isNone)).map .surrogate

/-- What is wrong with a URL. -/
def fault? (url : Text) : Option Fault :=
  if mostGlyphs < url.glyphs.length then some .tooLong
  else
    let p := Parts.of url.glyphs
    firstControl? 0 url.glyphs <|> firstSurrogate? p.userInfo <|> hostFault? p.host <|>
      portFault? p.port <|> pathFault? p <|> firstSurrogate? (p.path ++ p.query ++ p.fragment)

end QuorumGate.Url
