import Mathlib.Tactic.SplitIfs
import QuorumGate.Json.Parser
import QuorumGate.Json.Printer

/-!
# String literals are read back

Every text without a lone surrogate comes back from its literal. A character is read by pieces,
one for a character that is written bare or by a short escape, and one for each UTF-16 unit of any
other. A unit of the basic plane never pairs with a neighbour, and the two units of a surrogate
pair always pair with each other.
-/

namespace QuorumGate

/-! ## Four hexadecimal digits -/

namespace Text

theorem hexDigits_succ {width : Nat} (positive : 0 < width) (n : Nat) :
    hexDigits (width + 1) n = hexDigits width (n / 16) ++ [Nat.digitChar (n % 16)] := by
  rw [hexDigits, Nat.toDigits_eq_if (by decide)]
  split
  case isTrue small =>
    have front : n / 16 = 0 := by omega
    have back : n % 16 = n := by omega
    obtain ⟨width, rfl⟩ := Nat.exists_eq_add_of_lt positive
    simp [hexDigits, front, back, List.replicate_succ']
  case isFalse => simp [hexDigits]

theorem hexDigits_one {n : Nat} (small : n < 16) : hexDigits 1 n = [Nat.digitChar n] := by
  simp [hexDigits, Nat.toDigits_of_lt_base small]

theorem hexDigits_four {u : Nat} (small : u < 0x10000) :
    hexDigits 4 u = [Nat.digitChar (u / 16 / 16 / 16), Nat.digitChar (u / 16 / 16 % 16),
      Nat.digitChar (u / 16 % 16), Nat.digitChar (u % 16)] := by
  rw [hexDigits_succ (by decide), hexDigits_succ (by decide), hexDigits_succ (by decide),
    hexDigits_one (by omega)]
  rfl

theorem hexValue?_digitChar {d : Nat} (small : d < 16) : hexValue? (Nat.digitChar d) = some d := by
  revert small d
  decide

theorem surrogatePair_units {n : Nat} (big : 0x10000 ≤ n) :
    surrogatePair (0xD800 + (n - 0x10000) / 0x400) (0xDC00 + (n - 0x10000) % 0x400) =
      Char.ofNat n := by
  have same : 0x10000 + (0xD800 + (n - 0x10000) / 0x400 - 0xD800) * 0x400 +
      (0xDC00 + (n - 0x10000) % 0x400 - 0xDC00) = n := by omega
  rw [surrogatePair, same]

end Text

namespace Glyph

theorem ofCodePoint_toNat (c : Char) : ofCodePoint c.toNat = .char c := by
  have valid : ¬(0xD800 ≤ c.toNat ∧ c.toNat < 0xE000) := by
    have either : c.toNat < 0xD800 ∨ 0xDFFF < c.toNat ∧ c.toNat < 0x110000 := c.valid
    omega
  rw [ofCodePoint, dif_neg valid, Char.ofNat_toNat]

end Glyph

namespace Json

theorem hex4?_digits {u : Nat} (small : u < 0x10000) :
    hex4? (Nat.digitChar (u / 16 / 16 / 16)) (Nat.digitChar (u / 16 / 16 % 16))
      (Nat.digitChar (u / 16 % 16)) (Nat.digitChar (u % 16)) = some u := by
  simp only [hex4?, Text.hexValue?_digitChar (show u / 16 / 16 / 16 < 16 by omega),
    Text.hexValue?_digitChar (Nat.mod_lt _ (show 0 < 16 by decide)), Option.bind_eq_bind,
    Option.bind_some, Option.pure_def, Option.some.injEq]
  omega

/-! ## What stands for what inside a literal -/

/-- Inside a literal, `body` stands for the characters `cs`, whatever stands around it. -/
def Denotes (body cs : List Char) : Prop :=
  ∃ ps : List Piece,
    (∀ acc rest, pieces acc (body.map .char ++ rest) = pieces (ps.reverse ++ acc) rest) ∧
      ∀ more, joinPieces (ps ++ more) = cs.map .char ++ joinPieces more

namespace Denotes

theorem nil : Denotes [] [] := ⟨[], fun _ _ => rfl, fun _ => rfl⟩

theorem append {body body' cs cs' : List Char} (h : Denotes body cs) (h' : Denotes body' cs') :
    Denotes (body ++ body') (cs ++ cs') := by
  obtain ⟨ps, read, joined⟩ := h
  obtain ⟨ps', read', joined'⟩ := h'
  refine ⟨ps ++ ps', fun acc rest => ?_, fun more => ?_⟩
  · rw [List.map_append, List.append_assoc, read, read', List.reverse_append, List.append_assoc]
  · rw [List.append_assoc, joined, joined', List.map_append, List.append_assoc]

/-- What is read as the character itself. -/
theorem of_glyph {body : List Char} {c : Char}
    (read : ∀ acc rest,
      pieces acc (body.map .char ++ rest) = pieces (.glyph (.char c) :: acc) rest) :
    Denotes body [c] :=
  ⟨[.glyph (.char c)], read, fun _ => rfl⟩

/-- What is read as the UTF-16 units of the character. -/
theorem of_units {us : List Nat} {cs : List Char} (small : ∀ u ∈ us, u < 0x10000)
    (joined : ∀ more, joinPieces (us.map .unit ++ more) = cs.map .char ++ joinPieces more) :
    Denotes (us.flatMap unitEscape) cs := by
  refine ⟨us.map .unit, fun acc rest => ?_, joined⟩
  clear joined
  induction us generalizing acc with
  | nil => rfl
  | cons u us ih =>
    have step : ∀ rest, pieces acc ((unitEscape u).map .char ++ rest) =
        pieces (.unit u :: acc) rest := by
      have hu := small u List.mem_cons_self
      simp [unitEscape, Text.hexDigits_four hu, pieces, hex4?_digits hu]
    rw [List.flatMap_cons, List.map_append, List.append_assoc, step,
      ih fun v hv => small v (List.mem_cons_of_mem u hv)]
    simp

end Denotes

/-- A unit that is no surrogate joins with nothing. -/
theorem joinPieces_unit {u : Nat} (alone : Text.isHighSurrogate u = false) (more : List Piece) :
    joinPieces (.unit u :: more) = .ofCodePoint u :: joinPieces more := by
  rcases more with - | ⟨g | v, more⟩
  · rfl
  · rfl
  · simp [joinPieces, alone]

theorem joinPieces_utf16Units (c : Char) (more : List Piece) :
    joinPieces ((utf16Units c).map .unit ++ more) = .char c :: joinPieces more := by
  have valid : c.toNat < 0xD800 ∨ 0xDFFF < c.toNat ∧ c.toNat < 0x110000 := c.valid
  unfold utf16Units
  split
  case isTrue small =>
    have alone : Text.isHighSurrogate c.toNat = false := by
      simp only [Text.isHighSurrogate, Bool.and_eq_false_iff, decide_eq_false_iff_not]
      omega
    rw [List.map_singleton, List.singleton_append, joinPieces_unit alone,
      Glyph.ofCodePoint_toNat]
  case isFalse big =>
    have high : Text.isHighSurrogate (0xD800 + (c.toNat - 0x10000) / 0x400) = true := by
      simp only [Text.isHighSurrogate, Bool.and_eq_true, decide_eq_true_eq]
      omega
    have low : Text.isLowSurrogate (0xDC00 + (c.toNat - 0x10000) % 0x400) = true := by
      simp only [Text.isLowSurrogate, Bool.and_eq_true, decide_eq_true_eq]
      omega
    simp [joinPieces, high, low, Text.surrogatePair_units (Nat.not_lt.1 big), Char.ofNat_toNat]

theorem lt_of_mem_utf16Units {c : Char} {u : Nat} (h : u ∈ utf16Units c) : u < 0x10000 := by
  have valid : c.toNat < 0xD800 ∨ 0xDFFF < c.toNat ∧ c.toNat < 0x110000 := c.valid
  unfold utf16Units at h
  split at h
  · simp only [List.mem_singleton] at h
    omega
  · simp only [List.mem_cons, List.not_mem_nil, or_false] at h
    omega

theorem denotes_plain {c : Char} (quote : c ≠ '"') (backslash : c ≠ '\\')
    (printable : 0x20 ≤ c.toNat) : Denotes [c] [c] := by
  refine .of_glyph fun acc rest => ?_
  have clear : ¬(Glyph.char c).codePoint < 0x20 := Nat.not_lt.2 printable
  rw [List.map_singleton, List.singleton_append, pieces, if_neg clear]
  all_goals simp [quote, backslash]

/-- The backslash before `e`, for the character that `e` abbreviates. -/
theorem denotes_short {e c : Char} (unit : e ≠ 'u') (short : unescape? e = some c) :
    Denotes ['\\', e] [c] := by
  refine .of_glyph fun acc rest => ?_
  show pieces acc (.char '\\' :: .char e :: rest) = _
  rw [pieces]
  · simp [short]
  · simp [unit]

theorem denotes_escapeChar (c : Char) : Denotes (escapeChar c) [c] := by
  unfold escapeChar
  split_ifs with h₁ h₂ h₃ h₄ h₅ h₆ h₇ h₈
  · exact denotes_short (by decide) (by rw [h₁]; rfl)
  · exact denotes_short (by decide) (by rw [h₂]; rfl)
  · exact denotes_short (by decide) (by rw [h₃]; rfl)
  · exact denotes_short (by decide) (by rw [h₄]; rfl)
  · exact denotes_short (by decide) (by rw [h₅]; rfl)
  · exact denotes_short (by decide) (by rw [h₆]; rfl)
  · exact denotes_short (by decide) (by rw [h₇]; rfl)
  · exact denotes_plain h₁ h₂ h₈.1
  · exact .of_units (fun u => lt_of_mem_utf16Units) (joinPieces_utf16Units c)

theorem denotes_flatMap (cs : List Char) : Denotes (cs.flatMap escapeChar) cs := by
  induction cs with
  | nil => exact .nil
  | cons c cs ih => exact (denotes_escapeChar c).append ih

/-! ## Literals -/

theorem stringLiteral_ofList (cs : List Char) :
    stringLiteral (.ofList cs) = '"' :: (cs.flatMap escapeChar ++ ['"']) := by
  simp [stringLiteral, Text.ofList, List.flatMap_map, escapeGlyph]

/-- What follows the opening quote of a literal is read up to its closing one. -/
theorem stringTail_ofList (cs : List Char) (rest : List Glyph) :
    stringTail ((cs.flatMap escapeChar).map .char ++ .char '"' :: rest) =
      .ok (.ofList cs, rest) := by
  obtain ⟨ps, read, joined⟩ := denotes_flatMap cs
  have whole : joinPieces ps = cs.map .char := by simpa [joinPieces] using joined []
  rw [stringTail, read, List.append_nil, pieces, List.reverse_reverse]
  simp [Except.map, whole, Text.ofList]

theorem ascii_unitEscape {u : Nat} (small : u < 0x10000) {c : Char} (h : c ∈ unitEscape u) :
    c.toNat < 0x80 := by
  have digit : ∀ d < 16, (Nat.digitChar d).toNat < 0x80 := by decide
  simp only [unitEscape, Text.hexDigits_four small, List.mem_cons, List.not_mem_nil,
    or_false] at h
  rcases h with rfl | rfl | rfl | rfl | rfl | rfl
  · decide
  · decide
  · exact digit _ (by omega)
  · exact digit _ (by omega)
  · exact digit _ (by omega)
  · exact digit _ (by omega)

theorem ascii_escapeChar {c d : Char} (h : d ∈ escapeChar c) : d.toNat < 0x80 := by
  have short : ∀ e : Char, e.toNat < 0x80 → d ∈ ['\\', e] → d.toNat < 0x80 := by
    intro e he hd
    simp only [List.mem_cons, List.not_mem_nil, or_false] at hd
    rcases hd with rfl | rfl
    · decide
    · exact he
  unfold escapeChar at h
  split_ifs at h with h₁ h₂ h₃ h₄ h₅ h₆ h₇ bare
  iterate 7 exact short _ (by decide) h
  · obtain rfl := List.mem_singleton.1 h
    omega
  · obtain ⟨u, hu, hd⟩ := List.mem_flatMap.1 h
    exact ascii_unitEscape (lt_of_mem_utf16Units hu) hd

theorem ascii_stringLiteral {t : Text} {c : Char} (h : c ∈ stringLiteral t) : c.toNat < 0x80 := by
  simp only [stringLiteral, List.mem_cons, List.mem_append, List.mem_flatMap,
    List.not_mem_nil, or_false] at h
  rcases h with rfl | ⟨g, -, hc⟩ | rfl
  · decide
  · cases g with
    | char d => exact ascii_escapeChar hc
    | surrogate n => exact ascii_unitEscape (by simp only [Glyph.codePoint]; omega) hc
  · decide

end Json

end QuorumGate
