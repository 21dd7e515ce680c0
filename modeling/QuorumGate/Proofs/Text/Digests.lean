import Mathlib.Data.Bool.AllAny
import Mathlib.Data.List.Basic
import QuorumGate.Service.Ledger

/-!
# Digests

A digest is a text of 64 hexadecimal digits. The gate strips a hash, puts it in lower case, and
looks at the digits afterwards. No character but a hexadecimal digit has one as its lower case, so
this tells the digests in either case from all other texts.
-/

namespace QuorumGate

namespace Text

variable {c d : Char} {cs : List Char} {t : Text}

/-- The hexadecimal digits of either case. -/
def digestDigits : List Char := "0123456789abcdefABCDEF".toList

/-- The hexadecimal digits of lower case. -/
def lowerDigits : List Char := "0123456789abcdef".toList

/-! ## One digit -/

/-- The ASCII characters can be gone through by their numbers. -/
theorem forall_ascii (p : Char → Prop) (all : ∀ n < 0x80, p (Char.ofNat n))
    (ascii : c.toNat < 0x80) : p c := by
  have known := all c.toNat ascii
  rwa [Char.ofNat_toNat] at known

theorem toNat_lt_of_hexValue? (h : (hexValue? c).isSome = true) : c.toNat < 0x80 := by
  have small : ∀ last : Char, c ≤ last → last.toNat < 0x80 → c.toNat < 0x80 := fun last le lt =>
    Nat.lt_of_le_of_lt (UInt32.le_iff_toNat_le.1 le) lt
  rw [hexValue?] at h
  split at h
  case isTrue digit => exact small '9' digit.2 (by decide)
  case isFalse =>
    split at h
    case isTrue letter => exact small 'f' letter.2 (by decide)
    case isFalse =>
      split at h
      case isTrue letter => exact small 'F' letter.2 (by decide)
      case isFalse => cases h

theorem isSome_hexValue?_iff : (hexValue? c).isSome = true ↔ c ∈ digestDigits := by
  constructor
  · intro h
    refine forall_ascii (fun c => (hexValue? c).isSome = true → c ∈ digestDigits) ?_
      (toNat_lt_of_hexValue? h) h
    decide +kernel
  · have all : ∀ d ∈ digestDigits, (hexValue? d).isSome = true :=
      List.all_iff_forall_prop.1 (by decide)
    exact all c

theorem lowerChar_digit : ∀ c ∈ digestDigits, lowerChar c = [c.toLower] :=
  List.all_iff_forall_prop.1 (by decide)

theorem toLower_digit : ∀ c ∈ digestDigits, c.toLower ∈ lowerDigits :=
  List.all_iff_forall_prop.1 (by decide)

theorem digit_of_mem_lowerDigits : ∀ c ∈ lowerDigits, c ∈ digestDigits :=
  List.all_iff_forall_prop.1 (by decide)

theorem isUpper_digit_iff : ∀ c ∈ digestDigits, c.isUpper = false ↔ c ∈ lowerDigits :=
  List.all_iff_forall_prop.1 (by decide)

theorem isBlank_digit : ∀ c ∈ digestDigits, isBlank c = false :=
  List.all_iff_forall_prop.1 (by decide)

/-- A number that is not the number of a character stands for the character zero. -/
theorem toNat_ofNat_cases (n : Nat) : (Char.ofNat n).toNat = n ∨ (Char.ofNat n).toNat = 0 := by
  by_cases valid : n.isValidChar
  · exact .inl (congrArg Char.toNat (dif_pos valid))
  · exact .inr (congrArg Char.toNat (dif_neg valid))

/-- The lower case of all runs lies beyond the digits. -/
theorem lowerRuns_beyond : ∀ r ∈ lowerRuns, 0x66 < (r.first : Int) + r.shift := by decide +kernel

theorem exists_mem_lowerChar (c : Char) : ∃ d, d ∈ lowerChar c := by
  rw [lowerChar]
  split
  case isTrue => exact ⟨_, List.mem_singleton_self _⟩
  case isFalse =>
    split
    case isTrue => exact ⟨_, List.mem_cons_self⟩
    case isFalse => split <;> exact ⟨_, List.mem_singleton_self _⟩

/-- Only a hexadecimal digit has one for its lower case. -/
theorem digit_of_mem_lowerChar (hd : d ∈ lowerChar c) (digit : d ∈ lowerDigits) :
    c ∈ digestDigits := by
  have bounds : ∀ d ∈ lowerDigits, 0 < d.toNat ∧ d.toNat ≤ 0x66 :=
    List.all_iff_forall_prop.1 (by decide)
  have bound := bounds d digit
  rw [lowerChar] at hd
  split at hd
  case isTrue ascii =>
    rw [List.mem_singleton.1 hd] at digit
    refine forall_ascii (fun c => c.toLower ∈ lowerDigits → c ∈ digestDigits) ?_ ascii digit
    decide +kernel
  case isFalse large =>
    split at hd
    case isTrue =>
      have neither : ∀ d ∈ ['i', '\u0307'], d ∉ lowerDigits :=
        List.all_iff_forall_prop.1 (by decide)
      exact absurd digit (neither d hd)
    case isFalse =>
      split at hd
      case h_1 r found =>
        have covered := List.find?_some found
        have beyond := lowerRuns_beyond r (List.mem_of_find?_eq_some found)
        rw [CaseRun.covers, Bool.and_eq_true, Bool.and_eq_true, decide_eq_true_iff] at covered
        rw [List.mem_singleton.1 hd] at bound
        rcases toNat_ofNat_cases (c.toNat + r.shift).toNat with same | zero <;> omega
      case h_2 =>
        rw [List.mem_singleton.1 hd] at bound
        omega

/-! ## A whole text -/

/-- A text is written in 64 hexadecimal digits of either case. -/
structure SpellsDigest (t : Text) (cs : List Char) : Prop where
  spelled : t = .ofList cs
  length : cs.length = 64
  digits : ∀ c ∈ cs, c ∈ digestDigits

theorem ofList_inj {cs ds : List Char} (same : ofList cs = ofList ds) : cs = ds :=
  List.map_injective_iff.2 (fun _ _ h => Glyph.char.inj h) (Text.mk.inj same)

theorem all_isIn_iff {p : Char → Bool} :
    (t.glyphs.all fun g => g.isIn p) = true ↔ ∃ cs, t = .ofList cs ∧ ∀ c ∈ cs, p c = true := by
  constructor
  · obtain ⟨gs⟩ := t
    induction gs with
    | nil => exact fun _ => ⟨[], rfl, nofun⟩
    | cons g gs ih =>
      intro all
      rw [List.all_cons, Bool.and_eq_true] at all
      obtain ⟨cs, spelled, later⟩ := ih all.2
      cases g with
      | surrogate n => exact nomatch all.1
      | char c =>
        refine ⟨c :: cs, ?_, List.forall_mem_cons.2 ⟨all.1, later⟩⟩
        rw [ofList, List.map_cons, ← Text.mk.inj spelled]
  · rintro ⟨cs, rfl, all⟩
    simpa [ofList, Glyph.isIn] using all

theorem isDigest_iff : isDigest t = true ↔ ∃ cs, t.SpellsDigest cs := by
  rw [isDigest, Bool.and_eq_true, beq_iff_eq, all_isIn_iff]
  simp only [isSome_hexValue?_iff]
  constructor
  · rintro ⟨length, cs, rfl, digits⟩
    exact ⟨cs, rfl, by simpa [ofList] using length, digits⟩
  · rintro ⟨cs, rfl, length, digits⟩
    exact ⟨by simpa [ofList] using length, cs, rfl, digits⟩

theorem lower_digits (digits : ∀ c ∈ cs, c ∈ digestDigits) :
    (ofList cs).lower = .ofList (cs.map Char.toLower) := by
  have each : ∀ c ∈ cs, lowerGlyph (.char c) = [.char c.toLower] := by
    intro c hc
    rw [lowerGlyph, lowerChar_digit c (digits c hc), List.map_singleton]
  rw [lower, ofList, ofList, List.flatMap_map, List.map_map, List.flatMap_congr each]
  exact congrArg Text.mk List.map_eq_flatMap.symm

theorem isLowerDigest_iff : ProposalDraft.isLowerDigest t = true ↔
    ∃ cs, t = .ofList cs ∧ cs.length = 64 ∧ ∀ c ∈ cs, c ∈ lowerDigits := by
  rw [ProposalDraft.isLowerDigest, Bool.and_eq_true, isDigest_iff]
  have none_upper : ∀ cs : List Char,
      ((ofList cs).glyphs.all fun g => !g.isIn Char.isUpper) = true ↔
        ∀ c ∈ cs, c.isUpper = false := by
    simp [ofList, Glyph.isIn]
  constructor
  · rintro ⟨⟨cs, rfl, length, digits⟩, low⟩
    have low := (none_upper cs).1 low
    exact ⟨cs, rfl, length, fun c hc => (isUpper_digit_iff c (digits c hc)).1 (low c hc)⟩
  · rintro ⟨cs, rfl, length, low⟩
    have digits : ∀ c ∈ cs, c ∈ digestDigits := fun c hc => digit_of_mem_lowerDigits c (low c hc)
    exact ⟨⟨cs, rfl, length, digits⟩,
      (none_upper cs).2 fun c hc => (isUpper_digit_iff c (digits c hc)).2 (low c hc)⟩

/-- A text has digits only for its lower case if it has digits only. -/
theorem digits_of_lower {ds : List Char} (spelled : t.lower = .ofList ds)
    (low : ∀ d ∈ ds, d ∈ lowerDigits) : ∃ cs, t = .ofList cs ∧ ∀ c ∈ cs, c ∈ digestDigits := by
  have all : (t.glyphs.all fun g => g.isIn fun c => decide (c ∈ digestDigits)) = true := by
    refine List.all_eq_true.2 fun g hg => ?_
    have inside : ∀ h ∈ lowerGlyph g, ∃ d ∈ ds, .char d = h := by
      intro h hh
      have there : h ∈ t.lower.glyphs := List.mem_flatMap.2 ⟨g, hg, hh⟩
      rw [spelled] at there
      exact List.mem_map.1 there
    cases g with
    | surrogate n =>
      obtain ⟨d, -, same⟩ := inside _ (List.mem_singleton_self _)
      cases same
    | char c =>
      obtain ⟨d, hd⟩ := exists_mem_lowerChar c
      obtain ⟨_, here, ⟨rfl⟩⟩ := inside _ (List.mem_map_of_mem hd)
      exact decide_eq_true (digit_of_mem_lowerChar hd (low _ here))
  obtain ⟨cs, rfl, digits⟩ := all_isIn_iff.1 all
  exact ⟨cs, rfl, fun c hc => of_decide_eq_true (digits c hc)⟩

/-- What has a digest for its lower case is a digest, and nothing else is. -/
theorem isLowerDigest_lower_iff :
    ProposalDraft.isLowerDigest t.lower = true ↔ ∃ cs, t.SpellsDigest cs := by
  rw [isLowerDigest_iff]
  constructor
  · rintro ⟨ds, spelled, length, low⟩
    obtain ⟨cs, rfl, digits⟩ := digits_of_lower spelled low
    rw [lower_digits digits] at spelled
    obtain rfl : cs.map Char.toLower = ds := ofList_inj spelled
    exact ⟨cs, rfl, by simpa using length, digits⟩
  · rintro ⟨cs, rfl, length, digits⟩
    refine ⟨_, lower_digits digits, by simpa using length, fun d hd => ?_⟩
    obtain ⟨c, hc, rfl⟩ := List.mem_map.1 hd
    exact toLower_digit c (digits c hc)

/-- Nothing of a digest is stripped. -/
theorem strip_digits (digits : ∀ c ∈ cs, c ∈ digestDigits) : (ofList cs).strip = ofList cs := by
  have solid : ∀ g ∈ (ofList cs).glyphs, g.isIn isBlank ≠ true := by
    simpa [ofList, Glyph.isIn] using fun c hc => isBlank_digit c (digits c hc)
  have kept : ∀ gs : List Glyph, (∀ g ∈ gs, g.isIn isBlank ≠ true) →
      gs.dropWhile (·.isIn isBlank) = gs := by
    intro gs hgs
    cases gs with
    | nil => rfl
    | cons g gs => exact List.dropWhile_cons_of_neg (hgs g List.mem_cons_self)
  rw [strip, trim, kept _ solid, dropTrailing,
    kept _ fun g hg => solid g (List.mem_reverse.1 hg), List.reverse_reverse]

theorem SpellsDigest.strip (h : t.SpellsDigest cs) : t.strip.SpellsDigest cs := by
  obtain ⟨rfl, length, digits⟩ := h
  exact ⟨strip_digits digits, length, digits⟩

end Text

end QuorumGate
