import QuorumGate.Proofs.Text.AsciiBytes
import QuorumGate.Surface.Routing

/-!
# Percent escapes

A text is what it is read as, with its percent escapes undone, if and only if it has none: an escape
is read as at most one character.
-/

namespace QuorumGate

namespace Text

/-- How many characters are still to come if nothing follows. -/
def Utf8State.pending : Utf8State → Nat
  | between => 0
  | inside .. => 1

theorem length_utf8Start (surrogates : Bool) (b : Nat) :
    (utf8Start surrogates b).1.length + (utf8Start surrogates b).2.pending ≤ 1 := by
  unfold utf8Start
  split
  · exact Nat.le_refl 1
  · split <;> exact Nat.le_refl 1

theorem length_utf8Step (surrogates : Bool) (state : Utf8State) (b : Nat) :
    (utf8Step surrogates state b).1.length + (utf8Step surrogates state b).2.pending ≤
      state.pending + 1 := by
  cases state with
  | between => exact length_utf8Start surrogates b
  | inside bits low high missing =>
    unfold utf8Step
    dsimp only
    split
    · split <;> simp [Utf8State.pending]
    · have := length_utf8Start surrogates b
      simp only [List.length_cons, Utf8State.pending] at *
      omega

/-- A byte is read as at most one character. -/
theorem length_utf8Read (surrogates : Bool) (front : List (Option Glyph)) (state : Utf8State)
    (bs : Bytes) : (utf8Read surrogates front state bs).length ≤
      front.length + state.pending + bs.length := by
  induction bs generalizing front state with
  | nil => cases state <;> simp [utf8Read, Utf8State.pending]
  | cons b bs ih =>
    have step := length_utf8Step surrogates state b.toNat
    have later := ih ((utf8Step surrogates state b.toNat).1.reverse ++ front)
      (utf8Step surrogates state b.toNat).2
    rw [utf8Read]
    simp only [List.length_append, List.length_reverse, List.length_cons] at *
    omega

theorem length_utf8Lossy (bs : Bytes) : (utf8Lossy bs).length ≤ bs.length := by
  have := length_utf8Read false [] .between bs
  simpa [utf8Lossy, Utf8State.pending] using this

end Text

namespace Surface

/-- Whether a percent escape is anywhere in a text. -/
def hasEscape : List Char → Bool
  | '%' :: a :: b :: rest => (hexPair? a b).isSome || hasEscape (a :: b :: rest)
  | _ :: rest => hasEscape rest
  | [] => false

theorem hasEscape_cons {c : Char} {rest : List Char}
    (plain : ∀ a b rest', c = '%' → rest = a :: b :: rest' → False) :
    hasEscape (c :: rest) = hasEscape rest := by
  rw [hasEscape]
  exact plain

theorem asText_ascii {front : List Char} (ascii : ∀ c ∈ front, c.toNat < 0x80) :
    asText (Text.asciiBytes front).reverse = front := by
  rw [asText, List.reverse_reverse, Text.utf8Lossy_asciiBytes ascii]

theorem reverse_asciiBytes_snoc (front : List Char) (c : Char) :
    (Text.asciiBytes (front ++ [c])).reverse =
      UInt8.ofNat c.toNat :: (Text.asciiBytes front).reverse := by
  simp [Text.asciiBytes]

theorem ascii_snoc {front : List Char} {c : Char} (ascii : ∀ d ∈ front, d.toNat < 0x80)
    (small : c.toNat < 0x80) : ∀ d ∈ front ++ [c], d.toNat < 0x80 := by
  intro d hd
  rcases List.mem_append.1 hd with earlier | last
  · exact ascii d earlier
  · rwa [List.mem_singleton.1 last]

/-- What has no escape is read as it stands, behind the ASCII characters that wait. -/
theorem unescapeFrom_plain (run : Text.Bytes) (s : List Char) (h : hasEscape s = false)
    (front : List Char) (ascii : ∀ c ∈ front, c.toNat < 0x80)
    (waiting : run = (Text.asciiBytes front).reverse) : unescapeFrom run s = front ++ s := by
  induction run, s using unescapeFrom.induct generalizing front with
  | case1 run a b rest byte told ih => simp [hasEscape, told] at h
  | case2 run a b rest untold ih =>
    have later : hasEscape (a :: b :: rest) = false := by simpa [hasEscape, untold] using h
    rw [unescapeFrom, untold]
    dsimp only
    rw [ih later (front ++ ['%']) (ascii_snoc ascii (by decide))
      (by rw [waiting, reverse_asciiBytes_snoc]), List.append_assoc]
    rfl
  | case3 run c rest plain small ih =>
    rw [hasEscape_cons plain] at h
    rw [unescapeFrom, if_pos small, ih h (front ++ [c]) (ascii_snoc ascii small)
      (by rw [waiting, reverse_asciiBytes_snoc]), List.append_assoc]
    · rfl
    · exact plain
  | case4 run c rest plain large ih =>
    rw [hasEscape_cons plain] at h
    rw [unescapeFrom, if_neg large, waiting, asText_ascii ascii, ih h [] (by simp) rfl]
    · rfl
    · exact plain
  | case5 run =>
    rw [unescapeFrom, waiting, asText_ascii ascii, List.append_nil]

/-- An escape leaves at least two characters fewer than it has. -/
theorem length_unescapeFrom (run : Text.Bytes) (s : List Char) :
    (unescapeFrom run s).length + (if hasEscape s then 2 else 0) ≤ run.length + s.length := by
  induction run, s using unescapeFrom.induct with
  | case1 run a b rest byte told ih =>
    rw [unescapeFrom, told]
    dsimp only [List.length_cons] at *
    split <;> omega
  | case2 run a b rest untold ih =>
    rw [unescapeFrom, untold, hasEscape, untold]
    simp only [List.length_cons, Option.isSome_none, Bool.false_or] at *
    omega
  | case3 run c rest plain small ih =>
    rw [unescapeFrom, if_pos small, hasEscape_cons plain]
    · simp only [List.length_cons] at *
      omega
    · exact plain
  | case4 run c rest plain large ih =>
    have waiting := Text.length_utf8Lossy run.reverse
    rw [unescapeFrom, if_neg large, hasEscape_cons plain, asText]
    · simp only [List.length_append, List.length_cons, List.length_reverse, List.length_nil] at *
      omega
    · exact plain
  | case5 run =>
    rw [unescapeFrom, asText]
    have := Text.length_utf8Lossy run.reverse
    simpa [hasEscape] using this

/-- A text is read as it stands if and only if it has no escape. -/
theorem unescape_eq_iff (s : List Char) :
    unescape s = String.ofList s ↔ hasEscape s = false := by
  constructor
  · intro same
    have read := congrArg String.toList same
    rw [unescape, String.toList_ofList, String.toList_ofList] at read
    have shorter := length_unescapeFrom [] s
    rw [read, List.length_nil] at shorter
    cases escaped : hasEscape s with
    | false => rfl
    | true =>
      rw [escaped, if_pos rfl] at shorter
      omega
  · intro h
    rw [unescape, unescapeFrom_plain [] s h [] (by simp) rfl, List.nil_append]

end Surface

end QuorumGate
