import Mathlib.Data.List.TakeDrop
import QuorumGate.Transport.Url

/-!
# What is appended to a URL

A path that is appended to a URL without a query and without a fragment becomes part of its path, up
to the first mark that begins a query or a fragment. It leaves all that stands before it alone.
-/

namespace QuorumGate.Url

/-- Splits off the authority, which stands behind two slashes. -/
def takeAuthority (s : List Glyph) : List Glyph × List Glyph :=
  match s with
  | .char '/' :: .char '/' :: rest => rest.span fun g => !isOneOf ['/', '?', '#'] g
  | _ => ([], s)

/-- The parts of a URL of which the scheme and the authority have been split off. -/
def Parts.assemble (scheme authority rest : List Glyph) : Parts :=
  let (userInfo, place) := splitLast '@' authority
  let (host, port) := takeHost place
  let (rest, fragment) := splitFirst '#' rest
  let (path, query) := splitFirst '?' rest
  { scheme, userInfo, host, port, path, query, fragment }

theorem Parts.of_eq (s : List Glyph) :
    Parts.of s = assemble (takeScheme s).1 (takeAuthority (takeScheme s).2).1
      (takeAuthority (takeScheme s).2).2 := rfl

/-- A URL without a query and without a fragment. -/
def IsBare (s : List Glyph) : Prop := ∀ g ∈ s, g ≠ .char '?' ∧ g ≠ .char '#'

instance (s : List Glyph) : Decidable (IsBare s) :=
  inferInstanceAs (Decidable (∀ g ∈ s, g ≠ .char '?' ∧ g ≠ .char '#'))

variable {s t : List Glyph} {p : Glyph → Bool} {g : Glyph}

/-- A span that ends before `g` ends there at the latest. -/
theorem span_append_cons (stop : p g = false) :
    (s ++ g :: t).span p = ((s.span p).1, (s.span p).2 ++ g :: t) := by
  rw [List.span_eq_takeWhile_dropWhile, List.span_eq_takeWhile_dropWhile]
  induction s with
  | nil => simp [stop]
  | cons x s ih =>
    cases h : p x with
    | false => simp [h]
    | true =>
      rw [List.cons_append, List.takeWhile_cons_of_pos h, List.dropWhile_cons_of_pos h,
        List.takeWhile_cons_of_pos h, List.dropWhile_cons_of_pos h]
      simp only [Prod.mk.injEq] at ih ⊢
      exact ⟨congrArg _ ih.1, ih.2⟩

theorem takeScheme_append :
    takeScheme (s ++ .char '/' :: t) = ((takeScheme s).1, (takeScheme s).2 ++ .char '/' :: t) := by
  rw [takeScheme, takeScheme, span_append_cons (by decide)]
  dsimp only
  generalize s.span (·.isIn isSchemeChar) = y
  obtain ⟨scheme, rest⟩ := y
  cases rest with
  | nil => rfl
  | cons c rest =>
    by_cases colon : c = .char ':'
    · subst colon
      by_cases letter : scheme.head?.all (·.isIn Char.isAlpha)
      · simp [letter]
      · simp [letter]
    · simp [colon]

theorem takeScheme_suffix (s : List Glyph) : (takeScheme s).2 <:+ s := by
  rw [takeScheme, List.span_eq_takeWhile_dropWhile]
  dsimp only
  have behind : s.dropWhile (·.isIn isSchemeChar) <:+ s := List.dropWhile_suffix _
  split
  · rename_i rest found
    rw [found] at behind
    split
    · exact (List.suffix_cons _ rest).trans behind
    · exact List.suffix_refl s
  · exact List.suffix_refl s

theorem takeAuthority_append (last : s.getLast? ≠ some (.char '/'))
    (single : t.head? ≠ some (.char '/')) :
    takeAuthority (s ++ .char '/' :: t) =
      ((takeAuthority s).1, (takeAuthority s).2 ++ .char '/' :: t) := by
  match s with
  | [] =>
    cases t with
    | nil => rfl
    | cons c t =>
      have other : c ≠ .char '/' := by simpa using single
      simp [takeAuthority, other]
  | [x] =>
    have other : x ≠ .char '/' := by simpa using last
    simp [takeAuthority, other]
  | x :: y :: rest =>
    by_cases slashes : x = .char '/' ∧ y = .char '/'
    · obtain ⟨rfl, rfl⟩ := slashes
      exact span_append_cons (by decide)
    · rcases not_and_or.1 slashes with other | other
      · simp [takeAuthority, other]
      · simp [takeAuthority, other]

theorem takeAuthority_suffix (s : List Glyph) : (takeAuthority s).2 <:+ s := by
  unfold takeAuthority
  split
  · rename_i rest
    rw [List.span_eq_takeWhile_dropWhile]
    exact (List.dropWhile_suffix _).trans ((List.suffix_cons _ rest).trans (List.suffix_cons _ _))
  · exact List.suffix_refl s

theorem IsBare.suffix (bare : IsBare s) (behind : t <:+ s) : IsBare t :=
  fun g hg => bare g (behind.subset hg)

theorem getLast?_suffix (last : s.getLast? ≠ some g) (behind : t <:+ s) : t.getLast? ≠ some g := by
  obtain ⟨front, rfl⟩ := behind
  intro h
  simp [List.getLast?_append, h] at last

theorem splitFirst_append {c : Char} (plain : ∀ g ∈ s, g ≠ .char c) :
    splitFirst c (s ++ t) = (s ++ (splitFirst c t).1, (splitFirst c t).2) := by
  have inside : ∀ g ∈ s, (g != .char c) = true := fun g hg => by simp [plain g hg]
  simp only [splitFirst, List.span_eq_takeWhile_dropWhile]
  rw [List.takeWhile_append_of_pos inside, List.dropWhile_append_of_pos inside]

theorem splitFirst_self {c : Char} (plain : ∀ g ∈ s, g ≠ .char c) : splitFirst c s = (s, []) := by
  have := splitFirst_append (t := []) plain
  simpa [splitFirst] using this

/-- A path that is appended goes on with the path. -/
theorem Parts.of_append (bare : IsBare s) (last : s.getLast? ≠ some (.char '/'))
    (single : t.head? ≠ some (.char '/')) :
    Parts.of (s ++ .char '/' :: t) = { Parts.of s with
      path := (Parts.of s).path ++ (splitFirst '?' (splitFirst '#' (.char '/' :: t)).1).1
      query := (splitFirst '?' (splitFirst '#' (.char '/' :: t)).1).2
      fragment := (splitFirst '#' (.char '/' :: t)).2 } := by
  have scheme := takeScheme_suffix s
  have authority := takeAuthority_suffix (takeScheme s).2
  have rest := bare.suffix (authority.trans scheme)
  rw [of_eq, of_eq, takeScheme_append, takeAuthority_append (getLast?_suffix last scheme) single]
  simp only [assemble]
  rw [splitFirst_append fun g hg => (rest g hg).2, splitFirst_self fun g hg => (rest g hg).2]
  dsimp only
  rw [splitFirst_append fun g hg => (rest g hg).1, splitFirst_self fun g hg => (rest g hg).1]

end QuorumGate.Url
