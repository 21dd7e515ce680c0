import QuorumGate.Proofs.PolicyDrafts
import QuorumGate.Proofs.Text.Digests

/-!
# When a proposal is accepted

A draft is accepted if none of its names is blank and its hash is a digest in digits of either case.
The body of a request is held to the same digits before it becomes a draft, so no hash that is read
is refused later. Blanks around a text and the case of the digits make no difference to what is
stored.
-/

namespace QuorumGate

/-! ## Letter case in ASCII -/

namespace Glyph

/-- A capital letter of ASCII becomes the small one. -/
def lowered : Glyph → Glyph
  | char c => char c.toLower
  | g => g

end Glyph

namespace Text

variable {s t : Text}

/-- Two texts differ at most in the case of ASCII letters. -/
def SameLetters (s t : Text) : Prop := s.glyphs.map Glyph.lowered = t.glyphs.map Glyph.lowered

theorem toLower_beyond {c : Char} (beyond : ¬c.toNat < 0x80) : c.toLower = c := by
  refine dif_neg fun capital => ?_
  have small : c.toNat ≤ 'Z'.toNat := UInt32.le_iff_toNat_le.1 capital.2
  exact beyond (Nat.lt_of_le_of_lt small (by decide))

theorem lowerChar_toLower (c : Char) : lowerChar c.toLower = lowerChar c := by
  by_cases ascii : c.toNat < 0x80
  · refine forall_ascii (fun c => lowerChar c.toLower = lowerChar c) ?_ ascii
    decide +kernel
  · rw [toLower_beyond ascii]

theorem lower_eq_of_sameLetters (h : s.SameLetters t) : s.lower = t.lower := by
  have through : ∀ u : Text, u.lower = ⟨(u.glyphs.map Glyph.lowered).flatMap lowerGlyph⟩ := by
    intro u
    rw [lower, List.flatMap_map]
    refine congrArg Text.mk (List.flatMap_congr fun g _ => ?_)
    cases g with
    | surrogate n => rfl
    | char c => exact congrArg (List.map Glyph.char) (lowerChar_toLower c).symm
  rw [through s, through t, h]

end Text

/-! ## Reading -/

namespace Reading

variable {α β : Type} {ok : α → Prop} {R : β → Prop}

/-- Whatever is read fulfils a condition. -/
def Yields (ok : α → Prop) (x : Reading α) : Prop :=
  ∀ supply n a, (x supply n).1 = .ok a → ok a

namespace Yields

theorem any (x : Reading α) : Yields (fun _ => True) x := fun _ _ _ _ => trivial

theorem map {f : α → β} {x : Reading α} (h : Yields (fun a => R (f a)) x) : Yields R (f <$> x) := by
  intro supply n b hb
  have hb : (x supply n).1.map f = .ok b := hb
  cases read : (x supply n).1 with
  | error is =>
    rw [read] at hb
    cases hb
  | ok a =>
    rw [read] at hb
    cases hb
    exact h supply n a read

theorem seq {f : Reading (α → β)} {x : Reading α} (hf : Yields (fun g => ∀ a, ok a → R (g a)) f)
    (hx : Yields ok x) : Yields R (f <*> x) := by
  intro supply n b hb
  have hb : Checked.apply (f supply n).1 (x supply (f supply n).2).1 = .ok b := hb
  cases first : (f supply n).1 with
  | error is =>
    rw [first] at hb
    cases second : (x supply (f supply n).2).1 <;> rw [second] at hb <;> cases hb
  | ok g =>
    rw [first] at hb
    cases second : (x supply (f supply n).2).1 with
    | error is =>
      rw [second] at hb
      cases hb
    | ok a =>
      rw [second] at hb
      cases hb
      exact hf supply n g first a (hx supply _ a second)

theorem required {k : String} {f : Json → Reading α} (h : ∀ v, Yields ok (f v))
    (ms : Json.Members) : Yields ok (required k f ms) := by
  intro supply n a ha
  rw [Reading.required] at ha
  cases found : Json.lookup k ms with
  | none =>
    rw [found] at ha
    cases ha
  | some v =>
    rw [found] at ha
    have ha : (f v supply n).1.mapError (List.map (Issue.under (.key k))) = .ok a := ha
    cases read : (f v supply n).1 with
    | error is =>
      rw [read] at ha
      cases ha
    | ok b =>
      rw [read] at ha
      cases ha
      exact h v supply n a read

/-- What passes a check fulfils its condition. -/
theorem check {p : α → Option IssueKind} (x : Reading α) :
    Yields (fun a => p a = none) (check p x) := by
  intro supply n a ha
  rw [Reading.check] at ha
  cases read : (x supply n).1 with
  | error is =>
    simp only [read] at ha
    cases ha
  | ok b =>
    simp only [read] at ha
    cases passed : p b with
    | some kind =>
      simp only [passed] at ha
      cases ha
    | none =>
      simp only [passed] at ha
      cases ha
      exact passed

end Yields

end Reading

namespace ProposalDraft

variable {d d' : ProposalDraft} {P : Policy} {r : Rejection}

/-- A draft that breaks no rule. -/
@[mk_iff]
structure IsAcceptable (d : ProposalDraft) : Prop where
  contractName : d.contractName.strip.isEmpty = false
  contractId : d.contractId.strip.isEmpty = false
  proposer : d.proposer.strip.isEmpty = false
  wasmHash : ∃ cs, d.wasmHash.strip.SpellsDigest cs

theorem objection?_normalized_eq_none_iff : d.normalized.objection? = none ↔ d.IsAcceptable := by
  rw [isAcceptable_iff, objection?, Rejection.first_eq_none_iff, Rejection.first_eq_none_iff,
    Rejection.first_eq_none_iff]
  have stated : ∀ b : Bool, ¬b = true ↔ b = false := by simp
  refine and_congr (stated _) <| and_congr (stated _) <| and_congr (stated _) ?_
  rw [← Text.isLowerDigest_lower_iff, normalized]
  split <;> simp [*]

theorem kind_of_objection? (h : d.objection? = some r) : r.kind = .invalidProposal := by
  refine Rejection.kind_of_first rfl (Rejection.kind_of_first rfl <|
    Rejection.kind_of_first rfl ?_) h
  intro found
  split at found <;> cases found
  rfl

theorem check_eq_ok_iff : d.check = .ok () ↔ d.objection? = none := by
  rw [check]
  split <;> simp [*]

/-! ## Requests -/

theorem isDigest_of_digestPattern {t : Text} (h : digestPattern t = none) : isDigest t = true := by
  rw [digestPattern] at h
  split at h
  · cases h
  · split at h
    · assumption
    · cases h

/-- The hash in every body that is read is a digest. -/
theorem spellsDigest_of_ofJson {body : Json} {supply : Nat → Text} {n : Nat}
    (read : (ofJson body supply n).1 = .ok d) : ∃ cs, d.wasmHash.SpellsDigest cs := by
  have yields : Reading.Yields (fun d => isDigest d.wasmHash = true) (ofJson body) := by
    cases body with
    | object ms =>
      have hash := Reading.Yields.required (k := "wasm_hash")
        (fun v => Reading.Yields.check (p := digestPattern) (Reading.text v)) ms
      refine .seq (.seq (.seq (.seq (.seq (.seq (.map ?_) (.any _)) (.any _)) hash) (.any _))
        (.any _)) (.any _)
      intro _ _ _ _ _ _ _ _ t passed _ _ _ _ _ _
      exact isDigest_of_digestPattern passed
    | _ => exact fun _ _ _ => nofun
  exact Text.isDigest_iff.1 (yields supply n d read)

/-- Two drafts ask for the same deployment but for blanks around their texts and the case of the
letters of the hash. -/
structure Matches (d d' : ProposalDraft) : Prop where
  policyId : d'.policyId = d.policyId
  network : d'.network = d.network
  contractName : d'.contractName.strip = d.contractName.strip
  contractId : d'.contractId.strip = d.contractId.strip
  proposer : d'.proposer.strip = d.proposer.strip
  wasmHash : d'.wasmHash.strip.SameLetters d.wasmHash.strip

theorem Matches.normalized (h : d.Matches d') :
    d'.normalized = { d.normalized with description := d'.description } := by
  have hash : d'.wasmHash.strip.lower = d.wasmHash.strip.lower :=
    Text.lower_eq_of_sameLetters h.wasmHash
  simp [ProposalDraft.normalized, h.policyId, h.network, h.contractName, h.contractId, h.proposer,
    hash]

theorem Matches.isAcceptable_iff (h : d.Matches d') : d'.IsAcceptable ↔ d.IsAcceptable := by
  rw [← objection?_normalized_eq_none_iff, ← objection?_normalized_eq_none_iff, h.normalized]
  rfl

end ProposalDraft

end QuorumGate
