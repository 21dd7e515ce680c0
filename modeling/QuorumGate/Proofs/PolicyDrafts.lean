import Mathlib.Data.List.DropRight
import Mathlib.Data.List.Nodup
import Mathlib.Tactic.MkIffOfInductiveProp
import QuorumGate.Service.Policies

/-!
# When a policy is accepted

The rules for a new policy are checked one after another, and the first that a draft breaks is the
one that it is refused for. A draft is accepted if it breaks none of them, in whichever order they
are asked.
-/

namespace QuorumGate

variable {α : Type}

namespace Text

/-- Nothing is left to drop where both ends have been dropped. -/
theorem trim_trim (p : α → Bool) (xs : List α) : trim p (trim p xs) = trim p xs := by
  have ends : ∀ ys : List α, dropTrailing p ys = ys.rdropWhile p := fun _ => rfl
  simp only [trim, ends]
  have front : ((xs.dropWhile p).rdropWhile p).dropWhile p = (xs.dropWhile p).rdropWhile p := by
    refine List.dropWhile_eq_self_iff.2 fun some_left => ?_
    have kept := List.rdropWhile_prefix p (l := xs.dropWhile p)
    rw [kept.getElem some_left]
    exact List.dropWhile_eq_self_iff.1 (List.dropWhile_idempotent p xs) _
  rw [front, List.rdropWhile_idempotent]

theorem strip_strip (t : Text) : t.strip.strip = t.strip := congrArg Text.mk (trim_trim _ _)

end Text

namespace Rejection

variable {broken : Prop} [Decidable broken] {first r : Rejection} {others : Option Rejection}
  {kind : RejectionKind}

/-- No rule is broken if the first one is not and none of the others is. -/
theorem first_eq_none_iff :
    (if broken then some first else others) = none ↔ ¬broken ∧ others = none := by
  split <;> simp [*]

/-- The first objection is of a kind that all objections are of. -/
theorem kind_of_first (own : first.kind = kind) (later : others = some r → r.kind = kind)
    (found : (if broken then some first else others) = some r) : r.kind = kind := by
  split at found
  · cases found
    exact own
  · exact later found

end Rejection

namespace PolicyDraft

variable {d : PolicyDraft} {r : Rejection} {xs : List Text}

theorem stripped_stripped (d : PolicyDraft) : d.stripped.stripped = d.stripped := by
  simp [stripped, Text.strip_strip]

theorem mem_repeated {x : Text} : x ∈ repeated xs ↔ 1 < xs.count x := by
  rw [repeated, List.mem_mergeSort, List.mem_eraseDups, List.mem_filter, decide_eq_true_iff,
    and_iff_right_iff_imp]
  exact fun twice => List.count_pos_iff.1 (by omega)

theorem repeated_eq_nil_iff : repeated xs = [] ↔ xs.Nodup := by
  simp only [List.eq_nil_iff_forall_not_mem, mem_repeated, Nat.not_lt, List.nodup_iff_count_le_one]

/-- A draft that breaks no rule. -/
@[mk_iff]
structure IsAcceptable (d : PolicyDraft) : Prop where
  named : d.name.isEmpty = false
  attributed : d.createdBy.isEmpty = false
  manned : d.signers ≠ []
  identified : ∀ s ∈ d.signers, s.isEmpty = false
  distinct : d.signers.Nodup
  threshold : 1 ≤ d.threshold ∧ d.threshold ≤ d.signers.length
  expiry : ∀ n, d.expirySeconds = some n → 1 ≤ n ∧ n ≤ maxExpirySeconds

theorem objection?_eq_none_iff : d.objection? = none ↔ d.IsAcceptable := by
  rw [isAcceptable_iff]
  simp only [objection?, Rejection.first_eq_none_iff]
  refine and_congr (by simp) <| and_congr (by simp) <| and_congr (by simp) <| and_congr (by simp) <|
    and_congr (by simp [repeated_eq_nil_iff]) <| and_congr (by omega) ?_
  cases d.expirySeconds with
  | none => simp
  | some n =>
    simp only [Rejection.first_eq_none_iff, Option.some.injEq, forall_eq', and_true]
    omega

/-- Whatever a draft is refused for, it is refused as one for a policy. -/
theorem kind_of_objection? (h : d.objection? = some r) : r.kind = .invalidPolicy := by
  refine Rejection.kind_of_first rfl (Rejection.kind_of_first rfl <| Rejection.kind_of_first rfl <|
    Rejection.kind_of_first rfl <| Rejection.kind_of_first rfl <|
    Rejection.kind_of_first rfl ?_) h
  cases d.expirySeconds with
  | none => exact nofun
  | some n => exact Rejection.kind_of_first rfl (Rejection.kind_of_first rfl nofun)

theorem objection?_of_check_eq_error (h : d.check = .error r) : d.objection? = some r := by
  unfold check at h
  split at h
  case h_1 broken =>
    cases h
    exact broken
  case h_2 => cases h

end PolicyDraft

end QuorumGate
