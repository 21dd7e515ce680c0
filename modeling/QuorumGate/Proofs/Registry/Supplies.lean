import Mathlib.Data.List.Forall2
import QuorumGate.Policy
import QuorumGate.Proposal.Json

/-!
# Supplies of identifiers

A signature that comes without an identifier gets one out of a supply. Whether a record can be read
does not depend on the supply, nor does anything in it but those identifiers.
-/

namespace QuorumGate

namespace Reading

variable {α β : Type} {R : α → α → Prop} {Q : β → β → Prop} {k : String} {ms : Json.Members}
  {f : Json → Reading α}

/-- What is read with one supply is read with any other, up to a relation between the results. -/
def Settled (R : α → α → Prop) (x : Reading α) : Prop :=
  ∀ supply n a, (x supply n).1 = .ok a → ∀ supply' n', ∃ b, (x supply' n').1 = .ok b ∧ R a b

namespace Settled

variable {R' : α → α → Prop}

theorem mono {x : Reading α} (h : Settled R x) (hR : ∀ a b, R a b → R' a b) : Settled R' x := by
  intro supply n a ha supply' n'
  obtain ⟨b, hb, related⟩ := h supply n a ha supply' n'
  exact ⟨b, hb, hR a b related⟩

theorem pure {a : α} (h : R a a) : Settled R (Pure.pure a : Reading α) := by
  rintro supply n _ ⟨rfl⟩ supply' n'
  exact ⟨a, rfl, h⟩

theorem refuse {kind : IssueKind} : Settled R (refuse kind : Reading α) := by
  rintro supply n a ⟨⟩

theorem orRefuse {kind : IssueKind} {o : Option α} (h : ∀ a, R a a) :
    Settled R (orRefuse kind o) := by
  cases o with
  | none => exact refuse
  | some a => exact pure (h a)

theorem draw : Settled (fun _ _ => True) draw := fun _ _ _ _ supply' n' =>
  ⟨supply' n', rfl, trivial⟩

theorem map {g : α → β} {x : Reading α} (hx : Settled R x) (hg : ∀ a b, R a b → Q (g a) (g b)) :
    Settled Q (g <$> x) := by
  intro supply n c hc supply' n'
  obtain ⟨a, ha, rfl⟩ : ∃ a, (x supply n).1 = .ok a ∧ g a = c := by
    cases hx : (x supply n).1 with
    | ok a => exact ⟨a, rfl, by simpa [Functor.map, hx, Except.map] using hc⟩
    | error is => simp [Functor.map, hx, Except.map] at hc
  obtain ⟨b, hb, related⟩ := hx supply n a ha supply' n'
  exact ⟨g b, by simp [Functor.map, hb, Except.map], hg a b related⟩

theorem seq {x : Reading (α → β)} {y : Reading α}
    (hx : Settled (fun g h => ∀ a b, R a b → Q (g a) (h b)) x) (hy : Settled R y) :
    Settled Q (x <*> y) := by
  intro supply n c hc supply' n'
  obtain ⟨g, a, hg, ha, rfl⟩ : ∃ g a, (x supply n).1 = .ok g ∧
      (y supply (x supply n).2).1 = .ok a ∧ g a = c := by
    cases hg : (x supply n).1 <;> cases ha : (y supply (x supply n).2).1 <;>
      simp_all [Seq.seq, Checked.apply]
  obtain ⟨h, hh, related⟩ := hx supply n g hg supply' n'
  obtain ⟨b, hb, same⟩ := hy supply _ a ha supply' (x supply' n').2
  exact ⟨h b, by simp [Seq.seq, hh, hb, Checked.apply], related a b same⟩

theorem under {s : Step} {x : Reading α} (hx : Settled R x) : Settled R (under s x) := by
  intro supply n a ha supply' n'
  have read : (x supply n).1 = .ok a := by
    cases h : (x supply n).1 <;> simp_all [Reading.under, Except.mapError]
  obtain ⟨b, hb, related⟩ := hx supply n a read supply' n'
  exact ⟨b, by simp [Reading.under, hb, Except.mapError], related⟩

theorem required (h : ∀ v, Settled R (f v)) : Settled R (required k f ms) := by
  apply under
  cases Json.lookup k ms with
  | none => exact refuse
  | some v => exact h v

theorem defaulted {default : Reading α} (hd : Settled R default) (h : ∀ v, Settled R (f v)) :
    Settled R (defaulted k default f ms) := by
  apply under
  cases Json.lookup k ms with
  | none => exact hd
  | some v => exact h v

theorem optional (h : ∀ v, Settled Eq (f v)) : Settled Eq (optional k f ms) := by
  apply defaulted (pure rfl)
  intro v
  cases v with
  | null => exact pure rfl
  | _ => exact (h _).map fun _ _ => congrArg some

theorem object {f : Json.Members → Reading α} (h : ∀ ms, Settled R (f ms)) (v : Json) :
    Settled R (object f v) := by
  cases v with
  | object ms => exact h ms
  | _ => exact refuse

theorem list (h : ∀ v, Settled R (f v)) (v : Json) :
    Settled (List.Forall₂ R) (list f v) := by
  have items : ∀ vs i, Settled (List.Forall₂ R) (items f i vs) := by
    intro vs
    induction vs with
    | nil => exact fun i => pure .nil
    | cons v vs ih =>
      exact fun i => seq ((under (h v)).map fun _ _ first _ _ others => .cons first others)
        (ih (i + 1))
  cases v with
  | list vs => exact items vs 0
  | _ => exact refuse

theorem text (v : Json) : Settled Eq (text v) := by
  cases v with
  | text t => exact pure rfl
  | _ => exact refuse

theorem onChars {f : List Char → Reading α} (h : ∀ s, Settled R (f s)) (t : Text) :
    Settled R (onChars f t) := by
  unfold Reading.onChars
  cases t.chars? with
  | none => exact refuse
  | some s => exact h s

theorem int (v : Json) : Settled Eq (int v) := by
  cases v with
  | number n =>
    cases n with
    | whole n => exact pure rfl
    | real x =>
      show Settled Eq (intOfReal x)
      unfold intOfReal
      split
      · exact refuse
      · split
        · exact refuse
        · split
          · exact pure rfl
          · exact refuse
  | bool b => exact pure rfl
  | text t =>
    apply onChars
    intro s
    cases intOfText s with
    | ok n => exact pure rfl
    | error kind => exact refuse
  | _ => exact refuse

theorem instant (v : Json) : Settled Eq (instant v) := by
  cases v with
  | text t => exact onChars (fun s => orRefuse fun _ => rfl) t
  | number n =>
    cases n with
    | whole n =>
      show Settled Eq (if _ then _ else _)
      split
      · exact refuse
      · exact orRefuse fun _ => rfl
    | real x => exact orRefuse fun _ => rfl
  | _ => exact refuse

theorem member {ofWord? : String → Option α} (v : Json) : Settled Eq (member ofWord? v) := by
  cases v with
  | text t => exact orRefuse fun _ => rfl
  | _ => exact refuse

theorem looseMember {ofWord? : String → Option α} (v : Json) :
    Settled Eq (looseMember ofWord? v) := by
  cases v with
  | text t => exact member _
  | _ => exact member _

/-- Something is read with a list of identifiers if and only if it is read with none. -/
theorem resultWith {x : Reading α} (h : Settled R x) (given : List Text) :
    (∃ a b, x.result = .ok a ∧ x.resultWith given = .ok b ∧ R a b) ∨
      ∃ is js, x.result = .error is ∧ x.resultWith given = .error js := by
  cases without : x.result with
  | ok a =>
    obtain ⟨b, hb, related⟩ := h _ 0 a without (fun i => given.getD i "") 0
    exact .inl ⟨a, b, rfl, hb, related⟩
  | error is =>
    cases with_given : x.resultWith given with
    | ok b =>
      obtain ⟨a, ha, -⟩ := h _ 0 b with_given (fun i => ([] : List Text).getD i "") 0
      exact absurd (without.symm.trans ha) (by simp)
    | error js => exact .inr ⟨is, js, rfl, rfl⟩

end Settled

end Reading

open Reading

theorem Policy.ofJson_settled (v : Json) : Settled Eq (Policy.ofJson v) := by
  refine Settled.object (fun ms => ?_) v
  refine .seq (R := Eq) (.seq (R := Eq) (.seq (R := Eq) (.seq (R := Eq) (.seq (R := Eq)
    (.seq (R := Eq) (.map (R := Eq) ?_ ?_) ?_) ?_) ?_) ?_) ?_) ?_
  · exact .required .text
  · rintro _ _ rfl _ _ rfl _ _ rfl _ _ rfl _ _ rfl _ _ rfl _ _ rfl
    rfl
  · exact .required .text
  · exact .required fun v => (Settled.list .text v).mono fun _ _ same => by
      rwa [List.forall₂_eq_eq_eq] at same
  · exact .required .int
  · exact .optional .int
  · exact .required .text
  · exact .required .instant

theorem Signature.ofJson_settled (v : Json) : Settled (fun _ _ => True) (Signature.ofJson v) := by
  refine Settled.object (fun ms => ?_) v
  refine .seq (R := Eq) (.seq (R := Eq) (.seq (R := Eq) (.map (R := fun _ _ => True)
    ?_ ?_) ?_) ?_) ?_
  · exact .defaulted .draw fun v => (Settled.text v).mono fun _ _ _ => trivial
  · intros
    trivial
  · exact .required .text
  · exact .optional .text
  · exact .required .instant

theorem Execution.ofJson_settled (v : Json) : Settled Eq (Execution.ofJson v) := by
  refine Settled.object (fun ms => ?_) v
  refine .seq (R := Eq) (.seq (R := Eq) (.seq (R := Eq) (.seq (R := Eq) (.map (R := Eq)
    ?_ ?_) ?_) ?_) ?_) ?_
  · exact .required .text
  · rintro a _ rfl b _ rfl c _ rfl d _ rfl e _ rfl
    rfl
  · exact .required .member
  · exact .optional .text
  · exact .optional .text
  · exact .optional .instant

/-- Whether a proposal can be read, and when it was created, does not depend on the identifiers that
are drawn for its signatures. -/
theorem Proposal.ofJson_settled (v : Json) :
    Settled (fun p q : Proposal => p.createdAt = q.createdAt) (Proposal.ofJson v) := by
  refine Settled.object (fun ms => ?_) v
  refine .seq (R := Eq) (.seq (R := Eq) (.seq (R := Eq) (.seq (R := Eq)
    (.seq (R := fun _ _ => True) (.seq (R := Eq) (.seq (R := Eq) (.seq (R := Eq) (.seq (R := Eq)
    (.seq (R := Eq) (.seq (R := Eq) (.seq (R := Eq) (.seq (R := Eq) (.seq (R := Eq)
    (.map (R := Eq) ?_ ?_) ?_) ?_) ?_) ?_) ?_) ?_) ?_) ?_) ?_) ?_) ?_) ?_) ?_) ?_
  · exact .required .text
  · rintro _ _ - _ _ - _ _ - _ _ - _ _ - _ _ - _ _ - _ _ - _ _ rfl _ _ - _ _ - _ _ - _ _ - _ _ -
      _ _ -
    rfl
  · exact .required .text
  · exact .required .text
  · exact .required .text
  · exact .required .text
  · exact .required .looseMember
  · exact .required .text
  · exact .optional .text
  · exact .required .instant
  · exact .optional .instant
  · exact .defaulted (.pure trivial) fun v =>
      (Settled.list Signature.ofJson_settled v).mono fun _ _ _ => trivial
  · exact .defaulted (.pure rfl) .looseMember
  · exact .defaulted (.pure rfl) .int
  · exact .optional .instant
  · exact .optional Execution.ofJson_settled

end QuorumGate
