import Mathlib.Logic.Relation
import QuorumGate.Proofs.Concurrency.Timeline

/-!
# Evaluation at two times

The stage of a proposal is told at the time of asking, from the stage that is stored, the window and
the number of signatures. Whether it is told from the record or from an earlier view of it makes no
difference, and neither the passing of time nor more signatures ever take it back.
-/

namespace QuorumGate

namespace Status

/-- The one stage can follow directly upon the other. -/
def Leads (s t : Status) : Prop := t ∈ s.successors

instance (s t : Status) : Decidable (Leads s t) := inferInstanceAs (Decidable (t ∈ s.successors))

theorem canBecome_iff {s t : Status} : s.canBecome t = true ↔ s = t ∨ s.Leads t := by
  simp [canBecome, Leads]

theorem leads_of_canBecome {s t : Status} (h : s.canBecome t = true) :
    Relation.ReflTransGen Leads s t := by
  rcases canBecome_iff.1 h with rfl | leads
  · exact .refl
  · exact .single leads

end Status

namespace Proposal

/-- The stage that a proposal is at, by what is stored of it and the time. -/
inductive IsAt (P : Policy) (p : Proposal) (now : Instant) : Status → Prop where
  | settled (terminal : p.status.isTerminal = true) : IsAt P p now p.status
  | late (still_open : p.status.isTerminal = false) (overdue : p.Overdue now) :
      IsAt P p now .expired
  | counted (still_open : p.status.isTerminal = false) (in_window : ¬p.Overdue now) :
      IsAt P p now (p.quorumStatus P)

variable {P : Policy} {p : Proposal} {s s' : Status} {t t' : Instant}

/-- If its times can be compared, a proposal is at one stage, and evaluation tells it. -/
theorem exists_isAt (P : Policy) (comparable : ∀ u, p.expiresAt = some u → t.isAware = u.isAware) :
    ∃ s, p.evaluate P t = .ok s ∧ p.IsAt P t s := by
  cases stage : p.status.isTerminal with
  | true => exact ⟨p.status, by rw [evaluate, stage, if_pos rfl], .settled stage⟩
  | false =>
    obtain ⟨expired, asked, overdue⟩ := isExpired_eq comparable
    rw [evaluate_of_open stage, asked]
    cases expired with
    | true => exact ⟨.expired, rfl, .late stage (overdue.1 rfl)⟩
    | false =>
      have in_window : ¬p.Overdue t := fun h => Bool.false_ne_true (overdue.2 h)
      exact ⟨p.quorumStatus P, rfl, .counted stage in_window⟩

namespace IsAt

theorem unique (h : p.IsAt P t s) (h' : p.IsAt P t s') : s = s' := by
  cases h <;> cases h' <;> simp_all

theorem evaluate (h : p.IsAt P t s)
    (comparable : ∀ u, p.expiresAt = some u → t.isAware = u.isAware) :
    p.evaluate P t = .ok s := by
  obtain ⟨s', told, h'⟩ := exists_isAt P comparable
  rw [told, h.unique h']

/-- An earlier view of a proposal will be at the stage that the proposal itself will be at. -/
theorem of_view (h : p.IsAt P t s) (h' : p.IsAt P t' s') (later : t.ticks ≤ t'.ticks) :
    (p.withStatus s).IsAt P t' s' := by
  cases h with
  | settled terminal => exact h'
  | late still_open overdue =>
    have same : s' = .expired := h'.unique (.late still_open (overdue.mono later))
    rw [same]
    exact .settled rfl
  | counted still_open in_window =>
    have still_open' : (p.withStatus (p.quorumStatus P)).status.isTerminal = false :=
      isTerminal_quorumStatus P p
    cases h' with
    | settled terminal => exact nomatch terminal.symm.trans still_open
    | late _ overdue => exact .late still_open' overdue
    | counted _ in_window' => exact .counted still_open' in_window'

/-- Time takes no stage back. -/
theorem canBecome (h : p.IsAt P t s) (h' : p.IsAt P t' s') (later : t.ticks ≤ t'.ticks) :
    s.canBecome s' = true := by
  cases h with
  | settled terminal =>
    rw [h'.unique (.settled terminal)]
    exact (Status.canBecome_iff_of_isTerminal terminal).2 rfl
  | late still_open overdue =>
    rw [h'.unique (.late still_open (overdue.mono later))]
    decide
  | counted still_open in_window =>
    cases h' with
    | settled terminal => exact nomatch terminal.symm.trans still_open
    | late _ _ => rw [quorumStatus]; split <;> decide
    | counted _ _ => exact Status.canBecome_iff.2 (.inl rfl)

end IsAt

theorem IsAt.signedBy (h : p.IsAt P t s) (more : List Signature) :
    ∃ s', (p.signedBy more).IsAt P t s' ∧ s.canBecome s' = true := by
  cases h with
  | settled terminal =>
    exact ⟨p.status, .settled terminal, (Status.canBecome_iff_of_isTerminal terminal).2 rfl⟩
  | late still_open overdue => exact ⟨.expired, .late still_open overdue, rfl⟩
  | counted still_open in_window =>
    exact ⟨_, .counted still_open in_window, canBecome_quorumStatus_signedBy P p more⟩

/-- Let all times of a proposal be comparable, and let one come after another. There is a view of
the proposal at both times. The one at the later time is also had from the one at the earlier time,
and its stage is reached from the stage there by allowed moves. Further signatures leave the stage
at a time as it is, or lead to one that can follow it. -/
theorem evaluated_consistently (P : Policy) (p : Proposal) (later : t.UpTo t')
    (comparable : ∀ u, p.expiresAt = some u → t.isAware = u.isAware) :
    ∃ v v', p.viewAt P t = .ok v ∧ p.viewAt P t' = .ok v' ∧ v.viewAt P t' = .ok v' ∧
      Relation.ReflTransGen Status.Leads v.status v'.status ∧
      ∀ more, ∃ u, (p.signedBy more).viewAt P t = .ok u ∧
        (v.status = u.status ∨ v.status.Leads u.status) := by
  obtain ⟨aware, onward⟩ := later
  have comparable' : ∀ u, p.expiresAt = some u → t'.isAware = u.isAware :=
    fun u hu => aware.symm.trans (comparable u hu)
  obtain ⟨s, told, at_first⟩ := exists_isAt P comparable
  obtain ⟨s', told', at_last⟩ := exists_isAt P comparable'
  have told_again : (p.withStatus s).evaluate P t' = .ok s' :=
    (at_first.of_view at_last onward).evaluate comparable'
  refine ⟨p.withStatus s, p.withStatus s', ?_, ?_, ?_,
    Status.leads_of_canBecome (at_first.canBecome at_last onward), fun more => ?_⟩
  · rw [viewAt, told]
    rfl
  · rw [viewAt, told']
    rfl
  · rw [viewAt, told_again]
    rfl
  · obtain ⟨s'', at_more, moved⟩ := at_first.signedBy more
    refine ⟨(p.signedBy more).withStatus s'', ?_, Status.canBecome_iff.1 moved⟩
    rw [viewAt, at_more.evaluate comparable]
    rfl

end Proposal

namespace OneOfTwo

/-- An unsigned proposal that can be signed up to a time. -/
def openUntil (t : Instant) : Proposal := draft.normalized.toProposal (letter 'Q') start (some t)

/-- It expires without a signature, and one signature would have approved it. -/
theorem brief_expires :
    let P := policy.toPolicy (letter 'P') start
    let brief := openUntil (minute 1)
    let signature : Signature := ⟨letter 'S', letter 'a', none, start⟩
    ∃ v v' u, brief.viewAt P start = .ok v ∧ brief.viewAt P (minute 2) = .ok v' ∧
      v.viewAt P (minute 2) = .ok v' ∧ (brief.signedBy [signature]).viewAt P start = .ok u ∧
      (v.status, v'.status, u.status) = (.pending, .expired, .approved) ∧
      Relation.ReflTransGen Status.Leads v.status v'.status ∧
      (v.status = u.status ∨ v.status.Leads u.status) := by
  intro P brief signature
  have later : start.UpTo (minute 2) := ⟨by decide, by decide +kernel⟩
  have comparable : ∀ u, brief.expiresAt = some u → start.isAware = u.isAware := by
    rintro _ ⟨⟩
    decide
  obtain ⟨v, v', first, last, again, reached, more⟩ :=
    Proposal.evaluated_consistently P brief later comparable
  obtain ⟨u, signed, next⟩ := more [signature]
  have stages : (brief.viewAt P start).map (·.status) = .ok .pending ∧
      (brief.viewAt P (minute 2)).map (·.status) = .ok .expired ∧
      ((brief.signedBy [signature]).viewAt P start).map (·.status) = .ok .approved := by
    decide +kernel
  rw [first, last, signed] at stages
  have pending : v.status = .pending := Except.ok.inj stages.1
  have expired : v'.status = .expired := Except.ok.inj stages.2.1
  have approved : u.status = .approved := Except.ok.inj stages.2.2
  exact ⟨v, v', u, first, last, again, signed, by rw [pending, expired, approved], reached, next⟩

end OneOfTwo

end QuorumGate
