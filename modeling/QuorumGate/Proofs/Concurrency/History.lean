import Mathlib.Data.List.Chain
import QuorumGate.Proofs.Concurrency.Deployment

/-!
# The history of a proposal

Each committed version of a proposal follows from the one before it, whichever of the four writers
has made it. The last one is what the store holds.
-/

namespace QuorumGate

/-- How a version of a record may follow another one, with the policies of a store. -/
structure Evolves (s : Store) (old new : Proposal) : Prop where
  version : new.version = old.version + 1
  creation : new.id = old.id ∧ new.policyId = old.policyId ∧
    new.contractName = old.contractName ∧ new.contractId = old.contractId ∧
    new.wasmHash = old.wasmHash ∧ new.network = old.network ∧ new.proposer = old.proposer ∧
    new.description = old.description ∧ new.createdAt = old.createdAt ∧
    new.expiresAt = old.expiresAt
  signatures : new.signatures = old.signatures ∨
    ∃ P x, s.policy? old.policyId = some P ∧ x.signer ∈ P.signers ∧
      (∀ y ∈ old.signatures, y.signer ≠ x.signer) ∧ new.signatures = old.signatures ++ [x]
  status : new.status = old.status ∨
    (old.status, new.status) ∈
      [(.pending, .approved), (.pending, .expired), (.approved, .executed), (.approved, .expired)]
  unexpired : old.status ≠ .expired
  executed : old.status = .executed → new.status = .executed ∧
    new.signatures = old.signatures ∧ new.executedAt = old.executedAt
  execution : old.status = .executed → ∃ x y, old.execution = some x ∧ new.execution = some y ∧
    y.id = x.id ∧ (y = x ∨ x.outcome = .inFlight ∧ y.outcome ≠ .inFlight)

variable {rules : ExecutionRules} {c : Conditions} {w : World} {past : Chronicle} {i : Nat}
  {p old new : Proposal} {P : Policy} {id : Text}

theorem Evolves.after {s : Store} (h : Evolves s old new) (e : Event) :
    Evolves (s.after e) old new := by
  refine { h with signatures := ?_ }
  rcases h.signatures with hs | ⟨P, x, hP, hx⟩
  · exact .inl hs
  · exact .inr ⟨P, x, Store.policy?_after e hP, hx⟩

/-- An open record is approved if it has a quorum, and pending otherwise. -/
theorem Backed.stage_cases (h : Backed c past p P) (ht : 1 ≤ P.threshold)
    (ho : p.status.isTerminal = false) :
    P.threshold ≤ p.signatures.length ∧ p.status = .approved ∨
      ¬P.threshold ≤ p.signatures.length ∧ p.status = .pending := by
  rw [h.stage ht ho, Proposal.quorumStatus]
  by_cases hq : P.threshold ≤ p.signatures.length
  · exact .inl ⟨hq, if_pos hq⟩
  · exact .inr ⟨hq, if_neg hq⟩

theorem Change.evolves (h : Change c past i old new) (hP : Backed c past old P)
    (ht : 1 ≤ P.threshold) : Evolves (replay c.founding past) old new := by
  have creation := Proposal.origin_eq_iff.1 h.origin_eq
  have unexpired : old.status.isTerminal = false → old.status ≠ .expired :=
    fun ho => Status.ne_of_isTerminal ho rfl
  have unexecuted : old.status.isTerminal = false → old.status ≠ .executed :=
    fun ho => Status.ne_of_isTerminal ho rfl
  cases h with
  | @signed Q request correlation s call policy_eq still_open member unsigned =>
    obtain rfl := Option.some.inj (hP.policy_eq.symm.trans policy_eq)
    have new_signer : ∀ y ∈ old.signatures, y.signer ≠ s.signer := by
      intro y hy
      rw [Proposal.hasSigned, List.any_eq_false] at unsigned
      simpa using unsigned y hy
    have status : (old.sign s).quorumStatus P = old.status ∨
        (old.status, (old.sign s).quorumStatus P) ∈ [(Status.pending, Status.approved),
          (.pending, .expired), (.approved, .executed), (.approved, .expired)] := by
      have hlen : ((old.sign s).signatures.length : Int) = old.signatures.length + 1 := by
        simp [Proposal.sign]
      rcases hP.stage_cases ht still_open with ⟨hq, hs⟩ | ⟨hq, hs⟩
      · left
        rw [hs, Proposal.quorumStatus, if_pos (by omega)]
      · rw [hs]
        rw [Proposal.quorumStatus]
        split <;> simp
    refine ⟨rfl, creation, .inr ⟨P, s, policy_eq, member, new_signer, rfl⟩, status,
      unexpired still_open, ?_, ?_⟩
    · exact fun he => absurd he (unexecuted still_open)
    · exact fun he => absurd he (unexecuted still_open)
  | expired still_open =>
    refine ⟨rfl, creation, .inl rfl, .inr ?_, unexpired still_open, ?_, ?_⟩
    · show (old.status, Status.expired) ∈ _
      rcases hP.stage_cases ht still_open with ⟨-, hs⟩ | ⟨-, hs⟩ <;> simp [hs]
    · exact fun he => absurd he (unexecuted still_open)
    · exact fun he => absurd he (unexecuted still_open)
  | claimed call policy_eq still_open quorum =>
    obtain rfl := Option.some.inj (hP.policy_eq.symm.trans policy_eq)
    refine ⟨rfl, creation, .inl rfl, .inr ?_, unexpired still_open, ?_, ?_⟩
    · show (old.status, Status.executed) ∈ _
      rcases hP.stage_cases ht still_open with ⟨-, hs⟩ | ⟨hq, -⟩
      · simp [hs]
      · exact absurd quorum hq
    · exact fun he => absurd he (unexecuted still_open)
    · exact fun he => absurd he (unexecuted still_open)
  | @recorded x y executed held once final =>
    refine ⟨rfl, creation, .inl rfl, .inl rfl, ?_, fun _ => ⟨executed, rfl, rfl⟩, fun _ => ?_⟩
    · intro he
      rw [executed] at he
      cases he
    · refine ⟨y, x, held, rfl, ?_⟩
      rcases once with rfl | rfl
      · exact ⟨rfl, .inl rfl⟩
      · exact ⟨rfl, .inr ⟨rfl, final⟩⟩

theorem versions_wrote (b : Option Proposal) :
    versions (⟨i, .wrote b p⟩ :: past) id =
      if p.id = id then p :: versions past id else versions past id := by
  by_cases hid : p.id = id
  · simp [versions, written, Event.written?, hid]
  · simp [versions, written, Event.written?, hid]

theorem Lawful.head?_versions (h : Lawful c past) (id : Text) :
    (versions past id).head? = (replay c.founding past).proposal? id := by
  induction past with
  | nil => rfl
  | cons e past ih =>
    obtain ⟨i, e⟩ := e
    cases e with
    | wrote b p =>
      rw [versions_wrote, h.proposal?_wrote]
      by_cases hid : p.id = id
      · rw [if_pos hid, if_pos hid, List.head?_cons]
      · rw [if_neg hid, if_neg hid]
        exact ih h.1
    | _ => exact ih h.1

theorem Lawful.isChain_versions (h : Lawful c past) (hf : ∀ P ∈ c.founding, 1 ≤ P.threshold)
    (id : Text) :
    (versions past id).IsChain fun new old => Evolves (replay c.founding past) old new := by
  induction past with
  | nil => exact .nil
  | cons e past ih =>
    have older := (ih h.1).imp fun _ _ ho => ho.after e.event
    obtain ⟨i, e⟩ := e
    cases e with
    | wrote b new =>
      rw [versions_wrote]
      by_cases hid : new.id = id
      · rw [if_pos hid]
        refine older.cons fun old hold => ?_
        rw [h.1.head?_versions, ← hid] at hold
        cases b with
        | none =>
          rw [h.2.1] at hold
          cases hold
        | some before =>
          obtain ⟨hbefore, hc⟩ := h.2
          rw [hbefore] at hold
          cases hold
          obtain ⟨P, hP⟩ := h.1.backed (mem_written_of_proposal? hbefore)
          have ht := h.1.threshold_pos hf P (List.mem_of_find?_eq_some hP.policy_eq)
          exact (hc.evolves hP ht).after (.wrote (some old) new)
      · rw [if_neg hid]
        exact older
    | _ => exact older

/-- The committed versions of a proposal lead one by one to the stored one. -/
theorem Reachable.versions_evolve (h : Reachable rules (.any []) w) (id : Text) :
    (versions w.chronicle id).head? = w.store.proposal? id ∧
      (versions w.chronicle id).IsChain fun new old => Evolves w.store old new := by
  rw [h.store_eq]
  exact ⟨h.lawful.head?_versions id, h.lawful.isChain_versions (by simp [Conditions.any]) id⟩

theorem OneOfTwo.three_versions : (versions world.chronicle (letter 'Q')).length = 3 ∧
    (versions world.chronicle (letter 'Q')).head? = world.store.proposal? (letter 'Q') ∧
    (versions world.chronicle (letter 'Q')).IsChain fun new old => Evolves world.store old new := by
  have hw : Reachable OneOfTwo.rules (.any []) world := reachable (fun _ _ => trivial) rfl
  exact ⟨by decide +kernel, Reachable.versions_evolve hw (letter 'Q')⟩

end QuorumGate
