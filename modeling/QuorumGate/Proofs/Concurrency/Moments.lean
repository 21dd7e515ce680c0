import QuorumGate.Proofs.Concurrency.Expiry

/-!
# The moments of a proposal

A record bears the times at which it was created, signed, claimed and finished. Each is put on it by
a call that has looked at the clock when the record was stored as it was before. So the clock orders
the moments as the record does, however long a call has waited before its write was committed.
-/

namespace QuorumGate

namespace Proposal

/-- The times of its creation, of its signatures and of its claim. -/
def stamps (p : Proposal) : List Instant :=
  p.createdAt :: p.signatures.map (·.signedAt) ++ p.executedAt.toList

/-- All times that a record bears, in the order of what has happened to it. -/
def moments (p : Proposal) : List Instant :=
  p.stamps ++ (p.execution.bind (·.finishedAt)).toList

end Proposal

variable {c : Conditions} {past : Chronicle} {i : Nat} {p q old new : Proposal} {t : Instant}

/-- A record bears the time of its claim exactly if it is executed. -/
theorem Lawful.executedAt_iff (h : Lawful c past) (hp : p ∈ written past) :
    p.status = .executed ↔ ∃ t, p.executedAt = some t := by
  refine h.version_induction
    (motive := fun _ p => p.status = .executed ↔ ∃ t, p.executedAt = some t) ?_ ?_
    (fun _ _ _ hm => hm) hp
  · intro past i p _ hc
    cases hc
    simp [ProposalDraft.toProposal]
  · intro past i old new _ _ hc ih
    have unclaimed : old.status.isTerminal = false → ¬∃ t, old.executedAt = some t :=
      fun still_open claimed => Status.ne_of_isTerminal still_open rfl (ih.2 claimed)
    cases hc with
    | @signed P _ _ s _ _ still_open =>
      have hne : (old.sign s).quorumStatus P ≠ .executed :=
        Status.ne_of_isTerminal (Proposal.isTerminal_quorumStatus P _) rfl
      exact iff_of_false hne (unclaimed still_open)
    | expired still_open =>
      have hne : Status.expired ≠ .executed := by decide
      exact iff_of_false hne (unclaimed still_open)
    | @claimed _ _ _ _ _ now => exact iff_of_true rfl ⟨now, rfl⟩
    | recorded => exact ih

/-- A change leaves the moments as they are, or adds one. An outcome that was recorded before is
replaced. -/
theorem Change.moments_cases (h : Lawful c past) (known : old ∈ written past)
    (hc : Change c past i old new) :
    new.moments = old.moments ∨
    (∃ t, new.moments = old.moments ++ [t] ∧ Looked past i old t) ∨
    (old.status = .executed ∧ ∃ x : Execution, x.FinishedAfter past i old ∧
      new.moments = old.stamps ++ x.finishedAt.toList) := by
  have bare : old.status.isTerminal = false → old.executedAt = none ∧ old.execution = none := by
    intro still_open
    refine ⟨?_, h.execution_eq_none known still_open⟩
    rw [Option.eq_none_iff_forall_ne_some]
    intro t ht
    exact Status.ne_of_isTerminal still_open rfl ((h.executedAt_iff known).2 ⟨t, ht⟩)
  cases hc with
  | signed s _ _ still_open _ _ _ _ _ _ stamped =>
    obtain ⟨unclaimed, unheld⟩ := bare still_open
    refine .inr (.inl ⟨s.signedAt, ?_, stamped⟩)
    simp [Proposal.moments, Proposal.stamps, Store.committed, Proposal.withStatus, Proposal.sign,
      unclaimed, unheld]
  | expired => exact .inl rfl
  | @claimed _ _ _ _ _ now _ _ still_open _ _ _ _ stamped =>
    obtain ⟨unclaimed, unheld⟩ := bare still_open
    refine .inr (.inl ⟨now, ?_, stamped⟩)
    simp [Proposal.moments, Proposal.stamps, Store.committed, Proposal.claim, Execution.started,
      unclaimed, unheld]
  | @recorded x _ executed _ _ _ _ stamped => exact .inr (.inr ⟨executed, x, stamped, rfl⟩)

/-- Each moment of a record was seen on the clock. -/
theorem Lawful.moments_seen (h : Lawful c past) (hp : p ∈ written past) :
    ∀ m ∈ p.moments, ∃ j, ⟨j, .saw m⟩ ∈ past := by
  have older : ∀ e (past : Chronicle) m, (∃ j, ⟨j, .saw m⟩ ∈ past) →
      ∃ j, ⟨j, .saw m⟩ ∈ e :: past :=
    fun e past m ⟨j, seen⟩ => ⟨j, List.mem_cons_of_mem e seen⟩
  refine h.version_induction
    (motive := fun past p => ∀ m ∈ p.moments, ∃ j, ⟨j, .saw m⟩ ∈ past) ?_ ?_ ?_ hp
  · intro past i p _ hc m hm
    cases hc with
    | created _ _ _ seen =>
      obtain rfl := List.mem_singleton.1 hm
      exact ⟨i, List.mem_cons_of_mem _ seen⟩
  · intro past i old new hlaw known hc ih m hm
    apply older
    rcases hc.moments_cases hlaw known with same | ⟨t, added, stamped⟩ | ⟨-, x, stamped, replaced⟩
    · rw [same] at hm
      exact ih m hm
    · rw [added] at hm
      rcases List.mem_append.1 hm with hm | hm
      · exact ih m hm
      · obtain rfl := List.mem_singleton.1 hm
        exact ⟨i, stamped.saw⟩
    · rw [replaced] at hm
      rcases List.mem_append.1 hm with hm | hm
      · exact ih m (List.mem_append_left _ hm)
      · obtain ⟨q, -, looked⟩ := stamped m (Option.mem_toList.1 hm)
        exact ⟨i, looked.saw⟩
  · exact fun e past p ih m hm => older e past m (ih m hm)

/-- Whoever looks at the clock for the next stamp of a record sees a time after all of its
moments. -/
theorem Looked.later_moments (looked : Looked past i p t) (h : Lawful c past) :
    ∀ m ∈ p.moments, c.later m t := by
  intro m hm
  obtain ⟨older, ⟨news, rfl⟩, known⟩ := looked
  have hl : Lawful c (⟨i, .saw t⟩ :: older) := h.of_append
  obtain ⟨j, seen⟩ := hl.1.moments_seen known m hm
  exact hl.2 j m seen

/-- The moments of a record are in the order of the clock. -/
theorem Lawful.moments_ordered (h : Lawful c past) (hp : p ∈ written past) :
    p.moments.Pairwise c.later := by
  refine h.version_induction (motive := fun _ p => p.moments.Pairwise c.later) ?_ ?_
    (fun _ _ _ hm => hm) hp
  · intro past i p _ hc
    cases hc
    exact List.pairwise_singleton _ _
  · intro past i old new hlaw known hc ih
    rcases hc.moments_cases hlaw known with same | ⟨t, added, stamped⟩ |
      ⟨executed, x, stamped, replaced⟩
    · rw [same]
      exact ih
    · rw [added, List.pairwise_append]
      refine ⟨ih, List.pairwise_singleton _ _, fun m hm t' ht => ?_⟩
      obtain rfl := List.mem_singleton.1 ht
      exact stamped.later_moments hlaw m hm
    · have stamps : old.stamps.Pairwise c.later := ih.sublist (List.sublist_append_left _ _)
      have single : x.finishedAt.toList.Pairwise c.later := by
        cases x.finishedAt with
        | none => exact List.Pairwise.nil
        | some u => exact List.pairwise_singleton _ _
      rw [replaced, List.pairwise_append]
      refine ⟨stamps, single, fun m hm t ht => ?_⟩
      -- The end comes after the claim, and the claim after all that was before it.
      obtain ⟨u, hu⟩ := (hlaw.executedAt_iff known).1 executed
      obtain ⟨q, same, looked⟩ := stamped t (Option.mem_toList.1 ht)
      have bears : u ∈ q.moments := by
        simp [Proposal.moments, Proposal.stamps, same, hu]
      have claimed := looked.later_moments hlaw u bears
      rw [Proposal.stamps, hu] at stamps hm
      rcases List.mem_append.1 hm with hm | hm
      · have before := (List.pairwise_append.1 stamps).2.2 m hm u (List.mem_singleton.2 rfl)
        exact c.later_trans before claimed
      · exact List.mem_singleton.1 hm ▸ claimed

/-- A signature was put on a record within its window. -/
theorem Lawful.signed_in_window (h : Lawful c past) (hp : p ∈ written past) :
    ∀ s ∈ p.signatures, p.isExpired s.signedAt = .ok false := by
  refine h.version_induction
    (motive := fun _ p => ∀ s ∈ p.signatures, p.isExpired s.signedAt = .ok false) ?_ ?_
    (fun _ _ _ hm => hm) hp
  · intro past i p _ hc s hs
    cases hc
    cases hs
  · intro past i old new _ _ hc ih s hs
    rw [Proposal.isExpired_of_origin hc.origin_eq]
    cases hc with
    | signed t _ _ _ _ _ _ _ _ _ _ in_window =>
      rcases List.mem_append.1 hs with hs | hs
      · exact ih s hs
      · exact List.mem_singleton.1 hs ▸ in_window
    | _ => exact ih s hs

/-- The window of a proposal is the one that its policy gives it from its creation on. -/
theorem Lawful.window (h : Lawful c past) (hp : p ∈ written past) :
    ∃ P, (replay c.founding past).policy? p.policyId = some P ∧
      P.expiryAt p.createdAt = .ok p.expiresAt := by
  refine h.version_induction (motive := fun past p =>
    ∃ P, (replay c.founding past).policy? p.policyId = some P ∧
      P.expiryAt p.createdAt = .ok p.expiresAt) ?_ ?_ ?_ hp
  · intro past i p _ hc
    cases hc with
    | created call policy_eq sound seen window =>
      have hid := Store.id_eq_of_policy? policy_eq
      exact ⟨_, Store.policy?_after _ (hid ▸ policy_eq), window⟩
  · rintro past i old new _ _ hc ⟨P, policy_eq, window⟩
    obtain ⟨-, policyId, -, -, -, -, -, -, createdAt, expiresAt⟩ :=
      Proposal.origin_eq_iff.1 hc.origin_eq
    rw [policyId, createdAt, expiresAt]
    exact ⟨P, Store.policy?_after _ policy_eq, window⟩
  · rintro e past p ⟨P, policy_eq, window⟩
    exact ⟨P, Store.policy?_after e.event policy_eq, window⟩

end QuorumGate
