import QuorumGate.Proofs.Calendar
import QuorumGate.Proofs.Concurrency.Operations
import QuorumGate.Proofs.PolicyDrafts

/-!
# Records of a lawful chronicle

What is true of every version of a proposal that was ever committed: under which policy it stands,
who has signed it, who created it, and what its stage says of it. Each is one invariant, kept by the
four changes.
-/

namespace QuorumGate

variable {c : Conditions} {past : Chronicle} {i : Nat} {p q old new : Proposal} {id : Text}

/-- The signatures of a record are counted under its policy. -/
structure Backed (c : Conditions) (past : Chronicle) (p : Proposal) (P : Policy) : Prop where
  policy_eq : (replay c.founding past).policy? p.policyId = some P
  members : ∀ s ∈ p.signatures, s.signer ∈ P.signers
  distinct : (p.signatures.map (·.signer)).Nodup
  quorum : p.status = .executed → P.threshold ≤ p.signatures.length
  stage : 1 ≤ P.threshold → p.status.isTerminal = false → p.status = p.quorumStatus P

namespace Backed

variable {P Q : Policy}

theorem later (h : Backed c past p P) (e : Entry) : Backed c (e :: past) p P :=
  { h with policy_eq := Store.policy?_after e.event h.policy_eq }

theorem change (h : Backed c past old P) (hc : Change c past i old new) : Backed c past new P := by
  cases hc with
  | signed s call policy_eq still_open member unsigned =>
    obtain rfl := Option.some.inj (h.policy_eq.symm.trans policy_eq)
    refine ⟨h.policy_eq, ?_, ?_, ?_, fun _ _ => rfl⟩
    · intro t ht
      rcases List.mem_append.1 ht with ht | ht
      · exact h.members t ht
      · rw [List.mem_singleton.1 ht]
        exact member
    · have hnew : s.signer ∉ old.signatures.map (·.signer) := by
        intro hs
        obtain ⟨t, ht, hts⟩ := List.mem_map.1 hs
        rw [Proposal.hasSigned, List.any_eq_false] at unsigned
        exact unsigned t ht (by simpa using hts)
      show ((old.signatures ++ [s]).map (·.signer)).Nodup
      rw [List.map_append, List.nodup_append]
      refine ⟨h.distinct, by simp, ?_⟩
      intro a ha b hb
      rw [List.map_singleton, List.mem_singleton] at hb
      rintro rfl
      exact hnew (hb ▸ ha)
    · exact fun he => absurd he (Status.ne_of_isTerminal (Proposal.isTerminal_quorumStatus P _) rfl)
  | expired =>
    exact ⟨h.policy_eq, h.members, h.distinct, fun he => (by cases he),
      fun _ ho => (by cases ho)⟩
  | claimed call policy_eq still_open quorum =>
    obtain rfl := Option.some.inj (h.policy_eq.symm.trans policy_eq)
    exact ⟨h.policy_eq, h.members, h.distinct, fun _ => quorum, fun _ ho => by cases ho⟩
  | recorded => exact ⟨h.policy_eq, h.members, h.distinct, h.quorum, h.stage⟩

end Backed

theorem Lawful.backed (h : Lawful c past) (hp : p ∈ written past) : ∃ P, Backed c past p P := by
  refine h.version_induction (motive := fun past p => ∃ P, Backed c past p P) ?_ ?_ ?_ hp
  · intro past i p _ hc
    cases hc with
    | @created draft correlation id P t expiresAt call policy_eq =>
      have hid : P.id = draft.policyId := Store.id_eq_of_policy? policy_eq
      refine ⟨P, ?_, by simp [ProposalDraft.toProposal], List.nodup_nil,
        fun he => (by cases he), ?_⟩
      · exact Store.policy?_after _ (hid ▸ policy_eq)
      · intro ht _
        have hq : ¬P.threshold ≤ 0 := by omega
        simp [ProposalDraft.toProposal, Proposal.quorumStatus, hq]
  · rintro past i old new _ _ hc ⟨P, hP⟩
    exact ⟨P, (hP.change hc).later _⟩
  · rintro e past p ⟨P, hP⟩
    exact ⟨P, hP.later e⟩

/-- A signature that one has put on a proposal by a call of one's own. -/
def SignedBy (past : Chronicle) (id : Text) (s : Signature) : Prop :=
  ∃ i request correlation old new, ⟨i, .began (.sign id request correlation)⟩ ∈ past ∧
    s.signer = request.signer.strip ∧ s.data = request.data ∧
    ⟨i, .wrote (some old) new⟩ ∈ past ∧ new.id = id ∧ new.signatures = old.signatures ++ [s]

theorem SignedBy.later {s : Signature} (h : SignedBy past id s) (e : Entry) :
    SignedBy (e :: past) id s := by
  obtain ⟨i, request, correlation, old, new, hb, hs, hd, hw, hid, hnew⟩ := h
  exact ⟨i, request, correlation, old, new, List.mem_cons_of_mem e hb, hs, hd,
    List.mem_cons_of_mem e hw, hid, hnew⟩

theorem Lawful.signedBy (h : Lawful c past) (hp : p ∈ written past) :
    ∀ s ∈ p.signatures, SignedBy past p.id s := by
  refine h.version_induction (motive := fun past p => ∀ s ∈ p.signatures, SignedBy past p.id s)
    ?_ ?_ (fun e past p hm s hs => (hm s hs).later e) hp
  · intro past i p _ hc
    cases hc
    simp [ProposalDraft.toProposal]
  · intro past i old new _ _ hc ih t ht
    have older : t ∈ old.signatures → SignedBy (⟨i, .wrote (some old) new⟩ :: past) new.id t := by
      intro hold
      rw [hc.id_eq]
      exact (ih t hold).later _
    cases hc with
    | @signed policy request correlation s call policy_eq still_open member unsigned signer_eq
        data_eq =>
      rcases List.mem_append.1 ht with ht | ht
      · exact older ht
      · obtain rfl := List.mem_singleton.1 ht
        exact ⟨i, request, correlation, old, _, List.mem_cons_of_mem _ call, signer_eq, data_eq,
          List.mem_cons_self, rfl, rfl⟩
    | _ => exact older ht

/-- A proposal stands for what its creator has asked for. -/
def CreatedBy (past : Chronicle) (p : Proposal) : Prop :=
  ∃ i draft correlation first, ⟨i, .began (.createProposal draft correlation)⟩ ∈ past ∧
    ⟨i, .wrote none first⟩ ∈ past ∧ first.id = p.id ∧
    p.contractId = draft.contractId.strip ∧ p.wasmHash = draft.wasmHash.strip.lower ∧
    p.network = draft.network

theorem CreatedBy.later (h : CreatedBy past p) (e : Entry) : CreatedBy (e :: past) p := by
  obtain ⟨i, draft, correlation, first, hb, hw, hp⟩ := h
  exact ⟨i, draft, correlation, first, List.mem_cons_of_mem e hb, List.mem_cons_of_mem e hw, hp⟩

theorem CreatedBy.of_origin (h : CreatedBy past p) (ho : q.origin = p.origin) :
    CreatedBy past q := by
  obtain ⟨hid, -, -, hc, hw, hn, -⟩ := Proposal.origin_eq_iff.1 ho
  rw [CreatedBy, hid, hc, hw, hn]
  exact h

theorem Lawful.createdBy (h : Lawful c past) (hp : p ∈ written past) : CreatedBy past p := by
  refine h.version_induction (motive := CreatedBy) ?_ ?_ (fun e _ _ hm => hm.later e) hp
  · intro past i p _ hc
    cases hc with
    | @created draft correlation id P t expiresAt call =>
      exact ⟨i, draft, correlation, _, List.mem_cons_of_mem _ call, List.mem_cons_self, rfl, rfl,
        rfl, rfl⟩
  · intro past i old new _ _ hc ih
    exact (ih.of_origin hc.origin_eq).later _

/-- A stored record is found by its id. -/
theorem Lawful.proposal?_of_mem (h : Lawful c past) (hp : p ∈ (replay c.founding past).proposals) :
    (replay c.founding past).proposal? p.id = some p := by
  induction past with
  | nil => cases hp
  | cons e past ih =>
    obtain ⟨i, e⟩ := e
    cases e with
    | wrote b q =>
      rw [h.proposal?_wrote]
      by_cases hid : q.id = p.id
      · rw [if_pos hid]
        cases b with
        | none =>
          rcases List.mem_append.1 hp with hp | hp
          · have hnone := h.2.1
            rw [hid, ih h.1 hp] at hnone
            cases hnone
          · rw [List.mem_singleton.1 hp]
        | some old =>
          obtain ⟨r, -, hr⟩ := List.mem_map.1 hp
          split at hr
          · rw [hr]
          · rename_i hne
            rw [← hr] at hid
            exact absurd (beq_iff_eq.2 hid.symm) hne
      · rw [if_neg hid]
        refine ih h.1 ?_
        cases b with
        | none =>
          rcases List.mem_append.1 hp with hp | hp
          · exact hp
          · exact absurd (congrArg Proposal.id (List.mem_singleton.1 hp)).symm hid
        | some old =>
          obtain ⟨r, hr, hrp⟩ := List.mem_map.1 hp
          split at hrp
          · exact absurd (congrArg Proposal.id hrp) hid
          · exact hrp ▸ hr
    | _ => exact ih h.1 hp

/-! ## Stages -/

theorem PolicyDraft.threshold_pos {d : PolicyDraft} (h : d.objection? = none) :
    1 ≤ d.threshold := (objection?_eq_none_iff.1 h).threshold.1

/-- What holds of all policies that stand up to the checks holds of those in a store, if it holds of
those that the store was founded with. -/
theorem Lawful.policies_induction {motive : Policy → Prop} (h : Lawful c past)
    (founding : ∀ P ∈ c.founding, motive P)
    (filed : ∀ d : PolicyDraft, d.objection? = none → ∀ id t, motive (d.toPolicy id t)) :
    ∀ P ∈ (replay c.founding past).policies, motive P := by
  induction past with
  | nil => exact founding
  | cons e past ih =>
    obtain ⟨i, e⟩ := e
    obtain ⟨h, allowed⟩ := h
    cases e with
    | filed Q =>
      intro P hP
      rcases List.mem_append.1 hP with hP | hP
      · exact ih h P hP
      · rw [List.mem_singleton.1 hP]
        cases allowed with
        | filed call sound => exact filed _ sound _ _
    | wrote b p => cases b <;> exact ih h
    | _ => exact ih h

/-- Policies of a store ask for one signature at least, if those that it was founded with do. -/
theorem Lawful.threshold_pos (h : Lawful c past) (hf : ∀ P ∈ c.founding, 1 ≤ P.threshold) :
    ∀ P ∈ (replay c.founding past).policies, 1 ≤ P.threshold :=
  h.policies_induction hf fun _ sound _ _ => PolicyDraft.threshold_pos sound

/-- A record is written as expired only by the change that expires it. -/
theorem Change.of_expired (h : Change c past i old new)
    (expired : new.status = .expired) :
    new = Store.committed (old.withStatus .expired) old.version ∧ old.status.isTerminal = false ∧
      ∃ t, ⟨i, .saw t⟩ ∈ past ∧ old.isExpired t = .ok true := by
  cases h with
  | @signed P =>
    exact absurd expired (Status.ne_of_isTerminal (Proposal.isTerminal_quorumStatus P _) rfl)
  | expired still_open seen overdue => exact ⟨rfl, still_open, _, seen, overdue⟩
  | claimed => cases expired
  | recorded executed =>
    have same : old.status = .expired := expired
    rw [executed] at same
    cases same

/-- Some call has seen the window of an expired record closed. -/
theorem Lawful.expired_seen (h : Lawful c past) (hp : p ∈ written past) :
    p.status = .expired → ∃ j t, ⟨j, .saw t⟩ ∈ past ∧ p.isExpired t = .ok true := by
  refine h.version_induction (motive := fun past p => p.status = .expired →
    ∃ j t, ⟨j, .saw t⟩ ∈ past ∧ p.isExpired t = .ok true) ?_ ?_ ?_ hp
  · intro past i p _ hc he
    cases hc
    cases he
  · intro past i old new _ _ hc ih he
    obtain ⟨rfl, -, t, seen, overdue⟩ := hc.of_expired he
    exact ⟨i, t, List.mem_cons_of_mem _ seen, overdue⟩
  · intro e past p ih he
    obtain ⟨j, t, seen, overdue⟩ := ih he
    exact ⟨j, t, List.mem_cons_of_mem e seen, overdue⟩

theorem Policy.isAware_expiryAt {P : Policy} {now t : Instant}
    (h : P.expiryAt now = .ok (some t)) : t.isAware = now.isAware :=
  congrArg Option.isSome ((Policy.ticks_expiryAt h).2 t rfl)

/-- The end of a window can be compared with a time that some call has seen. -/
theorem Lawful.expiry_seen (h : Lawful c past) (hp : p ∈ written past) :
    ∀ t, p.expiresAt = some t → ∃ j s, ⟨j, .saw s⟩ ∈ past ∧ t.isAware = s.isAware := by
  refine h.version_induction (motive := fun past p => ∀ t, p.expiresAt = some t →
    ∃ j s, ⟨j, .saw s⟩ ∈ past ∧ t.isAware = s.isAware) ?_ ?_ ?_ hp
  · intro past i p _ hc t ht
    cases hc with
    | @created draft correlation id P now expiresAt call policy_eq sound seen window =>
      obtain rfl : expiresAt = some t := ht
      exact ⟨i, now, List.mem_cons_of_mem _ seen, Policy.isAware_expiryAt window⟩
  · intro past i old new _ _ hc ih t ht
    obtain ⟨-, -, -, -, -, -, -, -, -, he⟩ := Proposal.origin_eq_iff.1 hc.origin_eq
    obtain ⟨j, s, seen, same⟩ := ih t (he ▸ ht)
    exact ⟨j, s, List.mem_cons_of_mem _ seen, same⟩
  · intro e past p ih t ht
    obtain ⟨j, s, seen, same⟩ := ih t ht
    exact ⟨j, s, List.mem_cons_of_mem e seen, same⟩

/-- Some call to execute a proposal has had its claim committed. -/
def ClaimCommitted (past : Chronicle) (id : Text) : Prop :=
  ∃ i requested correlation q execution t,
    ⟨i, .began (.execute id requested correlation)⟩ ∈ past ∧ q.id = id ∧
    ⟨i, .wrote (some q) (Store.committed (q.claim execution t) q.version)⟩ ∈ past

theorem ClaimCommitted.later (h : ClaimCommitted past id) (e : Entry) :
    ClaimCommitted (e :: past) id := by
  obtain ⟨i, requested, correlation, q, execution, t, hb, hid, hw⟩ := h
  exact ⟨i, requested, correlation, q, execution, t, List.mem_cons_of_mem e hb, hid,
    List.mem_cons_of_mem e hw⟩

/-- A record is executed exactly if a claim on it has been committed. -/
theorem Lawful.claimCommitted_iff (h : Lawful c past)
    (hp : (replay c.founding past).proposal? id = some p) :
    ClaimCommitted past id ↔ p.status = .executed := by
  constructor
  · rintro ⟨i, requested, correlation, q, execution, t, -, hid, hw⟩
    obtain ⟨r, hr, hd⟩ := h.descends (mem_written.2 ⟨i, _, hw⟩)
    have hqid : (Store.committed (q.claim execution t) q.version).id = id := hid
    rw [hqid, hp] at hr
    cases hr
    exact (hd.executed rfl).1
  · obtain rfl := Store.id_eq_of_proposal? hp
    refine h.version_induction
      (motive := fun past p => p.status = .executed → ClaimCommitted past p.id) ?_ ?_
      (fun e past p hm he => (hm he).later e) (mem_written_of_proposal? hp)
    · intro past i p _ hc he
      cases hc
      cases he
    · intro past i old new _ _ hc ih he
      cases hc with
      | @signed P =>
        exact absurd he (Status.ne_of_isTerminal (Proposal.isTerminal_quorumStatus P _) rfl)
      | expired => cases he
      | @claimed P requested correlation execution t now call =>
        exact ⟨i, requested, correlation, old, execution, now, List.mem_cons_of_mem _ call, rfl,
          List.mem_cons_self⟩
      | recorded executed => exact (ih executed).later _

end QuorumGate
