import QuorumGate.Proofs.ProposalDrafts
import QuorumGate.Proofs.Sequential.Alone
import QuorumGate.Proofs.Sequential.Sweeps

/-!
# Proposals made alone

A draft under a policy that is stored becomes a proposal, or it is refused for what is wrong with
the draft itself and leaves nothing behind.
-/

namespace QuorumGate

section Acceptance

variable {env : Surroundings} {rules : ExecutionRules} {now : Instant} {ids : Nat → Text}
  {draft : ProposalDraft} {P : Policy} {s : Store} {correlation : Text}

/-- The proposal is the draft with the blanks around its names gone, its hash in lower case and a
window as long as the policy says, and nobody has signed it. -/
structure Proposal.IsMadeOf (p : Proposal) (draft : ProposalDraft) (P : Policy) (now : Instant)
    (id : Text) : Prop where
  id : p.id = id
  policyId : p.policyId = P.id
  contractName : p.contractName = draft.contractName.strip
  contractId : p.contractId = draft.contractId.strip
  network : p.network = draft.network
  proposer : p.proposer = draft.proposer.strip
  description : p.description = draft.description
  wasmHash : ∃ cs, draft.wasmHash.strip.SpellsDigest cs ∧
    p.wasmHash = .ofList (cs.map Char.toLower)
  digest : ∃ ds, p.wasmHash = .ofList ds ∧ ds.length = 64 ∧ ∀ d ∈ ds, d ∈ Text.lowerDigits
  createdAt : p.createdAt = now
  window : p.expiresAt.map Instant.ticks = P.expirySeconds.map (now.ticks + · * microsPerSecond)
  offset : ∀ t, p.expiresAt = some t → t.offset = now.offset
  stage : p.status = .pending ∧ p.version = 1
  untouched : p.signatures = [] ∧ p.executedAt = none ∧ p.execution = none

namespace ProposalDraft

/-- Nothing but the draft itself can stand in its way: its policy is stored, the identifier is free,
and a window that begins now ends in the calendar. -/
structure Ready (draft : ProposalDraft) (s : Store) (P : Policy) (now : Instant) (id : Text) :
    Prop where
  policy : s.policy? draft.policyId = some P
  free : s.proposal? id = none
  ends : P.EndsInCalendar now

theorem IsAcceptable.isMadeOf (h : draft.IsAcceptable) {expiresAt : Option Instant}
    (window : P.expiryAt now = .ok expiresAt) (id : Text) :
    ((draft.under P).toProposal id now expiresAt).IsMadeOf draft P now id := by
  obtain ⟨ticks, offset⟩ := Policy.ticks_expiryAt window
  obtain ⟨cs, spells⟩ := h.wasmHash
  have lowered : draft.wasmHash.strip.lower = .ofList (cs.map Char.toLower) := by
    rw [spells.spelled, Text.lower_digits spells.digits]
  refine ⟨rfl, rfl, rfl, rfl, rfl, rfl, rfl, ⟨cs, spells, lowered⟩, ?_, rfl, ticks, offset,
    ⟨rfl, rfl⟩, rfl, rfl, rfl⟩
  exact Text.isLowerDigest_iff.1 (Text.isLowerDigest_lower_iff.2 ⟨cs, spells⟩)

/-- What signers sign is the same for drafts that match. -/
theorem Matches.payload_eq {draft' : ProposalDraft} {P' : Policy} {now' : Instant} {id id' : Text}
    {p p' : Proposal} (h : draft.Matches draft') (same : P'.id = P.id)
    (made : p.IsMadeOf draft P now id) (made' : p'.IsMadeOf draft' P' now' id') :
    p'.payload = p.payload := by
  have hash : p'.wasmHash = p.wasmHash := by
    obtain ⟨cs, spells, lowered⟩ := made.wasmHash
    obtain ⟨cs', spells', lowered'⟩ := made'.wasmHash
    rw [lowered, lowered', ← Text.lower_digits spells.digits, ← Text.lower_digits spells'.digits,
      ← spells.spelled, ← spells'.spelled]
    exact Text.lower_eq_of_sameLetters h.wasmHash
  have contract : p'.contractId = p.contractId := by
    rw [made'.contractId, made.contractId, h.contractId]
  have network : p'.network = p.network := by
    rw [made'.network, made.network, h.network]
  have policy : p'.policyId = p.policyId := by
    rw [made'.policyId, made.policyId, same]
  rw [Proposal.payload, Proposal.payload, Proposal.payloadMembers, Proposal.payloadMembers, hash,
    contract, network, policy]

theorem Ready.accepted (ready : draft.Ready s P now (ids 0)) (h : draft.IsAcceptable) :
    ∃ p, ((Call.createProposal draft correlation).alone env rules now ids s).1 = .ok p ∧
      ((Call.createProposal draft correlation).alone env rules now ids s).2.store =
        { s with proposals := s.proposals ++ [p] } ∧ p.IsMadeOf draft P now (ids 0) := by
  obtain ⟨expiresAt, window⟩ := Policy.exists_expiryAt ready.ends
  have sound : (draft.under P).check = .ok () :=
    check_eq_ok_iff.2 (objection?_normalized_eq_none_iff.2 h)
  let x : Occasion := ⟨.createProposal draft correlation, fun _ => now, ids⟩
  let p := (draft.under P).toProposal (ids 0) now expiresAt
  have free : s.proposal? p.id = none := ready.free
  have made : (Call.createProposal draft correlation).alone env rules now ids s =
      (.ok p, ⟨{ s with proposals := s.proposals ++ [p] }, 1, 1, []⟩) :=
    (Occasion.run_create (x := x) (d := ⟨s, 0, 0, []⟩) ready.policy sound window).trans
      (Occasion.run_place (x := x) (d := ⟨s, 1, 1, []⟩) free)
  rw [made]
  exact ⟨p, rfl, rfl, h.isMadeOf window (ids 0)⟩

theorem Ready.refused {id : Text} (ready : draft.Ready s P now id) (h : ¬draft.IsAcceptable) :
    ∃ r : Rejection, r.kind = .invalidProposal ∧
      ((Call.createProposal draft correlation).alone env rules now ids s).1 =
        .error (.rejected r) ∧
      ((Call.createProposal draft correlation).alone env rules now ids s).2.store = s := by
  cases objects : (draft.under P).objection? with
  | none => exact absurd (objection?_normalized_eq_none_iff.1 objects) h
  | some r =>
    have refused : (draft.under P).check = .error r := by
      rw [check, objects]
    have ended : (Call.createProposal draft correlation).alone env rules now ids s = _ :=
      Occasion.run_create_refused (d := ⟨s, 0, 0, []⟩) ready.policy refused
    rw [ended]
    exact ⟨r, kind_of_objection? objects, rfl, rfl⟩

/-- A draft that nothing else stands in the way of is accepted exactly if it breaks no rule, and
what is stored then is made of it. Otherwise it is refused as a proposal, and nothing is stored. No
hash that is read from a body is refused. Drafts that differ by blanks around their texts and the
case of the hash are accepted alike, and their signers sign the same. -/
theorem accepted_exactly (env : Surroundings) (rules : ExecutionRules) (correlation : Text)
    (ready : draft.Ready s P now (ids 0)) :
    let outcome := (Call.createProposal draft correlation).alone env rules now ids s
    ((∃ p, outcome.1 = .ok p) ↔ draft.IsAcceptable) ∧
      (∀ p, outcome.1 = .ok p → p.IsMadeOf draft P now (ids 0) ∧
        outcome.2.store = { s with proposals := s.proposals ++ [p] }) ∧
      (∀ e, outcome.1 = .error e →
        (∃ r, e = .rejected r ∧ r.kind = .invalidProposal) ∧ outcome.2.store = s) ∧
      (∀ body supply n d, (ofJson body supply n).1 = .ok d →
        ∃ cs, d.wasmHash.strip.SpellsDigest cs) ∧
      ∀ draft', draft.Matches draft' → (draft'.IsAcceptable ↔ draft.IsAcceptable) ∧
        ∀ p, outcome.1 = .ok p → ∀ env' rules' correlation' s' P' now' ids',
          draft'.Ready s' P' now' (ids' 0) → ∃ p',
            ((Call.createProposal draft' correlation').alone env' rules' now' ids' s').1 = .ok p' ∧
              p'.payload = p.payload := by
  intro outcome
  have settled : (draft.IsAcceptable ∧ ∃ p, outcome.1 = .ok p ∧
        outcome.2.store = { s with proposals := s.proposals ++ [p] } ∧
        p.IsMadeOf draft P now (ids 0)) ∨
      ¬draft.IsAcceptable ∧ ∃ r : Rejection, r.kind = .invalidProposal ∧
        outcome.1 = .error (.rejected r) ∧ outcome.2.store = s := by
    by_cases h : draft.IsAcceptable
    · exact .inl ⟨h, ready.accepted h⟩
    · exact .inr ⟨h, ready.refused h⟩
  have read : ∀ body supply n d, (ofJson body supply n).1 = .ok d →
      ∃ cs, d.wasmHash.strip.SpellsDigest cs := by
    intro body supply n d hread
    obtain ⟨cs, spells⟩ := spellsDigest_of_ofJson hread
    exact ⟨cs, spells.strip⟩
  rcases settled with ⟨h, p, made, stored, isMade⟩ | ⟨h, r, kind, refused, left⟩
  · rw [made]
    refine ⟨⟨fun _ => h, fun _ => ⟨p, rfl⟩⟩, ?_, fun e he => (nomatch he), read,
      fun draft' hd => ⟨hd.isAcceptable_iff, ?_⟩⟩
    · rintro _ ⟨⟩
      exact ⟨isMade, stored⟩
    · rintro _ ⟨⟩ env' rules' correlation' s' P' now' ids' ready'
      obtain ⟨p', made', -, isMade'⟩ := ready'.accepted (hd.isAcceptable_iff.2 h)
      refine ⟨p', made', hd.payload_eq ?_ isMade isMade'⟩
      rw [Store.id_eq_of_policy? ready'.policy, Store.id_eq_of_policy? ready.policy, hd.policyId]
  · rw [refused]
    refine ⟨⟨fun ⟨p, hp⟩ => (nomatch hp), fun ok => absurd ok h⟩, fun p hp => (nomatch hp), ?_,
      read, fun draft' hd => ⟨hd.isAcceptable_iff, fun p hp => (nomatch hp)⟩⟩
    rintro _ ⟨⟩
    exact ⟨⟨r, rfl, kind⟩, left⟩

end ProposalDraft

end Acceptance

namespace OneOfTwo

/-- A hash of capital letters is stored in small ones, the same hash in small letters and with
blanks around it leads to the same payload, and a blank proposer is refused. -/
theorem capitals_accepted :
    let P := { policy with expirySeconds := some 60 }.toPolicy (letter 'P') start
    let s : Store := ⟨[P], []⟩
    let ids : Nat → Text := fun _ => letter 'Q'
    let padded : ProposalDraft := { draft with
      wasmHash := ⟨[.char ' '] ++ List.replicate 64 (.char 'a') ++ [.char '\n']⟩ }
    let nobody : ProposalDraft := { draft with proposer := letter ' ' }
    (∃ p p',
      ((Call.createProposal draft (letter 'r')).alone obliging rules start ids s).1 = .ok p ∧
        p.IsMadeOf draft P start (letter 'Q') ∧
        ((Call.createProposal padded (letter 'r')).alone obliging rules (minute 1) ids s).1 =
          .ok p' ∧ p'.payload = p.payload) ∧
      ∃ r, ((Call.createProposal nobody (letter 'r')).alone obliging rules start ids s).1 =
        .error (.rejected r) ∧ r.kind = .invalidProposal := by
  intro P s ids padded nobody
  have lasts : ∀ now, now = start ∨ now = minute 1 → P.EndsInCalendar now := by
    rintro _ (rfl | rfl) n ⟨⟩ <;> decide +kernel
  have ready : ∀ d : ProposalDraft, d.policyId = letter 'P' → ∀ now, now = start ∨ now = minute 1 →
      d.Ready s P now (ids 0) := by
    intro d hd now hnow
    refine ⟨?_, rfl, lasts now hnow⟩
    rw [hd]
    decide +kernel
  have acceptable : draft.IsAcceptable := by
    refine ⟨by decide, by decide, by decide, List.replicate 64 'A', by decide +kernel, rfl,
      fun c hc => ?_⟩
    rw [List.eq_of_mem_replicate hc]
    decide
  have matching : draft.Matches padded :=
    ⟨rfl, rfl, rfl, rfl, rfl, by unfold Text.SameLetters; decide +kernel⟩
  obtain ⟨iff_accepted, made, -, -, others⟩ :=
    ProposalDraft.accepted_exactly obliging rules (letter 'r') (ready draft rfl start (.inl rfl))
  obtain ⟨p, hp⟩ := iff_accepted.2 acceptable
  obtain ⟨p', hp', same⟩ := (others padded matching).2 p hp obliging rules (letter 'r') s P
    (minute 1) ids (ready padded rfl (minute 1) (.inr rfl))
  refine ⟨⟨p, p', hp, (made p hp).1, hp', same⟩, ?_⟩
  obtain ⟨iff_accepted, -, refused, -, -⟩ :=
    ProposalDraft.accepted_exactly obliging rules (letter 'r') (ready nobody rfl start (.inl rfl))
  cases ended : ((Call.createProposal nobody (letter 'r')).alone obliging rules start ids s).1 with
  | ok q => exact absurd (iff_accepted.1 ⟨q, ended⟩).proposer (by decide)
  | error e =>
    obtain ⟨⟨r, rfl, kind⟩, -⟩ := refused e ended
    exact ⟨r, rfl, kind⟩

end OneOfTwo

end QuorumGate
